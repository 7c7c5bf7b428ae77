import Usbmuxd.Proofs.PacketLayout
import Usbmuxd.Proofs.Walk

/-! # What serving one connection leaves alone

A scope is a device, a connection of it and the client behind that connection, or only the device for
a packet that belongs to none. The functions that serve a connection stay within its scope: all other
records keep their values and their places, and what goes out to the device carries the ports of the
scope. This is so for every deed whose reach is the scope. The teardown reaches the connection once more
through its client, and finds the same one because no other connection has that client.
-/

namespace Usbmuxd

open Frame

/-- What a packet or a poll event is about. -/
structure Scope where
  device : DevPtr
  connection : Option ConnPtr
  client : Option ClientPtr
  sport : UInt16
  dport : UInt16

/-- A TCP packet with these ports, in the form a device of this version is sent. -/
def Addressed (version : ℕ) (sport dport : UInt16) (packet : Bytes) : Prop :=
  be32At packet 0 = MuxProtocol.tcp.code ∧ be16At packet (muxHeaderSize version) = sport ∧
    be16At packet (muxHeaderSize version + 2) = dport

/-- The changes to the state of `device.c` within a scope. -/
structure MuxFrame (scope : Scope) (s s' : Mux) : Prop where
  conns : SameOff scope.connection s.conn s'.conn
  ends : ∀ c ∈ scope.connection, ∀ m' ∈ s'.conn c, ∃ m ∈ s.conn c, m.SameEnds m'
  devices : SameOff (some scope.device) s.dev s'.dev
  device : ∃ txSeq connections,
    s'.dev scope.device = { s.dev scope.device with txSeq := txSeq, connections := connections }
  members : others scope.connection (s'.dev scope.device).connections =
    others scope.connection (s.dev scope.device).connections
  deviceList : s'.deviceList = s.deviceList
  nextDev : s'.nextDev = s.nextDev
  nextDeviceId : s'.nextDeviceId = s.nextDeviceId
  nextConn : s'.nextConn = s.nextConn
  quiet : SameOff (some (s.dev scope.device).usbdev) s.txXfers s'.txXfers
  sends : ∃ more, s'.txXfers (s.dev scope.device).usbdev = s.txXfers (s.dev scope.device).usbdev ++ more ∧
    ∀ transfer ∈ more, transfer = [] ∨ Addressed (s.dev scope.device).version scope.sport scope.dport transfer

/-- The changes within a scope. -/
structure Isolated (scope : Scope) (s s' : Daemon) : Prop where
  mux : MuxFrame scope s.mux s'.mux
  clients : ClientsFrame scope.client s.clients s'.clients
  phase : s'.phase = s.phase
  workers : s'.workers = s.workers

/-- The connection of the scope is on its device, with its ports and its client, and no other
connection has this client. -/
structure InScope (scope : Scope) (s : Mux) : Prop where
  dev : ∀ c ∈ scope.connection, ∀ m ∈ s.conn c, m.dev = scope.device
  ports : ∀ c ∈ scope.connection, ∀ m ∈ s.conn c, m.sport = scope.sport ∧ m.dport = scope.dport
  owner : ∀ c ∈ scope.connection, ∀ m ∈ s.conn c, ∀ k ∈ m.client, scope.client = some k
  sole : ∀ d ∈ s.deviceList, ∀ c ∈ (s.dev d).connections, ∀ k ∈ scope.client, s.hasClient k c →
    scope.connection = some c

section Mux

variable {scope : Scope} {s s' s'' : Mux}

namespace MuxFrame

/-- Ticks, logs and faults are not looked at. -/
theorem of_same (conn : s'.conn = s.conn) (dev : s'.dev = s.dev) (deviceList : s'.deviceList = s.deviceList)
    (nextDev : s'.nextDev = s.nextDev) (nextDeviceId : s'.nextDeviceId = s.nextDeviceId)
    (nextConn : s'.nextConn = s.nextConn) (txXfers : s'.txXfers = s.txXfers) : MuxFrame scope s s' where
  conns := by rw [conn]; exact .refl _ _
  ends := by rw [conn]; exact fun c _ m present => ⟨m, present, .refl m⟩
  devices := by rw [dev]; exact .refl _ _
  device := ⟨_, _, by rw [dev]⟩
  members := by rw [dev]
  deviceList := deviceList
  nextDev := nextDev
  nextDeviceId := nextDeviceId
  nextConn := nextConn
  quiet := by rw [txXfers]; exact .refl _ _
  sends := ⟨[], by rw [txXfers, List.append_nil], by simp⟩

private theorem refl (s : Mux) : MuxFrame scope s s := .of_same rfl rfl rfl rfl rfl rfl rfl

private theorem usbdev (frame : MuxFrame scope s s') : (s'.dev scope.device).usbdev = (s.dev scope.device).usbdev := by
  obtain ⟨txSeq, connections, record⟩ := frame.device
  rw [record]

private theorem version (frame : MuxFrame scope s s') :
    (s'.dev scope.device).version = (s.dev scope.device).version := by
  obtain ⟨txSeq, connections, record⟩ := frame.device
  rw [record]

private theorem trans (first : MuxFrame scope s s') (second : MuxFrame scope s' s'') : MuxFrame scope s s'' where
  conns := first.conns.trans second.conns
  ends c named m'' present'' := by
    obtain ⟨m', present', later⟩ := second.ends c named m'' present''
    obtain ⟨m, present, earlier⟩ := first.ends c named m' present'
    exact ⟨m, present, earlier.trans later⟩
  devices := first.devices.trans second.devices
  device := by
    obtain ⟨_, _, record⟩ := first.device
    obtain ⟨txSeq, connections, record'⟩ := second.device
    exact ⟨txSeq, connections, by rw [record', record]⟩
  members := second.members.trans first.members
  deviceList := second.deviceList.trans first.deviceList
  nextDev := second.nextDev.trans first.nextDev
  nextDeviceId := second.nextDeviceId.trans first.nextDeviceId
  nextConn := second.nextConn.trans first.nextConn
  quiet := first.quiet.trans (first.usbdev ▸ second.quiet)
  sends := by
    obtain ⟨more, grown, addressed⟩ := first.sends
    obtain ⟨more', grown', addressed'⟩ := second.sends
    rw [first.usbdev, first.version] at *
    refine ⟨more ++ more', by rw [grown', grown, List.append_assoc], fun transfer member => ?_⟩
    exact (List.mem_append.mp member).elim (addressed transfer) (addressed' transfer)

/-- The connection of the scope is written. -/
theorem setConn {c : ConnPtr} (named : scope.connection = some c) {m m' : MuxConnection} (present : s.conn c = some m)
    (same : m.SameEnds m') : MuxFrame scope s (s.setConn c m') :=
  { MuxFrame.refl s with
    conns := named ▸ .update s.conn c (some m')
    ends := by
      intro c' named' m'' present''
      obtain rfl : c = c' := Option.some.inj (named.symm.trans named')
      obtain rfl : m' = m'' := by simpa [Mux.setConn] using present''
      exact ⟨m, present, same⟩ }

/-- The connection of the scope is released and taken from its device. -/
private theorem unlink {c : ConnPtr} (named : scope.connection = some c) :
    MuxFrame scope s (s.unlink c scope.device) where
  conns := named ▸ .update s.conn c none
  ends c' named' m'' present'' := by
    obtain rfl : c = c' := Option.some.inj (named.symm.trans named')
    simp [Mux.unlink, Mux.freeConn, Mux.setDev] at present''
  devices := .update s.dev _ _
  device := ⟨(s.dev scope.device).txSeq, (s.dev scope.device).connections.erase c, by
    simp [Mux.unlink, Mux.freeConn, Mux.setDev]⟩
  members := by
    simp only [Mux.unlink, Mux.freeConn, Mux.setDev, Function.update_self]
    rw [named]
    exact others_erase _ _
  deviceList := rfl
  nextDev := rfl
  nextDeviceId := rfl
  nextConn := rfl
  quiet := .refl _ _
  sends := ⟨[], by simp [Mux.unlink, Mux.freeConn, Mux.setDev], by simp⟩

end MuxFrame

/-- What is in scope stays in scope. -/
theorem InScope.kept (inside : InScope scope s) (frame : MuxFrame scope s s') : InScope scope s' where
  dev c named m' present' := by
    obtain ⟨m, present, same⟩ := frame.ends c named m' present'
    rw [same.dev]
    exact inside.dev c named m present
  ports c named m' present' := by
    obtain ⟨m, present, same⟩ := frame.ends c named m' present'
    rw [same.sport, same.dport]
    exact inside.ports c named m present
  owner c named m' present' k owned := by
    obtain ⟨m, present, same⟩ := frame.ends c named m' present'
    rcases same.client with gone | client
    · simp [gone] at owned
    · exact inside.owner c named m present k (client ▸ owned)
  sole d listed c member k named owned := by
    by_contra outside
    have elsewhere : some c ≠ scope.connection := fun same => outside same.symm
    have record := frame.conns c elsewhere
    refine outside (inside.sole d (frame.deviceList ▸ listed) c ?_ k named ?_)
    · by_cases here : d = scope.device
      · subst here
        have kept : c ∈ others scope.connection (s'.dev scope.device).connections := mem_others.mpr ⟨member, elsewhere⟩
        rw [frame.members] at kept
        exact (mem_others.mp kept).1
      · rwa [← frame.devices d (by simpa using here)]
    · rwa [Mux.hasClient, ← record]

private theorem packet_addressed (dev : MuxDevice) (th : TcpHdr) (data : Bytes) :
    Addressed dev.version th.sport th.dport (dev.packet .tcp th.encode data) := by
  set front := dev.muxHeader .tcp (muxHeaderSize dev.version + th.encode.length + data.length)
  have size : front.length = muxHeaderSize dev.version := MuxDevice.muxHeader_length ..
  have shape : dev.packet .tcp th.encode data = front ++ (be16 th.sport ++ (be16 th.dport ++ (be32 th.seq ++
      be32 th.ack ++ [th.off, th.flags] ++ be16 th.win ++ be16 th.sum ++ be16 th.urp ++ data))) := by
    simp [MuxDevice.packet, TcpHdr.encode, front]
  refine ⟨MuxDevice.packet_protocol .., ?_, ?_⟩
  · rw [shape, ← size]
    exact be16At_append _ _ _
  · rw [shape, ← List.append_assoc]
    have behind := be16At_append (front ++ be16 th.sport) (be32 th.seq ++ be32 th.ack ++ [th.off, th.flags] ++
      be16 th.win ++ be16 th.sum ++ be16 th.urp ++ data) th.dport
    rwa [List.length_append, size, be16_length] at behind

namespace MuxFrame

/-- `send_packet` for a segment with the ports of the scope. -/
theorem sendPacket (env : Env) {th : TcpHdr} (sport : th.sport = scope.sport) (dport : th.dport = scope.dport)
    (data : Bytes) : MuxFrame scope s (sendPacket env scope.device .tcp th.encode data s).2 := by
  have sized : th.encode.take 20 = th.encode := by rw [List.take_of_length_le]; simp
  simp only [Usbmuxd.sendPacket, MuxProtocol.headerLength?, MuxDevice.restart_tcp, sized]
  split
  · exact .refl s
  set dev := s.dev scope.device
  set x := if dev.unnumbered then s.fault (.uninitialisedSequence scope.device) else s with faulted
  have noted : MuxFrame scope s x := by
    rw [faulted]
    split
    · exact .of_same rfl rfl rfl rfl rfl rfl rfl
    · exact .refl s
  obtain ⟨tick, more, submission, state⟩ :=
    usbSend_submission env dev.usbdev (dev.packet .tcp th.encode data) (x.setDev scope.device dev.advance)
  have same : x.dev scope.device = dev := by
    rw [faulted]
    split <;> rfl
  have handed : MuxFrame scope x (usbSend env dev.usbdev (dev.packet .tcp th.encode data)
      (x.setDev scope.device dev.advance)).2 := by
    rw [state]
    refine { MuxFrame.refl x with
      devices := .update x.dev _ _, device := ?_, members := ?_, quiet := ?_, sends := ?_ }
    · refine ⟨dev.advance.txSeq, dev.connections, ?_⟩
      simp only [Mux.submitted, Mux.setDev, Function.update_self, same, MuxDevice.advance]
      split <;> rfl
    · simp only [Mux.submitted, Mux.setDev, Function.update_self, same, MuxDevice.advance]
      split <;> rfl
    · rw [same]
      exact .update x.txXfers _ _
    · rw [same]
      refine ⟨more, by simp [Mux.submitted, Mux.setDev], fun transfer member => ?_⟩
      rcases submission.mem member with rfl | rfl
      · exact .inr (sport ▸ dport ▸ packet_addressed dev th data)
      · exact .inl rfl
  split
  · exact noted.trans (handed.trans (.of_same rfl rfl rfl rfl rfl rfl rfl))
  · exact noted.trans (handed.trans (.of_same rfl rfl rfl rfl rfl rfl rfl))

private theorem sendTcp (env : Env) (inside : InScope scope s) {c : ConnPtr} (named : scope.connection = some c)
    (flags : UInt8)
    (data : Bytes) : MuxFrame scope s (sendTcp env c flags data s).2 := by
  rcases present : s.conn c with _ | m
  · rw [sendTcp_absent env flags data present]
    exact .of_same rfl rfl rfl rfl rfl rfl rfl
  obtain ⟨sport, dport⟩ := inside.ports c named m present
  obtain ⟨tick, m', stored, state⟩ := sendTcp_present env flags data present
  rw [state, inside.dev c named m present]
  have packet : MuxFrame scope s (Usbmuxd.sendPacket env scope.device .tcp (m.header flags).encode data s).2 :=
    .sendPacket env sport dport data
  have there := (sendPacket_conn env scope.device .tcp (m.header flags).encode data s).symm ▸ present
  exact packet.trans ((setConn named there stored.same.1).trans (.of_same rfl rfl rfl rfl rfl rfl rfl))

end MuxFrame

end Mux

namespace Isolated

variable {scope : Scope} {s s' s'' : Daemon}

theorem refl (s : Daemon) : Isolated scope s s := ⟨.refl _, .refl _, rfl, rfl⟩

private theorem trans (first : Isolated scope s s') (second : Isolated scope s' s'') : Isolated scope s s'' :=
  ⟨first.mux.trans second.mux, first.clients.trans second.clients, second.phase.trans first.phase,
    second.workers.trans first.workers⟩

theorem setMux {x : Mux} (frame : MuxFrame scope s.mux x) : Isolated scope s (s.setMux x) := ⟨frame, .refl _, rfl, rfl⟩

private theorem setClients {x : Clients} (frame : ClientsFrame scope.client s.clients x) :
    Isolated scope s (s.setClients x) :=
  ⟨.refl _, frame, rfl, rfl⟩

private theorem serve {k : ClientPtr} {x : Clients} (owned : scope.client = some k)
    (frame : ClientsFrame (some k) s.clients x) :
    Isolated scope s (s.setClients x) := setClients (owned ▸ frame)

/-- The connection of the scope is written. -/
theorem store {c : ConnPtr} {m : MuxConnection} (named : scope.connection = some c) (present : s.mux.conn c = some m)
    (m' : MuxConnection) (same : m.SameEnds m') : Isolated scope s (s.setMux (s.mux.setConn c m')) :=
  setMux (.setConn named present same)

/-- The same, with an entry in its log. -/
theorem storeLog {c : ConnPtr} {m : MuxConnection} (named : scope.connection = some c) (present : s.mux.conn c = some m)
    (m' : MuxConnection) (event : ConnEvent) (same : m.SameEnds m') :
    Isolated scope s (s.setMux ((s.mux.setConn c m').logConn c event)) :=
  setMux ((MuxFrame.setConn named present same).trans (.of_same rfl rfl rfl rfl rfl rfl rfl))

private theorem fault (fault : MuxFault) : Isolated scope s (s.setMux (s.mux.fault fault)) :=
  setMux (.of_same rfl rfl rfl rfl rfl rfl rfl)

end Isolated

/-- The scope as the reach of a walk. -/
def Scope.reach (scope : Scope) : Reach where
  conns c := scope.connection = some c
  clients k := scope.client = some k
  opens _ _ := False
  own := False

private theorem InScope.within {scope : Scope} {s : Mux} (inside : InScope scope s) : Within scope.reach s where
  owner c m k named present owner := inside.owner c named m present k owner
  sole d listed c member k named owned := inside.sole d listed c member k named owned

section Serving

variable {scope : Scope} (env : Env) {s s' : Daemon} {c : ConnPtr} {k : ClientPtr}

private theorem closing_isolated (inside : InScope scope s.mux) (named : scope.connection = some c) {m : MuxConnection}
    (present : s.mux.conn c = some m) : Isolated scope s (s.closing env c m) := by
  obtain ⟨m', -, present', closing⟩ := closing_eq env present
  have reset : Isolated scope s (s.resetting env c m) := by
    rw [Daemon.resetting]
    split
    · exact .setMux (.sendTcp env inside named _ _)
    · exact .refl s
  rw [closing]
  exact reset.trans (.store named present' _ ⟨rfl, rfl, rfl, .inr rfl⟩)

variable {env} in
private theorem Deeds.isolated (deeds : Deeds env scope.reach s s') (inside : InScope scope s.mux) :
    Isolated scope s s' := by
  induction deeds with
  | refl s => exact .refl s
  | unseen _ tick tick' faults faults' ih =>
    exact (ih inside).trans ⟨.of_same rfl rfl rfl rfl rfl rfl rfl, .of_same rfl rfl rfl rfl rfl, rfl, rfl⟩
  | stored _ named present ends ending ih => exact (ih inside).trans (.store named present _ ends)
  | noted _ named note ih => exact (ih inside).trans (.setMux (.of_same rfl rfl rfl rfl rfl rfl rfl))
  | segment _ named data other ih =>
    have first := ih inside
    exact first.trans (.setMux (.sendTcp env (inside.kept first.mux) named _ data))
  | handed _ named present owner delivers buffer ih =>
    have first := ih inside
    have owned : scope.client = some _ := (inside.kept first.mux).owner _ named _ present _ owner
    exact first.trans ⟨.of_same rfl rfl rfl rfl rfl rfl rfl, owned ▸ .clientWrite env _ buffer _, rfl, rfl⟩
  | served _ owned serves ih => exact (ih inside).trans (.serve owned serves.toClientsFrame)
  | torn _ named present alive middle ih ih' =>
    have first := ih inside
    have inside₁ := inside.kept first.mux
    have closed := closing_isolated env inside₁ named present
    rw [inside₁.dev _ named _ present]
    exact (first.trans closed).trans ((ih' (inside₁.kept closed.mux)).trans (.setMux (.unlink named)))
  | opened _ wide | discarded _ wide | device _ wide | logged _ wide | packet _ wide => exact wide.own.elim

variable {env} in
theorem Does.isolated (does : Does env scope.reach s s') (inside : InScope scope s.mux) : Isolated scope s s' :=
  (does inside.within).isolated inside

private theorem Arrival.isolated {th : TcpHdr} {payload : Bytes} (arrival : Arrival c th payload s s')
    (named : scope.connection = some c) : Isolated scope s s' := by
  cases arrival with
  | absent => exact .fault _
  | noted present => exact .storeLog named present _ _ ⟨rfl, rfl, rfl, .inr rfl⟩
  | reset present reset marks => exact .storeLog named present _ _ ⟨rfl, rfl, rfl, .inr rfl⟩
  | @accepted m present flags =>
    have stored : Isolated scope s (s.setMux ((s.mux.setConn c ((m.receive th).accept payload)).logConn c
        (.rx (m.receive th).rxAck (m.receive th).rxWin))) := .storeLog named present _ _ ⟨rfl, rfl, rfl, .inr rfl⟩
    exact stored.trans (.setMux (.of_same rfl rfl rfl rfl rfl rfl rfl))

/-- `device_tcp_input` for a segment of the connection of the scope. -/
theorem connectionInput_isolated (named : scope.connection = some c) (inside : InScope scope s.mux) (th : TcpHdr)
    (payload : Bytes) : Isolated scope s (connectionInput env c th payload s) := by
  obtain ⟨s₁, arrival, does, -⟩ := @connectionInput_does env scope.reach s c named th payload
  have arrived := arrival.isolated named
  exact arrived.trans (does.isolated (inside.kept arrived.mux))

end Serving

end Usbmuxd
