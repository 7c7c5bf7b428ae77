import Usbmuxd.ToMathlib.History
import Usbmuxd.Proofs.Ports
import Usbmuxd.Soundness.Sends

/-! # How long the source ports of a device last

`find_sport` hands out its counter, a 16-bit number, and zero also says that there is no port. A port is
found as long as a free one lies ahead of the counter. That is so for the first 65535 connections of a
device; then the counter has come to zero, and the next request is refused however few of them are left.
-/

namespace Usbmuxd

open History

/-- A free port lies ahead of the counter. -/
def Mux.PortAhead (s : Mux) (d : DevPtr) : Prop :=
  (s.dev d).nextSport ≠ 0 ∧ ∃ port ∉ s.sports d, (s.dev d).nextSport ≤ port

private theorem findSport_ahead {s : Mux} {d : DevPtr} (room : (s.dev d).connections.length < 65535)
    (ahead : s.PortAhead d) :
    (findSport d s).1 ≠ 0 := by
  obtain ⟨started, port, free, above⟩ := ahead
  obtain ⟨turns, search⟩ := findSport_search s d room
  have split : port = (s.dev d).nextSport + UInt16.ofNat (port.toNat - (s.dev d).nextSport.toNat) := by
    apply UInt16.toNat_inj.mp
    have below := UInt16.le_iff_toNat_le.mp above
    have small := port.toNat_lt
    rw [UInt16.toNat_add, UInt16.toNat_ofNat', Nat.mod_eq_of_lt (a := port.toNat - _) (by omega),
      Nat.mod_eq_of_lt (by omega)]
    omega
  have early : turns ≤ port.toNat - (s.dev d).nextSport.toNat := by
    by_contra late
    exact free (split ▸ search.past _ (Nat.not_le.mp late))
  have below := UInt16.le_iff_toNat_le.mp above
  have small := port.toNat_lt
  have positive : (s.dev d).nextSport.toNat ≠ 0 := fun zero => started (UInt16.toNat_inj.mp zero)
  intro zero
  have sum : ((s.dev d).nextSport + UInt16.ofNat turns).toNat = 0 := by rw [← search.found, zero]; rfl
  rw [UInt16.toNat_add, UInt16.toNat_ofNat', Nat.mod_eq_of_lt (a := turns) (by omega), Nat.mod_eq_of_lt (by omega)]
    at sum
  omega

private theorem sendTcp_taken {env : Env} (taken : ∀ n, 0 ≤ (env.usb n).submit) {c : ConnPtr} {m : MuxConnection}
    {s : Mux}
    (present : s.conn c = some m) (flags : UInt8) : 0 ≤ (sendTcp env c flags [] s).1 := by
  have handed : 0 ≤ (sendPacket env m.dev .tcp (m.header flags).encode [] s).1 := by
    have small : ¬usbMtu < muxHeaderSize (s.dev m.dev).version + 20 := by
      simp only [usbMtu, muxHeaderSize]
      split <;> simp
    rcases sendPacket_cases env m.dev .tcp (m.header flags).encode [] s with ⟨unbuilt, -⟩ | ⟨packet, -, result, more,
      tick, faults, submission, sign, -⟩
    · simp [builtPacket?, MuxProtocol.headerLength?, small] at unbuilt
    rw [← not_lt, sign]
    cases submission with
    | done => exact lt_irrefl 0
    | refused _ first => exact absurd (taken _) (Int.not_le.mpr first)
    | cut _ _ _ second => exact absurd (taken _) (Int.not_le.mpr second)
  simp only [sendTcp, present, if_pos handed]
  exact handed

private theorem deviceStartConnect_taken {env : Env} (taken : ∀ n, 0 ≤ (env.usb n).submit) {deviceId : ℕ} {d : DevPtr}
    {s : Mux}
    (known : getMuxDeviceForId deviceId s = some d) (found : (findSport d s).1 ≠ 0) (dport : UInt16) (k : ClientPtr) :
    deviceStartConnect env deviceId dport k s = (0, (sendTcp env (findSport d s).2.nextConn thSyn []
      ((findSport d s).2.allocConn (newConnection d k (findSport d s).1 dport))).2.addConnection env d
        (findSport d s).2.nextConn) := by
  have sent := sendTcp_taken taken (s := (findSport d s).2.allocConn (newConnection d k (findSport d s).1 dport))
    (Function.update_self (findSport d s).2.nextConn ..) thSyn
  simp only [deviceStartConnect, known, if_neg found, if_neg (Int.not_lt.mpr sent)]

/-- What the search for ports depends on. -/
def MuxDevice.supply (dev : MuxDevice) : ℕ × DevState × UInt16 × List ConnPtr :=
  (dev.id, dev.state, dev.nextSport, dev.connections)

/-- What a connection is. -/
def MuxConnection.ends (m : MuxConnection) : UInt16 × DevPtr × Option ClientPtr × ConnState :=
  (m.sport, m.dev, m.client, m.state)

private theorem getMuxDeviceForId_congr {s s' : Mux} (list : s'.deviceList = s.deviceList)
    (ids : ∀ d, (s'.dev d).id = (s.dev d).id)
    (deviceId : ℕ) : getMuxDeviceForId deviceId s' = getMuxDeviceForId deviceId s := by
  simp only [getMuxDeviceForId, list, ids]

/-- No port is given out and none is given back. -/
structure SamePorts (s s' : Mux) : Prop where
  list : s'.deviceList = s.deviceList
  supply : ∀ d, (s'.dev d).supply = (s.dev d).supply
  ends : ∀ c, (s'.conn c).map MuxConnection.ends = (s.conn c).map MuxConnection.ends

namespace SamePorts

variable {s s' s'' : Mux}

private theorem of_same (list : s'.deviceList = s.deviceList) (dev : s'.dev = s.dev) (conn : s'.conn = s.conn) :
    SamePorts s s' := ⟨list, fun _ => by rw [dev], fun _ => by rw [conn]⟩

private theorem trans (first : SamePorts s s') (second : SamePorts s' s'') : SamePorts s s'' :=
  ⟨second.list.trans first.list, fun d => (second.supply d).trans (first.supply d),
    fun c => (second.ends c).trans (first.ends c)⟩

private theorem connections (same : SamePorts s s') (d : DevPtr) : (s'.dev d).connections = (s.dev d).connections :=
  congrArg (fun x => x.2.2.2) (same.supply d)

private theorem nextSport (same : SamePorts s s') (d : DevPtr) : (s'.dev d).nextSport = (s.dev d).nextSport :=
  congrArg (fun x => x.2.2.1) (same.supply d)

private theorem state (same : SamePorts s s') (d : DevPtr) : (s'.dev d).state = (s.dev d).state :=
  congrArg (fun x => x.2.1) (same.supply d)

private theorem named (same : SamePorts s s') (deviceId : ℕ) : getMuxDeviceForId deviceId s' =
    getMuxDeviceForId deviceId s := by
  exact getMuxDeviceForId_congr same.list (fun d => congrArg Prod.fst (same.supply d)) deviceId

private theorem sports (same : SamePorts s s') (d : DevPtr) : s'.sports d = s.sports d := by
  have ports (c : ConnPtr) : (s'.conn c).map MuxConnection.sport = (s.conn c).map MuxConnection.sport := by
    simpa only [Option.map_map, Function.comp_def, MuxConnection.ends] using congrArg (Option.map Prod.fst)
      (same.ends c)
  simp only [Mux.sports, same.connections d, ports]

private theorem touch (d : DevPtr) : SamePorts s (s.touchConnections d) := by
  simp only [Mux.touchConnections]
  split <;> exact .of_same rfl rfl rfl

private theorem touchNamed (deviceId : ℕ) : SamePorts s (touchNamed deviceId s) := by
  simp only [Usbmuxd.touchNamed]
  split
  · exact .of_same rfl rfl rfl
  · exact .touch _

private theorem sendPacket (env : Env) (d : DevPtr) (proto : MuxProtocol) (header data : Bytes) :
    SamePorts s (sendPacket env d proto header data s).2 := by
  obtain ⟨tick, rxSeq, txSeq, transfers, events, faults, state, -⟩ := sendPacket_state env d proto header data s
  rw [state]
  exact ⟨rfl, Update.same MuxDevice.supply rfl, fun _ => rfl⟩

private theorem sendTcp (env : Env) (c : ConnPtr) (flags : UInt8) (data : Bytes) :
    SamePorts s (sendTcp env c flags data s).2 := by
  simp only [Usbmuxd.sendTcp]
  split
  · exact .of_same rfl rfl rfl
  next m present =>
  have sent : SamePorts s (Usbmuxd.sendPacket env m.dev .tcp (m.header flags).encode data s).2 := .sendPacket ..
  have record := sendPacket_conn env m.dev .tcp (m.header flags).encode data s
  generalize Usbmuxd.sendPacket env m.dev .tcp (m.header flags).encode data s = r at sent record
  split
  · refine sent.trans ⟨rfl, fun _ => rfl, fun c' => ?_⟩
    by_cases same : c' = c
    · subst same
      simp [Mux.bump, Mux.setConn, record, present, MuxConnection.ends, MuxConnection.acked]
    · simp [Mux.bump, Mux.setConn, Mux.logConn, same]
  · exact sent.trans (.of_same rfl rfl rfl)

end SamePorts

/-- A connection is opened with the given port and client. -/
structure NewPort (d : DevPtr) (c : ConnPtr) (slot : ℕ) (port : UInt16) (k : ClientPtr) (s s' : Mux) : Prop where
  list : s'.deviceList = s.deviceList
  ids : ∀ e, (s'.dev e).id = (s.dev e).id
  state : (s'.dev d).state = (s.dev d).state
  connections : (s'.dev d).connections = Collection.add slot c (s.dev d).connections
  new : ∃ m, s'.conn c = some m ∧ m.ends = (port, d, some k, .connecting)
  old : ∀ c', c' ≠ c → (s'.conn c').map MuxConnection.ends = (s.conn c').map MuxConnection.ends

private theorem newPort_of_sendTcp (env : Env) (x : Mux) (d : DevPtr) (k : ClientPtr) (port dport : UInt16) :
    let y := (sendTcp env x.nextConn thSyn [] (x.allocConn (newConnection d k port dport))).2.addConnection env d
      x.nextConn
    ∃ slot, NewPort d x.nextConn slot port k x y ∧ (y.dev d).nextSport = (x.dev d).nextSport := by
  have sent : SamePorts (x.allocConn (newConnection d k port dport))
    (sendTcp env x.nextConn thSyn [] (x.allocConn (newConnection d k port dport))).2 := .sendTcp ..
  generalize (sendTcp env x.nextConn thSyn [] (x.allocConn (newConnection d k port dport))).2 = y at sent
  have new : (y.conn x.nextConn).map MuxConnection.ends = some (port, d, some k, .connecting) := by
    rw [sent.ends]
    simp [Mux.allocConn, Mux.setConn, newConnection, MuxConnection.ends]
  refine ⟨(env.usb y.tick).slot, ⟨sent.list, fun e => ?_, ?_, ?_, Option.map_eq_some_iff.mp new, fun c' other => ?_⟩,
    ?_⟩
  · have same : (y.dev e).id = (x.dev e).id := congrArg Prod.fst (sent.supply e)
    by_cases here : e = d
    · subst here
      simp [Mux.addConnection, Mux.bump, Mux.setDev, same]
    · simp [Mux.addConnection, Mux.bump, Mux.setDev, here, same]
  · have same : (y.dev d).state = (x.dev d).state := sent.state d
    simp [Mux.addConnection, Mux.bump, Mux.setDev, same]
  · have same : (y.dev d).connections = (x.dev d).connections := sent.connections d
    simp [Mux.addConnection, Mux.bump, Mux.setDev, same]
  · refine (sent.ends c').trans ?_
    simp [Mux.allocConn, Mux.setConn, other]
  · have same : (y.dev d).nextSport = (x.dev d).nextSport := sent.nextSport d
    simp [Mux.addConnection, Mux.bump, Mux.setDev, same]

private theorem NewPort.counted {d : DevPtr} {c : ConnPtr} {slot : ℕ} {port next : UInt16} {k : ClientPtr}
    {s t s' : Mux}
    (same : SamePorts s t) (opens : NewPort d c slot port k (t.setDev d { t.dev d with nextSport := next }) s') :
    NewPort d c slot port k s s' := by
  have own : (t.setDev d { t.dev d with nextSport := next }).dev d = { t.dev d with nextSport := next } :=
    Function.update_self ..
  refine ⟨opens.list.trans same.list, fun e => (opens.ids e).trans ?_, ?_, ?_, opens.new, fun c' other => ?_⟩
  · have before : (t.dev e).id = (s.dev e).id := congrArg Prod.fst (same.supply e)
    by_cases here : e = d
    · subst here
      rw [own, before]
    · simp [Mux.setDev, here, before]
  · rw [opens.state, own, same.state d]
  · rw [opens.connections, own, same.connections d]
  · exact (opens.old c' other).trans (same.ends c')

private theorem connectionTeardownWith_ports (close : ClientPtr → Daemon → Daemon) (env : Env) {c : ConnPtr}
    {m : MuxConnection}
    {s : Daemon} (present : s.mux.conn c = some m) (noClient : m.client = none) (alive : m.state ≠ .dead) :
    ∃ y, SamePorts s.mux y ∧ (connectionTeardownWith close env c s).mux = y.unlink c m.dev := by
  simp only [connectionTeardownWith, present, noClient, if_neg alive]
  by_cases sends : m.sendsRst (s.mux.dev m.dev)
  · rw [if_pos sends]
    exact ⟨_, .sendTcp .., rfl⟩
  · rw [if_neg sends]
    exact ⟨_, .of_same rfl rfl rfl, rfl⟩

/-- The calls that open and close the connections of a device. -/
inductive PortCall where
  /-- `device_start_connect`. -/
  | connect (k : ClientPtr) (dport : UInt16)
  /-- `device_abort_connect`. -/
  | disconnect (k : ClientPtr)

def PortCall.connects : PortCall → Bool
  | connect .. => true
  | disconnect _ => false

def portStep (env : Env) (deviceId : ℕ) (s : Daemon) : PortCall → Daemon
  | .connect k dport => s.setMux (deviceStartConnect env deviceId dport k s.mux).2
  | .disconnect k => deviceAbortConnect env deviceId k s

/-- The state after some calls. -/
def portRun (env : Env) (deviceId : ℕ) (s : Daemon) (calls : List PortCall) : Daemon :=
  calls.foldl (portStep env deviceId) s

/-- The device has given out the ports up to `n`, one after another. -/
structure GivenOut (deviceId : ℕ) (d : DevPtr) (n : ℕ) (s : Mux) : Prop where
  known : getMuxDeviceForId deviceId s = some d
  counter : (s.dev d).nextSport = UInt16.ofNat (n + 1)
  few : (s.dev d).connections.length ≤ n
  ports : ∀ port ∈ s.sports d, port.toNat ≤ n

private theorem port_toNat {n : ℕ} (left : n < 65535) : (UInt16.ofNat (n + 1)).toNat = n + 1 := by
  apply UInt16.toNat_ofNat_of_lt'
  rw [UInt16.size]
  omega

namespace GivenOut

variable {env : Env} {deviceId n : ℕ} {d : DevPtr} {s s' : Mux}

private theorem same (given : GivenOut deviceId d n s) (same : SamePorts s s') : GivenOut deviceId d n s' where
  known := (same.named deviceId).trans given.known
  counter := (same.nextSport d).trans given.counter
  few := by rw [same.connections d]; exact given.few
  ports := by rw [same.sports d]; exact given.ports

private theorem ahead (given : GivenOut deviceId d n s) (left : n < 65535) : s.PortAhead d := by
  have value := port_toNat left
  refine ⟨fun zero => ?_, UInt16.ofNat (n + 1), fun member => ?_, given.counter ▸ UInt16.le_refl _⟩
  · rw [given.counter] at zero
    rw [zero] at value
    simp at value
  · have bound := given.ports _ member
    omega

private theorem findSport (given : GivenOut deviceId d n s) (left : n < 65535) :
    findSport d s = (UInt16.ofNat (n + 1), (s.touchConnections d).setDev d { (s.touchConnections d).dev d with
      nextSport := UInt16.ofNat (n + 1 + 1) }) := by
  have touched := given.same (.touch d)
  have free : UInt16.ofNat (n + 1) ∉ (s.touchConnections d).sports d := fun member => by
    have bound := touched.ports _ member
    rw [port_toNat left] at bound
    omega
  have room : ¬65535 ≤ ((s.touchConnections d).dev d).connections.length := by
    have few := touched.few
    omega
  have next : UInt16.ofNat (n + 1 + 1) = UInt16.ofNat (n + 1) + 1 := UInt16.ofNat_add ..
  simp only [Usbmuxd.findSport, if_neg room, Mux.used_iff, touched.counter, probe, free, decide_false,
    Bool.false_eq_true, if_false, next]

private theorem opened {slot : ℕ} {c : ConnPtr} {k : ClientPtr} (given : GivenOut deviceId d n s) (left : n < 65535)
    (opens : NewPort d c slot (UInt16.ofNat (n + 1)) k s s')
    (counter : (s'.dev d).nextSport = UInt16.ofNat (n + 1 + 1)) :
    GivenOut deviceId d (n + 1) s' := by
  refine ⟨(getMuxDeviceForId_congr opens.list opens.ids deviceId).trans given.known, counter, ?_, fun port member => ?_⟩
  · rw [opens.connections, (Collection.add_perm ..).length_eq]
    exact Nat.succ_le_succ given.few
  · obtain ⟨c', held, m, record, rfl⟩ := Mux.mem_sports.mp member
    by_cases own : c' = c
    · subst own
      obtain ⟨m', record', ends⟩ := opens.new
      obtain rfl := Option.some.inj (record.symm.trans record')
      rw [show m.sport = UInt16.ofNat (n + 1) from congrArg Prod.fst ends, port_toNat left]
    · rw [opens.connections, Collection.mem_add] at held
      have same := opens.old c' own
      rw [record, Option.map_some] at same
      obtain ⟨m', record', equal⟩ := Option.map_eq_some_iff.mp same.symm
      have before : m.sport ∈ s.sports d :=
        Mux.mem_sports.mpr ⟨c', held.resolve_left own, m', record', congrArg Prod.fst equal⟩
      exact Nat.le_succ_of_le (given.ports m.sport before)

private theorem connect (taken : ∀ n, 0 ≤ (env.usb n).submit) (given : GivenOut deviceId d n s) (left : n < 65535)
    (dport : UInt16) (k : ClientPtr) :
    (deviceStartConnect env deviceId dport k s).1 = 0 ∧
      GivenOut deviceId d (n + 1) (deviceStartConnect env deviceId dport k s).2 ∧
      ∃ c slot, NewPort d c slot (UInt16.ofNat (n + 1)) k s (deviceStartConnect env deviceId dport k s).2 := by
  have positive : (Usbmuxd.findSport d s).1 ≠ 0 := findSport_ahead (by have few := given.few; omega) (given.ahead left)
  rw [deviceStartConnect_taken taken given.known positive dport k, given.findSport left]
  obtain ⟨slot, opens, counter⟩ := newPort_of_sendTcp env ((s.touchConnections d).setDev d
    { (s.touchConnections d).dev d with nextSport := UInt16.ofNat (n + 1 + 1) }) d k (UInt16.ofNat (n + 1)) dport
  have whole := opens.counted (.touch d)
  refine ⟨rfl, given.opened left whole (counter.trans ?_), _, slot, whole⟩
  simp [Mux.setDev]

private theorem setConn {c : ConnPtr} {m : MuxConnection} (given : GivenOut deviceId d n s)
    (present : s.conn c = some m)
    (m' : MuxConnection) (sport : m'.sport = m.sport) : GivenOut deviceId d n (s.setConn c m') := by
  refine ⟨given.known, given.counter, given.few, fun port member => given.ports port ?_⟩
  obtain ⟨c', held, m₁, record, rfl⟩ := Mux.mem_sports.mp member
  by_cases own : c' = c
  · subst own
    obtain rfl : m' = m₁ := by simpa [Mux.setConn] using record
    exact Mux.mem_sports.mpr ⟨c', held, m, present, sport.symm⟩
  · exact Mux.mem_sports.mpr ⟨c', held, m₁, by simpa [Mux.setConn, own] using record, rfl⟩

private theorem unlink (given : GivenOut deviceId d n s) (c : ConnPtr) (e : DevPtr) :
    GivenOut deviceId d n (s.unlink c e) := by
  have dev (e' : DevPtr) : ((s.unlink c e).dev e').id = (s.dev e').id ∧
      ((s.unlink c e).dev e').nextSport = (s.dev e').nextSport ∧
      ((s.unlink c e).dev e').connections.Sublist (s.dev e').connections := by
    by_cases here : e' = e
    · subst here
      simp [Mux.unlink, Mux.setDev, List.erase_sublist]
    · simp [Mux.unlink, Mux.setDev, Mux.freeConn, here]
  obtain ⟨-, counter, fewer⟩ := dev d
  have list : (s.unlink c e).deviceList = s.deviceList := rfl
  have named := getMuxDeviceForId_congr list (fun e' => (dev e').1) deviceId
  refine ⟨named.trans given.known, counter.trans given.counter, fewer.length_le.trans given.few,
    fun port member => given.ports port ?_⟩
  obtain ⟨c', held, m, record, rfl⟩ := Mux.mem_sports.mp member
  have present : s.conn c' = some m := by
    by_cases own : c' = c
    · simp [Mux.unlink, Mux.setDev, Mux.freeConn, own] at record
    · simpa [Mux.unlink, Mux.setDev, Mux.freeConn, own] using record
  exact Mux.mem_sports.mpr ⟨c', fewer.subset held, m, present, rfl⟩

private theorem disconnect {s : Daemon} (given : GivenOut deviceId d n s.mux) (k : ClientPtr) :
    GivenOut deviceId d n (deviceAbortConnect env deviceId k s).mux := by
  have touched := given.same (.touchNamed deviceId)
  simp only [deviceAbortConnect]
  split
  · exact touched
  next c _ =>
  split
  · exact touched.same (.of_same rfl rfl rfl)
  next m present =>
  have detached := touched.setConn present { m with client := none } rfl
  have record : ((Usbmuxd.touchNamed deviceId s.mux).setConn c { m with client := none }).conn c =
      some { m with client := none } := Function.update_self ..
  by_cases dead : m.state = .dead
  · simp only [connectionTeardownWith, Daemon.setMux, record, if_pos dead]
    exact detached
  · obtain ⟨y, same, torn⟩ := connectionTeardownWith_ports (fun _ s => s) env
      (s := s.setMux ((Usbmuxd.touchNamed deviceId s.mux).setConn c { m with client := none })) record rfl dead
    exact torn ▸ (detached.same same).unlink c m.dev

/-- In a run with at most 65535 connections every one of them gets a port. -/
private theorem run (taken : ∀ n, 0 ≤ (env.usb n).submit) {s : Daemon} (given : GivenOut deviceId d n s.mux)
    {calls : List PortCall} (few : n + calls.countP PortCall.connects ≤ 65535) :
    GivenOut deviceId d (n + calls.countP PortCall.connects) (portRun env deviceId s calls).mux ∧
      Each (fun before call => ∀ k dport, call = .connect k dport →
        (deviceStartConnect env deviceId dport k (portRun env deviceId s before).mux).1 = 0) calls := by
  induction calls using List.reverseRecOn with
  | nil => exact ⟨given, each_nil _⟩
  | append_singleton before call ih =>
    rw [List.countP_append] at few ⊢
    obtain ⟨counted, succeeded⟩ := ih (by omega)
    have last : portRun env deviceId s (before ++ [call]) = portStep env deviceId (portRun env deviceId s before)
      call := by
      rw [portRun, List.foldl_append]
      rfl
    rw [last]
    cases call with
    | connect k dport =>
      have one : [PortCall.connect k dport].countP PortCall.connects = 1 := rfl
      rw [one] at few ⊢
      obtain ⟨zero, next, -⟩ := counted.connect taken (by omega) dport k
      refine ⟨next, each_snoc succeeded fun k' dport' same => ?_⟩
      obtain ⟨rfl, rfl⟩ := PortCall.connect.inj same
      exact zero
    | disconnect k => exact ⟨counted.disconnect k, each_snoc succeeded fun _ _ same => by cases same⟩

end GivenOut

/-- A connect succeeds whenever a free port lies ahead of the counter of its device. A device that was just
added finds ports for 65535 connections in a row, whichever of them are closed meanwhile. -/
theorem free_port_found (env : Env) (taken : ∀ n, 0 ≤ (env.usb n).submit) (deviceId : ℕ) (d : DevPtr) :
    (∀ (s : Mux) (dport : UInt16) (k : ClientPtr), getMuxDeviceForId deviceId s = some d →
      (s.dev d).connections.length < 65535 → s.PortAhead d →
      (findSport d s).1 ≠ 0 ∧ (deviceStartConnect env deviceId dport k s).1 = 0) ∧
    ∀ (s : Daemon) (calls : List PortCall), getMuxDeviceForId deviceId s.mux = some d → (s.mux.dev d).nextSport = 1 →
      (s.mux.dev d).connections = [] → calls.countP PortCall.connects ≤ 65535 →
      Each (fun before call => ∀ k dport, call = .connect k dport →
        (deviceStartConnect env deviceId dport k (portRun env deviceId s before).mux).1 = 0) calls := by
  refine ⟨fun s dport k known room ahead => ?_, fun s calls known counter empty few => ?_⟩
  · have found := findSport_ahead room ahead
    exact ⟨found, by rw [deviceStartConnect_taken taken known found]⟩
  · have given : GivenOut deviceId d 0 s.mux :=
      ⟨known, counter, by simp [empty], fun port member => by simp [Mux.sports, empty] at member⟩
    exact (given.run taken (by simpa using few)).2

/-- The device of the session, after its handshake. -/
def handshaken : Daemon := run sessionEnv (session.take 2)

theorem handshaken_ports :
    (findSport 0 handshaken.mux).1 ≠ 0 ∧ (deviceStartConnect sessionEnv 1 62078 0 handshaken.mux).1 = 0 ∧
    Each (fun before call => ∀ k dport, call = .connect k dport →
      (deviceStartConnect sessionEnv 1 dport k (portRun sessionEnv 1 handshaken before).mux).1 = 0)
        [.connect 0 62078, .disconnect 0, .connect 1 62078] := by
  obtain ⟨ahead, fresh⟩ := free_port_found sessionEnv (fun _ => le_rfl) 1 0
  obtain ⟨found, connected⟩ := ahead handshaken.mux 62078 0 (by decide +kernel) (by decide +kernel)
    ⟨by decide +kernel, 1, by decide +kernel, by decide +kernel⟩
  exact ⟨found, connected, fresh handshaken _ (by decide +kernel) (by decide +kernel) (by decide +kernel) (by decide)⟩

/-- A client that connects and goes away, over and over. -/
def comings (n : ℕ) : List PortCall := (List.replicate n [.connect 0 62078, .disconnect 0]).flatten

private theorem deviceAbortConnect_only (env : Env) {deviceId : ℕ} {d : DevPtr} {c : ConnPtr} {k : ClientPtr}
    {port : UInt16}
    {m : MuxConnection} {s : Daemon} (known : getMuxDeviceForId deviceId s.mux = some d)
    (only : (s.mux.dev d).connections = [c]) (present : s.mux.conn c = some m)
    (ends : m.ends = (port, d, some k, .connecting)) :
    ((deviceAbortConnect env deviceId k s).mux.dev d).connections = [] ∧
      ((deviceAbortConnect env deviceId k s).mux.dev d).state = (s.mux.dev d).state := by
  have touched : SamePorts s.mux (touchNamed deviceId s.mux) := .touchNamed deviceId
  obtain ⟨m', record, ends'⟩ : ∃ m', (touchNamed deviceId s.mux).conn c = some m' ∧ m'.ends =
    (port, d, some k, .connecting) := by
    apply Option.map_eq_some_iff.mp
    rw [touched.ends, present, Option.map_some, ends]
  simp only [MuxConnection.ends, Prod.mk.injEq] at ends'
  obtain ⟨-, dev, client, connecting⟩ := ends'
  have found : getMuxConnection deviceId k (touchNamed deviceId s.mux) = some c := by
    rw [getMuxConnection, touched.named, known, Option.bind_some, touched.connections, only]
    simp [Mux.hasClient, record, client]
  obtain ⟨y, same, torn⟩ := connectionTeardownWith_ports (fun _ s => s) env
    (s := s.setMux ((touchNamed deviceId s.mux).setConn c { m' with client := none })) (Function.update_self ..) rfl
    (show m'.state ≠ .dead by simp [connecting])
  have mux : (deviceAbortConnect env deviceId k s).mux = y.unlink c d := by
    rw [← dev, ← torn]
    simp only [deviceAbortConnect, Daemon.setMux, found, record]
  have kept : (y.dev d).connections = [c] := by rw [same.connections, ← only, ← touched.connections]; rfl
  have state : (y.dev d).state = (s.mux.dev d).state := by rw [same.state, ← touched.state]; rfl
  rw [mux]
  simp [Mux.unlink, Mux.setDev, kept, state]

/-- After so many comings and goings no connection is left and the ports are given out. -/
private theorem comings_givenOut (env : Env) (taken : ∀ n, 0 ≤ (env.usb n).submit) {deviceId n : ℕ} {d : DevPtr}
    {s : Daemon}
    (given : GivenOut deviceId d 0 s.mux) (active : (s.mux.dev d).state = .active) (few : n ≤ 65535) :
    GivenOut deviceId d n (portRun env deviceId s (comings n)).mux ∧
      ((portRun env deviceId s (comings n)).mux.dev d).connections = [] ∧
      ((portRun env deviceId s (comings n)).mux.dev d).state = .active := by
  induction n with
  | zero => exact ⟨given, List.length_eq_zero_iff.mp (Nat.le_zero.mp given.few), active⟩
  | succ n ih =>
    obtain ⟨counted, empty, active⟩ := ih (by omega)
    have last : portRun env deviceId s (comings (n + 1)) = deviceAbortConnect env deviceId 0
        ((portRun env deviceId s (comings n)).setMux
          (deviceStartConnect env deviceId 62078 0 (portRun env deviceId s (comings n)).mux).2) := by
      rw [comings, List.replicate_succ', List.flatten_append, portRun, List.foldl_append]
      rfl
    obtain ⟨-, next, c, slot, opens⟩ := counted.connect taken (by omega) 62078 0
    obtain ⟨m, record, ends⟩ := opens.new
    have only :
        ((deviceStartConnect env deviceId 62078 0 (portRun env deviceId s (comings n)).mux).2.dev d).connections =
        [c] := by
      rw [opens.connections, empty]
      simp [Collection.add]
    obtain ⟨gone, state⟩ := deviceAbortConnect_only env (s := (portRun env deviceId s (comings n)).setMux _)
      next.known only record ends
    rw [last]
    exact ⟨next.disconnect 0, gone, state.trans (opens.state.trans active)⟩

private theorem GivenOut.used_up {deviceId : ℕ} {d : DevPtr} {s : Mux} (given : GivenOut deviceId d 65535 s)
    (empty : (s.dev d).connections = []) (env : Env) (dport : UInt16) (k : ClientPtr) :
    (Usbmuxd.findSport d s).1 = 0 ∧ (deviceStartConnect env deviceId dport k s).1 = -resultBadDev.toNat := by
  have touched : SamePorts s (s.touchConnections d) := .touch d
  have counter : ((s.touchConnections d).dev d).nextSport = 0 := (touched.nextSport d).trans given.counter
  have zero : (Usbmuxd.findSport d s).1 = 0 := by
    simp [Usbmuxd.findSport, touched.connections, empty, counter, probe]
  refine ⟨zero, ?_⟩
  simp only [deviceStartConnect, given.known, if_pos zero]

/-- The device of the session is active and without a connection, and a connect is refused. -/
theorem ports_used_up :
    ((portRun sessionEnv 1 handshaken (comings 65535)).mux.dev 0).state = .active ∧
    ((portRun sessionEnv 1 handshaken (comings 65535)).mux.dev 0).connections = [] ∧
    (findSport 0 (portRun sessionEnv 1 handshaken (comings 65535)).mux).1 = 0 ∧
    (deviceStartConnect sessionEnv 1 62078 0 (portRun sessionEnv 1 handshaken (comings 65535)).mux).1 =
      -resultBadDev.toNat := by
  have unused : handshaken.mux.sports 0 = [] := by decide +kernel
  have fresh : GivenOut 1 0 0 handshaken.mux :=
    ⟨by decide +kernel, by decide +kernel, by decide +kernel, by simp [unused]⟩
  have active : (handshaken.mux.dev 0).state = .active := by decide +kernel
  obtain ⟨given, empty, state⟩ := comings_givenOut sessionEnv (fun _ => le_rfl) fresh active (Nat.le_refl 65535)
  exact ⟨state, empty, given.used_up empty sessionEnv 62078 0⟩

end Usbmuxd
