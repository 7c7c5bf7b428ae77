import Usbmuxd.Proofs.Send
import Usbmuxd.Proofs.Served

/-! # What the daemon does, deed by deed

Everything that the daemon does with its connections is a sequence of a few deeds: it stores to a record
or notes something for it, sends a segment, hands bytes to a client, serves a client, tears a connection
down, and on its own behalf opens connections and sends packets. Each function is followed through once,
here. What a function leaves alone, what it sends and what it removes are then read off the deeds.

A walk has a reach: the connections and clients it may touch, which is how the service of one connection
is told from everything else.
-/

namespace Usbmuxd

open Collection

/-- A connection keeps its device, its ports and its client, unless it loses the client. -/
structure MuxConnection.SameEnds (m m' : MuxConnection) : Prop where
  dev : m'.dev = m.dev
  sport : m'.sport = m.sport
  dport : m'.dport = m.dport
  client : m'.client = none ∨ m'.client = m.client

/-- The connection stays on its device, and its teardown would do the same. -/
structure MuxConnection.SameEnding (m m' : MuxConnection) : Prop where
  dev : m'.dev = m.dev
  dead : m'.state = .dead ↔ m.state = .dead
  sends : ∀ dev, m'.sendsRst dev = m.sendsRst dev

/-- A record of a device is stored that is on the same USB device and has the same callback data. -/
structure MuxDevice.SameTies (dev dev' : MuxDevice) : Prop where
  usbdev : dev'.usbdev = dev.usbdev
  hook : dev'.preflightCbData = dev.preflightCbData
  dead : dev'.state = .dead ↔ dev.state = .dead

/-- What is noted for a connection apart from segments and from bytes that change hands. -/
def ConnEvent.isNote : ConnEvent → Bool
  | .rx _ _ | .synAck _ | .read _ => true
  | _ => false

/-- What is noted for a connection without bytes that come in or go to the client. -/
def ConnEvent.isPlain : ConnEvent → Bool
  | .accepted _ | .wrote _ | .flushed _ => false
  | _ => true

/-- What is noted for a device apart from packets. -/
def WireEvent.isNote : WireEvent → Bool
  | .version _ | .control _ | .dead => true
  | .sent _ | .failed _ | .received .. => false

/-- The packets that `send_packet` builds for the daemon itself. -/
def Own (proto : MuxProtocol) (header data : Bytes) : Prop :=
  proto ≠ .tcp ∨ ∃ th : TcpHdr, th.flags = thRst ∧ th.seq = 0 ∧ header = th.encode ∧ data = []

/-- `client_write` for a connection, and the note of what the socket took. -/
def Daemon.handed (env : Env) (c : ConnPtr) (k : ClientPtr) (note : Bytes → ConnEvent) (buffer : Bytes) (s : Daemon) :
    Daemon :=
  let w := clientWrite env k buffer s.clients
  let notes := if 0 < w.1 then [note (buffer.take w.1.toNat)] else []
  (s.setClients w.2).setMux
    { s.mux with connLog := Function.update s.mux.connLog c (s.mux.connLog c ++ notes) }

/-- The beginning of a teardown: the reset, if there is one, and the mark. -/
def Daemon.closing (env : Env) (c : ConnPtr) (m : MuxConnection) (s : Daemon) : Daemon :=
  let s := if m.sendsRst (s.mux.dev m.dev) then s.setMux (sendTcp env c thRst [] s.mux).2 else s
  s.setMux (s.mux.modifyConn c fun m => { m with state := .dead })

/-- What a walk may touch, when it may open a connection for a client, and whether it may act for the
daemon itself. -/
structure Reach where
  conns : ConnPtr → Prop
  clients : ClientPtr → Prop
  opens : ClientPtr → Daemon → Prop
  own : Prop

/-- The walk acts for the daemon itself, with every connection in reach. -/
structure Reach.Wide (reach : Reach) : Prop where
  conns : ∀ c, reach.conns c
  clients : ∀ k, reach.clients k
  own : reach.own

/-- A walk with everything in reach. -/
def Reach.opening (opens : ClientPtr → Daemon → Prop) : Reach := ⟨fun _ => True, fun _ => True, opens, True⟩

abbrev Reach.all : Reach := .opening fun _ _ => True

theorem Reach.opening_wide {opens : ClientPtr → Daemon → Prop} : (Reach.opening opens).Wide :=
  ⟨fun _ => trivial, fun _ => trivial, trivial⟩

theorem Reach.all_wide : Reach.all.Wide := opening_wide

/-- The deeds of a walk. -/
inductive Deeds (env : Env) (reach : Reach) : Daemon → Daemon → Prop
  | refl (s : Daemon) : Deeds env reach s s
  /-- The clocks go on, and faults are noted. -/
  | unseen {s s' : Daemon} (first : Deeds env reach s s') (tick tick' : ℕ) (faults : List MuxFault)
      (faults' : List ClientFault) :
      Deeds env reach s { s' with
        mux := { s'.mux with tick := tick, faults := faults }
        clients := { s'.clients with tick := tick', faults := faults' } }
  | stored {s s' : Daemon} (first : Deeds env reach s s') {c : ConnPtr} (reached : reach.conns c)
      {m m' : MuxConnection} (present : s'.mux.conn c = some m) (ends : m.SameEnds m') (ending : m.SameEnding m') :
      Deeds env reach s (s'.setMux (s'.mux.setConn c m'))
  | noted {s s' : Daemon} (first : Deeds env reach s s') {c : ConnPtr} (reached : reach.conns c) {event : ConnEvent}
      (note : event.isNote) : Deeds env reach s (s'.setMux (s'.mux.logConn c event))
  | segment {s s' : Daemon} (first : Deeds env reach s s') {c : ConnPtr} (reached : reach.conns c) {flags : UInt8}
      (data : Bytes) (other : flags ≠ thRst) : Deeds env reach s (s'.setMux (sendTcp env c flags data s'.mux).2)
  | handed {s s' : Daemon} (first : Deeds env reach s s') {c : ConnPtr} (reached : reach.conns c) {m : MuxConnection}
      (present : s'.mux.conn c = some m) {k : ClientPtr} (owner : m.client = some k) {note : Bytes → ConnEvent}
      (delivers : note = .wrote ∨ note = .flushed) (buffer : Bytes) :
      Deeds env reach s (s'.handed env c k note buffer)
  | served {s s' : Daemon} (first : Deeds env reach s s') {k : ClientPtr} (reached : reach.clients k) {x : Clients}
      (serves : Served k s'.clients x) : Deeds env reach s (s'.setClients x)
  /-- A connection is torn down, and deeds are done on the way. -/
  | torn {s s' x : Daemon} (first : Deeds env reach s s') {c : ConnPtr} (reached : reach.conns c) {m : MuxConnection}
      (present : s'.mux.conn c = some m) (alive : m.state ≠ .dead) (middle : Deeds env reach (s'.closing env c m) x) :
      Deeds env reach s (x.setMux (x.mux.unlink c m.dev))
  | opened {s s' : Daemon} (first : Deeds env reach s s') (wide : reach.Wide) {k : ClientPtr} (may : reach.opens k s')
      {m : MuxConnection} (owner : m.client = some k) : Deeds env reach s (s'.setMux (s'.mux.allocConn m))
  /-- A connection that was opened just now is given up. -/
  | discarded {s s' : Daemon} (first : Deeds env reach s s') (wide : reach.Wide) {c : ConnPtr}
      (fresh : s.mux.nextConn ≤ c) : Deeds env reach s (s'.setMux (s'.mux.freeConn c))
  | device {s s' : Daemon} (first : Deeds env reach s s') (wide : reach.Wide) {d : DevPtr} {dev : MuxDevice}
      (ties : (s'.mux.dev d).SameTies dev) : Deeds env reach s (s'.setMux (s'.mux.setDev d dev))
  | logged {s s' : Daemon} (first : Deeds env reach s s') (wide : reach.Wide) {d : DevPtr} {event : WireEvent}
      (note : event.isNote) : Deeds env reach s (s'.setMux (s'.mux.logDev d event))
  | packet {s s' : Daemon} (first : Deeds env reach s s') (wide : reach.Wide) (d : DevPtr) {proto : MuxProtocol}
      {header data : Bytes} (own : Own proto header data) :
      Deeds env reach s (s'.setMux (sendPacket env d proto header data s'.mux).2)

namespace MuxConnection

variable {m m' m'' : MuxConnection}

theorem SameEnds.refl (m : MuxConnection) : m.SameEnds m := ⟨rfl, rfl, rfl, .inr rfl⟩

theorem SameEnds.trans (first : m.SameEnds m') (second : m'.SameEnds m'') : m.SameEnds m'' := by
  refine ⟨second.dev.trans first.dev, second.sport.trans first.sport, second.dport.trans first.dport, ?_⟩
  rcases second.client with gone | same
  · exact .inl gone
  · rw [same]
    exact first.client

theorem SameEnding.of_state (dev : m'.dev = m.dev) (state : m'.state = m.state) : m.SameEnding m' :=
  ⟨dev, by rw [state], fun _ => by simp only [sendsRst, state]⟩

theorem SameEnding.trans (first : m.SameEnding m') (second : m'.SameEnding m'') : m.SameEnding m'' :=
  ⟨second.dev.trans first.dev, second.dead.trans first.dead, fun dev => (second.sends dev).trans (first.sends dev)⟩

/-- What `send_tcp` may do to a record. -/
def MaybeAcked (m m' : MuxConnection) : Prop := m' = m ∨ ∃ now, m' = m.acked now

theorem MaybeAcked.same (sent : m.MaybeAcked m') : m.SameEnds m' ∧ m'.client = m.client ∧ m'.state = m.state := by
  rcases sent with rfl | ⟨now, rfl⟩
  · exact ⟨.refl _, rfl, rfl⟩
  · exact ⟨⟨rfl, rfl, rfl, .inr rfl⟩, rfl, rfl⟩

end MuxConnection

section Segments

variable (env : Env) {s : Mux} {c : ConnPtr} {m : MuxConnection} (flags : UInt8) (data : Bytes)

/-- `send_tcp` on a record: a packet, the note of it, and a record that keeps its state. -/
theorem sendTcp_present (present : s.conn c = some m) :
    let r := sendPacket env m.dev .tcp (m.header flags).encode data s
    ∃ tick m', m.MaybeAcked m' ∧ (sendTcp env c flags data s).2 =
      { (r.2.logConn c (.segment (m.header flags) data r.1)).setConn c m' with tick := tick } := by
  intro r
  have untouched : r.2.conn c = some m := by rw [sendPacket_conn, present]
  simp only [sendTcp, present]
  split
  · exact ⟨_, _, .inr ⟨_, rfl⟩, rfl⟩
  · refine ⟨r.2.tick, m, .inl rfl, ?_⟩
    have same : Function.update r.2.conn c (some m) = r.2.conn := by rw [← untouched, Function.update_eq_self]
    simp only [Mux.setConn, Mux.logConn, same]
    rfl

theorem sendTcp_absent (absent : s.conn c = none) :
    (sendTcp env c flags data s).2 = s.fault (.releasedConnection c) := by
  simp only [sendTcp, absent]

/-- The record after `send_tcp`. -/
theorem sendTcp_record (present : s.conn c = some m) :
    ∃ m', (sendTcp env c flags data s).2.conn c = some m' ∧ m.MaybeAcked m' := by
  obtain ⟨tick, m', stored, state⟩ := sendTcp_present env flags data present
  exact ⟨m', by rw [state]; exact Function.update_self .., stored⟩

end Segments

section Closing

variable (env : Env) {s : Daemon} {c : ConnPtr} {m : MuxConnection}

/-- The state after the reset of a teardown. -/
def Daemon.resetting (env : Env) (c : ConnPtr) (m : MuxConnection) (s : Daemon) : Daemon :=
  if m.sendsRst (s.mux.dev m.dev) then s.setMux (sendTcp env c thRst [] s.mux).2 else s

private theorem resetting_record (present : s.mux.conn c = some m) :
    ∃ m', (s.resetting env c m).mux.conn c = some m' ∧ m.MaybeAcked m' := by
  rw [Daemon.resetting]
  split
  · exact sendTcp_record env thRst [] present
  · exact ⟨m, present, .inl rfl⟩

/-- The mark is a store to a record. -/
theorem closing_eq (present : s.mux.conn c = some m) : ∃ m', m.MaybeAcked m' ∧
    (s.resetting env c m).mux.conn c = some m' ∧ s.closing env c m =
      (s.resetting env c m).setMux ((s.resetting env c m).mux.setConn c { m' with state := .dead }) := by
  obtain ⟨m', present', sent⟩ := resetting_record env present
  refine ⟨m', sent, present', ?_⟩
  have unfolded : s.closing env c m =
    (s.resetting env c m).setMux ((s.resetting env c m).mux.modifyConn c fun m => { m with state := .dead }) := rfl
  rw [unfolded, Mux.modifyConn, present']

/-- The mark is not seen once the record is gone. -/
theorem closing_unlink (present : s.mux.conn c = some m) (x : Clients) (d : DevPtr) :
    ((s.closing env c m).setClients x).setMux ((s.closing env c m).mux.unlink c d) =
      ((s.resetting env c m).setClients x).setMux ((s.resetting env c m).mux.unlink c d) := by
  obtain ⟨m', -, -, closing⟩ := closing_eq env present
  rw [closing]
  simp [Daemon.setMux, Daemon.setClients, Mux.unlink, Mux.freeConn, Mux.setConn, Mux.setDev]

end Closing

section Walk

variable {env : Env} {reach : Reach} {s s' s'' : Daemon}

private theorem sendPacket_nextConn (env : Env) (d : DevPtr) (proto : MuxProtocol) (header data : Bytes) (s : Mux) :
    (sendPacket env d proto header data s).2.nextConn = s.nextConn := by
  obtain ⟨_, _, _, _, _, _, state, -⟩ := sendPacket_state env d proto header data s
  rw [state]

/-- A property that every change keeps which deeds are made of. A segment is a packet, a note and a store, and
a teardown stores its mark and takes the connection from its device in the end. -/
structure Stepwise (env : Env) (reach : Reach) (holds : Daemon → Prop) : Prop where
  unseen : ∀ {s : Daemon} (tick tick' : ℕ) (faults : List MuxFault) (faults' : List ClientFault), holds s →
    holds { s with
      mux := { s.mux with tick := tick, faults := faults }
      clients := { s.clients with tick := tick', faults := faults' } }
  stored : ∀ {s : Daemon} {c : ConnPtr} {m m' : MuxConnection}, reach.conns c → s.mux.conn c = some m → m.SameEnds m' →
    holds s → holds (s.setMux (s.mux.setConn c m'))
  noted : ∀ {s : Daemon} {c : ConnPtr} {event : ConnEvent}, event.isPlain → holds s →
    holds (s.setMux (s.mux.logConn c event))
  packet : ∀ {s : Daemon} (d : DevPtr) (proto : MuxProtocol) (header data : Bytes), holds s →
    holds (s.setMux (sendPacket env d proto header data s.mux).2)
  handed : ∀ {s : Daemon} {c : ConnPtr} {m : MuxConnection} {k : ClientPtr} {note : Bytes → ConnEvent} (buffer : Bytes),
    s.mux.conn c = some m → m.client = some k → (note = .wrote ∨ note = .flushed) → holds s →
    holds (s.handed env c k note buffer)
  served : ∀ {s : Daemon} {k : ClientPtr} {x : Clients}, Served k s.clients x → holds s → holds (s.setClients x)
  unlinked : ∀ {s : Daemon} {c : ConnPtr} (d : DevPtr), reach.conns c → holds s →
    holds (s.setMux (s.mux.unlink c d))
  opened : ∀ {s : Daemon} {k : ClientPtr} {m : MuxConnection}, reach.Wide → reach.opens k s → m.client = some k →
    holds s → holds (s.setMux (s.mux.allocConn m))
  discarded : ∀ {s : Daemon} (c : ConnPtr), reach.Wide → holds s → holds (s.setMux (s.mux.freeConn c))
  device : ∀ {s : Daemon} {d : DevPtr} {dev : MuxDevice}, reach.Wide → (s.mux.dev d).SameTies dev → holds s →
    holds (s.setMux (s.mux.setDev d dev))
  logged : ∀ {s : Daemon} {d : DevPtr} {event : WireEvent}, reach.Wide → event.isNote → holds s →
    holds (s.setMux (s.mux.logDev d event))

namespace Stepwise

variable {holds : Daemon → Prop} (stepwise : Stepwise env reach holds) {c : ConnPtr} (reached : reach.conns c)
include stepwise reached

private theorem segment (flags : UInt8) (data : Bytes) (start : holds s) :
    holds (s.setMux (sendTcp env c flags data s.mux).2) := by
  rcases present : s.mux.conn c with _ | m
  · rw [sendTcp_absent env flags data present]
    exact stepwise.unseen _ s.clients.tick _ s.clients.faults start
  obtain ⟨tick, m', stored, state⟩ := sendTcp_present env flags data present
  rw [state]
  have sent := stepwise.packet m.dev .tcp (m.header flags).encode data start
  have there := (sendPacket_conn env m.dev .tcp (m.header flags).encode data s.mux).symm ▸ present
  exact stepwise.unseen tick s.clients.tick _ s.clients.faults
    (stepwise.stored reached there stored.same.1 (stepwise.noted rfl sent))

theorem closing {m : MuxConnection} (present : s.mux.conn c = some m) (start : holds s) :
    holds (s.closing env c m) := by
  obtain ⟨m', -, present', closing⟩ := closing_eq env present
  have reset : holds (s.resetting env c m) := by
    rw [Daemon.resetting]
    split
    · exact stepwise.segment reached thRst [] start
    · exact start
  rw [closing]
  exact stepwise.stored reached present' ⟨rfl, rfl, rfl, .inr rfl⟩ reset

end Stepwise

theorem Deeds.preserve {holds : Daemon → Prop} (deeds : Deeds env reach s s') (stepwise : Stepwise env reach holds)
    (start : holds s) : holds s' := by
  induction deeds with
  | refl => exact start
  | unseen _ tick tick' faults faults' ih => exact stepwise.unseen tick tick' faults faults' (ih start)
  | stored _ reached present ends _ ih => exact stepwise.stored reached present ends (ih start)
  | @noted _ _ _ _ _ event note ih =>
    refine stepwise.noted ?_ (ih start)
    cases event <;> simp_all [ConnEvent.isNote, ConnEvent.isPlain]
  | segment _ reached data _ ih => exact stepwise.segment reached _ data (ih start)
  | handed _ _ present owner delivers buffer ih => exact stepwise.handed buffer present owner delivers (ih start)
  | served _ _ serves ih => exact stepwise.served serves (ih start)
  | torn _ reached present _ _ ih ih' =>
    exact stepwise.unlinked _ reached (ih' (stepwise.closing reached present (ih start)))
  | opened _ wide may owner ih => exact stepwise.opened wide may owner (ih start)
  | discarded _ wide _ ih => exact stepwise.discarded _ wide (ih start)
  | device _ wide ties ih => exact stepwise.device wide ties (ih start)
  | logged _ wide note ih => exact stepwise.logged wide note (ih start)
  | packet _ _ d _ ih => exact stepwise.packet d _ _ _ (ih start)

/-- Connections are numbered in the order in which they are opened. -/
theorem nextConn_stepwise (n : ConnPtr) : Stepwise env reach fun x => n ≤ x.mux.nextConn where
  unseen _ _ _ _ le := le
  stored _ _ _ le := le
  noted _ le := le
  packet d proto header data le := by
    rw [Daemon.setMux, sendPacket_nextConn]
    exact le
  handed _ _ _ _ le := le
  served _ le := le
  unlinked _ _ le := le
  opened _ _ _ le := Nat.le_succ_of_le le
  discarded _ _ le := le
  device _ _ le := le
  logged _ _ le := le

namespace Deeds

theorem nextConn_le (deeds : Deeds env reach s s') : s.mux.nextConn ≤ s'.mux.nextConn :=
  deeds.preserve (nextConn_stepwise _) le_rfl

private theorem trans (first : Deeds env reach s s') (second : Deeds env reach s' s'') : Deeds env reach s s'' := by
  induction second with
  | refl => exact first
  | unseen _ tick tick' faults faults' ih => exact (ih first).unseen tick tick' faults faults'
  | stored _ reached present ends ending ih => exact (ih first).stored reached present ends ending
  | noted _ reached note ih => exact (ih first).noted reached note
  | segment _ reached data other ih => exact (ih first).segment reached data other
  | handed _ reached present owner delivers buffer ih => exact (ih first).handed reached present owner delivers buffer
  | served _ reached serves ih => exact (ih first).served reached serves
  | torn _ reached present alive middle ih _ => exact (ih first).torn reached present alive middle
  | opened _ wide may owner ih => exact (ih first).opened wide may owner
  | discarded _ wide fresh ih => exact (ih first).discarded wide (first.nextConn_le.trans fresh)
  | device _ wide ties ih => exact (ih first).device wide ties
  | logged _ wide note ih => exact (ih first).logged wide note
  | packet _ wide d own ih => exact (ih first).packet wide d own

end Deeds

end Walk

/-- What `get_mux_connection` finds is a connection of a listed device. -/
theorem getMuxConnection_held {deviceId : ℕ} {k : ClientPtr} {s : Mux} {c : ConnPtr}
    (found : getMuxConnection deviceId k s = some c) :
    ∃ d ∈ s.deviceList, c ∈ (s.dev d).connections ∧ s.hasClient k c := by
  obtain ⟨d, device, held⟩ := Option.bind_eq_some_iff.mp found
  exact ⟨d, List.mem_of_find?_eq_some device, List.mem_of_find?_eq_some held, List.find?_some held⟩

/-- The clients of the connections in reach are in reach, and so are the connections of these clients that
`get_mux_connection` can find. -/
structure Within (reach : Reach) (s : Mux) : Prop where
  owner : ∀ c m k, reach.conns c → s.conn c = some m → m.client = some k → reach.clients k
  sole : ∀ d ∈ s.deviceList, ∀ c ∈ (s.dev d).connections, ∀ k, reach.clients k → s.hasClient k c → reach.conns c

/-- Changes that keep a walk within its reach: of records in reach, which keep their ends, and of devices,
which get no further connections. -/
structure Mux.Stays (reach : Reach) (s s' : Mux) : Prop where
  deviceList : s'.deviceList = s.deviceList
  connections : ∀ d, (s'.dev d).connections ⊆ (s.dev d).connections
  others : ∀ c, ¬reach.conns c → s'.conn c = s.conn c
  ends : ∀ c m', s'.conn c = some m' → ∃ m, s.conn c = some m ∧ m.SameEnds m'

namespace Mux.Stays

variable {reach : Reach} {s s' : Mux}

private theorem of_same (deviceList : s'.deviceList = s.deviceList)
    (dev : ∀ d, (s'.dev d).connections = (s.dev d).connections)
    (conn : s'.conn = s.conn) : s.Stays reach s' where
  deviceList := deviceList
  connections d := by rw [dev]; exact List.Subset.refl _
  others c _ := by rw [conn]
  ends c m' present := ⟨m', conn ▸ present, .refl m'⟩

private theorem setConn {c : ConnPtr} (reached : reach.conns c) {m m' : MuxConnection} (present : s.conn c = some m)
    (ends : m.SameEnds m') : s.Stays reach (s.setConn c m') where
  deviceList := rfl
  connections _ := List.Subset.refl _
  others c' far := Function.update_of_ne (fun same : c' = c => far (same ▸ reached)) ..
  ends c' m'' present'' := by
    by_cases same : c' = c
    · subst same
      obtain rfl : m' = m'' := by simpa [Mux.setConn] using present''
      exact ⟨m, present, ends⟩
    · exact ⟨m'', by simpa [Mux.setConn, same] using present'', .refl _⟩

private theorem unlink {c : ConnPtr} (reached : reach.conns c) (d : DevPtr) : s.Stays reach (s.unlink c d) where
  deviceList := rfl
  connections d' := by
    by_cases same : d' = d
    · subst same
      simp only [Mux.unlink, Mux.setDev, Function.update_self]
      exact List.erase_subset
    · simp [Mux.unlink, Mux.setDev, Mux.freeConn, same]
  others c' far := Function.update_of_ne (fun same : c' = c => far (same ▸ reached)) ..
  ends c' m' present' := by
    by_cases same : c' = c
    · subst same
      simp [Mux.unlink, Mux.freeConn, Mux.setDev] at present'
    · exact ⟨m', by simpa [Mux.unlink, Mux.freeConn, Mux.setDev, same] using present', .refl _⟩

private theorem sendPacket (env : Env) (d : DevPtr) (proto : MuxProtocol) (header data : Bytes) :
    s.Stays reach (sendPacket env d proto header data s).2 := by
  obtain ⟨_, _, _, _, _, _, state, -⟩ := sendPacket_state env d proto header data s
  rw [state]
  exact .of_same rfl (Update.same MuxDevice.connections (by simp)) rfl

end Mux.Stays

private theorem Within.stays {reach : Reach} {s s' : Mux} (within : Within reach s) (stays : s.Stays reach s') :
    Within reach s' where
  owner c m' k reached present' owner := by
    obtain ⟨m, present, ends⟩ := stays.ends c m' present'
    rcases ends.client with gone | same
    · simp [gone] at owner
    · exact within.owner c m k reached present (same ▸ owner)
  sole d listed c member k named owned := by
    by_contra far
    have record := stays.others c far
    refine far (within.sole d (stays.deviceList ▸ listed) c (stays.connections d member) k named ?_)
    rwa [Mux.hasClient, ← record]

theorem Reach.Wide.within {reach : Reach} (wide : reach.Wide) (s : Mux) : Within reach s :=
  ⟨fun _ _ k _ _ _ => wide.clients k, fun _ _ c _ _ _ _ => wide.conns c⟩

theorem within_stepwise {env : Env} {reach : Reach} : Stepwise env reach fun x => Within reach x.mux where
  unseen _ _ _ _ within := within.stays (.of_same rfl (fun _ => rfl) rfl)
  stored reached present ends within := within.stays (.setConn reached present ends)
  noted _ within := within.stays (.of_same rfl (fun _ => rfl) rfl)
  packet d proto header data within := within.stays (.sendPacket env d proto header data)
  handed _ _ _ _ within := within.stays (.of_same rfl (fun _ => rfl) rfl)
  served _ within := within
  unlinked d reached within := within.stays (.unlink reached d)
  opened wide _ _ _ := wide.within _
  discarded _ wide _ := wide.within _
  device wide _ _ := wide.within _
  logged wide _ _ := wide.within _

/-- What the daemon does as long as it is within reach. -/
def Does (env : Env) (reach : Reach) (s s' : Daemon) : Prop := Within reach s.mux → Deeds env reach s s'

namespace Does

variable {env : Env} {reach : Reach} {s s' s'' : Daemon} {c : ConnPtr} {k : ClientPtr}

theorem refl (s : Daemon) : Does env reach s s := fun _ => .refl s

theorem trans (first : Does env reach s s') (second : Does env reach s' s'') : Does env reach s s'' :=
  fun within => (first within).trans (second ((first within).preserve within_stepwise within))

/-- The clock, faults and nothing else. -/
theorem unseen {x : Mux} (tick : ℕ) (faults : List MuxFault) (same : x = { s.mux with tick := tick, faults := faults })
    :
    Does env reach s (s.setMux x) := by
  rw [same]
  exact fun _ => (Deeds.refl s).unseen tick s.clients.tick faults s.clients.faults

theorem fault (s : Daemon) (fault : MuxFault) : Does env reach s (s.setMux (s.mux.fault fault)) := .unseen _ _ rfl

theorem bump (s : Daemon) : Does env reach s (s.setMux s.mux.bump) := .unseen _ _ rfl

theorem clientFault (s : Daemon) (fault : ClientFault) : Does env reach s (s.setClients (s.clients.fault fault)) :=
  fun _ => (Deeds.refl s).unseen s.mux.tick s.clients.tick s.mux.faults _

theorem store (reached : reach.conns c) {m : MuxConnection} (present : s.mux.conn c = some m) (m' : MuxConnection)
    (ends : m.SameEnds m') (state : m'.state = m.state) : Does env reach s (s.setMux (s.mux.setConn c m')) :=
  fun _ => (Deeds.refl s).stored reached present ends (.of_state ends.dev state)

theorem note (s : Daemon) (reached : reach.conns c) (event : ConnEvent) (note : event.isNote) :
    Does env reach s (s.setMux (s.mux.logConn c event)) := fun _ => (Deeds.refl s).noted reached note

theorem segment (s : Daemon) (reached : reach.conns c) (flags : UInt8) (data : Bytes) (other : flags ≠ thRst) :
    Does env reach s (s.setMux (sendTcp env c flags data s.mux).2) :=
  fun _ => (Deeds.refl s).segment reached data other

theorem serve (reached : reach.clients k) {x : Clients} (serves : Served k s.clients x) :
    Does env reach s (s.setClients x) := fun _ => (Deeds.refl s).served reached serves

/-- The client of a connection in reach may be served. -/
theorem owned (reached : reach.conns c) {m : MuxConnection} (present : s.mux.conn c = some m)
    (owner : m.client = some k) (does : reach.clients k → Does env reach s s') : Does env reach s s' :=
  fun within => does (within.owner c m k reached present owner) within

/-- What `get_mux_connection` finds for a client in reach is in reach. -/
theorem found (named : reach.clients k) {deviceId : ℕ} (found : getMuxConnection deviceId k s.mux = some c)
    (does : reach.conns c → Does env reach s s') : Does env reach s s' := by
  intro within
  obtain ⟨d, listed, member, owned⟩ := getMuxConnection_held found
  exact does (within.sole d listed c member k named owned) within

end Does

end Usbmuxd
