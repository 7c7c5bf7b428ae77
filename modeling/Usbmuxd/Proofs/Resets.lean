import Usbmuxd.Proofs.Isolation

/-! # What a removal sends to the device

`connection_teardown` sends a reset unless the device is dead or has itself ended the connection, and
then releases the record. No other deed sends a reset or changes whether a teardown will. The teardown of
one connection may reach other connections through `client_close`, and they obey the same rule; a
connection that is being torn down is not torn down again.
-/

namespace Usbmuxd

open Collection Frame ConnEvent

/-- A reset is passed to `send_packet`. -/
def ConnEvent.isReset : ConnEvent → Bool
  | segment th _ _ => th.flags = thRst
  | _ => false

/-- The number of resets a connection has attempted. -/
def Mux.resets (s : Mux) (c : ConnPtr) : ℕ := (s.connLog c).countP ConnEvent.isReset

private theorem MuxConnection.sendsRst_congr (m : MuxConnection) {dev dev' : MuxDevice}
    (dead : dev'.state = .dead ↔ dev.state = .dead) : m.sendsRst dev' = m.sendsRst dev := by
  simp [sendsRst, dead]

/-- What becomes of an allocated connection: it is kept without a reset, or it is removed with one if
its teardown sends one. -/
inductive Fate (s s' : Mux) (c : ConnPtr) : Prop
  | kept {m m' : MuxConnection} (before : s.conn c = some m) (after : s'.conn c = some m') (same : m.SameEnding m')
      (resets : s'.resets c = s.resets c)
  | removed {m : MuxConnection} (before : s.conn c = some m) (alive : m.state ≠ .dead) (after : s'.conn c = none)
      (resets : s'.resets c = s.resets c + if m.sendsRst (s.dev m.dev) then 1 else 0)
  | absent (before : s.conn c = none) (after : s'.conn c = none) (resets : s'.resets c = s.resets c)

/-- The connections in question meet such a fate, and no device dies. -/
structure MuxResets (who : ConnPtr → Prop) (s s' : Mux) : Prop where
  dead : ∀ d, (s'.dev d).state = .dead ↔ (s.dev d).state = .dead
  nextConn : s.nextConn ≤ s'.nextConn
  fate : ∀ c, who c → c < s.nextConn → Fate s s' c

/-- The changes to connections are confined to one, or to none. -/
structure Touches (owner : Option ConnPtr) (s s' : Mux) : Prop where
  dead : ∀ d, (s'.dev d).state = .dead ↔ (s.dev d).state = .dead
  nextConn : s'.nextConn = s.nextConn
  conns : SameOff owner s.conn s'.conn
  logs : SameOff owner s.connLog s'.connLog

section Relations

variable {who : ConnPtr → Prop} {owner : Option ConnPtr} {s s' s'' : Mux} {c : ConnPtr}

private theorem Fate.same (conn : s'.conn c = s.conn c) (log : s'.connLog c = s.connLog c) : Fate s s' c := by
  have resets : s'.resets c = s.resets c := by rw [Mux.resets, log, Mux.resets]
  rcases before : s.conn c with _ | m
  · exact .absent before (conn.trans before) resets
  · exact .kept before (conn.trans before) (.of_state rfl rfl) resets

private theorem Fate.trans (dead : ∀ d, (s'.dev d).state = .dead ↔ (s.dev d).state = .dead) (first : Fate s s' c)
    (second : Fate s' s'' c) : Fate s s'' c := by
  cases first with
  | kept before after same resets =>
    cases second with
    | kept before' after' same' resets' =>
      obtain rfl := Option.some.inj (after.symm.trans before')
      exact .kept before after' (same.trans same') (resets'.trans resets)
    | removed before' alive' after' resets' =>
      obtain rfl := Option.some.inj (after.symm.trans before')
      refine .removed before (fun gone => alive' (same.dead.mpr gone)) after' ?_
      rw [resets', resets, same.sends, same.dev, MuxConnection.sendsRst_congr _ (dead _)]
    | absent before' => simp [after] at before'
  | removed before alive after resets =>
    cases second with
    | kept before' => simp [after] at before'
    | removed before' => simp [after] at before'
    | absent before' after' resets' => exact .removed before alive after' (resets'.trans resets)
  | absent before after resets =>
    cases second with
    | kept before' => simp [after] at before'
    | removed before' => simp [after] at before'
    | absent before' after' resets' => exact .absent before after' (resets'.trans resets)

private theorem Fate.resets_of_dead (fate : Fate s s' c) {m : MuxConnection} (present : s.conn c = some m)
    (dead : m.state = .dead) : s'.resets c = s.resets c := by
  cases fate with
  | kept before after same resets => exact resets
  | removed before alive =>
    obtain rfl := Option.some.inj (present.symm.trans before)
    exact absurd dead alive
  | absent before after resets => exact resets

namespace MuxResets

theorem refl (s : Mux) : MuxResets who s s := ⟨fun _ => .rfl, Nat.le_refl _, fun _ _ _ => .same rfl rfl⟩

theorem trans (first : MuxResets who s s') (second : MuxResets who s' s'') : MuxResets who s s'' where
  dead d := (second.dead d).trans (first.dead d)
  nextConn := first.nextConn.trans second.nextConn
  fate c concerned known :=
    (first.fate c concerned known).trans first.dead (second.fate c concerned (Nat.lt_of_lt_of_le known first.nextConn))

theorem mono {fewer : ConnPtr → Prop} (resets : MuxResets who s s') (less : ∀ c, fewer c → who c) :
    MuxResets fewer s s' :=
  { resets with fate := fun c concerned => resets.fate c (less c concerned) }

end MuxResets

namespace Touches

theorem refl (s : Mux) : Touches owner s s := ⟨fun _ => .rfl, rfl, .refl _ _, .refl _ _⟩

private theorem trans (first : Touches owner s s') (second : Touches owner s' s'') : Touches owner s s'' :=
  ⟨fun d => (second.dead d).trans (first.dead d), second.nextConn.trans first.nextConn, first.conns.trans second.conns,
    first.logs.trans second.logs⟩

/-- Ticks, transfers, faults and the logs of devices are not looked at. -/
private theorem of_same (dead : ∀ d, (s'.dev d).state = .dead ↔ (s.dev d).state = .dead)
    (nextConn : s'.nextConn = s.nextConn)
    (conn : s'.conn = s.conn) (connLog : s'.connLog = s.connLog) : Touches owner s s' :=
  ⟨dead, nextConn, conn ▸ .refl _ _, connLog ▸ .refl _ _⟩

/-- The other connections are not affected. -/
theorem resets (touches : Touches owner s s') (off : ∀ c, who c → some c ≠ owner) : MuxResets who s s' where
  dead := touches.dead
  nextConn := touches.nextConn.ge
  fate c concerned _ := .same (touches.conns c (off c concerned)) (touches.logs c (off c concerned))

private theorem settle (touches : Touches (some c) s s') (fate : c < s.nextConn → Fate s s' c) :
    MuxResets who s s' where
  dead := touches.dead
  nextConn := touches.nextConn.ge
  fate c' _ known := by
    by_cases same : c' = c
    · subst same
      exact fate known
    · exact .same (touches.conns c' (by simpa using same)) (touches.logs c' (by simpa using same))

private theorem setConn (s : Mux) (c : ConnPtr) (m : MuxConnection) : Touches (some c) s (s.setConn c m) :=
  ⟨fun _ => .rfl, rfl, .update s.conn c _, .refl _ _⟩

private theorem logConn (s : Mux) (c : ConnPtr) (event : ConnEvent) : Touches (some c) s (s.logConn c event) :=
  ⟨fun _ => .rfl, rfl, .refl _ _, .update s.connLog c _⟩

private theorem unlink (s : Mux) (c : ConnPtr) (d : DevPtr) : Touches (some c) s (s.unlink c d) where
  dead d' := by
    by_cases same : d' = d
    · subst same
      simp [Mux.unlink, Mux.setDev]
    · simp [Mux.unlink, Mux.setDev, Mux.freeConn, same]
  nextConn := rfl
  conns := .update s.conn c _
  logs := .refl _ _

end Touches

/-- Changes that do not concern connections. -/
theorem MuxResets.of_same (dead : ∀ d, (s'.dev d).state = .dead ↔ (s.dev d).state = .dead)
    (nextConn : s'.nextConn = s.nextConn) (conn : s'.conn = s.conn) (connLog : s'.connLog = s.connLog) :
    MuxResets who s s' :=
  (Touches.of_same dead nextConn conn connLog : Touches none s s').resets (by simp)

private theorem MuxResets.setConn {m m' : MuxConnection} (present : s.conn c = some m) (same : m.SameEnding m') :
    MuxResets who s (s.setConn c m') :=
  (Touches.setConn s c m').settle fun _ => .kept present (Function.update_self ..) same rfl

private theorem MuxResets.notes (s : Mux) (c : ConnPtr) {events : List ConnEvent}
    (silent : ∀ event ∈ events, event.isReset = false) :
    MuxResets who s { s with connLog := Function.update s.connLog c (s.connLog c ++ events) } := by
  set s' : Mux := { s with connLog := Function.update s.connLog c (s.connLog c ++ events) }
  have none : events.countP ConnEvent.isReset = 0 :=
    List.countP_eq_zero.mpr fun event member => by simp [silent event member]
  have count : s'.resets c = s.resets c := by simp [s', Mux.resets, none]
  refine Touches.settle ⟨fun _ => .rfl, rfl, .refl _ _, .update s.connLog c _⟩ fun _ => ?_
  rcases before : s.conn c with _ | m
  · exact .absent before before count
  · exact .kept before before (.of_state rfl rfl) count

/-- The state of one device changes, but not to or from dead. -/
theorem MuxResets.setDev (s : Mux) (d : DevPtr) (dev : MuxDevice)
    (dead : dev.state = .dead ↔ (s.dev d).state = .dead) : MuxResets who s (s.setDev d dev) :=
  .of_same (Update.related (r := fun x y : MuxDevice => y.state = .dead ↔ x.state = .dead) (fun _ => .rfl) dead) rfl rfl
    rfl

end Relations

section Sending

variable {who : ConnPtr → Prop} {owner : Option ConnPtr} (env : Env) (s : Mux)

theorem sendPacket_touches (d : DevPtr) (proto : MuxProtocol) (header data : Bytes) :
    Touches owner s (sendPacket env d proto header data s).2 := by
  obtain ⟨tick, rxSeq, txSeq, transfers, events, faults, state, -⟩ := sendPacket_state env d proto header data s
  rw [state]
  refine .of_same (fun d' => ?_) rfl rfl rfl
  by_cases same : d' = d
  · subst same
    simp
  · simp [same]

private theorem sendTcp_touches (c : ConnPtr) (flags : UInt8) (data : Bytes) :
    Touches (some c) s (sendTcp env c flags data s).2 := by
  rcases present : s.conn c with _ | m
  · rw [sendTcp_absent env flags data present]
    exact .of_same (fun _ => .rfl) rfl rfl rfl
  · obtain ⟨tick, m', -, state⟩ := sendTcp_present env flags data present
    rw [state]
    exact (sendPacket_touches ..).trans ((Touches.logConn ..).trans ((Touches.setConn ..).trans
      (.of_same (fun _ => .rfl) rfl rfl rfl)))

private theorem sendTcp_log {c : ConnPtr} {m : MuxConnection} (present : s.conn c = some m) (flags : UInt8)
    (data : Bytes) :
    (sendTcp env c flags data s).2.connLog = Function.update s.connLog c (s.connLog c ++
      [.segment (m.header flags) data (sendPacket env m.dev .tcp (m.header flags).encode data s).1]) := by
  obtain ⟨tick, m', -, state⟩ := sendTcp_present env flags data present
  obtain ⟨_, _, _, _, _, _, sent, -⟩ := sendPacket_state env m.dev .tcp (m.header flags).encode data s
  have unnoted : (sendPacket env m.dev .tcp (m.header flags).encode data s).2.connLog = s.connLog := by rw [sent]
  rw [state]
  show Function.update _ c _ = _
  rw [unnoted]

private theorem sendTcp_resets (c : ConnPtr) {flags : UInt8} (other : flags ≠ thRst) (data : Bytes) :
    MuxResets who s (sendTcp env c flags data s).2 := by
  refine (sendTcp_touches env s c flags data).settle fun _ => ?_
  rcases present : s.conn c with _ | m
  · rw [sendTcp_absent env flags data present]
    exact .same rfl rfl
  · obtain ⟨m', after, sent⟩ := sendTcp_record env flags data present
    have silent (res : ℤ) : (segment (m.header flags) data res).isReset = false := by
      simp [ConnEvent.isReset, MuxConnection.header, other]
    refine .kept present after (.of_state sent.same.1.dev sent.same.2.2) ?_
    simp [Mux.resets, sendTcp_log env s present, silent]

end Sending

/-- The same for the whole daemon, whose workers are left alone. -/
structure Resets (who : ConnPtr → Prop) (s s' : Daemon) : Prop where
  mux : MuxResets who s.mux s'.mux
  workers : s'.workers = s.workers

/-- The rule is kept for every connection. -/
abbrev Obeys (s s' : Daemon) : Prop := Resets (fun _ => True) s s'

namespace Resets

variable {who : ConnPtr → Prop} {s s' s'' : Daemon}

theorem refl (s : Daemon) : Resets who s s := ⟨MuxResets.refl s.mux, rfl⟩

theorem trans (first : Resets who s s') (second : Resets who s' s'') : Resets who s s'' :=
  ⟨first.mux.trans second.mux, second.workers.trans first.workers⟩

theorem setMux {x : Mux} (resets : MuxResets who s.mux x) : Resets who s (s.setMux x) := ⟨resets, rfl⟩

private theorem of_mux (same : s'.mux = s.mux) (workers : s'.workers = s.workers) : Resets who s s' := by
  refine ⟨?_, workers⟩
  rw [same]
  exact MuxResets.refl s.mux

private theorem of_same {x : Mux} (dead : ∀ d, (x.dev d).state = .dead ↔ (s.mux.dev d).state = .dead)
    (nextConn : x.nextConn = s.mux.nextConn) (conn : x.conn = s.mux.conn)
    (connLog : x.connLog = s.mux.connLog) : Resets who s (s.setMux x) :=
  .setMux (MuxResets.of_same dead nextConn conn connLog)

private theorem fault (s : Daemon) (fault : MuxFault) : Resets who s (s.setMux (s.mux.fault fault)) :=
  .of_same (fun _ => .rfl) rfl rfl rfl

private theorem store {c : ConnPtr} {m : MuxConnection} (present : s.mux.conn c = some m) (m' : MuxConnection)
    (same : m.SameEnding m') : Resets who s (s.setMux (s.mux.setConn c m')) := .setMux (MuxResets.setConn present same)

private theorem notes (s : Daemon) (c : ConnPtr) {events : List ConnEvent}
    (silent : ∀ event ∈ events, event.isReset = false) :
    Resets who s (s.setMux { s.mux with connLog := Function.update s.mux.connLog c (s.mux.connLog c ++ events) }) :=
  .setMux (MuxResets.notes s.mux c silent)

/-- The rule may be kept for fewer connections. -/
theorem exempt (obeys : Obeys s s') : Resets who s s' := ⟨obeys.mux.mono fun _ _ => trivial, obeys.workers⟩

end Resets

section Deeds

variable {env : Env} {reach : Reach} {s s' : Daemon} {c : ConnPtr} {m : MuxConnection}

/-- The beginning of a teardown: the reset, if there is one, is counted. -/
private theorem closing_counts (env : Env) (present : s.mux.conn c = some m) :
    Touches (some c) s.mux (s.closing env c m).mux ∧ (s.closing env c m).workers = s.workers ∧
      (∃ m₁, (s.closing env c m).mux.conn c = some m₁ ∧ m₁.state = .dead) ∧
      (s.closing env c m).mux.resets c = s.mux.resets c + if m.sendsRst (s.mux.dev m.dev) then 1 else 0 := by
  obtain ⟨m', -, -, closing⟩ := closing_eq env present
  have marks : Touches (some c) (s.resetting env c m).mux (s.closing env c m).mux := closing ▸ .setConn ..
  have dead : (s.closing env c m).mux.conn c = some { m' with state := .dead } := closing ▸ Function.update_self ..
  have log : (s.closing env c m).mux.connLog = (s.resetting env c m).mux.connLog := by rw [closing]; rfl
  rw [Daemon.resetting] at marks log
  by_cases sends : m.sendsRst (s.mux.dev m.dev)
  · rw [if_pos sends] at marks log
    refine ⟨(sendTcp_touches env s.mux c thRst []).trans marks, by rw [closing, Daemon.resetting, if_pos sends]; rfl,
      ⟨_, dead, rfl⟩, ?_⟩
    have counted (res : ℤ) : (segment (m.header thRst) [] res).isReset = true := rfl
    simp [Mux.resets, log, Daemon.setMux, sendTcp_log env s.mux present, counted, sends]
  · rw [if_neg sends] at marks log
    refine ⟨marks, by rw [closing, Daemon.resetting, if_neg sends]; rfl, ⟨_, dead, rfl⟩, ?_⟩
    simp [Mux.resets, log, sends]

/-- A teardown, if what happens on the way obeys the rule. The record goes at the end, and no teardown
removes a record that is marked. -/
private theorem torn_obeys {x : Daemon} (present : s.mux.conn c = some m) (alive : m.state ≠ .dead)
    (middle : Obeys (s.closing env c m) x) : Obeys s (x.setMux (x.mux.unlink c m.dev)) := by
  obtain ⟨touched, workers, ⟨m₁, marked, dead⟩, counted⟩ := closing_counts env present
  have rest : MuxResets (· ≠ c) s.mux (x.mux.unlink c m.dev) :=
    (touched.resets (by simp)).trans ((middle.mux.mono fun _ _ => trivial).trans
      ((Touches.unlink ..).resets (by simp)))
  refine ⟨{ rest with fate := fun c' _ known => ?_ }, middle.workers.trans workers⟩
  by_cases same : c' = c
  · subst same
    have silent := (middle.mux.fate c' trivial (touched.nextConn ▸ known)).resets_of_dead marked dead
    exact .removed present alive (Function.update_self ..) (silent.trans counted)
  · exact rest.fate c' same known

private theorem Deeds.obeys (deeds : Deeds env reach s s') : Obeys s s' := by
  induction deeds with
  | refl s => exact .refl s
  | unseen _ tick tick' faults faults' ih => exact ih.trans ⟨.of_same (fun _ => .rfl) rfl rfl rfl, rfl⟩
  | stored _ reached present ends ending ih => exact ih.trans (.store present _ ending)
  | @noted _ _ _ _ _ event note ih =>
    exact ih.trans (.notes _ _ fun event' member => by cases event <;> simp_all [ConnEvent.isNote, ConnEvent.isReset])
  | segment _ reached data other ih => exact ih.trans (.setMux (sendTcp_resets env _ _ other data))
  | @handed _ s' _ _ _ _ present k owner note delivers buffer ih =>
    refine ih.trans ⟨(MuxResets.notes s'.mux _ fun event member => ?_), rfl⟩
    split at member
    · rcases delivers with rfl | rfl <;> simp_all [ConnEvent.isReset]
    · cases member
  | served _ reached serves ih => exact ih.trans (.of_mux rfl rfl)
  | torn _ reached present alive middle ih ih' => exact ih.trans (torn_obeys present alive ih')
  | opened _ wide may owner ih =>
    exact ih.trans ⟨⟨fun _ => .rfl, Nat.le_succ _, fun c _ known => .same (Function.update_of_ne known.ne ..) rfl⟩, rfl⟩
  | @discarded s s' _ _ c fresh ih =>
    refine ⟨{ ih.mux with fate := fun c' all known => ?_ }, ih.workers⟩
    have other : c' ≠ c := (Nat.lt_of_lt_of_le known fresh).ne
    exact (ih.mux.fate c' all known).trans ih.mux.dead (.same (Function.update_of_ne other ..) rfl)
  | device _ wide ties ih => exact ih.trans (.setMux (.setDev _ _ _ ties.dead))
  | logged _ wide note ih => exact ih.trans (.of_same (fun _ => .rfl) rfl rfl rfl)
  | packet _ wide d own ih =>
    exact ih.trans (.setMux ((sendPacket_touches env _ d _ _ _ : Touches none _ _).resets (by simp)))

theorem Does.obeys (does : Does env .all s s') : Obeys s s' := (does (Reach.all_wide.within _)).obeys

end Deeds

section Teardown

variable (env : Env) {s : Daemon}

/-- The flush takes time and writes down what it flushed. -/
theorem flushClient_mux (c : ConnPtr) (k : ClientPtr) (m : MuxConnection) :
    ∃ tick flushes, (flushClient env c k m s).mux = { s.mux with
      tick := tick, connLog := Function.update s.mux.connLog c (s.mux.connLog c ++ flushes) } ∧
      ∀ event ∈ flushes, ∃ bytes, event = .flushed bytes := by
  refine flushClient_induct env (motive := fun x => ∃ tick flushes, x.mux = { s.mux with
    tick := tick, connLog := Function.update s.mux.connLog c (s.mux.connLog c ++ flushes) } ∧
      ∀ event ∈ flushes, ∃ bytes, event = .flushed bytes) ?_ ?_ m ⟨s.mux.tick, [], by simp, by simp⟩
  · rintro buffer x ⟨tick, flushes, state, written⟩
    refine ⟨tick, flushes ++ if 0 < (clientWrite env k buffer x.clients).1 then
      [.flushed (buffer.take (clientWrite env k buffer x.clients).1.toNat)] else [], ?_, ?_⟩
    · rw [Daemon.handed, Daemon.setMux, state]
      simp
    · refine List.forall_mem_append.mpr ⟨written, fun event member => ?_⟩
      split at member
      · exact ⟨_, List.mem_singleton.mp member⟩
      · cases member
  · rintro x ⟨tick, flushes, state, written⟩
    exact ⟨tick + 1, flushes, by rw [state]; rfl, written⟩

/-- An abort that meets a connection already being torn down only takes its client away. -/
private theorem deviceAbortConnect_dead {c : ConnPtr} {k : ClientPtr} {deviceId : ℕ}
    (only : ∀ c', getMuxConnection deviceId k s.mux = some c' → c' = c) {m : MuxConnection}
    (present : s.mux.conn c = some m) (dead : m.state = .dead) :
    ∃ faults m', (deviceAbortConnect env deviceId k s).mux =
      { s.mux with faults := faults, conn := Function.update s.mux.conn c (some m') } := by
  obtain ⟨faults, touched⟩ := touchNamed_faults deviceId s.mux
  simp only [deviceAbortConnect, touched]
  split
  · exact ⟨faults, m, by rw [← present, Function.update_eq_self]; rfl⟩
  next c' found =>
  obtain rfl := only c' found
  have there : (s.setMux { s.mux with faults := faults }).mux.conn c' = some m := present
  refine ⟨faults, { m with client := none }, ?_⟩
  simp only [there]
  rw [connectionTeardownWith_dead (m := { m with client := none }) _ env (Function.update_self ..) dead]
  rfl

theorem clientClose_dead {c : ConnPtr} {k : ClientPtr}
    (only : ∀ deviceId c', getMuxConnection deviceId k s.mux = some c' → c' = c) {m : MuxConnection}
    (present : s.mux.conn c = some m) (dead : m.state = .dead) :
    ∃ faults m', (clientClose env k s).mux =
      { s.mux with faults := faults, conn := Function.update s.mux.conn c (some m') } := by
  have same : s.mux = { s.mux with faults := s.mux.faults, conn := Function.update s.mux.conn c (some m) } := by
    rw [← present, Function.update_eq_self]
  simp only [clientClose]
  split
  · split
    · exact ⟨s.mux.faults, m, same⟩
    next client _ =>
    split
    · exact @deviceAbortConnect_dead env (s.setClients (s.clients.setClient k { client with state := .dead })) c k
        client.connectDevice (only client.connectDevice) m present dead
    · exact ⟨s.mux.faults, m, same⟩
  · exact ⟨s.mux.faults, m, same⟩

end Teardown

section Segments

variable (env : Env) {s s' : Daemon} {c : ConnPtr} {th : TcpHdr} {payload : Bytes}

private theorem Arrival.obeys (arrival : Arrival c th payload s s') (other : th.isRst = false) : Obeys s s' := by
  have noted (x : Daemon) (event : ConnEvent) (silent : event.isReset = false) :
      Obeys x (x.setMux (x.mux.logConn c event)) := .notes x c (by simpa using silent)
  cases arrival with
  | absent => exact .fault s _
  | @noted m present =>
    have stored : Obeys s (s.setMux (s.mux.setConn c (m.receive th))) := .store present _ (.of_state rfl rfl)
    exact stored.trans (noted _ _ rfl)
  | reset present reset => simp [other] at reset
  | @accepted m present =>
    have stored : Obeys s (s.setMux (s.mux.setConn c ((m.receive th).accept payload))) :=
      .store present _ (.of_state rfl rfl)
    exact (stored.trans (noted _ (.rx (m.receive th).rxAck (m.receive th).rxWin) rfl)).trans (noted _ _ rfl)

private theorem Arrival.silent (arrival : Arrival c th payload s s') :
    Resets (· ≠ c) s s' ∧ s'.mux.resets c = s.mux.resets c := by
  cases arrival with
  | absent => exact ⟨.fault s _, rfl⟩
  | noted present =>
    exact ⟨.setMux (((Touches.setConn ..).trans (.logConn ..)).resets (by simp)),
      by simp [Mux.resets, Daemon.setMux, Mux.logConn, Mux.setConn, ConnEvent.isReset]⟩
  | reset present =>
    exact ⟨.setMux (((Touches.setConn ..).trans (.logConn ..)).resets (by simp)),
      by simp [Mux.resets, Daemon.setMux, Mux.logConn, Mux.setConn, ConnEvent.isReset]⟩
  | accepted present =>
    exact ⟨.setMux ((((Touches.setConn ..).trans (.logConn ..)).trans (.logConn ..)).resets (by simp)),
      by simp [Mux.resets, Daemon.setMux, Mux.logConn, Mux.setConn, ConnEvent.isReset]⟩

variable (c) (payload)

/-- `device_tcp_input` for a segment of a connection that does not reset it. -/
theorem connectionInput_obeys (other : th.isRst = false) : Obeys s (connectionInput env c th payload s) := by
  obtain ⟨s₁, arrival, does, -⟩ := @connectionInput_does env .all s c trivial th payload
  exact (arrival.obeys other).trans does.obeys

/-- A segment that resets its connection removes it without a reset. -/
theorem connectionInput_reset (reset : th.isRst) :
    Resets (· ≠ c) s (connectionInput env c th payload s) ∧
      (c < s.mux.nextConn → (connectionInput env c th payload s).mux.resets c = s.mux.resets c) := by
  obtain ⟨s₁, arrival, does, ending⟩ := @connectionInput_does env .all s c trivial th payload
  obtain ⟨others, count⟩ := arrival.silent
  refine ⟨others.trans does.obeys.exempt, fun known => ?_⟩
  rw [← count]
  rcases ending reset with idle | ⟨m, present, silent⟩
  · rw [idle]
  · have later : c < s₁.mux.nextConn := Nat.lt_of_lt_of_le known others.mux.nextConn
    cases does.obeys.mux.fate c trivial later with
    | kept before after same resets => exact resets
    | removed before alive after resets =>
      obtain rfl := Option.some.inj (present.symm.trans before)
      rwa [silent, if_neg (by simp)] at resets
    | absent before => simp [present] at before

end Segments

end Usbmuxd
