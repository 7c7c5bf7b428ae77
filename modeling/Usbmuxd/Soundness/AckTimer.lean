import Usbmuxd.Model.Timeout
import Usbmuxd.Proofs.Acknowledge
import Usbmuxd.Proofs.Wires
import Usbmuxd.Soundness.Isolation
import Usbmuxd.Soundness.Window

/-! # The ACK timer and the ACK sender

`device_get_timeout` looks for the connection that has waited longest for its ACK, and
`device_check_timeouts` tests each connection by itself. The main loop may sleep for the time that the
first one gives: until then the second one has nothing to do, and afterwards it has.
-/

namespace Usbmuxd

open Collection Frame

/-- A connected connection of an active device, with an ACK pending. -/
structure Mux.Awaits (s : Mux) (c : ConnPtr) (m : MuxConnection) : Prop where
  held : ∃ d ∈ s.deviceList, (s.dev d).state = .active ∧ c ∈ (s.dev d).connections
  record : s.conn c = some m
  connected : m.state = .connected
  pending : m.ackPending = true

/-- The ACK has waited for more than `ACK_TIMEOUT`. -/
def MuxConnection.Overdue (ct : UInt64) (m : MuxConnection) : Prop :=
  m.lastAckTime.toNat + ackTimeout.toNat < ct.toNat

/-- One ACK was sent on a connection. Its flag is cleared if that succeeded; if not the connection is torn
down, and no other ACK was sent on it. -/
inductive Acknowledged (c : ConnPtr) (m : MuxConnection) (s s' : Mux) : Prop
  | sent {res : ℤ} {m' : MuxConnection} (accepted : 0 ≤ res)
      (log : s'.connLog c = s.connLog c ++ [.segment (m.header thAck) [] res]) (record : s'.conn c = some m')
      (cleared : m'.ackPending = false) (owner : m'.client = m.client)
  | failed {res : ℤ} {tail : List ConnEvent} (refused : res < 0)
      (log : s'.connLog c = s.connLog c ++ .segment (m.header thAck) [] res :: tail)
      (silent : ∀ event ∈ tail, event.isAck = false) (released : s'.conn c = none)

section Timer

variable {s : Mux}

private theorem olderAck_le (oldest : UInt64) (m : MuxConnection) : (olderAck oldest m).toNat ≤ oldest.toNat := by
  rw [olderAck]
  split
  next older => exact Nat.le_of_lt older.2.2
  next => exact Nat.le_refl _

/-- The time that the timer finds is not after that of any connection. -/
private theorem oldestAck_le {c : ConnPtr} {m : MuxConnection} (awaits : s.Awaits c m) :
    (oldestAck s).toNat ≤ m.lastAckTime.toNat := by
  obtain ⟨d, listed, active, member⟩ := awaits.held
  have inner (oldest : UInt64) (c : ConnPtr) :
      ((s.conn c).elim oldest (olderAck oldest)).toNat ≤ oldest.toNat := by
    cases s.conn c with
    | none => exact Nat.le_refl _
    | some m => exact olderAck_le oldest m
  refine foldl_size_le_of_mem UInt64.toNat (fun oldest d => ?_) listed (fun oldest => ?_) (-1)
  · split
    · exact foldl_size_le UInt64.toNat inner _ oldest
    · exact Nat.le_refl _
  · rw [if_pos active]
    refine foldl_size_le_of_mem UInt64.toNat inner member (fun oldest => ?_) oldest
    rw [awaits.record, Option.elim_some, olderAck]
    split
    next => exact Nat.le_refl _
    next newer => exact Nat.not_lt.mp fun older => newer ⟨awaits.connected, awaits.pending, older⟩

private theorem oldestAck_attained (s : Mux) :
    oldestAck s = -1 ∨ ∃ c m, s.Awaits c m ∧ oldestAck s = m.lastAckTime := by
  refine List.foldlRecOn s.deviceList _ (motive := fun oldest => oldest = -1 ∨ ∃ c m, s.Awaits c m ∧
    oldest = m.lastAckTime) (.inl rfl) fun oldest found d listed => ?_
  split
  next active =>
    refine List.foldlRecOn (s.dev d).connections _ (motive := fun oldest => oldest = -1 ∨ ∃ c m, s.Awaits c m ∧
      oldest = m.lastAckTime) found fun oldest found c member => ?_
    rcases record : s.conn c with _ | m
    · exact found
    · rw [Option.elim_some, olderAck]
      split
      next older => exact .inr ⟨c, m, ⟨⟨d, listed, active, member⟩, record, older.1, older.2.1⟩, rfl⟩
      next => exact found
  next => exact found

end Timer

section Sender

/-- What the loops of `device_check_timeouts` have done so far: some connections that were due have been
acknowledged, and the others are as they were. -/
structure Progress (ct : UInt64) (s₀ s : Mux) : Prop where
  deviceList : s.deviceList = s₀.deviceList
  states : ∀ d, (s.dev d).state = (s₀.dev d).state
  shrinks : ∀ d, ∀ c ∈ (s.dev d).connections, c ∈ (s₀.dev d).connections
  keeps : ∀ d, ∀ c ∈ (s₀.dev d).connections, c ∉ (s.dev d).connections → s.conn c = none
  fate : ∀ c, (s.conn c = s₀.conn c ∧ s.connLog c = s₀.connLog c) ∨
    ∃ m, s₀.Awaits c m ∧ m.ackDue ct ∧ Acknowledged c m s₀ s

/-- `device_check_timeouts` would send an ACK on a connection. -/
def Mux.Due (s : Mux) (ct : UInt64) (c : ConnPtr) : Prop := (s.conn c).any (MuxConnection.ackDue ct)

variable {ct : UInt64} {s₀ s s' : Mux} {c : ConnPtr} {m : MuxConnection}

/-- Neither a connection with a cleared flag nor one that is gone is due. -/
private theorem Acknowledged.not_due (acknowledged : Acknowledged c m s s') : ¬s'.Due ct c := by
  cases acknowledged with
  | sent accepted log record cleared owner => simp [Mux.Due, record, MuxConnection.ackDue, cleared]
  | failed refused log silent released => simp [Mux.Due, released]

private theorem Progress.untouched (progress : Progress ct s₀ s) (due : s.Due ct c) :
    s.conn c = s₀.conn c ∧ s.connLog c = s₀.connLog c := by
  rcases progress.fate c with same | ⟨m, -, -, acknowledged⟩
  · exact same
  · exact absurd due acknowledged.not_due

private theorem Progress.hasClient (progress : Progress ct s₀ s) {k : ClientPtr} (owned : s.hasClient k c) :
    s₀.hasClient k c := by
  rcases progress.fate c with ⟨same, -⟩ | ⟨m, awaits, -, acknowledged⟩
  · rwa [Mux.hasClient, ← same]
  · cases acknowledged with
    | sent accepted log record cleared owner =>
      simp only [Mux.hasClient, record, Option.any_some, owner] at owned
      simpa [Mux.hasClient, awaits.record] using owned
    | failed refused log silent released => simp [Mux.hasClient, released] at owned

private theorem AckEffect.acknowledged (effect : AckEffect c m s s') : Acknowledged c m s s' := by
  cases effect with
  | sent accepted beside record cleared owner => exact .sent accepted beside.log record cleared owner
  | failed refused beside silent released =>
    subst released
    exact .failed refused beside.log silent (Function.update_self ..)

private theorem Acknowledged.congr {t t' : Mux} (acknowledged : Acknowledged c m s s')
    (before : t.connLog c = s.connLog c)
    (conn : t'.conn c = s'.conn c) (log : t'.connLog c = s'.connLog c) : Acknowledged c m t t' := by
  cases acknowledged with
  | sent accepted appended record cleared owner =>
    exact .sent accepted (by rw [log, appended, before]) (conn.trans record) cleared owner
  | failed refused appended silent released =>
    exact .failed refused (by rw [log, appended, before]) silent (conn.trans released)

private theorem AckEffect.frame (effect : AckEffect c m s s') :
    s'.deviceList = s.deviceList ∧ (∀ d, (s'.dev d).state = (s.dev d).state) ∧
      (∀ d, ∀ c' ∈ (s'.dev d).connections, c' ∈ (s.dev d).connections) ∧
      (∀ d, ∀ c' ∈ (s.dev d).connections, c' ∉ (s'.dev d).connections → s'.conn c' = none) ∧
      SameOff (some c) s.conn s'.conn ∧ SameOff (some c) s.connLog s'.connLog := by
  cases effect with
  | sent accepted beside record cleared owner =>
    refine ⟨beside.deviceList, beside.states, fun d c' member => ?_, fun d c' member missing => ?_, beside.conns,
      beside.otherLogs⟩
    · rwa [← beside.connections]
    · rw [beside.connections] at missing
      exact absurd member missing
  | @failed res tail x refused beside silent released =>
    subst released
    have elsewhere {d : DevPtr} (other : d ≠ m.dev) : (x.unlink c m.dev).dev d = x.dev d :=
      Function.update_of_ne other ..
    have here : (x.unlink c m.dev).dev m.dev =
        { x.dev m.dev with connections := (x.dev m.dev).connections.erase c } := Function.update_self ..
    refine ⟨beside.deviceList, fun d => ?_, fun d c' member => ?_, fun d c' member missing => ?_,
      beside.conns.trans (.update x.conn c none), beside.otherLogs⟩
    · rw [← beside.states d]
      by_cases other : d = m.dev
      · rw [other, here]
      · rw [elsewhere other]
    · rw [← beside.connections d]
      by_cases other : d = m.dev
      · rw [other, here] at member
        rw [other]
        exact List.mem_of_mem_erase member
      · rwa [elsewhere other] at member
    · rw [← beside.connections d] at member
      by_cases other : d = m.dev
      · rw [other] at member
        rw [other, here] at missing
        obtain rfl : c' = c := by
          by_contra different
          exact missing ((List.mem_erase_of_ne different).mpr member)
        exact Function.update_self ..
      · rw [elsewhere other] at missing
        exact absurd member missing

private theorem Progress.step (progress : Progress ct s₀ s) (present : s.conn c = some m) (awaits : s₀.Awaits c m)
    (due : m.ackDue ct) (same : s.connLog c = s₀.connLog c) (effect : AckEffect c m s s') : Progress ct s₀ s' := by
  obtain ⟨deviceList, states, shrinks, keeps, conns, logs⟩ := effect.frame
  refine ⟨deviceList.trans progress.deviceList, fun d => (states d).trans (progress.states d),
    fun d c' member => progress.shrinks d c' (shrinks d c' member), fun d c' member missing => ?_, fun c' => ?_⟩
  · by_cases left : c' ∈ (s.dev d).connections
    · exact keeps d c' left missing
    · have gone := progress.keeps d c' member left
      have other : some c' ≠ some c := by
        rintro ⟨⟩
        rw [present] at gone
        cases gone
      rw [conns c' other, gone]
  · by_cases other : c' = c
    · subst other
      exact .inr ⟨m, awaits, due, effect.acknowledged.congr same.symm rfl rfl⟩
    · have conn := conns c' (by simpa using other)
      have log := logs c' (by simpa using other)
      rcases progress.fate c' with ⟨record, events⟩ | ⟨m', awaits', due', acknowledged⟩
      · exact .inl ⟨conn.trans record, log.trans events⟩
      · exact .inr ⟨m', awaits', due', acknowledged.congr rfl conn log⟩

/-- The body of the inner loop of `device_check_timeouts`. -/
def checkTimeout (env : Env) (ct : UInt64) (c : ConnPtr) (s : Daemon) : Daemon :=
  if (s.mux.conn c).any (MuxConnection.ackDue ct) then sendTcpAck env c s else s

/-- The body of the outer loop. -/
def checkDevice (env : Env) (ct : UInt64) (d : DevPtr) (s : Daemon) : Daemon :=
  if (s.mux.dev d).state = .active then forEach (Daemon.connections d) (checkTimeout env ct) s else s

/-- No two connections of listed devices have the same client. -/
def Mux.Paired (s : Mux) : Prop :=
  ∀ d ∈ s.deviceList, ∀ c ∈ (s.dev d).connections, ∀ k, s.hasClient k c → s.Sole c k

variable (env : Env) {x : Daemon}

private theorem checkTimeout_progress (paired : s₀.Paired) (progress : Progress ct s₀ x.mux) {d : DevPtr}
    (listed : d ∈ s₀.deviceList) (active : (s₀.dev d).state = .active) (member : c ∈ (x.mux.dev d).connections) :
    Progress ct s₀ (checkTimeout env ct c x).mux ∧
      ∀ c', ¬x.mux.Due ct c' ∨ c = c' → ¬(checkTimeout env ct c x).mux.Due ct c' := by
  rw [checkTimeout]
  split
  next due =>
    obtain ⟨m, present, overdue⟩ := (Option.any_eq_true ..).mp due
    obtain ⟨conn, log⟩ := progress.untouched due
    have marks := overdue
    simp only [MuxConnection.ackDue, Bool.and_eq_true, decide_eq_true_eq] at marks
    have awaits : s₀.Awaits c m :=
      ⟨⟨d, listed, active, progress.shrinks d c member⟩, conn.symm.trans present, marks.1.1, marks.1.2⟩
    have sole (k : ClientPtr) (owner : k ∈ m.client) : x.mux.Sole c k := by
      have owned : s₀.hasClient k c := by simpa [Mux.hasClient, awaits.record] using owner
      intro d' listed' c' member' owned'
      exact paired d listed c (progress.shrinks d c member) k owned d' (progress.deviceList ▸ listed') c'
        (progress.shrinks d' c' member') (progress.hasClient owned')
    have effect := sendTcpAck_effect env present marks.1.1 sole
    refine ⟨progress.step present awaits overdue log effect, fun c' before => ?_⟩
    by_cases same : c' = c
    · subst same
      exact effect.acknowledged.not_due
    · have conn := effect.frame.2.2.2.2.1 c' (by simpa using same)
      rw [Mux.Due, conn]
      exact before.resolve_right fun equal => same equal.symm
  next idle =>
    refine ⟨progress, fun c' before => ?_⟩
    rcases before with before | rfl
    · exact before
    · exact idle

private theorem checkDevice_progress (paired : s₀.Paired) (progress : Progress ct s₀ x.mux) {d : DevPtr}
    (listed : d ∈ s₀.deviceList) :
    Progress ct s₀ (checkDevice env ct d x).mux ∧
      (∀ c, ¬x.mux.Due ct c → ¬(checkDevice env ct d x).mux.Due ct c) ∧
      ((s₀.dev d).state = .active → ∀ c ∈ (s₀.dev d).connections, ¬(checkDevice env ct d x).mux.Due ct c) := by
  rw [checkDevice, progress.states d]
  split
  next active =>
    have turn (c : ConnPtr) (y : Daemon) (progress : Progress ct s₀ y.mux) (member : c ∈ Daemon.connections d y) :=
      checkTimeout_progress env paired progress listed active member
    refine ⟨?_, fun c idle => ?_, fun _ c member => ?_⟩
    · exact forEach_induct (motive := fun y => Progress ct s₀ y.mux) progress fun c y progress member =>
        (turn c y progress member).1
    · refine (forEach_induct (motive := fun y : Daemon => Progress ct s₀ y.mux ∧ ¬y.mux.Due ct c) ⟨progress, idle⟩ ?_).2
      exact fun c' y holds member =>
        ⟨(turn c' y holds.1 member).1, (turn c' y holds.1 member).2 c (.inl holds.2)⟩
    · refine forEach_done (motive := fun y => Progress ct s₀ y.mux) (fun y => ¬y.mux.Due ct c) c progress
        (fun c' y progress member => ⟨(turn c' y progress member).1, (turn c' y progress member).2 c⟩)
        fun y progress missing => ?_
      simp [Mux.Due, progress.keeps d c member missing]
  next inactive => exact ⟨progress, fun _ idle => idle, fun active => absurd active inactive⟩

private theorem deviceCheckTimeouts_eq (s : Daemon) :
    deviceCheckTimeouts env s =
      forEach (fun s => s.mux.deviceList) (checkDevice env (env.usb s.mux.tick).now) (s.setMux s.mux.bump) := rfl

private theorem deviceCheckTimeouts_progress (paired : x.mux.Paired) :
    Progress (env.usb x.mux.tick).now x.mux (deviceCheckTimeouts env x).mux ∧
      ∀ c m, x.mux.Awaits c m → ¬(deviceCheckTimeouts env x).mux.Due (env.usb x.mux.tick).now c := by
  have start : Progress (env.usb x.mux.tick).now x.mux (x.setMux x.mux.bump).mux :=
    ⟨rfl, fun _ => rfl, fun _ _ member => member, fun _ _ member missing => absurd member missing,
      fun _ => .inl ⟨rfl, rfl⟩⟩
  rw [deviceCheckTimeouts_eq]
  generalize (env.usb x.mux.tick).now = ct at start ⊢
  have turn (d : DevPtr) (y : Daemon) (progress : Progress ct x.mux y.mux) (listed : d ∈ y.mux.deviceList) :=
    checkDevice_progress env paired progress (progress.deviceList ▸ listed)
  refine ⟨?_, fun c m awaits => ?_⟩
  · exact forEach_induct (motive := fun y => Progress ct x.mux y.mux) start fun d y progress listed =>
      (turn d y progress listed).1
  · obtain ⟨d, listed, active, member⟩ := awaits.held
    refine forEach_done (motive := fun y => Progress ct x.mux y.mux) (fun y => ¬y.mux.Due ct c) d start
      (fun d' y progress listed' => ⟨(turn d' y progress listed').1, ?_⟩) fun y progress missing => ?_
    · rintro (idle | rfl)
      · exact (turn d' y progress listed').2.1 c idle
      · exact (turn d' y progress listed').2.2 active c member
    · rw [progress.deviceList] at missing
      exact absurd listed missing

private theorem deviceCheckTimeouts_acknowledges (paired : x.mux.Paired) (awaits : x.mux.Awaits c m)
    (due : m.ackDue (env.usb x.mux.tick).now) : Acknowledged c m x.mux (deviceCheckTimeouts env x).mux := by
  obtain ⟨progress, idle⟩ := deviceCheckTimeouts_progress env paired
  rcases progress.fate c with ⟨conn, -⟩ | ⟨m', awaits', -, acknowledged⟩
  · refine absurd ?_ (idle c m awaits)
    simp [Mux.Due, conn, awaits.record, due]
  · obtain rfl : m = m' := Option.some.inj (awaits.record.symm.trans awaits'.record)
    exact acknowledged

private theorem deviceCheckTimeouts_spares (paired : x.mux.Paired)
    (early : ∀ m, x.mux.Awaits c m → ¬m.ackDue (env.usb x.mux.tick).now) :
    (deviceCheckTimeouts env x).mux.conn c = x.mux.conn c ∧
      (deviceCheckTimeouts env x).mux.connLog c = x.mux.connLog c := by
  rcases (deviceCheckTimeouts_progress env paired).1.fate c with same | ⟨m, awaits, due, -⟩
  · exact same
  · exact absurd due (early m awaits)

private theorem deviceCheckTimeouts_idle (early : ∀ c m, x.mux.Awaits c m → ¬m.ackDue (env.usb x.mux.tick).now) :
    deviceCheckTimeouts env x = x.setMux x.mux.bump := by
  rw [deviceCheckTimeouts_eq]
  refine forEach_eq_self fun d listed => ?_
  rw [checkDevice]
  split
  next active =>
    refine forEach_eq_self fun c member => ?_
    rw [checkTimeout, if_neg]
    intro due
    obtain ⟨m, present, overdue⟩ := (Option.any_eq_true ..).mp due
    have marks := overdue
    simp only [MuxConnection.ackDue, Bool.and_eq_true, decide_eq_true_eq] at marks
    exact early c m ⟨⟨d, listed, active, member⟩, present, marks.1.1, marks.1.2⟩ overdue
  next => rfl

/-- What goes out are segments of connections, each a packet that is submitted. -/
private theorem deviceCheckTimeouts_transmits {route : ConnPtr → Route}
    (routed : ∀ c m, x.mux.conn c = some m → route c = m.route) :
    ∃ more, (deviceCheckTimeouts env x).mux.flows = x.mux.flows ++ more ∧
      Transmits (fun _ => False) route (deviceCheckTimeouts env x).mux.usb more := by
  let reach : Reach := ⟨fun _ => True, fun _ => True, fun _ _ => False, False⟩
  have deeds : Deeds env reach x (deviceCheckTimeouts env x) :=
    deviceCheckTimeouts_does env (fun _ => trivial) ⟨fun _ _ _ _ _ _ => trivial, fun _ _ _ _ _ _ _ => trivial⟩
  have start : Wired (fun _ => False) x.mux.flows route x.mux :=
    ⟨routed, .none, (Flows.append_none _).symm, transmits_none⟩
  obtain ⟨route', same, wired⟩ := deeds.rewires False.elim (fun _ _ => False.elim) route start
  obtain rfl : route' = route := funext fun c => same c False.elim
  exact wired.sent

end Sender

/-- The sender's test, for a connection whose last ACK is not in the future. -/
private theorem Mux.Awaits.ackDue_iff {s : Mux} {c : ConnPtr} {m : MuxConnection} (awaits : s.Awaits c m) {ct : UInt64}
    (past : m.lastAckTime ≤ ct) : m.ackDue ct ↔ m.Overdue ct := by
  have wait := UInt64.toNat_sub_of_le _ _ past
  have order := UInt64.le_iff_toNat_le.mp past
  simp only [MuxConnection.ackDue, awaits.connected, awaits.pending, decide_true, Bool.true_and, decide_eq_true_eq,
    gt_iff_lt, UInt64.lt_iff_toNat_lt, wait, MuxConnection.Overdue]
  omega

private theorem mstime64_lt (clock : Timeval) : (mstime64 clock).toNat < 2 ^ 63 := by
  have fits := clock.fits
  rw [mstime64, UInt64.toNat_ofNat_of_lt' (by rw [UInt64.size]; omega)]
  exact fits

/-- The timer, as a number of milliseconds after the ACK that has waited longest. -/
private theorem deviceGetTimeout_eq (env : Env) {s : Mux} {m : MuxConnection} (oldest : oldestAck s = m.lastAckTime)
    (known : oldestAck s ≠ -1) (past : m.lastAckTime ≤ (env.usb s.tick).now) :
    (deviceGetTimeout env s).1 = ((m.lastAckTime.toNat + ackTimeout.toNat - (env.usb s.tick).now.toNat : ℕ) : ℤ) := by
  have wait := UInt64.toNat_sub_of_le _ _ past
  have order := UInt64.le_iff_toNat_le.mp past
  simp only [deviceGetTimeout, if_neg known]
  rw [oldest]
  split
  next late =>
    rw [gt_iff_lt, UInt64.lt_iff_toNat_lt, wait] at late
    omega
  next early =>
    have room : (env.usb s.tick).now - m.lastAckTime ≤ ackTimeout := UInt64.not_lt.mp early
    rw [UInt64.toNat_sub_of_le _ _ room, wait]
    omega

private theorem deviceGetTimeout_none (env : Env) {s : Mux} (none : ∀ c m, ¬s.Awaits c m) :
    (deviceGetTimeout env s).1 = 100000 := by
  rcases oldestAck_attained s with unknown | ⟨c, m, awaits, -⟩
  · exact if_pos unknown
  · exact absurd awaits (none c m)

/-- Otherwise it is set for an ACK that has waited longest: no time on the clock is the value that the search
starts with. -/
private theorem deviceGetTimeout_oldest (env : Env) {s : Mux} {clock : Timeval}
    (reading : (env.usb s.tick).now = mstime64 clock)
    (past : ∀ c m, s.Awaits c m → m.lastAckTime ≤ (env.usb s.tick).now) {c : ConnPtr} {m : MuxConnection}
    (awaits : s.Awaits c m) :
    ∃ c₀ m₀, s.Awaits c₀ m₀ ∧ (∀ c m, s.Awaits c m → m₀.lastAckTime.toNat ≤ m.lastAckTime.toNat) ∧
      (deviceGetTimeout env s).1 =
        ((m₀.lastAckTime.toNat + ackTimeout.toNat - (env.usb s.tick).now.toNat : ℕ) : ℤ) := by
  have known : oldestAck s ≠ -1 := by
    intro none
    have least := oldestAck_le awaits
    have latest : (-1 : UInt64).toNat = 2 ^ 64 - 1 := by decide
    have before := UInt64.le_iff_toNat_le.mp (past c m awaits)
    have bound := mstime64_lt clock
    rw [none, latest] at least
    rw [reading] at before
    omega
  obtain ⟨c₀, m₀, awaits₀, oldest⟩ := (oldestAck_attained s).resolve_left known
  refine ⟨c₀, m₀, awaits₀, fun c m awaits => ?_, deviceGetTimeout_eq env oldest known (past c₀ m₀ awaits₀)⟩
  rw [← oldest]
  exact oldestAck_le awaits

/-- The clients of connections are distinct in every state that the daemon reaches. -/
theorem run_paired (env : Env) (events : List Event) : (run env events).mux.Paired := by
  obtain ⟨sound, -⟩ := run_sound_anything env events
  intro d listed c member k owned d' listed' c' member' owned'
  have one := (run env events).carries_of_hasClient ⟨listed, member⟩ owned
  have two := (run env events).carries_of_hasClient ⟨listed', member'⟩ owned'
  exact (sound.carries_unique two one).2

/-- Timer and sender agree. The timer gives 100000 if, and only if, no ACK is awaited. Otherwise, with `t` the
time it gives at `ct`, a check after `ct` and not after `ct + t` does nothing but read the clock. A check from
`ct + t + 1` on finds at least one overdue ACK, sends exactly the overdue ones, each once and clearing its flag
if the send succeeds, and leaves every other connection alone. What is submitted to USB are the packets with
these segments. -/
theorem ack_timer_agrees (env : Env) (s : Daemon) (clock : Timeval)
    (reading : (env.usb s.mux.tick).now = mstime64 clock)
    (past : ∀ c m, s.mux.Awaits c m → m.lastAckTime ≤ (env.usb s.mux.tick).now) (paired : s.mux.Paired) :
    let timer := deviceGetTimeout env s.mux
    let s' := s.setMux timer.2
    let ct := (env.usb s.mux.tick).now
    let ct' := (env.usb s'.mux.tick).now
    let checked := deviceCheckTimeouts env s'
    (timer.1 = 100000 ↔ ∀ c m, ¬s.mux.Awaits c m) ∧
      ((∃ c m, s.mux.Awaits c m) →
        (ct < ct' → (ct'.toNat : ℤ) ≤ ct.toNat + timer.1 → checked = s'.setMux s'.mux.bump) ∧
        ((ct.toNat : ℤ) + timer.1 + 1 ≤ ct'.toNat →
          (∃ c m, s.mux.Awaits c m ∧ m.Overdue ct') ∧
          (∀ c m, s.mux.Awaits c m → m.Overdue ct' → Acknowledged c m s.mux checked.mux) ∧
          (∀ c, (∀ m, s.mux.Awaits c m → ¬m.Overdue ct') →
            checked.mux.conn c = s.mux.conn c ∧ checked.mux.connLog c = s.mux.connLog c) ∧
          ∀ route, (∀ c m, s.mux.conn c = some m → route c = m.route) → ∃ more,
            checked.mux.flows = s.mux.flows ++ more ∧ Transmits (fun _ => False) route checked.mux.usb more)) := by
  intro timer s' ct ct' checked
  have limit : ackTimeout.toNat = 30 := rfl
  have before {c : ConnPtr} {m : MuxConnection} (awaits : s.mux.Awaits c m) : m.lastAckTime.toNat ≤ ct.toNat :=
    UInt64.le_iff_toNat_le.mp (past c m awaits)
  have oldest {c : ConnPtr} {m : MuxConnection} (awaits : s.mux.Awaits c m) : ∃ c₀ m₀, s.mux.Awaits c₀ m₀ ∧
      (∀ c m, s.mux.Awaits c m → m₀.lastAckTime.toNat ≤ m.lastAckTime.toNat) ∧
      timer.1 = ((m₀.lastAckTime.toNat + ackTimeout.toNat - ct.toNat : ℕ) : ℤ) :=
    deviceGetTimeout_oldest env reading past awaits
  refine ⟨⟨fun idle c m awaits => ?_, deviceGetTimeout_none env⟩, ?_⟩
  · obtain ⟨c₀, m₀, awaits₀, -, time⟩ := oldest awaits
    have earlier := before awaits₀
    omega
  rintro ⟨c, m, awaits⟩
  obtain ⟨c₀, m₀, awaits₀, least, time⟩ := oldest awaits
  have asleep {c : ConnPtr} {m : MuxConnection} : s'.mux.Awaits c m ↔ s.mux.Awaits c m :=
    ⟨fun awaits => ⟨awaits.held, awaits.record, awaits.connected, awaits.pending⟩,
      fun awaits => ⟨awaits.held, awaits.record, awaits.connected, awaits.pending⟩⟩
  have due {c : ConnPtr} {m : MuxConnection} (awaits : s.mux.Awaits c m) (later : ct.toNat ≤ ct'.toNat) :
      m.ackDue ct' ↔ m.Overdue ct' :=
    awaits.ackDue_iff (UInt64.le_iff_toNat_le.mpr ((before awaits).trans later))
  refine ⟨fun later within => ?_, fun expired => ?_⟩
  · refine deviceCheckTimeouts_idle env fun c m awaits overdue => ?_
    have later := UInt64.lt_iff_toNat_lt.mp later
    have overdue := (due (asleep.mp awaits) later.le).mp overdue
    have newer := least c m (asleep.mp awaits)
    simp only [MuxConnection.Overdue] at overdue
    omega
  · have later : ct.toNat ≤ ct'.toNat := by omega
    have there : s'.mux.Paired := paired
    refine ⟨⟨c₀, m₀, awaits₀, ?_⟩, fun c m awaits overdue => ?_, fun c early => ?_, fun route routed => ?_⟩
    · simp only [MuxConnection.Overdue]
      omega
    · have overdue := (due awaits later).mpr overdue
      exact (deviceCheckTimeouts_acknowledges env there (asleep.mpr awaits) overdue).congr rfl rfl rfl
    · exact deviceCheckTimeouts_spares env there fun m awaits overdue =>
        early m (asleep.mp awaits) ((due (asleep.mp awaits) later).mp overdue)
    · exact deviceCheckTimeouts_transmits (x := s') env routed

/-- The session's world, with a clock that jumps once the payload is with the client. -/
def drowsyEnv : Env := { sessionEnv with usb := fun n => ⟨0, UInt64.ofNat (if n ≤ 10 then n else n + 100), 0⟩ }

/-- Three bytes have come from the device and gone to the client, and are not acknowledged. -/
def unacknowledged : List Event := tunnel ++ [.dataInput 0 (.full dataPacket), .clientProcess 5 ⟨false, true⟩]

/-- Time goes by, and the ACK is sent. -/
theorem unacknowledged_sent :
    let s := run drowsyEnv unacknowledged
    let s' := s.setMux (deviceGetTimeout drowsyEnv s.mux).2
    (deviceGetTimeout drowsyEnv s.mux).1 = 29 ∧
      ∃ m, s.mux.Awaits 0 m ∧ Acknowledged 0 m s.mux (deviceCheckTimeouts drowsyEnv s').mux := by
  intro s s'
  have timer : (deviceGetTimeout drowsyEnv s.mux).1 = 29 := by decide +kernel
  have awaits : s.mux.Awaits 0 ((s.mux.conn 0).get (by decide +kernel)) :=
    ⟨⟨0, by decide +kernel, by decide +kernel, by decide +kernel⟩, by simp, by decide +kernel, by decide +kernel⟩
  have past : ∀ c m, s.mux.Awaits c m → m.lastAckTime ≤ (drowsyEnv.usb s.mux.tick).now := by
    intro c m other
    obtain ⟨d, listed, -, member⟩ := other.held
    obtain rfl : d = 0 := by simpa [show s.mux.deviceList = [0] by decide +kernel] using listed
    obtain rfl : c = 0 := by simpa [show (s.mux.dev 0).connections = [0] by decide +kernel] using member
    rw [← Option.some.inj (awaits.record.symm.trans other.record)]
    decide +kernel
  have agrees := ack_timer_agrees drowsyEnv s ⟨0, 10000, by decide⟩ (by decide +kernel) past
    (run_paired drowsyEnv unacknowledged)
  have sent := ((agrees.2 ⟨0, _, awaits⟩).2 (by decide +kernel)).2.1 0 _ awaits (by
    unfold MuxConnection.Overdue
    decide +kernel)
  exact ⟨timer, _, awaits, sent⟩

end Usbmuxd
