import Usbmuxd.Proofs.Arrival

/-! # Replies to commands

The commands that only send messages: `Listen`, the lists, the pair records. They move the clients
as the client machine allows and leave the devices alone. Only `Listen` announces devices.
-/

namespace Usbmuxd

open Collection

/-- A client in command or listen state. -/
def Idle (k : ClientPtr) (s : Clients) : Prop :=
  ∃ client, s.client k = some client ∧ (client.state = .command ∨ client.state = .listen)

/-- A client in command state. -/
def Commanding (k : ClientPtr) (s : Clients) : Prop := ∃ client, s.client k = some client ∧ client.state = .command

theorem Commanding.idle {k : ClientPtr} {s : Clients} (commanding : Commanding k s) : Idle k s := by
  obtain ⟨client, present, state⟩ := commanding
  exact ⟨client, present, .inl state⟩

theorem ClientsMove.idle {lax : Laxity} {served : Option ClientPtr} {s s' : Clients} {k : ClientPtr}
    (move : ClientsMove lax served s s') (idle : Idle k s) : Idle k s' := by
  obtain ⟨client, present, state⟩ := idle
  obtain ⟨client', events, after, _, kept⟩ := move.present present
  refine ⟨client', after, ?_⟩
  rcases kept.state with same | ⟨_, ⟨_, listening⟩ | ⟨waiting, _⟩⟩
  · rwa [same]
  · exact .inr listening
  · rcases state with state | state <;> simp [state] at waiting

/-- Clients that move on their own leave the devices alone. -/
theorem ClientsMove.calm {lax : Laxity} {served : Option ClientPtr} (s : Daemon) {x : Clients}
    (move : ClientsMove lax served s.clients x) : Calm lax served s.sys (s.setClients x).sys :=
  .of_run (move.run s x) rfl rfl rfl

section Replies

variable {lax : Laxity} (env : Env) {k : ClientPtr} {s : Clients}

theorem bump_move (s : Clients) (served : Option ClientPtr) : ClientsMove lax served s s.bump :=
  .of_untouched ⟨rfl, rfl, rfl, rfl, rfl⟩

/-- A list or a record for a client that waits for it. -/
theorem sendPlist_move (grants : Grants env lax) (served : Option ClientPtr) (idle : Idle k s) (tag : UInt32)
    {plist : Plist}
    (routine : plist.announces = false) : ClientsMove lax served s (sendPlist env k tag plist s).2 := by
  obtain ⟨client, present, state⟩ := idle
  exact (sendPlist_queued env present tag plist).move present state
    (grants.routine _ _ (routine_plist env routine))

theorem sendResult_move (grants : Grants env lax) (idle : Idle k s) (tag number : UInt32) :
    ClientsMove lax (some k) s (sendResult env k tag number s).2 := by
  obtain ⟨client, present, state⟩ := idle
  exact (sendResult_resulted env present tag number).move grants present state

/-- A reply does not change the state. -/
theorem sendResult_commanding (commanding : Commanding k s) (tag number : UInt32) :
    Commanding k (sendResult env k tag number s).2 := by
  obtain ⟨client, present, state⟩ := commanding
  have resulted := sendResult_resulted env present tag number
  generalize sendResult env k tag number s = r at resulted
  cases resulted with
  | failed negative same why => exact ⟨client, by rw [same.client, present], state⟩
  | @done s' res capacity msg payload ok queues routine =>
    have stored : s'.client k = some (client.grown capacity tag msg payload) := by
      rw [queues.stored, Function.update_self]
    exact ⟨_, stored, state⟩

/-- What a client tells about itself. -/
theorem inform_move {f : MuxClient → MuxClient} (version : MuxClient → UInt32) (info : MuxClient → Option Plist)
    (present : (s.client k).isSome)
    (stores : ∀ client, f client = { client with protoVersion := version client, info := info client }) :
    ClientsMove lax (some k) s (s.modify k f) := by
  obtain ⟨client, present⟩ := Option.isSome_iff_exists.mp present
  refine .modify present ?_
  rw [stores]
  exact .inform client _ _ _ rfl

private theorem announceAll_move (announces : lax.Announces) (served : Option ClientPtr) (idle : Idle k s)
    (devices : List DeviceInfo) : ClientsMove lax served s (announceAll env k devices s).2 := by
  induction devices generalizing s with
  | nil => exact .refl s
  | cons info rest ih =>
    obtain ⟨client, present, state⟩ := idle
    have sent : ClientsMove lax served s (sendDeviceAdd env info k s).2 :=
      sendDeviceEvent_move env served present state ⟨announces.tells _ _, announces.tells _ _⟩
    simp only [announceAll]
    split
    · exact sent
    · exact sent.trans (ih (sent.idle ⟨client, present, state⟩))

theorem sendListenerList_move (grants : Grants env lax) (served : Option ClientPtr) (idle : Idle k s) (tag : UInt32) :
    ClientsMove lax served s (sendListenerList env k tag s).2 := by
  obtain ⟨client, present, state⟩ := idle
  simp only [sendListenerList, present]
  exact sendPlist_move env grants served ⟨client, present, state⟩ tag rfl

theorem sendPairRecord_move (grants : Grants env lax) (idle : Idle k s) (tag : UInt32) (recordId : Option String) :
    ClientsMove lax (some k) s (sendPairRecord env k tag recordId s).2 := by
  have ticked : ClientsMove lax (some k) s s.bump := bump_move s (some k)
  simp only [sendPairRecord]
  split
  · exact sendResult_move env grants idle tag errInval
  · split
    · exact ticked.trans (sendPlist_move env grants (some k) (ticked.idle idle) tag rfl)
    · exact ticked.trans (sendResult_move env grants (ticked.idle idle) tag errNoent)

end Replies

/-- A command that leaves the devices alone. -/
def Spoken (lax : Laxity) (k : ClientPtr) (s : Daemon) (r : ℤ × Daemon) : Prop :=
  ∃ x, r.2 = s.setClients x ∧ ClientsMove lax (some k) s.clients x

/-- A command after which its client is still there. -/
structure Serviced (lax : Laxity) (k : ClientPtr) (s s' : Daemon) : Prop where
  steady : Steady lax (some k) s.sys s'.sys
  present : (s'.clients.client k).isSome

namespace Spoken

variable {lax : Laxity} (env : Env) {k : ClientPtr} {s : Daemon}

theorem serviced {r : ℤ × Daemon} (spoken : Spoken lax k s r) (idle : Idle k s.clients) : Serviced lax k s r.2 := by
  obtain ⟨x, result, move⟩ := spoken
  obtain ⟨client, present, _⟩ := move.idle idle
  rw [result]
  exact ⟨(move.calm s).steady, Option.isSome_iff_exists.mpr ⟨client, present⟩⟩

private theorem after {x : Clients} {r : ℤ × Daemon} (move : ClientsMove lax (some k) s.clients x)
    (spoken : Spoken lax k (s.setClients x) r) : Spoken lax k s r := by
  obtain ⟨y, result, later⟩ := spoken
  exact ⟨y, result, move.trans later⟩

theorem answered {r : ℤ × Clients} (move : ClientsMove lax (some k) s.clients r.2) : Spoken lax k s (answered r s) :=
  ⟨r.2, rfl, move⟩

theorem replyResult (grants : Grants env lax) (idle : Idle k s.clients) (tag number : UInt32) :
    Spoken lax k s (replyResult env k tag number s) :=
  answered (sendResult_move env grants idle tag number)

/-- `Listen`. -/
theorem listenCommand (grants : Grants env lax) (announces : lax.Announces) (commanding : Commanding k s.clients)
    (tag : UInt32) : Spoken lax k s (listenCommand env k tag s) := by
  have move := sendResult_move env grants commanding.idle tag resultOk
  obtain ⟨client, present, state⟩ := sendResult_commanding env commanding tag resultOk
  simp only [Usbmuxd.listenCommand]
  split
  · exact ⟨_, rfl, move⟩
  · set x := (sendResult env k tag resultOk s.clients).2
    have listening : ClientsMove lax (some k) x (x.modify k fun client => { client with state := .listen }) :=
      .modify present (.listen client _ rfl announces.listens state)
    have idle : Idle k (x.modify k fun client => { client with state := .listen }) :=
      listening.idle ⟨client, present, .inl state⟩
    exact after move ⟨_, rfl, listening.trans (announceAll_move env announces (some k) idle _)⟩

/-- `SavePairRecord`. -/
theorem savePairRecord (grants : Grants env lax) (idle : Idle k s.clients) (tag : UInt32) (dict : Plist) :
    Spoken lax k s (savePairRecord env k tag dict s) := by
  simp only [Usbmuxd.savePairRecord]
  split
  swap
  · exact replyResult env grants idle tag errInval
  set s₁ := s.setClients s.clients.bump
  have ticked : ClientsMove lax (some k) s.clients s.clients.bump := bump_move s.clients (some k)
  have idle₁ : Idle k s₁.clients := ticked.idle idle
  have told (deviceId : ℕ) (known : Prop) [Decidable known] : Spoken lax k s₁ (Usbmuxd.replyResult env k tag resultOk
      (if known then s₁.setClients (clientDevicePaired env deviceId s₁.clients) else s₁)) := by
    have paired := clientDevicePaired_move env s₁.clients grants (some k) deviceId
    split
    · exact after paired (replyResult (s := s₁.setClients _) env grants (paired.idle idle₁) tag resultOk)
    · exact replyResult (s := s₁) env grants idle₁ tag resultOk
  refine after ticked ?_
  split
  · exact replyResult (s := s₁) env grants idle₁ tag _
  · exact told _ _

/-- `DeletePairRecord`. -/
theorem deletePairRecord (grants : Grants env lax) (idle : Idle k s.clients) (tag : UInt32) (dict : Plist) :
    Spoken lax k s (deletePairRecord env k tag dict s) := by
  have ticked : ClientsMove lax (some k) s.clients s.clients.bump := bump_move s.clients (some k)
  simp only [Usbmuxd.deletePairRecord]
  split
  · exact replyResult env grants idle tag errInval
  · exact after ticked (replyResult (s := s.setClients s.clients.bump) env grants (ticked.idle idle) tag _)

end Spoken

end Usbmuxd
