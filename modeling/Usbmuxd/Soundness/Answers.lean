import Usbmuxd.Machine.Sessions
import Usbmuxd.Soundness.Devices

/-! # Connection requests are answered once

The answer to a `Connect` request is given in three places: when the device accepts, when the attempt
is torn down, or not at all because the client went first. Whatever ends an attempt, its client is
told so exactly once, as long as no client asks for a device in its handshake: the connections of
such a device are forgotten, and nobody answers for them.
-/

namespace Usbmuxd

open History

/-- A client that was refused during an event is ready for its next command: its command buffer is as it
was, and no device holds a connection for it. -/
def Restored (s s' : Daemon) : Prop :=
  ∀ k client during tag, s.clients.client k = some client → client.state = .connecting1 →
    s'.clients.log k = s.clients.log k ++ during → .result tag resultConnRefused ∈ during →
      ∃ client', s'.clients.client k = some client' ∧ client'.state = .command ∧ client'.ibBuf = client.ibBuf ∧
        client'.ibSize = client.ibSize ∧ ∀ d c, ¬s'.Carries d c k

private theorem Sound.none_waiting {lax : Laxity} {s : Daemon} (sound : Sound lax s.sys) (paired : Paired s.sys)
    (closing : s.phase = .closing) {k : ClientPtr} {client : MuxClient} (present : s.clients.client k = some client) :
    client.state ≠ .connecting1 := by
  intro pending
  obtain ⟨d, c, holding, _⟩ := paired k client present (by simp [pending, ClientState.engaged])
  have gone : s.sys.deviceList = [] := sound.linked.registry.ended (.inl closing)
  simpa [gone] using holding.1

private theorem step_restored (env : Env) {s : Daemon} {event : Event} (plenty : ∀ n, (env.sock n).alloc = true)
    (sound : Sound { early := False, poor := False } s.sys) (alive : Alive s.sys) (prudent : Prudent env s event) :
    Restored s (step env s event) := by
  intro k client during tag present pending logged refused
  have unheard : (step env s event) ≠ s := by
    intro same
    rw [same] at logged
    simp [List.self_eq_append_right.mp logged] at refused
  have possible : enabled s event := by
    by_contra impossible
    exact unheard (by simp [step, impossible])
  have paired := (sound.paired.resolve_left id).resolve_left id
  have lasting : event ≠ .clientShutdown := by
    rintro rfl
    exact sound.none_waiting paired (by simpa [enabled] using possible) present pending
  let lax : Laxity := { early := False, poor := False, ends := False }
  have sound' : Sound lax s.sys := Sound.freely.mp sound
  have admitted : Admitted lax env s event :=
    { accepts := fun _ => trivial, reads := fun _ => trivial, arrives := fun _ _ => trivial
      ends := fun last => absurd last lasting, announces := fun _ => ⟨fun _ _ => trivial, trivial, trivial⟩
      polite := .inl trivial, willing := .inr prudent, heard := fun _ _ _ => ⟨trivial, .inl trivial⟩ }
  have grants : Grants env lax := ⟨.inr plenty, fun _ _ _ => trivial, fun _ _ _ _ => trivial⟩
  have steady := step_steady env grants sound' alive admitted
  have allocated : k < s.sys.nextClient := by
    by_contra late
    have fresh : s.sys.client k = (none, []) := sound.linked.roster.fresh k (Nat.not_lt.mp late)
    have absent : s.clients.client k = none := congrArg Prod.fst fresh
    simp [absent] at present
  have start : Attempted (servedClient s event) client (s.clients.log k) k s.sys := by
    refine ⟨allocated, [], by simp [Daemon.sys], ?_⟩
    rw [show (s.sys.client k).1 = some client from present]
    exact .pending pending (.inr ⟨rfl, rfl⟩) (by simp)
  obtain ⟨_, during', logged', attempt⟩ := steady.run.keeps sound'
    (fun _ _ sound change attempted => change.attempted id sound.linked attempted) start
  obtain rfl : during' = during := List.append_cancel_left (logged'.symm.trans logged)
  rcases record : ((step env s event).sys.client k).1 with _ | client'
  · rw [record] at attempt
    cases attempt with
    | other state unrefused => exact absurd refused (unrefused tag)
  · rw [record] at attempt
    cases attempt with
    | pending state input unanswered => simpa using unanswered _ refused
    | refused state foreign input =>
      refine ⟨client', record, state, input.1, input.2, fun d c carries => ?_⟩
      have idle := (steady.sound sound').linked.links.idle_free (Prod.ext record rfl) (by simp [state])
        (by simp [state])
        (by simp [state])
      exact idle d c carries.1 carries.clientOf
    | other state unrefused => exact absurd refused (unrefused tag)

/-- In every run in which allocations succeed and no client asks for a device in its handshake, each
request that `device_start_connect` accepted is still pending, was cut short by the end of its client,
or has been answered once: with `RESULT_OK` when the device sent `SYN|ACK` and the acknowledgement was
submitted, with `RESULT_CONNREFUSED` and the client restored when the attempt ended otherwise. -/
theorem prudent_requests_answered (env : Env) (plenty : ∀ n, (env.sock n).alloc = true) (events : List Event)
    (prudent : Each (fun before event => Prudent env (run env before) event) events) :
    (∀ k before c tag since, (run env events).clients.log k = before ++ .connecting c tag :: since →
      Outcome (ResultMessage env) (run env events).sys k c tag since) ∧
    Each (fun before event => Restored (run env before) (step env (run env before) event)) events := by
  constructor
  · have free : Laxity.Open { early := False, poor := False, answers := ResultMessage env } :=
      ⟨⟨fun _ _ => trivial, trivial, trivial⟩, fun _ _ => trivial, fun _ => trivial, trivial, trivial, trivial⟩
    have start : Answered (ResultMessage env) Daemon.initial.sys := by
      intro k before c tag since logged
      simp [Daemon.sys, Daemon.initial, Clients.initial] at logged
    exact (run_keeps _ env events (.inr prudent) (.inl trivial) (.inl trivial)
      ⟨.inr plenty, fun _ _ _ => trivial, fun _ _ _ result => result⟩ free start
      fun served S S' sound change answered => change.answered id id sound answered).2
  · intro before event after split
    have prudent' : Each (fun before event => Prudent env (run env before) event) (before ++ [event]) := by
      rw [split, List.append_cons] at prudent
      exact prudent.of_append
    obtain ⟨sound, alive⟩ := run_sound { early := False, poor := False } env before (.inr prudent'.of_append)
      (.inl trivial) (.inl trivial) (.inr plenty)
    exact step_restored env plenty sound alive prudent'.last

/-- A client asks for a device that is then unplugged. -/
def interrupted : List Event := session.take 5 ++ [.deviceRemove 0]

private theorem interrupted_prudent :
    Each (fun before event => Prudent sessionEnv (run sessionEnv before) event) interrupted := by
  decide +kernel

/-- It is refused once, and the theorem says with what outcome. -/
theorem interrupted_answered :
    (run sessionEnv interrupted).clients.log 0 =
      [.connecting 0 7, .queued 7 .result (le32 resultConnRefused), .result 7 resultConnRefused] ∧
    Outcome (ResultMessage sessionEnv) (run sessionEnv interrupted).sys 0 0 7
      [.queued 7 .result (le32 resultConnRefused), .result 7 resultConnRefused] ∧
    Restored (run sessionEnv (session.take 5)) (run sessionEnv interrupted) := by
  have answered := prudent_requests_answered sessionEnv (fun _ => rfl) interrupted interrupted_prudent
  have logged : (run sessionEnv interrupted).clients.log 0 =
      [.connecting 0 7, .queued 7 .result (le32 resultConnRefused), .result 7 resultConnRefused] := by decide +kernel
  refine ⟨logged, answered.1 0 [] 0 7 _ logged, ?_⟩
  rw [interrupted, run_snoc]
  exact answered.2 (session.take 5) (.deviceRemove 0) [] rfl

/-- A client asks for a device in its handshake, which then answers and is unplugged. -/
def forgotten : List Event := hastyRequest ++ [.dataInput 0 (.full versionReply), .deviceRemove 0]

/-- The device is gone, and the client still waits for an answer that nobody will give. -/
theorem forgotten_unanswered :
    (run sessionEnv forgotten).clients.log 0 = [.connecting 0 7] ∧ (run sessionEnv forgotten).mux.deviceList = [] ∧
    ((run sessionEnv forgotten).clients.client 0).any (fun client => client.state = .connecting1) ∧
    ¬Outcome (ResultMessage sessionEnv) (run sessionEnv forgotten).sys 0 0 7 [] := by
  have gone : (run sessionEnv forgotten).mux.deviceList = [] := by decide +kernel
  refine ⟨by decide +kernel, gone, by decide +kernel, fun outcome => ?_⟩
  cases outcome with
  | waiting present pending named holds =>
    have listed := holds.1
    simp [Daemon.sys, gone] at listed
  | closed _ split => simp at split
  | accepted split => simp at split
  | refused split => simp at split

end Usbmuxd
