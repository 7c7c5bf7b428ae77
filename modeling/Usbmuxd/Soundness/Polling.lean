import Usbmuxd.Soundness.MainLoop

/-! # Poll results reach the client they are for

`client_process` looks a client up by its descriptor, after other handlers of the same pass may have
closed some clients and accepted another. The pass accepts before anything is closed, so the new client
has a descriptor that no polled client has, and a descriptor of the list leads to the client it was
listed for or to none.
-/

namespace Usbmuxd

open History

/-- Nobody but this client has the descriptor. -/
def Owned (fd : ℤ) (k : ClientPtr) (S : Sys) : Prop :=
  ∀ k' client, (S.client k').1 = some client → client.fd = fd → k' = k

section Polling

variable {env : Env} {fd : ℤ} {k : ClientPtr} {before : List Event}

/-- No other client comes by the descriptor, unless `accept` returns it. -/
private theorem Owned.event {event : Event} (owned : Owned fd k (run env before).sys)
    (free : event = .accept → fd ≠ (env.sock (run env before).clients.tick).accept) :
    Owned fd k (run env (before ++ [event])).sys := by
  obtain ⟨sound, changes⟩ := run_snoc_accepting env before event (fun other => other ≠ fd)
    fun accepts => (free accepts).symm
  refine changes.keeps sound (fun S S' sound change owned k' client' present' same => ?_) owned
  rcases (change.turn sound.linked.roster k').fd present' with ⟨_, other⟩ | ⟨client, present, kept⟩
  · exact absurd same other
  · exact owned k' client present (kept ▸ same)

private theorem Owned.events {batch : List Event} (owned : Owned fd k (run env before).sys) (aside : .accept ∉ batch) :
    Owned fd k (run env (before ++ batch)).sys := by
  induction batch using List.reverseRecOn with
  | nil => simpa using owned
  | append_singleton batch event ih =>
    rw [← List.append_assoc]
    refine (ih fun member => aside (by simp [member])).event fun accepts => ?_
    exact absurd (by simp [accepts]) aside

/-- An entry of the descriptor list is for the workers before its turn and for its own descriptor. -/
private theorem mem_dispatchClient {reports : ℤ → Option Report} {entry : ℤ × PollMask} {event : Event}
    (inside : event ∈ dispatchClient reports entry) :
    (∃ call : WorkerCall, call.event = event) ∨ ∃ mask, event = .clientProcess entry.1 mask := by
  simp only [dispatchClient] at inside
  split at inside
  · cases inside
  · rcases List.mem_append.mp inside with worker | last
    · obtain ⟨call, _, same⟩ := List.mem_map.mp worker
      exact .inl ⟨call, same⟩
    · exact .inr ⟨_, List.mem_singleton.mp last⟩

private theorem accept_not_mem (usb : List UsbCall) (entries : List (ℤ × PollMask)) (reports : ℤ → Option Report) :
    .accept ∉ usb.map UsbCall.event ++ entries.flatMap (dispatchClient reports) := by
  intro member
  rcases List.mem_append.mp member with early | late
  · obtain ⟨call, _, same⟩ := List.mem_map.mp early
    exact call.unserved.2 same
  · obtain ⟨entry, _, inside⟩ := List.mem_flatMap.mp late
    rcases mem_dispatchClient inside with ⟨call, same⟩ | ⟨_, own⟩
    · exact call.unserved.2 same
    · cases own

private theorem dispatched_polled {pass : Pass} {s : Daemon} {mask : PollMask}
    (called : .clientProcess fd mask ∈ pass.events s) :
    ∃ accepts usb reports, pass = .ready accepts usb reports ∧
      ∃ k ∈ s.clients.clientList, ∃ client, s.clients.client k = some client ∧ client.fd = fd := by
  have aside (usb : List UsbCall) : .clientProcess fd mask ∉ usb.map UsbCall.event := by
    intro member
    obtain ⟨call, _, same⟩ := List.mem_map.mp member
    rcases call with _ | _ | _ | (_ | _) <;> cases same
  cases pass with
  | interrupted usb => exact absurd called (aside usb)
  | expired usb => simp [Pass.events, aside] at called
  | ready accepts usb reports =>
    refine ⟨accepts, usb, reports, rfl, ?_⟩
    have opening : .clientProcess fd mask ∉ (if accepts then [Event.accept] else []) := by
      cases accepts <;> simp
    simp only [Pass.events, List.mem_append, opening, aside, false_or, List.mem_flatMap] at called
    obtain ⟨entry, polled, inside⟩ := called
    obtain ⟨client, present, rfl⟩ := List.mem_map.mp polled
    obtain ⟨k, listed, found⟩ := List.mem_filterMap.mp present
    refine ⟨k, listed, client, found, ?_⟩
    rcases mem_dispatchClient inside with ⟨call, same⟩ | ⟨_, own⟩
    · rcases call with _ | _ <;> cases same
    · cases own
      rfl

/-- Throughout a pass, a descriptor of the list belongs to the client it was listed for. -/
private theorem Pass.owned {earlier : List Event} {accepts : Bool} {usb : List UsbCall} {reports : ℤ → Option Report}
    (fresh : Each (fun before event => FreshFd env (run env before) event)
      (earlier ++ (Pass.ready accepts usb reports).events (run env earlier)))
    (listed : k ∈ (run env earlier).clients.clientList) {client : MuxClient}
    (present : (run env earlier).clients.client k = some client) {calls rest : List Event}
    (split : (Pass.ready accepts usb reports).events (run env earlier) = calls ++ rest) :
    Owned client.fd k (run env (earlier ++ calls)).sys := by
  have start : Owned client.fd k (run env earlier).sys := fun k' client' present' same =>
    run_distinct env earlier fresh.of_append k' k client' client present' present same
  have shape : (Pass.ready accepts usb reports).events (run env earlier) = (if accepts then [.accept] else []) ++
      (usb.map UsbCall.event ++ (clientGetFds (run env earlier)).flatMap (dispatchClient reports)) := by
    simp [Pass.events]
  have later := accept_not_mem usb (clientGetFds (run env earlier)) reports
  have inside : calls <+: (Pass.ready accepts usb reports).events (run env earlier) := ⟨rest, split.symm⟩
  cases accepts with
  | false =>
    rw [shape] at inside
    exact start.events fun member => later (inside.subset member)
  | true =>
    rcases calls with _ | ⟨first, calls⟩
    · simpa using start
    · rw [shape] at inside
      obtain ⟨rfl, within⟩ := List.cons_prefix_cons.mp inside
      have kernel : FreshFd env (run env earlier) .accept :=
        fresh earlier .accept (usb.map UsbCall.event ++ (clientGetFds (run env earlier)).flatMap
          (dispatchClient reports))
          (by rw [shape]; rfl)
      have accepted : Owned client.fd k (run env (earlier ++ [.accept])).sys :=
        start.event fun _ => kernel k listed client present
      rw [show earlier ++ Event.accept :: calls = earlier ++ [.accept] ++ calls by simp]
      exact accepted.events fun member => later (within.subset member)

end Polling

/-- Every call of `client_process` in a pass is applied to the client that had the descriptor when the
poll list was built, or to none. -/
theorem poll_results_delivered (env : Env) (earlier : List Pass) (pass : Pass)
    (fresh : Each (fun before event => FreshFd env (run env before) event) (loopEvents env (earlier ++ [pass])))
    {calls rest : List Event} {fd : ℤ} {mask : PollMask}
    (split : pass.events (run env (loopEvents env earlier)) = calls ++ .clientProcess fd mask :: rest) :
    let start := run env (loopEvents env earlier)
    let s := run env (loopEvents env earlier ++ calls)
    ∃ k ∈ start.clients.clientList, ∃ client, start.clients.client k = some client ∧ client.fd = fd ∧
      (servedClient s (.clientProcess fd mask) = some k ∨
        servedClient s (.clientProcess fd mask) = none ∧ step env s (.clientProcess fd mask) = s) := by
  intro start s
  have called : .clientProcess fd mask ∈ pass.events start := by simp [start, split]
  obtain ⟨accepts, usb, reports, rfl, k, listed, client, present, rfl⟩ := dispatched_polled called
  refine ⟨k, listed, client, present, rfl, ?_⟩
  rw [loopEvents_snoc] at fresh
  have owned : Owned client.fd k s.sys := Pass.owned fresh listed present split
  rcases served : servedClient s (.clientProcess client.fd mask) with _ | k'
  · refine .inr ⟨rfl, ?_⟩
    simp only [servedClient] at served
    simp only [step, clientProcess, served, ite_self]
  · obtain ⟨client', present', same⟩ := servedClient_fd served
    exact .inl (congrArg some (owned k' client' present' same))

/-- The session again, with a new descriptor from every `accept`. -/
def reusingEnv : Env := { sessionEnv with sock := fun n => { sessionEnv.sock n with accept := 5 + n } }

/-- The connected client is found readable, but another one is accepted and the device leaves before its
turn. -/
def leaving : Pass := .ready true [.deviceRemove 0] fun _ => some ⟨true, true, []⟩

theorem leaving_delivered :
    let start := run reusingEnv (loopEvents reusingEnv patient)
    let s := run reusingEnv (loopEvents reusingEnv patient ++ [.accept, .deviceRemove 0])
    (∃ k ∈ start.clients.clientList, ∃ client, start.clients.client k = some client ∧ client.fd = 5 ∧
      (servedClient s (.clientProcess 5 ⟨true, false⟩) = some k ∨
        servedClient s (.clientProcess 5 ⟨true, false⟩) = none ∧
          step reusingEnv s (.clientProcess 5 ⟨true, false⟩) = s)) ∧
    s.clients.clientList = [1] := by
  refine ⟨?_, by decide +kernel⟩
  exact @poll_results_delivered reusingEnv patient leaving (by decide +kernel) [.accept, .deviceRemove 0] [] 5
    ⟨true, false⟩ rfl

end Usbmuxd
