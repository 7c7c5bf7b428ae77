import Mathlib.Data.List.Infix
import Usbmuxd.Machine.Reading
import Usbmuxd.Model.MainLoop
import Usbmuxd.Soundness.Masks

/-! # Commands are read with a command buffer

A client that is sent its acceptance has no command buffer any more and is not polled for input. The
readiness of a pass is collected before USB is processed, though: a client that sends something while
it waits and is accepted in the same pass is dispatched for input without a buffer. Runs of the main
loop in which this does not happen read only with a buffer.
-/

namespace Usbmuxd

open History

section Turns

variable {lax : Laxity} {served : Option ClientPtr} {S S' : Sys} {k : ClientPtr}

/-- A client keeps its descriptor. -/
theorem Turn.fd (turn : Turn lax served S S' k) {client' : MuxClient} (present' : (S'.client k).1 = some client') :
    (k = S.nextClient ∧ lax.accepts client'.fd) ∨ ∃ client, (S.client k).1 = some client ∧ client'.fd = client.fd := by
  cases turn with
  | moved move =>
    obtain ⟨client, events, present, after, kept⟩ := move.backward present'
    exact .inr ⟨client, present, kept.identity.1⟩
  | polled events before after =>
    rw [after] at present'
    obtain rfl := Option.some.inj present'
    exact .inr ⟨_, congrArg Prod.fst before, by simp⟩
  | accepted fd number next fresh free after =>
    rw [after] at present'
    obtain rfl := Option.some.inj present'
    exact .inl ⟨next, free⟩
  | requested tag device own before idle holds record owner after =>
    rw [after] at present'
    obtain rfl := Option.some.inj present'
    exact .inr ⟨_, congrArg Prod.fst before, rfl⟩
  | told c devents before pending holds record owner shown posts answers after =>
    rw [after] at present'
    obtain rfl := Option.some.inj present'
    exact .inr ⟨_, congrArg Prod.fst before, rfl⟩
  | refused c before pending foreign holds record owner gone unseen posts answers after =>
    rw [after] at present'
    obtain rfl := Option.some.inj present'
    exact .inr ⟨_, congrArg Prod.fst before, rfl⟩
  | closed before cause farewell after => simp [after] at present'

/-- Where a client may be that has not been served meanwhile: only a pending request moves it. -/
def ClientState.Later (state state' : ClientState) : Prop :=
  state' = state ∨ state = .connecting1 ∧ (state' = .command ∨ state' = .connecting2)

private theorem ClientState.Later.trans {first second third : ClientState} (one : first.Later second)
    (two : second.Later third) :
    first.Later third := by
  rcases one with rfl | ⟨rfl, rfl | rfl⟩
  · exact two
  · rcases two with rfl | ⟨other, _⟩
    · exact .inr ⟨rfl, .inl rfl⟩
    · cases other
  · rcases two with rfl | ⟨other, _⟩
    · exact .inr ⟨rfl, .inr rfl⟩
    · cases other

private theorem Turn.later (turn : Turn lax served S S' k) (foreign : served ≠ some k) {client' : MuxClient}
    (present' : (S'.client k).1 = some client') :
    k = S.nextClient ∨ ∃ client, (S.client k).1 = some client ∧ client.state.Later client'.state := by
  cases turn with
  | moved move =>
    obtain ⟨client, events, present, after, kept⟩ := move.backward present'
    exact .inr ⟨client, present, .inl (kept.state.resolve_right fun ⟨own, _⟩ => foreign own)⟩
  | polled events before after =>
    rw [after] at present'
    obtain rfl := Option.some.inj present'
    exact .inr ⟨_, congrArg Prod.fst before, .inl (by simp)⟩
  | accepted fd number next => exact .inl next
  | requested tag device own => exact absurd own foreign
  | told c devents before pending holds record owner shown posts answers after =>
    rw [after] at present'
    obtain rfl := Option.some.inj present'
    exact .inr ⟨_, congrArg Prod.fst before, .inr ⟨pending, .inr rfl⟩⟩
  | refused c before pending foreign holds record owner gone unseen posts answers after =>
    rw [after] at present'
    obtain rfl := Option.some.inj present'
    exact .inr ⟨_, congrArg Prod.fst before, .inr ⟨pending, .inl rfl⟩⟩
  | closed before cause farewell after => simp [after] at present'

private theorem Turn.undead (turn : Turn lax served S S' k)
    (known : ∀ client, (S.client k).1 = some client → client.state ≠ .dead) {client' : MuxClient}
    (present' : (S'.client k).1 = some client') : client'.state ≠ .dead := by
  cases turn with
  | moved move =>
    obtain ⟨client, events, present, after, kept⟩ := move.backward present'
    have undead := known client present
    rcases kept.state with same | ⟨_, ⟨_, state⟩ | ⟨_, state⟩⟩
    · rwa [same]
    · simp [state]
    · simp [state]
  | polled events before after =>
    rw [after] at present'
    obtain rfl := Option.some.inj present'
    simpa using known _ (congrArg Prod.fst before)
  | accepted fd number next fresh free after =>
    rw [after] at present'
    obtain rfl := Option.some.inj present'
    simp [newClient]
  | requested tag device own before idle holds record owner after =>
    rw [after] at present'
    obtain rfl := Option.some.inj present'
    simp
  | told c devents before pending holds record owner shown posts answers after =>
    rw [after] at present'
    rw [← Option.some.inj present']
    simp
  | refused c before pending foreign holds record owner gone unseen posts answers after =>
    rw [after] at present'
    rw [← Option.some.inj present']
    simp
  | closed before cause farewell after => simp [after] at present'

end Turns

/-- A descriptor that `accept` returns is not that of another client. -/
def FreshFd (env : Env) (s : Daemon) : Event → Prop
  | .accept => ∀ k ∈ s.clients.clientList, ∀ client ∈ s.clients.client k, client.fd ≠ (env.sock s.clients.tick).accept
  | _ => True

instance (env : Env) (s : Daemon) (event : Event) : Decidable (FreshFd env s event) := by
  cases event <;> simp only [FreshFd] <;> infer_instance

/-- The clients that wait for their connection and are found readable. -/
def Pass.eager (s : Daemon) : Pass → List ClientPtr
  | ready _ _ reports => s.clients.clientList.filter fun k =>
    (s.clients.client k).any fun client => client.state = .connecting1 && (reports client.fd).any (·.readable)
  | _ => []

/-- No client that is found readable while it waits is accepted in the same pass. -/
def Pass.Punctual (env : Env) (earlier : List Event) (pass : Pass) : Prop :=
  ∀ k ∈ pass.eager (run env earlier), ∀ calls ∈ (pass.events (run env earlier)).inits,
    ∀ client ∈ (run env (earlier ++ calls)).clients.client k, client.state ≠ .connecting2

instance (env : Env) (earlier : List Event) (pass : Pass) : Decidable (pass.Punctual env earlier) :=
  inferInstanceAs (Decidable (∀ k ∈ pass.eager (run env earlier), ∀ calls ∈ (pass.events (run env earlier)).inits,
    ∀ client ∈ (run env (earlier ++ calls)).clients.client k, client.state ≠ .connecting2))

/-- If the event executes `input_buffer_process`, the client has a command buffer. -/
def Buffered (s : Daemon) (event : Event) : Prop :=
  ∀ k, readingClient s event = some k → ∃ client, s.clients.client k = some client ∧ client.ibBuf.isSome ∧
    (client.state = .command ∨ client.state = .listen ∨ client.state = .connecting1)

/-- A run in which only these descriptors are accepted. -/
def accepting (accepts : ℤ → Prop) : Laxity where
  early := True
  poor := True
  accepts := accepts

/-- The steps of the last event of a run, with what it accepts. -/
theorem run_snoc_accepting (env : Env) (before : List Event) (event : Event) (accepts : ℤ → Prop)
    (free : event = .accept → accepts (env.sock (run env before).clients.tick).accept) :
    Sound (accepting accepts) (run env before).sys ∧ SysRun (accepting accepts) (servedClient (run env before) event)
      (run env before).sys (run env (before ++ [event])).sys := by
  obtain ⟨sound, alive⟩ := run_sound_anything env before
  have sound : Sound (accepting accepts) (run env before).sys := Sound.freely.mp sound
  have admitted : Admitted (accepting accepts) env (run env before) event :=
    { accepts := free, reads := fun _ => trivial, arrives := fun _ _ => trivial
      ends := fun _ => trivial, announces := fun _ => ⟨fun _ _ => trivial, trivial, trivial⟩
      polite := .inl trivial, willing := .inl trivial, heard := fun _ _ _ => ⟨trivial, .inl trivial⟩ }
  have grants : Grants env (accepting accepts) := ⟨.inl trivial, fun _ _ _ => trivial, fun _ _ _ _ => trivial⟩
  rw [run_snoc]
  exact ⟨sound, (step_steady env grants sound alive admitted).run⟩

/-- What becomes of a client that is found in the descriptor list, before it is its turn: nobody else
has its descriptor, and only an answer to its request changes its state. -/
structure Tracked (client₀ : MuxClient) (k₀ : ClientPtr) (S : Sys) : Prop where
  known : k₀ < S.nextClient
  unique : ∀ k client, (S.client k).1 = some client → (client.fd = client₀.fd ↔ k = k₀)
  later : ∀ client, (S.client k₀).1 = some client → client₀.state.Later client.state

private theorem Tracked.step {client₀ : MuxClient} {k₀ : ClientPtr} {lax : Laxity} {served : Option ClientPtr}
    {S S' : Sys}
    (tracked : Tracked client₀ k₀ S) (foreign : served ≠ some k₀) (accepts : ¬lax.accepts client₀.fd)
    (linked : Linked S) (change : SysStep lax served S S') : Tracked client₀ k₀ S' where
  known := tracked.known.trans_le change.nextClient_le
  unique k client' present' := by
    rcases (change.turn linked.roster k).fd present' with ⟨rfl, free⟩ | ⟨client, present, same⟩
    · refine iff_of_false (fun taken => accepts (taken ▸ free)) (Nat.ne_of_gt tracked.known)
    · rw [same]
      exact tracked.unique k client present
  later client' present' := by
    rcases (change.turn linked.roster k₀).later foreign present' with new | ⟨client, present, moved⟩
    · exact absurd new (Nat.ne_of_lt tracked.known)
    · exact (tracked.later client present).trans moved

private theorem Tracked.event {client₀ : MuxClient} {k₀ : ClientPtr} {env : Env} {before : List Event} {event : Event}
    (tracked : Tracked client₀ k₀ (run env before).sys) (foreign : servedClient (run env before) event ≠ some k₀)
    (free : event = .accept → client₀.fd ≠ (env.sock (run env before).clients.tick).accept) :
    Tracked client₀ k₀ (run env (before ++ [event])).sys := by
  obtain ⟨sound, changes⟩ := run_snoc_accepting env before event (fun fd => fd ≠ client₀.fd)
    fun accepting => (free accepting).symm
  have closed : ¬(accepting fun fd => fd ≠ client₀.fd).accepts client₀.fd := fun other => other rfl
  exact changes.keeps sound (fun S S' sound change tracked => tracked.step foreign closed sound.linked change) tracked

/-- No two clients have the same descriptor. -/
def Distinct (S : Sys) : Prop :=
  ∀ k k' client client', (S.client k).1 = some client → (S.client k').1 = some client' → client.fd = client'.fd → k = k'

private theorem distinct_accept (env : Env) {s : Daemon} (distinct : Distinct s.sys)
    (listed : ∀ k, k ∈ s.clients.clientList ↔
    (s.clients.client k).isSome) (fresh : FreshFd env s .accept) :
    Distinct (s.setClients (clientAccept env s.clients)).sys := by
  have old {k : ClientPtr} {client : MuxClient} (present : s.clients.client k = some client) :
      client.fd ≠ (env.sock s.clients.tick).accept :=
    fresh k ((listed k).mpr (by simp [present])) client present
  simp only [clientAccept]
  split
  · exact distinct
  · intro k k' client client' present present' same
    simp only [Daemon.sys, Daemon.setClients, Clients.setClient, Clients.bump,
      Function.update_apply] at present present'
    split at present <;> split at present'
    · next here here' => rw [here, here']
    · obtain rfl := Option.some.inj present
      exact absurd same.symm (old present')
    · obtain rfl := Option.some.inj present'
      exact absurd same (old present)
    · exact distinct k k' client client' present present' same

/-- Between two events of a loop the descriptors are distinct. -/
theorem run_distinct (env : Env) (events : List Event)
    (fresh : Each (fun before event => FreshFd env (run env before) event) events) : Distinct (run env events).sys := by
  induction events using List.reverseRecOn with
  | nil => exact fun k k' client client' present => nomatch present
  | append_singleton before event ih =>
    have distinct := ih fresh.of_append
    by_cases accepting : event = .accept
    · subst accepting
      rw [run_snoc, step]
      split
      · exact distinct_accept env distinct (run_sound_anything env before).1.linked.roster.listed fresh.last
      · exact distinct
    · obtain ⟨sound, changes⟩ := run_snoc_accepting env before event (fun _ => False) (absurd · accepting)
      refine changes.keeps sound (fun S S' sound change distinct => ?_) distinct
      intro k k' client client' present present' same
      obtain ⟨_, free⟩ | ⟨first, before, kept⟩ := (change.turn sound.linked.roster k).fd present
      · exact free.elim
      obtain ⟨_, free⟩ | ⟨second, before', kept'⟩ := (change.turn sound.linked.roster k').fd present'
      · exact free.elim
      exact distinct k k' first second before before' (by rw [← kept, same, kept'])

private theorem run_undead (env : Env) (events : List Event) {k : ClientPtr} {client : MuxClient}
    (present : (run env events).clients.client k = some client) : client.state ≠ .dead := by
  have kept := run_keeps anything env events (.inl trivial) (.inl trivial) (.inl trivial) (grants_anything env)
    open_anything (motive := fun S => ∀ k client, (S.client k).1 = some client → client.state ≠ .dead)
    (by simp [Daemon.sys, Daemon.initial, Clients.initial])
    fun served S S' sound change known k client present => (change.turn sound.linked.roster k).undead (known k) present
  exact kept.2 k client present

/-- A client that is in the descriptor list has a command buffer when its turn comes to be read from. -/
private theorem Tracked.buffered {env : Env} {before : List Event} {client₀ : MuxClient} {k₀ : ClientPtr}
    {event : Event}
    {fd : ℤ} {mask : PollMask} (tracked : Tracked client₀ k₀ (run env before).sys)
    (named : event = .clientProcess fd mask) (same : fd = client₀.fd) (undead : client₀.state ≠ .dead)
    (polled : mask.pollin = true → client₀.state ≠ .connecting2)
    (punctual : mask.pollin = true → client₀.state = .connecting1 →
      ∀ client, (run env before).clients.client k₀ = some client → client.state ≠ .connecting2) :
    Buffered (run env before) event := by
  subst named same
  intro k reading
  obtain ⟨client, present, unconnected, listed, served, _⟩ := step_of_reading env reading
  have readable : mask.pollin = true := by
    simp only [readingClient] at reading
    split at reading
    · obtain ⟨_, reads⟩ := Option.filter_eq_some_iff.mp reading
      simp only [present, Option.any_some, Bool.and_eq_true] at reads
      exact reads.2
    · cases reading
  have named : client.fd = client₀.fd := by
    have found := List.find?_some served
    simpa [present] using found
  obtain rfl : k = k₀ := (tracked.unique k client present).mp named
  have framed : client.state = .command ∨ client.state = .listen ∨ client.state = .connecting1 := by
    rcases tracked.later client present with unchanged | ⟨waiting, refused | accepted⟩
    · rw [unchanged] at unconnected ⊢
      have told := polled readable
      generalize client₀.state = state at *
      cases state <;> simp_all
    · exact .inl refused
    · exact absurd accepted (punctual readable waiting client present)
  refine ⟨client, present, ?_, framed⟩
  rw [((run_sound_anything env before).1.client_ok present).input]
  rcases framed with state | state | state <;> rw [state] <;> rfl

/-- The client that is served has the descriptor that is dispatched. -/
theorem servedClient_fd {s : Daemon} {fd : ℤ} {mask : PollMask} {k : ClientPtr}
    (served : servedClient s (.clientProcess fd mask) = some k) :
    ∃ client, s.clients.client k = some client ∧ client.fd = fd := by
  have found := List.find?_some served
  rcases present : s.clients.client k with _ | client
  · simp [present] at found
  · exact ⟨client, rfl, by simpa [present] using found⟩

/-- The event serves no client. -/
def Event.Unserved (event : Event) : Prop := ∀ s, servedClient s event = none

private theorem Event.Unserved.buffered {event : Event} (unserved : event.Unserved) (env : Env) (s : Daemon) :
    Buffered s event := by
  intro k reading
  obtain ⟨_, _, _, _, served, _⟩ := step_of_reading env reading
  simp [unserved s] at served

theorem WorkerCall.unserved (call : WorkerCall) : call.event.Unserved ∧ call.event ≠ .accept := by
  cases call <;> exact ⟨fun _ => rfl, nofun⟩

theorem UsbCall.unserved (call : UsbCall) : call.event.Unserved ∧ call.event ≠ .accept := by
  cases call with
  | meanwhile call => exact call.unserved
  | _ => exact ⟨fun _ => rfl, nofun⟩

section Passes

variable {env : Env} {earlier : List Event}

/-- A client is tracked through what happens without serving a client. -/
private theorem Tracked.events {client₀ : MuxClient} {k₀ : ClientPtr} {before batch : List Event}
    (tracked : Tracked client₀ k₀ (run env before).sys) (aside : ∀ event ∈ batch, event.Unserved ∧ event ≠ .accept) :
    Tracked client₀ k₀ (run env (before ++ batch)).sys := by
  induction batch using List.reverseRecOn with
  | nil => simpa using tracked
  | append_singleton batch event ih =>
    obtain ⟨unserved, other⟩ := aside event (by simp)
    rw [← List.append_assoc]
    exact (ih fun event member => aside event (by simp [member])).event (by simp [unserved _]) (absurd · other)

private theorem each_unserved {batch : List Event} (aside : ∀ event ∈ batch, event.Unserved) (before : List Event) :
    Each (fun calls event => Buffered (run env (before ++ calls)) event) batch := by
  intro calls event after split
  exact (aside event (by simp [split])).buffered env _

/-- The dispatches of some of the clients that were polled. -/
def dispatches (s : Daemon) (reports : ℤ → Option Report) (ks : List ClientPtr) : List Event :=
  ((ks.filterMap s.clients.client).map fun client => (client.fd, client.events)).flatMap (dispatchClient reports)

private theorem dispatches_cons {s : Daemon} {k : ClientPtr} {client : MuxClient}
    (present : s.clients.client k = some client)
    (reports : ℤ → Option Report) (ks : List ClientPtr) :
    dispatches s reports (k :: ks) = dispatchClient reports (client.fd, client.events) ++ dispatches s reports ks := by
  simp [dispatches, present]

/-- Every client of the descriptor list is tracked while the clients before it have their turn. -/
private theorem dispatches_buffered {reports : ℤ → Option Report} {ks : List ClientPtr} (nodup : ks.Nodup)
    {calls : List Event}
    (present : ∀ k ∈ ks, ∃ client, (run env earlier).clients.client k = some client)
    (tracked : ∀ k ∈ ks, ∀ client, (run env earlier).clients.client k = some client →
      Tracked client k (run env (earlier ++ calls)).sys)
    (punctual : ∀ k ∈ ks, ∀ client, (run env earlier).clients.client k = some client → client.state = .connecting1 →
      (reports client.fd).any (·.readable) → ∀ more, more <+: dispatches (run env earlier) reports ks →
        ∀ client', (run env (earlier ++ (calls ++ more))).clients.client k = some client' →
          client'.state ≠ .connecting2) :
    Each (fun before event => Buffered (run env (earlier ++ calls ++ before)) event)
      (dispatches (run env earlier) reports ks) := by
  induction ks generalizing calls with
  | nil => exact each_nil _
  | cons k ks ih =>
    obtain ⟨client, found⟩ := present k (by simp)
    obtain ⟨absent, nodup⟩ := List.nodup_cons.mp nodup
    have shape := dispatches_cons found reports ks
    rw [shape]
    rcases reported : reports client.fd with _ | report
    · have none : dispatchClient reports (client.fd, client.events) = [] := by simp [dispatchClient, reported]
      rw [none, List.nil_append] at shape ⊢
      rw [shape] at punctual
      exact ih nodup (fun k member => present k (by simp [member])) (fun k member => tracked k (by simp [member]))
        fun k member => punctual k (by simp [member])
    · set mask : PollMask := ⟨client.events.pollin && report.readable, client.events.pollout && report.writable⟩
      have both : dispatchClient reports (client.fd, client.events) =
          report.meanwhile.map WorkerCall.event ++ [.clientProcess client.fd mask] := by
        simp [dispatchClient, reported, mask]
      have aside : ∀ event ∈ report.meanwhile.map WorkerCall.event, event.Unserved ∧ event ≠ .accept := by
        intro event member
        obtain ⟨call, _, rfl⟩ := List.mem_map.mp member
        exact call.unserved
      have turn {k' : ClientPtr} (member : k' ∈ k :: ks) {client' : MuxClient}
          (found' : (run env earlier).clients.client k' = some client') :
          Tracked client' k' (run env (earlier ++ calls ++ report.meanwhile.map WorkerCall.event)).sys :=
        (tracked k' member client' found').events aside
      rw [both] at shape ⊢
      refine each_append (each_append (each_unserved (fun event member => (aside event member).1) _) ?_) ?_
      · refine each_snoc (each_nil _) ?_
        rw [List.append_nil]
        refine (turn List.mem_cons_self found).buffered rfl rfl (run_undead env earlier found) ?_ ?_
        · intro readable told
          simp [mask, ((run_sound_anything env earlier).1.client_ok found).masks.told told] at readable
        · intro readable waiting client' found'
          obtain ⟨_, readable⟩ : client.events.pollin = true ∧ report.readable = true := by simpa [mask] using readable
          refine punctual k List.mem_cons_self client found waiting (by simpa [reported] using readable)
            (report.meanwhile.map WorkerCall.event) ?_ client' (by rwa [← List.append_assoc])
          rw [shape, List.append_assoc]
          exact List.prefix_append ..
      · set front := report.meanwhile.map WorkerCall.event ++ [.clientProcess client.fd mask]
        have following : ∀ k' ∈ ks, ∀ client', (run env earlier).clients.client k' = some client' →
            Tracked client' k' (run env (earlier ++ (calls ++ front))).sys := by
          intro k' member client' found'
          have tracked' := turn (List.mem_cons_of_mem _ member) found'
          have split : earlier ++ (calls ++ front) =
              earlier ++ calls ++ report.meanwhile.map WorkerCall.event ++ [.clientProcess client.fd mask] := by
            simp [front]
          rw [split]
          refine tracked'.event (fun served => ?_) nofun
          obtain ⟨other, there, same⟩ := servedClient_fd served
          have here := ((turn List.mem_cons_self found).unique k' other there).mp same
          exact absurd (here ▸ member) absent
        have tail := ih nodup (fun k member => present k (by simp [member])) following
          fun k member client found waiting readable more before client' found' =>
            punctual k (by simp [member]) client found waiting readable (front ++ more)
              (by rw [shape]; exact (List.prefix_append_right_inj front).mpr before) client' (by simpa using found')
        simpa only [List.append_assoc] using tail

private theorem tracked_start (fresh : Each (fun before event => FreshFd env (run env before) event) earlier)
    {k : ClientPtr}
    {client : MuxClient} (present : (run env earlier).clients.client k = some client) :
    Tracked client k (run env earlier).sys where
  known := by
    by_contra beyond
    have absent := (run_sound_anything env earlier).1.linked.roster.fresh k (Nat.le_of_not_lt beyond)
    simp [Daemon.sys, present] at absent
  unique k' client' present' := by
    constructor
    · exact fun same => run_distinct env earlier fresh k' k client' client present' present same
    · rintro rfl
      rw [Option.some.inj (present'.symm.trans present)]
  later client' present' := by
    rw [Option.some.inj (present'.symm.trans present)]
    exact .inl rfl

private theorem Pass.buffered {pass : Pass} (punctual : pass.Punctual env earlier)
    (fresh : Each (fun before event => FreshFd env (run env before) event) (earlier ++ pass.events (run env earlier))) :
    Each (fun calls event => Buffered (run env (earlier ++ calls)) event) (pass.events (run env earlier)) := by
  have usual (usb : List UsbCall) : ∀ event ∈ usb.map UsbCall.event, event.Unserved ∧ event ≠ .accept := by
    intro event member
    obtain ⟨call, _, rfl⟩ := List.mem_map.mp member
    exact call.unserved
  cases pass with
  | interrupted usb => exact each_unserved (fun event member => (usual usb event member).1) _
  | expired usb =>
    refine each_unserved (fun event member => ?_) _
    rcases List.mem_append.mp member with early | last
    · exact (usual usb event early).1
    · rw [List.mem_singleton.mp last]
      exact fun _ => rfl
  | ready accepts usb reports =>
    set opening : List Event := (if accepts then [.accept] else []) ++ usb.map UsbCall.event
    have shape : (Pass.ready accepts usb reports).events (run env earlier) =
        opening ++ dispatches (run env earlier) reports (run env earlier).clients.clientList := rfl
    have roster := (run_sound_anything env earlier).1.linked.roster
    rw [shape] at fresh ⊢
    refine each_append (each_unserved (fun event member => ?_) _) ?_
    · rcases List.mem_append.mp member with first | later
      · cases accepts with
        | false => cases first
        | true =>
          rw [List.mem_singleton.mp first]
          exact fun _ => rfl
      · exact (usual usb event later).1
    · simp only [← List.append_assoc]
      refine dispatches_buffered roster.nodup (fun k member => ?_) (fun k member client found => ?_) ?_
      · exact Option.isSome_iff_exists.mp ((roster.listed k).mp member)
      · have tracked := tracked_start fresh.of_append found
        rw [← List.append_assoc]
        refine Tracked.events ?_ (usual usb)
        cases accepts with
        | false => simpa using tracked
        | true =>
          refine tracked.event nofun fun _ => ?_
          have kernel : FreshFd env (run env earlier) .accept :=
            fresh earlier .accept
              (usb.map UsbCall.event ++ dispatches (run env earlier) reports (run env earlier).clients.clientList)
              (by simp [opening])
          exact kernel k member client found
      · intro k member client found waiting readable more before client' found'
        refine punctual k ?_ (opening ++ more) ?_ client' found'
        · have listed : k ∈ (run env earlier).clients.clientList := member
          simp [Pass.eager, listed, found, waiting, readable]
        · rw [List.mem_inits, shape]
          exact (List.prefix_append_right_inj opening).mpr before

end Passes

/-- As long as no client that is readable while it waits for its connection is accepted in the same
pass, `input_buffer_process` is only executed for clients that have a command buffer. -/
theorem punctual_loop_buffered (env : Env) (passes : List Pass)
    (fresh : Each (fun before event => FreshFd env (run env before) event) (loopEvents env passes))
    (punctual : Each (fun earlier pass => pass.Punctual env (loopEvents env earlier)) passes) :
    Each (fun before event => Buffered (run env before) event) (loopEvents env passes) := by
  induction passes using List.reverseRecOn with
  | nil => exact each_nil _
  | append_singleton earlier pass ih =>
    rw [loopEvents_snoc] at fresh ⊢
    exact each_append (ih fresh.of_append punctual.of_append) (Pass.buffered punctual.last fresh)

/-- A client asks for a device; the two parts of its command come in different passes. -/
def requesting : List Pass :=
  [.interrupted [.deviceAdd 0, .dataInput 0 (.full versionReply)], .ready true [] fun _ => none,
    .ready false [] fun _ => some ⟨true, false, []⟩, .ready false [] fun _ => some ⟨true, false, []⟩]

/-- It waits for the acceptance of its request and for its result. -/
def patient : List Pass :=
  requesting ++ [.ready false [.dataInput 0 (.full acceptance)] fun _ => none,
    .ready false [] fun _ => some ⟨false, true, []⟩]

private theorem patient_events : loopEvents sessionEnv patient = session ++ [.clientProcess 5 ⟨false, true⟩] := rfl

private theorem session_fresh :
    Each (fun before event => FreshFd sessionEnv (run sessionEnv before) event) session := by
  decide +kernel

private theorem patient_punctual :
    Each (fun earlier pass => pass.Punctual sessionEnv (loopEvents sessionEnv earlier)) patient := by
  decide +kernel

/-- The patient client gets its tunnel, and what was read from it before went to its command buffer. -/
theorem patient_buffered :
    ((run sessionEnv (loopEvents sessionEnv patient)).clients.client 0).any (fun client => client.state = .connected) ∧
    Each (fun before event => Buffered (run sessionEnv before) event) (loopEvents sessionEnv patient) :=
  ⟨by decide +kernel, punctual_loop_buffered sessionEnv patient
    (patient_events ▸ each_snoc session_fresh trivial) patient_punctual⟩

/-- The client sends something in the pass in which the device accepts its request. -/
def impatient : List Pass :=
  requesting ++ [.ready false [.dataInput 0 (.full acceptance)] fun _ => some ⟨true, false, []⟩]

/-- The last call of that pass executes `input_buffer_process` for a client in `CLIENT_CONNECTING2`,
whose command buffer is gone. -/
theorem impatient_unbuffered :
    loopEvents sessionEnv impatient = session ++ [.clientProcess 5 ⟨true, false⟩] ∧
    Each (fun before event => FreshFd sessionEnv (run sessionEnv before) event) (loopEvents sessionEnv impatient) ∧
    readingClient (run sessionEnv session) (.clientProcess 5 ⟨true, false⟩) = some 0 ∧
    ((run sessionEnv session).clients.client 0).map (fun client => (client.state, client.ibBuf)) =
      some (.connecting2, none) ∧
    ¬Each (fun before event => Buffered (run sessionEnv before) event) (loopEvents sessionEnv impatient) := by
  have reading : readingClient (run sessionEnv session) (.clientProcess 5 ⟨true, false⟩) = some 0 := by decide +kernel
  have without : ((run sessionEnv session).clients.client 0).map (fun client => (client.state, client.ibBuf)) =
      some (.connecting2, none) := by
    decide +kernel
  have events : loopEvents sessionEnv impatient = session ++ [.clientProcess 5 ⟨true, false⟩] := rfl
  refine ⟨events, events ▸ each_snoc session_fresh trivial, reading, without, fun all => ?_⟩
  rw [events] at all
  obtain ⟨client, present, buffered, _⟩ := all.last 0 reading
  rw [present] at without
  simp only [Option.map_some, Option.some.injEq, Prod.mk.injEq] at without
  rw [without.2] at buffered
  cases buffered

end Usbmuxd
