import Usbmuxd.Proofs.Commands

/-! # The daemon refines the system

Every event is a sequence of steps of the abstract system, so the invariant of the system holds in
every state the daemon reaches. Nothing is assumed for the lax invariant; the strict one needs
allocations that succeed and clients that only ask for devices that have completed their handshake.
-/

namespace Usbmuxd

open Collection History

private theorem clientAccept_steady {lax : Laxity} (env : Env) {s : Daemon}
    (accepts : lax.accepts (env.sock s.clients.tick).accept) :
    Steady lax none s.sys (s.setClients (clientAccept env s.clients)).sys := by
  simp only [clientAccept]
  split
  · exact .refl _
  · set answer := env.sock s.clients.tick
    refine ⟨.single ?_, fun alive => alive⟩
    have step : SysStep lax none s.sys _ :=
      .accept s.sys answer.accept s.clients.clientNumber answer.slot accepts
    have stored := sys_setClient s { s.clients.bump with
      nextClient := s.clients.nextClient + 1
      clientNumber := s.clients.clientNumber + 1
      clientList := add answer.slot s.clients.nextClient s.clients.clientList } s.clients.nextClient
        (newClient answer.accept s.clients.clientNumber)
    exact stored ▸ step

/-- A run admits an event. -/
structure Admitted (lax : Laxity) (env : Env) (s : Daemon) (event : Event) : Prop where
  accepts : event = .accept → lax.accepts (env.sock s.clients.tick).accept
  reads : (readingClient s event).isSome → lax.reads
  arrives : ∀ u, event = .deviceAdd u → lax.arrives
  ends : event = .clientShutdown → lax.ends
  announces : stirs env s event → lax.Announces
  polite : lax.rude ∨ Orderly env s event
  willing : lax.early ∨ Prudent env s event
  heard : ∀ c bytes, arrival s event = some (c, bytes) → lax.Welcomes s.mux c bytes

/-- Every event is a run of the system. -/
theorem step_steady {lax : Laxity} (env : Env) {s : Daemon} (grants : Grants env lax) (sound : Sound lax s.sys)
    (alive : Alive s.sys) {event : Event} (admitted : Admitted lax env s event) :
    Steady lax (servedClient s event) s.sys (step env s event).sys := by
  obtain ⟨accepts, reads, arrives, ends, announces, polite, willing, heard⟩ := admitted
  simp only [step]
  split
  swap
  · exact .refl _
  next possible =>
  cases event with
  | accept => exact clientAccept_steady env (accepts rfl)
  | clientProcess fd events =>
    exact clientProcess_steady env grants sound alive fd events possible reads announces polite willing
  | deviceAdd u =>
    have awake : s.phase = .running ∨ s.phase = .draining := by simpa [enabled] using possible
    exact deviceAdd_steady env (arrives u rfl) sound awake u
  | dataInput u t =>
    refine deviceDataInput_steady env grants sound u t announces fun c bytes arrives => heard c bytes ?_
    rw [arrival, if_pos possible]
    exact arrives
  | deviceRemove u => exact deviceRemove_steady env grants (announces rfl) sound alive u
  | checkTimeouts => exact (deviceCheckTimeouts_calm env grants sound).steady
  | workerDeviceAdd info =>
    exact (clientDeviceAdd_calm (s := { s with workers := s.workers.erase info }) env (announces rfl) none info).steady
  | workerCbData deviceId data => exact (deviceSetPreflightCbData_calm none deviceId data).steady
  | killConnections => exact deviceKillConnections_steady env grants sound
  | deviceShutdown => exact deviceShutdown_steady env grants (announces rfl) sound alive
  | clientShutdown =>
    have closing : s.phase = .closing := by simpa [enabled] using possible
    exact clientShutdown_steady env sound (ends rfl) closing

theorem run_snoc (env : Env) (before : List Event) (event : Event) :
    run env (before ++ [event]) = step env (run env before) event := by
  rw [run, List.foldl_append]
  rfl

/-- Whatever comes is admitted. -/
structure Laxity.Open (lax : Laxity) : Prop extends lax.Announces where
  hears : ∀ c bytes, lax.hears c bytes
  accepts : ∀ fd, lax.accepts fd
  reads : lax.reads
  arrives : lax.arrives
  ends : lax.ends

theorem Laxity.Open.admitted {lax : Laxity} (free : lax.Open) {env : Env} {s : Daemon} {event : Event}
    (willing : lax.early ∨ Prudent env s event) (modest : lax.rash ∨ Modest s event)
    (polite : lax.rude ∨ Orderly env s event) : Admitted lax env s event where
  accepts _ := free.accepts _
  reads _ := free.reads
  arrives _ _ := free.arrives
  ends _ := free.ends
  announces _ := free.toAnnounces
  polite := polite
  willing := willing
  heard c bytes arrives := ⟨free.hears c bytes, modest.imp_right fun modest => modest (c, bytes) arrives⟩

section Invariants

variable (lax : Laxity) (env : Env) (events : List Event)
  (willing : lax.early ∨ Each (fun before event => Prudent env (run env before) event) events)
  (modest : lax.rash ∨ Each (fun before event => Modest (run env before) event) events)
  (polite : lax.rude ∨ Each (fun before event => Orderly env (run env before) event) events)
include willing modest polite

/-- What the steps of the system preserve holds along a run. -/
theorem run_keeps (grants : Grants env lax) (free : lax.Open) {motive : Sys → Prop} (start : motive Daemon.initial.sys)
    (keeps : ∀ served S S', Sound lax S → SysStep lax served S S' → motive S → motive S') :
    (Sound lax (run env events).sys ∧ Alive (run env events).sys) ∧ motive (run env events).sys := by
  induction events using List.reverseRecOn with
  | nil => exact ⟨⟨sound_initial lax, by simp [Alive, run, Daemon.sys, Daemon.initial, Mux.initial]⟩, start⟩
  | append_singleton before event ih =>
    obtain ⟨⟨sound, alive⟩, holds⟩ := ih (willing.imp_right Each.of_append) (modest.imp_right Each.of_append)
      (polite.imp_right Each.of_append)
    have steady := step_steady env grants sound alive
      (free.admitted (willing.imp_right Each.last) (modest.imp_right Each.last) (polite.imp_right Each.last))
    rw [run_snoc]
    exact ⟨⟨steady.sound sound, steady.alive alive⟩, steady.run.keeps sound (keeps _) holds⟩

/-- The invariant along a run. -/
theorem run_sound (plenty : lax.poor ∨ ∀ n, (env.sock n).alloc = true) :
    Sound lax (run env events).sys ∧ Alive (run env events).sys := by
  have free : lax.freely.Open :=
    ⟨⟨fun _ _ => trivial, trivial, trivial⟩, fun _ _ => trivial, fun _ => trivial, trivial, trivial, trivial⟩
  have grants : Grants env lax.freely := ⟨plenty, fun _ _ _ => trivial, fun _ _ _ _ => trivial⟩
  have kept := run_keeps lax.freely env events willing modest polite grants free (motive := fun _ => True) trivial
    fun _ _ _ _ _ _ => trivial
  exact ⟨Sound.freely.mp kept.1.1, kept.1.2⟩

end Invariants

/-- A run that admits everything. -/
def anything : Laxity where
  early := True
  poor := True

theorem grants_anything (env : Env) : Grants env anything :=
  ⟨.inl trivial, fun _ _ _ => trivial, fun _ _ _ _ => trivial⟩

theorem announces_anything : anything.Announces := ⟨fun _ _ => trivial, trivial, trivial⟩

theorem open_anything : anything.Open :=
  ⟨announces_anything, fun _ _ => trivial, fun _ => trivial, trivial, trivial, trivial⟩

theorem run_sound_anything (env : Env) (events : List Event) :
    Sound anything (run env events).sys ∧ Alive (run env events).sys :=
  run_sound anything env events (.inl trivial) (.inl trivial) (.inl trivial) (.inl trivial)

/-- The steps of the last event of a run. -/
theorem run_snoc_anything (env : Env) (before : List Event) (event : Event) :
    SysRun anything (servedClient (run env before) event) (run env before).sys (run env (before ++ [event])).sys := by
  obtain ⟨sound, alive⟩ := run_sound_anything env before
  rw [run_snoc]
  exact (step_steady env (grants_anything env) sound alive
    (open_anything.admitted (.inl trivial) (.inl trivial) (.inl trivial))).run

end Usbmuxd
