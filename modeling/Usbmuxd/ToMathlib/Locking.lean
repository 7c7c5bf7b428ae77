import Mathlib.Data.List.Nodup
import Mathlib.Logic.Function.Basic
import Usbmuxd.ToMathlib.History

/-! # Threads that share mutexes

A thread runs operations one after the other; for the mutexes an operation is the list of its lock
and unlock actions. Mutexes are not recursive. A schedule says which thread starts an operation or
takes its next action, and an action that has to wait does nothing.

Two questions about deadlocks are answered. No thread waits for itself if every operation is
`Closed`: it releases what it has taken, innermost first, and takes nothing twice. No two threads wait
for each other if, in addition, a section is only entered while the mutexes taken inside it are free.
-/

namespace Locking

variable {M T O σ : Type*} [DecidableEq M]

inductive Action (M : Type*) where
  | lock (m : M)
  | unlock (m : M)
deriving DecidableEq, Repr

open Locking.Action

/-- A section protected by a mutex. -/
def guarded (m : M) (body : List (Action M)) : List (Action M) := lock m :: (body ++ [unlock m])

/-- The mutexes held after some actions, the last one taken first; none if a mutex is taken twice or
released out of order. -/
def after : List M → List (Action M) → Option (List M)
  | held, [] => some held
  | held, lock m :: rest => if m ∈ held then none else after (m :: held) rest
  | [], unlock _ :: _ => none
  | top :: held, unlock m :: rest => if m = top then after held rest else none

/-- Whoever holds these mutexes can take the actions and holds the same mutexes afterwards. -/
def Closed (held : List M) (actions : List (Action M)) : Prop := after held actions = some held

theorem after_append (held : List M) (first second : List (Action M)) :
    after held (first ++ second) = (after held first).bind fun held => after held second := by
  induction first generalizing held with
  | nil => rfl
  | cons action first ih =>
    cases action with
    | lock m =>
      simp only [List.cons_append, after]
      split
      · rfl
      · exact ih _
    | unlock m =>
      cases held with
      | nil => rfl
      | cons top held =>
        simp only [List.cons_append, after]
        split
        · exact ih _
        · rfl

namespace Closed

variable {held : List M}

@[simp] theorem nil : Closed held ([] : List (Action M)) := rfl

theorem append {first second : List (Action M)} (one : Closed held first) (two : Closed held second) :
    Closed held (first ++ second) := by
  rw [Closed, after_append, one]
  exact two

theorem guarded {m : M} {body : List (Action M)} (free : m ∉ held) (closed : Closed (m :: held) body) :
    Closed held (guarded m body) := by
  rw [Closed, Locking.guarded, after, if_neg free, after_append, closed, Option.bind_some]
  simp [after]

theorem section_nil {m : M} (free : m ∉ held) : Closed held (Locking.guarded m []) := .guarded free .nil

theorem flatten {operations : List (List (Action M))} (all : ∀ operation ∈ operations, Closed held operation) :
    Closed held operations.flatten := by
  induction operations with
  | nil => exact .nil
  | cons operation operations ih =>
    rw [List.flatten_cons]
    exact (all operation (by simp)).append (ih fun other member => all other (by simp [member]))

end Closed

/-- The mutexes taken before this one is released. -/
def within (m : M) : List (Action M) → List M
  | [] => []
  | lock n :: rest => n :: within m rest
  | unlock n :: rest => if n = m then [] else within m rest

/-- The data the threads work on, who holds which mutex, and what each thread still has to do. -/
structure Config (M T σ : Type*) where
  data : σ
  holder : M → Option T
  rest : T → List (Action M)

/-- Nothing has begun. -/
def Config.idle (data : σ) : Config M T σ := ⟨data, fun _ => none, fun _ => []⟩

namespace Config

/-- A thread waits for a mutex it holds. -/
def SelfBlocked (config : Config M T σ) : Prop :=
  ∃ t m rest, config.rest t = lock m :: rest ∧ config.holder m = some t

/-- Two threads wait for each other. -/
def Crossed (config : Config M T σ) : Prop :=
  ∃ t u m n rest rest', t ≠ u ∧ config.holder m = some t ∧ config.rest t = lock n :: rest ∧
    config.holder n = some u ∧ config.rest u = lock m :: rest'

end Config

/-- What a thread holds, with the order in which it was taken, fits what it still has to do. -/
structure Holding (config : Config M T σ) (t : T) (held : List M) : Prop where
  completes : after held (config.rest t) = some []
  nodup : held.Nodup
  holder : ∀ m, m ∈ held ↔ config.holder m = some t

/-- This holds for every thread. -/
def Consistent (config : Config M T σ) : Prop := ∀ t, ∃ held, Holding config t held

/-- No thread holds a mutex and will take a second one inside while another thread holds the second
and will take the first. -/
def Apart (config : Config M T σ) : Prop :=
  ∀ t u m n, t ≠ u → config.holder m = some t → n ∈ within m (config.rest t) → config.holder n = some u →
    m ∉ within n (config.rest u)

section Idle

variable {config : Config M T σ}

theorem consistent_idle (data : σ) : Consistent (Config.idle data : Config M T σ) :=
  fun _ => ⟨[], rfl, List.nodup_nil, fun m => by simp [Config.idle]⟩

/-- An idle thread holds nothing. -/
theorem Consistent.idle (consistent : Consistent config) {t : T} (idle : config.rest t = []) (m : M) :
    config.holder m ≠ some t := by
  obtain ⟨held, completes, _, holder⟩ := consistent t
  rw [idle] at completes
  obtain rfl : held = [] := Option.some.inj completes
  intro holds
  simpa using (holder m).mpr holds

theorem Consistent.not_selfBlocked (consistent : Consistent config) : ¬config.SelfBlocked := by
  rintro ⟨t, m, rest, next, holds⟩
  obtain ⟨held, completes, _, holder⟩ := consistent t
  rw [next, after, if_pos ((holder m).mpr holds)] at completes
  cases completes

theorem apart_idle (data : σ) : Apart (Config.idle data : Config M T σ) := by
  intro t u m n _ holds
  simp [Config.idle] at holds

theorem Apart.not_crossed (apart : Apart config) : ¬config.Crossed := by
  rintro ⟨t, u, m, n, rest, rest', different, holds, next, holds', next'⟩
  refine apart t u m n different holds ?_ holds' ?_
  · simp [next, within]
  · simp [next', within]

/-- What a thread takes inside a section after an action, it would have taken before. -/
theorem within_tail {m n : M} {action : Action M} {rest : List (Action M)} (other : action ≠ unlock m)
    (inside : n ∈ within m rest) : n ∈ within m (action :: rest) := by
  cases action with
  | lock l => exact List.mem_cons_of_mem _ inside
  | unlock l =>
    rw [within, if_neg fun same => other (congrArg unlock same)]
    exact inside

end Idle

variable [DecidableEq T]

/-- A thread starts an operation, or takes its next action. -/
inductive Choice (T O : Type*) where
  | start (t : T) (operation : O)
  | advance (t : T)

/-- The actions of an operation that a thread may start, and what becomes of the data. -/
abbrev Operations (M T O σ : Type*) := σ → T → O → Option (List (Action M) × σ)

/-- One entry of a schedule. -/
def perform (operations : Operations M T O σ) (config : Config M T σ) : Choice T O → Config M T σ
  | .start t operation =>
    match config.rest t, operations config.data t operation with
    | [], some (actions, data) => { config with data := data, rest := Function.update config.rest t actions }
    | _, _ => config
  | .advance t =>
    match config.rest t with
    | [] => config
    | lock m :: rest =>
      match config.holder m with
      | none => { config with
          holder := Function.update config.holder m (some t), rest := Function.update config.rest t rest }
      | some _ => config
    | unlock m :: rest => { config with
        holder := Function.update config.holder m none, rest := Function.update config.rest t rest }

/-- A whole schedule. -/
def execute (operations : Operations M T O σ) (start : Config M T σ) (schedule : List (Choice T O)) : Config M T σ :=
  schedule.foldl (perform operations) start

/-- Whatever is entered, the mutexes taken inside are free. -/
def Careful (config : Config M T σ) : Choice T O → Prop
  | .start _ _ => True
  | .advance t =>
    match config.rest t with
    | lock m :: rest => config.holder m = none → ∀ n ∈ within m rest, config.holder n = none
    | _ => True

instance (config : Config M T σ) (choice : Choice T O) : Decidable (Careful config choice) := by
  cases choice with
  | start t operation => exact .isTrue trivial
  | advance t =>
    simp only [Careful]
    split <;> infer_instance

section Invariants

variable {operations : Operations M T O σ} {config : Config M T σ}

/-- The other threads do not notice who takes or releases a mutex that none of them holds. -/
theorem Holding.other {u t : T} {held : List M} (holding : Holding config u held) (different : u ≠ t) {m : M}
    {owner : Option T} (free : config.holder m ≠ some u) (mine : owner ≠ some u) (rest : List (Action M)) :
    Holding { config with holder := Function.update config.holder m owner, rest := Function.update config.rest t rest }
      u held := by
  refine ⟨by simpa [different] using holding.completes, holding.nodup, fun n => ?_⟩
  rw [holding.holder n]
  by_cases same : n = m
  · subst same
    simp [free, mine]
  · simp [same]

theorem Consistent.perform (consistent : Consistent config)
    (closed : ∀ data t operation actions data', operations data t operation = some (actions, data') → Closed [] actions)
    (choice : Choice T O) : Consistent (perform operations config choice) := by
  cases choice with
  | start t operation =>
    simp only [Locking.perform]
    split
    swap
    · exact consistent
    next actions data idle started =>
    intro u
    obtain ⟨held, completes, nodup, holder⟩ := consistent u
    by_cases same : u = t
    · subst same
      rw [idle] at completes
      obtain rfl : held = [] := Option.some.inj completes
      have completes : after [] actions = some [] := closed _ _ _ _ _ started
      exact ⟨[], by simpa using completes, nodup, holder⟩
    · exact ⟨held, by simpa [same] using completes, nodup, holder⟩
  | advance t =>
    simp only [Locking.perform]
    split
    · exact consistent
    · next m rest next =>
      split
      swap
      · exact consistent
      next free =>
      intro u
      obtain ⟨held, holding⟩ := consistent u
      by_cases same : u = t
      · subst same
        have completes := holding.completes
        rw [next, after] at completes
        split at completes
        · cases completes
        next fresh =>
        refine ⟨m :: held, by simpa using completes, List.nodup_cons.mpr ⟨fresh, holding.nodup⟩, fun n => ?_⟩
        by_cases here : n = m
        · subst here
          simp
        · simp [here, holding.holder n]
      · exact ⟨held, holding.other same (by simp [free]) (by simpa using fun this => same this.symm) rest⟩
    · next m rest next =>
      obtain ⟨mine, holding⟩ := consistent t
      have completes := holding.completes
      rw [next] at completes
      cases mine with
      | nil => simp [after] at completes
      | cons top held =>
        rw [after] at completes
        split at completes
        swap
        · cases completes
        next here =>
        subst here
        obtain ⟨gone, nodup⟩ := List.nodup_cons.mp holding.nodup
        have owned : config.holder m = some t := (holding.holder m).mp (by simp)
        intro u
        by_cases same : u = t
        · subst same
          refine ⟨held, by simpa using completes, nodup, fun n => ?_⟩
          by_cases here : n = m
          · subst here
            simp [gone]
          · have known := holding.holder n
            simp only [List.mem_cons, here, false_or] at known
            simp [here, known]
        · obtain ⟨others, holding'⟩ := consistent u
          refine ⟨others, holding'.other same ?_ (by simp) rest⟩
          rw [owned]
          simpa using fun this => same this.symm

theorem Apart.perform (apart : Apart config) (consistent : Consistent config) {choice : Choice T O}
    (careful : Careful config choice) : Apart (perform operations config choice) := by
  cases choice with
  | start t operation =>
    simp only [Locking.perform]
    split
    swap
    · exact apart
    next actions data idle started =>
    intro t₁ u m n different holds inside holds'
    have other {v : T} {l : M} (taken : config.holder l = some v) : v ≠ t := fun same =>
      consistent.idle idle l (same ▸ taken)
    simp only [Function.update_of_ne (other holds)] at inside
    simp only [Function.update_of_ne (other holds')]
    exact apart t₁ u m n different holds inside holds'
  | advance t =>
    simp only [Locking.perform]
    split
    · exact apart
    · next l rest next =>
      split
      swap
      · exact apart
      next free =>
      have entered : ∀ n ∈ within l rest, config.holder n = none := by
        simp only [Careful, next] at careful
        exact careful free
      -- Outside the new section every thread still has to take what it had to take before.
      have before {v : T} {m n : M} (inside : n ∈ within m (Function.update config.rest t rest v)) :
          n ∈ within m (config.rest v) := by
        by_cases same : v = t
        · subst same
          rw [next]
          exact within_tail nofun (by simpa using inside)
        · simpa [same] using inside
      intro t₁ u m n different holds inside holds' crossing
      by_cases here : m = l
      · subst here
        obtain rfl : t = t₁ := by simpa using holds
        have unheld := entered n (by simpa using inside)
        by_cases same : n = m
        · subst same
          exact different (by simpa using holds')
        · simp [same, unheld] at holds'
      · have held : config.holder m = some t₁ := by simpa [here] using holds
        by_cases there : n = l
        · subst there
          obtain rfl : t = u := by simpa using holds'
          exact absurd (entered m (by simpa using crossing)) (by simp [held])
        · exact apart t₁ u m n different held (before inside) (by simpa [there] using holds') (before crossing)
    · next l rest next =>
      intro t₁ u m n different holds inside holds' crossing
      have kept {v : T} {m : M} (holds : Function.update config.holder l none m = some v) :
          m ≠ l ∧ config.holder m = some v := by
        by_cases here : m = l
        · simp [here] at holds
        · exact ⟨here, by simpa [here] using holds⟩
      have before {v : T} {m n : M} (other : m ≠ l) (inside : n ∈ within m (Function.update config.rest t rest v)) :
          n ∈ within m (config.rest v) := by
        by_cases same : v = t
        · subst same
          rw [next]
          exact within_tail (fun equal => other (Action.unlock.inj equal).symm) (by simpa using inside)
        · simpa [same] using inside
      obtain ⟨otherM, holds⟩ := kept holds
      obtain ⟨otherN, holds'⟩ := kept holds'
      exact apart t₁ u m n different holds (before otherM inside) holds' (before otherN crossing)

end Invariants

theorem execute_snoc (operations : Operations M T O σ) (start : Config M T σ) (earlier : List (Choice T O))
    (choice : Choice T O) :
    execute operations start (earlier ++ [choice]) = perform operations (execute operations start earlier) choice := by
  rw [execute, List.foldl_append]
  rfl

section Runs

variable {operations : Operations M T O σ} (data : σ) (schedule : List (Choice T O))
  (closed : ∀ data t operation actions data', operations data t operation = some (actions, data') → Closed [] actions)
include closed

open History

/-- Under every schedule what is held fits what is still to be done. -/
theorem execute_consistent : Consistent (execute operations (.idle data) schedule) := by
  induction schedule using List.reverseRecOn with
  | nil => exact consistent_idle data
  | append_singleton earlier choice ih =>
    rw [execute_snoc]
    exact ih.perform closed choice

/-- Under a schedule that enters sections with care the threads stay apart. -/
theorem execute_apart
    (careful : Each (fun earlier choice => Careful (execute operations (.idle data) earlier) choice) schedule) :
    Apart (execute operations (.idle data) schedule) := by
  induction schedule using List.reverseRecOn with
  | nil => exact apart_idle data
  | append_singleton earlier choice ih =>
    rw [execute_snoc]
    exact (ih careful.of_append).perform (execute_consistent data earlier closed) careful.last

end Runs

end Locking
