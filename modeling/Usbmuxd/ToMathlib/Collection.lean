import Mathlib.Data.List.InsertIdx
import Mathlib.Data.List.Nodup

/-! # Unordered pointer collections and loops over them

A collection is observed as the list of its entries in iteration order. Insertion takes the
position from the caller, because a slot-reusing implementation may place a new entry anywhere;
removal erases one entry. A loop visits the entries present at its start and skips those that the
body of an earlier iteration has removed, which is how a slot array behaves when entries are
cleared during the walk.
-/

namespace Collection

variable {α σ : Type*}

/-- Insert an entry at any position. -/
def add (slot : ℕ) (entry : α) (entries : List α) : List α :=
  entries.insertIdx (min slot entries.length) entry

theorem add_perm (slot : ℕ) (entry : α) (entries : List α) :
    (add slot entry entries).Perm (entry :: entries) :=
  List.perm_insertIdx _ _ (Nat.min_le_right _ _)

@[simp] theorem mem_add (slot : ℕ) (entry other : α) (entries : List α) :
    other ∈ add slot entry entries ↔ other = entry ∨ other ∈ entries := by
  rw [(add_perm slot entry entries).mem_iff, List.mem_cons]

theorem nodup_add {slot : ℕ} {entry : α} {entries : List α} (fresh : entry ∉ entries)
    (unique : entries.Nodup) : (add slot entry entries).Nodup :=
  (add_perm slot entry entries).nodup_iff.mpr (List.nodup_cons.mpr ⟨fresh, unique⟩)

variable [DecidableEq α]

/-- One turn of a loop: the body runs only on an entry that is still present. -/
def visit (entries : σ → List α) (body : α → σ → σ) (current : σ) (entry : α) : σ :=
  if entry ∈ entries current then body entry current else current

/-- Visit the entries present at the start that are still present when their turn comes. -/
def forEach (entries : σ → List α) (body : α → σ → σ) (state : σ) : σ :=
  (entries state).foldl (visit entries body) state

section Loop

variable {entries : σ → List α} {body : α → σ → σ} {motive : σ → Prop} {state : σ}

private theorem visits_induct (pending : List α) (start : motive state)
    (step : ∀ entry current, motive current → entry ∈ entries current → motive (body entry current)) :
    motive (pending.foldl (visit entries body) state) := by
  induction pending generalizing state with
  | nil => exact start
  | cons entry rest ih =>
    rw [List.foldl_cons]
    apply ih
    unfold visit
    split
    · next present => exact step entry state start present
    · exact start

/-- A property kept by every visited body is kept by the loop. -/
theorem forEach_induct (start : motive state)
    (step : ∀ entry current, motive current → entry ∈ entries current → motive (body entry current)) :
    motive (forEach entries body state) := visits_induct _ start step

/-- A loop goes the same way in two states that the entries and the body do not tell apart. -/
theorem forEach_map {f : σ → σ} (same : ∀ current, entries (f current) = entries current)
    (moves : ∀ entry current, body entry (f current) = f (body entry current)) (state : σ) :
    forEach entries body (f state) = f (forEach entries body state) := by
  rw [forEach, same, forEach]
  refine List.foldl_hom f fun current entry => ?_
  simp only [visit, same, moves]
  split <;> rfl

/-- A loop over an empty collection does nothing. -/
theorem forEach_nil (empty : entries state = []) : forEach entries body state = state := by
  rw [forEach, empty, List.foldl_nil]

private theorem visits_empty (pending : List α) (start : motive state)
    (covered : ∀ entry ∈ entries state, entry ∈ pending)
    (step : ∀ entry current, motive current → entry ∈ entries current →
      motive (body entry current) ∧ entry ∉ entries (body entry current) ∧
        ∀ other ∈ entries (body entry current), other ∈ entries current) :
    entries (pending.foldl (visit entries body) state) = [] := by
  induction pending generalizing state with
  | nil =>
    exact List.eq_nil_iff_forall_not_mem.mpr fun entry member => List.not_mem_nil (covered entry member)
  | cons entry rest ih =>
    rw [List.foldl_cons]
    unfold visit
    split
    · next present =>
      obtain ⟨kept, gone, shrinks⟩ := step entry state start present
      apply ih kept
      intro other member
      rcases List.mem_cons.mp (covered other (shrinks other member)) with rfl | listed
      · exact absurd member gone
      · exact listed
    · next absent =>
      apply ih start
      intro other member
      rcases List.mem_cons.mp (covered other member) with rfl | listed
      · exact absurd member absent
      · exact listed

/-- When every visit removes its own entry and adds none, the loop empties the collection. -/
theorem forEach_empties (start : motive state)
    (step : ∀ entry current, motive current → entry ∈ entries current →
      motive (body entry current) ∧ entry ∉ entries (body entry current) ∧
        ∀ other ∈ entries (body entry current), other ∈ entries current) :
    entries (forEach entries body state) = [] :=
  visits_empty _ start (fun _ member => member) step

private theorem visits_done {done : σ → Prop} {entry : α} (pending : List α) (start : motive state)
    (step : ∀ other current, motive current → other ∈ entries current →
      motive (body other current) ∧ (done current ∨ other = entry → done (body other current)))
    (absent : ∀ current, motive current → entry ∉ entries current → done current)
    (met : done state ∨ entry ∈ pending) : done (pending.foldl (visit entries body) state) := by
  induction pending generalizing state with
  | nil => exact met.resolve_right List.not_mem_nil
  | cons other rest ih =>
    rw [List.foldl_cons]
    unfold visit
    split
    · next present =>
      obtain ⟨kept, deals⟩ := step other state start present
      refine ih kept ?_
      rcases met with already | listed
      · exact .inl (deals (.inl already))
      · rcases List.mem_cons.mp listed with rfl | later
        · exact .inl (deals (.inr rfl))
        · exact .inr later
    · next missing =>
      refine ih start ?_
      rcases met with already | listed
      · exact .inl already
      · rcases List.mem_cons.mp listed with rfl | later
        · exact .inl (absent state start missing)
        · exact .inr later

/-- An entry is dealt with in the end, if its own visit deals with it, no visit undoes that, and it is not
missing before. -/
theorem forEach_done (done : σ → Prop) (entry : α) (start : motive state)
    (step : ∀ other current, motive current → other ∈ entries current →
      motive (body other current) ∧ (done current ∨ other = entry → done (body other current)))
    (absent : ∀ current, motive current → entry ∉ entries current → done current) :
    done (forEach entries body state) :=
  visits_done _ start step absent ((em (entry ∈ entries state)).symm.imp (absent state start) id)

/-- A loop whose visits leave the state as it is. -/
theorem forEach_eq_self (idle : ∀ entry ∈ entries state, body entry state = state) :
    forEach entries body state = state := by
  refine forEach_induct (motive := (· = state)) rfl fun entry current same present => ?_
  rw [same] at present ⊢
  exact idle entry present

end Loop

section Least

variable {β : Type*} (size : β → ℕ) {step : β → α → β} (lowers : ∀ least entry, size (step least entry) ≤ size least)
include lowers

omit [DecidableEq α] in
theorem foldl_size_le (entries : List α) (least : β) : size (entries.foldl step least) ≤ size least :=
  List.foldlRecOn entries step (motive := fun found => size found ≤ size least) (Nat.le_refl _)
    fun found below entry _ => Nat.le_trans (lowers found entry) below

omit [DecidableEq α] in
/-- A search for the least gets below each entry that it takes into account. -/
theorem foldl_size_le_of_mem {entries : List α} {entry : α} (member : entry ∈ entries) {bound : ℕ}
    (counts : ∀ least, size (step least entry) ≤ bound) (least : β) : size (entries.foldl step least) ≤ bound := by
  obtain ⟨front, back, rfl⟩ := List.append_of_mem member
  rw [List.foldl_append, List.foldl_cons]
  exact Nat.le_trans (foldl_size_le size lowers back _) (counts _)

end Least

section Each

variable {ν : Type*} {entries : σ → List α} {body : α → σ → σ} {motive : σ → Prop} {state : σ} {view : σ → α → ν}
  {effect : α → ν → ν → Prop}

private theorem visits_each {pending : List α} (unique : pending.Nodup) (start : motive state)
    (covered : ∀ entry ∈ pending, entry ∈ entries state)
    (step : ∀ entry current, motive current → entry ∈ entries current → motive (body entry current) ∧
      entries (body entry current) = entries current ∧ effect entry (view current entry)
        (view (body entry current) entry) ∧
        ∀ other ≠ entry, view (body entry current) other = view current other) :
    (∀ entry ∈ pending, effect entry (view state entry) (view (pending.foldl (visit entries body) state) entry)) ∧
      ∀ entry ∉ pending, view (pending.foldl (visit entries body) state) entry = view state entry := by
  induction pending generalizing state with
  | nil => exact ⟨fun _ member => absurd member List.not_mem_nil, fun _ _ => rfl⟩
  | cons entry rest ih =>
    obtain ⟨absent, unique⟩ := List.nodup_cons.mp unique
    have present : entry ∈ entries state := covered entry (List.mem_cons_self ..)
    obtain ⟨kept, same, own, others⟩ := step entry state start present
    rw [List.foldl_cons, visit, if_pos present]
    obtain ⟨visited, skipped⟩ := ih unique kept fun other member => by
      rw [same]
      exact covered other (List.mem_cons_of_mem _ member)
    refine ⟨fun other member => ?_, fun other missing => ?_⟩
    · rcases List.mem_cons.mp member with rfl | later
      · rw [skipped other absent]
        exact own
      · rw [← others other fun equal => absent (equal ▸ later)]
        exact visited other later
    · obtain ⟨different, missing⟩ := not_or.mp (List.mem_cons.not.mp missing)
      rw [skipped other missing, others other different]

variable (body motive view effect) in
/-- When every visit only concerns its own entry, the loop does to each entry what its visit does. -/
theorem forEach_each (unique : (entries state).Nodup) (start : motive state)
    (step : ∀ entry current, motive current → entry ∈ entries current → motive (body entry current) ∧
      entries (body entry current) = entries current ∧ effect entry (view current entry)
        (view (body entry current) entry) ∧
        ∀ other ≠ entry, view (body entry current) other = view current other) :
    (∀ entry ∈ entries state, effect entry (view state entry) (view (forEach entries body state) entry)) ∧
      ∀ entry ∉ entries state, view (forEach entries body state) entry = view state entry :=
  visits_each unique start (fun _ member => member) step

end Each

end Collection
