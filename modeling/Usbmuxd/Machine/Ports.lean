import Usbmuxd.Machine.Sound

/-! # Source ports

A connection keeps the source port it was created with, and a step adds at most one connection to a
device, with a port that no connection of the device uses. So the connections of a device differ in
their source ports, whatever is torn down in between.
-/

namespace Usbmuxd

open Collection

private theorem ConnRun.sport {hears : Bytes → Prop} {view view' : ConnView} (changes : ConnRun hears view view')
    (dialled : view.2 ≠ []) {m' : MuxConnection} (after : view'.1 = some m') :
    ∃ m, view.1 = some m ∧ m.sport = m'.sport := by
  induction changes generalizing m' with
  | refl => exact ⟨m', after, rfl⟩
  | @tail middle last earlier change ih =>
    have grown : middle.2 ≠ [] := fun empty => dialled (List.prefix_nil.mp (empty ▸ ConnRun.log_grows earlier))
    cases change with
    | create => exact absurd rfl grown
    | tear => cases after
    | dataFailed => cases after
    | _ =>
      obtain ⟨m, before, same⟩ := ih rfl
      obtain rfl := Option.some.inj after
      exact ⟨m, before, same⟩

section Ports

variable {lax : Laxity} {served : Option ClientPtr} {S S' : Sys}

/-- The connections a device holds have source ports of their own. -/
structure Sys.Ported (S : Sys) : Prop where
  dialled : ∀ d c, S.Holds d c → (S.conn c).2 ≠ []
  port : ∀ d c m, S.Holds d c → (S.conn c).1 = some m → m.sport ≠ 0
  distinct : ∀ d c c' m m', S.Holds d c → S.Holds d c' → (S.conn c).1 = some m → (S.conn c').1 = some m' →
    m.sport = m'.sport → c = c'

/-- Every step keeps the source ports apart. -/
theorem SysStep.ported (change : SysStep lax served S S') (linked : Linked S) (ported : S.Ported) : S'.Ported := by
  have runs (c : ConnPtr) := change.connRun linked.links c
  -- a connection that was held before has the same port as then
  have kept {d : DevPtr} {c : ConnPtr} {m' : MuxConnection} (holding : S.Holds d c)
    (record : (S'.conn c).1 = some m') :=
    (runs c).sport (ported.dialled d c holding) record
  refine ⟨fun d c holding => ?_, fun d c m' holding record => ?_,
    fun d c c' m m' holding holding' record record' same => ?_⟩
  · rcases change.held_before holding with old | ⟨rfl, m, log, began, -⟩
    · exact fun empty => ported.dialled d c old (List.prefix_nil.mp (empty ▸ (runs c).log_grows))
    · rw [began.after]
      exact began.dialled
  · rcases change.held_before holding with old | ⟨rfl, m, log, began, -⟩
    · obtain ⟨m, before, sport⟩ := kept old record
      rw [← sport]
      exact ported.port d c m old before
    · obtain rfl : m = m' := by simpa [began.after] using record
      exact began.port
  · -- the port of a new connection is none that the device uses
    have apart {m m' : MuxConnection} {log : List ConnEvent} {c' : ConnPtr} (began : Began lax S S' m log)
        (old : S.Holds m.dev c') (record' : (S'.conn c').1 = some m') : m'.sport ≠ m.sport := by
      obtain ⟨m₀, before, sport⟩ := kept old record'
      rw [← sport]
      exact began.unused c' old.2 m₀ before
    rcases change.held_before holding with old | ⟨rfl, m₁, log, began, rfl⟩
    · rcases change.held_before holding' with old' | ⟨rfl, m₂, log, began, rfl⟩
      · obtain ⟨m₀, before, sport⟩ := kept old record
        obtain ⟨m₀', before', sport'⟩ := kept old' record'
        exact ported.distinct d c c' m₀ m₀' old old' before before' (sport.trans (same.trans sport'.symm))
      · obtain rfl : m₂ = m' := by simpa [began.after] using record'
        exact absurd same (apart began old record)
    · rcases change.held_before holding' with old' | ⟨rfl, -⟩
      · obtain rfl : m₁ = m := by simpa [began.after] using record
        exact absurd same.symm (apart began old' record')
      · rfl

end Ports

end Usbmuxd
