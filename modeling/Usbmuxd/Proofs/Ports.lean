import Mathlib.Data.List.Perm.Subperm
import Mathlib.Logic.Function.Iterate
import Usbmuxd.Model.Device.Send

/-! # The search for a source port

`find_sport` steps its 16-bit counter past every port in use. As many steps as there are connections
lead to a port that none of them uses, since so few steps do not come back to a port they have left.
-/

namespace Usbmuxd

/-- A search stops after some number of steps, each of them away from a value in use. -/
private theorem probe_spec {α : Type*} (used : α → Bool) (next : α → α) (fuel : ℕ) (start : α) :
    ∃ turns ≤ fuel, probe used next fuel start = next^[turns] start ∧ (∀ j < turns, used (next^[j] start)) ∧
      (turns < fuel → used (next^[turns] start) = false) := by
  induction fuel generalizing start with
  | zero => exact ⟨0, Nat.le_refl _, rfl, by simp, by simp⟩
  | succ fuel ih =>
    by_cases busy : used start
    · obtain ⟨turns, bound, found, past, free⟩ := ih (next start)
      refine ⟨turns + 1, by omega, by simpa [probe, busy] using found, fun j early => ?_, fun early => free (by omega)⟩
      rcases j with _ | j
      · exact busy
      · exact past j (by omega)
    · exact ⟨0, by omega, by simp [probe, busy], by simp, fun _ => by simpa using busy⟩

/-- A search with more steps than there are values in use ends at a free one, if its steps do not come
back. -/
private theorem probe_free {α : Type*} [DecidableEq α] (taken : List α) (next : α → α) (start : α) {fuel : ℕ}
    (enough : taken.length < fuel) (apart : ∀ i < fuel, ∀ j < fuel, next^[i] start = next^[j] start → i = j) :
    ∃ turns < fuel, probe (fun a => decide (a ∈ taken)) next fuel start = next^[turns] start ∧
      (∀ j < turns, next^[j] start ∈ taken) ∧ next^[turns] start ∉ taken := by
  obtain ⟨turns, bound, found, past, free⟩ := probe_spec (fun a => decide (a ∈ taken)) next fuel start
  have past (j : ℕ) (early : j < turns) : next^[j] start ∈ taken := of_decide_eq_true (past j early)
  have short : turns < fuel := by
    by_contra long
    have distinct : ((List.range fuel).map fun j => next^[j] start).Nodup := by
      refine List.Nodup.map_on (fun i early j early' same => ?_) List.nodup_range
      exact apart i (List.mem_range.mp early) j (List.mem_range.mp early') same
    have inside : ((List.range fuel).map fun j => next^[j] start) ⊆ taken := by
      intro a member
      obtain ⟨j, early, rfl⟩ := List.mem_map.mp member
      exact past j (Nat.lt_of_lt_of_le (List.mem_range.mp early) (Nat.not_lt.mp long))
    have crowded := (List.Nodup.subperm distinct inside).length_le
    simp only [List.length_map, List.length_range] at crowded
    omega
  exact ⟨turns, short, found, past, of_decide_eq_false (free short)⟩

private theorem iterate_succ_uint16 (start : UInt16) (n : ℕ) : (· + 1)^[n] start = start + UInt16.ofNat n := by
  induction n with
  | zero => simp
  | succ n ih => rw [Function.iterate_succ_apply', ih, UInt16.ofNat_add, UInt16.add_assoc]; rfl

private theorem iterate_succ_uint16_injective (start : UInt16) {i j : ℕ} (small : i < 65536) (small' : j < 65536)
    (same : (· + 1)^[i] start = (· + 1)^[j] start) : i = j := by
  rw [iterate_succ_uint16, iterate_succ_uint16, UInt16.add_right_inj] at same
  have equal := congrArg UInt16.toNat same
  rwa [UInt16.toNat_ofNat_of_lt' small, UInt16.toNat_ofNat_of_lt' small'] at equal

/-- The source ports in use on a device. -/
def Mux.sports (s : Mux) (d : DevPtr) : List UInt16 :=
  (s.dev d).connections.filterMap fun c => (s.conn c).map MuxConnection.sport

theorem Mux.mem_sports {s : Mux} {d : DevPtr} {port : UInt16} :
    port ∈ s.sports d ↔ ∃ c ∈ (s.dev d).connections, ∃ m, s.conn c = some m ∧ m.sport = port := by
  simp [Mux.sports]

/-- What the loop of `find_sport` looks for. -/
theorem Mux.used_iff (s : Mux) (d : DevPtr) (port : UInt16) :
    ((s.dev d).connections.any fun c => (s.conn c).any fun m => m.sport == port) = decide (port ∈ s.sports d) := by
  rw [Bool.eq_iff_iff, decide_eq_true_iff, Mux.mem_sports]
  simp [Option.any_eq_true]

/-- The loop of `find_sport` ends: it passes over ports in use until it comes to one that is not. -/
structure PortSearch (s : Mux) (d : DevPtr) (turns : ℕ) (port : UInt16) : Prop where
  bound : turns ≤ (s.dev d).connections.length
  found : port = (s.dev d).nextSport + UInt16.ofNat turns
  past : ∀ j < turns, (s.dev d).nextSport + UInt16.ofNat j ∈ s.sports d
  free : port ∉ s.sports d

theorem findSport_search (s : Mux) (d : DevPtr) (room : (s.dev d).connections.length < 65535) :
    ∃ turns, PortSearch s d turns (findSport d s).1 := by
  have same : (s.touchConnections d).dev = s.dev ∧ (s.touchConnections d).conn = s.conn := by
    simp only [Mux.touchConnections]
    split <;> exact ⟨rfl, rfl⟩
  have result : (findSport d s).1 = probe (fun port => decide (port ∈ s.sports d)) (· + 1)
      ((s.dev d).connections.length + 1) (s.dev d).nextSport := by
    simp only [findSport, same.1, same.2, if_neg (Nat.not_le.mpr room), Mux.used_iff]
  have few : (s.sports d).length ≤ (s.dev d).connections.length := List.length_filterMap_le ..
  obtain ⟨turns, bound, found, past, free⟩ := probe_free (s.sports d) (· + 1) (s.dev d).nextSport
    (Nat.lt_succ_of_le few) fun i early j early' same =>
      iterate_succ_uint16_injective _ (by omega) (by omega) same
  simp only [iterate_succ_uint16] at found past free
  exact ⟨turns, Nat.le_of_lt_succ bound, result.trans found, past, by rwa [result, found]⟩

/-- A port that is given out is used by no connection of the device. -/
theorem findSport_unused {s : Mux} {d : DevPtr} (given : (findSport d s).1 ≠ 0) : (findSport d s).1 ∉ s.sports d := by
  by_cases room : (s.dev d).connections.length < 65535
  · obtain ⟨turns, search⟩ := findSport_search s d room
    exact search.free
  · refine absurd ?_ given
    have touched : (s.touchConnections d).dev = s.dev := by
      simp only [Mux.touchConnections]
      split <;> rfl
    simp only [findSport, touched, if_pos (Nat.not_lt.mp room)]

theorem findSport_conn (s : Mux) (d : DevPtr) : (findSport d s).2.conn = s.conn := by
  have touched : (s.touchConnections d).conn = s.conn := by
    simp only [Mux.touchConnections]
    split <;> rfl
  simp only [findSport]
  split
  · exact touched
  · exact touched

end Usbmuxd
