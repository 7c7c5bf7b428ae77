import Usbmuxd.Machine.Ports
import Usbmuxd.Soundness.Pairing

/-! # The connections of a device have source ports of their own

In every state of every run, and for every device, the ports of its connections are distinct and not
zero, so a segment belongs to at most one of them. The search behind this ends for every counter and
every collection with fewer than 65535 connections.
-/

namespace Usbmuxd

/-- The source ports of a device tell its connections apart. -/
structure Mux.PortsApart (s : Mux) (d : DevPtr) : Prop where
  distinct : (s.sports d).Nodup
  valid : 0 ∉ s.sports d
  single : ∀ sport dport, ((s.dev d).connections.filter fun c =>
    (s.conn c).any fun m => m.sport == sport && m.dport == dport).length ≤ 1

private theorem ported_initial : Daemon.initial.sys.Ported := by
  refine ⟨fun d c holding => ?_, fun d c m holding => ?_, fun d c c' m m' holding => ?_⟩ <;>
    simp [Sys.Holds, Daemon.sys, Daemon.initial, Mux.initial] at holding

private theorem run_ported (env : Env) (events : List Event) : (run env events).sys.Ported :=
  (run_keeps anything env events (.inl trivial) (.inl trivial) (.inl trivial) (grants_anything env) open_anything
    ported_initial fun _ _ _ sound change ported => change.ported sound.linked ported).2

/-- Connections that a device holds once each and that differ in their ports. -/
private theorem Sys.Ported.portsApart {s : Daemon} (ported : s.sys.Ported) {d : DevPtr} (listed : d ∈ s.mux.deviceList)
    (once : (s.mux.dev d).connections.Nodup) : s.mux.PortsApart d := by
  have equal {c c' : ConnPtr} {m m' : MuxConnection} (held : c ∈ (s.mux.dev d).connections)
      (held' : c' ∈ (s.mux.dev d).connections) (record : s.mux.conn c = some m) (record' : s.mux.conn c' = some m')
      (same : m.sport = m'.sport) : c = c' :=
    ported.distinct d c c' m m' ⟨listed, held⟩ ⟨listed, held'⟩ record record' same
  refine ⟨?_, fun member => ?_, fun sport dport => ?_⟩
  · refine List.pairwise_filterMap.mpr
      (once.imp_of_mem fun {c c'} held held' different port used port' used' same => ?_)
    obtain ⟨m, record, rfl⟩ := Option.map_eq_some_iff.mp used
    obtain ⟨m', record', rfl⟩ := Option.map_eq_some_iff.mp used'
    exact different (equal held held' record record' same)
  · obtain ⟨c, held, m, record, zero⟩ := Mux.mem_sports.mp member
    exact ported.port d c m ⟨listed, held⟩ record zero
  · set matching := fun c => (s.mux.conn c).any fun m => m.sport == sport && m.dport == dport
    have ports {c : ConnPtr} (found : matching c) : ∃ m, s.mux.conn c = some m ∧ m.sport = sport := by
      obtain ⟨m, record, same⟩ := (Option.any_eq_true ..).mp found
      exact ⟨m, record, by simp_all⟩
    rcases both : (s.mux.dev d).connections.filter matching with _ | ⟨c, _ | ⟨c', rest⟩⟩
    · simp
    · simp
    · have apart : (c :: c' :: rest).Nodup := both ▸ once.filter _
      obtain ⟨held, found⟩ : c ∈ (s.mux.dev d).connections ∧ matching c := by
        rw [← List.mem_filter, both]
        exact List.mem_cons_self ..
      obtain ⟨held', found'⟩ : c' ∈ (s.mux.dev d).connections ∧ matching c' := by
        rw [← List.mem_filter, both]
        exact List.mem_cons_of_mem _ (List.mem_cons_self ..)
      obtain ⟨m, record, port⟩ := ports found
      obtain ⟨m', record', port'⟩ := ports found'
      have same := equal held held' record record' (port.trans port'.symm)
      simp [same] at apart

/-- Source ports are unique, and the search for one ends. -/
theorem source_ports_unique (env : Env) (events : List Event) :
    (∀ d ∈ (run env events).mux.deviceList, (run env events).mux.PortsApart d) ∧
      ∀ (s : Mux) (d : DevPtr), (s.dev d).connections.length < 65535 → ∃ turns,
        PortSearch s d turns (findSport d s).1 := by
  refine ⟨fun d listed => ?_, fun s d room => findSport_search s d room⟩
  exact (run_ported env events).portsApart listed ((run_sound_anything env events).1.linked.links.once d listed)

/-- A device whose counter is about to wrap around, with both remaining ports in use. -/
def crowded : Mux :=
  ((Mux.initial.setDev 0 { newDevice 0 1 with
    state := .active, initialised := true, connections := [0, 1], nextSport := 65534 }).setConn 0
      (newConnection 0 0 65535 62078)).setConn 1 (newConnection 0 1 65534 62078)

theorem crowded_ports : (∀ d ∈ (run sessionEnv session).mux.deviceList, (run sessionEnv session).mux.PortsApart d) ∧
    (∃ turns, PortSearch crowded 0 turns (findSport 0 crowded).1) ∧ (run sessionEnv session).mux.sports 0 = [1] ∧
    (findSport 0 crowded).1 = 0 := by
  obtain ⟨apart, search⟩ := source_ports_unique sessionEnv session
  exact ⟨apart, search crowded 0 (by decide), by decide +kernel, by decide +kernel⟩

end Usbmuxd
