import Usbmuxd.Proofs.Isolation
import Usbmuxd.Soundness.Pairing

/-! # Connections do not interfere

In every reachable state a segment concerns the connection with its ports and the client behind that
connection, and an event on the socket of a connected client concerns this client and its connection.
Nothing else changes but the sequence number of the device, and only segments with the ports in
question go out.
-/

namespace Usbmuxd

open History

/-- The connections of a device differ in their source ports. -/
def Daemon.DistinctSports (s : Daemon) : Prop :=
  ∀ d ∈ s.mux.deviceList, ∀ c ∈ (s.mux.dev d).connections, ∀ c' ∈ (s.mux.dev d).connections,
    ∀ m ∈ s.mux.conn c, ∀ m' ∈ s.mux.conn c', m.sport = m'.sport → c = c'

instance (s : Daemon) : Decidable s.DistinctSports :=
  inferInstanceAs (Decidable (∀ d ∈ s.mux.deviceList, ∀ c ∈ (s.mux.dev d).connections,
    ∀ c' ∈ (s.mux.dev d).connections, ∀ m ∈ s.mux.conn c, ∀ m' ∈ s.mux.conn c', m.sport = m'.sport → c = c'))

/-- The segment stays within the window: the connection it reaches has room for its payload. -/
def Daemon.Admits (s : Daemon) (d : DevPtr) (th : TcpHdr) (payload : Bytes) : Prop :=
  ∀ arriving ∈ segmentArrival d th payload s.mux, s.mux.Accepts arriving.1 arriving.2

instance (s : Daemon) (d : DevPtr) (th : TcpHdr) (payload : Bytes) : Decidable (s.Admits d th payload) :=
  inferInstanceAs (Decidable (∀ arriving ∈ segmentArrival d th payload s.mux, s.mux.Accepts arriving.1 arriving.2))

/-- A segment of a device either belongs to a connection of the device or to none. -/
structure SegmentIsolated (env : Env) (s : Daemon) (d : DevPtr) (th : TcpHdr) (payload : Bytes) : Prop where
  matched : ∀ c ∈ (s.mux.dev d).connections, ∀ m, s.mux.conn c = some m → m.sport = th.dport → m.dport = th.sport →
    ∃ k, m.client = some k ∧
      Isolated ⟨d, some c, some k, m.sport, m.dport⟩ s (deviceTcpInput env d th payload s)
  unmatched : (∀ c ∈ (s.mux.dev d).connections, ∀ m, s.mux.conn c = some m →
    ¬(m.sport = th.dport ∧ m.dport = th.sport)) →
    Isolated ⟨d, none, none, th.dport, th.sport⟩ s (deviceTcpInput env d th payload s)
  released : (∀ n, (env.sock n).alloc = true) → ∀ c, .releasedConnection c ∉
    (deviceTcpInput env d th payload s).mux.faults

/-- A connected client has a connection or is not served. -/
structure PollIsolated (env : Env) (s : Daemon) (k : ClientPtr) (deviceId : ℕ) (events : PollMask) : Prop where
  carried : ∀ d c m, s.Holds d c → s.mux.conn c = some m → m.client = some k →
    Isolated ⟨d, some c, some k, m.sport, m.dport⟩ s (deviceClientProcess env deviceId k events s)
  alone : (∀ d c, ¬s.Carries d c k) →
    ∃ faults, deviceClientProcess env deviceId k events s = s.setMux { s.mux with faults := faults }
  released : (∀ n, (env.sock n).alloc = true) →
    ∀ c, .releasedConnection c ∉ (deviceClientProcess env deviceId k events s).mux.faults

section Scope

variable {lax : Laxity} {s : Daemon}

theorem Daemon.carries_of_hasClient (s : Daemon) {d : DevPtr} {c : ConnPtr} {k : ClientPtr} (holds : s.Holds d c)
    (owned : s.mux.hasClient k c) : s.Carries d c k := by
  rcases present : s.mux.conn c with _ | m
  · simp [Mux.hasClient, present] at owned
  · exact ⟨holds, m, present, by simpa [Mux.hasClient, present] using owned⟩

/-- A connection that a device holds, with its client. -/
theorem Sound.inScope (sound : Sound lax s.sys) {d : DevPtr} {c : ConnPtr} {m : MuxConnection} {k : ClientPtr}
    (holds : s.Holds d c) (present : s.mux.conn c = some m) (owner : m.client = some k) :
    InScope ⟨d, some c, some k, m.sport, m.dport⟩ s.mux := by
  have only {c' : ConnPtr} (named : c' ∈ some c) {m' : MuxConnection} (present' : m' ∈ s.mux.conn c') : m' = m := by
    obtain rfl := Option.some.inj named
    exact Option.some.inj (present'.symm.trans present)
  refine ⟨fun c' named m' present' => ?_, fun c' named m' present' => ?_, fun c' named m' present' k' owner' => ?_,
    fun d' listed' c' member' k' named' owned' => ?_⟩
  · obtain ⟨m₀, _, _, record, dev, _⟩ := sound.linked.links.held d c holds
    rw [only named present', ← Option.some.inj (record.symm.trans present)]
    exact dev
  · rw [only named present']
    exact ⟨rfl, rfl⟩
  · rw [only named present', owner] at owner'
    exact owner'
  · obtain rfl := Option.some.inj named'
    have carries' := s.carries_of_hasClient ⟨listed', member'⟩ owned'
    exact congrArg some (sound.carries_unique ⟨holds, m, present, owner⟩ carries').2

/-- The connection with the ports of a segment is the one that is found. -/
private theorem findConnection_distinct (distinct : s.DistinctSports) {d : DevPtr} (listed : d ∈ s.mux.deviceList)
    {c : ConnPtr}
    {m : MuxConnection} {sport dport : UInt16} (member : c ∈ (s.mux.dev d).connections)
    (present : s.mux.conn c = some m)
    (ports : m.sport = sport ∧ m.dport = dport) : findConnection d sport dport s.mux = some c := by
  rcases found : findConnection d sport dport s.mux with _ | c'
  · have missed := List.find?_eq_none.mp found c member
    simp [present, ports] at missed
  · have member' := List.mem_of_find?_eq_some found
    have named := List.find?_some found
    rcases present' : s.mux.conn c' with _ | m'
    · simp [present'] at named
    · obtain ⟨same, _⟩ : m'.sport = sport ∧ m'.dport = dport := by simpa [present'] using named
      rw [distinct d listed c' member' c member m' present' m present (same.trans ports.1.symm)]

private theorem Sound.segmentIsolated (env : Env) (sound : Sound lax s.sys) (distinct : s.DistinctSports) {d : DevPtr}
    (listed : d ∈ s.mux.deviceList) (th : TcpHdr) (payload : Bytes)
    (released : (∀ n, (env.sock n).alloc = true) → ∀ c,
      .releasedConnection c ∉ (deviceTcpInput env d th payload s).mux.faults) :
    SegmentIsolated env s d th payload := by
  refine ⟨fun c member m present sport dport => ?_, fun foreign => ?_, released⟩
  · obtain ⟨m', k, _, record, _, owner, _⟩ := sound.linked.links.held d c ⟨listed, member⟩
    obtain rfl : m' = m := Option.some.inj (record.symm.trans present)
    have inside := sound.inScope ⟨listed, member⟩ present owner
    refine ⟨k, owner, ?_⟩
    simp only [deviceTcpInput, findConnection_distinct distinct listed member present ⟨sport, dport⟩]
    split
    · exact .refl s
    · exact connectionInput_isolated env rfl inside th payload
  · have missing : findConnection d th.dport th.sport s.mux = none := by
      refine List.find?_eq_none.mpr fun c member found => ?_
      rcases present : s.mux.conn c with _ | m
      · simp [present] at found
      · exact foreign c member m present (by simpa [present] using found)
    simp only [deviceTcpInput, missing]
    split
    · exact .refl s
    · split
      · exact .refl s
      · exact .setMux (.sendPacket env rfl rfl [])

private theorem deviceClientProcess_alone (env : Env) {k : ClientPtr} (alone : ∀ d c, ¬s.Carries d c k) (deviceId : ℕ)
    (events : PollMask) : ∃ faults, deviceClientProcess env deviceId k events s =
    s.setMux { s.mux with faults := faults } := by
  obtain ⟨faults, touched⟩ := touchNamed_faults deviceId s.mux
  have missing : getMuxConnection deviceId k { s.mux with faults := faults } = none := by
    rcases found : getMuxConnection deviceId k { s.mux with faults := faults } with _ | c
    · rfl
    · obtain ⟨d, listed, member, owned⟩ := getMuxConnection_held found
      exact absurd (s.carries_of_hasClient ⟨listed, member⟩ owned) (alone d c)
  refine ⟨faults, ?_⟩
  simp only [deviceClientProcess, Daemon.setMux, touched, missing]

end Scope

/-- In every reachable state whose devices respect the window and whose connections have distinct
source ports, a segment and a poll event of a connected client stay within their connection. -/
theorem run_isolated (env : Env) (events : List Event)
    (modest : Each (fun before event => Modest (run env before) event) events)
    (distinct : (run env events).DistinctSports) :
    (∀ d ∈ (run env events).mux.deviceList, ∀ th payload, (run env events).Admits d th payload →
      SegmentIsolated env (run env events) d th payload) ∧
    ∀ k client, (run env events).clients.client k = some client → client.state = .connected → ∀ mask,
      PollIsolated env (run env events) k client.connectDevice mask := by
  have sound := (run_sound_anything env events).1
  let lax : Laxity := { early := True, poor := False, rash := False }
  have strict (plenty : ∀ n, (env.sock n).alloc = true) : Sound lax (run env events).sys ∧ Alive (run env events).sys :=
    run_sound lax env events (.inl trivial) (.inr modest) (.inl trivial) (.inr plenty)
  have grants (plenty : ∀ n, (env.sock n).alloc = true) : Grants env lax :=
    ⟨.inr plenty, fun _ _ _ => trivial, fun _ _ _ _ => trivial⟩
  refine ⟨fun d listed th payload admits => ?_, fun k client present connected mask => ⟨?_, ?_, ?_⟩⟩
  · refine sound.segmentIsolated env distinct listed th payload fun plenty => ?_
    have calm := deviceTcpInput_calm env (grants plenty) (strict plenty).1 listed th payload
      fun c bytes arrives => ⟨trivial, .inr (admits (c, bytes) arrives)⟩
    exact ((calm.sound (strict plenty).1).released.resolve_left id).resolve_left id
  · intro d c m holds record owner
    exact Does.isolated (deviceClientProcess_does env rfl _ mask) (sound.inScope holds record owner)
  · exact fun alone => deviceClientProcess_alone env alone _ mask
  · intro plenty
    have calm := deviceClientProcess_calm (some k) env (strict plenty).1 (strict plenty).2 (grants plenty) present
      connected mask
    exact ((calm.sound (strict plenty).1).released.resolve_left id).resolve_left id

private theorem tunnel_modest : Each (fun before event => Modest (run sessionEnv before) event) tunnel := by
  decide +kernel

/-- A segment for the connection of the session, which brings data. -/
def dataSegment : TcpHdr := ⟨62078, 1, 1001, 1, 0x50, thAck, 512, 0, 0⟩

/-- Data for the connection, a segment for a connection that does not exist, and data from the
client stay within their scopes. -/
theorem tunnel_isolated :
    Isolated ⟨0, some 0, some 0, 1, 62078⟩ (run sessionEnv tunnel)
      (deviceTcpInput sessionEnv 0 dataSegment [1, 2, 3] (run sessionEnv tunnel)) ∧
    Isolated ⟨0, none, none, 9, 62078⟩ (run sessionEnv tunnel)
      (deviceTcpInput sessionEnv 0 { dataSegment with dport := 9 } [1, 2, 3] (run sessionEnv tunnel)) ∧
    Isolated ⟨0, some 0, some 0, 1, 62078⟩ (run sessionEnv tunnel)
      (deviceClientProcess sessionEnv 1 0 ⟨true, false⟩ (run sessionEnv tunnel)) := by
  obtain ⟨segments, polls⟩ := run_isolated sessionEnv tunnel tunnel_modest (by decide +kernel)
  have listed : 0 ∈ (run sessionEnv tunnel).mux.deviceList := by decide +kernel
  have member : 0 ∈ ((run sessionEnv tunnel).mux.dev 0).connections := by decide +kernel
  obtain ⟨m, present, sport, dport, owner⟩ : ∃ m, (run sessionEnv tunnel).mux.conn 0 = some m ∧ m.sport = 1 ∧
      m.dport = 62078 ∧ m.client = some 0 :=
    ⟨((run sessionEnv tunnel).mux.conn 0).get (by decide +kernel), by simp, by decide +kernel⟩
  obtain ⟨client, found, connected, device⟩ : ∃ client, (run sessionEnv tunnel).clients.client 0 = some client ∧
      client.state = .connected ∧ client.connectDevice = 1 :=
    ⟨((run sessionEnv tunnel).clients.client 0).get (by decide +kernel), by simp, by decide +kernel⟩
  refine ⟨?_, ?_, ?_⟩
  · obtain ⟨k, owner', isolated⟩ := (segments 0 listed dataSegment [1, 2, 3] (by decide +kernel)).matched 0 member m
      present sport dport
    obtain rfl := Option.some.inj (owner'.symm.trans owner)
    rwa [sport, dport] at isolated
  · have foreign : ∀ c ∈ ((run sessionEnv tunnel).mux.dev 0).connections,
        ∀ m ∈ (run sessionEnv tunnel).mux.conn c, ¬(m.sport = 9 ∧ m.dport = 62078) := by
      decide +kernel
    exact (segments 0 listed { dataSegment with dport := 9 } [1, 2, 3] (by decide +kernel)).unmatched foreign
  · have isolated := (polls 0 client found connected ⟨true, false⟩).carried 0 0 m ⟨listed, member⟩ present owner
    rwa [sport, dport, device] at isolated

end Usbmuxd
