import Usbmuxd.Proofs.Runs

/-! # Clients and connections are paired

Two state machines point at each other and each can destroy the other. Between any two events they
agree: a client that is connecting or connected has exactly one connection, on the device it asked
for and in the matching state, and every connection has a client that is still listed. How the
device fills its window plays no part in this.
-/

namespace Usbmuxd

open History

namespace Daemon

/-- A listed device has a connection in its collection. -/
def Holds (s : Daemon) (d : DevPtr) (c : ConnPtr) : Prop :=
  d ∈ s.mux.deviceList ∧ c ∈ (s.mux.dev d).connections

/-- A device holds a connection whose client field is `k`. -/
def Carries (s : Daemon) (d : DevPtr) (c : ConnPtr) (k : ClientPtr) : Prop :=
  s.Holds d c ∧ ∃ m, s.mux.conn c = some m ∧ m.client = some k

/-- Clients and connections agree about each other. -/
structure PairingOk (s : Daemon) : Prop where
  engaged : ∀ k ∈ s.clients.clientList, ∃ client, s.clients.client k = some client ∧
    ((client.state = .connecting1 ∨ client.state = .connecting2 ∨ client.state = .connected) ↔
      ∃! place : DevPtr × ConnPtr, s.Carries place.1 place.2 k)
  matching : ∀ d c k, s.Carries d c k → ∃ m client, s.mux.conn c = some m ∧ s.clients.client k = some client ∧
    m.dev = d ∧ (s.mux.dev d).id = client.connectDevice ∧
    (client.state = .connecting1 → m.state = .connecting) ∧
    (client.state = .connecting2 ∨ client.state = .connected → m.state = .connected)
  owned : ∀ d c, s.Holds d c → ∃ k ∈ s.clients.clientList, s.Carries d c k

end Daemon

section Pairing

variable {lax : Laxity} {s : Daemon}

theorem Daemon.Carries.clientOf {d : DevPtr} {c : ConnPtr} {k : ClientPtr} (carries : s.Carries d c k) :
    s.sys.clientOf c = some k := by
  obtain ⟨_, m, record, owner⟩ := carries
  have record : (s.sys.conn c).1 = some m := record
  simp [Sys.clientOf, record, owner]

private theorem Daemon.carries_of_clientOf {d : DevPtr} {c : ConnPtr} {k : ClientPtr} (holds : s.Holds d c)
    (named : s.sys.clientOf c = some k) : s.Carries d c k := by
  obtain ⟨m, record, owner⟩ := Option.bind_eq_some_iff.mp named
  exact ⟨holds, m, record, owner⟩

/-- A connection in a collection fits its client, whatever the run admits. -/
private theorem Sound.matching (sound : Sound lax s.sys) {d : DevPtr} {c : ConnPtr} {k : ClientPtr}
    (carries : s.Carries d c k) :
    ∃ m client, s.mux.conn c = some m ∧ s.clients.client k = some client ∧ m.dev = d ∧
      client.connectDevice = (s.mux.dev d).id ∧ (m.state = .connecting ∧ client.state = .connecting1 ∨
        m.state = .connected ∧ (client.state = .connecting2 ∨ client.state = .connected)) := by
  obtain ⟨m, k', client, record, dev, owner, present, device, fits⟩ := sound.linked.links.held d c carries.1
  have same : s.sys.clientOf c = some k' := by simp [Sys.clientOf, record, owner]
  obtain rfl : k' = k := Option.some.inj (same.symm.trans carries.clientOf)
  refine ⟨m, client, record, present, dev, device, ?_⟩
  have viewed : s.sys.conn c = (some m, (s.sys.conn c).2) := Prod.ext record rfl
  rcases sound.not_dead viewed with waiting | opened
  · exact .inl ⟨waiting, ConnState.fits_connecting (waiting ▸ fits.state)⟩
  · exact .inr ⟨opened, ConnState.fits_connected (opened ▸ fits.state)⟩

/-- A client has at most one connection. -/
theorem Sound.carries_unique (sound : Sound lax s.sys) {d d' : DevPtr} {c c' : ConnPtr} {k : ClientPtr}
    (one : s.Carries d c k) (two : s.Carries d' c' k) : d = d' ∧ c = c' := by
  obtain rfl : c = c' := sound.linked.links.unique d c d' c' one.1 two.1 (one.clientOf.trans two.clientOf.symm)
  obtain ⟨m, _, record, _, dev, _⟩ := sound.matching one
  obtain ⟨m', _, record', _, dev', _⟩ := sound.matching two
  obtain rfl : m = m' := Option.some.inj (record.symm.trans record')
  exact ⟨dev.symm.trans dev', rfl⟩

private theorem Sound.pairingOk (sound : Sound lax s.sys) (paired : Paired s.sys) : s.PairingOk where
  engaged := by
    intro k listed
    obtain ⟨client, present⟩ := Option.isSome_iff_exists.mp ((sound.linked.roster.listed k).mp listed)
    refine ⟨client, present, fun engaged => ?_, fun ⟨place, carries, _⟩ => ?_⟩
    · obtain ⟨d, c, holding, named⟩ := paired k client present (by
        rcases engaged with state | state | state <;> simp [state, ClientState.engaged])
      have carries := Daemon.carries_of_clientOf holding named
      refine ⟨(d, c), carries, fun other also => ?_⟩
      obtain ⟨sameDev, sameConn⟩ := sound.carries_unique also carries
      exact Prod.ext sameDev sameConn
    · obtain ⟨m, client', _, present', _, _, state⟩ := sound.matching carries
      obtain rfl : client = client' := Option.some.inj (present.symm.trans present')
      rcases state with ⟨_, state⟩ | ⟨_, state⟩
      · exact .inl state
      · exact .inr state
  matching := by
    intro d c k carries
    obtain ⟨m, client, record, present, dev, device, state⟩ := sound.matching carries
    refine ⟨m, client, record, present, dev, device.symm, fun waiting => ?_, fun told => ?_⟩
    · rcases state with ⟨connecting, _⟩ | ⟨_, other | other⟩
      · exact connecting
      · simp [waiting] at other
      · simp [waiting] at other
    · rcases state with ⟨_, other⟩ | ⟨connected, _⟩
      · simp [other] at told
      · exact connected
  owned := by
    intro d c holds
    obtain ⟨m, k, client, record, _, owner, present, _⟩ := sound.linked.links.held d c holds
    exact ⟨k, (sound.linked.roster.listed k).mpr (by rw [present]; rfl), holds, m, record, owner⟩

end Pairing

/-- Client and connection pairing in every state of every run in which allocations succeed and no
client asks for a device in its handshake. -/
theorem run_pairingOk (env : Env) (plenty : ∀ n, (env.sock n).alloc = true) (events : List Event)
    (prudent : Each (fun before event => Prudent env (run env before) event) events) : (run env events).PairingOk := by
  obtain ⟨sound, _⟩ := run_sound { early := False, poor := False } env events (.inr prudent)
    (.inl trivial) (.inl trivial) (.inr plenty)
  exact sound.pairingOk ((sound.paired.resolve_left id).resolve_left id)

/-- A `Connect` frame of the binary protocol, with tag 7. -/
def connectFrame (deviceId : UInt32) (port : UInt16) : Bytes :=
  le32 24 ++ le32 0 ++ le32 2 ++ le32 7 ++ le32 deviceId ++ be16 port ++ [0, 0]

theorem emptyXml_fits : ([] : Bytes).length + 16 < 2 ^ 31 := by decide

/-- A world in which everything succeeds. The socket delivers one frame, its header first. -/
def sessionEnv : Env where
  usb n := ⟨0, UInt64.ofNat n, 0⟩
  sock n := {
    send := .sent 65536
    recv := .received (if n = 1 then (connectFrame 1 62078).take 16 else (connectFrame 1 62078).drop 16)
    accept := 5, alloc := true, slot := 0, thread := false, conf := 0, record := none, buid := "" }
  usbDevice _ := ⟨512, "", 0, 0, 0⟩
  plistFromXml _ := none
  plistToXml _ := []
  noPreflight := true
  resultXml_fits _ := emptyXml_fits

/-- A transfer that is filled to its end. -/
def Transfer.full (data : Bytes) : Transfer := ⟨data, data.length, Nat.le_refl _⟩

/-- The version reply of a version 2 device. -/
def versionReply : Bytes := be32 0 ++ be32 20 ++ be32 2 ++ be32 0 ++ be32 0

/-- The answer to the first connection request for port 62078. -/
def acceptance : Bytes :=
  be32 6 ++ be32 36 ++ be32 0xfeedface ++ be16 0 ++ be16 1 ++
    TcpHdr.encode ⟨62078, 1, 1000, 1, 0x50, thSyn ||| thAck, 512, 0, 0⟩

/-- A device completes its handshake, a client asks for it, and the device accepts. -/
def session : List Event :=
  [.deviceAdd 0, .dataInput 0 (.full versionReply), .accept, .clientProcess 5 ⟨true, false⟩,
    .clientProcess 5 ⟨true, false⟩, .dataInput 0 (.full acceptance)]

/-- The session goes on until the reply has left through the socket of its client. -/
def tunnel : List Event := session ++ [.clientProcess 5 ⟨false, true⟩]

theorem session_prudent : Each (fun before event => Prudent sessionEnv (run sessionEnv before) event) session := by
  decide +kernel

/-- The session ends with a connection and its client, and the two are paired. -/
theorem session_pairingOk : (run sessionEnv session).Carries 0 0 0 ∧ (run sessionEnv session).PairingOk :=
  ⟨⟨⟨by decide +kernel, by decide +kernel⟩, by
      refine ⟨((run sessionEnv session).mux.conn 0).get (by decide +kernel), by simp, by decide +kernel⟩⟩,
    run_pairingOk sessionEnv (fun _ => rfl) session session_prudent⟩

end Usbmuxd
