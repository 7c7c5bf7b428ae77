import Usbmuxd.Soundness.Streams

/-! # What a device is sent

A version 2 device can count the packets it gets: the numbers start with the `SETUP` packet of its
handshake and are shared by all its connections. Connections belong to devices that have completed
their handshake, as long as no client asks for another one: `device_start_connect` does not look.
-/

namespace Usbmuxd

open History Interleaving WireLog WireEvent

/-- Packets to a version 2 device, in any run: `SETUP` comes first, every later packet carries its
place among them and the sequence number seen last, and nothing is ever built from a number that was
never stored. A packet counts once it is handed to USB, and is submitted unless USB refuses it. -/
theorem version_two_numbering (env : Env) (events : List Event) (d : DevPtr) :
    (∀ before after, (run env events).mux.devLog d = before ++ version 2 :: after →
      (∃ event rest setup, after = event :: rest ∧ event.packet? = some setup ∧
        be32At setup 0 = MuxProtocol.setup.code ∧ be16At setup 12 = 0 ∧ be16At setup 14 = 0xFFFF) ∧
      ∀ earlier event later packet, after = earlier ++ event :: later → event.packet? = some packet →
        be32At packet 8 = 0xfeedface ∧ be16At packet 12 = UInt16.ofNat (packets earlier).length ∧
          be16At packet 14 = lastSeen earlier) ∧
    (∀ packet rxSeq, received packet rxSeq ∈ (run env events).mux.devLog d → 16 ≤ packet.length →
      rxSeq = be16At packet 14) ∧
    .uninitialisedSequence d ∉ (run env events).mux.faults ∧
    (∀ u, Interleaves (handover (run env events).mux.usb (run env events).mux.flows.failed u)
      (run env events).mux.flows.sent ((run env events).mux.txXfers u)) := by
  have sound := (run_sound_anything env events).1
  have ok := sound.wires d
  obtain ⟨route, wired⟩ := run_wired env events
  refine ⟨fun before after split => ?_, ok.fields, sound.numbered d,
    (wired events List.prefix_rfl).2.transmits.submitted⟩
  obtain ⟨_, _, _, each, first, rest, rfl, handed⟩ := ok.numbers before after split
  refine ⟨?_, fun earlier event later packet place known => ?_⟩
  · obtain ⟨setup, known⟩ := Option.isSome_iff_exists.mp handed
    obtain ⟨_, tx, rx, code⟩ := each [] first rest rfl setup known
    exact ⟨first, rest, setup, rfl, known, code rfl, tx, rx⟩
  · obtain ⟨magic, tx, rx, _⟩ := each earlier event later place packet known
    exact ⟨magic, tx, rx⟩

/-- Connections are on active devices, TCP packets went to devices between their version reply and
their end, and no collection was read before it was set up or dropped with connections in it. -/
structure Daemon.OnlyActive (s : Daemon) : Prop where
  held : ∀ d c, s.Holds d c → (s.mux.dev d).state = .active
  sent : ∀ d, Each TcpWhileActive (s.mux.devLog d)
  read : ∀ d, .uninitialisedConnections d ∉ s.mux.faults
  kept : ∀ d, .discardedConnections d ∉ s.mux.faults

/-- Every state of a run in which no client asks for a device in its handshake. Allocations may fail. -/
theorem prudent_run_onlyActive (env : Env) (events : List Event)
    (prudent : Each (fun before event => Prudent env (run env before) event) events) :
    (run env events).OnlyActive := by
  obtain ⟨sound, alive⟩ := run_sound { early := False, poor := True } env events (.inr prudent)
    (.inl trivial) (.inl trivial) (.inl trivial)
  have strict := sound.strict.resolve_left id
  refine ⟨fun d c holds => ?_, fun d => (sound.wires d).tcp.resolve_left id, fun d harmful => ?_, fun d harmful => ?_⟩
  · have living : ((run env events).mux.dev d).state ≠ .dead := alive d holds.1
    have greeted : ((run env events).mux.dev d).state ≠ .init := fun waiting =>
      List.ne_nil_of_mem holds.2 (strict.inert d holds.1 waiting)
    cases state : ((run env events).mux.dev d).state with
    | init => exact absurd state greeted
    | active => rfl
    | dead => exact absurd state living
  · exact absurd (strict.clean _ harmful) (by simp [MuxFault.harmless])
  · exact absurd (strict.clean _ harmful) (by simp [MuxFault.harmless])

theorem session_onlyActive : (run sessionEnv session).Holds 0 0 ∧ (run sessionEnv session).OnlyActive :=
  ⟨⟨by decide +kernel, by decide +kernel⟩, prudent_run_onlyActive sessionEnv session session_prudent⟩

/-- A client asks for a device that has not answered the version request yet. -/
def hastyRequest : List Event :=
  [.deviceAdd 0, .accept, .clientProcess 5 ⟨true, false⟩, .clientProcess 5 ⟨true, false⟩]

/-- The request is not refused: the device in `MUXDEV_INIT` gets a connection and a TCP packet, its
collection is read before it is set up, and the version reply drops it with the connection in it. -/
theorem hastyRequest_not_onlyActive :
    ((run sessionEnv hastyRequest).mux.dev 0).state = .init ∧ (run sessionEnv hastyRequest).Holds 0 0 ∧
    ((run sessionEnv hastyRequest).clients.client 0).any (fun client => client.state = .connecting1) ∧
    ((run sessionEnv hastyRequest).mux.devLog 0).any (fun event =>
      event.packet?.any fun packet => be32At packet 0 = MuxProtocol.tcp.code) ∧
    .uninitialisedConnections 0 ∈ (run sessionEnv hastyRequest).mux.faults ∧
    .discardedConnections 0 ∈
      (run sessionEnv (hastyRequest ++ [.dataInput 0 (.full versionReply)])).mux.faults := by
  refine ⟨by decide +kernel, ⟨by decide +kernel, by decide +kernel⟩, ?_, ?_, ?_, ?_⟩
  all_goals decide +kernel

end Usbmuxd
