import Usbmuxd.Proofs.Send
import Usbmuxd.Soundness.Pairing

/-! # What is left behind by a packet that could not be sent

`send_packet` numbers a packet before it hands it to `usb_send`, which may fail for the packet or for
the zero-length packet behind it. The packets that are sent are those that were reported as sent, and a
failure leaves no trace as long as it is not one of these two.
-/

namespace Usbmuxd

/-- The numbers of a device that has none, or has just those that it gets with a packet of the protocol. -/
def MuxDevice.Unmoved (dev : MuxDevice) (proto : MuxProtocol) : Prop :=
  dev.version < 2 ∨ if proto = .setup then dev.txSeq = some 1 ∧ dev.rxSeq = some 0xFFFF else dev.txSeq = none

private theorem MuxDevice.unmoved_iff (dev : MuxDevice) (proto : MuxProtocol) :
    (dev.restart proto).advance.txSeq = dev.txSeq ∧ (dev.restart proto).advance.rxSeq = dev.rxSeq ↔
      dev.Unmoved proto := by
  have moves (n : UInt16) : n + 1 ≠ n := by simp
  by_cases old : dev.version < 2
  · simp [MuxDevice.Unmoved, MuxDevice.restart, MuxDevice.advance, old, Nat.not_le.mpr old]
  have numbered := Nat.not_lt.mp old
  by_cases setup : proto = .setup
  · simp only [MuxDevice.Unmoved, MuxDevice.restart, MuxDevice.advance, numbered, setup, and_self, if_true, old,
      false_or, Option.map_some]
    exact and_congr eq_comm eq_comm
  · simp only [MuxDevice.Unmoved, MuxDevice.restart, MuxDevice.advance, numbered, setup, and_false, if_false, if_true,
      old, false_or, and_true]
    cases dev.txSeq with
    | none => simp
    | some n => simp [moves]

/-- The packet is only refused if its number makes no difference, and the zero-length packet behind it
is not refused. -/
structure SendsCleanly (env : Env) (dev : MuxDevice) (proto : MuxProtocol) (packet : Bytes) (tick : ℕ) : Prop where
  unmoved : (env.usb tick).submit < 0 → dev.Unmoved proto
  terminated : packet.length % (env.usbDevice dev.usbdev).wMaxPacketSize = 0 → 0 ≤ (env.usb tick).submit →
    0 ≤ (env.usb (tick + 1)).submit

/-- A failure leaves neither a transfer nor a changed number behind, and a packet that is reported as sent
was submitted with the zero-length packet that it needs, exactly if the packet is sent cleanly. -/
theorem failed_sends_atomic (env : Env) (d : DevPtr) (proto : MuxProtocol) (header data : Bytes) (s : Mux) :
    let r := sendPacket env d proto header data s
    ((r.1 < 0 →
        r.2.txXfers = s.txXfers ∧ (r.2.dev d).txSeq = (s.dev d).txSeq ∧ (r.2.dev d).rxSeq = (s.dev d).rxSeq) ∧
      (0 ≤ r.1 → ∃ packet ∈ builtPacket? (s.dev d) proto header data, r.2.txXfers = Function.update s.txXfers
        (s.dev d).usbdev
        (s.txXfers (s.dev d).usbdev ++ transfersOf (env.usbDevice (s.dev d).usbdev).wMaxPacketSize packet))) ↔
    ∀ packet ∈ builtPacket? (s.dev d) proto header data, SendsCleanly env (s.dev d) proto packet s.tick := by
  rcases sendPacket_cases env d proto header data s with
    ⟨unbuilt, nothing⟩ | ⟨packet, built, result, more, tick, faults, submission, sign, state⟩
  · simp [nothing, unbuilt]
  have only {P : Bytes → Prop} : (∀ packet ∈ builtPacket? (s.dev d) proto header data, P packet) ↔ P packet := by
    simp [built]
  rw [only]
  simp only [sign, ← not_lt, state, Function.update_self]
  cases submission with
  | done first second =>
    refine iff_of_true ⟨fun failed => absurd failed (by simp), fun _ => ⟨packet, built, rfl⟩⟩ ⟨fun refused => ?_, ?_⟩
    · exact absurd first (Int.not_le.mpr refused)
    · exact fun full _ => second full
  | refused failed first =>
    simp only [failed, true_implies, not_true_eq_false, false_implies, and_true, List.append_nil,
      Function.update_eq_self, true_and, MuxDevice.unmoved_iff]
    exact ⟨fun unmoved => ⟨fun _ => unmoved, fun _ taken => absurd first (Int.not_lt.mpr taken)⟩,
      fun cleanly => cleanly.unmoved first⟩
  | cut failed full first second =>
    refine iff_of_false (fun atomic => ?_) fun cleanly => absurd (cleanly.terminated full first) (Int.not_le.mpr second)
    have same := congrFun (atomic.1 failed).1 (s.dev d).usbdev
    simp at same

/-- A device of the given version, which has sent five packets. -/
def numberedDevice (version : ℕ) : Mux :=
  Mux.initial.setDev 0 { newDevice 0 1 with state := .active, version := version, txSeq := some 5, rxSeq := some 7 }

/-- libusb refuses the submission with the given number. The USB packets have 64 bytes. -/
def stalling (refused : ℕ) : Env :=
  { sessionEnv with
    usb := fun n => ⟨if n = refused then -1 else 0, 0, 0⟩
    usbDevice := fun _ => ⟨64, "", 0, 0, 0⟩ }

/-- A packet that a version 1 device refuses leaves nothing behind. -/
theorem refused_packet_atomic :
    (sendPacket (stalling 0) 0 .tcp (List.replicate 20 0) [] (numberedDevice 1)).1 < 0 ∧
    (sendPacket (stalling 0) 0 .tcp (List.replicate 20 0) [] (numberedDevice 1)).2.txXfers =
    (numberedDevice 1).txXfers := by
  have failed : (sendPacket (stalling 0) 0 .tcp (List.replicate 20 0) [] (numberedDevice 1)).1 < 0 := by decide
  have atomic := failed_sends_atomic (stalling 0) 0 .tcp (List.replicate 20 0) [] (numberedDevice 1)
  have cleanly : ∀ packet ∈ builtPacket? ((numberedDevice 1).dev 0) .tcp (List.replicate 20 0) [],
      SendsCleanly (stalling 0) ((numberedDevice 1).dev 0) .tcp packet (numberedDevice 1).tick :=
    fun _ _ => ⟨fun _ => .inl (by decide), fun _ taken => absurd taken (by decide)⟩
  exact ⟨failed, ((atomic.mpr cleanly).1 failed).1⟩

/-- A packet that a version 2 device refuses has used up a number. When the zero-length packet is refused,
the packet before it is in flight although it was reported as failed. -/
theorem failed_sends_traced :
    (sendPacket (stalling 0) 0 .tcp (List.replicate 20 0) (List.replicate 28 0) (numberedDevice 2)).1 < 0 ∧
    ((sendPacket (stalling 0) 0 .tcp (List.replicate 20 0)
      (List.replicate 28 0) (numberedDevice 2)).2.dev 0).txSeq = some 6 ∧
    (sendPacket (stalling 1) 0 .tcp (List.replicate 20 0) (List.replicate 28 0) (numberedDevice 2)).1 < 0 ∧
    (sendPacket (stalling 1) 0 .tcp (List.replicate 20 0) (List.replicate 28 0) (numberedDevice 2)).2.txXfers 0 =
      [((numberedDevice 2).dev 0).packet .tcp (List.replicate 20 0) (List.replicate 28 0)] := by
  decide +kernel

end Usbmuxd
