import Usbmuxd.ToMathlib.History
import Usbmuxd.Model.Input
import Usbmuxd.Proofs.PacketLayout

/-! # What one device can do

The abstract machine of a device record and its wire log. A version 2 device numbers the packets it
is sent; the numbers start with the `SETUP` packet of the handshake and are shared by all
connections. The parameter `lax` admits TCP packets before the handshake, which the code sends when
a client asks for a device that has not answered yet.
-/

namespace Usbmuxd

open History

namespace WireEvent

/-- The packet handed to USB, whether or not USB took it. -/
@[simp] def packet? : WireEvent → Option Bytes
  | sent packet => some packet
  | failed packet => some packet
  | _ => none

/-- A packet that reached the dispatch. -/
@[simp] def input? : WireEvent → Option Bytes
  | received packet _ => some packet
  | _ => none

/-- The `rx_seq` field seen last, given the earlier one. -/
@[simp] def latestSeen (prior : UInt16) : WireEvent → UInt16
  | received _ rxSeq => rxSeq
  | _ => prior

end WireEvent

namespace WireLog

/-- The packets handed to USB, in order. -/
def packets (log : List WireEvent) : List Bytes := log.filterMap WireEvent.packet?

/-- The packets that reached the dispatch, in order. -/
def inputs (log : List WireEvent) : List Bytes := log.filterMap WireEvent.input?

/-- The `rx_seq` field of the packet received last, `0xFFFF` before any. -/
def lastSeen (log : List WireEvent) : UInt16 := log.foldl WireEvent.latestSeen 0xFFFF

@[simp] theorem packets_append (a b : List WireEvent) : packets (a ++ b) = packets a ++ packets b :=
  List.filterMap_append
@[simp] theorem packets_cons (event : WireEvent) (log : List WireEvent) :
    packets (event :: log) = event.packet?.toList ++ packets log := by
  cases event <;> rfl
@[simp] theorem packets_nil : packets [] = [] := rfl
@[simp] theorem inputs_append (a b : List WireEvent) : inputs (a ++ b) = inputs a ++ inputs b :=
  List.filterMap_append
@[simp] theorem inputs_cons (event : WireEvent) (log : List WireEvent) :
    inputs (event :: log) = event.input?.toList ++ inputs log := by
  cases event <;> rfl
@[simp] theorem inputs_nil : inputs [] = [] := rfl
@[simp] theorem lastSeen_nil : lastSeen [] = 0xFFFF := rfl
@[simp] theorem lastSeen_cons (event : WireEvent) (log : List WireEvent) :
    lastSeen (event :: log) = log.foldl WireEvent.latestSeen (event.latestSeen 0xFFFF) := rfl
@[simp] theorem lastSeen_append (a b : List WireEvent) :
    lastSeen (a ++ b) = b.foldl WireEvent.latestSeen (lastSeen a) := List.foldl_append

end WireLog

open WireLog WireEvent

/-- The header of a packet sent after the handshake with a version 2 device: the magic, its place
among the packets, the sequence number seen last, and `SETUP` for the first one. -/
def Numbered (before : List WireEvent) (event : WireEvent) : Prop :=
  ∀ packet, event.packet? = some packet →
    be32At packet 8 = 0xfeedface ∧ be16At packet 12 = UInt16.ofNat (packets before).length ∧
      be16At packet 14 = lastSeen before ∧ (packets before = [] → be32At packet 0 = MuxProtocol.setup.code)

/-- The history begins with a packet. -/
def Opens (log : List WireEvent) : Prop := ∃ event rest, log = event :: rest ∧ event.packet?.isSome

private theorem Opens.packets_ne_nil {log : List WireEvent} (opens : Opens log) : packets log ≠ [] := by
  obtain ⟨event, rest, rfl, first⟩ := opens
  obtain ⟨packet, known⟩ := Option.isSome_iff_exists.mp first
  rw [packets_cons, known]
  simp

private theorem Opens.append {log : List WireEvent} (opens : Opens log) (more : List WireEvent) :
    Opens (log ++ more) := by
  obtain ⟨event, rest, rfl, first⟩ := opens
  exact ⟨event, rest ++ more, rfl, first⟩

/-- A TCP packet is sent between the version reply and the end of the device. -/
def TcpWhileActive (before : List WireEvent) (event : WireEvent) : Prop :=
  ∀ packet, event.packet? = some packet → be32At packet 0 = MuxProtocol.tcp.code →
    (∃ major, version major ∈ before) ∧ dead ∉ before

/-- A device as seen from outside: its record and its log. -/
abbrev DevView := MuxDevice × List WireEvent

/-- Changes of a record that concern neither its identity, its state, its connections nor its
numbering. -/
structure MuxDevice.SameCore (dev dev' : MuxDevice) : Prop where
  usbdev : dev'.usbdev = dev.usbdev
  id : dev'.id = dev.id
  state : dev'.state = dev.state
  initialised : dev'.initialised = dev.initialised
  connections : dev'.connections = dev.connections
  version : dev'.version = dev.version
  rxSeq : dev'.rxSeq = dev.rxSeq
  txSeq : dev'.txSeq = dev.txSeq
  visible : dev.visible → dev'.visible

/-- The record after the version reply: numbered by the `SETUP` packet, if there is one, and active
with an empty collection. -/
def MuxDevice.greeted (dev : MuxDevice) (major : UInt32) : MuxDevice :=
  { (({ dev with version := major.toNat } : MuxDevice).restart .setup).advance with
    state := .active, initialised := true, connections := [] }

/-- A packet went to USB or was refused. -/
def Handed (event : WireEvent) (packet : Bytes) : Prop := event = sent packet ∨ event = failed packet

private theorem Handed.packet {event : WireEvent} {packet : Bytes} (handed : Handed event packet) :
    event.packet? = some packet := by
  rcases handed with rfl | rfl <;> rfl

/-- The elementary changes of one device between its registration and its end. A device that is not
shown to clients becomes visible only if it may be shown. -/
inductive WireStep (lax shows : Prop) : DevView → DevView → Prop
  | bookkeep {dev dev' : MuxDevice} (log : List WireEvent) (same : dev.SameCore dev')
      (seen : dev'.visible = dev.visible ∨ shows) : WireStep lax shows (dev, log) (dev', log)
  | tcp (dev : MuxDevice) (log : List WireEvent) {event : WireEvent} {header data : Bytes}
      (active : dev.state = .active ∨ lax) (handed : Handed event (dev.packet .tcp header data)) :
      WireStep lax shows (dev, log) (dev.advance, log ++ [event])
  | received (dev : MuxDevice) (log : List WireEvent) (buffer : Bytes) (length : ℕ) :
      WireStep lax shows (dev, log) (dev.track buffer,
        log ++ [received (buffer.take length) (dev.rxSeqSeen buffer length)])
  | control (dev : MuxDevice) (log : List WireEvent) (payload : Bytes) :
      WireStep lax shows (dev, log) (dev, log ++ [control payload])

/-- The invariant of a device. -/
structure WireOk (lax : Prop) (view : DevView) : Prop where
  init : view.1.state = .init → ∀ event ∈ view.2, (∀ major, event ≠ version major) ∧ event ≠ dead
  active : view.1.state = .active → (∃ major, version major ∈ view.2) ∧ dead ∉ view.2
  initialised : view.1.initialised = true ↔ view.1.state ≠ .init
  versioned : 2 ≤ view.1.version → version 2 ∈ view.2
  numbers : ∀ before after, view.2 = before ++ version 2 :: after →
    view.1.version = 2 ∧ view.1.txSeq = some (UInt16.ofNat (packets after).length) ∧
      view.1.rxSeq = some (lastSeen after) ∧ Each Numbered after ∧ Opens after
  fields : ∀ packet rxSeq, received packet rxSeq ∈ view.2 → 16 ≤ packet.length → rxSeq = be16At packet 14
  tcp : lax ∨ Each TcpWhileActive view.2

namespace WireOk

variable {lax : Prop} {dev dev' : MuxDevice} {log : List WireEvent}

/-- A version 2 device has its sequence numbers. -/
theorem seqs (ok : WireOk lax (dev, log)) (numbered : 2 ≤ dev.version) :
    ∃ tx rx, dev.txSeq = some tx ∧ dev.rxSeq = some rx := by
  obtain ⟨before, after, split⟩ := List.append_of_mem (ok.versioned numbered)
  obtain ⟨_, tx, rx, _⟩ := ok.numbers before after split
  exact ⟨_, _, tx, rx⟩

/-- Nothing is built from sequence numbers that were never stored. -/
theorem not_unnumbered (ok : WireOk lax (dev, log)) : dev.unnumbered = false := by
  by_cases numbered : 2 ≤ dev.version
  · obtain ⟨tx, rx, txSeq, rxSeq⟩ := ok.seqs numbered
    simp [MuxDevice.unnumbered, txSeq, rxSeq]
  · simp [MuxDevice.unnumbered, numbered]

/-- Reconstruction of the invariant when the log grows by something that is no turning point. -/
private theorem grow {event : WireEvent} (ok : WireOk lax (dev, log)) (state : dev'.state = dev.state)
    (initialised : dev'.initialised = dev.initialised) (sameVersion : dev'.version = dev.version)
    (plain : (∀ major, event ≠ version major) ∧ event ≠ dead)
    (field : ∀ packet rxSeq, event = received packet rxSeq → 16 ≤ packet.length → rxSeq = be16At packet 14)
    (tcp : lax ∨ TcpWhileActive log event)
    (numbers : ∀ after, dev.version = 2 → dev.txSeq = some (UInt16.ofNat (packets after).length) →
      dev.rxSeq = some (lastSeen after) → packets after ≠ [] →
      dev'.txSeq = some (UInt16.ofNat (packets (after ++ [event])).length) ∧
        dev'.rxSeq = some (lastSeen (after ++ [event])) ∧ Numbered after event) :
    WireOk lax (dev', log ++ [event]) where
  init := by
    intro unborn other member
    rcases List.mem_append.mp member with old | new
    · exact ok.init (state ▸ unborn) other old
    · rw [List.mem_singleton.mp new]
      exact plain
  active := by
    intro active
    obtain ⟨⟨major, greeted⟩, alive⟩ := ok.active (state ▸ active)
    refine ⟨⟨major, List.mem_append_left _ greeted⟩, fun member => ?_⟩
    rcases List.mem_append.mp member with old | new
    · exact alive old
    · exact plain.2 (List.mem_singleton.mp new).symm
  initialised := by simpa [state, initialised] using ok.initialised
  versioned := fun numbered => List.mem_append_left _ (ok.versioned (sameVersion ▸ numbered))
  numbers := by
    intro before after split
    rcases split_snoc split with ⟨_, _, same⟩ | ⟨rest, rfl, earlier⟩
    · exact absurd same.symm (plain.1 2)
    · obtain ⟨versionTwo, txSeq, rxSeq, each, started⟩ := ok.numbers before rest earlier
      obtain ⟨txSeq', rxSeq', numbered⟩ := numbers rest versionTwo txSeq rxSeq started.packets_ne_nil
      exact ⟨sameVersion.trans versionTwo, txSeq', rxSeq', each_snoc each numbered, started.append _⟩
  fields := by
    intro packet rxSeq member long
    rcases List.mem_append.mp member with old | new
    · exact ok.fields packet rxSeq old long
    · exact field packet rxSeq (List.mem_singleton.mp new).symm long
  tcp := by
    rcases ok.tcp with free | each
    · exact .inl free
    · exact tcp.imp_right fun here => each_snoc each here

/-- Bookkeeping and changes of the connection list do not touch the invariant. -/
theorem congr (ok : WireOk lax (dev, log)) (state : dev'.state = dev.state)
    (initialised : dev'.initialised = dev.initialised) (sameVersion : dev'.version = dev.version)
    (rxSeq : dev'.rxSeq = dev.rxSeq) (txSeq : dev'.txSeq = dev.txSeq) : WireOk lax (dev', log) where
  init := by simpa [state] using ok.init
  active := by simpa [state] using ok.active
  initialised := by simpa [state, initialised] using ok.initialised
  versioned := by simpa [sameVersion] using ok.versioned
  numbers := by simpa [sameVersion, rxSeq, txSeq] using ok.numbers
  fields := ok.fields
  tcp := ok.tcp

end WireOk

/-- Every elementary change keeps the invariant. -/
theorem WireStep.wireOk {lax shows : Prop} {view view' : DevView} (change : WireStep lax shows view view')
    (ok : WireOk lax view) : WireOk lax view' := by
  cases change with
  | bookkeep log same seen => exact ok.congr same.state same.initialised same.version same.rxSeq same.txSeq
  | @tcp dev log event header data active handed =>
    have sameState : dev.advance.state = dev.state ∧ dev.advance.initialised = dev.initialised ∧
        dev.advance.version = dev.version := by
      simp only [MuxDevice.advance]
      split <;> exact ⟨rfl, rfl, rfl⟩
    refine ok.grow sameState.1 sameState.2.1 sameState.2.2 ?_ ?_ ?_ ?_
    · rcases handed with rfl | rfl <;> simp
    · rcases handed with rfl | rfl <;> simp
    · exact active.symm.imp_right fun isActive packet _ _ => ok.active isActive
    · intro after versionTwo txSeq rxSeq started
      have numbered : 2 ≤ dev.version := by omega
      refine ⟨?_, ?_, ?_⟩
      · rcases handed with rfl | rfl <;> simp [MuxDevice.advance, numbered, txSeq, UInt16.ofNat_add]
      · rcases handed with rfl | rfl <;> simp [MuxDevice.advance, numbered, rxSeq]
      · intro packet known
        obtain rfl : dev.packet .tcp header data = packet := Option.some.inj (handed.packet.symm.trans known)
        exact ⟨MuxDevice.packet_magic _ _ numbered, MuxDevice.packet_txSeq _ _ numbered (by simpa using txSeq),
          MuxDevice.packet_rxSeq _ _ numbered (by simpa using rxSeq), fun first => absurd first started⟩
  | received dev log buffer length =>
    have sameState : (dev.track buffer).state = dev.state ∧ (dev.track buffer).initialised = dev.initialised ∧
        (dev.track buffer).version = dev.version ∧ (dev.track buffer).txSeq = dev.txSeq := by
      simp only [MuxDevice.track]
      split <;> exact ⟨rfl, rfl, rfl, rfl⟩
    refine ok.grow sameState.1 sameState.2.1 sameState.2.2.1 (by simp) ?_ (.inr fun packet none => by simp at none) ?_
    · intro packet rxSeq same long
      obtain ⟨rfl, rfl⟩ := WireEvent.received.inj same
      have contained : 16 ≤ length := by
        rw [List.length_take] at long
        omega
      rw [MuxDevice.rxSeqSeen, if_pos (.inr contained)]
      exact be16At_of_take (n := length) (by rw [List.take_take, Nat.min_self]) contained
    · intro after versionTwo txSeq _ _
      have numbered : 2 ≤ dev.version := by omega
      refine ⟨?_, ?_, fun packet none => by simp at none⟩
      · simpa [sameState.2.2.2] using txSeq
      · simp [MuxDevice.track, MuxDevice.rxSeqSeen, numbered]
  | control dev log payload =>
    refine ok.grow rfl rfl rfl (by simp) (by simp) (.inr fun packet none => by simp at none) ?_
    intro after _ txSeq rxSeq _
    exact ⟨by simpa using txSeq, by simpa using rxSeq, fun packet none => by simp at none⟩

namespace WireOk

variable {lax : Prop} {dev : MuxDevice} {log : List WireEvent}

/-- A record nobody has used. -/
theorem unused (lax : Prop) : WireOk lax (default, []) where
  init := by simp
  active := fun active => absurd active (by decide)
  initialised := by decide
  versioned := fun numbered => absurd numbered (by decide)
  numbers := by simp
  fields := by simp
  tcp := .inr (each_nil _)

/-- A new device, after its version request. -/
theorem requested (u : UsbPtr) (id : ℕ) {event : WireEvent} {header data : Bytes}
    (handed : Handed event ((newDevice u id).packet .version header data)) : WireOk lax (newDevice u id, [event]) where
  init := by rcases handed with rfl | rfl <;> simp
  active := by simp [newDevice]
  initialised := by simp [newDevice]
  versioned := by simp [newDevice]
  numbers := by
    intro before after split
    have shape : [event] = before ++ version 2 :: after := split
    have member : version 2 ∈ [event] := by rw [shape]; simp
    rcases handed with rfl | rfl <;> simp at member
  fields := by rcases handed with rfl | rfl <;> simp
  tcp := by
    refine .inr fun before other after split packet known isTcp => ?_
    have shape : [event] = before ++ other :: after := split
    have same : other = event := List.mem_singleton.mp (by rw [shape]; simp)
    rw [same, handed.packet] at known
    rw [← Option.some.inj known, MuxDevice.packet_protocol] at isTcp
    exact absurd isTcp (by decide)

/-- The handshake with a version 1 device. -/
theorem greeted_one (ok : WireOk lax (dev, log)) (waiting : dev.state = .init) :
    WireOk lax (dev.greeted 1, log ++ [version 1]) where
  init := by simp [MuxDevice.greeted]
  active := by
    intro _
    refine ⟨⟨1, by simp⟩, fun member => ?_⟩
    rcases List.mem_append.mp member with old | new
    · exact (ok.init waiting _ old).2 rfl
    · simp at new
  initialised := by simp [MuxDevice.greeted]
  versioned := by simp [MuxDevice.greeted, MuxDevice.restart, MuxDevice.advance]
  numbers := by
    intro before after split
    rcases split_snoc split with ⟨_, _, same⟩ | ⟨rest, rfl, earlier⟩
    · simp at same
    · exact absurd rfl ((ok.init waiting (version 2) (by rw [earlier]; simp)).1 2)
  fields := by simpa using ok.fields
  tcp := ok.tcp.imp_right fun each => each_snoc each fun packet none => by simp at none

/-- The handshake with a version 2 device: `SETUP` starts the numbering. -/
theorem greeted_two (ok : WireOk lax (dev, log)) (waiting : dev.state = .init) {event : WireEvent} {data : Bytes}
    (handed : Handed event (({ dev with version := 2 } : MuxDevice).packet .setup [] data)) :
    WireOk lax (dev.greeted 2, log ++ [version 2, event]) := by
  set setup : MuxDevice := { dev with version := 2 } with setupDef
  have numbered : 2 ≤ setup.version := Nat.le_refl 2
  have txSeq : (setup.restart .setup).txSeq = some 0 := by simp [MuxDevice.restart, setupDef]
  have rxSeq : (setup.restart .setup).rxSeq = some 0xFFFF := by simp [MuxDevice.restart, setupDef]
  have plain : (∀ major, event ≠ version major) ∧ event ≠ dead ∧ ∀ packet rxSeq, event ≠ received packet rxSeq := by
    rcases handed with rfl | rfl <;> simp
  have unmet : version 2 ∉ log := fun member => (ok.init waiting _ member).1 2 rfl
  refine ⟨by simp [MuxDevice.greeted], ?_, by simp [MuxDevice.greeted], by simp, ?_, ?_, ?_⟩
  · intro _
    refine ⟨⟨2, by simp⟩, fun member => ?_⟩
    have old : dead ∈ log := by
      rcases List.mem_append.mp member with old | new
      · exact old
      · rcases List.mem_cons.mp new with same | same
        · cases same
        · exact absurd (List.mem_singleton.mp same).symm plain.2.1
    exact (ok.init waiting _ old).2 rfl
  · intro before after split
    have shape : (log ++ [version 2]) ++ [event] = before ++ version 2 :: after := by simpa using split
    rcases split_snoc shape with ⟨_, _, same⟩ | ⟨rest, rfl, earlier⟩
    · exact absurd same.symm (plain.1 2)
    rcases split_snoc earlier with ⟨rfl, _, _⟩ | ⟨rest, _, earliest⟩
    · refine ⟨?_, ?_, ?_, ?_, ?_⟩
      · simp [MuxDevice.greeted, MuxDevice.restart, MuxDevice.advance]
      · rcases handed with rfl | rfl <;> simp [MuxDevice.greeted, MuxDevice.restart, MuxDevice.advance]
      · rcases handed with rfl | rfl <;> simp [MuxDevice.greeted, MuxDevice.restart, MuxDevice.advance]
      · refine each_snoc (each_nil _) fun packet known => ?_
        obtain rfl := Option.some.inj (handed.packet.symm.trans known)
        exact ⟨MuxDevice.packet_magic _ _ numbered, MuxDevice.packet_txSeq _ _ numbered txSeq,
          MuxDevice.packet_rxSeq _ _ numbered rxSeq, fun _ => MuxDevice.packet_protocol _ _ _ _⟩
      · exact ⟨event, [], rfl, by rw [handed.packet]; rfl⟩
    · exact absurd (by rw [earliest]; simp) unmet
  · intro packet rxSeq member
    have old : received packet rxSeq ∈ log := by
      rcases List.mem_append.mp member with old | new
      · exact old
      · rcases List.mem_cons.mp new with same | same
        · cases same
        · exact absurd (List.mem_singleton.mp same).symm (plain.2.2 packet rxSeq)
    exact ok.fields packet rxSeq old
  · refine ok.tcp.imp_right fun each => ?_
    rw [List.append_cons]
    refine each_snoc (each_snoc each fun packet none => by simp at none) fun packet known isTcp => ?_
    rw [handed.packet] at known
    rw [← Option.some.inj known, MuxDevice.packet_protocol] at isTcp
    exact absurd isTcp (by decide)

/-- The end of an active device. -/
theorem retired (ok : WireOk lax (dev, log)) (active : dev.state = .active) :
    WireOk lax ({ dev with state := .dead }, log ++ [dead]) where
  init := by simp
  active := by simp
  initialised := by simpa [active] using ok.initialised
  versioned := fun numbered => List.mem_append_left _ (ok.versioned numbered)
  numbers := by
    intro before after split
    rcases split_snoc split with ⟨_, _, same⟩ | ⟨rest, rfl, earlier⟩
    · simp at same
    · obtain ⟨versionTwo, txSeq, rxSeq, each, started⟩ := ok.numbers before rest earlier
      exact ⟨versionTwo, by simpa using txSeq, by simpa using rxSeq, each_snoc each fun packet none => by simp at none,
        started.append _⟩
  fields := by simpa using ok.fields
  tcp := ok.tcp.imp_right fun each => each_snoc each fun packet none => by simp at none

end WireOk

end Usbmuxd
