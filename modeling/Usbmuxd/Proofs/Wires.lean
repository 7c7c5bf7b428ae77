import Usbmuxd.ToMathlib.Interleaving
import Usbmuxd.Proofs.Events
import Usbmuxd.Proofs.PacketLayout
import Usbmuxd.Proofs.Runs

/-! # From segments to transfers

A segment that a connection sends is a packet of its device, and a packet is a transfer of the USB device,
with an empty transfer behind it at most. So what is submitted for a USB device is interleaved from the
packets of its devices, and these from the segments of their connections and packets of the daemon itself.
-/

namespace Usbmuxd

open Collection Interleaving

/-- What is settled when a connection is opened. -/
structure Route where
  dev : DevPtr
  sport : UInt16
  dport : UInt16
deriving DecidableEq

def MuxConnection.route (m : MuxConnection) : Route := ⟨m.dev, m.sport, m.dport⟩

/-- The USB device of a device. -/
def Mux.usb (s : Mux) (d : DevPtr) : UsbPtr := (s.dev d).usbdev

/-- A segment that was handed over. -/
def ConnEvent.segment? : ConnEvent → Option (TcpHdr × Bytes)
  | .segment th data res => if 0 ≤ res then some (th, data) else none
  | _ => none

def WireEvent.sent? : WireEvent → Option Bytes
  | .sent packet => some packet
  | _ => none

def WireEvent.failed? : WireEvent → Option Bytes
  | .failed packet => some packet
  | _ => none

/-- What goes out: segments of connections, packets to devices, those that failed, and transfers. -/
structure Flows where
  segments : ConnPtr → List (TcpHdr × Bytes)
  sent : DevPtr → List Bytes
  failed : DevPtr → List Bytes
  transfers : UsbPtr → List Bytes

namespace Flows

instance : Append Flows where
  append f g := ⟨fun c => f.segments c ++ g.segments c, fun d => f.sent d ++ g.sent d,
    fun d => f.failed d ++ g.failed d, fun u => f.transfers u ++ g.transfers u⟩

def none : Flows := ⟨fun _ => [], fun _ => [], fun _ => [], fun _ => []⟩

/-- Segments of a connection. -/
def hand (f : Flows) (c : ConnPtr) (segments : List (TcpHdr × Bytes)) : Flows :=
  { f with segments := Function.update f.segments c (f.segments c ++ segments) }

/-- Packets to a device and the transfers that they are. -/
def submit (f : Flows) (d : DevPtr) (u : UsbPtr) (sent failed transfers : List Bytes) : Flows :=
  { f with
    sent := Function.update f.sent d (f.sent d ++ sent)
    failed := Function.update f.failed d (f.failed d ++ failed)
    transfers := Function.update f.transfers u (f.transfers u ++ transfers) }

private theorem append_update {ι α : Type*} [DecidableEq ι] (f g : ι → List α) (i : ι) (more : List α) :
    (fun j => f j ++ Function.update g i (g i ++ more) j) =
      Function.update (fun j => f j ++ g j) i ((f i ++ g i) ++ more) := by
  funext j
  by_cases same : j = i
  · subst same
    simp
  · simp [same]

private theorem append_hand (f g : Flows) (c : ConnPtr) (segments : List (TcpHdr × Bytes)) :
    f ++ g.hand c segments = (f ++ g).hand c segments :=
  congrArg (Flows.mk · _ _ _) (append_update f.segments g.segments c segments)

private theorem append_submit (f g : Flows) (d : DevPtr) (u : UsbPtr) (sent failed transfers : List Bytes) :
    f ++ g.submit d u sent failed transfers = (f ++ g).submit d u sent failed transfers := by
  have sending := append_update f.sent g.sent d sent
  have failing := append_update f.failed g.failed d failed
  have submitting := append_update f.transfers g.transfers u transfers
  show Flows.mk _ _ _ _ = Flows.mk _ _ _ _
  congr 1

theorem append_none (f : Flows) : f ++ none = f := by
  show Flows.mk _ _ _ _ = f
  simp [none]

private theorem none_append (f : Flows) : none ++ f = f := by
  show Flows.mk _ _ _ _ = f
  simp [none]

end Flows

def Mux.flows (s : Mux) : Flows where
  segments := List.filterMap ConnEvent.segment? ∘ s.connLog
  sent := List.filterMap WireEvent.sent? ∘ s.devLog
  failed := List.filterMap WireEvent.failed? ∘ s.devLog
  transfers := s.txXfers

/-- A mux packet with this content, with or without the numbers of version 2. -/
def Encloses (proto : MuxProtocol) (content packet : Bytes) : Prop :=
  ∃ numbers, (numbers = [] ∨ ∃ tx rx, numbers = be32 0xfeedface ++ be16 tx ++ be16 rx) ∧
    packet = be32 proto.code ++ be32 (UInt32.ofNat packet.length) ++ numbers ++ content

/-- A packet of the daemon itself: no segment, or a reset for which there is no connection. -/
def OwnPacket (packet : Bytes) : Prop :=
  ∃ proto content, Encloses proto content packet ∧
    (proto ≠ .tcp ∨ ∃ th : TcpHdr, th.flags = thRst ∧ th.seq = 0 ∧ content = th.encode)

/-- The packets to a device carry segments of its connections, with the ports of the connection. -/
def outgoing (stray : Bytes → Prop) (route : ConnPtr → Route) (d : DevPtr) : Rule ConnPtr Bytes (TcpHdr × Bytes) where
  feeds c := (route c).dev = d
  stray := stray
  carries c packet segment := Encloses .tcp (segment.1.encode ++ segment.2) packet ∧
    segment.1.sport = (route c).sport ∧ segment.1.dport = (route c).dport

/-- The transfers of a USB device are the packets of its devices; the others are empty, or belong to a
packet that failed behind its first transfer. -/
def handover (usb : DevPtr → UsbPtr) (failed : DevPtr → List Bytes) (u : UsbPtr) : Rule DevPtr Bytes Bytes where
  feeds d := usb d = u
  stray transfer := transfer = [] ∨ ∃ d, usb d = u ∧ transfer ∈ failed d
  carries _ transfer packet := transfer = packet

/-- What goes out agrees at both levels. -/
structure Transmits (stray : Bytes → Prop) (route : ConnPtr → Route) (usb : DevPtr → UsbPtr) (f : Flows) : Prop where
  carried : ∀ d, Interleaves (outgoing stray route d) f.segments (f.sent d)
  submitted : ∀ u, Interleaves (handover usb f.failed u) f.sent (f.transfers u)

/-- Connections keep their routes, and what went out behind some base agrees with them. -/
structure Wired (stray : Bytes → Prop) (base : Flows) (route : ConnPtr → Route) (s : Mux) : Prop where
  routed : ∀ c m, s.conn c = some m → route c = m.route
  sent : ∃ more, s.flows = base ++ more ∧ Transmits stray route s.usb more

section Flows

variable {s : Mux} {d : DevPtr} {c : ConnPtr}

theorem append_flow {ι α β : Type*} [DecidableEq ι] (f : α → Option β) (log : ι → List α) (i : ι) (events : List α) :
    List.filterMap f ∘ Function.update log i (log i ++ events) =
      Function.update (List.filterMap f ∘ log) i ((List.filterMap f ∘ log) i ++ events.filterMap f) := by
  rw [Function.comp_update, List.filterMap_append]
  rfl

/-- Events that are not seen. -/
theorem silent_flow {ι α β : Type*} [DecidableEq ι] {f : α → Option β} (log : ι → List α) (i : ι) {events : List α}
    (silent : ∀ event ∈ events, f event = none) :
    List.filterMap f ∘ Function.update log i (log i ++ events) = List.filterMap f ∘ log := by
  rw [append_flow, List.filterMap_eq_nil_iff.mpr silent, List.append_nil, Function.update_eq_self]

private theorem logDev_flows {event : WireEvent} (note : event.isNote) : (s.logDev d event).flows = s.flows := by
  have unsent : ∀ event' ∈ [event], event'.sent? = none := by
    revert note
    cases event <;> simp [WireEvent.isNote, WireEvent.sent?]
  have unfailed : ∀ event' ∈ [event], event'.failed? = none := by
    revert note
    cases event <;> simp [WireEvent.isNote, WireEvent.failed?]
  simp only [Mux.flows, Mux.logDev]
  rw [silent_flow _ _ unsent, silent_flow _ _ unfailed]

private theorem notes_flows {events : List ConnEvent} (silent : ∀ event ∈ events, event.segment? = none) :
    ({ s with connLog := Function.update s.connLog c (s.connLog c ++ events) } : Mux).flows = s.flows := by
  simp only [Mux.flows]
  rw [silent_flow _ _ silent]

private theorem sendPacket_usb (env : Env) (s : Mux) (d : DevPtr) (proto : MuxProtocol) (header data : Bytes) :
    (sendPacket env d proto header data s).2.usb = s.usb := by
  obtain ⟨_, _, _, _, _, _, state, -⟩ := sendPacket_state env d proto header data s
  rw [state]
  exact funext (Update.same MuxDevice.usbdev rfl)

/-- What becomes of a packet: it fails, after its own transfer perhaps, or it is submitted, with an empty
transfer behind it perhaps. -/
inductive SendOutcome (packet : Bytes) : ℤ → List Bytes → List Bytes → List Bytes → Prop
  | failed {res : ℤ} (negative : res < 0) {transfers : List Bytes} (own : ∀ transfer ∈ transfers, transfer = packet) :
      SendOutcome packet res [] [packet] transfers
  | sent {res : ℤ} (ok : 0 ≤ res) {rest : List Bytes} (empty : ∀ transfer ∈ rest, transfer = []) :
      SendOutcome packet res [packet] [] (packet :: rest)

/-- `send_packet` does nothing that is seen if there is no packet to send. -/
private theorem sendPacket_flows (env : Env) (s : Mux) (d : DevPtr) (proto : MuxProtocol) (header data : Bytes) :
    (sendPacket env d proto header data s).1 < 0 ∧ (sendPacket env d proto header data s).2.flows = s.flows ∨
      ∃ packet sent failed transfers, builtPacket? (s.dev d) proto header data = some packet ∧
        SendOutcome packet (sendPacket env d proto header data s).1 sent failed transfers ∧
        (sendPacket env d proto header data s).2.flows = s.flows.submit d (s.usb d) sent failed transfers := by
  rcases sendPacket_cases env d proto header data s with ⟨-, nothing⟩ | ⟨packet, built, result, more, tick, faults,
    submission, sign, state⟩
  · rw [nothing]
    exact .inl ⟨Int.negSucc_lt_zero 0, rfl⟩
  right
  by_cases failed : result < 0
  · refine ⟨packet, [], [packet], more, built, .failed (sign.mpr failed) fun transfer member => ?_, ?_⟩
    · cases submission with
      | done => exact absurd failed (by decide)
      | refused => cases member
      | cut => exact List.mem_singleton.mp member
    · rw [state]
      simp only [Mux.flows, if_pos failed, Flows.submit]
      rw [append_flow, append_flow]
      rfl
  · obtain ⟨rest, rfl, empty⟩ : ∃ rest, more = packet :: rest ∧ ∀ transfer ∈ rest, transfer = [] := by
      cases submission with
      | done =>
        rw [transfersOf]
        split
        · exact ⟨[[]], rfl, by simp⟩
        · exact ⟨[], rfl, by simp⟩
      | refused negative => exact absurd negative failed
      | cut negative => exact absurd negative failed
    refine ⟨packet, [packet], [], packet :: rest, built, .sent (not_lt.mp fun lost => failed (sign.mp lost)) empty, ?_⟩
    rw [state]
    simp only [Mux.flows, if_neg failed, Flows.submit]
    rw [append_flow, append_flow]
    rfl

private theorem sendTcp_flows (env : Env) {m : MuxConnection} (present : s.conn c = some m) (flags : UInt8)
    (data : Bytes) :
    (sendTcp env c flags data s).2.flows = s.flows ∨
      ∃ packet res sent failed transfers,
        builtPacket? (s.dev m.dev) .tcp (m.header flags).encode data = some packet ∧
        SendOutcome packet res sent failed transfers ∧ (sendTcp env c flags data s).2.flows =
          (s.flows.submit m.dev (s.usb m.dev) sent failed transfers).hand c
            (if 0 ≤ res then [(m.header flags, data)] else []) := by
  obtain ⟨tick, m', -, state⟩ := sendTcp_present env flags data present
  have outcome := sendPacket_flows env s m.dev .tcp (m.header flags).encode data
  rw [state]
  generalize sendPacket env m.dev .tcp (m.header flags).encode data s = r at outcome
  have noted : ({ (r.2.logConn c (.segment (m.header flags) data r.1)).setConn c m' with tick := tick } : Mux).flows =
      r.2.flows.hand c (if 0 ≤ r.1 then [(m.header flags, data)] else []) := by
    simp only [Mux.flows, Mux.logConn, Mux.setConn, Flows.hand]
    rw [append_flow]
    by_cases ok : 0 ≤ r.1 <;> simp [ConnEvent.segment?, ok]
  rw [noted]
  rcases outcome with ⟨lost, flows⟩ | ⟨packet, sent, failed, transfers, built, outcome, flows⟩
  · left
    rw [flows, if_neg (not_le.mpr lost), Flows.hand, List.append_nil, Function.update_eq_self]
  · exact .inr ⟨packet, r.1, sent, failed, transfers, built, outcome, by rw [flows]⟩

end Flows

section Packets

private theorem packet_encloses (dev : MuxDevice) (proto : MuxProtocol) (header data : Bytes) :
    Encloses proto (header ++ data) (dev.packet proto header data) := by
  have total := MuxDevice.packet_length dev proto header data
  rw [Encloses, total]
  simp only [MuxDevice.packet, MuxDevice.muxHeader, MuxDevice.restart_version]
  split
  · exact ⟨_, .inr ⟨(dev.restart proto).txSeq.getD 0, (dev.restart proto).rxSeq.getD 0, rfl⟩, by simp⟩
  · exact ⟨[], .inl rfl, by simp⟩

private theorem builtPacket?_encloses {dev : MuxDevice} {proto : MuxProtocol} {header data packet : Bytes}
    (built : builtPacket? dev proto header data = some packet) :
    ∃ n, proto.headerLength? = some n ∧ Encloses proto (header.take n ++ data) packet := by
  obtain ⟨n, known, built⟩ := Option.bind_eq_some_iff.mp built
  split at built
  · cases built
  · exact ⟨n, known, Option.some.inj built ▸ packet_encloses ..⟩

private theorem builtPacket?_tcp {dev : MuxDevice} {th : TcpHdr} {data packet : Bytes}
    (built : builtPacket? dev .tcp th.encode data = some packet) : Encloses .tcp (th.encode ++ data) packet := by
  obtain ⟨n, known, encloses⟩ := builtPacket?_encloses built
  obtain rfl : 20 = n := Option.some.inj known
  rwa [← th.encode_length, List.take_length] at encloses

private theorem Own.packet {dev : MuxDevice} {proto : MuxProtocol} {header data packet : Bytes}
    (own : Own proto header data)
    (built : builtPacket? dev proto header data = some packet) : OwnPacket packet := by
  obtain ⟨n, known, encloses⟩ := builtPacket?_encloses built
  refine ⟨proto, _, encloses, ?_⟩
  by_cases tcp : proto = .tcp
  · subst tcp
    obtain ⟨th, reset, zero, rfl, rfl⟩ := own.resolve_left (by simp)
    obtain rfl : 20 = n := Option.some.inj known
    exact .inr ⟨th, reset, zero, by rw [← th.encode_length, List.take_length, List.append_nil]⟩
  · exact .inl tcp

end Packets

namespace Transmits

variable {stray : Bytes → Prop} {route : ConnPtr → Route} {usb : DevPtr → UsbPtr} {f : Flows}
  (transmits : Transmits stray route usb f) {packet : Bytes} {res : ℤ} {sent failed transfers : List Bytes}
include transmits

private theorem submit (d : DevPtr) (outcome : SendOutcome packet res sent failed transfers) (u : UsbPtr) :
    let f' := f.submit d (usb d) sent failed transfers
    Interleaves (handover usb f'.failed u) f'.sent (f'.transfers u) := by
  intro f'
  have grows (transfer : Bytes) (old : (handover usb f.failed u).stray transfer) :
      (handover usb f'.failed u).stray transfer := by
    refine old.imp_right fun foreign => ?_
    obtain ⟨d', there, member⟩ := foreign
    refine ⟨d', there, ?_⟩
    simp only [f', Flows.submit, Function.update_apply]
    split
    · next same => exact List.mem_append_left _ (same ▸ member)
    · exact member
  by_cases here : usb d = u
  · subst here
    have transferred : f'.transfers (usb d) = f.transfers (usb d) ++ transfers := Function.update_self ..
    rw [transferred]
    cases outcome with
    | failed negative own =>
      have unsent : f'.sent = f.sent := by simp [f', Flows.submit]
      have before := (transmits.submitted (usb d)).congr grows fun d' => .inr ⟨.rfl, rfl, fun _ => rfl⟩
      rw [unsent]
      refine before.strays fun transfer member => .inr ⟨d, rfl, ?_⟩
      simp [f', Flows.submit, own transfer member]
    | @sent ok rest empty =>
      have carried : Interleaves (handover usb f.failed (usb d)) f'.sent (f.transfers (usb d) ++ [packet]) :=
        (transmits.submitted (usb d)).carried (i := d) (b := packet) rfl rfl (Function.update_self ..)
          fun d' other => Function.update_of_ne other ..
      have before : Interleaves (handover usb f'.failed (usb d)) f'.sent (f.transfers (usb d) ++ [packet]) :=
        carried.congr grows fun d' => .inr ⟨.rfl, rfl, fun _ => rfl⟩
      rw [List.append_cons]
      exact before.strays fun transfer member => .inl (empty transfer member)
  · have untouched : f'.transfers u = f.transfers u := Function.update_of_ne (Ne.symm here) ..
    rw [untouched]
    refine (transmits.submitted u).congr grows fun d' => .inr ⟨.rfl, rfl, fun feeds => Function.update_of_ne ?_ ..⟩
    rintro rfl
    exact here feeds

private theorem alone (d : DevPtr) (own : stray packet) (outcome : SendOutcome packet res sent failed transfers) :
    Transmits stray route usb (f.submit d (usb d) sent failed transfers) := by
  refine ⟨fun d' => ?_, transmits.submit d outcome⟩
  by_cases here : d' = d
  · subst here
    have grown : (f.submit d' (usb d') sent failed transfers).sent d' = f.sent d' ++ sent := Function.update_self ..
    rw [grown]
    refine (transmits.carried d').strays fun other member => ?_
    cases outcome with
    | failed => cases member
    | sent => exact List.mem_singleton.mp member ▸ own
  · have same : (f.submit d (usb d) sent failed transfers).sent d' = f.sent d' := Function.update_of_ne here ..
    rw [same]
    exact transmits.carried d'

private theorem segment (c : ConnPtr) {th : TcpHdr} {data : Bytes} (encloses : Encloses .tcp (th.encode ++ data) packet)
    (sport : th.sport = (route c).sport) (dport : th.dport = (route c).dport)
    (outcome : SendOutcome packet res sent failed transfers) :
    Transmits stray route usb ((f.submit (route c).dev (usb (route c).dev) sent failed transfers).hand c
      (if 0 ≤ res then [(th, data)] else [])) := by
  refine ⟨fun d => ?_, transmits.submit (route c).dev outcome⟩
  cases outcome with
  | failed negative own =>
    rw [if_neg (not_le.mpr negative)]
    simpa [Flows.hand, Flows.submit] using transmits.carried d
  | @sent ok rest empty =>
    rw [if_pos ok]
    set f' := (f.submit (route c).dev (usb (route c).dev) [packet] [] (packet :: rest)).hand c [(th, data)]
    by_cases here : (route c).dev = d
    · subst here
      have grown : f'.sent (route c).dev = f.sent (route c).dev ++ [packet] := Function.update_self ..
      rw [grown]
      exact (transmits.carried (route c).dev).carried (i := c) (b := (th, data)) rfl ⟨encloses, sport, dport⟩
        (Function.update_self ..) fun c' other => Function.update_of_ne other ..
    · have same : f'.sent d = f.sent d := Function.update_of_ne (Ne.symm here) ..
      rw [same]
      refine (transmits.carried d).congr (fun _ => id) fun c' => .inr ⟨.rfl, rfl, fun feeds => ?_⟩
      refine Function.update_of_ne ?_ ..
      rintro rfl
      exact here feeds

private theorem reroute {route' : ConnPtr → Route} (same : ∀ c, f.segments c = [] ∨ route' c = route c) :
    Transmits stray route' usb f := by
  refine ⟨fun d => (transmits.carried d).congr (fun _ => id) fun c => ?_, transmits.submitted⟩
  rcases same c with unused | routed
  · exact .inl ⟨unused, unused⟩
  · exact .inr (by simp [outgoing, routed])

private theorem reconnect {usb' : DevPtr → UsbPtr} (same : ∀ d, f.sent d = [] ∧ f.failed d = [] ∨ usb' d = usb d) :
    Transmits stray route usb' f := by
  refine ⟨transmits.carried, fun u => (transmits.submitted u).congr (fun transfer => ?_) fun d => ?_⟩
  · refine Or.imp_right ?_
    rintro ⟨d, there, member⟩
    rcases same d with ⟨-, unused⟩ | kept
    · simp [unused] at member
    · exact ⟨d, kept.trans there, member⟩
  · rcases same d with ⟨unused, -⟩ | kept
    · exact .inl ⟨unused, unused⟩
    · exact .inr ⟨by simp [handover, kept], rfl, fun _ => rfl⟩

end Transmits

theorem transmits_none {stray : Bytes → Prop} {route : ConnPtr → Route} {usb : DevPtr → UsbPtr} :
    Transmits stray route usb .none := ⟨fun _ => interleaves_nil, fun _ => interleaves_nil⟩

namespace Wired

variable {stray : Bytes → Prop} {base : Flows} {route : ConnPtr → Route} {s s' : Mux}

theorem transmits (wired : Wired stray .none route s) : Transmits stray route s.usb s.flows := by
  obtain ⟨more, flows, transmits⟩ := wired.sent
  rw [Flows.none_append] at flows
  exact flows ▸ transmits

private theorem quiet (wired : Wired stray base route s)
    (conn : ∀ c m', s'.conn c = some m' → ∃ m, s.conn c = some m ∧ m'.route = m.route) (flows : s'.flows = s.flows)
    (usb : s'.usb = s.usb) : Wired stray base route s' := by
  refine ⟨fun c m' present' => ?_, by rw [flows, usb]; exact wired.sent⟩
  obtain ⟨m, present, same⟩ := conn c m' present'
  rw [same]
  exact wired.routed c m present

private theorem of_conn (wired : Wired stray base route s) (conn : s'.conn = s.conn) (flows : s'.flows = s.flows)
    (usb : s'.usb = s.usb) : Wired stray base route s' :=
  wired.quiet (fun _ m' present' => ⟨m', conn ▸ present', rfl⟩) flows usb

private theorem setConn (wired : Wired stray base route s) {c : ConnPtr} {m m' : MuxConnection}
    (present : s.conn c = some m)
    (same : m'.route = m.route) : Wired stray base route (s.setConn c m') := by
  refine wired.quiet (fun c' m₁ present₁ => ?_) rfl rfl
  by_cases here : c' = c
  · subst here
    obtain rfl : m' = m₁ := by simpa [Mux.setConn] using present₁
    exact ⟨m, present, same⟩
  · exact ⟨m₁, by simpa [Mux.setConn, here] using present₁, rfl⟩

private theorem freeConn (wired : Wired stray base route s) (c : ConnPtr) : Wired stray base route (s.freeConn c) := by
  refine wired.quiet (fun c' m₁ present₁ => ?_) rfl rfl
  by_cases here : c' = c
  · subst here
    simp [Mux.freeConn] at present₁
  · exact ⟨m₁, by simpa [Mux.freeConn, here] using present₁, rfl⟩

private theorem logConn (wired : Wired stray base route s) {c : ConnPtr} {event : ConnEvent}
    (silent : event.segment? = none) :
    Wired stray base route (s.logConn c event) :=
  wired.of_conn rfl (notes_flows (by simpa using silent)) rfl

private theorem setDev (wired : Wired stray base route s) {d : DevPtr} {dev : MuxDevice} (same : dev.usbdev = s.usb d) :
    Wired stray base route (s.setDev d dev) :=
  wired.of_conn rfl rfl (funext (Update.same MuxDevice.usbdev same))

private theorem unlink (wired : Wired stray base route s) (c : ConnPtr) (d : DevPtr) :
    Wired stray base route (s.unlink c d) :=
  (wired.freeConn c).setDev rfl

private theorem opened (wired : Wired stray base route s) (unused : s.connLog s.nextConn = []) (m : MuxConnection) :
    Wired stray base (Function.update route s.nextConn m.route) (s.allocConn m) := by
  obtain ⟨more, flows, transmits⟩ := wired.sent
  refine ⟨fun c m' present => ?_, more, flows, transmits.reroute fun c => ?_⟩
  · by_cases here : c = s.nextConn
    · subst here
      obtain rfl : m = m' := by simpa [Mux.allocConn, Mux.setConn] using present
      exact Function.update_self ..
    · rw [Function.update_of_ne here]
      exact wired.routed c m' (by simpa [Mux.allocConn, Mux.setConn, here] using present)
  · by_cases here : c = s.nextConn
    · have silent : base.segments c ++ more.segments c = [] := by
        rw [here]
        have same : s.flows.segments s.nextConn = base.segments s.nextConn ++ more.segments s.nextConn := by
          rw [flows]
          rfl
        simpa [Mux.flows, unused] using same.symm
      exact .inl (List.append_eq_nil_iff.mp silent).2
    · exact .inr (Function.update_of_ne here ..)

private theorem packet (wired : Wired stray base route s) (env : Env) (d : DevPtr) {proto : MuxProtocol}
    {header data : Bytes}
    (own : Own proto header data) (admitted : ∀ packet, OwnPacket packet → stray packet) :
    Wired stray base route (sendPacket env d proto header data s).2 := by
  have usb : (sendPacket env d proto header data s).2.usb = s.usb := sendPacket_usb ..
  have conn := sendPacket_conn env d proto header data s
  rcases sendPacket_flows env s d proto header data with ⟨-, flows⟩ | ⟨packet, sent, failed, transfers, built, outcome,
    flows⟩
  · exact wired.of_conn conn flows usb
  obtain ⟨more, before, transmits⟩ := wired.sent
  refine ⟨fun c m present => wired.routed c m (conn ▸ present), more.submit d (s.usb d) sent failed transfers, ?_, ?_⟩
  · rw [flows, before, Flows.append_submit]
  · rw [usb]
    exact transmits.alone d (admitted packet (own.packet built)) outcome

private theorem segment (wired : Wired stray base route s) (env : Env) (c : ConnPtr) (flags : UInt8) (data : Bytes) :
    Wired stray base route (sendTcp env c flags data s).2 := by
  rcases present : s.conn c with _ | m
  · rw [sendTcp_absent env flags data present]
    exact wired.of_conn rfl rfl rfl
  obtain ⟨tick, m', stored, state⟩ := sendTcp_present env flags data present
  set r := sendPacket env m.dev .tcp (m.header flags).encode data s
  have usb : (sendTcp env c flags data s).2.usb = s.usb := by
    rw [state]
    exact sendPacket_usb ..
  have routed (c' : ConnPtr) (m₁ : MuxConnection) (present₁ : (sendTcp env c flags data s).2.conn c' = some m₁) :
      ∃ m, s.conn c' = some m ∧ m₁.route = m.route := by
    have conn : r.2.conn = s.conn := sendPacket_conn ..
    rw [state] at present₁
    by_cases here : c' = c
    · subst here
      obtain rfl : m' = m₁ := by simpa [Mux.setConn] using present₁
      obtain ⟨dev, sport, dport, -⟩ := stored.same.1
      exact ⟨m, present, by simp [MuxConnection.route, dev, sport, dport]⟩
    · exact ⟨m₁, by simpa [Mux.setConn, Mux.logConn, conn, here] using present₁, rfl⟩
  rcases sendTcp_flows env present flags data with flows | ⟨packet, res, sent, failed, transfers, built, outcome, flows⟩
  · exact wired.quiet routed flows usb
  have own : route c = m.route := wired.routed c m present
  obtain ⟨more, before, transmits⟩ := wired.sent
  have sends := transmits.segment c (builtPacket?_tcp built) (by rw [own]; rfl) (by rw [own]; rfl) outcome
  have dev : (route c).dev = m.dev := by rw [own]; rfl
  rw [dev] at sends
  refine ⟨fun c' m₁ present₁ => ?_, _, ?_, usb ▸ sends⟩
  · obtain ⟨m₂, present₂, same⟩ := routed c' m₁ present₁
    rw [same]
    exact wired.routed c' m₂ present₂
  · rw [flows, before, Flows.append_hand, Flows.append_submit, usb]

private theorem closing {s : Daemon} (wired : Wired stray base route s.mux) (env : Env) {c : ConnPtr}
    {m : MuxConnection}
    (present : s.mux.conn c = some m) : Wired stray base route (s.closing env c m).mux := by
  obtain ⟨m', -, present', closing⟩ := closing_eq env present
  have reset : Wired stray base route (s.resetting env c m).mux := by
    rw [Daemon.resetting]
    split
    · exact wired.segment ..
    · exact wired
  rw [closing]
  exact reset.setConn present' rfl

end Wired

/-- What goes out stays in agreement, with routes that are extended by those of new connections if there are any. -/
def Rewires (opens : Prop) (stray : Bytes → Prop) (base : Flows) (s s' : Mux) : Prop :=
  ∀ route, Wired stray base route s →
    ∃ route', (∀ c, (opens → c < s.nextConn) → route' c = route c) ∧ Wired stray base route' s'

namespace Rewires

variable {opens : Prop} {stray : Bytes → Prop} {base : Flows} {s s' s'' : Mux}

private theorem refl (s : Mux) : Rewires opens stray base s s := fun route wired => ⟨route, fun _ _ => rfl, wired⟩

private theorem trans (first : Rewires opens stray base s s') (second : Rewires opens stray base s' s'')
    (more : s.nextConn ≤ s'.nextConn) : Rewires opens stray base s s'' := by
  intro route wired
  obtain ⟨route', same, wired⟩ := first route wired
  obtain ⟨route'', same', wired⟩ := second route' wired
  exact ⟨route'', fun c known => (same' c fun opens => (known opens).trans_le more).trans (same c known), wired⟩

private theorem keep (first : Rewires opens stray base s s')
    (keeps : ∀ {route}, Wired stray base route s' → Wired stray base route s'') : Rewires opens stray base s s'' := by
  intro route wired
  obtain ⟨route', same, wired⟩ := first route wired
  exact ⟨route', same, keeps wired⟩

private theorem opened (may : opens) (unused : s.connLog s.nextConn = []) (m : MuxConnection) :
    Rewires opens stray base s (s.allocConn m) :=
  fun _ wired => ⟨_, fun _ known => Function.update_of_ne (known may).ne .., wired.opened unused m⟩

end Rewires

theorem Deeds.rewires {opens : Prop} {stray : Bytes → Prop} {base : Flows} {env : Env} {reach : Reach} {s s' : Daemon}
    (own : reach.own → ∀ packet, OwnPacket packet → stray packet)
    (may : ∀ k x, reach.opens k x → opens ∧ x.mux.connLog x.mux.nextConn = []) (deeds : Deeds env reach s s') :
    Rewires opens stray base s.mux s'.mux := by
  induction deeds with
  | refl s => exact .refl s.mux
  | unseen _ _ _ _ _ ih => exact ih.keep fun wired => wired.of_conn rfl rfl rfl
  | stored _ _ present ends _ ih =>
    exact ih.keep fun wired => wired.setConn present (by simp [MuxConnection.route, ends.dev, ends.sport, ends.dport])
  | @noted _ _ _ _ _ event note ih =>
    refine ih.keep fun wired => wired.logConn ?_
    cases event <;> simp_all [ConnEvent.isNote, ConnEvent.segment?]
  | segment _ _ data _ ih => exact ih.keep fun wired => wired.segment ..
  | handed _ _ _ _ delivers buffer ih =>
    refine ih.keep fun wired => wired.of_conn rfl (notes_flows fun event member => ?_) rfl
    split at member
    · rcases delivers with rfl | rfl <;> simp_all [ConnEvent.segment?]
    · cases member
  | served _ _ _ ih => exact ih
  | torn first reached present _ _ ih ih' =>
    have started := ih.keep fun wired => wired.closing env present
    exact (started.trans ih' ((nextConn_stepwise _).closing reached present first.nextConn_le)).keep
      fun wired => wired.unlink ..
  | opened first _ opening _ ih =>
    obtain ⟨opens, unused⟩ := may _ _ opening
    exact ih.trans (.opened opens unused _) first.nextConn_le
  | discarded _ _ _ ih => exact ih.keep fun wired => wired.freeConn _
  | device _ _ ties ih => exact ih.keep fun wired => wired.setDev ties.usbdev
  | logged _ _ note ih => exact ih.keep fun wired => wired.of_conn rfl (logDev_flows note) rfl
  | packet _ wide d building ih => exact ih.keep fun wired => wired.packet env d building (own wide.own)

/-- A segment of a connection is noted in its record and log, and sends nothing. -/
private theorem Taken.wired {stray : Bytes → Prop} {base : Flows} {route : ConnPtr → Route} {s s₁ : Daemon} {d : DevPtr}
    (taken : Taken s d s₁) (wired : Wired stray base route s.mux) : Wired stray base route s₁.mux := by
  have noted (rxSeq : Option UInt16) (pktbuf packet : Bytes) (seen : UInt16) :
      Wired stray base route (s.taking d rxSeq pktbuf packet seen).mux := by
    refine (wired.setDev (d := d) (by rfl)).of_conn rfl ?_ rfl
    simp only [Daemon.taking, Daemon.setMux, Mux.flows, Mux.logDev]
    rw [silent_flow _ _ (by simp [WireEvent.sent?]), silent_flow _ _ (by simp [WireEvent.failed?])]
  cases taken with
  | packet => exact noted ..
  | @segment rxSeq pktbuf seen _ length buffer _ _ held tcp _ found _ arrival =>
    have before := noted rxSeq pktbuf (buffer.take length) seen
    cases arrival with
    | absent => exact before.of_conn rfl rfl rfl
    | noted present => exact (before.setConn present (by rfl)).logConn rfl
    | reset present => exact (before.setConn present (by rfl)).logConn rfl
    | accepted present => exact ((before.setConn present (by rfl)).logConn rfl).logConn rfl

private theorem Sound.unused {lax : Laxity} {s : Daemon} (sound : Sound lax s.sys) {c : ConnPtr}
    (fresh : s.mux.nextConn ≤ c) :
    s.mux.conn c = none ∧ s.mux.connLog c = [] :=
  Prod.ext_iff.mp (sound.linked.links.fresh c fresh)

private theorem step_rewires {lax : Laxity} (env : Env) {s : Daemon} (sound : Sound lax s.sys) (event : Event) :
    s.mux.nextConn ≤ (step env s event).mux.nextConn ∧ Rewires True OwnPacket .none s.mux (step env s event).mux := by
  let holds (x : Daemon) : Prop := s.mux.nextConn ≤ x.mux.nextConn ∧ Rewires True OwnPacket .none s.mux x.mux
  -- the records of new connections were never in use
  have kept : Kept env (.opening fun _ s => s.mux.connLog s.mux.nextConn = []) holds :=
    { wide := Reach.opening_wide
      deeds := fun held deeds => ⟨held.1.trans deeds.nextConn_le, held.2.trans
        (deeds.rewires (fun _ _ => id) fun _ _ unused => ⟨trivial, unused⟩) held.1⟩
      aside := fun held aside => ⟨held.1.trans aside.conns.nextConn.ge, held.2.keep fun wired =>
        wired.of_conn aside.conns.conn (by
          simp only [Mux.flows, aside.conns.connLog, aside.devLog, aside.txXfers]) (funext aside.usbdev)⟩ }
  refine kept.step ⟨le_rfl, .refl s.mux⟩ (fun dev => ?_) (fun d listed s₁ taken => ?_) ?_ event
  · -- nothing was sent to a device that comes now
    refine ⟨le_rfl, fun route wired => ⟨route, fun _ _ => rfl, wired.routed, ?_⟩⟩
    obtain ⟨more, flows, transmits⟩ := wired.sent
    refine ⟨more, flows, transmits.reconnect fun d => ?_⟩
    by_cases new : d = s.mux.nextDev
    · have empty : s.mux.devLog d = [] :=
        (Prod.ext_iff.mp (sound.linked.registry.fresh d new.ge)).2
      rw [Flows.none_append] at flows
      exact .inl (by simp [← flows, Mux.flows, empty])
    · exact .inr (by simp [Mux.usb, Daemon.setMux, Mux.setDev, new])
  · refine ⟨?_, (Rewires.refl s.mux).keep taken.wired⟩
    cases taken with
    | packet => exact le_rfl
    | segment _ _ _ _ _ _ arrival => cases arrival <;> exact le_rfl
  · intro k client bytes _ _ _ x clients same _
    show x.connLog x.nextConn = []
    rw [same.connLog, same.nextConn]
    exact (sound.unused le_rfl).2

/-- Every connection of a run has a route for life, and what goes out agrees with the routes at all times. -/
theorem run_wired (env : Env) (events : List Event) : ∃ route, ∀ before, before <+: events →
    (run env before).mux.nextConn ≤ (run env events).mux.nextConn ∧
      Wired OwnPacket .none route (run env before).mux := by
  induction events using List.reverseRecOn with
  | nil =>
    refine ⟨fun _ => ⟨0, 0, 0⟩, fun before none => ?_⟩
    obtain rfl := List.prefix_nil.mp none
    exact ⟨le_rfl, by simp [run, Daemon.initial, Mux.initial], .none, rfl, transmits_none⟩
  | append_singleton events event ih =>
    obtain ⟨route, wired⟩ := ih
    obtain ⟨more, rewires⟩ := step_rewires env (run_sound_anything env events).1 event
    obtain ⟨route', same, wired'⟩ := rewires route (wired events List.prefix_rfl).2
    rw [← run_snoc] at more wired'
    refine ⟨route', fun before prior => ?_⟩
    rcases List.prefix_concat_iff.mp prior with rfl | earlier
    · exact ⟨le_rfl, wired'⟩
    obtain ⟨fewer, wired⟩ := wired before earlier
    obtain ⟨sent, flows, transmits⟩ := wired.sent
    have sound := (run_sound_anything env before).1
    refine ⟨fewer.trans more, fun c m present => ?_, sent, flows, transmits.reroute fun c => ?_⟩
    · have known : c < (run env before).mux.nextConn := by
        by_contra fresh
        simp [(sound.unused (not_lt.mp fresh)).1] at present
      exact (same c fun _ => known.trans_le fewer).trans (wired.routed c m present)
    · by_cases known : c < (run env before).mux.nextConn
      · exact .inr (same c fun _ => known.trans_le fewer)
      · rw [Flows.none_append] at flows
        exact .inl (by simp [← flows, Mux.flows, (sound.unused (not_lt.mp known)).2])

end Usbmuxd
