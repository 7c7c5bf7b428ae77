import Usbmuxd.Proofs.Wires
import Usbmuxd.Soundness.Parser

/-! # The wires of devices and the streams of connections

What goes out to a device is interleaved from the segments of its connections, with nothing else among
them but packets of the daemon itself, and what connections take is interleaved in what comes in. So the
streams of connections that share a wire neither mix nor lose their order, in all runs.
-/

namespace Usbmuxd

open Collection Interleaving

def WireEvent.received? : WireEvent → Option Bytes
  | .received packet _ => some packet
  | _ => none

def ConnEvent.accepted? : ConnEvent → Option Bytes
  | .accepted payload => some payload
  | _ => none

/-- The packets that came from devices. -/
def Mux.received (s : Mux) : DevPtr → List Bytes := List.filterMap WireEvent.received? ∘ s.devLog

/-- The payloads that connections took. -/
def Mux.accepted (s : Mux) : ConnPtr → List Bytes := List.filterMap ConnEvent.accepted? ∘ s.connLog

/-- A packet that brings a connection a payload: behind the mux header an acknowledging segment with the
ports of the connection. -/
def Delivers (r : Route) (packet payload : Bytes) : Prop :=
  ∃ header th, packet = header ++ th ++ payload ∧ (header.length = 8 ∨ header.length = 16) ∧ th.length = 20 ∧
    (TcpHdr.decode th).dport = r.sport ∧ (TcpHdr.decode th).sport = r.dport ∧ (TcpHdr.decode th).flags = thAck

/-- The packets from a device bring payloads to its connections, or nothing. -/
def incoming (route : ConnPtr → Route) (d : DevPtr) : Rule ConnPtr Bytes Bytes where
  feeds c := (route c).dev = d
  stray _ := True
  carries c := Delivers (route c)

private theorem delivers_of_dispatch {r : Route} {version length : ℕ} {buffer th payload : Bytes}
    (held : length ≤ buffer.length) (tcp : dispatch version buffer length = .tcpInput th payload)
    (sport : r.sport = (TcpHdr.decode th).dport) (dport : r.dport = (TcpHdr.decode th).sport)
    (flags : (TcpHdr.decode th).flags = thAck) : Delivers r (buffer.take length) payload := by
  obtain ⟨enough, header, rest⟩ := dispatch_tcp tcp
  set h := muxHeaderSize version with size
  have cut : th = ((buffer.take length).drop h).take 20 := by
    rw [header, BigEndian.peek_eq_slice (by omega), List.drop_take, List.take_take, min_eq_left (by omega)]
  have left : payload = (buffer.take length).drop (h + 20) := by
    rw [rest, Nat.sub_sub, peek_rest held enough]
  refine ⟨(buffer.take length).take h, th, ?_, ?_, ?_, sport.symm, dport.symm, flags⟩
  · rw [cut, left, ← List.drop_drop, List.append_assoc, List.take_append_drop, List.take_append_drop]
  · have inside : ((buffer.take length).take h).length = h := by
      rw [List.length_take, List.length_take]
      omega
    rw [inside, size, muxHeaderSize]
    split
    · exact .inl rfl
    · exact .inr rfl
  · rw [header, BigEndian.peek_length]

/-- Nothing comes in. -/
structure Mux.NoIntake (s s' : Mux) : Prop where
  received : s'.received = s.received
  accepted : s'.accepted = s.accepted

namespace Mux.NoIntake

variable {s s' s'' : Mux}

private theorem of_logs (devLog : s'.devLog = s.devLog) (connLog : s'.connLog = s.connLog) : s.NoIntake s' :=
  ⟨by rw [Mux.received, devLog, Mux.received], by rw [Mux.accepted, connLog, Mux.accepted]⟩

private theorem trans (first : s.NoIntake s') (second : s'.NoIntake s'') : s.NoIntake s'' :=
  ⟨second.received.trans first.received, second.accepted.trans first.accepted⟩

/-- Events are noted for a connection, and none of them is a payload. -/
private theorem of_notes {c : ConnPtr} {events : List ConnEvent} (devLog : s'.devLog = s.devLog)
    (connLog : s'.connLog = Function.update s.connLog c (s.connLog c ++ events))
    (silent : ∀ event ∈ events, event.accepted? = none) : s.NoIntake s' :=
  ⟨by rw [Mux.received, devLog, Mux.received], by rw [Mux.accepted, connLog, silent_flow _ _ silent, Mux.accepted]⟩

private theorem sendPacket (env : Env) (d : DevPtr) (proto : MuxProtocol) (header data : Bytes) (s : Mux) :
    s.NoIntake (sendPacket env d proto header data s).2 := by
  obtain ⟨_, _, _, _, _, _, state, handed⟩ := sendPacket_state env d proto header data s
  rw [state]
  refine ⟨silent_flow _ _ fun event member => ?_, rfl⟩
  obtain ⟨packet, rfl | rfl⟩ := handed event member <;> rfl

end Mux.NoIntake

private theorem Deeds.noIntake {env : Env} {reach : Reach} {s s' : Daemon} (deeds : Deeds env reach s s') :
    s.mux.NoIntake s'.mux := by
  have quiet {x x' : Mux} (idle : s.mux.NoIntake x) (devLog : x'.devLog = x.devLog) (connLog : x'.connLog = x.connLog) :
      s.mux.NoIntake x' := idle.trans (.of_logs devLog connLog)
  have stepwise : Stepwise env reach fun x => s.mux.NoIntake x.mux :=
    { unseen := fun _ _ _ _ idle => quiet idle rfl rfl
      stored := fun _ _ _ idle => quiet idle rfl rfl
      noted := fun {_ _ event} plain idle => by
        refine idle.trans (.of_notes rfl rfl ?_)
        revert plain
        cases event <;> simp [ConnEvent.isPlain, ConnEvent.accepted?]
      packet := fun d proto header data idle => idle.trans (.sendPacket env d proto header data _)
      handed := fun _ _ _ delivers idle => by
        refine idle.trans (.of_notes rfl rfl fun event member => ?_)
        split at member
        · rcases delivers with rfl | rfl <;> simp_all [ConnEvent.accepted?]
        · cases member
      served := fun _ idle => idle
      unlinked := fun _ _ idle => quiet idle rfl rfl
      opened := fun _ _ _ idle => quiet idle rfl rfl
      discarded := fun _ _ idle => quiet idle rfl rfl
      device := fun _ _ idle => quiet idle rfl rfl
      logged := fun {_ _ event} _ note idle => by
        refine idle.trans ⟨silent_flow _ _ ?_, rfl⟩
        revert note
        cases event <;> simp [WireEvent.isNote, WireEvent.received?] }
  exact deeds.preserve stepwise (.of_logs rfl rfl)

/-- The payloads that connections take are interleaved in the packets from their devices. -/
def Mux.Receives (route : ConnPtr → Route) (s : Mux) : Prop :=
  ∀ d, Interleaves (incoming route d) s.accepted (s.received d)

namespace Mux.Receives

variable {route : ConnPtr → Route} {s s' : Mux} {d : DevPtr}

private theorem same (receives : s.Receives route) (idle : s.NoIntake s') : s'.Receives route := by
  intro d
  rw [idle.received, idle.accepted]
  exact receives d

private theorem packet (receives : s.Receives route) {packet : Bytes} (accepted : s'.accepted = s.accepted)
    (received : s'.received = Function.update s.received d (s.received d ++ [packet])) : s'.Receives route := by
  intro d'
  rw [accepted, received, Function.update_apply]
  split
  · next here => exact here ▸ (receives d').stray trivial
  · exact receives d'

private theorem payload (receives : s.Receives route) {c : ConnPtr} {packet payload : Bytes}
    (delivers : Delivers (route c) packet payload)
    (accepted : s'.accepted = Function.update s.accepted c (s.accepted c ++ [payload]))
    (received : s'.received = Function.update s.received (route c).dev (s.received (route c).dev ++ [packet])) :
    s'.Receives route := by
  intro d
  rw [accepted, received, Function.update_apply]
  split
  · next here =>
    subst here
    exact (receives (route c).dev).carried (i := c) (b := payload) rfl delivers (Function.update_self ..)
      fun c' other => Function.update_of_ne other ..
  · next elsewhere =>
    refine (receives d).congr (fun _ => id) fun c' => .inr ⟨.rfl, rfl, fun feeds => Function.update_of_ne ?_ ..⟩
    rintro rfl
    exact elsewhere feeds.symm

end Mux.Receives

private theorem Taken.receives {lax : Laxity} {route : ConnPtr → Route} {s s₁ : Daemon} {d : DevPtr}
    (taken : Taken s d s₁)
    (sound : Sound lax s.sys) (listed : d ∈ s.mux.deviceList)
    (routed : ∀ c m, s.mux.conn c = some m → route c = m.route) (receives : s.mux.Receives route) :
    s₁.mux.Receives route := by
  have received (rxSeq : Option UInt16) (pktbuf packet : Bytes) (seen : UInt16) :
      (s.taking d rxSeq pktbuf packet seen).mux.received =
        Function.update s.mux.received d (s.mux.received d ++ [packet]) := append_flow ..
  have noted (rxSeq : Option UInt16) (pktbuf packet : Bytes) (seen : UInt16) :
      (s.taking d rxSeq pktbuf packet seen).mux.Receives route := receives.packet rfl (received ..)
  cases taken with
  | packet rxSeq pktbuf packet seen => exact noted rxSeq pktbuf packet seen
  | @segment rxSeq pktbuf seen version length buffer th payload held tcp c found _ arrival =>
    have before := noted rxSeq pktbuf (buffer.take length) seen
    cases arrival with
    | absent => exact before.same (.of_logs rfl rfl)
    | noted => exact before.same (.of_notes rfl rfl (by simp [ConnEvent.accepted?]))
    | reset => exact before.same (.of_notes rfl rfl (by simp [ConnEvent.accepted?]))
    | @accepted m present flags =>
      have member : c ∈ (s.mux.dev d).connections := List.mem_of_find?_eq_some found
      have present : s.mux.conn c = some m := present
      have ports := List.find?_some found
      rw [present] at ports
      simp only [Option.any_some, Bool.and_eq_true, beq_iff_eq] at ports
      obtain ⟨m', _, _, record, dev, _⟩ := sound.linked.links.held d c ⟨listed, member⟩
      obtain rfl : m' = m := Option.some.inj (record.symm.trans present)
      have own : route c = m'.route := routed c m' present
      have there : d = (route c).dev := by rw [own, ← dev]; rfl
      subst there
      have delivers : Delivers (route c) (buffer.take length) payload := by
        rw [own]
        exact delivers_of_dispatch held tcp ports.1 ports.2 flags
      refine receives.payload delivers ?_ (received rxSeq pktbuf (buffer.take length) seen)
      · have silent : s.mux.NoIntake
            (s.mux.logConn c (.rx (m'.receive (TcpHdr.decode th)).rxAck (m'.receive (TcpHdr.decode th)).rxWin)) :=
          .of_notes rfl rfl (by simp [ConnEvent.accepted?])
        rw [← silent.accepted]
        exact append_flow ..

private theorem step_receives {lax : Laxity} {route : ConnPtr → Route} (env : Env) {s : Daemon}
    (sound : Sound lax s.sys)
    (routed : ∀ c m, s.mux.conn c = some m → route c = m.route) (receives : s.mux.Receives route) (event : Event) :
    (step env s event).mux.Receives route := by
  have kept : Kept env .all fun x => x.mux.Receives route :=
    { wide := Reach.all_wide
      deeds := fun held deeds => held.same deeds.noIntake
      aside := fun held aside => held.same (.of_logs aside.devLog aside.conns.connLog) }
  exact kept.step receives (fun _ => receives) (fun d listed s₁ taken => taken.receives sound listed routed receives)
    (fun _ _ _ _ _ _ _ _ _ _ => trivial) event

/-- In every run the connections have routes for life, each one device and one pair of ports. At all times
the packets handed to a device are interleaved from the segments of its connections and packets of the
daemon itself, the payloads that its connections take are interleaved in the packets from it, and the
transfers of a USB device are the packets of its devices, apart from empty ones and those that failed. -/
theorem connections_share_wires_in_order (env : Env) (events : List Event) : ∃ route : ConnPtr → Route,
    ∀ before, before <+: events →
      let s := (run env before).mux
      (∀ c m, s.conn c = some m → route c = m.route) ∧
        (∀ d, Interleaves (outgoing OwnPacket route d) s.flows.segments (s.flows.sent d) ∧
          Interleaves (incoming route d) s.accepted (s.received d)) ∧
        ∀ u, Interleaves (handover s.usb s.flows.failed u) s.flows.sent (s.txXfers u) := by
  obtain ⟨route, wired⟩ := run_wired env events
  have receives (before : List Event) (prior : before <+: events) : (run env before).mux.Receives route := by
    induction before using List.reverseRecOn with
    | nil => exact fun _ => interleaves_nil
    | append_singleton before event ih =>
      have earlier : before <+: events := (List.prefix_append before [event]).trans prior
      rw [run_snoc]
      exact step_receives env (run_sound_anything env before).1 (wired before earlier).2.routed (ih earlier) event
  refine ⟨route, fun before prior => ?_⟩
  have wired := (wired before prior).2
  exact ⟨wired.routed, fun d => ⟨wired.transmits.carried d, receives before prior d⟩, wired.transmits.submitted⟩

end Usbmuxd
