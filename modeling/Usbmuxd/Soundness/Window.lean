import Usbmuxd.ToMathlib.Window
import Usbmuxd.Proofs.Delivery
import Usbmuxd.Soundness.Streams

/-! # The input buffer against a device that respects the window

Three parties: the device, which keeps to the window the daemon advertises as far as the
acknowledgements it has seen allow, the daemon, and the client behind it. Payload and
acknowledgements are on their way for as long as they like, but stay in order. Since the daemon only
acknowledges what it has written to the client, its buffer never holds more than the window.
-/

namespace Usbmuxd

open History ConnLog ConnEvent

/-- The window that every connection advertises. -/
def advertisedWindow : ℕ := 131072

/-- A device and the daemon, and what is between them, for one connection: the payload in flight, and
how much of the connection's log the device has seen the segments of. -/
structure Link where
  daemon : Daemon
  peer : Window.Sender
  flight : List Bytes
  heard : ℕ

namespace Link

/-- Before anything happens. -/
def initial : Link := ⟨Daemon.initial, ⟨0, 0⟩, [], 0⟩

/-- What can happen next, for connection `c`. -/
inductive Step (env : Env) (c : ConnPtr) : Link → Link → Prop
  /-- The device sends payload within the window. -/
  | send (t : Link) (payload : Bytes) (room : t.peer.MaySend advertisedWindow payload.length) :
      Step env c t { t with peer := t.peer.send payload.length, flight := t.flight ++ [payload] }
  /-- The device sees a segment of the daemon, later than those it has seen. -/
  | hear (t : Link) {before after : List ConnEvent} {th : TcpHdr} {data : Bytes} {res : ℤ}
      (logged : t.daemon.mux.connLog c = before ++ segment th data res :: after) (submitted : 0 ≤ res)
      (later : t.heard ≤ before.length) :
      Step env c t { t with peer := t.peer.hear th.ack, heard := before.length + 1 }
  /-- The daemon gets the payload that has been in flight for longest. -/
  | deliver (t : Link) (event : Event) {payload : Bytes} {rest : List Bytes}
      (arrives : arrival t.daemon event = some (c, payload)) (first : t.flight = payload :: rest) :
      Step env c t { t with daemon := step env t.daemon event, flight := rest }
  /-- Anything else happens to the daemon. -/
  | other (t : Link) (event : Event) (elsewhere : ∀ payload, arrival t.daemon event ≠ some (c, payload)) :
      Step env c t { t with daemon := step env t.daemon event }

/-- The states that can be reached. -/
abbrev Reachable (env : Env) (c : ConnPtr) (t : Link) : Prop := Relation.ReflTransGen (Step env c) initial t

/-- The invariant: the device knows exactly what the last segment it has seen acknowledged, and has
sent what the daemon has taken and what is in flight. -/
structure Ok (env : Env) (c : ConnPtr) (t : Link) : Prop where
  reached : ∃ events, t.daemon = run env events
  within : t.peer.Within advertisedWindow (wrote (t.daemon.mux.connLog c)).length
  known : t.peer.acked = (wrote ((t.daemon.mux.connLog c).take t.heard)).length
  position : t.heard ≤ (t.daemon.mux.connLog c).length
  sent : (accepted (t.daemon.mux.connLog c)).length + t.flight.flatten.length ≤ t.peer.sent

variable {env : Env} {c : ConnPtr} {t : Link}

private theorem ok_initial : Ok env c initial where
  reached := ⟨[], rfl⟩
  within := .initial _ _
  known := rfl
  position := Nat.zero_le _
  sent := Nat.le_refl _

private theorem wrote_le_accepted {log : List ConnEvent} (ok : LogOk log) :
    (wrote log).length ≤ (accepted log).length := by
  have written : (wrote log).length ≤ (delivered log).length := by
    clear ok
    induction log with
    | nil => exact Nat.le_refl _
    | cons event rest ih =>
      cases event <;>
        simp only [wrote_cons, delivered_cons, wroteBytes, deliveredBytes, List.length_append, List.nil_append] <;>
          omega
  exact written.trans ok.delivered.length_le

namespace Ok

variable (ok : Ok env c t)
include ok

private theorem logOk : LogOk (t.daemon.mux.connLog c) := by
  obtain ⟨events, same⟩ := ok.reached
  exact same ▸ run_logOk env events c

private theorem send {payload : Bytes} (room : t.peer.MaySend advertisedWindow payload.length) :
    Ok env c { t with peer := t.peer.send payload.length, flight := t.flight ++ [payload] } where
  reached := ok.reached
  within := ok.within.send room
  known := ok.known
  position := ok.position
  sent := by
    have sent := ok.sent
    simp only [Window.Sender.send, List.flatten_append, List.flatten_singleton, List.length_append]
    omega

/-- A segment tells the device how much had been written when it was built. -/
private theorem hear {before after : List ConnEvent} {th : TcpHdr} {data : Bytes} {res : ℤ}
    (logged : t.daemon.mux.connLog c = before ++ segment th data res :: after) (later : t.heard ≤ before.length) :
    Ok env c { t with peer := t.peer.hear th.ack, heard := before.length + 1 } := by
  have total : (wrote before).length ≤ (wrote (t.daemon.mux.connLog c)).length := by
    rw [logged, wrote_append, List.length_append]
    omega
  have sent : (wrote before).length ≤ t.peer.sent := by
    have taken := wrote_le_accepted ok.logOk
    have sent := ok.sent
    omega
  have seen : (t.daemon.mux.connLog c).take (before.length + 1) = before ++ [segment th data res] := by
    rw [logged, List.take_append]
    simp
  have behind : t.peer.acked ≤ (wrote before).length := by
    rw [ok.known, logged, List.take_append_of_le_length later, ← List.take_append_drop t.heard before, wrote_append,
      List.take_append_drop, List.length_append]
    omega
  have within : t.peer.Within advertisedWindow (wrote before).length := ⟨ok.within.window, behind⟩
  obtain ⟨unopened, opened⟩ := ok.logOk.numbered before _ after logged
  have understood : (t.peer.hear th.ack).Within advertisedWindow (wrote before).length ∧
      (t.peer.hear th.ack).acked = (wrote before).length := by
    by_cases early : synAcks before = []
    · obtain ⟨_, ack, _, unwritten⟩ := unopened early
      rw [unwritten, List.length_nil] at within behind ⊢
      rw [ack, within.hear_zero (by decide)]
      exact ⟨within, Nat.le_zero.mp behind⟩
    · rw [(opened early).2]
      exact ⟨within.hear, within.hear_acked (by decide) sent⟩
  refine ⟨ok.reached, understood.1.consume total, ?_, ?_, ?_⟩
  · change (t.peer.hear th.ack).acked = (wrote ((t.daemon.mux.connLog c).take (before.length + 1))).length
    rw [understood.2, seen, wrote_append]
    simp
  · change before.length + 1 ≤ (t.daemon.mux.connLog c).length
    rw [logged, List.length_append, List.length_cons]
    omega
  · exact (Window.Sender.hear_sent th.ack).symm ▸ ok.sent

/-- The daemon goes on: its logs only grow, and what it takes must have been in flight. -/
private theorem advance (event : Event) {flight : List Bytes}
    (taken : (accepted ((Usbmuxd.step env t.daemon event).mux.connLog c)).length + flight.flatten.length ≤
      t.peer.sent) :
    Ok env c { t with daemon := Usbmuxd.step env t.daemon event, flight := flight } := by
  obtain ⟨events, same⟩ := ok.reached
  obtain ⟨sound, alive⟩ := run_sound_anything env events
  rw [← same] at sound alive
  have growth := ConnRun.log_grows (step_connRun env sound alive event c)
  obtain ⟨more, grown⟩ : t.daemon.mux.connLog c <+: (Usbmuxd.step env t.daemon event).mux.connLog c := growth
  refine ⟨⟨events ++ [event], ?_⟩, ok.within.consume ?_, ?_, ?_, taken⟩
  · rw [run_snoc, ← same]
  · change _ ≤ (wrote ((Usbmuxd.step env t.daemon event).mux.connLog c)).length
    rw [← grown, wrote_append, List.length_append]
    omega
  · change t.peer.acked = (wrote (((Usbmuxd.step env t.daemon event).mux.connLog c).take t.heard)).length
    rw [← grown, List.take_append_of_le_length ok.position]
    exact ok.known
  · exact ok.position.trans (grown ▸ (List.prefix_append _ _).length_le)

private theorem deliver {event : Event} {payload : Bytes} {rest : List Bytes}
    (arrives : arrival t.daemon event = some (c, payload)) (first : t.flight = payload :: rest) :
    Ok env c { t with daemon := Usbmuxd.step env t.daemon event, flight := rest } := by
  refine ok.advance event ?_
  obtain ⟨events, same⟩ := ok.reached
  have sound := (run_sound_anything env events).1
  have sent := ok.sent
  rw [first, List.flatten_cons, List.length_append] at sent
  rcases step_accepted env (same ▸ sound) arrives with nothing | once
  · rw [nothing]
    omega
  · rw [once, List.length_append]
    omega

private theorem other {event : Event} (elsewhere : ∀ payload, arrival t.daemon event ≠ some (c, payload)) :
    Ok env c { t with daemon := Usbmuxd.step env t.daemon event } := by
  refine ok.advance event ?_
  obtain ⟨events, same⟩ := ok.reached
  obtain ⟨sound, alive⟩ := run_sound_anything env events
  rw [← same] at sound alive
  have quiet : accepted ((Usbmuxd.step env t.daemon event).mux.connLog c) = accepted (t.daemon.mux.connLog c) :=
    ConnRun.deaf elsewhere (step_connRun env sound alive event c)
  rw [quiet]
  exact ok.sent

/-- What the connection has buffered and what is in flight fits the window. -/
private theorem buffered_le {m : MuxConnection} (record : t.daemon.mux.conn c = some m) :
    m.ibBuf.length + t.flight.flatten.length ≤ advertisedWindow := by
  obtain ⟨events, same⟩ := ok.reached
  have live : Live m (t.daemon.mux.connLog c) := same ▸ run_live (same ▸ record)
  have stream := congrArg List.length live.stream
  rw [← live.counted, List.length_append] at stream
  have fits := ok.within.buffered_le ok.sent
  omega

end Ok

private theorem Reachable.ok (reachable : Reachable env c t) : Ok env c t := by
  induction reachable with
  | refl => exact ok_initial
  | tail _ next ih =>
    cases next with
    | send payload room => exact ih.send room
    | hear logged submitted later => exact ih.hear logged later
    | deliver event arrives first => exact ih.deliver arrives first
    | other event elsewhere => exact ih.other elsewhere

/-- Events that bring nothing to the connection leave the device and the channel as they are. -/
private theorem reachable_run (env : Env) (c : ConnPtr) (events : List Event)
    (quiet : Each (fun before event => ∀ payload, arrival (run env before) event ≠ some (c, payload)) events) :
    Reachable env c { initial with daemon := run env events } := by
  induction events using List.reverseRecOn with
  | nil => exact .refl
  | append_singleton before event ih =>
    rw [run_snoc]
    exact (ih quiet.of_append).tail (.other _ event quiet.last)

end Link

/-- However the device, the daemon and the client interleave: the buffer holds at most the window, and
no payload in flight meets the overflow branch of `connection_device_input`. -/
theorem input_buffer_within_window (env : Env) (c : ConnPtr) (t : Link) (reachable : Link.Reachable env c t) :
    (∀ m, t.daemon.mux.conn c = some m → m.txWin.toNat = advertisedWindow ∧
      m.ibSize.toNat = m.ibBuf.length ∧ m.ibBuf.length ≤ advertisedWindow) ∧
    ∀ event payload rest m, arrival t.daemon event = some (c, payload) → t.flight = payload :: rest →
      t.daemon.mux.conn c = some m → ¬m.ibSize + UInt32.ofNat payload.length > m.ibCapacity := by
  have ok : Link.Ok env c t := Link.Reachable.ok reachable
  have live {m : MuxConnection} (record : t.daemon.mux.conn c = some m) : Live m (t.daemon.mux.connLog c) := by
    obtain ⟨events, same⟩ := ok.reached
    exact same ▸ run_live (same ▸ record)
  refine ⟨fun m record => ?_, fun event payload rest m _ first record => ?_⟩
  · have fits := ok.buffered_le record
    have window : advertisedWindow = 131072 := rfl
    refine ⟨by rw [(live record).txWin]; rfl, ?_, by omega⟩
    rw [MuxConnection.ibSize, UInt32.toNat_ofNat', Nat.mod_eq_of_lt (by omega)]
  · have fits := ok.buffered_le record
    have window : advertisedWindow = 131072 := rfl
    rw [first, List.flatten_cons, List.length_append] at fits
    rw [(live record).ibCapacity, MuxConnection.ibSize, ← UInt32.ofNat_add, gt_iff_lt, UInt32.lt_iff_toNat_lt,
      UInt32.toNat_ofNat', Nat.mod_eq_of_lt (by omega)]
    have capacity : connInbufSize.toNat = 262144 := by decide
    omega

/-- Three bytes of payload on the connection of the session. -/
def dataPacket : Bytes :=
  be32 6 ++ be32 39 ++ be32 0xfeedface ++ be16 1 ++ be16 2 ++
    TcpHdr.encode ⟨62078, 1, 1001, 1, 0x50, thAck, 512, 0, 0⟩ ++ [1, 2, 3]

/-- The session with the payload buffered, as the device has sent it. -/
def dataLink : Link :=
  ⟨step sessionEnv (run sessionEnv session) (.dataInput 0 (.full dataPacket)), ⟨3, 0⟩, [], 0⟩

private theorem dataLink_reachable : Link.Reachable sessionEnv 0 dataLink := by
  have quiet : Each (fun before event => ∀ payload, arrival (run sessionEnv before) event ≠ some (0, payload))
    session := by
    have nothing : Each (fun before event => (arrival (run sessionEnv before) event).isNone = true) session := by
      decide +kernel
    exact nothing.mono fun before event none payload => by simp [Option.isNone_iff_eq_none.mp none]
  have opened := Link.reachable_run sessionEnv 0 session quiet
  have sent := opened.tail (.send _ [1, 2, 3] (by decide +kernel))
  exact sent.tail (.deliver _ (.dataInput 0 (.full dataPacket)) (by decide +kernel) rfl)

theorem dataLink_within_window :
    (dataLink.daemon.mux.conn 0).any (fun m => m.ibBuf = [1, 2, 3]) ∧
    ∀ m, dataLink.daemon.mux.conn 0 = some m → m.ibBuf.length ≤ advertisedWindow :=
  ⟨by decide +kernel, fun m record =>
    ((input_buffer_within_window sessionEnv 0 dataLink dataLink_reachable).1 m record).2.2⟩

end Usbmuxd
