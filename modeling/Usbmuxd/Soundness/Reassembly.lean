import Usbmuxd.Proofs.Reassembly
import Usbmuxd.Soundness.Streams

/-! # Packets survive the USB transfers

Packets that a device sends in transfers of the USB size reach the dispatch one by one and unchanged,
even after garbage, and what the daemon itself would send is understood by a daemon.
-/

namespace Usbmuxd

open WireLog

/-- The device stays registered while the transfers are handled. -/
def Registered (env : Env) (u : UsbPtr) (d : DevPtr) : List Transfer → Daemon → Prop
  | [], s => findDevice u s.mux = some d
  | t :: rest, s => findDevice u s.mux = some d ∧ Registered env u d rest (deviceDataInput env u t s)

instance Registered.decidable (env : Env) (u : UsbPtr) (d : DevPtr) :
    (transfers : List Transfer) → (s : Daemon) → Decidable (Registered env u d transfers s)
  | [], s => inferInstanceAs (Decidable (findDevice u s.mux = some d))
  | t :: rest, s =>
    have := Registered.decidable env u d rest (deviceDataInput env u t s)
    inferInstanceAs (Decidable (findDevice u s.mux = some d ∧ Registered env u d rest (deviceDataInput env u t s)))

section Feed

variable {env : Env} {u : UsbPtr} {d : DevPtr} {s : Daemon} {transfers one two : List Transfer}

private theorem Registered.here (registered : Registered env u d transfers s) : findDevice u s.mux = some d := by
  cases transfers with
  | nil => exact registered
  | cons t rest => exact registered.1

private theorem Registered.append (registered : Registered env u d (one ++ two) s) :
    Registered env u d one s ∧ Registered env u d two (feed env u one s) := by
  induction one generalizing s with
  | nil => exact ⟨registered.here, registered⟩
  | cons t one ih =>
    obtain ⟨before, after⟩ := ih registered.2
    exact ⟨⟨registered.1, before⟩, after⟩

private theorem feed_filter (env : Env) (u : UsbPtr) (transfers : List Transfer) (s : Daemon) :
    feed env u (transfers.filter fun t => t.length ≠ 0) s = feed env u transfers s := by
  induction transfers generalizing s with
  | nil => rfl
  | cons t rest ih =>
    by_cases empty : t.length = 0
    · rw [List.filter_cons_of_neg (by simpa using empty), ih, feed_cons, deviceDataInput_empty env empty]
    · rw [List.filter_cons_of_pos (by simpa using empty), feed_cons, ih, feed_cons]

private theorem Registered.filter (registered : Registered env u d transfers s) :
    Registered env u d (transfers.filter fun t => t.length ≠ 0) s := by
  induction transfers generalizing s with
  | nil => exact registered
  | cons t rest ih =>
    by_cases empty : t.length = 0
    · rw [List.filter_cons_of_neg (by simpa using empty)]
      have later := ih registered.2
      rwa [deviceDataInput_empty env empty] at later
    · rw [List.filter_cons_of_pos (by simpa using empty)]
      exact ⟨registered.1, ih registered.2⟩

/-- The invariant holds between transfers. -/
theorem feed_sound (sound : Sound anything s.sys) : Sound anything (feed env u transfers s).sys := by
  induction transfers generalizing s with
  | nil => exact sound
  | cons t rest ih =>
    have steady := deviceDataInput_steady env (grants_anything env) sound u t (fun _ => announces_anything)
      fun _ _ _ => ⟨trivial, .inl trivial⟩
    exact ih (steady.sound sound)

/-- A packet that is handed on reaches the dispatch once. -/
theorem Completes.inputs {packet : Bytes} {s' : Daemon} (sound : Sound anything s.sys) (listed : d ∈ s.mux.deviceList)
    (framed : Framed packet) (completes : Completes env d packet s s') :
    (s'.mux.dev d).pktlen = 0 ∧ WireLog.inputs (s'.mux.devLog d) = WireLog.inputs (s.mux.devLog d) ++ [packet] := by
  obtain ⟨buffer, dev, begins, core, empty, outcome⟩ := completes
  have stored : Steady anything none s.sys (s.setMux (s.mux.setDev d dev)).sys := by
    rw [sys_setDev, setMux_mux]
    exact wire_steady none listed (.bookkeep _ core (.inr trivial))
  obtain ⟨still, reached⟩ := packetInput_inputs env (stored.sound sound) listed (begins.length framed)
  rw [← outcome] at still reached
  have record : ((s.setMux (s.mux.setDev d dev)).mux.dev d).pktlen = 0 := by
    simpa [Daemon.setMux, Mux.setDev] using empty
  have bytes : buffer.take packet.length = packet := begins
  rw [bytes] at reached
  exact ⟨still.trans record, reached⟩

private theorem feed_packets {packets : List Bytes} (sound : Sound anything s.sys)
    (framed : ∀ packet ∈ packets, Framed packet)
    (registered : Registered env u d transfers s) (idle : (s.mux.dev d).pktlen = 0)
    (carried : transfers.map Transfer.data = packets.flatMap (Chunks.cut usbMru)) :
    ((feed env u transfers s).mux.dev d).pktlen = 0 ∧
      inputs ((feed env u transfers s).mux.devLog d) = inputs (s.mux.devLog d) ++ packets := by
  induction packets generalizing transfers s with
  | nil =>
    rw [List.map_eq_nil_iff.mp carried]
    exact ⟨idle, (List.append_nil _).symm⟩
  | cons packet packets ih =>
    rw [List.flatMap_cons] at carried
    obtain ⟨mine, others, rfl, cutting, rest⟩ := List.map_eq_append_iff.mp carried
    obtain ⟨before, after⟩ := registered.append
    have good : Framed packet := framed packet (List.mem_cons_self ..)
    have listed : d ∈ s.mux.deviceList := List.mem_of_find?_eq_some before.here
    obtain ⟨still, reached⟩ := (feed_packet env good before.here idle cutting).inputs sound listed good
    obtain ⟨final, more⟩ := ih (feed_sound sound) (fun p member => framed p (List.mem_cons_of_mem _ member)) after
      still rest
    rw [feed_append]
    refine ⟨final, more.trans ?_⟩
    rw [reached, List.append_assoc]
    rfl

private theorem pktlen_after_short {t : Transfer} (sound : Sound anything s.sys) (found : findDevice u s.mux = some d)
    (filled : 0 < t.length) (short : t.length < usbMru) : ((deviceDataInput env u t s).mux.dev d).pktlen = 0 := by
  have listed : d ∈ s.mux.deviceList := List.mem_of_find?_eq_some found
  have idle : (reassemble (s.mux.dev d) t).2.pktlen = 0 := reassemble_short short
  have stored : Sound anything (s.setMux (s.mux.setDev d (reassemble (s.mux.dev d) t).2)).sys :=
    Steady.sound (store_steady listed t) sound
  have record : ((s.setMux (s.mux.setDev d (reassemble (s.mux.dev d) t).2)).mux.dev d).pktlen = 0 := by
    simpa [Daemon.setMux, Mux.setDev] using idle
  cases outcome : (reassemble (s.mux.dev d) t).1 with
  | held =>
    rw [deviceDataInput_held env found (by omega) (by omega) (Prod.ext outcome rfl)]
    exact record
  | packet buffer length =>
    rw [deviceDataInput_complete env found (by omega) (by omega) (Prod.ext outcome rfl)]
    by_cases whole : (be32At buffer 4).toNat = length
    · exact (packetInput_inputs env stored listed whole).1.trans record
    · rw [packetInput, if_pos whole]
      exact record

private theorem feed_empty {transfers : List Transfer} (empty : ∀ t ∈ transfers, t.length = 0) :
    feed env u transfers s = s := by
  rw [← feed_filter, List.filter_eq_nil_iff.mpr (by simpa using empty), feed_nil]

end Feed

/-- Nothing is being collected: either nothing was, or the last transfer that was not empty was short. -/
def Settles (env : Env) (u : UsbPtr) (d : DevPtr) (history : List Transfer) (s : Daemon) : Prop :=
  ((feed env u history s).mux.dev d).pktlen = 0 ∨
    ∃ earlier t empty, history = earlier ++ t :: empty ∧ 0 < t.length ∧ t.length < usbMru ∧ ∀ e ∈ empty, e.length = 0

private theorem Settles.idle {env : Env} {u : UsbPtr} {d : DevPtr} {history : List Transfer} {s : Daemon}
    (settles : Settles env u d history s) (sound : Sound anything s.sys) (registered : Registered env u d history s) :
    ((feed env u history s).mux.dev d).pktlen = 0 := by
  rcases settles with idle | ⟨earlier, t, empty, rfl, filled, short, nothing⟩
  · exact idle
  · rw [feed_append, feed_cons, feed_empty nothing]
    exact pktlen_after_short (feed_sound sound) registered.append.2.here filled short

/-- Packets that are cut into transfers, with empty transfers anywhere, reach the dispatch once each,
in order and unchanged, and nothing is left in the buffer between them. Before them any transfers may
have come, to any reachable state, as long as the last of them that was not empty was short. -/
theorem packets_reassembled (env : Env) (events : List Event) (u : UsbPtr) (d : DevPtr)
    (history transfers : List Transfer) (packets : List Bytes) (framed : ∀ packet ∈ packets, Framed packet)
    (registered : Registered env u d (history ++ transfers) (run env events))
    (settles : Settles env u d history (run env events))
    (carried : pieces transfers = packets.flatMap (Chunks.cut usbMru)) :
    let s := feed env u history (run env events)
    inputs ((feed env u transfers s).mux.devLog d) = inputs (s.mux.devLog d) ++ packets ∧
    ∀ part rest complete, transfers = part ++ rest → complete <+: packets →
      pieces part = complete.flatMap (Chunks.cut usbMru) →
      ((feed env u part s).mux.dev d).pktlen = 0 ∧
        inputs ((feed env u part s).mux.devLog d) = inputs (s.mux.devLog d) ++ complete := by
  intro s
  have sound := (run_sound_anything env events).1
  obtain ⟨before, after⟩ := registered.append
  have idle : (s.mux.dev d).pktlen = 0 := settles.idle sound before
  have boundary {part : List Transfer} {complete : List Bytes} (stays : Registered env u d part s)
      (good : ∀ packet ∈ complete, Framed packet) (cutting : pieces part = complete.flatMap (Chunks.cut usbMru)) :
      ((feed env u part s).mux.dev d).pktlen = 0 ∧
        inputs ((feed env u part s).mux.devLog d) = inputs (s.mux.devLog d) ++ complete := by
    rw [← feed_filter]
    exact feed_packets (feed_sound sound) good stays.filter idle cutting
  refine ⟨(boundary after framed carried).2, fun part rest complete split initial cutting => ?_⟩
  refine boundary (split ▸ after).append.1 (fun packet member => framed packet ?_) cutting
  exact initial.subset member

/-- Three bytes that are no packet. -/
def garbage : Bytes := [1, 2, 3]

theorem versionReply_framed : Framed versionReply := ⟨by decide, by decide, by decide +kernel⟩

private theorem pieces_full (data : Bytes) (rest : List Transfer) :
    pieces (.full data :: rest) = if data.length = 0 then pieces rest else data :: pieces rest := by
  have whole : (Transfer.full data).data = data := List.take_length
  split <;> simp_all [pieces, Transfer.full]

/-- A packet of an unknown protocol that takes two transfers. -/
def longPacket : Bytes := be32 6 ++ be32 16500 ++ List.replicate 16492 0

private theorem longPacket_length : longPacket.length = 16500 := by
  rw [longPacket, List.length_append, List.length_replicate]
  rfl

private theorem longPacket_framed : Framed longPacket := by
  refine ⟨by rw [longPacket_length]; decide, by rw [longPacket_length]; decide, ?_⟩
  rw [longPacket_length, longPacket, List.append_assoc]
  exact congrArg UInt32.toNat (be32At_append (be32 6) _ _)

/-- An empty transfer, the version reply, and the long packet with an empty transfer in between. -/
def cutTransfers : List Transfer :=
  [.full [], .full versionReply, .full (longPacket.take usbMru), .full [], .full (longPacket.drop usbMru)]

private theorem cutTransfers_pieces : pieces cutTransfers = [versionReply, longPacket].flatMap (Chunks.cut usbMru) := by
  have size := longPacket_length
  have mru : usbMru = 16384 := rfl
  have reply : versionReply.length ≠ 0 := by decide
  have left : (longPacket.take usbMru).length ≠ 0 := by rw [List.length_take]; omega
  have right : (longPacket.drop usbMru).length ≠ 0 := by rw [List.length_drop]; omega
  rw [List.flatMap_cons, List.flatMap_singleton, Chunks.cut_of_le (by decide), Chunks.cut_of_lt (by decide) (by omega),
    Chunks.cut_of_le (by rw [List.length_drop]; omega)]
  simp only [cutTransfers, pieces_full, List.length_nil, if_true, if_neg reply, if_neg left, if_neg right]
  rfl

/-- After garbage and an empty transfer, the version reply and a packet in two parts get through. -/
theorem versionReply_reassembled :
    let s := feed sessionEnv 0 [.full garbage] (run sessionEnv [.deviceAdd 0])
    inputs ((feed sessionEnv 0 cutTransfers s).mux.devLog 0) = inputs (s.mux.devLog 0) ++ [versionReply, longPacket] ∧
    ((feed sessionEnv 0 (cutTransfers.take 2) s).mux.dev 0).pktlen = 0 := by
  have framed (packet : Bytes) (member : packet ∈ [versionReply, longPacket]) : Framed packet := by
    rcases List.mem_pair.mp member with rfl | rfl
    · exact versionReply_framed
    · exact longPacket_framed
  obtain ⟨whole, parts⟩ := packets_reassembled sessionEnv [.deviceAdd 0] 0 0 [.full garbage] cutTransfers
    [versionReply, longPacket] framed (by decide +kernel)
    (.inr ⟨[], .full garbage, [], rfl, by decide, by decide, by simp⟩)
    cutTransfers_pieces
  refine ⟨whole,
    (parts (cutTransfers.take 2) _ [versionReply] (List.take_append_drop 2 _).symm ⟨[longPacket], rfl⟩ ?_).1⟩
  rw [List.flatMap_singleton, Chunks.cut_of_le (by decide)]
  decide +kernel

/-- The protocols that both sides of the mux layer know, with the dispatch they lead to. -/
def MuxProtocol.dispatched? (proto : MuxProtocol) (header payload : Bytes) : Option Dispatch :=
  match proto with
  | .version => some (.versionInput header payload)
  | .tcp => some (.tcpInput header payload)
  | _ => none

/-- A packet that `send_packet` builds is taken apart as it was put together. -/
private theorem dispatch_packet {dev : MuxDevice} {proto : MuxProtocol} {header data buffer : Bytes}
    {expected : Dispatch}
    (known : proto.headerLength? = some header.length) (expect : proto.dispatched? header data = some expected)
    (begins : Begins buffer (dev.packet proto header data)) :
    dispatch dev.version buffer (dev.packet proto header data).length = expected := by
  obtain ⟨rest, rfl⟩ : ∃ rest, buffer = dev.packet proto header data ++ rest :=
    ⟨buffer.drop (dev.packet proto header data).length, by
      conv_lhs => rw [← List.take_append_drop (dev.packet proto header data).length buffer, begins]⟩
  have code : be32At (dev.packet proto header data ++ rest) 0 = proto.code := by
    rw [be32At, BigEndian.peek_append_left (by simp [muxHeaderSize]; split <;> omega)]
    exact dev.packet_protocol proto header data
  set mux := (dev.restart proto).muxHeader proto (muxHeaderSize dev.version + header.length + data.length) with front
  have size : mux.length = muxHeaderSize dev.version := by simp [front]
  have shape : dev.packet proto header data ++ rest = mux ++ (header ++ (data ++ rest)) := by
    simp [MuxDevice.packet, front]
  have headerBytes : BigEndian.peek (dev.packet proto header data ++ rest) (muxHeaderSize dev.version) header.length =
      header := by
    rw [shape, ← size, ← Nat.add_zero mux.length, BigEndian.peek_append_right, BigEndian.peek_append_left (by omega),
      BigEndian.peek_self]
  have dataBytes : BigEndian.peek (dev.packet proto header data ++ rest)
      (muxHeaderSize dev.version + header.length) data.length = data := by
    rw [shape, ← size, BigEndian.peek_append_right, ← Nat.add_zero header.length, BigEndian.peek_append_right,
      BigEndian.peek_append_left (by omega), BigEndian.peek_self]
  have left (w : ℕ) : muxHeaderSize dev.version + w + data.length - muxHeaderSize dev.version - w = data.length := by
    omega
  cases proto with
  | version =>
    have twelve : header.length = 12 := (Option.some.inj known).symm
    obtain rfl : Dispatch.versionInput header data = expected := Option.some.inj expect
    simp only [dispatch, code, MuxDevice.packet_length, if_pos]
    rw [if_neg (by omega), ← twelve, headerBytes, left, dataBytes]
  | tcp =>
    have twenty : header.length = 20 := (Option.some.inj known).symm
    obtain rfl : Dispatch.tcpInput header data = expected := Option.some.inj expect
    simp only [dispatch, code, MuxDevice.packet_length]
    rw [if_neg (by decide), if_neg (by decide), if_pos trivial, if_neg (by omega), ← twenty, headerBytes, left,
      dataBytes]
  | control => cases expect
  | setup => cases expect

/-- Encoder and decoder of the mux layer agree. The buffer that `send_packet` builds for a device record
of any version, cut into transfers, reaches the matching handler of a device of the same version with
the header and the payload it was built from; the state `x` in which the handler starts has the packet
in the log of the device and the same clients and connections. The TCP header of a connection decodes
to its counters, and to its window rounded down. -/
theorem mux_layer_agrees :
    (∀ (env : Env) (u : UsbPtr) (d : DevPtr) (s : Daemon) (dev : MuxDevice) (proto : MuxProtocol)
      (header data : Bytes) (expected : Dispatch) (transfers : List Transfer),
      proto.headerLength? = some header.length → proto.dispatched? header data = some expected →
      muxHeaderSize dev.version + header.length + data.length ≤ usbMtu →
      findDevice u s.mux = some d → (s.mux.dev d).version = dev.version → (s.mux.dev d).pktlen = 0 →
      pieces transfers = Chunks.cut usbMru (dev.packet proto header data) →
      ∃ x, feed env u transfers s = runDispatch env d expected x ∧
        inputs (x.mux.devLog d) = inputs (s.mux.devLog d) ++ [dev.packet proto header data] ∧
        (x.mux.dev d).version = dev.version ∧ (x.mux.dev d).pktlen = 0 ∧
        x.clients = s.clients ∧ x.mux.conn = s.mux.conn ∧ x.mux.deviceList = s.mux.deviceList) ∧
    ∀ (env : Env) (events : List Event) (c : ConnPtr) (m peer : MuxConnection) (flags : UInt8),
      (run env events).mux.conn c = some m →
      let th := TcpHdr.decode (m.header flags).encode
      th.sport = m.sport ∧ th.dport = m.dport ∧ th.flags = flags ∧ (peer.receive th).rxSeq = m.txSeq ∧
        (peer.receive th).rxAck = m.txAck ∧ (peer.receive th).rxWin = m.txWin / 256 * 256 := by
  refine ⟨?_, ?_⟩
  · intro env u d s dev proto header data expected transfers known expect small found version idle cutting
    have mtu : usbMtu = 49152 := rfl
    have mru : devMru = 65536 := rfl
    have framed : Framed (dev.packet proto header data) := by
      refine ⟨?_, by rw [dev.packet_length]; omega, ?_⟩
      · rw [dev.packet_length, muxHeaderSize]
        split <;> omega
      · rw [dev.packet_total, dev.packet_length, UInt32.toNat_ofNat', Nat.mod_eq_of_lt (by omega)]
    rw [← feed_filter]
    obtain ⟨buffer, dev', begins, core, empty, outcome⟩ := feed_packet env framed found idle cutting
    set y := s.setMux (s.mux.setDev d dev') with stored
    have record : y.mux.dev d = dev' := by simp [stored, Daemon.setMux, Mux.setDev]
    have sameVersion : dev'.version = dev.version := core.version.trans version
    refine ⟨y.receive d buffer (dev.packet proto header data).length, ?_, ?_, ?_, ?_, rfl, rfl, rfl⟩
    · rw [outcome, packetInput_whole env (begins.length framed), record, sameVersion,
        dispatch_packet known expect begins]
    · have bytes : buffer.take (dev.packet proto header data).length = dev.packet proto header data := begins
      simp only [Daemon.receive, stored, Daemon.setMux, Mux.logDev, Mux.setDev, Function.update_self, bytes,
        inputs_append]
      rfl
    · simp only [Daemon.receive, Daemon.setMux, Mux.logDev, Mux.setDev, Function.update_self, record, MuxDevice.track]
      split <;> exact sameVersion
    · simp only [Daemon.receive, Daemon.setMux, Mux.logDev, Mux.setDev, Function.update_self, record, MuxDevice.track]
      split <;> exact empty
  · intro env events c m peer flags record th
    have same : th = m.header flags := TcpHdr.decode_encode _
    rw [same]
    refine ⟨rfl, rfl, rfl, rfl, rfl, ?_⟩
    change (m.txWin >>> 8).toUInt16.toUInt32 <<< 8 = m.txWin / 256 * 256
    rw [(run_live record).txWin]
    decide

/-- The version request that a new device is sent comes back to it as it was built, and the header of an open
connection decodes. -/
theorem versionRequest_agrees :
    (∃ x, feed sessionEnv 0 [.full ((newDevice 0 1).packet .version versionRequest [])]
      (run sessionEnv [.deviceAdd 0]) =
        runDispatch sessionEnv 0 (.versionInput versionRequest []) x ∧
      inputs (x.mux.devLog 0) = [(newDevice 0 1).packet .version versionRequest []]) ∧
    ∃ m, (run sessionEnv tunnel).mux.conn 0 = some m ∧
      (m.receive (TcpHdr.decode (m.header thAck).encode)).rxSeq = m.txSeq := by
  obtain ⟨packets, headers⟩ := mux_layer_agrees
  obtain ⟨m, present⟩ := Option.isSome_iff_exists.mp
    (show ((run sessionEnv tunnel).mux.conn 0).isSome by decide +kernel)
  refine ⟨?_, m, present, (headers sessionEnv tunnel 0 m m thAck present).2.2.2.1⟩
  obtain ⟨x, fed, logged, -⟩ := packets sessionEnv 0 0 (run sessionEnv [.deviceAdd 0]) (newDevice 0 1) .version
    versionRequest [] _ [.full ((newDevice 0 1).packet .version versionRequest [])] rfl rfl (by decide)
    (by decide +kernel) (by decide +kernel) (by decide +kernel)
    (by rw [Chunks.cut_of_le (by decide +kernel)]; decide +kernel)
  exact ⟨x, fed, logged⟩

end Usbmuxd
