import Usbmuxd.Machine.Sound

/-! # Sending, seen by the system

`send_packet` and `send_tcp` change one device record and its log, `send_tcp` also the record of
its connection. Everything else in the system stays as it is.
-/

namespace Usbmuxd

namespace Sys

variable (S : Sys)

@[simp] theorem setDev_self (d : DevPtr) : S.setDev d (S.dev d) = S := by
  simp [setDev]

@[simp] theorem setDev_dev (d : DevPtr) (view : DevView) : (S.setDev d view).dev d = view := by
  simp [setDev]

@[simp] theorem setDev_setDev (d : DevPtr) (first second : DevView) :
    (S.setDev d first).setDev d second = S.setDev d second := by
  simp [setDev]

@[simp] theorem setConn_self (c : ConnPtr) : S.setConn c (S.conn c) = S := by
  simp [setConn]

@[simp] theorem setConn_conn (c : ConnPtr) (view : ConnView) : (S.setConn c view).conn c = view := by
  simp [setConn]

@[simp] theorem setConn_setConn (c : ConnPtr) (first second : ConnView) :
    (S.setConn c first).setConn c second = S.setConn c second := by
  simp [setConn]

@[simp] theorem setClient_self (k : ClientPtr) : S.setClient k (S.client k) = S := by
  simp [setClient]

@[simp] theorem setClient_client (k : ClientPtr) (view : ClientView) : (S.setClient k view).client k = view := by
  simp [setClient]

@[simp] theorem setClient_setClient (k : ClientPtr) (first second : ClientView) :
    (S.setClient k first).setClient k second = S.setClient k second := by
  simp [setClient]

/-- Devices and connections are updated independently. -/
theorem setConn_setDev (c : ConnPtr) (d : DevPtr) (conn : ConnView) (dev : DevView) :
    (S.setConn c conn).setDev d dev = (S.setDev d dev).setConn c conn := rfl

/-- The collections do not change when one device keeps its own. -/
theorem holds_setDev {S : Sys} {d : DevPtr} {view : DevView} (same : view.1.connections = (S.dev d).1.connections)
    (d' : DevPtr) (c : ConnPtr) : (S.setDev d view).Holds d' c ↔ S.Holds d' c := by
  unfold Holds
  by_cases here : d' = d
  · subst here
    simp [setDev, same]
  · simp [setDev, here]

end Sys

section Projection

variable (s : Daemon) (x : Mux)

@[simp] theorem setMux_mux : s.setMux s.mux = s := rfl

@[simp] theorem setMux_setMux (y : Mux) : (s.setMux x).setMux y = s.setMux y := rfl

@[simp] theorem sys_bump : (s.setMux x.bump).sys = (s.setMux x).sys := rfl

@[simp] theorem sys_setConn (c : ConnPtr) (m : MuxConnection) :
    (s.setMux (x.setConn c m)).sys = (s.setMux x).sys.setConn c (some m, ((s.setMux x).sys.conn c).2) := by
  simp only [Daemon.sys, Daemon.setMux, Mux.setConn, Sys.setConn, Update.pair_left]

@[simp] theorem sys_freeConn (c : ConnPtr) :
    (s.setMux (x.freeConn c)).sys = (s.setMux x).sys.setConn c (none, ((s.setMux x).sys.conn c).2) := by
  simp only [Daemon.sys, Daemon.setMux, Mux.freeConn, Sys.setConn, Update.pair_left]

@[simp] theorem sys_logConn (c : ConnPtr) (event : ConnEvent) :
    (s.setMux (x.logConn c event)).sys =
      (s.setMux x).sys.setConn c (((s.setMux x).sys.conn c).1, ((s.setMux x).sys.conn c).2 ++ [event]) := by
  simp only [Daemon.sys, Daemon.setMux, Mux.logConn, Sys.setConn, Update.pair_right]

@[simp] theorem sys_setDev (d : DevPtr) (dev : MuxDevice) :
    (s.setMux (x.setDev d dev)).sys = (s.setMux x).sys.setDev d (dev, ((s.setMux x).sys.dev d).2) := by
  simp only [Daemon.sys, Daemon.setMux, Mux.setDev, Sys.setDev, Update.pair_left]

@[simp] theorem sys_logDev (d : DevPtr) (event : WireEvent) :
    (s.setMux (x.logDev d event)).sys =
      (s.setMux x).sys.setDev d (((s.setMux x).sys.dev d).1, ((s.setMux x).sys.dev d).2 ++ [event]) := by
  simp only [Daemon.sys, Daemon.setMux, Mux.logDev, Sys.setDev, Update.pair_right]

@[simp] theorem sys_fault (fault : MuxFault) :
    (s.setMux (x.fault fault)).sys =
      { (s.setMux x).sys with faults := (s.setMux x).sys.faults ++ [fault] } := rfl

end Projection

/-- What happens to a device while the daemon works on its own: nothing that concerns what it is or
what it has sent. -/
structure Quiet (view view' : DevView) : Prop where
  identity : view.1.SameIdentity view'.1
  connections : view'.1.connections ⊆ view.1.connections
  pktlen : view'.1.pktlen = view.1.pktlen
  inputs : WireLog.inputs view'.2 = WireLog.inputs view.2

theorem Quiet.refl (view : DevView) : Quiet view view := ⟨.refl _, List.Subset.refl _, rfl, rfl⟩

theorem Quiet.trans {first second third : DevView} (one : Quiet first second) (two : Quiet second third) :
    Quiet first third :=
  ⟨one.identity.trans two.identity, List.Subset.trans two.connections one.connections, two.pktlen.trans one.pktlen,
    two.inputs.trans one.inputs⟩

/-- What sending a TCP packet may do to a device: nothing if the packet is too large, else one
packet is handed over and numbered. -/
def Sent (view view' : DevView) : Prop :=
  view' = view ∨ ∃ event header data, Handed event (view.1.packet .tcp header data) ∧
    view' = (view.1.advance, view.2 ++ [event])

namespace Sent

variable {lax : Laxity} {served : Option ClientPtr} {view view' : DevView}

theorem core (sent : Sent view view') :
    view.1.SameIdentity view'.1 ∧ view'.1.connections = view.1.connections := by
  rcases sent with rfl | ⟨_, _, _, _, rfl⟩
  · exact ⟨.refl _, rfl⟩
  · exact ⟨⟨by simp, by simp, by simp⟩, by simp⟩

theorem quiet (sent : Sent view view') : Quiet view view' := by
  rcases sent with rfl | ⟨event, _, _, handed, rfl⟩
  · exact .refl _
  · refine ⟨⟨by simp, by simp, by simp⟩, by simp, by simp, ?_⟩
    rcases handed with rfl | rfl <;> simp

theorem run {S : Sys} {d : DevPtr} (sent : Sent (S.dev d) view') (listed : d ∈ S.deviceList)
    (active : (S.dev d).1.state = .active ∨ lax.early) : SysRun lax served S (S.setDev d view') := by
  rcases sent with rfl | ⟨event, header, data, handed, rfl⟩
  · rw [Sys.setDev_self]
  · exact .single (.wire S d listed (.tcp _ _ active handed))

end Sent

/-- The transfers in flight to a USB device grow by these. -/
def Mux.submitted (s : Mux) (tick : ℕ) (u : UsbPtr) (more : List Bytes) : Mux :=
  { s with tick := tick, txXfers := Function.update s.txXfers u (s.txXfers u ++ more) }

private theorem Mux.submitted_submitted (s : Mux) (tick tick' : ℕ) (u : UsbPtr) (more more' : List Bytes) :
    (s.submitted tick u more).submitted tick' u more' = s.submitted tick' u (more ++ more') := by
  simp [submitted]

private theorem submitTransfer_cases (env : Env) (u : UsbPtr) (buffer : Bytes) (s : Mux) :
    (env.usb s.tick).submit < 0 ∧
        submitTransfer env u buffer s = ((env.usb s.tick).submit, s.submitted (s.tick + 1) u []) ∨
      0 ≤ (env.usb s.tick).submit ∧
        submitTransfer env u buffer s = ((env.usb s.tick).submit, s.submitted (s.tick + 1) u [buffer]) := by
  rw [submitTransfer]
  by_cases refused : (env.usb s.tick).submit < 0
  · exact .inl ⟨refused, by simp [refused, Mux.submitted, Mux.bump]⟩
  · exact .inr ⟨Int.not_lt.mp refused, if_neg refused⟩

/-- The transfers of a buffer: the buffer, and an empty one if it fills its last USB packet. -/
def transfersOf (size : ℕ) (buffer : Bytes) : List Bytes := if buffer.length % size = 0 then [buffer, []] else [buffer]

/-- The result of `usb_send` for a buffer and the transfers that it leaves in flight: those of the buffer,
or none when the buffer is refused, or the buffer alone when the zero-length packet behind it is. -/
inductive Submission (env : Env) (u : UsbPtr) (buffer : Bytes) (tick : ℕ) : ℤ → List Bytes → Prop
  | done (first : 0 ≤ (env.usb tick).submit)
      (second : buffer.length % (env.usbDevice u).wMaxPacketSize = 0 → 0 ≤ (env.usb (tick + 1)).submit) :
      Submission env u buffer tick 0 (transfersOf (env.usbDevice u).wMaxPacketSize buffer)
  | refused {result : ℤ} (failed : result < 0) (first : (env.usb tick).submit < 0) :
      Submission env u buffer tick result []
  | cut {result : ℤ} (failed : result < 0) (full : buffer.length % (env.usbDevice u).wMaxPacketSize = 0)
      (first : 0 ≤ (env.usb tick).submit) (second : (env.usb (tick + 1)).submit < 0) :
      Submission env u buffer tick result [buffer]

theorem Submission.mem {env : Env} {u : UsbPtr} {buffer transfer : Bytes} {tick : ℕ} {result : ℤ} {more : List Bytes}
    (submission : Submission env u buffer tick result more) (member : transfer ∈ more) :
    transfer = buffer ∨ transfer = [] := by
  cases submission with
  | done =>
    rw [transfersOf] at member
    split at member <;> simp at member
    · exact member
    · exact .inl member
  | refused => cases member
  | cut => exact .inl (List.mem_singleton.mp member)

/-- What `usb_send` does. -/
theorem usbSend_submission (env : Env) (u : UsbPtr) (buffer : Bytes) (s : Mux) :
    ∃ tick more, Submission env u buffer s.tick (usbSend env u buffer s).1 more ∧
      (usbSend env u buffer s).2 = s.submitted tick u more := by
  rw [usbSend]
  rcases submitTransfer_cases env u buffer s with ⟨refused, first⟩ | ⟨taken, first⟩
  · simp only [first, if_pos refused]
    exact ⟨s.tick + 1, [], .refused refused refused, rfl⟩
  simp only [first, if_neg (Int.not_lt.mpr taken)]
  split
  · next full =>
    rcases submitTransfer_cases env u [] (s.submitted (s.tick + 1) u [buffer]) with ⟨refused, second⟩ | ⟨taken', second⟩
    · simp only [second, if_pos refused]
      exact ⟨s.tick + 1 + 1, [buffer], .cut refused full taken refused, s.submitted_submitted ..⟩
    · simp only [second, if_neg (Int.not_lt.mpr taken')]
      refine ⟨s.tick + 1 + 1, _, .done taken fun _ => taken', ?_⟩
      rw [transfersOf, if_pos full]
      exact s.submitted_submitted ..
  · next short =>
    refine ⟨s.tick + 1, _, .done taken fun full => absurd full short, ?_⟩
    rw [transfersOf, if_neg short]

/-- The packet that `send_packet` hands to `usb_send`. -/
def builtPacket? (dev : MuxDevice) (proto : MuxProtocol) (header data : Bytes) : Option Bytes :=
  proto.headerLength?.bind fun hdrlen =>
    if usbMtu < muxHeaderSize dev.version + hdrlen + data.length then none
    else some (dev.packet proto (header.take hdrlen) data)

/-- What `send_packet` does: nothing if there is no packet to send, and otherwise it numbers the packet,
submits it and notes how that ended. -/
theorem sendPacket_cases (env : Env) (d : DevPtr) (proto : MuxProtocol) (header data : Bytes) (s : Mux) :
    builtPacket? (s.dev d) proto header data = none ∧ sendPacket env d proto header data s = (-1, s) ∨
    ∃ packet, builtPacket? (s.dev d) proto header data = some packet ∧ ∃ result more tick faults,
      Submission env (s.dev d).usbdev packet s.tick result more ∧
      ((sendPacket env d proto header data s).1 < 0 ↔ result < 0) ∧
      (sendPacket env d proto header data s).2 =
        { s with
          tick := tick, dev := Function.update s.dev d ((s.dev d).restart proto).advance
          txXfers := Function.update s.txXfers (s.dev d).usbdev (s.txXfers (s.dev d).usbdev ++ more)
          devLog := Function.update s.devLog d (s.devLog d ++ [if result < 0 then .failed packet else .sent packet])
          faults := faults } := by
  rw [sendPacket, builtPacket?]
  rcases proto.headerLength? with _ | hdrlen
  · exact .inl ⟨rfl, rfl⟩
  simp only [Option.bind_some]
  split
  · exact .inl ⟨rfl, rfl⟩
  refine .inr ⟨_, rfl, ?_⟩
  generalize (s.dev d).packet proto _ data = packet
  obtain ⟨faults, noted⟩ : ∃ faults, (if ((s.dev d).restart proto).unnumbered then s.fault (.uninitialisedSequence d)
      else s) = { s with faults := faults } := by
    split
    · exact ⟨_, rfl⟩
    · exact ⟨s.faults, rfl⟩
  rw [noted]
  obtain ⟨tick, more, submission, submitted⟩ := usbSend_submission env (s.dev d).usbdev packet
    (Mux.setDev { s with faults := faults } d ((s.dev d).restart proto).advance)
  refine ⟨_, more, tick, faults, submission, ?_⟩
  rw [submitted]
  split
  · next failed => exact ⟨by simp [failed], by simp only [Mux.logDev, Mux.submitted, Mux.setDev]⟩
  · next sent =>
    refine ⟨iff_of_false (Int.not_lt.mpr (Int.natCast_nonneg _)) sent, ?_⟩
    simp only [Mux.logDev, Mux.submitted, Mux.setDev]

/-- `send_packet` changes the numbers of its device, the transfers and what is noted about them. -/
theorem sendPacket_state (env : Env) (d : DevPtr) (proto : MuxProtocol) (header data : Bytes) (s : Mux) :
    ∃ tick rxSeq txSeq transfers events faults, (sendPacket env d proto header data s).2 =
      { s with
        tick := tick, dev := Function.update s.dev d { s.dev d with rxSeq := rxSeq, txSeq := txSeq }
        txXfers := transfers, devLog := Function.update s.devLog d (s.devLog d ++ events), faults := faults } ∧
      ∀ event ∈ events, ∃ packet, Handed event packet := by
  obtain ⟨rxSeq, txSeq, numbered⟩ : ∃ rxSeq txSeq, ((s.dev d).restart proto).advance =
      { s.dev d with rxSeq := rxSeq, txSeq := txSeq } := by
    rw [MuxDevice.restart, MuxDevice.advance]
    split <;> split <;> exact ⟨_, _, rfl⟩
  rcases sendPacket_cases env d proto header data s with ⟨-, nothing⟩ | ⟨packet, -, result, more, tick, faults, -, -,
    state⟩
  · refine ⟨s.tick, (s.dev d).rxSeq, (s.dev d).txSeq, s.txXfers, [], s.faults, ?_, by simp⟩
    simp [nothing]
  · rw [state, numbered]
    refine ⟨_, _, _, _, _, _, rfl, fun event member => ⟨packet, ?_⟩⟩
    rw [List.mem_singleton.mp member]
    split
    · exact .inr rfl
    · exact .inl rfl

/-- `send_packet` does not look at connections. -/
theorem sendPacket_conn (env : Env) (d : DevPtr) (proto : MuxProtocol) (header data : Bytes) (s : Mux) :
    (sendPacket env d proto header data s).2.conn = s.conn := by
  obtain ⟨_, _, _, _, _, _, state, -⟩ := sendPacket_state env d proto header data s
  rw [state]

/-- `send_packet` on a device whose numbers are known: refused for its size, or handed over. -/
theorem sendPacket_sys (env : Env) (d : DevPtr) (proto : MuxProtocol) {header : Bytes} (data : Bytes) (s : Daemon)
    (known : proto.headerLength? = some header.length)
    (numbered : ((s.mux.dev d).restart proto).unnumbered = false) :
    let r := sendPacket env d proto header data s.mux
    (usbMtu < muxHeaderSize (s.mux.dev d).version + header.length + data.length ∧ r = (-1, s.mux)) ∨
      ∃ event, Handed event ((s.mux.dev d).packet proto header data) ∧
        (s.setMux r.2).sys = s.sys.setDev d (((s.mux.dev d).restart proto).advance, s.mux.devLog d ++ [event]) := by
  intro r
  by_cases large : usbMtu < muxHeaderSize (s.mux.dev d).version + header.length + data.length
  · left
    exact ⟨large, by simp [r, sendPacket, known, large]⟩
  · right
    obtain ⟨tick, more, -, state⟩ := usbSend_submission env (s.mux.dev d).usbdev
      ((s.mux.dev d).packet proto header data) (s.mux.setDev d ((s.mux.dev d).restart proto).advance)
    have unqueued (x : Mux) (tick : ℕ) (u : UsbPtr) (more : List Bytes) :
        (s.setMux (x.submitted tick u more)).sys = (s.setMux x).sys := rfl
    by_cases lost : (usbSend env (s.mux.dev d).usbdev ((s.mux.dev d).packet proto header data)
        (s.mux.setDev d ((s.mux.dev d).restart proto).advance)).1 < 0
    · refine ⟨.failed ((s.mux.dev d).packet proto header data), .inr rfl, ?_⟩
      simp only [r, sendPacket, known, if_neg large, numbered, Bool.false_eq_true, if_false, List.take_length,
        if_pos lost,
        state, sys_logDev, unqueued, sys_setDev, setMux_mux, Sys.setDev_dev, Sys.setDev_setDev]
      rfl
    · refine ⟨.sent ((s.mux.dev d).packet proto header data), .inl rfl, ?_⟩
      simp only [r, sendPacket, known, if_neg large, numbered, Bool.false_eq_true, if_false, List.take_length,
        if_neg lost,
        state, sys_logDev, unqueued, sys_setDev, setMux_mux, Sys.setDev_dev, Sys.setDev_setDev]
      rfl

/-- A TCP packet. -/
theorem sendPacket_tcp (env : Env) (d : DevPtr) {header : Bytes} (data : Bytes) (s : Daemon) (size : header.length = 20)
    (numbered : (s.mux.dev d).unnumbered = false) :
    ∃ view, Sent (s.sys.dev d) view ∧ (s.setMux (sendPacket env d .tcp header data s.mux).2).sys =
      s.sys.setDev d view := by
  have known : MuxProtocol.tcp.headerLength? = some header.length := by rw [size]; rfl
  rcases sendPacket_sys env d .tcp data s known (by simpa using numbered) with ⟨_, refused⟩ | ⟨event, handed, sent⟩
  · exact ⟨s.sys.dev d, .inl rfl, by rw [refused]; simp⟩
  · rw [MuxDevice.restart_tcp] at sent
    exact ⟨_, .inr ⟨event, header, data, handed, rfl⟩, sent⟩

/-- `send_tcp` on an allocated connection. -/
theorem sendTcp_sys (env : Env) (c : ConnPtr) (flags : UInt8) (data : Bytes) (s : Daemon) {m : MuxConnection}
    (present : s.mux.conn c = some m) (numbered : (s.mux.dev m.dev).unnumbered = false) :
    ∃ view now, Sent (s.sys.dev m.dev) view ∧
      (s.setMux (sendTcp env c flags data s.mux).2).sys = (s.sys.setDev m.dev view).setConn c
        (some (if 0 ≤ (sendTcp env c flags data s.mux).1 then m.acked now else m),
          s.mux.connLog c ++ [.segment (m.header flags) data (sendTcp env c flags data s.mux).1]) := by
  obtain ⟨view, sent, after⟩ := sendPacket_tcp env m.dev data s (TcpHdr.encode_length (m.header flags)) numbered
  set r := sendPacket env m.dev .tcp (m.header flags).encode data s.mux with definition
  have record : (s.sys.setDev m.dev view).conn c = (some m, s.mux.connLog c) := by
    rw [← present]
    rfl
  by_cases ok : 0 ≤ r.1
  · refine ⟨view, (env.usb (r.2.logConn c (.segment (m.header flags) data r.1)).tick).now, sent, ?_⟩
    have result : sendTcp env c flags data s.mux = (r.1, ((r.2.logConn c (.segment (m.header flags) data r.1)).setConn c
        (m.acked (env.usb (r.2.logConn c (.segment (m.header flags) data r.1)).tick).now)).bump) := by
      simp only [sendTcp, present, ← definition, if_pos ok]
    simp only [result, if_pos ok, sys_bump, sys_setConn, sys_logConn, after, record, Sys.setConn_conn,
      Sys.setConn_setConn]
  · refine ⟨view, 0, sent, ?_⟩
    have result : sendTcp env c flags data s.mux = (r.1, r.2.logConn c (.segment (m.header flags) data r.1)) := by
      simp only [sendTcp, present, ← definition, if_neg ok]
    simp only [result, if_neg ok, sys_logConn, after, record]

end Usbmuxd
