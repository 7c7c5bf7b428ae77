import Mathlib.Logic.Relation
import Usbmuxd.ToMathlib.History
import Usbmuxd.Model.Connection

/-! # What one connection can do

The abstract machine of a connection record and its log. Its steps are the elementary changes the
code makes to one connection, each with the guard the code has checked when it makes them; the
functions of `device.c` are sequences of such steps. Stream integrity in both directions, sequence
numbers, acknowledgements and flow control are invariants of this machine.
-/

namespace Usbmuxd

open History

namespace ConnEvent

/-- Payload taken from the device. -/
@[simp] def acceptedBytes : ConnEvent → Bytes
  | accepted payload => payload
  | _ => []

/-- Bytes written to the client that count as acknowledged. -/
@[simp] def wroteBytes : ConnEvent → Bytes
  | wrote bytes => bytes
  | _ => []

/-- All bytes written to the client. -/
@[simp] def deliveredBytes : ConnEvent → Bytes
  | wrote bytes => bytes
  | flushed bytes => bytes
  | _ => []

/-- Bytes read from the client. -/
@[simp] def readBytes : ConnEvent → Bytes
  | read bytes => bytes
  | _ => []

/-- Payload handed over to USB for the device. -/
@[simp] def payloadBytes : ConnEvent → Bytes
  | segment _ data res => if 0 ≤ res then data else []
  | _ => []

@[simp] def synAck? : ConnEvent → Option UInt32
  | synAck seq => some seq
  | _ => none

/-- The acknowledgement number of a segment that was handed over. -/
@[simp] def sentAck? : ConnEvent → Option UInt32
  | segment th _ res => if 0 ≤ res then some th.ack else none
  | _ => none

/-- The latest acknowledgement and window, given the earlier one. -/
@[simp] def latestRx (prior : Option (UInt32 × UInt32)) : ConnEvent → Option (UInt32 × UInt32)
  | rx ack win => some (ack, win)
  | _ => prior

end ConnEvent

namespace ConnLog

def accepted (log : List ConnEvent) : Bytes := log.flatMap ConnEvent.acceptedBytes
def wrote (log : List ConnEvent) : Bytes := log.flatMap ConnEvent.wroteBytes
def delivered (log : List ConnEvent) : Bytes := log.flatMap ConnEvent.deliveredBytes
def read (log : List ConnEvent) : Bytes := log.flatMap ConnEvent.readBytes
def payload (log : List ConnEvent) : Bytes := log.flatMap ConnEvent.payloadBytes
def synAcks (log : List ConnEvent) : List UInt32 := log.filterMap ConnEvent.synAck?
def sentAcks (log : List ConnEvent) : List UInt32 := log.filterMap ConnEvent.sentAck?

/-- The acknowledgement and window fields of the most recent segment received. -/
def lastRx (log : List ConnEvent) : Option (UInt32 × UInt32) := log.foldl ConnEvent.latestRx none

@[simp] theorem accepted_append (a b : List ConnEvent) : accepted (a ++ b) = accepted a ++ accepted b :=
  List.flatMap_append
@[simp] theorem wrote_append (a b : List ConnEvent) : wrote (a ++ b) = wrote a ++ wrote b :=
  List.flatMap_append
@[simp] theorem delivered_append (a b : List ConnEvent) : delivered (a ++ b) = delivered a ++ delivered b :=
  List.flatMap_append
@[simp] theorem read_append (a b : List ConnEvent) : read (a ++ b) = read a ++ read b :=
  List.flatMap_append
@[simp] theorem payload_append (a b : List ConnEvent) : payload (a ++ b) = payload a ++ payload b :=
  List.flatMap_append
@[simp] theorem synAcks_append (a b : List ConnEvent) : synAcks (a ++ b) = synAcks a ++ synAcks b :=
  List.filterMap_append
@[simp] theorem accepted_cons (e : ConnEvent) (l : List ConnEvent) : accepted (e :: l) =
    e.acceptedBytes ++ accepted l := rfl
@[simp] theorem wrote_cons (e : ConnEvent) (l : List ConnEvent) : wrote (e :: l) = e.wroteBytes ++ wrote l := rfl
@[simp] theorem delivered_cons (e : ConnEvent) (l : List ConnEvent) : delivered (e :: l) =
    e.deliveredBytes ++ delivered l := rfl
@[simp] theorem read_cons (e : ConnEvent) (l : List ConnEvent) : read (e :: l) = e.readBytes ++ read l := rfl
@[simp] theorem payload_cons (e : ConnEvent) (l : List ConnEvent) : payload (e :: l) = e.payloadBytes ++ payload l :=
  rfl
@[simp] theorem synAcks_cons (e : ConnEvent) (l : List ConnEvent) : synAcks (e :: l) =
    e.synAck?.toList ++ synAcks l := by
  cases e <;> rfl
@[simp] theorem accepted_nil : accepted [] = [] := rfl
@[simp] theorem wrote_nil : wrote [] = [] := rfl
@[simp] theorem delivered_nil : delivered [] = [] := rfl
@[simp] theorem read_nil : read [] = [] := rfl
@[simp] theorem payload_nil : payload [] = [] := rfl
@[simp] theorem synAcks_nil : synAcks [] = [] := rfl
@[simp] theorem lastRx_nil : lastRx [] = none := rfl
@[simp] theorem lastRx_append (a b : List ConnEvent) : lastRx (a ++ b) = b.foldl ConnEvent.latestRx (lastRx a) :=
  List.foldl_append

end ConnLog

open ConnLog ConnEvent

/-- Sequence and acknowledgement numbers of a segment, from what happened before it: zero before
the connection is open, when nothing is written, then one more than the bytes sent and the bytes
delivered. -/
def SegmentNumbered (before : List ConnEvent) : ConnEvent → Prop
  | .segment th data _ =>
    (synAcks before = [] → th.seq = 0 ∧ th.ack = 0 ∧ data = [] ∧ wrote before = []) ∧
    (synAcks before ≠ [] → th.seq = 1 + UInt32.ofNat (payload before).length ∧
      th.ack = 1 + UInt32.ofNat (wrote before).length)
  | _ => True

/-- A data segment fits the window last received, the out-buffer and the largest USB packet. -/
def SegmentFits (before : List ConnEvent) : ConnEvent → Prop
  | .segment th data _ =>
    data ≠ [] → ∃ ack win, lastRx before = some (ack, win) ∧
      (th.seq - ack).toNat + data.length ≤ win.toNat ∧
      data.length ≤ connOutbufSize.toNat ∧ 16 + 20 + data.length ≤ usbMtu
  | _ => True

/-- After a data segment that could not be sent, nothing but a reset follows. -/
def OnlyRst (after : List ConnEvent) : Prop :=
  ∀ th data res, segment th data res ∈ after → data = [] ∧ th.flags = thRst

/-- Failed data segments end the conversation. -/
def FailuresFinal (log : List ConnEvent) : Prop :=
  ∀ before th data res after, log = before ++ segment th data res :: after → data ≠ [] → res < 0 → OnlyRst after

/-- Every data segment has been handed over. -/
def Unfailed (log : List ConnEvent) : Prop :=
  ∀ th data res, segment th data res ∈ log → data ≠ [] → 0 ≤ res

/-- The flushes of a teardown: successive non-empty pieces from the front of the buffer. -/
inductive Flushes : Bytes → List ConnEvent → Prop
  | nil (buffer : Bytes) : Flushes buffer []
  | cons {buffer : Bytes} {size : ℕ} {rest : List ConnEvent} (positive : 0 < size) (bound : size ≤ buffer.length)
      (later : Flushes (buffer.drop size) rest) : Flushes buffer (flushed (buffer.take size) :: rest)

/-- What a teardown appends to the log: at most one reset, then flushes. -/
inductive TearLog (m : MuxConnection) : List ConnEvent → Prop
  | silent {flushes : List ConnEvent} (flush : Flushes m.ibBuf flushes) : TearLog m flushes
  | reset {flushes : List ConnEvent} (res : ℤ) (flush : Flushes m.ibBuf flushes) :
      TearLog m (segment (m.header thRst) [] res :: flushes)

/-- A connection as seen from outside: its record while allocated, and its log. -/
abbrev ConnView := Option MuxConnection × List ConnEvent

/-- The elementary changes of one connection. It only takes payload that it `hears`. -/
inductive ConnStep (hears : Bytes → Prop) : ConnView → ConnView → Prop
  | create (d : DevPtr) (k : ClientPtr) (sport dport : UInt16) :
      ConnStep hears (none, []) (some (newConnection d k sport dport), [])
  | receive (m : MuxConnection) (log : List ConnEvent) (th : TcpHdr) :
      ConnStep hears (some m, log) (some (m.receive th), log ++ [rx (m.receive th).rxAck (m.receive th).rxWin])
  | opened (m : MuxConnection) (log : List ConnEvent) (first : synAcks log = []) :
      ConnStep hears (some m, log) (some m.opened, log ++ [synAck m.rxSeq])
  | mark (m : MuxConnection) (log : List ConnEvent) (state : ConnState) :
      ConnStep hears (some m, log) (some { m with state := state }, log)
  | forget (m : MuxConnection) (log : List ConnEvent) :
      ConnStep hears (some m, log) (some { m with client := none }, log)
  | segmentSent (m : MuxConnection) (log : List ConnEvent) (flags : UInt8) (res : ℤ) (now : UInt64)
      (sent : 0 ≤ res) :
      ConnStep hears (some m, log) (some (m.acked now), log ++ [segment (m.header flags) [] res])
  | segmentFailed (m : MuxConnection) (log : List ConnEvent) (flags : UInt8) (res : ℤ) (lost : res < 0) :
      ConnStep hears (some m, log) (some m, log ++ [segment (m.header flags) [] res])
  | accept (m : MuxConnection) (log : List ConnEvent) (payload : Bytes) (isOpen : synAcks log ≠ [])
      (given : hears payload) :
      ConnStep hears (some m, log) (some (m.accept payload), log ++ [accepted payload])
  | refresh (m : MuxConnection) (log : List ConnEvent) : ConnStep hears (some m, log) (some m.refresh, log)
  | drain (m : MuxConnection) (log : List ConnEvent) (size : ℕ) (bound : size ≤ m.ibBuf.length) :
      ConnStep hears (some m, log)
        (some { m.shift size with txAck := m.txAck + UInt32.ofNat size }, log ++ [wrote (m.ibBuf.take size)])
  | data (m : MuxConnection) (log : List ConnEvent) (bytes : Bytes) (res : ℤ) (now : UInt64)
      (isOpen : synAcks log ≠ []) (sent : 0 ≤ res) (fresh : m.sendable = m.sendableNow)
      (room : bytes.length ≤ m.sendable.toNat) :
      ConnStep hears (some m, log)
        (some { m.acked now with txSeq := m.txSeq + UInt32.ofNat bytes.length },
          log ++ [read bytes, segment (m.header thAck) bytes res])
  | dataFailed (m : MuxConnection) (log tail : List ConnEvent) (bytes : Bytes) (res : ℤ)
      (isOpen : synAcks log ≠ []) (lost : res < 0) (fresh : m.sendable = m.sendableNow)
      (room : bytes.length ≤ m.sendable.toNat) (tear : TearLog m tail) :
      ConnStep hears (some m, log) (none, log ++ [read bytes, segment (m.header thAck) bytes res] ++ tail)
  | tear (m : MuxConnection) (log tail : List ConnEvent) (tear : TearLog m tail) :
      ConnStep hears (some m, log) (none, log ++ tail)

/-- Any number of elementary changes. -/
abbrev ConnRun (hears : Bytes → Prop) : ConnView → ConnView → Prop := Relation.ReflTransGen (ConnStep hears)

end Usbmuxd
