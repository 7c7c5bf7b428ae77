import Mathlib.Logic.Function.Basic
import Usbmuxd.Model.Environment

/-! # Client records

`Clients` holds the statics of `client.c` and the records they point to, with the same conventions
as the device side: `free` empties the heap entry, and the log of a client lists what was queued
for it, what left through its socket and how its connection requests ended.
-/

namespace Usbmuxd

/-- `enum client_state`. -/
inductive ClientState where
  | command
  | listen
  | connecting1
  | connecting2
  | connected
  | dead
deriving DecidableEq, Repr, Inhabited

/-- `enum usbmuxd_msgtype`, outgoing types. -/
inductive MsgType where
  | result
  | deviceAdd
  | deviceRemove
  | devicePaired
  | plist
deriving DecidableEq, Repr

def MsgType.code : MsgType → UInt32
  | result => 1
  | deviceAdd => 4
  | deviceRemove => 5
  | devicePaired => 6
  | plist => 8

/-- `struct mux_client`. The list `obBuf` is `ob_buf[0 .. ob_size)`, absent once freed; `ibBuf` is
the whole command buffer, with whatever earlier frames left beyond `ib_size`. -/
structure MuxClient where
  fd : ℤ
  obBuf : Option Bytes
  obSize : UInt32
  obCapacity : UInt32
  ibBuf : Option Bytes
  ibSize : UInt32
  ibCapacity : UInt32
  events : PollMask
  devents : PollMask
  connectTag : UInt32
  connectDevice : ℕ
  state : ClientState
  protoVersion : UInt32
  number : UInt32
  info : Option Plist

/-- What an observer of one client sees. -/
inductive ClientEvent where
  /-- A message appended to the output buffer. -/
  | queued (tag : UInt32) (msg : MsgType) (payload : Bytes)
  /-- The message just queued is the `Result` of `send_result`. -/
  | result (tag number : UInt32)
  /-- Bytes of the output buffer taken by the socket. -/
  | sent (bytes : Bytes)
  /-- Tunnel bytes taken by the socket. -/
  | tunnelled (bytes : Bytes)
  /-- A connection request was accepted by `device_start_connect`. -/
  | connecting (c : ConnPtr) (tag : UInt32)
  | closed
deriving DecidableEq, Repr

/-- Uses of memory that C leaves undefined. -/
inductive ClientFault where
  | releasedClient (k : ClientPtr)
  | nullBuffer (k : ClientPtr)
  | nullClient
  /-- A message written past the end of the output buffer. -/
  | overrun (k : ClientPtr)
deriving DecidableEq, Repr

/-- The statics of `client.c`, the heap behind them and the logs. -/
structure Clients where
  tick : ℕ
  clientList : List ClientPtr
  client : ClientPtr → Option MuxClient
  nextClient : ClientPtr
  clientNumber : UInt32
  log : ClientPtr → List ClientEvent
  faults : List ClientFault

namespace Clients

/-- State after `client_init`. -/
def initial : Clients where
  tick := 0
  clientList := []
  client := fun _ => none
  nextClient := 0
  clientNumber := 0
  log := fun _ => []
  faults := []

def bump (s : Clients) : Clients := { s with tick := s.tick + 1 }

def setClient (s : Clients) (k : ClientPtr) (client : MuxClient) : Clients :=
  { s with client := Function.update s.client k (some client) }

def logClient (s : Clients) (k : ClientPtr) (event : ClientEvent) : Clients :=
  { s with log := Function.update s.log k (s.log k ++ [event]) }

def fault (s : Clients) (fault : ClientFault) : Clients :=
  { s with faults := s.faults ++ [fault] }

/-- Update the fields of a client; a released one is a fault and nothing is stored. -/
def modify (s : Clients) (k : ClientPtr) (f : MuxClient → MuxClient) : Clients :=
  match s.client k with
  | none => s.fault (.releasedClient k)
  | some client => s.setClient k (f client)

/-- `collection_remove` and `free`. -/
def release (s : Clients) (k : ClientPtr) : Clients :=
  { s.logClient k .closed with
    clientList := s.clientList.erase k
    client := Function.update s.client k none }

end Clients

end Usbmuxd
