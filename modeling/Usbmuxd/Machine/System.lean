import Usbmuxd.Machine.ClientInvariant
import Usbmuxd.Machine.ConnectionInvariant
import Usbmuxd.Machine.Wire
import Usbmuxd.Model.Daemon

/-! # The daemon as a system of parties

The abstract system: devices, connections and clients, each a record with its log, and the steps in
which they act alone or together. A step keeps the parties consistent with each other; the
functions of the daemon are sequences of steps. Ticks, transfer queues and worker lists are
forgotten by the projection `Daemon.sys`.

Steps carry two parameters. `lax` admits what happens when an allocation fails, when a client
connects to a device that has not completed its handshake or sends a command in the wrong state,
and when a device sends more than it may. `served` is the client whose socket is being served; only
its command buffer and its state move on their own.
-/

namespace Usbmuxd

open Collection

/-- What a run admits: requests for devices in their handshake, allocations that fail, payload that
reaches a connection, messages that are queued and those among them that are results, descriptors of
new clients, changes of command buffers, payload beyond the buffer of a connection, commands in the
wrong state, clients that start to listen or are closed with the daemon, and devices that appear,
answer or leave. -/
structure Laxity where
  early : Prop
  poor : Prop
  hears : ConnPtr → Bytes → Prop := fun _ _ => True
  tells : MsgType → Bytes → Prop := fun _ _ => True
  answers : UInt32 → MsgType → Bytes → Prop := fun _ _ _ => True
  accepts : ℤ → Prop := fun _ => True
  reads : Prop := True
  rash : Prop := True
  rude : Prop := True
  ends : Prop := True
  listens : Prop := True
  arrives : Prop := True
  travels : Prop := True

/-- The same demands on events, and no others. -/
def Laxity.freely (lax : Laxity) : Laxity where
  early := lax.early
  poor := lax.poor
  rash := lax.rash
  rude := lax.rude

/-- The parties and what connects them. -/
structure Sys where
  deviceList : List DevPtr
  dev : DevPtr → DevView
  nextDev : DevPtr
  nextDeviceId : ℕ
  conn : ConnPtr → ConnView
  nextConn : ConnPtr
  clientList : List ClientPtr
  client : ClientPtr → ClientView
  nextClient : ClientPtr
  faults : List MuxFault
  harm : List ClientFault
  phase : Phase

/-- The faults of `client.c` the system keeps track of: uses of a released record, and messages
written past the end of a buffer. -/
def ClientFault.serious : ClientFault → Bool
  | releasedClient _ | overrun _ => true
  | _ => false

def Clients.harm (s : Clients) : List ClientFault := s.faults.filter ClientFault.serious

/-- The rules for one client in a run. -/
def Laxity.rules (lax : Laxity) (served : Option ClientPtr) (harm : List ClientFault) (k : ClientPtr) : ClientRules :=
  ⟨served = some k, lax.tells, lax.answers, lax.reads, lax.listens, .overrun k ∈ harm⟩

/-- The system behind a state of the daemon. -/
def Daemon.sys (s : Daemon) : Sys where
  deviceList := s.mux.deviceList
  dev d := (s.mux.dev d, s.mux.devLog d)
  nextDev := s.mux.nextDev
  nextDeviceId := s.mux.nextDeviceId
  conn c := (s.mux.conn c, s.mux.connLog c)
  nextConn := s.mux.nextConn
  clientList := s.clients.clientList
  client k := (s.clients.client k, s.clients.log k)
  nextClient := s.clients.nextClient
  faults := s.mux.faults
  harm := s.clients.harm
  phase := s.phase

namespace Sys

def setDev (S : Sys) (d : DevPtr) (view : DevView) : Sys := { S with dev := Function.update S.dev d view }

def setConn (S : Sys) (c : ConnPtr) (view : ConnView) : Sys := { S with conn := Function.update S.conn c view }

def setClient (S : Sys) (k : ClientPtr) (view : ClientView) : Sys :=
  { S with client := Function.update S.client k view }

/-- A client gets a new record, its log grows, and memory may have come to harm. -/
def post (S : Sys) (k : ClientPtr) (view : ClientView) (harm : List ClientFault) : Sys :=
  { S.setClient k view with harm := harm }

/-- A device of the list has a connection in its collection. -/
def Holds (S : Sys) (d : DevPtr) (c : ConnPtr) : Prop := d ∈ S.deviceList ∧ c ∈ (S.dev d).1.connections

/-- The client field of a connection. -/
def clientOf (S : Sys) (c : ConnPtr) : Option ClientPtr := (S.conn c).1.bind (·.client)

/-- A connection leaves the collection of a device. -/
def unhold (S : Sys) (d : DevPtr) (c : ConnPtr) : Sys :=
  S.setDev d ({ (S.dev d).1 with connections := (S.dev d).1.connections.erase c }, (S.dev d).2)

/-- A client is released with this log. -/
def release (S : Sys) (k : ClientPtr) (log : List ClientEvent) : Sys :=
  { S.setClient k (none, log) with clientList := S.clientList.erase k }

/-- Only messages that leave their buffer do harm. -/
structure Hurt (S : Sys) (harm : List ClientFault) : Prop where
  grown : S.harm <+: harm
  mild : ∀ k, .releasedClient k ∈ harm → .releasedClient k ∈ S.harm

theorem Hurt.refl (S : Sys) : S.Hurt S.harm := ⟨List.prefix_refl _, fun _ member => member⟩

end Sys

/-- The device accepted the connection and the acknowledgement was handed to USB. -/
def Established (log : List ConnEvent) : Prop :=
  ∃ before seq th res after, log = before ++ .synAck seq :: .segment th [] res :: after ∧ th.flags = thAck ∧ 0 ≤ res

namespace Established

variable {log log' : List ConnEvent}

theorem mono (shown : Established log) (grown : log <+: log') : Established log' := by
  obtain ⟨before, seq, th, res, after, rfl, acknowledged⟩ := shown
  obtain ⟨more, rfl⟩ := grown
  exact ⟨before, seq, th, res, after ++ more, by simp, acknowledged⟩

theorem isOpen (shown : Established log) : ConnLog.synAcks log ≠ [] := by
  obtain ⟨before, seq, th, res, after, rfl, _⟩ := shown
  simp

end Established

/-- Between steps a connection waits for its `SYN|ACK`, or it is open and its masks and its allowance
are current. -/
def Settled : ConnView → Prop
  | (some m, log) => m.state = .connecting ∧ ConnLog.synAcks log = [] ∨
      m.state = .connected ∧ Established log ∧ m.refresh = m
  | (none, _) => True

/-- The fault a run may have although every client asks for devices that are ready. -/
def MuxFault.harmless : MuxFault → Bool
  | releasedConnection _ => true
  | _ => false

/-- A connection is used after its release when the device sends too much or its client cannot be
told; a collection is misused when a client is early. -/
def Laxity.Admits (lax : Laxity) : MuxFault → Prop
  | .releasedConnection _ => lax.rash ∨ lax.poor
  | .uninitialisedSequence _ => False
  | _ => lax.early

/-- The steps of the system. -/
inductive SysStep (lax : Laxity) (served : Option ClientPtr) : Sys → Sys → Prop
  /-- Clients are sent messages, are read from, listen, or drain their queue. -/
  | clients (S : Sys) (views : ClientPtr → ClientView) (harm : List ClientFault) (hurt : S.Hurt harm)
      (move : ∀ k, ClientMove (lax.rules served harm k) (S.client k) (views k)) :
      SysStep lax served S { S with client := views, harm := harm }
  /-- A client that was closed for a command in the wrong state is used once more. -/
  | stray (S : Sys) (k : ClientPtr) (free : lax.rude) :
      SysStep lax served S { S with harm := S.harm ++ [.releasedClient k] }
  | accept (S : Sys) (fd : ℤ) (number : UInt32) (slot : ℕ) (free : lax.accepts fd) :
      SysStep lax served S
        { S.setClient S.nextClient (some (newClient fd number), (S.client S.nextClient).2) with
          nextClient := S.nextClient + 1, clientList := add slot S.nextClient S.clientList }
  /-- A client without a connection is closed. -/
  | close (S : Sys) (k : ClientPtr) {client : MuxClient} {log events : List ClientEvent} (harm : List ClientFault)
      (hurt : S.Hurt harm) (cause : served = some k ∨ lax.ends) (present : S.client k = (some client, log))
      (free : ∀ d c, S.Holds d c → S.clientOf c ≠ some k) (farewell :
        Farewell (lax.rules served harm k) client events) :
      SysStep lax served S { S.release k (log ++ events ++ [.closed]) with harm := harm }
  /-- A device moves on its own. -/
  | wire (S : Sys) (d : DevPtr) {view : DevView} (listed : d ∈ S.deviceList)
      (change : WireStep lax.early lax.travels (S.dev d) view) :
      SysStep lax served S (S.setDev d view)
  /-- A connection carries data and its client learns the new masks. -/
  | conn (S : Sys) (c : ConnPtr) (k : ClientPtr) {m m' : MuxConnection} {log log' : List ConnEvent} {client : MuxClient}
      {clientLog : List ClientEvent} (holds : S.Holds m.dev c) (present : S.conn c = (some m, log))
      (owner : m.client = some k) (calling : S.client k = (some client, clientLog))
      (run : ConnRun (lax.hears c) (some m, log) (some m', log')) (settled : Settled (some m', log'))
      (dev : m'.dev = m.dev) (owned : m'.client = m.client) (state : m'.state = m.state) :
      SysStep lax served S
        ((S.setConn c (some m', log')).setClient k (some (client.masked m'.events), clientLog))
  /-- A request is accepted: the record exists and `SYN` is on its way. -/
  | connect (S : Sys) (d : DevPtr) (k : ClientPtr) {m : MuxConnection} {log : List ConnEvent} {client : MuxClient}
      {clientLog : List ClientEvent} (tag : UInt32) (slot : ℕ) (listed : d ∈ S.deviceList)
      (ready : (S.dev d).1.state = .active ∨ lax.early) (own : served = some k)
      (present : S.client k = (some client, clientLog)) (idle : client.state = .command)
      (run : ConnRun (lax.hears S.nextConn) (none, []) (some m, log)) (dev : m.dev = d) (owner : m.client = some k)
      (waiting : m.state = .connecting) (settled : Settled (some m, log)) (dialled : log ≠ []) (port : m.sport ≠ 0)
      (unused : ∀ c ∈ (S.dev d).1.connections, ∀ m', (S.conn c).1 = some m' → m'.sport ≠ m.sport) :
      SysStep lax served S
        { ((S.setConn S.nextConn (some m, log)).setDev d
            ({ (S.dev d).1 with connections := add slot S.nextConn (S.dev d).1.connections }, (S.dev d).2)).setClient k
            (some { client with connectTag := tag, connectDevice := (S.dev d).1.id, state := .connecting1 },
              clientLog ++ [.connecting S.nextConn tag]) with nextConn := S.nextConn + 1 }
  /-- `SYN` could not be sent and the record is gone at once. -/
  | unreachable (S : Sys) {log : List ConnEvent} (run : ConnRun (lax.hears S.nextConn) (none, []) (none, log)) :
      SysStep lax served S { S.setConn S.nextConn (none, log) with nextConn := S.nextConn + 1 }
  /-- The device accepts the connection and the client is told so. -/
  | established (S : Sys) (c : ConnPtr) (k : ClientPtr) {m m' : MuxConnection} {log log' : List ConnEvent}
      {client : MuxClient} {clientLog : List ClientEvent} (holds : S.Holds m.dev c)
      (present : S.conn c = (some m, log)) (owner : m.client = some k) (waiting : m.state = .connecting)
      (run : ConnRun (lax.hears c) (some m, log) (some m', log')) (settled : Settled (some m', log'))
        (dev : m'.dev = m.dev)
      (owned : m'.client = m.client) (state : m'.state = .connected) (active : (S.dev m.dev).1.state = .active)
      (shown : Established log')
      (calling : S.client k = (some client, clientLog)) (pending : client.state = .connecting1)
        {harm : List ClientFault}
      (hurt : S.Hurt harm) {capacity : UInt32} {msg : MsgType} {payload : Bytes}
      (posts : Posts (lax.rules served harm k) client capacity msg payload)
        (answers : lax.answers resultOk msg payload) :
      SysStep lax served S ((S.setConn c (some m', log')).post k
        (some { client.grown capacity client.connectTag msg payload with
            state := .connecting2, events := ⟨false, true⟩, devents := m'.events, ibBuf := none },
          clientLog ++ [.queued client.connectTag msg payload, .result client.connectTag resultOk]) harm)
  /-- A connection attempt ends and the client is told so. -/
  | refused (S : Sys) (c : ConnPtr) (k : ClientPtr) {m : MuxConnection} {log log' : List ConnEvent}
      {client : MuxClient} {clientLog : List ClientEvent} (holds : S.Holds m.dev c)
      (present : S.conn c = (some m, log)) (owner : m.client = some k)
      (run : ConnRun (lax.hears c) (some m, log) (none, log')) (unseen : ¬Established log')
      (calling : S.client k = (some client, clientLog)) (pending : client.state = .connecting1)
      (foreign : served ≠ some k) {harm : List ClientFault} (hurt : S.Hurt harm) {capacity : UInt32} {msg : MsgType}
      {payload : Bytes} (posts : Posts (lax.rules served harm k) client capacity msg payload)
      (answers : lax.answers resultConnRefused msg payload) :
      SysStep lax served S
        (((S.setConn c (none, log')).unhold m.dev c).post k
          (some { client.grown capacity client.connectTag msg payload with state := .command },
            clientLog ++ [.queued client.connectTag msg payload, .result client.connectTag resultConnRefused]) harm)
  /-- A connection ends and its client could not be told. -/
  | orphaned (S : Sys) (c : ConnPtr) {m : MuxConnection} {log log' : List ConnEvent} (holds : S.Holds m.dev c)
      (present : S.conn c = (some m, log)) (run : ConnRun (lax.hears c) (some m, log) (none, log')) (free : lax.poor) :
      SysStep lax served S ((S.setConn c (none, log')).unhold m.dev c)
  /-- A connection and its client end together. -/
  | dropped (S : Sys) (c : ConnPtr) (k : ClientPtr) {m : MuxConnection} {log log' : List ConnEvent}
      {client : MuxClient} {clientLog events : List ClientEvent} (harm : List ClientFault) (hurt : S.Hurt harm)
      (holds : S.Holds m.dev c) (present : S.conn c = (some m, log)) (owner : m.client = some k)
      (run : ConnRun (lax.hears c) (some m, log) (none, log')) (calling : S.client k = (some client, clientLog))
      (farewell : Farewell (lax.rules served harm k) client events) :
      SysStep lax served S
        { ((S.setConn c (none, log')).unhold m.dev c).release k (clientLog ++ events ++ [.closed]) with harm := harm }
  /-- A device appears and is asked for its version; without an answer to the request it is forgotten. -/
  | arrived (S : Sys) (u : UsbPtr) {event : WireEvent} (slot : Option ℕ) (free : lax.arrives)
      (alive : S.phase = .running ∨ S.phase = .draining)
      (handed : Handed event ((newDevice u S.nextDeviceId).packet .version versionRequest [])) :
      SysStep lax served S
        { S.setDev S.nextDev (newDevice u S.nextDeviceId, (S.dev S.nextDev).2 ++ [event]) with
          nextDev := S.nextDev + 1, nextDeviceId := S.nextDeviceId + 1,
          deviceList := (slot.map fun n => add n S.nextDev S.deviceList).getD S.deviceList }
  | greeted (S : Sys) (d : DevPtr) (major : UInt32) {events : List WireEvent} (free : lax.travels)
      (listed : d ∈ S.deviceList)
      (waiting : (S.dev d).1.state = .init) (unused : (S.dev d).1.connections = [] ∨ lax.early)
      (answer : major = 1 ∧ events = [] ∨ major = 2 ∧ ∃ event, events = [event] ∧
        Handed event (({ (S.dev d).1 with version := 2 } : MuxDevice).packet .setup [] [7])) :
      SysStep lax served S (S.setDev d ((S.dev d).1.greeted major, (S.dev d).2 ++ .version major :: events))
  | retired (S : Sys) (d : DevPtr) (free : lax.travels) (listed : d ∈ S.deviceList)
      (active : (S.dev d).1.state = .active) :
      SysStep lax served S (S.setDev d ({ (S.dev d).1 with state := .dead }, (S.dev d).2 ++ [.dead]))
  | departed (S : Sys) (d : DevPtr) (free : lax.travels)
      (empty : (S.dev d).1.connections = [] ∨ lax.early ∧ (S.dev d).1.state = .init) :
      SysStep lax served S { S with deviceList := S.deviceList.erase d }
  | fault (S : Sys) (fault : MuxFault) (free : lax.Admits fault) :
      SysStep lax served S { S with faults := S.faults ++ [fault] }
  | proceed (S : Sys) (phase : Phase) (forward : phase ≠ .running)
      (empty : phase = .closing ∨ phase = .stopped → S.deviceList = []) :
      SysStep lax served S { S with phase := phase }

/-- Any number of steps. -/
abbrev SysRun (lax : Laxity) (served : Option ClientPtr) : Sys → Sys → Prop :=
  Relation.ReflTransGen (SysStep lax served)

end Usbmuxd
