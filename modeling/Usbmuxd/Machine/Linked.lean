import Usbmuxd.Machine.System
import Usbmuxd.ToMathlib.Update

/-! # Consistency of the parties

Every connection in a collection belongs to that device and to a live client in the matching
state, and no two of them share a client. This direction of the pairing holds in every run,
whatever allocations or handshakes do.
-/

namespace Usbmuxd

open Collection

/-- The states a connection and its client are in together. Refused, dying and dead connections
only exist within a step. -/
def ConnState.fits : ConnState → ClientState → Bool
  | connecting, .connecting1 | refused, .connecting1 => true
  | connected, .connecting2 | connected, .connected => true
  | dying, .connecting2 | dying, .connected => true
  | dead, .connecting2 | dead, .connected => true
  | _, _ => false

theorem ConnState.fits_connecting {client : ClientState} (fits : connecting.fits client) : client = .connecting1 := by
  cases client <;> simp [ConnState.fits] at fits ⊢

theorem ConnState.fits_connected {client : ClientState} (fits : connected.fits client) :
    client = .connecting2 ∨ client = .connected := by
  cases client <;> simp [ConnState.fits] at fits ⊢

/-- A connection and its client go together: their states match, and once the connection is open the
client knows its masks. -/
structure MuxConnection.Fits (m : MuxConnection) (client : MuxClient) : Prop where
  state : m.state.fits client.state
  masks : m.state = .connected → client.devents = m.events

/-- The device list and the fresh device pointers and ids. -/
structure Registry (S : Sys) : Prop where
  nodup : S.deviceList.Nodup
  known : ∀ d ∈ S.deviceList, d < S.nextDev
  numbered : ∀ d ∈ S.deviceList, (S.dev d).1.id < S.nextDeviceId
  ids : ∀ d ∈ S.deviceList, ∀ d' ∈ S.deviceList, (S.dev d).1.id = (S.dev d').1.id → d = d'
  fresh : ∀ d, S.nextDev ≤ d → S.dev d = (default, [])
  ended : S.phase = .closing ∨ S.phase = .stopped → S.deviceList = []

/-- The client list and the client records. -/
structure Roster (S : Sys) : Prop where
  nodup : S.clientList.Nodup
  listed : ∀ k, k ∈ S.clientList ↔ (S.client k).1.isSome
  fresh : ∀ k, S.nextClient ≤ k → S.client k = (none, [])
  output : ∀ k client, (S.client k).1 = some client → client.state ≠ .connected → client.obBuf.isSome

/-- The connections in the collections, seen with their devices and clients. -/
structure Links (S : Sys) : Prop where
  once : ∀ d ∈ S.deviceList, (S.dev d).1.connections.Nodup
  held : ∀ d c, S.Holds d c → ∃ m k client, (S.conn c).1 = some m ∧ m.dev = d ∧ m.client = some k ∧
    (S.client k).1 = some client ∧ client.connectDevice = (S.dev d).1.id ∧ m.Fits client
  unique : ∀ d c d' c', S.Holds d c → S.Holds d' c' → S.clientOf c = S.clientOf c' → c = c'
  fresh : ∀ c, S.nextConn ≤ c → S.conn c = (none, [])

structure Linked (S : Sys) : Prop where
  registry : Registry S
  roster : Roster S
  links : Links S

/-- A client that goes on still fits its connection. -/
theorem ClientKept.fits {rules : ClientRules} {client client' : MuxClient} {events : List ClientEvent}
    {m : MuxConnection}
    (same : ClientKept rules client client' events) (fits : m.Fits client) : m.Fits client' := by
  obtain ⟨states, masks⟩ := fits
  refine ⟨?_, by rw [same.devents]; exact masks⟩
  rcases same.state with same | ⟨_, ⟨idle, _⟩ | ⟨before, after⟩⟩
  · rwa [same]
  · cases state : m.state <;> simp [ConnState.fits, idle, state] at states
  · rw [before] at states
    rw [after]
    cases state : m.state <;> simp_all [ConnState.fits]

namespace MuxClient

variable (client : MuxClient) (events : PollMask)

private theorem masked_eq : client.masked events =
    { client with events := (client.masked events).events, devents := (client.masked events).devents } := by
  simp only [masked]
  split
  · rfl
  · split <;> rfl

@[simp] theorem masked_state : (client.masked events).state = client.state := by rw [masked_eq]

@[simp] theorem masked_connectDevice : (client.masked events).connectDevice = client.connectDevice := by rw [masked_eq]

@[simp] theorem masked_connectTag : (client.masked events).connectTag = client.connectTag := by rw [masked_eq]

@[simp] theorem masked_obBuf : (client.masked events).obBuf = client.obBuf := by rw [masked_eq]

@[simp] theorem masked_ibBuf : (client.masked events).ibBuf = client.ibBuf := by rw [masked_eq]

@[simp] theorem masked_ibSize : (client.masked events).ibSize = client.ibSize := by rw [masked_eq]

@[simp] theorem masked_fd : (client.masked events).fd = client.fd := by rw [masked_eq]

@[simp] theorem masked_ibCapacity : (client.masked events).ibCapacity = client.ibCapacity := by rw [masked_eq]

/-- A client of an open connection takes the masks over. -/
theorem masked_devents (engaged : client.state = .connecting2 ∨ client.state = .connected) :
    (client.masked events).devents = events := by
  rcases engaged with state | state <;> simp [masked, state]

end MuxClient

namespace MuxDevice

variable (dev : MuxDevice)

private theorem advance_eq : dev.advance = { dev with txSeq := dev.advance.txSeq } := by
  simp only [advance]
  split <;> rfl

@[simp] theorem advance_id : dev.advance.id = dev.id := by rw [advance_eq]

@[simp] theorem advance_connections : dev.advance.connections = dev.connections := by rw [advance_eq]

@[simp] theorem advance_state : dev.advance.state = dev.state := by rw [advance_eq]

@[simp] theorem advance_pktlen : dev.advance.pktlen = dev.pktlen := by rw [advance_eq]

@[simp] theorem advance_usbdev : dev.advance.usbdev = dev.usbdev := by rw [advance_eq]

@[simp] theorem restart_id (proto : MuxProtocol) : (dev.restart proto).id = dev.id := by
  simp only [restart]
  split <;> rfl

@[simp] theorem restart_connections (proto : MuxProtocol) : (dev.restart proto).connections = dev.connections := by
  simp only [restart]
  split <;> rfl

@[simp] theorem greeted_id (major : UInt32) : (dev.greeted major).id = dev.id := by simp [greeted]

end MuxDevice

/-- What tells devices apart, and the state they are in. -/
structure MuxDevice.SameIdentity (dev dev' : MuxDevice) : Prop where
  id : dev'.id = dev.id
  usbdev : dev'.usbdev = dev.usbdev
  state : dev'.state = dev.state

theorem MuxDevice.SameIdentity.refl (dev : MuxDevice) : dev.SameIdentity dev := ⟨rfl, rfl, rfl⟩

theorem MuxDevice.SameIdentity.trans {first second third : MuxDevice} (one : first.SameIdentity second)
    (two : second.SameIdentity third) : first.SameIdentity third :=
  ⟨two.id.trans one.id, two.usbdev.trans one.usbdev, two.state.trans one.state⟩

/-- A device that moves on its own keeps its identity, its state and its connections. -/
theorem WireStep.core {lax shows : Prop} {view view' : DevView} (change : WireStep lax shows view view') :
    view.1.SameIdentity view'.1 ∧ view'.1.connections = view.1.connections := by
  cases change with
  | bookkeep log same seen => exact ⟨⟨same.id, same.usbdev, same.state⟩, same.connections⟩
  | tcp dev log active handed => exact ⟨⟨by simp, by simp, by simp⟩, by simp⟩
  | received dev log buffer length =>
    simp only [MuxDevice.track]
    split <;> exact ⟨⟨rfl, rfl, rfl⟩, rfl⟩
  | control dev log payload => exact ⟨⟨rfl, rfl, rfl⟩, rfl⟩

section Static

variable {S : Sys}

/-- The record behind a held connection. -/
theorem Links.record (links : Links S) {d : DevPtr} {c : ConnPtr} {m : MuxConnection} {log : List ConnEvent}
    (holding : S.Holds d c) (present : S.conn c = (some m, log)) :
    m.dev = d ∧ ∃ k client, m.client = some k ∧ (S.client k).1 = some client ∧
      client.connectDevice = (S.dev d).1.id ∧ m.Fits client := by
  obtain ⟨m', k, client, record, dev, owner, known, device, fits⟩ := links.held d c holding
  obtain rfl : m' = m := by simpa [present] using record.symm
  exact ⟨dev, k, client, owner, known, device, fits⟩

/-- Two held connections with one client are one. -/
theorem Links.same_client (links : Links S) {d d' : DevPtr} {c c' : ConnPtr} {m m' : MuxConnection} {k : ClientPtr}
    (holding : S.Holds d c) (holding' : S.Holds d' c') (record : (S.conn c).1 = some m)
    (record' : (S.conn c').1 = some m') (owner : m.client = some k) (owner' : m'.client = some k) : c = c' :=
  links.unique d c d' c' holding holding' (by simp [Sys.clientOf, record, record', owner, owner'])

/-- Records that are in use come from the heap. -/
theorem Links.allocated (links : Links S) {c : ConnPtr} {m : MuxConnection} {log : List ConnEvent}
    (present : S.conn c = (some m, log)) : c < S.nextConn := by
  by_contra late
  simp [links.fresh c (Nat.not_lt.mp late)] at present

private theorem Sys.holds_of_unhold {d d' : DevPtr} {c c' : ConnPtr} (once : (S.dev d).1.connections.Nodup)
    (holding : (S.unhold d c).Holds d' c') : S.Holds d' c' ∧ (d' = d → c' ≠ c) := by
  obtain ⟨listed, member⟩ := holding
  by_cases same : d' = d
  · subst same
    have member : c' ∈ (S.dev d').1.connections.erase c := by simpa [Sys.unhold, Sys.setDev] using member
    obtain ⟨different, old⟩ := once.mem_erase_iff.mp member
    exact ⟨⟨listed, old⟩, fun _ => different⟩
  · exact ⟨⟨listed, by simpa [Sys.unhold, Sys.setDev, same] using member⟩, fun equal => absurd equal same⟩

/-- Held connections after one of them is removed. -/
theorem Links.holds_unhold (links : Links S) {c : ConnPtr} {m : MuxConnection} {log : List ConnEvent}
    (holding : S.Holds m.dev c) (present : S.conn c = (some m, log)) {d' : DevPtr} {c' : ConnPtr}
    (holding' : (S.unhold m.dev c).Holds d' c') : S.Holds d' c' ∧ c' ≠ c := by
  obtain ⟨old, different⟩ := Sys.holds_of_unhold (links.once _ holding.1) holding'
  refine ⟨old, ?_⟩
  rintro rfl
  exact different (links.record old present).1.symm rfl

/-- Only a client that asked for a connection has one. -/
theorem Links.idle_free (links : Links S) {k : ClientPtr} {client : MuxClient} {log : List ClientEvent}
    (present : S.client k = (some client, log)) (unasked : client.state ≠ .connecting1)
    (untold : client.state ≠ .connecting2) (unconnected : client.state ≠ .connected) :
    ∀ d c, S.Holds d c → S.clientOf c ≠ some k := by
  intro d c holding named
  obtain ⟨m, k', client', record, _, owner, known, _, fits⟩ := links.held d c holding
  obtain rfl : k' = k := by simpa [Sys.clientOf, record, owner] using named
  obtain rfl : client = client' := by simpa [present] using known
  have states := fits.state
  cases state : client.state <;> cases h : m.state <;> simp_all [ConnState.fits]

/-- Nobody holds a connection that is not allocated yet. -/
theorem Links.not_holds_next (links : Links S) (d : DevPtr) : ¬S.Holds d S.nextConn := by
  intro holding
  obtain ⟨m, _, _, record, _⟩ := links.held d _ holding
  simp [links.fresh _ (Nat.le_refl _)] at record

/-- A connection whose record keeps its device, client and state. -/
theorem Links.setConn (links : Links S) {c : ConnPtr} {m m' : MuxConnection} {log log' : List ConnEvent}
    (present : S.conn c = (some m, log)) (dev : m'.dev = m.dev) (owned : m'.client = m.client)
    (still : ∀ client, m.Fits client → m'.Fits client) : Links (S.setConn c (some m', log')) where
  once := links.once
  held d c' holding := by
    obtain ⟨r, k, client, record, dev', owner, known, device, fits⟩ := links.held d c' holding
    by_cases same : c' = c
    · subst same
      obtain rfl : m = r := by simpa [present] using record
      exact ⟨m', k, client, by simp [Sys.setConn], dev.trans dev', owned.trans owner, known, device, still _ fits⟩
    · exact ⟨r, k, client, by simpa [Sys.setConn, same] using record, dev', owner, known, device, fits⟩
  unique d c₁ d' c₂ one two same := by
    have clients (c' : ConnPtr) : (S.setConn c (some m', log')).clientOf c' = S.clientOf c' :=
      Update.same (fun view : ConnView => view.1.bind (·.client)) (by simp [present, owned]) c'
    exact links.unique d c₁ d' c₂ one two (by rwa [clients, clients] at same)
  fresh c' late := by
    have different : c' ≠ c := (Nat.lt_of_lt_of_le (links.allocated present) late).ne'
    simpa [Sys.setConn, different] using links.fresh c' late

end Static

end Usbmuxd
