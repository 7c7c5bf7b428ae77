import Usbmuxd.Machine.Linked

/-! # What a step does to one party

Seen from one client, a step of the system is a move of its own, a change of masks, its start or its
end, or one of the three steps it takes together with a connection: a request, an acceptance, a
refusal. Connections and devices have turns in the same way. What a step or a run does to one party is
derived from its turns alone.
-/

namespace Usbmuxd

open Collection

variable {lax : Laxity} {served : Option ClientPtr} {S S' : Sys}

/-- The ways in which a step concerns one client. -/
inductive Turn (lax : Laxity) (served : Option ClientPtr) (S S' : Sys) (k : ClientPtr) : Prop
  | moved (move : ClientMove (lax.rules served S'.harm k) (S.client k) (S'.client k))
  | polled {client : MuxClient} {log : List ClientEvent} (events : PollMask) (before : S.client k = (some client, log))
      (after : S'.client k = (some (client.masked events), log))
  | accepted (fd : ℤ) (number : UInt32) (next : k = S.nextClient) (fresh : S.client k = (none, []))
      (free : lax.accepts fd)
      (after : S'.client k = (some (newClient fd number), [])) (later : S'.nextClient = S.nextClient + 1)
  | requested {client : MuxClient} {log : List ClientEvent} {m : MuxConnection} (tag : UInt32) (device : ℕ)
      (own : served = some k) (before : S.client k = (some client, log)) (idle : client.state = .command)
      (holds : S'.Holds m.dev S.nextConn) (record : (S'.conn S.nextConn).1 = some m) (owner : m.client = some k)
      (after : S'.client k =
        (some { client with connectTag := tag, connectDevice := device, state := .connecting1 },
          log ++ [.connecting S.nextConn tag]))
      (asks : ∃ d ∈ S.deviceList, (S.dev d).1.id = device ∧ ((S.dev d).1.state = .active ∨ lax.early))
  | told {client : MuxClient} {log : List ClientEvent} {m : MuxConnection} (c : ConnPtr) {capacity : UInt32}
      {msg : MsgType}
      {payload : Bytes} (devents : PollMask) (before : S.client k = (some client, log))
      (pending : client.state = .connecting1) (holds : S.Holds m.dev c) (record : (S.conn c).1 = some m)
      (owner : m.client = some k) (shown : Established (S'.conn c).2)
      (posts : Posts (lax.rules served S'.harm k) client capacity msg payload)
        (answers : lax.answers resultOk msg payload)
      (after : S'.client k =
        (some { client.grown capacity client.connectTag msg payload with
            state := .connecting2, events := ⟨false, true⟩, devents := devents, ibBuf := none },
          log ++ [.queued client.connectTag msg payload, .result client.connectTag resultOk]))
  | refused {client : MuxClient} {log : List ClientEvent} {m : MuxConnection} (c : ConnPtr) {capacity : UInt32}
      {msg : MsgType} {payload : Bytes} (before : S.client k = (some client, log))
        (pending : client.state = .connecting1)
      (foreign : served ≠ some k) (holds : S.Holds m.dev c) (record : (S.conn c).1 = some m) (owner : m.client = some k)
      (gone : (S'.conn c).1 = none) (unseen : ¬Established (S'.conn c).2)
      (posts : Posts (lax.rules served S'.harm k) client capacity msg payload)
      (answers : lax.answers resultConnRefused msg payload)
      (after : S'.client k =
        (some { client.grown capacity client.connectTag msg payload with state := .command },
          log ++ [.queued client.connectTag msg payload, .result client.connectTag resultConnRefused]))
  | closed {client : MuxClient} {log events : List ClientEvent} (before : S.client k = (some client, log))
      (cause : served = some k ∨ lax.ends ∨ ∃ c m, S.Holds m.dev c ∧ (S.conn c).1 = some m ∧ m.client = some k)
      (farewell : Farewell (lax.rules served S'.harm k) client events)
      (after : S'.client k = (none, log ++ events ++ [.closed]))

namespace Turn

private theorem same {k : ClientPtr} (unchanged : S'.client k = S.client k) : Turn lax served S S' k :=
  .moved (by rw [unchanged])

private theorem update (other : ClientPtr) {k : ClientPtr} {view : ClientView}
    (clients : S'.client = Function.update S.client k view) (turn : S'.client k = view → Turn lax served S S' k) :
    Turn lax served S S' other := by
  by_cases here : other = k
  · subst here
    exact turn (by rw [clients, Function.update_self])
  · exact .same (by rw [clients, Function.update_of_ne here])

end Turn

/-- Every step is a turn of every client. -/
theorem SysStep.turn (change : SysStep lax served S S') (roster : Roster S) (k : ClientPtr) :
    Turn lax served S S' k := by
  cases change with
  | clients views harm hurt move => exact .moved (move k)
  | accept fd number slot free =>
    refine Turn.update k rfl (fun after => ?_)
    have fresh := roster.fresh S.nextClient (Nat.le_refl _)
    exact .accepted fd number rfl fresh free (by rw [after, fresh]) rfl
  | close k' harm hurt cause present free farewell =>
    exact Turn.update k rfl (fun after => .closed present (cause.imp_right .inl) farewell after)
  | conn c k' holds present owner calling => exact Turn.update k rfl (fun after => .polled _ calling after)
  | connect d k' tag slot listed ready own present idle run dev owner waiting =>
    refine Turn.update k rfl (fun after => .requested tag _ own present idle ?_ ?_ owner after ⟨d, listed, rfl, ready⟩)
    · rw [dev]
      exact ⟨listed, by simp [Sys.setClient, Sys.setDev]⟩
    · simp [Sys.setClient, Sys.setDev, Sys.setConn]
  | established c k' holds present owner waiting run settled dev owned state active shown calling pending hurt posts
      answers =>
    refine Turn.update k rfl
      (fun after => .told c _ calling pending holds (by rw [present]) owner ?_ posts answers after)
    simpa [Sys.post, Sys.setClient, Sys.setConn] using shown
  | refused c k' holds present owner run unseen calling pending foreign hurt posts answers =>
    refine Turn.update k rfl
      (fun after => .refused c calling pending foreign holds (by rw [present]) owner ?_ ?_ posts answers after)
    · simp [Sys.post, Sys.setClient, Sys.unhold, Sys.setDev, Sys.setConn]
    · simpa [Sys.post, Sys.setClient, Sys.unhold, Sys.setDev, Sys.setConn] using unseen
  | @dropped c k' m _ _ _ _ _ harm hurt holds present owner run calling farewell =>
    exact Turn.update k rfl
      (fun after => .closed calling (.inr (.inr ⟨c, m, holds, by rw [present], owner⟩)) farewell after)
  | _ => exact .same rfl

/-- A request was accepted: the new record is held by its device, it has a source port of its own, and its
client waited for a command before. -/
structure Began (lax : Laxity) (S S' : Sys) (m : MuxConnection) (log : List ConnEvent) : Prop where
  after : S'.conn S.nextConn = (some m, log)
  later : S'.nextConn = S.nextConn + 1
  holds : S'.Holds m.dev S.nextConn
  run : ConnRun (lax.hears S.nextConn) (none, []) (some m, log)
  settled : Settled (some m, log)
  waiting : m.state = .connecting
  dialled : log ≠ []
  port : m.sport ≠ 0
  unused : ∀ c ∈ (S.dev m.dev).1.connections, ∀ m', (S.conn c).1 = some m' → m'.sport ≠ m.sport
  asker : ∃ k client client', m.client = some k ∧ (S.client k).1 = some client ∧ client.state = .command ∧
    (S'.client k).1 = some client' ∧ client'.state = .connecting1 ∧ client'.connectDevice = (S'.dev m.dev).1.id

private theorem began_of_connect {d : DevPtr} {k : ClientPtr} {m : MuxConnection} {log : List ConnEvent}
    {client : MuxClient} {clientLog : List ClientEvent} (tag : UInt32) (slot : ℕ) (listed : d ∈ S.deviceList)
    (present : S.client k = (some client, clientLog)) (idle : client.state = .command)
    (run : ConnRun (lax.hears S.nextConn) (none, []) (some m, log)) (dev : m.dev = d) (owner : m.client = some k)
    (waiting : m.state = .connecting) (settled : Settled (some m, log)) (dialled : log ≠ []) (port : m.sport ≠ 0)
    (unused : ∀ c ∈ (S.dev d).1.connections, ∀ m', (S.conn c).1 = some m' → m'.sport ≠ m.sport) :
    Began lax S
      { ((S.setConn S.nextConn (some m, log)).setDev d
          ({ (S.dev d).1 with connections := add slot S.nextConn (S.dev d).1.connections }, (S.dev d).2)).setClient k
          (some { client with connectTag := tag, connectDevice := (S.dev d).1.id, state := .connecting1 },
            clientLog ++ [.connecting S.nextConn tag]) with nextConn := S.nextConn + 1 } m log := by
  subst dev
  refine ⟨by simp [Sys.setClient, Sys.setDev, Sys.setConn], rfl, ⟨listed, by simp [Sys.setClient, Sys.setDev]⟩, run,
    settled, waiting, dialled, port, unused, k, client,
    { client with connectTag := tag, connectDevice := (S.dev m.dev).1.id, state := .connecting1 }, owner,
    by rw [present], idle, by simp [Sys.setClient], rfl, by simp [Sys.setClient, Sys.setDev]⟩

/-- The ways in which a step concerns one connection. -/
inductive ConnTurn (lax : Laxity) (S S' : Sys) (c : ConnPtr) : Prop
  | same (after : S'.conn c = S.conn c)
  | went {m m' : MuxConnection} {log log' : List ConnEvent} (holds : S.Holds m.dev c)
      (before : S.conn c = (some m, log)) (run : ConnRun (lax.hears c) (some m, log) (some m', log'))
      (settled : Settled (some m', log')) (dev : m'.dev = m.dev) (owned : m'.client = m.client)
      (state : m'.state = m.state ∨ (S.dev m.dev).1.state = .active) (after : S'.conn c = (some m', log'))
  | began {m : MuxConnection} {log : List ConnEvent} (next : c = S.nextConn) (began : Began lax S S' m log)
  | failed {log : List ConnEvent} (next : c = S.nextConn) (later : S'.nextConn = S.nextConn + 1)
      (run : ConnRun (lax.hears c) (none, []) (none, log)) (after : S'.conn c = (none, log))
  | ended {m : MuxConnection} {log log' : List ConnEvent} (holds : S.Holds m.dev c)
      (before : S.conn c = (some m, log)) (run : ConnRun (lax.hears c) (some m, log) (none, log'))
      (parted : lax.poor ∨ ∃ k, m.client = some k ∧
        ∀ client', (S'.client k).1 = some client' → client'.state = .command)
      (after : S'.conn c = (none, log'))

private theorem ConnTurn.update (other : ConnPtr) {c : ConnPtr} {view : ConnView}
    (conns : S'.conn = Function.update S.conn c view) (turn : S'.conn c = view → ConnTurn lax S S' c) :
    ConnTurn lax S S' other := by
  by_cases here : other = c
  · subst here
    exact turn (by rw [conns, Function.update_self])
  · exact .same (by rw [conns, Function.update_of_ne here])

/-- Every step is a turn of every connection. -/
theorem SysStep.connTurn (change : SysStep lax served S S') (c : ConnPtr) : ConnTurn lax S S' c := by
  cases change with
  | conn c' k holds present owner calling run settled dev owned state =>
    exact ConnTurn.update c rfl (.went holds present run settled dev owned (.inl state))
  | connect d k tag slot listed ready own present idle run dev owner waiting settled dialled port unused =>
    exact ConnTurn.update c rfl fun _ => .began rfl
      (began_of_connect tag slot listed present idle run dev owner waiting settled dialled port unused)
  | unreachable run => exact ConnTurn.update c rfl (.failed rfl rfl run)
  | established c' k holds present owner waiting run settled dev owned state active =>
    exact ConnTurn.update c rfl (.went holds present run settled dev owned (.inr active))
  | refused c' k holds present owner run =>
    refine ConnTurn.update c rfl (.ended holds present run (.inr ⟨k, owner, fun client' told => ?_⟩))
    simp only [Sys.post, Sys.setClient, Function.update_self, Option.some.injEq] at told
    rw [← told]
  | orphaned c' holds present run free => exact ConnTurn.update c rfl (.ended holds present run (.inl free))
  | dropped c' k harm hurt holds present owner run =>
    refine ConnTurn.update c rfl (.ended holds present run (.inr ⟨k, owner, fun client' there => ?_⟩))
    simp [Sys.release, Sys.setClient] at there
  | _ => exact .same rfl

/-- The ways in which a step concerns one device. -/
inductive DevTurn (lax : Laxity) (S S' : Sys) (d : DevPtr) : Prop
  | same (lists : d ∈ S'.deviceList ↔ d ∈ S.deviceList) (after : S'.dev d = S.dev d)
  | moved (listed : d ∈ S.deviceList) (lists : S'.deviceList = S.deviceList)
      (change : WireStep lax.early lax.travels (S.dev d) (S'.dev d))
  | joined {m : MuxConnection} {log : List ConnEvent} (slot : ℕ) (listed : d ∈ S.deviceList)
      (lists : S'.deviceList = S.deviceList) (ready : (S.dev d).1.state = .active ∨ lax.early)
      (began : Began lax S S' m log) (here : m.dev = d)
      (after : S'.dev d =
        ({ (S.dev d).1 with connections := add slot S.nextConn (S.dev d).1.connections }, (S.dev d).2))
  | left (c : ConnPtr) (listed : d ∈ S.deviceList) (lists : S'.deviceList = S.deviceList)
      (gone : (S'.conn c).1 = none)
      (after : S'.dev d = ({ (S.dev d).1 with connections := (S.dev d).1.connections.erase c }, (S.dev d).2))
  | arrived {u : UsbPtr} {event : WireEvent} (next : d = S.nextDev) (later : S'.nextDev = S.nextDev + 1)
      (number : S'.nextDeviceId = S.nextDeviceId + 1)
      (handed : Handed event ((newDevice u S.nextDeviceId).packet .version versionRequest []))
      (after : S'.dev d = (newDevice u S.nextDeviceId, (S.dev d).2 ++ [event]))
  | greeted (major : UInt32) {events : List WireEvent} (free : lax.travels) (listed : d ∈ S.deviceList)
      (lists : S'.deviceList = S.deviceList) (waiting : (S.dev d).1.state = .init)
      (unused : (S.dev d).1.connections = [] ∨ lax.early)
      (answer : major = 1 ∧ events = [] ∨ major = 2 ∧ ∃ event, events = [event] ∧
        Handed event (({ (S.dev d).1 with version := 2 } : MuxDevice).packet .setup [] [7]))
      (after : S'.dev d = ((S.dev d).1.greeted major, (S.dev d).2 ++ .version major :: events))
  | retired (free : lax.travels) (listed : d ∈ S.deviceList) (lists : S'.deviceList = S.deviceList)
      (active : (S.dev d).1.state = .active)
      (after : S'.dev d = ({ (S.dev d).1 with state := .dead }, (S.dev d).2 ++ [.dead]))
  | departed (free : lax.travels) (fewer : d ∈ S'.deviceList → d ∈ S.deviceList)
      (empty : (S.dev d).1.connections = [] ∨ lax.early ∧ (S.dev d).1.state = .init) (after : S'.dev d = S.dev d)

private theorem DevTurn.update (other : DevPtr) {d : DevPtr} {view : DevView}
    (devices : S'.dev = Function.update S.dev d view)
    (lists : S'.deviceList = S.deviceList) (turn : S'.dev d = view → DevTurn lax S S' d) : DevTurn lax S S' other := by
  by_cases here : other = d
  · subst here
    exact turn (by rw [devices, Function.update_self])
  · exact .same (by rw [lists]) (by rw [devices, Function.update_of_ne here])

/-- Every step is a turn of every device. -/
theorem SysStep.devTurn (change : SysStep lax served S S') (d : DevPtr) : DevTurn lax S S' d := by
  cases change with
  | wire d' listed change =>
    exact DevTurn.update d rfl rfl (fun after => .moved listed rfl (by rwa [after]))
  | connect d' k tag slot listed ready own present idle run dev owner waiting settled dialled port unused =>
    exact DevTurn.update d rfl rfl (.joined slot listed rfl ready
      (began_of_connect tag slot listed present idle run dev owner waiting settled dialled port unused) dev)
  | refused c k holds =>
    refine DevTurn.update d rfl rfl (.left c holds.1 rfl ?_)
    simp [Sys.post, Sys.setClient, Sys.unhold, Sys.setDev, Sys.setConn]
  | orphaned c holds =>
    refine DevTurn.update d rfl rfl (.left c holds.1 rfl ?_)
    simp [Sys.unhold, Sys.setDev, Sys.setConn]
  | dropped c k harm hurt holds =>
    refine DevTurn.update d rfl rfl (.left c holds.1 rfl ?_)
    simp [Sys.release, Sys.setClient, Sys.unhold, Sys.setDev, Sys.setConn]
  | arrived u slot free alive handed =>
    by_cases here : d = S.nextDev
    · subst here
      exact .arrived rfl rfl rfl handed (by simp [Sys.setDev])
    · refine .same ?_ (by simp [Sys.setDev, here])
      cases slot with
      | none => rfl
      | some n => exact (mem_add ..).trans (or_iff_right here)
  | greeted d' major free listed waiting unused answer =>
    exact DevTurn.update d rfl rfl (.greeted major free listed rfl waiting unused answer)
  | retired d' free listed active => exact DevTurn.update d rfl rfl (.retired free listed rfl active)
  | departed d' free empty =>
    by_cases here : d = d'
    · subst here
      exact .departed free List.mem_of_mem_erase empty rfl
    · exact .same (List.mem_erase_of_ne here) rfl
  | _ => exact .same .rfl rfl

theorem SysStep.nextClient_le (change : SysStep lax served S S') : S.nextClient ≤ S'.nextClient := by
  cases change with
  | accept => exact Nat.le_succ _
  | _ => exact Nat.le_refl _

theorem SysStep.nextConn_le (change : SysStep lax served S S') : S.nextConn ≤ S'.nextConn := by
  cases change with
  | connect => exact Nat.le_succ _
  | unreachable => exact Nat.le_succ _
  | _ => exact Nat.le_refl _

theorem SysStep.nextDev_le (change : SysStep lax served S S') :
    S.nextDev ≤ S'.nextDev ∧ S.nextDeviceId ≤ S'.nextDeviceId := by
  cases change with
  | arrived => exact ⟨Nat.le_succ _, Nat.le_succ _⟩
  | _ => exact ⟨Nat.le_refl _, Nat.le_refl _⟩

section Devices

variable {d : DevPtr} {c : ConnPtr}

/-- A device keeps its id and enters no list, or it is new. -/
theorem DevTurn.enrolled (turn : DevTurn lax S S' d) :
    (d ∈ S'.deviceList → d ∈ S.deviceList) ∧ (S'.dev d).1.id = (S.dev d).1.id ∨ d = S.nextDev ∧
      (S'.dev d).1.id = S.nextDeviceId ∧ S'.nextDev = S.nextDev + 1 ∧ S'.nextDeviceId = S.nextDeviceId + 1 := by
  cases turn with
  | same lists after => exact .inl ⟨lists.mp, by rw [after]⟩
  | moved listed lists change => exact .inl ⟨fun _ => listed, change.core.1.id⟩
  | arrived next later number handed after => exact .inr ⟨next, by rw [after]; rfl, later, number⟩
  | greeted major free listed lists waiting unused answer after => exact .inl ⟨fun _ => listed, by simp [after]⟩
  | departed free fewer empty after => exact .inl ⟨fewer, by rw [after]⟩
  | joined _ listed _ _ _ _ after | left _ listed _ _ after | retired _ listed _ _ after =>
    exact .inl ⟨fun _ => listed, by rw [after]⟩

/-- A device in its handshake was so before, with at least these connections, or it is new. -/
theorem DevTurn.init (turn : DevTurn lax S S' d) (listed : d ∈ S'.deviceList) (waiting : (S'.dev d).1.state = .init) :
    d ∈ S.deviceList ∧ (S.dev d).1.state = .init ∧ (S'.dev d).1.id = (S.dev d).1.id ∧
      ((S'.dev d).1.connections ⊆ (S.dev d).1.connections ∨ lax.early) ∨
    (S'.dev d).1.id = S.nextDeviceId ∧ (S'.dev d).1.connections = [] := by
  cases turn with
  | same lists after =>
    rw [after] at waiting ⊢
    exact .inl ⟨lists.mp listed, waiting, rfl, .inl (List.Subset.refl _)⟩
  | moved before lists change =>
    obtain ⟨identity, connections⟩ := change.core
    exact .inl ⟨before, identity.state ▸ waiting, identity.id, .inl (by rw [connections]; exact List.Subset.refl _)⟩
  | joined slot before lists ready began here after =>
    rw [after] at waiting ⊢
    refine .inl ⟨before, waiting, rfl, .inr (ready.resolve_left fun active => ?_)⟩
    cases active.symm.trans waiting
  | left c before lists gone after =>
    rw [after] at waiting ⊢
    exact .inl ⟨before, waiting, rfl, .inl List.erase_subset⟩
  | arrived next later number handed after => exact .inr (by simp [after, newDevice])
  | greeted major free before lists init unused answer after => simp [after, MuxDevice.greeted] at waiting
  | retired free before lists active after => simp [after] at waiting
  | departed free fewer empty after =>
    rw [after] at waiting ⊢
    exact .inl ⟨fewer listed, waiting, rfl, .inl (List.Subset.refl _)⟩

/-- What a device holds after a step it has held before, unless a request has added it. -/
theorem SysStep.held_before (change : SysStep lax served S S') (holding : S'.Holds d c) :
    S.Holds d c ∨ c = S.nextConn ∧ ∃ m log, Began lax S S' m log ∧ m.dev = d := by
  obtain ⟨listed, member⟩ := holding
  cases change.devTurn d with
  | same lists after => exact .inl ⟨lists.mp listed, after ▸ member⟩
  | moved before lists change => exact .inl ⟨before, change.core.2 ▸ member⟩
  | joined slot before lists ready began here after =>
    rw [after] at member
    exact ((mem_add ..).mp member).symm.imp (⟨before, ·⟩) (⟨·, _, _, began, here⟩)
  | left c' before lists gone after =>
    rw [after] at member
    exact .inl ⟨before, List.mem_of_mem_erase member⟩
  | arrived next later number handed after => simp [after, newDevice] at member
  | greeted major free before lists waiting unused answer after => simp [after, MuxDevice.greeted] at member
  | retired free before lists active after => exact .inl ⟨before, by simpa [after] using member⟩
  | departed free fewer empty after => exact .inl ⟨fewer listed, after ▸ member⟩

/-- A device holds on to a connection until its record is freed, unless a client was early. -/
theorem SysStep.held_after (change : SysStep lax served S S') (registry : Registry S) (holding : S.Holds d c)
    (alive : (S'.conn c).1 ≠ none) : S'.Holds d c ∨ (S.dev d).1.state = .init ∧ lax.early := by
  obtain ⟨listed, member⟩ := holding
  cases change.devTurn d with
  | same lists after => exact .inl ⟨lists.mpr listed, after ▸ member⟩
  | moved before lists change => exact .inl ⟨lists ▸ listed, by rwa [change.core.2]⟩
  | joined slot before lists ready began here after => exact .inl ⟨lists ▸ listed, by simp [after, member]⟩
  | left c' before lists gone after =>
    have different : c ≠ c' := fun same => alive (same ▸ gone)
    exact .inl ⟨lists ▸ listed, by rw [after]; exact (List.mem_erase_of_ne different).mpr member⟩
  | arrived next => exact absurd (registry.known d listed) (by simp [next])
  | greeted major free before lists waiting unused answer after =>
    rcases unused with none | early
    · simp [none] at member
    · exact .inr ⟨waiting, early⟩
  | retired free before lists active after => exact .inl ⟨lists ▸ listed, by simpa [after] using member⟩
  | departed free fewer empty after =>
    rcases empty with none | ⟨early, waiting⟩
    · simp [none] at member
    · exact .inr ⟨waiting, early⟩

end Devices

section Connections

variable {c : ConnPtr}

/-- Whatever happens to the system, each connection takes steps of its own. -/
theorem SysStep.connRun (change : SysStep lax served S S') (links : Links S) (c : ConnPtr) :
    ConnRun (lax.hears c) (S.conn c) (S'.conn c) := by
  cases change.connTurn c with
  | same after => rw [after]
  | went holds before run settled dev owned state after => rwa [before, after]
  | began next began =>
    rw [next, links.fresh _ (Nat.le_refl _), began.after]
    exact began.run
  | failed next later run after => rwa [after, next, links.fresh _ (Nat.le_refl _), ← next]
  | ended holds before run parted after => rwa [before, after]

/-- A record is new, or it was there before with the same device and client; it was opened by an active device
that held it. -/
theorem SysStep.record (change : SysStep lax served S S') {m' : MuxConnection} (record : (S'.conn c).1 = some m') :
    (∃ m, (S.conn c).1 = some m ∧ m'.dev = m.dev ∧ m'.client = m.client ∧
      (m'.state = m.state ∨ S.Holds m.dev c ∧ (S.dev m.dev).1.state = .active)) ∨
    c = S.nextConn ∧ ∃ log, Began lax S S' m' log := by
  cases change.connTurn c with
  | same after => exact .inl ⟨m', after ▸ record, rfl, rfl, .inl rfl⟩
  | went holds before run settled dev owned state after =>
    rw [after] at record
    obtain rfl := Option.some.inj record
    exact .inl ⟨_, by rw [before], dev, owned, state.imp_right (⟨holds, ·⟩)⟩
  | began next began =>
    rw [next, began.after] at record
    obtain rfl := Option.some.inj record
    exact .inr ⟨next, _, began⟩
  | failed next later run after => simp [after] at record
  | ended holds before run parted after => simp [after] at record

/-- A record that was released is not used again. -/
theorem SysStep.conn_gone (change : SysStep lax served S S') (gone : (S.conn c).1 = none) (allocated : c < S.nextConn) :
    S'.conn c = S.conn c := by
  cases change.connTurn c with
  | same after => exact after
  | went holds before => simp [before] at gone
  | began next | failed next => exact absurd next allocated.ne
  | ended holds before => simp [before] at gone

end Connections

end Usbmuxd
