import Usbmuxd.Machine.Turns

/-! # The invariant of the system

Consistency and the invariants of the single parties, kept by every step. As long as no client connects to a device in
its handshake, such devices have no connections and memory is only used as C allows; if memory does
not run out either, every client that is connecting or connected has a connection.
-/

namespace Usbmuxd

open Collection

/-- The client states that belong to a connection. -/
def ClientState.engaged : ClientState → Bool
  | connecting1 | connecting2 | connected => true
  | _ => false

/-- What holds as long as no client connects to a device in its handshake: such a device has no
connection and nobody waits for it, and memory is only used as C allows. -/
structure Strict (S : Sys) : Prop where
  asked : ∀ k client, (S.client k).1 = some client → client.state.engaged → client.connectDevice < S.nextDeviceId ∧
    ∀ d ∈ S.deviceList, (S.dev d).1.state = .init → (S.dev d).1.id ≠ client.connectDevice
  inert : ∀ d ∈ S.deviceList, (S.dev d).1.state = .init → (S.dev d).1.connections = []
  clean : ∀ fault ∈ S.faults, fault.harmless

/-- The converse of the pairing: an engaged client has a connection. -/
def Paired (S : Sys) : Prop :=
  ∀ k client, (S.client k).1 = some client → client.state.engaged → ∃ d c, S.Holds d c ∧ S.clientOf c = some k

/-- An open connection is in the collection of its device, and a device in its handshake has no open
connection. -/
structure Rooted (S : Sys) : Prop where
  held : ∀ c m, (S.conn c).1 = some m → m.state = .connected → S.Holds m.dev c
  waiting : ∀ d c m, S.Holds d c → (S.dev d).1.state = .init → (S.conn c).1 = some m → m.state = .connecting

/-- The invariant of the system. -/
structure Sound (lax : Laxity) (S : Sys) : Prop where
  linked : Linked S
  conns : ∀ c, ViewOk (S.conn c) ∧ Settled (S.conn c)
  acked : ∀ c, Acked (S.conn c)
  clients : ∀ k, ClientViewOk (.overrun k ∈ S.harm) (S.client k)
  wires : ∀ d, WireOk lax.early (S.dev d)
  rooted : Rooted S
  numbered : ∀ d, .uninitialisedSequence d ∉ S.faults
  strict : lax.early ∨ Strict S
  paired : lax.early ∨ lax.poor ∨ Paired S
  released : lax.rash ∨ lax.poor ∨ ∀ c, .releasedConnection c ∉ S.faults
  unharmed : lax.rude ∨ ∀ k, .releasedClient k ∉ S.harm

private theorem ClientKept.engaged {rules : ClientRules} {client client' : MuxClient} {events : List ClientEvent}
    (same : ClientKept rules client client' events) (engaged : client'.state.engaged) : client.state.engaged := by
  rcases same.state with same | ⟨_, ⟨_, listening⟩ | ⟨before, _⟩⟩
  · rwa [← same]
  · simp [listening, ClientState.engaged] at engaged
  · simp [before, ClientState.engaged]

section Parties

variable {lax : Laxity} {served : Option ClientPtr} {S S' : Sys}

/-- The invariant does not depend on the payload that arrives. -/
theorem Sound.hearing (sound : Sound lax S) (hears : ConnPtr → Bytes → Prop) : Sound { lax with hears := hears } S :=
  { sound with }

/-- Nor on what is sent to clients, nor on the devices that come and go. -/
theorem Sound.freely : Sound lax.freely S ↔ Sound lax S :=
  ⟨fun sound => { sound with }, fun sound => { sound with }⟩

private theorem SysStep.registry (change : SysStep lax served S S') (registry : Registry S) : Registry S' := by
  have enrolled (d : DevPtr) := (change.devTurn d).enrolled
  obtain ⟨later, number⟩ := change.nextDev_le
  refine ⟨?_, fun d found => ?_, fun d found => ?_, fun d found d' found' same => ?_, fun d late => ?_, ?_⟩
  · cases change with
    | @arrived u event slot =>
      cases slot with
      | none => exact registry.nodup
      | some n => exact nodup_add (fun listed => absurd (registry.known _ listed) (Nat.lt_irrefl _)) registry.nodup
    | departed d => exact registry.nodup.erase d
    | _ => exact registry.nodup
  · rcases enrolled d with ⟨before, -⟩ | ⟨rfl, -, next, -⟩
    · exact Nat.lt_of_lt_of_le (registry.known d (before found)) later
    · rw [next]
      exact Nat.lt_succ_self _
  · rcases enrolled d with ⟨before, id⟩ | ⟨-, id, -, next⟩
    · rw [id]
      exact Nat.lt_of_lt_of_le (registry.numbered d (before found)) number
    · rw [id, next]
      exact Nat.lt_succ_self _
  · rcases enrolled d with ⟨before, id⟩ | ⟨new, id, -⟩ <;> rcases enrolled d' with ⟨before', id'⟩ | ⟨new', id', -⟩
    · exact registry.ids d (before found) d' (before' found') (id.symm.trans (same.trans id'))
    · exact absurd (id.symm.trans (same.trans id')) (registry.numbered d (before found)).ne
    · exact absurd (id'.symm.trans (same.symm.trans id)) (registry.numbered d' (before' found')).ne
    · exact new.trans new'.symm
  · have unlisted : d ∉ S.deviceList := fun before =>
      absurd (registry.known d before) (Nat.not_lt.mpr (Nat.le_trans later late))
    cases change.devTurn d with
    | same _ after | departed _ _ _ after =>
      rw [after]
      exact registry.fresh d (Nat.le_trans later late)
    | arrived next more => exact absurd (Nat.lt_of_succ_le (more ▸ late)) (by simp [next])
    | moved before | joined _ before | left _ before | greeted _ _ before | retired _ before =>
      exact absurd before unlisted
  · cases change with
    | arrived u slot free alive =>
      intro ended
      have ended : S.phase = .closing ∨ S.phase = .stopped := ended
      rcases alive with alive | alive <;> simp [alive] at ended
    | departed d =>
      intro ended
      simp [registry.ended ended]
    | proceed phase forward empty => exact empty
    | _ => exact registry.ended

private theorem SysStep.roster (change : SysStep lax served S S') (roster : Roster S) : Roster S' := by
  have kept {k : ClientPtr} {client client' : MuxClient} {log log' : List ClientEvent}
      (present : S.client k = (some client, log)) (other : ClientPtr) :
      other ∈ S.clientList ↔ (Function.update S.client k (some client', log') other).1.isSome := by
    rw [roster.listed, Update.same (fun view : ClientView => view.1.isSome) (by simp [present])]
  have erased {k : ClientPtr} (log : List ClientEvent) (other : ClientPtr) :
      other ∈ S.clientList.erase k ↔ (Function.update S.client k (none, log) other).1.isSome := by
    by_cases same : other = k
    · subst same
      simp [roster.nodup.mem_erase_iff]
    · rw [List.mem_erase_of_ne same, Function.update_of_ne same]
      exact roster.listed other
  refine ⟨?_, fun k => ?_, fun k late => ?_, fun k client' present unconnected => ?_⟩
  · cases change with
    | accept =>
      refine nodup_add (fun listed => ?_) roster.nodup
      simpa [roster.fresh _ (Nat.le_refl _)] using (roster.listed _).mp listed
    | close k | dropped _ k => exact roster.nodup.erase k
    | _ => exact roster.nodup
  · cases change with
    | clients views harm hurt move =>
      rw [roster.listed, Option.isSome_iff_ne_none, Option.isSome_iff_ne_none]
      exact (move k).gone_iff.not
    | accept =>
      by_cases same : k = S.nextClient
      · subst same
        simp [Sys.setClient]
      · simpa [Sys.setClient, same] using roster.listed k
    | close | dropped => exact erased _ k
    | conn _ _ _ _ _ calling => exact kept calling k
    | connect _ _ _ _ _ _ _ present => exact kept present k
    | established _ _ _ _ _ _ _ _ _ _ _ _ _ calling => exact kept calling k
    | refused _ _ _ _ _ _ _ calling => exact kept calling k
    | _ => exact roster.listed k
  · have before := roster.fresh k (Nat.le_trans change.nextClient_le late)
    cases change.turn roster k with
    | moved move =>
      rw [before] at move
      exact move.gone_eq
    | accepted fd number next fresh free after later => exact absurd (Nat.lt_of_succ_le (later ▸ late)) (by simp [next])
    | polled _ there | requested _ _ _ there | told _ _ there | refused _ there | closed there => simp [before] at there
  · cases change.turn roster k with
    | moved move =>
      obtain ⟨client, events, before, _, same⟩ := move.backward present
      refine same.output (roster.output k client before fun connected => ?_) unconnected
      rcases same.state with kept | ⟨_, from' | from'⟩
      · exact unconnected (kept.trans connected)
      · simp [connected] at from'
      · simp [connected] at from'
    | polled events before after =>
      rw [after] at present
      obtain rfl := Option.some.inj present
      rw [MuxClient.masked_obBuf]
      exact roster.output k _ (by rw [before]) (by simpa using unconnected)
    | requested tag device own before idle holds record owner after =>
      have buffer := roster.output k _ (congrArg Prod.fst before) (by simp [idle])
      rw [after] at present
      obtain rfl := Option.some.inj present
      exact buffer
    | accepted _ _ _ _ _ after | told _ _ _ _ _ _ _ _ _ _ after | refused _ _ _ _ _ _ _ _ _ _ _ after =>
      rw [after] at present
      obtain rfl := Option.some.inj present
      rfl
    | closed before cause farewell after => simp [after] at present

/-- A connection that stays in its collection goes on together with its client. -/
private theorem SysStep.pair (change : SysStep lax served S S') (linked : Linked S) {d : DevPtr} {c : ConnPtr}
    {k : ClientPtr}
    {m : MuxConnection} {client : MuxClient} (holding : S.Holds d c) (still : S'.Holds d c)
    (record : (S.conn c).1 = some m) (owner : m.client = some k) (present : (S.client k).1 = some client)
    (fits : m.Fits client) :
    ∃ m' client', (S'.conn c).1 = some m' ∧ m'.dev = m.dev ∧ m'.client = m.client ∧ (S'.client k).1 = some client' ∧
      client'.connectDevice = client.connectDevice ∧ m'.Fits client' := by
  obtain ⟨-, roster, links⟩ := linked
  have keeps (conns : S'.conn c = S.conn c) (clients : S'.client k = S.client k) :
      ∃ m' client', (S'.conn c).1 = some m' ∧ m'.dev = m.dev ∧ m'.client = m.client ∧ (S'.client k).1 = some client' ∧
        client'.connectDevice = client.connectDevice ∧ m'.Fits client' :=
    ⟨m, client, by rw [conns, record], rfl, rfl, by rw [clients, present], rfl, fits⟩
  have foreign {c' : ConnPtr} {k' : ClientPtr} {other : MuxConnection} {log : List ConnEvent}
      (holds : S.Holds other.dev c') (there : S.conn c' = (some other, log)) (calls : other.client = some k')
      (different : c ≠ c') : k ≠ k' := by
    rintro rfl
    exact different (links.same_client holding holds record (by rw [there]) owner calls)
  have mine {k' : ClientPtr} {m₀ : MuxConnection} {log : List ConnEvent} {client₀ : MuxClient}
      {clientLog : List ClientEvent} (there : S.conn c = (some m₀, log)) (calls : m₀.client = some k')
      (calling : S.client k' = (some client₀, clientLog)) : m₀ = m ∧ k' = k ∧ client₀ = client := by
    obtain rfl : m₀ = m := by simpa [there] using record
    obtain rfl : k' = k := Option.some.inj (calls.symm.trans owner)
    exact ⟨rfl, rfl, by simpa [calling] using present⟩
  have old : c ≠ S.nextConn := fun same => links.not_holds_next d (same ▸ holding)
  cases change with
  | clients views harm hurt move =>
    obtain ⟨client', events, after, same⟩ := (move k).forward present
    exact ⟨m, client', record, rfl, rfl, by simp [after], same.device, same.fits fits⟩
  | accept =>
    refine keeps rfl (Function.update_of_ne ?_ ..)
    rintro rfl
    simp [roster.fresh _ (Nat.le_refl _)] at present
  | close k' harm hurt cause there free =>
    refine keeps rfl (Function.update_of_ne ?_ ..)
    rintro rfl
    exact free d c holding (by simp [Sys.clientOf, record, owner])
  | @conn c' k' _ m' _ _ _ _ holds there calls calling run settled dev owned state =>
    by_cases here : c = c'
    · subst here
      obtain ⟨rfl, rfl, rfl⟩ := mine there calls calling
      refine ⟨m', _, by simp [Sys.setClient, Sys.setConn], dev, owned,
        congrArg Prod.fst (Function.update_self k' _ S.client), by simp, by simpa [state] using fits.state,
        fun opened => ?_⟩
      exact MuxClient.masked_devents _ _ (ConnState.fits_connected (opened ▸ state ▸ fits.state))
    · exact keeps (Function.update_of_ne here ..) (Function.update_of_ne (foreign holds there calls here) ..)
  | connect d' k' tag slot listed ready own there idle =>
    refine keeps (Function.update_of_ne old ..) (Function.update_of_ne ?_ ..)
    rintro rfl
    exact links.idle_free there (by simp [idle]) (by simp [idle]) (by simp [idle]) d c holding
      (by simp [Sys.clientOf, record, owner])
  | unreachable => exact keeps (Function.update_of_ne old ..) rfl
  | @established c' k' _ m' _ _ _ _ holds there calls waiting run settled dev owned state active shown calling =>
    by_cases here : c = c'
    · subst here
      obtain ⟨rfl, rfl, rfl⟩ := mine there calls calling
      exact ⟨m', _, by simp [Sys.post, Sys.setClient, Sys.setConn], dev, owned,
        congrArg Prod.fst (Function.update_self k' _ S.client), rfl, by rw [state]; rfl, fun _ => rfl⟩
    · exact keeps (Function.update_of_ne here ..) (Function.update_of_ne (foreign holds there calls here) ..)
  | refused c' k' holds there calls =>
    have different := (links.holds_unhold holds there still).2
    exact keeps (Function.update_of_ne different ..) (Function.update_of_ne (foreign holds there calls different) ..)
  | orphaned c' holds there =>
    exact keeps (Function.update_of_ne (links.holds_unhold holds there still).2 ..) rfl
  | dropped c' k' harm hurt holds there calls =>
    have different := (links.holds_unhold holds there still).2
    exact keeps (Function.update_of_ne different ..) (Function.update_of_ne (foreign holds there calls different) ..)
  | _ => exact keeps rfl rfl

/-- The client of a held connection is the one before, or one that waited for a command. -/
private theorem SysStep.heldClient (change : SysStep lax served S S') (linked : Linked S) {d : DevPtr} {c : ConnPtr}
    (holding : S'.Holds d c) :
    S.Holds d c ∧ S'.clientOf c = S.clientOf c ∨
      c = S.nextConn ∧ ∀ d' c', S.Holds d' c' → S.clientOf c' ≠ S'.clientOf c := by
  rcases change.held_before holding with old | ⟨rfl, m, log, began, -⟩
  · obtain ⟨m, k, client, record, dev, owner, present, -, fits⟩ := linked.links.held d c old
    obtain ⟨m', -, record', -, owned, -⟩ := change.pair linked old holding record owner present fits
    exact .inl ⟨old, by simp [Sys.clientOf, record, record', owned]⟩
  · obtain ⟨k, client, -, owner, there, idle, -⟩ := began.asker
    have named : S'.clientOf S.nextConn = some k := by simp [Sys.clientOf, began.after, owner]
    rw [named]
    exact .inr ⟨rfl, linked.links.idle_free (Prod.ext there rfl) (by simp [idle]) (by simp [idle]) (by simp [idle])⟩

private theorem SysStep.links (change : SysStep lax served S S') (linked : Linked S) : Links S' where
  once d listed := by
    have once := linked.links.once d
    cases change.devTurn d with
    | same lists after => exact after ▸ once (lists.mp listed)
    | moved before lists change => exact change.core.2 ▸ once before
    | joined slot before lists ready began here after =>
      rw [after]
      exact nodup_add (fun member => linked.links.not_holds_next d ⟨before, member⟩) (once before)
    | left c before lists gone after =>
      rw [after]
      exact (once before).erase c
    | arrived next later number handed after => simp [after, newDevice]
    | greeted major free before lists waiting unused answer after => simp [after, MuxDevice.greeted]
    | retired free before lists active after =>
      rw [after]
      exact once before
    | departed free fewer empty after => exact after ▸ once (fewer listed)
  held d c holding := by
    rcases change.held_before holding with old | ⟨rfl, m, log, began, rfl⟩
    · obtain ⟨m, k, client, record, dev, owner, present, device, fits⟩ := linked.links.held d c old
      obtain ⟨m', client', record', dev', owner', present', device', fits'⟩ :=
        change.pair linked old holding record owner present fits
      refine ⟨m', k, client', record', dev'.trans dev, owner'.trans owner, present', ?_, fits'⟩
      rcases (change.devTurn d).enrolled with ⟨-, id⟩ | ⟨new, -⟩
      · rw [device', device, id]
      · exact absurd (linked.registry.known d old.1) (by simp [new])
    · obtain ⟨k, -, client', owner, -, -, there, state, device⟩ := began.asker
      exact ⟨m, k, client', by rw [began.after], rfl, owner, there, device, by rw [began.waiting, state]; rfl,
        by simp [began.waiting]⟩
  unique d c d' c' holding holding' same := by
    rcases change.heldClient linked holding with ⟨old, client⟩ | ⟨rfl, new⟩ <;>
      rcases change.heldClient linked holding' with ⟨old', client'⟩ | ⟨rfl, new'⟩
    · exact linked.links.unique d c d' c' old old' (client.symm.trans (same.trans client'))
    · exact absurd (client.symm.trans same) (new' d c old)
    · exact absurd (client'.symm.trans same.symm) (new d' c' old')
    · rfl
  fresh c late := by
    have early := Nat.le_trans change.nextConn_le late
    have before := linked.links.fresh c early
    cases change.connTurn c with
    | same after => rw [after, before]
    | went _ there | ended _ there => simp [before] at there
    | began next began => exact absurd (Nat.lt_of_succ_le (began.later ▸ late)) (by simp [next])
    | failed next later => exact absurd (Nat.lt_of_succ_le (later ▸ late)) (by simp [next])

private theorem SysStep.linked (change : SysStep lax served S S') (linked : Linked S) : Linked S' :=
  ⟨change.registry linked.registry, change.roster linked.roster, change.links linked⟩

private theorem SysStep.conns (change : SysStep lax served S S') (links : Links S)
    (conns : ∀ c, ViewOk (S.conn c) ∧ Settled (S.conn c)) (c : ConnPtr) : ViewOk (S'.conn c) ∧ Settled (S'.conn c) := by
  refine ⟨(change.connRun links c).viewOk (conns c).1, ?_⟩
  cases change.connTurn c with
  | same after => exact after ▸ (conns c).2
  | went holds before run settled dev owned state after => exact after ▸ settled
  | began next began => exact next ▸ began.after ▸ began.settled
  | failed next later run after => exact after ▸ trivial
  | ended holds before run parted after => exact after ▸ trivial

private theorem SysStep.wires (change : SysStep lax served S S') (registry : Registry S)
    (wires : ∀ d, WireOk lax.early (S.dev d)) (d : DevPtr) : WireOk lax.early (S'.dev d) := by
  cases change.devTurn d with
  | same lists after => exact after ▸ wires d
  | moved listed lists change => exact change.wireOk (wires d)
  | joined _ _ _ _ _ _ after | left _ _ _ _ after => exact after ▸ (wires d).congr rfl rfl rfl rfl rfl
  | arrived next later number handed after =>
    rw [after, next, registry.fresh _ (Nat.le_refl _)]
    exact WireOk.requested _ _ handed
  | greeted major free listed lists waiting unused answer after =>
    rw [after]
    rcases answer with ⟨rfl, rfl⟩ | ⟨rfl, event, rfl, handed⟩
    · exact (wires d).greeted_one waiting
    · exact (wires d).greeted_two waiting handed
  | retired free listed lists active after => exact after ▸ (wires d).retired active
  | departed free fewer empty after => exact after ▸ wires d

private theorem SysStep.faults (change : SysStep lax served S S') {fault : MuxFault} (recorded : fault ∈ S'.faults) :
    fault ∈ S.faults ∨ lax.Admits fault := by
  cases change with
  | fault fault free =>
    rcases List.mem_append.mp recorded with old | new
    · exact .inl old
    · rw [List.mem_singleton.mp new]
      exact .inr free
  | _ => exact .inl recorded

private theorem SysStep.harm (change : SysStep lax served S S') : S.harm <+: S'.harm := by
  cases change with
  | clients views harm hurt move => exact hurt.grown
  | stray k free => exact List.prefix_append ..
  | close k harm hurt => exact hurt.grown
  | established _ _ _ _ _ _ _ _ _ _ _ _ _ _ _ hurt => exact hurt.grown
  | refused _ _ _ _ _ _ _ _ _ _ hurt => exact hurt.grown
  | dropped c k harm hurt => exact hurt.grown
  | _ => exact List.prefix_refl _

/-- A released client is only used after a command in the wrong state. -/
private theorem SysStep.unharmed (change : SysStep lax served S S') (polite : ¬lax.rude)
    (unharmed : ∀ k, .releasedClient k ∉ S.harm) : ∀ k, .releasedClient k ∉ S'.harm := by
  cases change with
  | clients views harm hurt move => exact fun k member => unharmed k (hurt.mild k member)
  | stray k free => exact absurd free polite
  | close k harm hurt => exact fun k member => unharmed k (hurt.mild k member)
  | established _ _ _ _ _ _ _ _ _ _ _ _ _ _ _ hurt => exact fun k member => unharmed k (hurt.mild k member)
  | refused _ _ _ _ _ _ _ _ _ _ hurt => exact fun k member => unharmed k (hurt.mild k member)
  | dropped c k harm hurt => exact fun k member => unharmed k (hurt.mild k member)
  | _ => exact unharmed

private theorem SysStep.clients_ok (change : SysStep lax served S S') (linked : Linked S)
    (clients : ∀ k, ClientViewOk (.overrun k ∈ S.harm) (S.client k)) (k : ClientPtr) :
    ClientViewOk (.overrun k ∈ S'.harm) (S'.client k) := by
  have known : ClientViewOk (lax.rules served S'.harm k).overran (S.client k) :=
    (clients k).mono (change.harm.subset ·)
  cases change.turn linked.roster k with
  | moved move => exact move.viewOk known
  | polled events before after =>
    rw [before] at known
    rw [after]
    exact ClientOk.masked known events
  | accepted fd number next fresh free after =>
    rw [after]
    exact newClient_ok _ fd number
  | requested tag device own before idle holds record owner after =>
    rw [before] at known
    rw [after]
    exact ClientOk.request known idle _ tag device
  | told c devents before pending holds record owner shown posts answers after =>
    rw [before] at known
    rw [after]
    exact ClientOk.accepted known pending posts _ devents
  | refused c before pending foreign holds record owner gone unseen posts answers after =>
    rw [before] at known
    rw [after]
    exact ClientOk.refused known pending posts _ _
  | closed before cause farewell after =>
    rw [before] at known
    rw [after]
    exact ClientOk.closed known farewell

/-- Devices in their handshake are left alone, unless a client asks for one. -/
private theorem SysStep.strict (change : SysStep lax served S S') (ready : ¬lax.early) (linked : Linked S)
    (strict : Strict S) : Strict S' := by
  have init {d : DevPtr} := (change.devTurn d).init
  -- a device that was not in its handshake is not in it now, and new devices have new ids
  have still {i : ℕ} (known : i < S.nextDeviceId)
      (distinct : ∀ d ∈ S.deviceList, (S.dev d).1.state = .init → (S.dev d).1.id ≠ i) :
      i < S'.nextDeviceId ∧ ∀ d ∈ S'.deviceList, (S'.dev d).1.state = .init → (S'.dev d).1.id ≠ i := by
    refine ⟨Nat.lt_of_lt_of_le known change.nextDev_le.2, fun d listed waiting => ?_⟩
    rcases init listed waiting with ⟨before, waited, id, -⟩ | ⟨id, -⟩
    · rw [id]
      exact distinct d before waited
    · rw [id]
      exact known.ne'
  refine ⟨fun k client' present engaged => ?_, fun d listed waiting => ?_, fun fault recorded => ?_⟩
  · have kept {client : MuxClient} (before : (S.client k).1 = some client) (asked : client.state.engaged)
        (device : client'.connectDevice = client.connectDevice) :=
      device ▸ (strict.asked k client before asked).elim still
    cases change.turn linked.roster k with
    | moved move =>
      obtain ⟨client, _, before, _, same⟩ := move.backward present
      exact kept before (same.engaged engaged) same.device
    | polled events before after =>
      rw [after] at present
      obtain rfl := Option.some.inj present
      exact kept (congrArg Prod.fst before) (by simpa using engaged) (by simp)
    | requested tag device own before idle holds record owner after asks =>
      rw [after] at present
      obtain rfl := Option.some.inj present
      obtain ⟨d, listed, rfl, able⟩ := asks
      refine still (linked.registry.numbered d listed) fun d' listed' waiting same => ?_
      obtain rfl := linked.registry.ids d' listed' d listed same
      cases (able.resolve_right ready).symm.trans waiting
    | told c devents before pending holds record owner shown posts answers after =>
      rw [after] at present
      obtain rfl := Option.some.inj present
      exact kept (congrArg Prod.fst before) (by simp [pending, ClientState.engaged]) rfl
    | accepted _ _ _ _ _ after | refused _ _ _ _ _ _ _ _ _ _ _ after =>
      rw [after] at present
      obtain rfl := Option.some.inj present
      simp [newClient, ClientState.engaged] at engaged
    | closed before cause farewell after => simp [after] at present
  · rcases init listed waiting with ⟨before, waited, -, fewer⟩ | ⟨-, none⟩
    · exact List.subset_nil.mp (strict.inert d before waited ▸ fewer.resolve_right ready)
    · exact none
  · rcases change.faults recorded with old | free
    · exact strict.clean fault old
    · cases fault with
      | releasedConnection c => rfl
      | uninitialisedSequence d => exact absurd free id
      | uninitialisedConnections d => exact absurd free ready
      | discardedConnections d => exact absurd free ready

/-- A client that is engaged afterwards keeps its connection, unless memory runs out or a handshake
discards it. -/
theorem SysStep.kept (change : SysStep lax served S S') (ready : ¬lax.early) (rich : ¬lax.poor) (linked : Linked S)
    {d : DevPtr} {c : ConnPtr} {k : ClientPtr} (holding : S.Holds d c) (named : S.clientOf c = some k)
    {client' : MuxClient} (present' : (S'.client k).1 = some client') (engaged : client'.state.engaged) :
    S'.Holds d c ∧ S'.clientOf c = some k := by
  have old : c ≠ S.nextConn := fun same => linked.links.not_holds_next d (same ▸ holding)
  have alive : S'.clientOf c = some k := by
    cases change.connTurn c with
    | same after => rwa [Sys.clientOf, after]
    | went holds before run settled dev owned state after => simpa [Sys.clientOf, before, after, owned] using named
    | began next | failed next => exact absurd next old
    | ended holds before run parted after =>
      obtain ⟨k', owner, idle⟩ := parted.resolve_left rich
      obtain rfl : k' = k := by simpa [Sys.clientOf, before, owner] using named
      simp [idle client' present', ClientState.engaged] at engaged
  refine ⟨(change.held_after linked.registry holding fun gone => ?_).resolve_right fun early => ready early.2, alive⟩
  simp [Sys.clientOf, gone] at alive

/-- An engaged client has a connection, unless memory runs out or a handshake discards it. -/
private theorem SysStep.paired (change : SysStep lax served S S') (ready : ¬lax.early) (rich : ¬lax.poor)
    (linked : Linked S)
    (paired : Paired S) : Paired S' := by
  intro k client' present engaged
  have stays {client : MuxClient} (before : (S.client k).1 = some client) (asked : client.state.engaged) :
      ∃ d c, S'.Holds d c ∧ S'.clientOf c = some k := by
    obtain ⟨d, c, holding, named⟩ := paired k client before asked
    exact ⟨d, c, change.kept ready rich linked holding named present engaged⟩
  cases change.turn linked.roster k with
  | moved move =>
    obtain ⟨client, _, before, _, same⟩ := move.backward present
    exact stays before (same.engaged engaged)
  | polled events before after =>
    rw [after] at present
    obtain rfl := Option.some.inj present
    exact stays (by rw [before]) (by simpa using engaged)
  | accepted fd number next fresh free after =>
    rw [after] at present
    obtain rfl := Option.some.inj present
    simp [newClient, ClientState.engaged] at engaged
  | requested tag device own before idle holds record owner after =>
    exact ⟨_, _, holds, by simp [Sys.clientOf, record, owner]⟩
  | told c devents before pending => exact stays (by rw [before]) (by simp [pending, ClientState.engaged])
  | refused c before pending => exact stays (by rw [before]) (by simp [pending, ClientState.engaged])
  | closed before cause farewell after => simp [after] at present

private theorem SysStep.rooted (change : SysStep lax served S S') (linked : Linked S) (rooted : Rooted S) :
    Rooted S' where
  held c m' record opened := by
    rcases change.record record with ⟨m, before, dev, -, state⟩ | ⟨rfl, log, began⟩
    · rw [dev]
      have holds : S.Holds m.dev c := state.elim (fun same => rooted.held c m before (same ▸ opened)) And.left
      refine (change.held_after linked.registry holds (by simp [record])).resolve_right fun early => ?_
      rcases state with same | ⟨-, active⟩
      · cases (rooted.waiting m.dev c m holds early.1 before).symm.trans (same.symm.trans opened)
      · cases active.symm.trans early.1
    · cases began.waiting.symm.trans opened
  waiting d c m' holding init record := by
    rcases change.record record with ⟨m, before, dev, -, state⟩ | ⟨rfl, log, began⟩
    · have old : S.Holds d c := by
        refine (change.held_before holding).resolve_right ?_
        rintro ⟨rfl, -⟩
        simp [linked.links.fresh _ (Nat.le_refl _)] at before
      rcases (change.devTurn d).init holding.1 init with ⟨-, waited, -⟩ | ⟨-, none⟩
      · rcases state with same | ⟨-, active⟩
        · rw [same]
          exact rooted.waiting d c m old waited before
        · rw [(linked.links.record old (Prod.ext before rfl)).1] at active
          cases active.symm.trans waited
      · simpa [none] using holding.2
    · exact began.waiting

/-- Every step keeps the invariant. -/
theorem SysStep.sound (change : SysStep lax served S S') (sound : Sound lax S) : Sound lax S' where
  linked := change.linked sound.linked
  conns := change.conns sound.linked.links sound.conns
  acked := fun c => (change.connRun sound.linked.links c).acked (sound.acked c)
  clients := change.clients_ok sound.linked sound.clients
  wires := change.wires sound.linked.registry sound.wires
  rooted := change.rooted sound.linked sound.rooted
  numbered := fun d recorded => (change.faults recorded).elim (sound.numbered d) id
  released := by
    rcases sound.released with rash | poor | clean
    · exact .inl rash
    · exact .inr (.inl poor)
    · by_cases free : lax.rash ∨ lax.poor
      · exact free.imp_right .inl
      · exact .inr (.inr fun c recorded => (change.faults recorded).elim (clean c) free)
  unharmed := by
    by_cases rude : lax.rude
    · exact .inl rude
    · exact .inr (change.unharmed rude (sound.unharmed.resolve_left rude))
  strict := by
    by_cases early : lax.early
    · exact .inl early
    · exact .inr (change.strict early sound.linked (sound.strict.resolve_left early))
  paired := by
    by_cases early : lax.early
    · exact .inl early
    · by_cases poor : lax.poor
      · exact .inr (.inl poor)
      · exact .inr (.inr (change.paired early poor sound.linked
          ((sound.paired.resolve_left early).resolve_left poor)))

/-- The invariant holds along every run of the system. -/
theorem SysRun.sound (changes : SysRun lax served S S') (sound : Sound lax S) : Sound lax S' := by
  induction changes with
  | refl => exact sound
  | tail _ change ih => exact change.sound ih

/-- So does whatever else the steps of a sound system preserve. -/
theorem SysRun.keeps {motive : Sys → Prop} (changes : SysRun lax served S S') (sound : Sound lax S)
    (keeps : ∀ S S', Sound lax S → SysStep lax served S S' → motive S → motive S') (holds : motive S) : motive S' := by
  induction changes with
  | refl => exact holds
  | tail earlier change ih => exact keeps _ _ (SysRun.sound earlier sound) change ih

theorem SysRun.connRun (changes : SysRun lax served S S') (sound : Sound lax S) (c : ConnPtr) :
    ConnRun (lax.hears c) (S.conn c) (S'.conn c) := by
  induction changes with
  | refl => exact .refl
  | tail earlier change ih => exact ih.trans (change.connRun (SysRun.sound earlier sound).linked.links c)

end Parties

/-- The system at the start of the daemon. -/
theorem sound_initial (lax : Laxity) : Sound lax Daemon.initial.sys where
  linked :=
    { registry := ⟨List.nodup_nil, by simp [Daemon.sys, Daemon.initial, Mux.initial],
        by simp [Daemon.sys, Daemon.initial, Mux.initial], by simp [Daemon.sys, Daemon.initial, Mux.initial],
        fun _ _ => rfl, fun _ => rfl⟩
      roster := ⟨List.nodup_nil, by simp [Daemon.sys, Daemon.initial, Clients.initial], fun _ _ => rfl,
        by simp [Daemon.sys, Daemon.initial, Clients.initial]⟩
      links := ⟨by simp [Daemon.sys, Daemon.initial, Mux.initial],
        by simp [Sys.Holds, Daemon.sys, Daemon.initial, Mux.initial],
        by simp [Sys.Holds, Daemon.sys, Daemon.initial, Mux.initial], fun _ _ => rfl⟩ }
  conns := fun _ => ⟨logOk_nil, trivial⟩
  acked := fun _ => trivial
  clients := fun _ => .inl rfl
  wires := fun _ => WireOk.unused lax.early
  rooted := ⟨by simp [Daemon.sys, Daemon.initial, Mux.initial],
    by simp [Sys.Holds, Daemon.sys, Daemon.initial, Mux.initial]⟩
  numbered := by simp [Daemon.sys, Daemon.initial, Mux.initial]
  strict := .inr ⟨by simp [Daemon.sys, Daemon.initial, Clients.initial],
    by simp [Daemon.sys, Daemon.initial, Mux.initial], by simp [Daemon.sys, Daemon.initial, Mux.initial]⟩
  paired := .inr (.inr (by simp [Paired, Daemon.sys, Daemon.initial, Clients.initial]))
  released := .inr (.inr (by simp [Daemon.sys, Daemon.initial, Mux.initial]))
  unharmed := .inr (by simp [Daemon.sys, Daemon.initial, Clients.initial, Clients.harm])

end Usbmuxd
