import Usbmuxd.Machine.Sound

/-! # The client side, seen by the system

Every function that works on clients alone moves each of them as the client machine allows. The
functions that queue a message also say exactly when it is queued and what becomes of the record.
-/

namespace Usbmuxd

open Collection

/-- A client as the system sees it. -/
def Clients.view (s : Clients) (k : ClientPtr) : ClientView := (s.client k, s.log k)

/-- Every client goes on, none comes or goes, and no released record is used. -/
structure ClientsMove (lax : Laxity) (served : Option ClientPtr) (s s' : Clients) : Prop where
  list : s'.clientList = s.clientList
  next : s'.nextClient = s.nextClient
  harm : s.harm <+: s'.harm
  mild : ∀ k, .releasedClient k ∈ s'.harm → .releasedClient k ∈ s.harm
  views : ∀ k, ClientMove (lax.rules served s'.harm k) (s.view k) (s'.view k)

/-- Nothing of the records and logs changes. -/
structure Untouched (s s' : Clients) : Prop where
  list : s'.clientList = s.clientList
  next : s'.nextClient = s.nextClient
  client : s'.client = s.client
  log : s'.log = s.log
  harm : s'.harm = s.harm

/-- One client gets a new record and more log. -/
structure Appended (k : ClientPtr) (client' : MuxClient) (events : List ClientEvent) (s s' : Clients) : Prop where
  list : s'.clientList = s.clientList
  next : s'.nextClient = s.nextClient
  client : s'.client = Function.update s.client k (some client')
  log : s'.log = Function.update s.log k (s.log k ++ events)
  harm : s'.harm = s.harm

namespace ClientsMove

variable {lax : Laxity} {served : Option ClientPtr} {s s' s'' : Clients}

theorem refl (s : Clients) : ClientsMove lax served s s :=
  ⟨rfl, rfl, List.prefix_refl _, fun _ member => member, fun _ => .refl⟩

theorem trans (first : ClientsMove lax served s s') (second : ClientsMove lax served s' s'') :
    ClientsMove lax served s s'' where
  list := second.list.trans first.list
  next := second.next.trans first.next
  harm := first.harm.trans second.harm
  mild := fun k member => first.mild k (second.mild k member)
  views := fun k => by
    have relaxed : ClientMove (lax.rules served s''.harm k) (s.view k) (s'.view k) :=
      (first.views k).mono id (fun _ _ told => told) (fun _ _ _ told => told) id id (second.harm.subset ·)
    exact relaxed.trans (second.views k)

private theorem of_view {k : ClientPtr} (list : s'.clientList = s.clientList) (next : s'.nextClient = s.nextClient)
    (harm : s.harm <+: s'.harm) (mild : ∀ k, .releasedClient k ∈ s'.harm → .releasedClient k ∈ s.harm)
    (others : ∀ other, other ≠ k → s'.view other = s.view other)
    (move : ClientMove (lax.rules served s'.harm k) (s.view k) (s'.view k)) : ClientsMove lax served s s' := by
  refine ⟨list, next, harm, mild, fun other => ?_⟩
  by_cases same : other = k
  · subst same
    exact move
  · rw [others other same]

theorem of_untouched (same : Untouched s s') : ClientsMove lax served s s' := by
  refine ⟨same.list, same.next, same.harm ▸ List.prefix_rfl, by rw [same.harm]; exact fun _ member => member,
    fun k => ?_⟩
  have equal : s'.view k = s.view k := by simp [Clients.view, same.client, same.log]
  rw [equal]

/-- One client takes a step that is not a message. -/
theorem of_appended {k : ClientPtr} {client client' : MuxClient} {events : List ClientEvent}
    (appended : Appended k client' events s s') (present : s.client k = some client)
    (change : ClientStep (lax.rules served s'.harm k) (some client, s.log k) (some client', s.log k ++ events)) :
    ClientsMove lax served s s' := by
  refine of_view (k := k) appended.list appended.next (appended.harm ▸ List.prefix_rfl)
    (by rw [appended.harm]; exact fun _ member => member) (fun other different => ?_) ?_
  · simp [Clients.view, appended.client, appended.log, different]
  · simp only [Clients.view, appended.client, appended.log, Function.update_self, present]
    exact .single change

/-- Storing to the record of a client. -/
theorem modify {k : ClientPtr} {client : MuxClient} {f : MuxClient → MuxClient} (present : s.client k = some client)
    (change : ClientStep (lax.rules served s.harm k) (some client, s.log k) (some (f client), s.log k)) :
    ClientsMove lax served s (s.modify k f) := by
  simp only [Clients.modify, present]
  have appended : Appended k (f client) [] s (s.setClient k (f client)) :=
    ⟨rfl, rfl, rfl, by simp [Clients.setClient], rfl⟩
  refine of_appended appended present ?_
  rw [List.append_nil]
  exact change

/-- A client that is there stays there. -/
theorem present (move : ClientsMove lax served s s') {k : ClientPtr} {client : MuxClient}
    (known : s.client k = some client) : ∃ client' events, s'.client k = some client' ∧
      s'.log k = s.log k ++ events ∧ ClientKept (lax.rules served s'.harm k) client client' events := by
  obtain ⟨client', events, after, kept⟩ := (move.views k).forward known
  exact ⟨client', events, congrArg Prod.fst after, congrArg Prod.snd after, kept⟩

end ClientsMove

theorem Untouched.refl (s : Clients) : Untouched s s := ⟨rfl, rfl, rfl, rfl, rfl⟩

@[simp] theorem harm_fault (s : Clients) (fault : ClientFault) :
    (s.fault fault).harm = s.harm ++ [fault].filter ClientFault.serious := List.filter_append ..

theorem untouched_nullBuffer (s : Clients) (k : ClientPtr) : Untouched s (s.fault (.nullBuffer k)) :=
  ⟨rfl, rfl, rfl, rfl, by simp [ClientFault.serious]⟩

section Projection

variable (s : Daemon) (x : Clients)

@[simp] theorem setClients_clients : s.setClients s.clients = s := rfl

@[simp] theorem setClients_setClients (y : Clients) : (s.setClients x).setClients y = s.setClients y := rfl

private theorem sys_setClients : (s.setClients x).sys =
    { s.sys with clientList := x.clientList, client := x.view, nextClient := x.nextClient, harm := x.harm } := rfl

@[simp] theorem sys_setClient (k : ClientPtr) (client : MuxClient) :
    (s.setClients (x.setClient k client)).sys =
      (s.setClients x).sys.setClient k (some client, ((s.setClients x).sys.client k).2) := by
  have views : (x.setClient k client).view = Function.update x.view k (some client, x.log k) := Update.pair_left ..
  rw [sys_setClients, views]
  rfl

@[simp] theorem sys_release (k : ClientPtr) :
    (s.setClients (x.release k)).sys =
      (s.setClients x).sys.release k (((s.setClients x).sys.client k).2 ++ [.closed]) := by
  have views : (x.release k).view = Function.update x.view k (none, x.log k ++ [.closed]) := Update.pair ..
  rw [sys_setClients, views]
  rfl

/-- Clients that move on their own are a step of the system. -/
theorem ClientsMove.run {lax : Laxity} {served : Option ClientPtr} (move : ClientsMove lax served s.clients x) :
    SysRun lax served s.sys (s.setClients x).sys := by
  rw [sys_setClients, move.list, move.next]
  exact .single (.clients s.sys x.view x.harm ⟨move.harm, move.mild⟩ move.views)

theorem Untouched.sys (same : Untouched s.clients x) : (s.setClients x).sys = s.sys := by
  have views : x.view = s.clients.view := by
    funext k
    simp [Clients.view, same.client, same.log]
  rw [sys_setClients, same.list, same.next, same.harm, views]
  rfl

theorem Appended.sys {k : ClientPtr} {client' : MuxClient} {events : List ClientEvent}
    (appended : Appended k client' events s.clients x) :
    (s.setClients x).sys = s.sys.setClient k (some client', (s.sys.client k).2 ++ events) := by
  have views : x.view = Function.update s.clients.view k (some client', s.clients.log k ++ events) := by
    have pair := Update.pair s.clients.client s.clients.log k (some client') (s.clients.log k ++ events)
    rwa [← appended.client, ← appended.log] at pair
  rw [sys_setClients, appended.list, appended.next, appended.harm, views]
  rfl

end Projection

/-- A message is queued for one client. -/
structure Enqueued (k : ClientPtr) (client : MuxClient) (capacity tag : UInt32) (msg : MsgType) (payload : Bytes)
    (s s' : Clients) : Prop where
  list : s'.clientList = s.clientList
  next : s'.nextClient = s.nextClient
  stored : s'.client = Function.update s.client k (some (client.grown capacity tag msg payload))
  logged : s'.log = Function.update s.log k (s.log k ++ [.queued tag msg payload])
  harm : s.harm <+: s'.harm
  mild : ∀ k, .releasedClient k ∈ s'.harm → .releasedClient k ∈ s.harm
  room : .overrun k ∈ s'.harm ∨ ({ client with obCapacity := capacity } : MuxClient).HasRoom payload

namespace Enqueued

variable {k : ClientPtr} {client : MuxClient} {capacity tag : UInt32} {msg : MsgType} {payload : Bytes}

variable {lax : Laxity} {served : Option ClientPtr} {s s' : Clients}

theorem posts (queues : Enqueued k client capacity tag msg payload s s') (told : lax.tells msg payload) :
    Posts (lax.rules served s'.harm k) client capacity msg payload := ⟨told, queues.room⟩

theorem hurt {S : Sys} (queues : Enqueued k client capacity tag msg payload s s') (harm : S.harm = s.harm) :
    S.Hurt s'.harm := ⟨harm ▸ queues.harm, harm ▸ queues.mild⟩

private theorem move (queues : Enqueued k client capacity tag msg payload s s') (present : s.client k = some client)
    (idle : client.state = .command ∨ client.state = .listen) (told : lax.tells msg payload) :
    ClientsMove lax served s s' := by
  refine .of_view (k := k) queues.list queues.next queues.harm queues.mild (fun other different => ?_) ?_
  · simp [Clients.view, queues.stored, queues.logged, different]
  · simp only [Clients.view, queues.stored, queues.logged, Function.update_self, present]
    exact .single (.queue client (s.log k) capacity tag msg payload idle (queues.posts told))

private theorem sys {s : Daemon} {x : Clients} (queues : Enqueued k client capacity tag msg payload s.clients x) :
    (s.setClients x).sys = s.sys.post k (some (client.grown capacity tag msg payload),
      (s.sys.client k).2 ++ [.queued tag msg payload]) x.harm := by
  have views : x.view = Function.update s.clients.view k
      (some (client.grown capacity tag msg payload), s.clients.log k ++ [.queued tag msg payload]) := by
    have pair := Update.pair s.clients.client s.clients.log k (some (client.grown capacity tag msg payload))
      (s.clients.log k ++ [.queued tag msg payload])
    rwa [← queues.stored, ← queues.logged] at pair
  rw [sys_setClients, queues.list, queues.next, views]
  rfl

end Enqueued

section Enqueued

variable (env : Env) (k : ClientPtr) (s : Clients) (client : MuxClient)

/-- What queueing a message does: it fails without effect, for lack of a buffer or memory, or the
message is appended. -/
inductive Queued (tag : UInt32) (msg : MsgType) (payload : Bytes) : ℤ × Clients → Prop
  | failed {s' : Clients} (same : Untouched s s') (why : client.obBuf.isSome → ¬∀ n, (env.sock n).alloc = true) :
      Queued tag msg payload (-1, s')
  | done {s' : Clients} {capacity : UInt32} (queues : Enqueued k client capacity tag msg payload s s') :
      Queued tag msg payload (asInt (MuxClient.messageLength payload), s')

/-- What `memcpy` may do to memory does not concern the records. -/
private theorem checkRoom_spec (payload : Bytes) :
    ∃ faults, s.checkRoom k client payload = { s with faults := faults } ∧
      s.harm <+: ({ s with faults := faults } : Clients).harm ∧
      (∀ k, .releasedClient k ∈ ({ s with faults := faults } : Clients).harm → .releasedClient k ∈ s.harm) ∧
      (.overrun k ∈ ({ s with faults := faults } : Clients).harm ∨ client.HasRoom payload) := by
  by_cases room : client.HasRoom payload
  · exact ⟨s.faults, if_pos room, List.prefix_refl _, fun _ member => member, .inr room⟩
  · refine ⟨(s.fault (.overrun k)).faults, (if_neg room : _ = s.fault (.overrun k)), ?_, ?_, .inl ?_⟩
    · exact (harm_fault s _).symm ▸ List.prefix_append ..
    · simp [Clients.harm, Clients.fault, ClientFault.serious]
    · simp [Clients.harm, Clients.fault, ClientFault.serious]

variable {k s client} in
theorem outputBufferAddMessage_queued (present : s.client k = some client) (tag : UInt32) (msg : MsgType)
    (payload : Bytes) :
    Queued env k s client tag msg payload (outputBufferAddMessage env k tag msg payload s) := by
  simp only [outputBufferAddMessage, present]
  split
  · split
    · obtain ⟨faults, checked, grown, mild, room⟩ := checkRoom_spec k s.bump
        { client with obCapacity := client.enlarged payload } payload
      rw [checked]
      exact .done ⟨rfl, rfl, rfl, rfl, grown, mild, room⟩
    · next full => exact .failed ⟨rfl, rfl, rfl, rfl, rfl⟩ fun _ plenty => full (plenty _)
  · split
    · next missing =>
      refine .failed (untouched_nullBuffer s k) fun buffer => ?_
      simp [missing] at buffer
    · next queue buffer =>
      obtain ⟨faults, checked, grown, mild, room⟩ := checkRoom_spec k s client payload
      rw [checked]
      have same : client.enqueue tag msg payload queue = client.grown client.obCapacity tag msg payload := by
        simp only [MuxClient.grown, buffer, Option.getD_some]
        rfl
      rw [same]
      exact .done ⟨rfl, rfl, rfl, rfl, grown, mild, room⟩

variable {k s client} in
theorem sendPlist_queued (present : s.client k = some client) (tag : UInt32) (plist : Plist) :
    Queued env k s client tag .plist (env.plistToXml plist) (sendPlist env k tag plist s) := by
  simp only [sendPlist]
  split
  · have queued := outputBufferAddMessage_queued (s := s.bump) env present tag .plist (env.plistToXml plist)
    generalize outputBufferAddMessage env k tag .plist (env.plistToXml plist) s.bump = r at queued
    cases queued with
    | failed same why => exact .failed ⟨same.list, same.next, same.client, same.log, same.harm⟩ why
    | done queues =>
      exact .done ⟨queues.list, queues.next, queues.stored, queues.logged, queues.harm, queues.mild, queues.room⟩
  · next full => exact .failed ⟨rfl, rfl, rfl, rfl, rfl⟩ fun _ plenty => full (plenty _)

variable {env k s client} in
/-- Queueing is a move of the client machine. -/
theorem Queued.move {lax : Laxity} {served : Option ClientPtr} {tag : UInt32} {msg : MsgType} {payload : Bytes}
    {r : ℤ × Clients} (queued : Queued env k s client tag msg payload r) (present : s.client k = some client)
    (idle : client.state = .command ∨ client.state = .listen) (told : lax.tells msg payload) :
    ClientsMove lax served s r.2 := by
  cases queued with
  | failed same why => exact .of_untouched same
  | done queues => exact queues.move present idle told

/-- A length below 2 GiB survives the conversion to `int`. -/
theorem asInt_messageLength {payload : Bytes} (small : payload.length + 16 < 2 ^ 31) :
    0 ≤ asInt (MuxClient.messageLength payload) := by
  have value : (MuxClient.messageLength payload).toNat = payload.length + 16 := by
    have below : payload.length < 2 ^ 32 := by omega
    simp only [MuxClient.messageLength, UInt32.toNat_add, UInt32.toNat_ofNat_of_lt' below]
    simp
    omega
  rw [asInt, value, if_pos small]
  omega

/-- Whether a property list announces a device or its removal. -/
def Plist.announces (plist : Plist) : Bool :=
  (plist.getItem "MessageType").bind Plist.stringVal? = some "Attached" ||
    (plist.getItem "MessageType").bind Plist.stringVal? = some "Detached"

/-- A message that announces no device: a result, a list, a record, or a pairing. -/
def Routine (msg : MsgType) (payload : Bytes) : Prop :=
  msg = .result ∨ msg = .devicePaired ∨ msg = .plist ∧ ∃ plist, payload = env.plistToXml plist ∧ plist.announces = false

/-- The message that carries a result, in either protocol. -/
def ResultMessage (number : UInt32) (msg : MsgType) (payload : Bytes) : Prop :=
  msg = .result ∧ payload = le32 number ∨ msg = .plist ∧ payload = env.plistToXml (.result number)

/-- What the functions of the daemon may rely on: allocations succeed unless the run is poor, and
routine messages and results may be sent. -/
structure Grants (lax : Laxity) : Prop where
  plenty : lax.poor ∨ ∀ n, (env.sock n).alloc = true
  routine : ∀ msg payload, Routine env msg payload → lax.tells msg payload
  answers : ∀ number msg payload, ResultMessage env number msg payload → lax.answers number msg payload

/-- Devices may come and go, and that may be announced. -/
structure Laxity.Announces (lax : Laxity) : Prop where
  tells : ∀ msg payload, lax.tells msg payload
  listens : lax.listens
  travels : lax.travels

theorem routine_plist {plist : Plist} (routine : plist.announces = false) : Routine env .plist (env.plistToXml plist) :=
  .inr (.inr ⟨rfl, plist, rfl, routine⟩)

variable {env} in
theorem ResultMessage.routine {number : UInt32} {msg : MsgType} {payload : Bytes}
    (result : ResultMessage env number msg payload) : Routine env msg payload := by
  rcases result with ⟨rfl, _⟩ | ⟨rfl, rfl⟩
  · exact .inl rfl
  · exact routine_plist env rfl

/-- `send_result`: no effect, or exactly one result behind the message that carries it. -/
inductive Resulted (tag number : UInt32) : ℤ × Clients → Prop
  | failed {s' : Clients} {res : ℤ} (negative : res < 0) (same : Untouched s s')
      (why : client.obBuf.isSome → ¬∀ n, (env.sock n).alloc = true) : Resulted tag number (res, s')
  | done {s' : Clients} {res : ℤ} {capacity : UInt32} {msg : MsgType} {payload : Bytes} (ok : 0 ≤ res)
      (queues : Enqueued k client capacity tag msg payload s s') (result : ResultMessage env number msg payload) :
      Resulted tag number (res, s'.logClient k (.result tag number))

variable {k s client} in
theorem sendResult_resulted (present : s.client k = some client) (tag number : UInt32) :
    Resulted env k s client tag number (sendResult env k tag number s) := by
  have behind {msg : MsgType} {payload : Bytes} {r : ℤ × Clients} (queued : Queued env k s client tag msg payload r)
      (result : ResultMessage env number msg payload) (positive : 0 ≤ asInt (MuxClient.messageLength payload)) :
      Resulted env k s client tag number (if r.1 < 0 then r else (r.1, r.2.logClient k (.result tag number))) := by
    cases queued with
    | failed same why => exact .failed (by decide) same why
    | done queues =>
      rw [if_neg (by omega)]
      exact .done positive queues result
  simp only [sendResult]
  split
  · exact behind (sendPlist_queued env present tag (.result number)) (.inr ⟨rfl, rfl⟩)
      (asInt_messageLength (env.resultXml_fits number))
  · exact behind (outputBufferAddMessage_queued env present tag .result (le32 number)) (.inl ⟨rfl, rfl⟩)
      (asInt_messageLength (by simp [le32]))

variable {env k s client} in
/-- Results answer the commands of the client that is being served. -/
theorem Resulted.move {lax : Laxity} {tag number : UInt32} {r : ℤ × Clients}
    (resulted : Resulted env k s client tag number r) (grants : Grants env lax) (present : s.client k = some client)
    (idle : client.state = .command ∨ client.state = .listen) : ClientsMove lax (some k) s r.2 := by
  cases resulted with
  | failed negative same why => exact .of_untouched same
  | @done s' res capacity msg payload ok queues result =>
    refine .of_view (k := k) queues.list queues.next queues.harm queues.mild (fun other different => ?_) ?_
    · simp [Clients.view, Clients.logClient, queues.stored, queues.logged, different]
    · have after : (s'.logClient k (.result tag number)).view k = (some (client.grown capacity tag msg payload),
          s.log k ++ [.queued tag msg payload, .result tag number]) := by
        simp [Clients.view, Clients.logClient, queues.stored, queues.logged]
      have posts : Posts (lax.rules (some k) s'.harm k) client capacity msg payload :=
        queues.posts (grants.routine _ _ result.routine)
      rw [after, Clients.view, present]
      exact .single (.reply client (s.log k) capacity tag number msg payload rfl idle posts
        (grants.answers _ _ _ result))

/-- What `client_notify_connect` stores. -/
def MuxClient.notified (client : MuxClient) (number : UInt32) : MuxClient :=
  if number = resultOk then { client with state := .connecting2, events := ⟨false, true⟩, ibBuf := none }
  else { client with state := .command }

/-- `client_notify_connect` for a client that waits for its answer. -/
inductive Notified (number : UInt32) : ℤ × Clients → Prop
  | failed {s' : Clients} (same : Untouched s s') (why : client.obBuf.isSome → ¬∀ n, (env.sock n).alloc = true) :
      Notified number (-1, s')
  | done {s₁ s' : Clients} {capacity : UInt32} {msg : MsgType} {payload : Bytes}
      (queues : Enqueued k client capacity client.connectTag msg payload s s₁)
      (result : ResultMessage env number msg payload)
      (appended : Appended k ((client.grown capacity client.connectTag msg payload).notified number)
        [.result client.connectTag number] s₁ s') : Notified number (0, s')

variable {k s client} in
theorem clientNotifyConnect_notified (present : s.client k = some client) (pending : client.state = .connecting1)
    (number : UInt32) : Notified env k s client number (clientNotifyConnect env k number s) := by
  simp only [clientNotifyConnect, present, pending, ne_eq, not_true_eq_false, if_false]
  have resulted := sendResult_resulted env present client.connectTag number
  generalize sendResult env k client.connectTag number s = r at resulted
  cases resulted with
  | failed negative same why =>
    rw [if_pos negative]
    exact .failed same why
  | @done s₁ res capacity msg payload ok queues result =>
    rw [if_neg (by simpa using ok)]
    have stored : (s₁.logClient k (.result client.connectTag number)).client k =
        some (client.grown capacity client.connectTag msg payload) := by simp [Clients.logClient, queues.stored]
    split
    · next accepted =>
      refine .done queues result ?_
      simp only [Clients.modify, stored, MuxClient.notified, if_pos accepted]
      exact ⟨rfl, rfl, rfl, rfl, rfl⟩
    · next refused =>
      refine .done queues result ?_
      simp only [Clients.modify, stored, MuxClient.notified, if_neg refused]
      exact ⟨rfl, rfl, rfl, rfl, rfl⟩

/-- The message and the record behind a notification, seen by the system. -/
theorem sys_notified {k : ClientPtr} {client client' : MuxClient} {capacity tag number : UInt32} {msg : MsgType}
    {payload : Bytes} {log : List ClientEvent} {s : Daemon} {x y : Clients} (view : s.sys.client k = (some client, log))
    (queues : Enqueued k client capacity tag msg payload s.clients x)
    (appended : Appended k client' [.result tag number] x y) :
    (s.setClients y).sys =
      s.sys.post k (some client', log ++ [.queued tag msg payload, .result tag number]) x.harm := by
  rw [← setClients_setClients s x, Appended.sys (s.setClients x) y appended, queues.sys, view]
  simp [Sys.post, Sys.setClient]

variable {k s client} in
/-- A device event is queued in the protocol of its client. -/
theorem sendDeviceEvent_queued (present : s.client k = some client) (msg : MsgType) (plist : Plist) (payload : Bytes) :
    ∃ msg' payload', (msg' = .plist ∧ payload' = env.plistToXml plist ∨ msg' = msg ∧ payload' = payload) ∧
      Queued env k s client 0 msg' payload' (sendDeviceEvent env msg plist payload k s) := by
  rw [sendDeviceEvent]
  split
  · exact ⟨_, _, .inl ⟨rfl, rfl⟩, sendPlist_queued env present 0 plist⟩
  · exact ⟨_, _, .inr ⟨rfl, rfl⟩, outputBufferAddMessage_queued env present 0 msg payload⟩

variable {k s client} in
theorem sendDeviceEvent_move {lax : Laxity} (served : Option ClientPtr) (present : s.client k = some client)
    (idle : client.state = .command ∨ client.state = .listen) {msg : MsgType} {plist : Plist} {payload : Bytes}
    (told : lax.tells .plist (env.plistToXml plist) ∧ lax.tells msg payload) :
    ClientsMove lax served s (sendDeviceEvent env msg plist payload k s).2 := by
  obtain ⟨_, _, ⟨rfl, rfl⟩ | ⟨rfl, rfl⟩, queued⟩ := sendDeviceEvent_queued env present msg plist payload
  · exact queued.move present idle told.1
  · exact queued.move present idle told.2

/-- A round over the listeners. -/
theorem notifyListeners_move {lax : Laxity} (served : Option ClientPtr) {send : ClientPtr → Clients → ℤ × Clients}
    (move : ∀ k s client, s.client k = some client → client.state = .listen → ClientsMove lax served s (send k s).2) :
    ClientsMove lax served s (notifyListeners send s) := by
  refine forEach_induct (motive := fun current => ClientsMove lax served s current) (.refl s) ?_
  intro k current before _
  split
  · next listening =>
    obtain ⟨client, present, state⟩ := (Option.any_eq_true ..).mp listening
    exact before.trans (move k current client present (by simpa using state))
  · exact before

/-- The messages of `send_device_remove` for one device may be sent. -/
def TellsRemoval (lax : Laxity) (deviceId : ℕ) : Prop :=
  lax.tells .plist (env.plistToXml (deviceIdPlist "Detached" deviceId)) ∧
    lax.tells .deviceRemove (le32 (UInt32.ofNat deviceId))

/-- The messages of `send_device_add` for one device may be sent. -/
def TellsArrival (lax : Laxity) (info : DeviceInfo) : Prop :=
  lax.tells .plist (env.plistToXml (createDeviceAttachedPlist info)) ∧ lax.tells .deviceAdd (deviceRecord info)

theorem clientDeviceRemove_move {lax : Laxity} (served : Option ClientPtr) {deviceId : ℕ}
    (told : TellsRemoval env lax deviceId) : ClientsMove lax served s (clientDeviceRemove env deviceId s) :=
  notifyListeners_move s served fun _ _ _ present listening =>
    sendDeviceEvent_move env served present (.inr listening) told

theorem clientDevicePaired_move {lax : Laxity} (grants : Grants env lax) (served : Option ClientPtr) (deviceId : ℕ) :
    ClientsMove lax served s (clientDevicePaired env deviceId s) := by
  refine notifyListeners_move s served fun _ _ _ present listening =>
    sendDeviceEvent_move env served present (.inr listening) ⟨?_, ?_⟩
  · exact grants.routine _ _ (routine_plist env rfl)
  · exact grants.routine _ _ (.inr (.inl rfl))

variable {k s client} in
/-- `client_set_events` on an allocated client. -/
theorem clientSetEvents_appended (present : s.client k = some client) (events : PollMask) :
    Appended k (client.masked events) [] s (clientSetEvents k events s) := by
  simp only [clientSetEvents, Clients.modify, present]
  exact ⟨rfl, rfl, rfl, by simp [Clients.setClient], rfl⟩

variable {k s client} in
/-- Reading from the tunnel consumes an answer of the socket and nothing else. -/
theorem clientRead_untouched (present : s.client k = some client) (len : UInt32) :
    Untouched s (clientRead env k len s).2 := by
  simp only [clientRead, present]
  split
  · exact .refl s
  · split
    · exact ⟨rfl, rfl, rfl, rfl, rfl⟩
    · exact ⟨rfl, rfl, rfl, rfl, rfl⟩
    · split <;> exact ⟨rfl, rfl, rfl, rfl, rfl⟩

/-- What is read from the tunnel is not empty and fits the request. -/
theorem clientRead_data {len : UInt32} {data : Bytes} (got : (clientRead env k len s).1 = some data) :
    data ≠ [] ∧ data.length ≤ len.toNat := by
  simp only [clientRead] at got
  split at got
  · cases got
  · split at got
    · cases got
    · split at got
      · cases got
      · cases got
      · split at got
        · cases got
        · next nonempty =>
          cases got
          exact ⟨nonempty, by simp⟩

variable {k s client} in
/-- Writing to the tunnel logs what the socket took. -/
theorem clientWrite_spec (present : s.client k = some client) (buffer : Bytes) :
    Untouched s (clientWrite env k buffer s).2 ∨ client.state = .connected ∧
      ∃ bytes, Appended k client [.tunnelled bytes] s (clientWrite env k buffer s).2 := by
  simp only [clientWrite, present]
  split
  · exact .inl (.refl s)
  · next connected =>
    split
    · exact .inl ⟨rfl, rfl, rfl, rfl, rfl⟩
    · exact .inl ⟨rfl, rfl, rfl, rfl, rfl⟩
    · next size _ =>
      refine .inr ⟨not_not.mp connected, buffer.take size, rfl, rfl, ?_, rfl, rfl⟩
      simp [Clients.logClient, Clients.bump, ← present]

variable {k s client} in
theorem clientWrite_move {lax : Laxity} (served : Option ClientPtr) (present : s.client k = some client)
    (buffer : Bytes) :
    ClientsMove lax served s (clientWrite env k buffer s).2 := by
  rcases clientWrite_spec env present buffer with same | ⟨connected, bytes, appended⟩
  · exact .of_untouched same
  · exact .of_appended appended present (.write client _ bytes connected)

/-- The socket takes no more than it is offered. -/
theorem clientWrite_le (buffer : Bytes) : (clientWrite env k buffer s).1 ≤ buffer.length := by
  simp only [clientWrite]
  split
  · simp only []
    omega
  · split
    · simp only []
      omega
    · split <;> simp only [] <;> omega

end Enqueued

end Usbmuxd
