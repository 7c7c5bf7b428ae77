import Usbmuxd.Model.Command
import Usbmuxd.ToMathlib.Blind

/-! # Nobody looks into command buffers

`handle_command` is given the frame, and nothing below it looks into a command buffer again. All of it
commutes with a change of what the buffers hold.
-/

namespace Usbmuxd

open Collection

/-- The client with other contents in its command buffer. -/
def MuxClient.mapInput (g : Bytes → Bytes) (client : MuxClient) : MuxClient :=
  { client with ibBuf := client.ibBuf.map g }

@[simp] theorem MuxClient.mapInput_obSize (g : Bytes → Bytes) (client : MuxClient) :
    (client.mapInput g).obSize = client.obSize := rfl

@[simp] theorem MuxClient.mapInput_obCapacity (g : Bytes → Bytes) (client : MuxClient) :
    (client.mapInput g).obCapacity = client.obCapacity := rfl

@[simp] theorem MuxClient.mapInput_obBuf (g : Bytes → Bytes) (client : MuxClient) :
    (client.mapInput g).obBuf = client.obBuf := rfl

/-- Other contents in the command buffers. -/
def Clients.mapInputs (g : ClientPtr → Bytes → Bytes) (s : Clients) : Clients :=
  { s with client := fun k => (s.client k).map (MuxClient.mapInput (g k)) }

def Daemon.mapInputs (g : ClientPtr → Bytes → Bytes) (s : Daemon) : Daemon := s.setClients (s.clients.mapInputs g)

section Clients

variable (env : Env) (g : ClientPtr → Bytes → Bytes) (k : ClientPtr) (s : Clients)

namespace Clients

@[simp] theorem mapInputs_client : (s.mapInputs g).client k = (s.client k).map (MuxClient.mapInput (g k)) := rfl

@[simp] theorem mapInputs_tick : (s.mapInputs g).tick = s.tick := rfl

private theorem mapInputs_setClient (client : MuxClient) :
    (s.mapInputs g).setClient k (client.mapInput (g k)) = (s.setClient k client).mapInputs g := by
  have stored (k' : ClientPtr) : Function.update (s.mapInputs g).client k (some (client.mapInput (g k))) k' =
      (Function.update s.client k (some client) k').map (MuxClient.mapInput (g k')) := by
    by_cases own : k' = k
    · subst own
      simp
    · simp [own]
  simp only [setClient, mapInputs, Clients.mk.injEq, true_and, and_true]
  exact funext stored

theorem mapInputs_modify {f : MuxClient → MuxClient} (blind : ∀ h client,
    f (client.mapInput h) = (f client).mapInput h) :
    (s.mapInputs g).modify k f = (s.modify k f).mapInputs g := by
  simp only [modify, mapInputs_client]
  cases s.client k with
  | none => rfl
  | some client =>
    simp only [Option.map_some, blind]
    exact mapInputs_setClient g k s (f client)

private theorem mapInputs_release : (s.mapInputs g).release k = (s.release k).mapInputs g := by
  have freed (k' : ClientPtr) : Function.update (s.mapInputs g).client k none k' =
      (Function.update s.client k none k').map (MuxClient.mapInput (g k')) := by
    by_cases own : k' = k
    · simp [own]
    · simp [own]
  simp only [release, logClient, mapInputs, Clients.mk.injEq, true_and, and_true]
  exact funext freed

private theorem mapInputs_checkRoom (client : MuxClient) (payload : Bytes) :
    (s.mapInputs g).checkRoom k (client.mapInput (g k)) payload = (s.checkRoom k client payload).mapInputs g := by
  rw [checkRoom, checkRoom, apply_ite (Clients.mapInputs g)]
  rfl

private theorem mapInputs_protoVersion : (s.mapInputs g).protoVersion k = s.protoVersion k := by
  rw [protoVersion, protoVersion, mapInputs_client, Option.map_map]
  rfl

private theorem mapInputs_listens : ((s.mapInputs g).client k).any (fun client => client.state = .listen) =
    (s.client k).any fun client => client.state = .listen := by
  rw [mapInputs_client, Option.any_map]
  rfl

end Clients

open Clients

private theorem outputBufferAddMessage_blind (tag : UInt32) (msg : MsgType) (payload : Bytes) :
    Blind mapInputs (outputBufferAddMessage env k tag msg payload) := by
  intro g s
  simp only [outputBufferAddMessage, mapInputs_client]
  cases s.client k with
  | none => rfl
  | some client =>
    have put (s : Clients) (client : MuxClient) (queue : Bytes) :
        (((s.mapInputs g).checkRoom k (client.mapInput (g k)) payload).setClient k
          ((client.mapInput (g k)).enqueue tag msg payload queue)).logClient k (.queued tag msg payload) =
        (((s.checkRoom k client payload).setClient k (client.enqueue tag msg payload queue)).logClient k
          (.queued tag msg payload)).mapInputs g := by
      rw [mapInputs_checkRoom]
      exact congrArg (·.logClient k (.queued tag msg payload))
        (mapInputs_setClient g k _ (client.enqueue tag msg payload queue))
    simp only [Option.map_some, MuxClient.mapInput_obSize, MuxClient.mapInput_obCapacity, mapInputs_tick]
    by_cases full : client.obCapacity - client.obSize < MuxClient.messageLength payload
    · by_cases memory : (env.sock s.tick).alloc = true
      · simp only [full, memory, if_true]
        exact congrArg (Prod.mk _) (put s.bump { client with obCapacity := client.enlarged payload } _)
      · simp only [full, memory, if_true]
        rfl
    · simp only [full, if_false, MuxClient.mapInput_obBuf]
      cases client.obBuf with
      | none => rfl
      | some queue => exact congrArg (Prod.mk _) (put s client queue)

private theorem sendPlist_blind (tag : UInt32) (plist : Plist) : Blind mapInputs (sendPlist env k tag plist) := by
  have added := outputBufferAddMessage_blind env k tag .plist (env.plistToXml plist)
  have sent (memory : Bool) : Blind mapInputs fun s => if memory = true then
      outputBufferAddMessage env k tag .plist (env.plistToXml plist) s.bump else (-1, s.bump) :=
    .ite (.update added fun _ _ => rfl) (.update (.pure (-1)) fun _ _ => rfl)
  exact .read (v := fun s : Clients => (env.sock s.tick).alloc) sent fun _ _ => rfl

private theorem sendResult_blind (tag number : UInt32) : Blind mapInputs (sendResult env k tag number) := by
  have sent (version : UInt32) : Blind mapInputs fun s => if version = 1 then sendPlist env k tag (.result number) s
      else outputBufferAddMessage env k tag .result (le32 number) s :=
    .ite (sendPlist_blind env k tag _) (outputBufferAddMessage_blind env k tag _ _)
  have logged (res : ℤ) : Blind mapInputs fun s => if res < 0 then (res, s) else
    (res, s.logClient k (.result tag number)) :=
    .ite (.pure res) (.update (.pure res) fun _ _ => rfl)
  exact .bind (.read sent (mapInputs_protoVersion · k)) logged

private theorem sendDeviceEvent_blind (msg : MsgType) (plist : Plist) (payload : Bytes) :
    Blind mapInputs (sendDeviceEvent env msg plist payload k) :=
  .read (h := fun version s => if version = 1 then sendPlist env k 0 plist s
      else outputBufferAddMessage env k 0 msg payload s)
    (fun _ => .ite (sendPlist_blind env k 0 plist) (outputBufferAddMessage_blind env k 0 msg payload))
    (mapInputs_protoVersion · k)

private theorem announceAll_blind (devices : List DeviceInfo) : Blind mapInputs (announceAll env k devices) := by
  induction devices with
  | nil => exact .pure true
  | cons info rest ih =>
    exact .bind (h := fun res s => if res < 0 then (false, s) else announceAll env k rest s)
      (sendDeviceEvent_blind env k _ _ _) fun _ => .ite (.pure false) ih

private theorem clientDevicePaired_mapInputs (deviceId : ℕ) :
    clientDevicePaired env deviceId (s.mapInputs g) = (clientDevicePaired env deviceId s).mapInputs g := by
  have told (k : ClientPtr) (s : Clients) :
      (if ((s.mapInputs g).client k).any (fun client => client.state = .listen) then
        (sendDevicePaired env deviceId k (s.mapInputs g)).2 else s.mapInputs g) =
      (if (s.client k).any (fun client => client.state = .listen) then
        (sendDevicePaired env deviceId k s).2 else s).mapInputs g := by
    rw [mapInputs_listens, apply_ite (mapInputs g), sendDevicePaired, sendDeviceEvent_blind env k]
  exact forEach_map (f := mapInputs g) (fun _ => rfl) told s

private theorem sendListenerList_blind (tag : UInt32) : Blind mapInputs (sendListenerList env k tag) := by
  intro g s
  have listeners : (s.mapInputs g).listeners = s.listeners := by
    simp only [Clients.listeners, mapInputs_listens]
    rfl
  have entries (asking : MuxClient) : (s.listeners.filterMap (s.mapInputs g).client).map
      (listenerEntry (asking.mapInput (g k))) = (s.listeners.filterMap s.client).map (listenerEntry asking) := by
    rw [List.map_filterMap, List.map_filterMap]
    refine congrArg (List.filterMap · s.listeners) (funext fun k' => ?_)
    rw [mapInputs_client, Option.map_map]
    rfl
  simp only [sendListenerList, mapInputs_client, listeners]
  cases s.client k with
  | none => rfl
  | some asking =>
    simp only [Option.map_some, entries]
    exact sendPlist_blind env k tag _ g s

private theorem sendSystemBuid_blind (tag : UInt32) : Blind mapInputs (sendSystemBuid env k tag) :=
  .read (v := fun s : Clients => (env.sock s.tick).buid) (h := fun buid s =>
    sendPlist env k tag (.dict [("BUID", .string buid)]) s.bump)
    (fun _ => .update (sendPlist_blind env k tag _) fun _ _ => rfl) fun _ _ => rfl

private theorem sendPairRecord_blind (tag : UInt32) (recordId : Option String) :
    Blind mapInputs (sendPairRecord env k tag recordId) := by
  cases recordId with
  | none => exact sendResult_blind env k tag errInval
  | some recordId =>
    intro g s
    have same : (env.sock (mapInputs g s).tick).record = (env.sock s.tick).record := rfl
    rcases record : (env.sock s.tick).record with _ | data
    · simp only [sendPairRecord, same, record]
      exact Blind.update (sendResult_blind env k tag errNoent) (fun _ _ => rfl) g s
    · simp only [sendPairRecord, same, record]
      exact Blind.update (sendPlist_blind env k tag _) (fun _ _ => rfl) g s

end Clients

section Commands

open Daemon

variable (env : Env) (k : ClientPtr)

private theorem answered_blind {f : Clients → ℤ × Clients} (blind : Blind Clients.mapInputs f) :
    Blind mapInputs fun s => answered (f s.clients) s := by
  intro g s
  simp only [mapInputs, Usbmuxd.answered, Daemon.setClients, blind g s.clients]

private theorem onClients_blind {ρ : Type} {f : Clients → ρ × Clients} (blind : Blind Clients.mapInputs f) :
    Blind mapInputs fun s => ((f s.clients).1, s.setClients (f s.clients).2) := by
  intro g s
  simp only [mapInputs, Daemon.setClients, blind g s.clients]

private theorem replyResult_blind (tag number : UInt32) : Blind mapInputs (replyResult env k tag number) :=
  answered_blind (sendResult_blind env k tag number)

private theorem startListen_blind : Blind mapInputs (startListen env k) := by
  have told (devices : List DeviceInfo) : Blind Clients.mapInputs fun s =>
      announceAll env k devices (s.modify k fun client => { client with state := .listen }) :=
    .update (announceAll_blind env k devices) fun g s => s.mapInputs_modify g k fun _ _ => rfl
  exact .read (v := fun s : Daemon => deviceGetList env false s.mux) (fun devices =>
    .bind (h := fun all s => (if all then (devices.length : ℤ) else -1, s)) (onClients_blind (told devices))
      fun _ => .pure _) fun _ _ => rfl

private theorem listenCommand_blind (tag : UInt32) : Blind mapInputs (listenCommand env k tag) :=
  .bind (h := fun res s => if res < 0 then (-1, s) else startListen env k s)
    (onClients_blind (sendResult_blind env k tag resultOk)) fun _ => .ite (.pure (-1)) (startListen_blind env k)

private theorem connectCommand_blind (tag deviceId : UInt32) (port : UInt16) :
    Blind mapInputs (connectCommand env k tag deviceId port) := by
  have started (c : ConnPtr) : Blind Clients.mapInputs fun s => ((0 : ℤ), (s.modify k fun client =>
      { client with connectTag := tag, connectDevice := deviceId.toNat, state := .connecting1 }).logClient k
        (.connecting c tag)) :=
    .update (.pure 0) fun g s => congrArg (·.logClient k (.connecting c tag)) (s.mapInputs_modify g k fun _ _ => rfl)
  have went (c : ConnPtr) (r : ℤ × Mux) : Blind mapInputs fun s =>
      if r.1 < 0 then replyResult env k tag (UInt32.ofNat (-r.1).toNat) (s.setMux r.2)
      else (0, (s.setMux r.2).setClients (((s.setMux r.2).clients.modify k fun client =>
        { client with connectTag := tag, connectDevice := deviceId.toNat, state := .connecting1 }).logClient k
          (.connecting c tag))) :=
    .ite (.update (replyResult_blind env k tag _) fun _ _ => rfl)
      (.update (u := (·.setMux r.2)) (onClients_blind (started c)) fun _ _ => rfl)
  exact .read (v := Daemon.mux) (fun mux => went mux.nextConn (deviceStartConnect env deviceId.toNat port k mux))
    fun _ _ => rfl

private theorem savePairRecord_blind (tag : UInt32) (dict : Plist) :
    Blind mapInputs (savePairRecord env k tag dict) := by
  intro g s
  have told (deviceId : ℕ) (known : Prop) [Decidable known] (s : Daemon) :
      (if known then (s.mapInputs g).setClients (clientDevicePaired env deviceId (s.mapInputs g).clients)
        else s.mapInputs g) =
      (if known then s.setClients (clientDevicePaired env deviceId s.clients) else s).mapInputs g := by
    rw [apply_ite (mapInputs g)]
    exact congrArg (ite known · _) (congrArg s.setClients (clientDevicePaired_mapInputs env g s.clients deviceId))
  simp only [savePairRecord]
  split
  · by_cases failed : (env.sock s.clients.tick).conf < 0
    · have failed' : (env.sock (s.mapInputs g).clients.tick).conf < 0 := failed
      simp only [failed, failed', if_true]
      exact replyResult_blind env k tag _ g (s.setClients s.clients.bump)
    · have failed' : ¬(env.sock (s.mapInputs g).clients.tick).conf < 0 := failed
      simp only [failed, failed', if_false]
      exact (congrArg (replyResult env k tag resultOk) (told _ _ (s.setClients s.clients.bump))).trans
        (replyResult_blind env k tag resultOk g _)
  · exact replyResult_blind env k tag errInval g s

private theorem deletePairRecord_blind (tag : UInt32) (dict : Plist) :
    Blind mapInputs (deletePairRecord env k tag dict) := by
  intro g s
  simp only [deletePairRecord]
  split
  · exact replyResult_blind env k tag errInval g s
  · exact replyResult_blind env k tag _ g (s.setClients s.clients.bump)

private theorem plistCommand_blind (tag : UInt32) (message : String) (dict : Plist) :
    Blind mapInputs (plistCommand env k tag message dict) := by
  intro g s
  simp only [plistCommand]
  split
  · exact listenCommand_blind env k tag g s
  · split
    · exact replyResult_blind env k tag resultBadDev g s
    · exact replyResult_blind env k tag resultBadCommand g s
    · exact connectCommand_blind env k tag _ _ g s
  · exact answered_blind (sendPlist_blind env k tag _) g s
  · exact answered_blind (sendListenerList_blind env k tag) g s
  · exact answered_blind (sendSystemBuid_blind env k tag) g s
  · exact answered_blind (sendPairRecord_blind env k tag _) g s
  · exact savePairRecord_blind env k tag dict g s
  · exact deletePairRecord_blind env k tag dict g s
  · exact replyResult_blind env k tag resultBadCommand g s

private theorem modify_blind {ρ : Type} {u : MuxClient → MuxClient} {f : Daemon → ρ × Daemon} (next : Blind mapInputs f)
    (blind : ∀ h client, u (client.mapInput h) = (u client).mapInput h) :
    Blind mapInputs fun s => f (s.setClients (s.clients.modify k u)) :=
  .update next fun g s => congrArg s.setClients (s.clients.mapInputs_modify g k blind)

private theorem plistInput_blind (tag : UInt32) (dict : Option Plist) :
    Blind mapInputs (plistInput env k tag dict) := by
  cases dict with
  | none => exact modify_blind k (.pure (-1)) fun _ _ => rfl
  | some dict =>
    rcases typed : (dict.getItem "MessageType").bind Plist.stringVal? with _ | message
    · unfold plistInput
      simp only [typed]
      exact modify_blind k (.pure (-1)) fun _ _ => rfl
    · have informed : Blind mapInputs fun s =>
          plistCommand env k tag message dict (s.setClients (updateClientInfo k dict s.clients)) :=
        modify_blind k (plistCommand_blind env k tag message dict) fun _ _ => rfl
      unfold plistInput
      simp only [typed]
      exact modify_blind k informed fun _ _ => rfl

/-- The teardown of a connection without a client leaves the clients alone. -/
private theorem teardown_setClients (close : ClientPtr → Daemon → Daemon) {c : ConnPtr} {s : Daemon} {m : MuxConnection}
    (present : s.mux.conn c = some m) (noClient : m.client = none) (x : Clients) :
    connectionTeardownWith close env c (s.setClients x) = (connectionTeardownWith close env c s).setClients x := by
  have present' : (s.setClients x).mux.conn c = some m := present
  simp only [connectionTeardownWith, present, present', noClient]
  by_cases dead : m.state = .dead
  · simp only [dead, if_true]
  · have same : (s.setClients x).mux.dev m.dev = s.mux.dev m.dev := rfl
    by_cases resets : m.sendsRst (s.mux.dev m.dev) = true
    · simp only [dead, same, resets, if_true, if_false]
      rfl
    · simp only [dead, same, resets, if_false]
      rfl

private theorem deviceAbortConnect_setClients (deviceId : ℕ) (s : Daemon) (x : Clients) :
    deviceAbortConnect env deviceId k (s.setClients x) = (deviceAbortConnect env deviceId k s).setClients x := by
  simp only [deviceAbortConnect, setClients, setMux]
  cases getMuxConnection deviceId k (touchNamed deviceId s.mux) with
  | none => rfl
  | some c =>
    simp only
    cases (touchNamed deviceId s.mux).conn c with
    | none => rfl
    | some m =>
      exact teardown_setClients (s := s.setMux ((touchNamed deviceId s.mux).setConn c { m with client := none })) env
        (fun _ s => s) (Function.update_self ..) rfl x

private theorem clientClose_mapInputs (g : ClientPtr → Bytes → Bytes) (s : Daemon) :
    clientClose env k (s.mapInputs g) = (clientClose env k s).mapInputs g := by
  by_cases listed : k ∈ s.clients.clientList
  swap
  · have listed' : k ∉ (s.mapInputs g).clients.clientList := listed
    simp only [clientClose, listed, listed', if_false]
  have listed' : k ∈ (s.mapInputs g).clients.clientList := listed
  have released (x : Clients) (s : Daemon) :
      s.setClients ((x.mapInputs g).release k) = (s.setClients (x.release k)).mapInputs g := by
    rw [Clients.mapInputs_release]
    rfl
  have view : (s.mapInputs g).clients.client k = (s.clients.client k).map (MuxClient.mapInput (g k)) := rfl
  simp only [clientClose, listed, listed', if_true, view]
  cases s.clients.client k with
  | none => rfl
  | some client =>
    have same : (client.mapInput (g k)).state = client.state := rfl
    simp only [Option.map_some, same]
    by_cases waiting : client.state = .connecting1 ∨ client.state = .connecting2
    · simp only [waiting, if_true]
      have closed (x : Clients) : (deviceAbortConnect env client.connectDevice k (s.setClients x)).setClients
          ((deviceAbortConnect env client.connectDevice k (s.setClients x)).clients.release k) =
          (deviceAbortConnect env client.connectDevice k s).setClients (x.release k) := by
        rw [deviceAbortConnect_setClients]
        rfl
      refine (closed ((s.clients.mapInputs g).setClient k (MuxClient.mapInput (g k)
        { client with state := .dead }))).trans ?_
      rw [closed, Clients.mapInputs_setClient]
      exact released _ _
    · simp only [waiting, if_false]
      exact released s.clients s

/-- A command changes the state in the same way whatever the command buffers hold. -/
theorem handleCommand_blind (frame : Bytes) : Blind mapInputs (handleCommand env k frame) := by
  intro g s
  have view : (s.mapInputs g).clients.client k = (s.clients.client k).map (MuxClient.mapInput (g k)) := rfl
  simp only [handleCommand, view]
  cases s.clients.client k with
  | none => rfl
  | some client =>
    have same : (client.mapInput (g k)).state = client.state := rfl
    simp only [Option.map_some, same]
    by_cases command : client.state = .command
    · simp only [command, ne_eq, not_true_eq_false, if_false]
      cases readRequest env frame with
      | badVersion =>
        exact congrArg (Prod.mk 0) (congrArg Prod.snd (replyResult_blind env k (le32At frame 12) resultBadVersion g s))
      | listen => exact listenCommand_blind env k _ g s
      | connect deviceId port => exact connectCommand_blind env k _ deviceId port g s
      | plist dict => exact plistInput_blind env k _ dict g s
      | invalid => exact replyResult_blind env k _ resultBadCommand g s
    · simp only [command, ne_eq, not_false_eq_true, if_true]
      have rebuked (res : ℤ) : Blind mapInputs fun s => if res < 0 then (-1, s) else (-1, clientClose env k s) :=
        .ite (.pure (-1)) (.update (.pure (-1)) (clientClose_mapInputs env k))
      exact Blind.bind (h := fun (res : ℤ) s => if res < 0 then (-1, s) else (-1, clientClose env k s))
        (onClients_blind (sendResult_blind env k (le32At frame 12) resultBadCommand)) rebuked g s

end Commands

end Usbmuxd
