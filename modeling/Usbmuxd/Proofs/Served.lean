import Usbmuxd.Machine.ClientInvariant
import Usbmuxd.Model.Command
import Usbmuxd.ToMathlib.Frame

/-! # What serving one client leaves alone

The functions of `client.c` that queue a message for a client, read from it or change its record keep
every other client as it is, and none of them puts bytes of a connection on a socket. Only
`client_write` does that.
-/

namespace Usbmuxd

open Frame

/-- The changes to the state of `client.c` for one client. -/
structure ClientsFrame (owner : Option ClientPtr) (s s' : Clients) : Prop where
  clients : SameOff owner s.client s'.client
  members : others owner s'.clientList = others owner s.clientList
  nextClient : s'.nextClient = s.nextClient
  clientNumber : s'.clientNumber = s.clientNumber
  log : SameOff owner s.log s'.log

/-- One client is served, and no bytes go through a tunnel. -/
structure Served (k : ClientPtr) (s s' : Clients) : Prop extends ClientsFrame (some k) s s' where
  tunnels : ∀ k, ClientLog.tunnel (s'.log k) = ClientLog.tunnel (s.log k)

variable {k : ClientPtr} {s s' s'' : Clients}

namespace ClientsFrame

variable {owner : Option ClientPtr}

theorem of_same (client : s'.client = s.client) (clientList : s'.clientList = s.clientList)
    (nextClient : s'.nextClient = s.nextClient) (clientNumber : s'.clientNumber = s.clientNumber)
    (log : s'.log = s.log) : ClientsFrame owner s s' :=
  ⟨client ▸ .refl _ _, by rw [clientList], nextClient, clientNumber, log ▸ .refl _ _⟩

theorem refl (s : Clients) : ClientsFrame owner s s := .of_same rfl rfl rfl rfl rfl

theorem trans (first : ClientsFrame owner s s') (second : ClientsFrame owner s' s'') : ClientsFrame owner s s'' :=
  ⟨first.clients.trans second.clients, second.members.trans first.members, second.nextClient.trans first.nextClient,
    second.clientNumber.trans first.clientNumber, first.log.trans second.log⟩

private theorem logClient (s : Clients) (k : ClientPtr) (event : ClientEvent) :
    ClientsFrame (some k) s (s.logClient k event) :=
  ⟨.refl _ _, rfl, rfl, rfl, .update s.log k _⟩

theorem clientWrite (env : Env) (k : ClientPtr) (buffer : Bytes) (s : Clients) :
    ClientsFrame (some k) s (clientWrite env k buffer s).2 := by
  have bump : ClientsFrame (some k) s s.bump := .of_same rfl rfl rfl rfl rfl
  simp only [Usbmuxd.clientWrite]
  split
  · exact .of_same rfl rfl rfl rfl rfl
  split
  · exact .refl s
  split
  · exact bump
  · exact bump
  · exact bump.trans (logClient ..)

end ClientsFrame

namespace Served

private theorem of_same (client : s'.client = s.client) (clientList : s'.clientList = s.clientList)
    (nextClient : s'.nextClient = s.nextClient) (clientNumber : s'.clientNumber = s.clientNumber)
    (log : s'.log = s.log) : Served k s s' :=
  ⟨.of_same client clientList nextClient clientNumber log, fun _ => by rw [log]⟩

theorem refl (s : Clients) : Served k s s := .of_same rfl rfl rfl rfl rfl

theorem trans (first : Served k s s') (second : Served k s' s'') : Served k s s'' :=
  ⟨first.toClientsFrame.trans second.toClientsFrame, fun k => (second.tunnels k).trans (first.tunnels k)⟩

theorem setClient (s : Clients) (k : ClientPtr) (client : MuxClient) : Served k s (s.setClient k client) :=
  ⟨⟨.update s.client k _, rfl, rfl, rfl, .refl _ _⟩, fun _ => rfl⟩

/-- Anything but bytes of a tunnel is noted. -/
theorem logClient (s : Clients) (k : ClientPtr) {event : ClientEvent} (plain : event.tunnelBytes = []) :
    Served k s (s.logClient k event) := by
  refine ⟨.logClient s k event, fun k' => ?_⟩
  by_cases same : k' = k
  · subst same
    have silent : ClientLog.tunnel [event] = [] := by rw [ClientLog.tunnel_cons, plain, ClientLog.tunnel_nil]; rfl
    simp only [Clients.logClient, Function.update_self, ClientLog.tunnel_append, silent, List.append_nil]
  · simp [Clients.logClient, same]

theorem modify (s : Clients) (k : ClientPtr) (f : MuxClient → MuxClient) : Served k s (s.modify k f) := by
  simp only [Clients.modify]
  split
  · exact .of_same rfl rfl rfl rfl rfl
  · exact .setClient ..

theorem release (s : Clients) (k : ClientPtr) : Served k s (s.release k) := by
  have noted : Served k s (s.logClient k .closed) := .logClient s k rfl
  exact ⟨⟨.update s.client k _, others_erase k s.clientList, rfl, rfl, noted.log⟩, noted.tunnels⟩

private theorem checkRoom (s : Clients) (client : MuxClient) (payload : Bytes) :
    Served k s (s.checkRoom k client payload) := by
  simp only [Clients.checkRoom]
  split
  · exact .refl s
  · exact .of_same rfl rfl rfl rfl rfl

theorem bump (s : Clients) : Served k s s.bump := .of_same rfl rfl rfl rfl rfl

variable (env : Env) (k) (s)

private theorem outputBufferAddMessage (tag : UInt32) (msg : MsgType) (payload : Bytes) :
    Served k s (outputBufferAddMessage env k tag msg payload s).2 := by
  have queue (x : Clients) (client client' : MuxClient) : Served k x
      (((x.checkRoom k client payload).setClient k client').logClient k (.queued tag msg payload)) :=
    (checkRoom x client payload).trans ((setClient _ k client').trans (logClient _ k rfl))
  simp only [Usbmuxd.outputBufferAddMessage]
  split
  · exact .of_same rfl rfl rfl rfl rfl
  split
  · split
    · exact (bump s).trans (queue ..)
    · exact bump s
  · split
    · exact .of_same rfl rfl rfl rfl rfl
    · exact queue ..

theorem sendPlist (tag : UInt32) (plist : Plist) : Served k s (sendPlist env k tag plist s).2 := by
  simp only [Usbmuxd.sendPlist]
  split
  · exact (bump s).trans (outputBufferAddMessage k s.bump env tag .plist _)
  · exact bump s

private theorem either (xml : Prop) [Decidable xml] (tag : UInt32) (plist : Plist) (msg : MsgType) (payload : Bytes) :
    Served k s (if xml then Usbmuxd.sendPlist env k tag plist s
      else Usbmuxd.outputBufferAddMessage env k tag msg payload s).2 := by
  split
  · exact sendPlist k s env tag _
  · exact outputBufferAddMessage k s env tag _ _

theorem sendResult (tag number : UInt32) : Served k s (sendResult env k tag number s).2 := by
  have queued := either k s env (s.protoVersion k = 1) tag (Plist.result number) .result (le32 number)
  simp only [Usbmuxd.sendResult]
  generalize (if s.protoVersion k = 1 then Usbmuxd.sendPlist env k tag (Plist.result number) s
    else Usbmuxd.outputBufferAddMessage env k tag .result (le32 number) s) = r at queued
  split
  · exact queued
  · exact queued.trans (logClient _ k rfl)

theorem sendDeviceEvent (msg : MsgType) (plist : Plist) (payload : Bytes) :
    Served k s (sendDeviceEvent env msg plist payload k s).2 := either k s env _ 0 plist msg payload

theorem clientNotifyConnect (number : UInt32) : Served k s (clientNotifyConnect env k number s).2 := by
  simp only [Usbmuxd.clientNotifyConnect]
  split
  · exact .of_same rfl rfl rfl rfl rfl
  next client _ =>
  split
  · exact .refl s
  have answered := sendResult k s env client.connectTag number
  split
  · exact answered
  · split
    · exact answered.trans (modify _ k _)
    · exact answered.trans (modify _ k _)

theorem clientRead (len : UInt32) : Served k s (clientRead env k len s).2 := by
  simp only [Usbmuxd.clientRead]
  split
  · exact .of_same rfl rfl rfl rfl rfl
  split
  · exact .refl s
  split
  · exact .of_same rfl rfl rfl rfl rfl
  · exact .of_same rfl rfl rfl rfl rfl
  · split <;> exact .of_same rfl rfl rfl rfl rfl

theorem sendListenerList (tag : UInt32) : Served k s (sendListenerList env k tag s).2 := by
  simp only [Usbmuxd.sendListenerList]
  split
  · exact .of_same rfl rfl rfl rfl rfl
  · exact sendPlist k s env tag _

theorem sendPairRecord (tag : UInt32) (recordId : Option String) :
    Served k s (sendPairRecord env k tag recordId s).2 := by
  simp only [Usbmuxd.sendPairRecord]
  split
  · exact sendResult k s env tag _
  · split
    · exact (bump s).trans (sendPlist k s.bump env tag _)
    · exact (bump s).trans (sendResult k s.bump env tag _)

theorem announceAll (devices : List DeviceInfo) : Served k s (announceAll env k devices s).2 := by
  induction devices generalizing s with
  | nil => exact .refl s
  | cons info rest ih =>
    have told : Served k s (sendDeviceAdd env info k s).2 := sendDeviceEvent k s env _ _ _
    simp only [Usbmuxd.announceAll]
    split
    · exact told
    · exact told.trans (ih _)

private theorem receiveCommand (len : ℕ) : Served k s (receiveCommand env k len s).2 := by
  simp only [Usbmuxd.receiveCommand]
  split
  · exact .of_same rfl rfl rfl rfl rfl
  · split
    · split
      · exact bump s
      · exact (bump s).trans (setClient _ k _)
    · exact bump s

private theorem readFrame (didRead : Bool) : Served k s (readFrame env k didRead s).2 := by
  simp only [Usbmuxd.readFrame]
  split
  · exact .of_same rfl rfl rfl rfl rfl
  split
  · exact .of_same rfl rfl rfl rfl rfl
  split
  · exact .refl s
  split
  swap
  · exact .refl s
  split
  · exact .refl s
  split
  swap
  · exact receiveCommand k s env _
  split
  · exact (receiveCommand k s env _).trans (.of_same rfl rfl rfl rfl rfl)
  · split <;> exact receiveCommand k s env _

theorem readCommand : Served k s (readCommand env k s).2 := by
  simp only [Usbmuxd.readCommand]
  split
  · exact .of_same rfl rfl rfl rfl rfl
  split
  swap
  · exact readFrame k s env false
  split
  swap
  · exact receiveCommand k s env _
  split
  · exact (receiveCommand k s env _).trans (.of_same rfl rfl rfl rfl rfl)
  · split
    · exact receiveCommand k s env _
    · exact (receiveCommand k s env _).trans (readFrame k _ env true)

end Served

end Usbmuxd
