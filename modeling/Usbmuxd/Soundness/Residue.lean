import Usbmuxd.Proofs.Residue
import Usbmuxd.Soundness.Pairing

/-! # What a command buffer holds behind the frame

The command buffer of a client is never cleared. A command depends on its buffer only through the fields
that it reads. They are all inside the frame, unless it is a `MESSAGE_CONNECT` that ends before its
request does. Such a request then goes to the device and port that stand behind it, which only makes no
difference where no connection comes of it.
-/

namespace Usbmuxd

/-- The state with other contents in one command buffer. -/
def Daemon.withInput (k : ClientPtr) (buffer : Bytes) : Daemon → Daemon :=
  Daemon.mapInputs (Function.update (fun _ => id) k fun _ => buffer)

/-- A request reads nothing behind its frame, unless it is a `MESSAGE_CONNECT` without its port. -/
private theorem readRequest_of_take (env : Env) {frame frame' : Bytes} {n : ℕ} (same : frame'.take n = frame.take n)
    (length : (le32At frame 0).toNat = n) (header : 16 ≤ n)
    (whole : ∀ deviceId port, readRequest env frame = .connect deviceId port → 22 ≤ n) :
    readRequest env frame' = readRequest env frame := by
  have version : le32At frame' 4 = le32At frame 4 := le32At_of_take same (by omega)
  have message : le32At frame' 8 = le32At frame 8 := le32At_of_take same (by omega)
  have announced : le32At frame' 0 = le32At frame 0 := le32At_of_take same (by omega)
  simp only [readRequest, version, message, announced] at whole ⊢
  split
  · rfl
  next known =>
  split
  · rw [BigEndian.peek_of_take same (by omega)]
  next notPlist =>
  split
  · rfl
  next notListen =>
  split
  · next connect =>
    have long : 22 ≤ n := by
      apply whole (le32At frame 16) (be16At frame 20)
      rw [if_neg known, if_neg notPlist, if_neg notListen, if_pos connect]
    rw [le32At_of_take same (by omega), be16At_of_take same (by omega)]
  · rfl

private theorem readRequest_connect (env : Env) {frame frame' : Bytes} {n : ℕ} (same : frame'.take n = frame.take n)
    (header : 16 ≤ n) {deviceId : UInt32} {port : UInt16} (connect : readRequest env frame = .connect deviceId port) :
    ∃ deviceId' port', readRequest env frame' = .connect deviceId' port' := by
  have version : le32At frame' 4 = le32At frame 4 := le32At_of_take same (by omega)
  have message : le32At frame' 8 = le32At frame 8 := le32At_of_take same (by omega)
  simp only [readRequest, version, message] at connect ⊢
  split_ifs at connect ⊢
  exact ⟨_, _, rfl⟩

section Reading

variable {env : Env} {k : ClientPtr} {s : Clients}

private theorem receiveCommand_received {len : ℕ} (received : (receiveCommand env k len s).1 = true)
    {client : MuxClient}
    (present : s.client k = some client) : ∃ buffer data, client.ibBuf = some buffer ∧ data.length ≤ len ∧
      (receiveCommand env k len s).2 = s.bump.setClient k { client with
        ibBuf := some (overwrite buffer client.ibSize.toNat data), ibSize :=
          client.ibSize + UInt32.ofNat data.length } := by
  simp only [receiveCommand, present] at received ⊢
  split at received
  swap
  · simp at received
  next buffer data stored _ =>
  split at received
  · simp at received
  next some' =>
  exact ⟨buffer, data.take len, stored, List.length_take_le .., by rw [if_neg some']⟩

/-- A `recv` of the missing part that leaves nothing missing has got exactly that. -/
private theorem size_filled {size length : UInt32} {n : ℕ} (short : size < length) (piece : n ≤ (length - size).toNat)
    (filled : ¬size + UInt32.ofNat n < length) : size + UInt32.ofNat n = length := by
  have asked : (length - size).toNat = length.toNat - size.toNat := UInt32.toNat_sub_of_le _ _ (UInt32.le_of_lt short)
  rw [UInt32.lt_iff_toNat_lt] at short
  have bound := length.toNat_lt
  have small : (UInt32.ofNat n).toNat = n := UInt32.toNat_ofNat_of_lt' (show n < 2 ^ 32 by omega)
  have total : (size + UInt32.ofNat n).toNat = size.toNat + n := by
    rw [UInt32.toNat_add, small]
    omega
  rw [UInt32.lt_iff_toNat_lt, total] at filled
  exact UInt32.toNat_inj.mp (by omega)

/-- The clients after a call of the reader that has completed a frame. -/
def Clients.completed (s : Clients) (k : ClientPtr) (client : MuxClient) (frame : Bytes) : Clients :=
  { s with
    tick := if client.ibSize < le32At frame 0 then s.tick + 1 else s.tick
    client := Function.update s.client k (some { client with
      ibBuf := some frame
      ibSize := if client.ibSize < le32At frame 0 then le32At frame 0 else client.ibSize }) }

private theorem readFrame_completed {frame : Bytes} {didRead : Bool} {client : MuxClient}
    (present : s.client k = some client)
    (header : 16 ≤ client.ibSize) (complete : (readFrame env k didRead s).1 = .frame frame) :
    client.ibBuf.isSome ∧ 16 ≤ le32At frame 0 ∧ (didRead = true → le32At frame 0 ≤ client.ibSize) ∧
      (readFrame env k didRead s).2 = s.completed k client frame := by
  simp only [readFrame, present] at complete ⊢
  cases stored : client.ibBuf with
  | none => simp [stored] at complete
  | some buffer =>
  simp only [stored] at complete ⊢
  by_cases bad : le32At buffer 0 > client.ibCapacity ∨ le32At buffer 0 < 16
  · simp [bad] at complete
  have least : 16 ≤ le32At buffer 0 := UInt32.not_lt.mp fun small => bad (.inr small)
  by_cases short : client.ibSize < le32At buffer 0
  swap
  · -- the frame is there already
    simp only [bad, short, if_false, Framing.frame.injEq] at complete ⊢
    subst complete
    refine ⟨rfl, least, fun _ => UInt32.not_lt.mp short, ?_⟩
    have same : Function.update s.client k (some { client with ibBuf := some buffer }) = s.client := by
      rw [← stored, ← present, Function.update_eq_self]
    simp only [Clients.completed, short, if_false, same]
  cases didRead with
  | true => simp [bad, short] at complete
  | false =>
    by_cases received : (receiveCommand env k (le32At buffer 0 - client.ibSize).toNat s).1 = true
    swap
    · simp [bad, short, received] at complete
    obtain ⟨buffer', data, stored', piece, after⟩ := receiveCommand_received received present
    obtain rfl : buffer = buffer' := Option.some.inj (stored.symm.trans stored')
    simp only [bad, short, received, after, if_true, if_false, Bool.false_eq_true, Clients.setClient,
      Function.update_self] at complete ⊢
    by_cases missing : client.ibSize + UInt32.ofNat data.length < le32At buffer 0
    · simp [missing] at complete
    simp only [missing, if_false, Option.getD_some, Framing.frame.injEq] at complete ⊢
    have announced : le32At frame 0 = le32At buffer 0 := by
      have sixteen : 16 ≤ client.ibSize.toNat := UInt32.le_iff_toNat_le.mp header
      rw [← complete, le32At, overwrite_peek (by omega), le32At]
    refine ⟨rfl, by rwa [announced], fun read => by simp at read, ?_⟩
    simp only [Clients.completed, announced, short, if_true, size_filled short piece missing, complete]
    rfl

private theorem readCommand_completed {frame : Bytes} (complete : (readCommand env k s).1 = .frame frame) :
    ∃ client, s.client k = some client ∧ client.ibBuf.isSome ∧ 16 ≤ le32At frame 0 ∧
      (readCommand env k s).2 = s.completed k client frame := by
  simp only [readCommand] at complete ⊢
  cases present : s.client k with
  | none => simp [present] at complete
  | some client =>
  simp only [present] at complete ⊢
  refine ⟨client, rfl, ?_⟩
  by_cases header : client.ibSize < 16
  swap
  · simp only [header, if_false] at complete ⊢
    obtain ⟨buffer, least, -, after⟩ := readFrame_completed present (UInt32.not_lt.mp header) complete
    exact ⟨buffer, least, after⟩
  · by_cases received : (receiveCommand env k (16 - client.ibSize).toNat s).1 = true
    swap
    · simp [header, received] at complete
    obtain ⟨buffer, data, stored, piece, read⟩ := receiveCommand_received received present
    simp only [header, received, read, if_true, Clients.setClient, Function.update_self] at complete ⊢
    by_cases missing : client.ibSize + UInt32.ofNat data.length < 16
    · simp [missing] at complete
    have size := size_filled header piece missing
    simp only [missing, if_false] at complete ⊢
    obtain ⟨-, least, most, after⟩ := readFrame_completed (Function.update_self ..) (UInt32.not_lt.mp missing) complete
    have sixteen : le32At frame 0 = 16 := UInt32.le_antisymm (by simpa [size] using most rfl) least
    refine ⟨by simp [stored], least, after.trans ?_⟩
    simp [Clients.completed, Clients.bump, sixteen, size, header]

/-- The buffer holds something else before the frame is complete, and the frame afterwards. -/
private theorem readCommand_withInput {s : Daemon} {residue frame frame' : Bytes}
    (complete : (readCommand env k s.clients).1 = .frame frame)
    (complete' : (readCommand env k (s.withInput k residue).clients).1 = .frame frame')
    (same : le32At frame' 0 = le32At frame 0) :
    (s.withInput k residue).setClients (readCommand env k (s.withInput k residue).clients).2 =
      (s.setClients (readCommand env k s.clients).2).withInput k frame' := by
  obtain ⟨client, present, -, -, after⟩ := readCommand_completed complete
  obtain ⟨client', present', -, -, after'⟩ := readCommand_completed complete'
  obtain rfl : client.mapInput (fun _ => residue) = client' := by
    refine Option.some.inj (Eq.trans ?_ present')
    simp [Daemon.withInput, Daemon.mapInputs, Daemon.setClients, present]
  rw [after, after']
  have stored (j : ClientPtr) :
      ((s.withInput k residue).clients.completed k (client.mapInput fun _ => residue) frame').client j =
        ((s.setClients (s.clients.completed k client frame)).withInput k frame').clients.client j := by
    by_cases own : j = k
    · subst own
      simp [Clients.completed, Daemon.withInput, Daemon.mapInputs, Daemon.setClients, MuxClient.mapInput, same]
    · simp [Clients.completed, Daemon.withInput, Daemon.mapInputs, Daemon.setClients, own]
  have clock : ((s.withInput k residue).clients.completed k (client.mapInput fun _ => residue) frame').tick =
      (s.clients.completed k client frame).tick := by
    rw [Clients.completed, Clients.completed, same]
    rfl
  have clients : (s.withInput k residue).clients.completed k (client.mapInput fun _ => residue) frame' =
      ((s.setClients (s.clients.completed k client frame)).withInput k frame').clients := by
    rw [Clients.mk.injEq]
    exact ⟨clock, rfl, funext stored, rfl, rfl, rfl, rfl⟩
  rw [clients]
  rfl

end Reading

section Connecting

variable (env : Env) (k : ClientPtr) {s : Mux} {deviceId : UInt32} (port : UInt16) {d : DevPtr}

/-- There is a device with the identifier, and it has a source port left. -/
def Connectable (s : Mux) (deviceId : UInt32) : Prop :=
  ∃ d, getMuxDeviceForId deviceId.toNat s = some d ∧ (findSport d s).1 ≠ 0

/-- What the search for a source port leaves behind. -/
def portSearched (s : Mux) (deviceId : UInt32) : Mux :=
  match getMuxDeviceForId deviceId.toNat s with
  | none => s
  | some d => (findSport d s).2

private theorem findSport_state (d : DevPtr) (s : Mux) : ∃ dev faults, (findSport d s).2 =
    { s with dev := Function.update s.dev d dev, faults := faults } := by
  obtain ⟨faults, touched⟩ : ∃ faults, s.touchConnections d = { s with faults := faults } := by
    rw [Mux.touchConnections]
    split
    · exact ⟨s.faults, rfl⟩
    · exact ⟨_, rfl⟩
  simp only [findSport, touched]
  split
  · exact ⟨s.dev d, faults, by simp⟩
  · exact ⟨_, faults, rfl⟩

private theorem deviceStartConnect_refused (refused : ¬Connectable s deviceId) :
    deviceStartConnect env deviceId.toNat port k s = (-(resultBadDev.toNat : ℤ), portSearched s deviceId) := by
  simp only [deviceStartConnect, portSearched]
  cases found : getMuxDeviceForId deviceId.toNat s with
  | none => rfl
  | some d =>
    have exhausted : (findSport d s).1 = 0 := by
      by_contra given
      exact refused ⟨d, found, given⟩
    exact if_pos exhausted

/-- What a connection leaves behind that is started, whether or not its first packet is sent. -/
structure Starts (d : DevPtr) (port : UInt16) (s s' : Mux) : Prop where
  allocated : s'.nextConn = s.nextConn + 1
  handed : (s'.devLog d).length = (s.devLog d).length + 1
  others : ∀ d' ≠ d, s'.devLog d' = s.devLog d'
  opening : ∃ th result, s'.connLog s.nextConn = s.connLog s.nextConn ++ [.segment th [] result] ∧ th.dport = port

variable {port} in
private theorem Starts.of_same {s' s'' : Mux} (starts : Starts d port s s') (nextConn : s''.nextConn = s'.nextConn)
    (devLog : s''.devLog = s'.devLog) (connLog : s''.connLog = s'.connLog) : Starts d port s s'' := by
  obtain ⟨allocated, handed, others, opening⟩ := starts
  exact ⟨nextConn.trans allocated, devLog ▸ handed, devLog ▸ others, connLog ▸ opening⟩

private theorem deviceStartConnect_starts (found : getMuxDeviceForId deviceId.toNat s = some d)
    (given : (findSport d s).1 ≠ 0) :
    Starts d port s (deviceStartConnect env deviceId.toNat port k s).2 := by
  obtain ⟨dev, faults, searched⟩ := findSport_state d s
  simp only [deviceStartConnect, found, given, if_false, searched]
  set m := newConnection d k (findSport d s).1 port
  set x := Mux.allocConn { s with dev := Function.update s.dev d dev, faults := faults } m
  have present : x.conn s.nextConn = some m := Function.update_self ..
  have sent : Starts d port s (sendTcp env s.nextConn thSyn [] x).2 := by
    have small : ¬usbMtu < muxHeaderSize (x.dev d).version + 20 := by
      simp only [usbMtu, muxHeaderSize]
      split <;> simp
    simp only [sendTcp, present, show m.dev = d from rfl]
    rcases sendPacket_cases env d .tcp (m.header thSyn).encode [] x with ⟨unbuilt, -⟩ | ⟨packet, -, result, more, tick,
      faults, -, -, state⟩
    · simp [builtPacket?, MuxProtocol.headerLength?, small] at unbuilt
    have logged : Starts d port s ((sendPacket env d .tcp (m.header thSyn).encode [] x).2.logConn s.nextConn
        (.segment (m.header thSyn) [] (sendPacket env d .tcp (m.header thSyn).encode [] x).1)) := by
      rw [state]
      refine ⟨rfl, by simp [Mux.logConn, x, Mux.allocConn, Mux.setConn], fun d' other => ?_, m.header thSyn,
        (sendPacket env d .tcp (m.header thSyn).encode [] x).1, Function.update_self .., rfl⟩
      simp [Mux.logConn, x, Mux.allocConn, Mux.setConn, other]
    split
    · exact logged.of_same rfl rfl rfl
    · exact logged
  split
  · exact sent.of_same rfl rfl rfl
  · exact sent.of_same rfl rfl rfl

/-- Requests that differ leave different traces, unless both are refused. -/
private theorem deviceStartConnect_inj {deviceId' : UInt32} {port port' : UInt16}
    (same : (deviceStartConnect env deviceId'.toNat port' k s).2 = (deviceStartConnect env deviceId.toNat port k s).2) :
    deviceId' = deviceId ∧ port' = port ∨
      ¬Connectable s deviceId ∧ ¬Connectable s deviceId' ∧ portSearched s deviceId' = portSearched s deviceId := by
  have searched (deviceId : UInt32) : (portSearched s deviceId).nextConn = s.nextConn := by
    rw [portSearched]
    split
    · rfl
    · next d _ =>
      obtain ⟨dev, faults, state⟩ := findSport_state d s
      rw [state]
  by_cases one : Connectable s deviceId <;> by_cases two : Connectable s deviceId'
  · obtain ⟨d, found, given⟩ := one
    obtain ⟨d', found', given'⟩ := two
    have starts := deviceStartConnect_starts env k port found given
    have starts' := deviceStartConnect_starts env k port' found' given'
    rw [same] at starts'
    obtain rfl : d' = d := by
      by_contra other
      have handed := starts'.handed
      rw [starts.others d' other] at handed
      omega
    obtain ⟨th, result, logged, rfl⟩ := starts.opening
    obtain ⟨th', result', logged', rfl⟩ := starts'.opening
    rw [logged] at logged'
    obtain ⟨rfl, -⟩ : th = th' ∧ result = result' := by simpa using List.append_cancel_left logged'
    refine .inl ⟨?_, rfl⟩
    have id := List.find?_some found
    have id' := List.find?_some found'
    simp only [beq_iff_eq] at id id'
    exact UInt32.toNat_inj.mp (id'.symm.trans id)
  · obtain ⟨d, found, given⟩ := one
    have allocated := (deviceStartConnect_starts env k port found given).allocated
    rw [← same, deviceStartConnect_refused env k port' two, searched] at allocated
    exact absurd allocated.symm (Nat.succ_ne_self s.nextConn)
  · obtain ⟨d, found, given⟩ := two
    have allocated := (deviceStartConnect_starts env k port' found given).allocated
    rw [same, deviceStartConnect_refused env k port one, searched] at allocated
    exact absurd allocated.symm (Nat.succ_ne_self s.nextConn)
  · rw [deviceStartConnect_refused env k port' two, deviceStartConnect_refused env k port one] at same
    exact .inr ⟨one, two, same⟩

end Connecting

/-- Two requests for a connection come to the same: they are alike, or both are refused and the search
for a port leaves the same behind. -/
def SameConnect (s : Mux) (deviceId deviceId' : UInt32) (port port' : UInt16) : Prop :=
  deviceId' = deviceId ∧ port' = port ∨
    ¬Connectable s deviceId ∧ ¬Connectable s deviceId' ∧ portSearched s deviceId' = portSearched s deviceId

/-- What stands behind the frame makes no difference: the client is not waiting for commands, or the
frame is no `MESSAGE_CONNECT`, or it contains device and port, or those behind it come to the same. -/
def ReadsOwn (env : Env) (k : ClientPtr) (s : Daemon) (frame frame' : Bytes) : Prop :=
  (s.clients.client k).any (fun client => client.state = .command) →
    ∀ deviceId port, readRequest env frame = .connect deviceId port → (le32At frame 0).toNat < 22 →
      ∀ deviceId' port', readRequest env frame' = .connect deviceId' port' →
        SameConnect s.mux deviceId deviceId' port port'

section Commands

variable {env : Env} {k : ClientPtr} {s : Daemon} {frame frame' : Bytes}

private theorem connectCommand_mux (tag deviceId : UInt32) (port : UInt16) :
    (connectCommand env k tag deviceId port s).2.mux = (deviceStartConnect env deviceId.toNat port k s.mux).2 := by
  simp only [connectCommand]
  split <;> rfl

private theorem connectCommand_same (tag : UInt32) {deviceId deviceId' : UInt32} {port port' : UInt16}
    (same : SameConnect s.mux deviceId deviceId' port port') :
    connectCommand env k tag deviceId' port' s = connectCommand env k tag deviceId port s := by
  rcases same with ⟨rfl, rfl⟩ | ⟨one, two, searched⟩
  · rfl
  · simp only [connectCommand, deviceStartConnect_refused env k port one, deviceStartConnect_refused env k port' two,
      searched]
    rfl

private theorem handleCommand_connect {client : MuxClient} (present : s.clients.client k = some client)
    (commanding : client.state = .command) {deviceId : UInt32} {port : UInt16}
    (connect : readRequest env frame = .connect deviceId port) :
    handleCommand env k frame s = connectCommand env k (le32At frame 12) deviceId port s := by
  simp only [handleCommand, present, if_neg (not_not.mpr commanding), connect]

/-- Frames that agree up to their length are handled alike if what stands behind them makes no
difference. -/
private theorem handleCommand_residue {client : MuxClient} (present : s.clients.client k = some client)
    (same : frame'.take (le32At frame 0).toNat = frame.take (le32At frame 0).toNat)
    (header : 16 ≤ (le32At frame 0).toNat) (own : ReadsOwn env k s frame frame') :
    handleCommand env k frame' s = handleCommand env k frame s := by
  have tag : le32At frame' 12 = le32At frame 12 := le32At_of_take same (by omega)
  by_cases commanding : client.state = .command
  swap
  · simp only [handleCommand, present, if_pos commanding, tag]
  by_cases short : ∃ deviceId port, readRequest env frame = .connect deviceId port ∧ (le32At frame 0).toNat < 22
  · obtain ⟨deviceId, port, connect, cut⟩ := short
    obtain ⟨deviceId', port', connect'⟩ := readRequest_connect env same header connect
    rw [handleCommand_connect present commanding connect', handleCommand_connect present commanding connect, tag]
    exact connectCommand_same _ (own (by simp [present, commanding]) deviceId port connect cut deviceId' port' connect')
  · have request : readRequest env frame' = readRequest env frame := by
      refine readRequest_of_take env same rfl header fun deviceId port connect => ?_
      by_contra cut
      exact short ⟨deviceId, port, connect, Nat.not_le.mp cut⟩
    simp only [handleCommand, tag, request]

end Commands

/-- What a command does depends on the frame alone, exactly if what stands behind the frame makes no
difference: with other bytes behind the frame in the command buffer, the state after the command then
differs in that buffer only. -/
theorem command_reads_own_frame (env : Env) (k : ClientPtr) (s : Daemon) (residue frame frame' : Bytes)
    (complete : (readCommand env k s.clients).1 = .frame frame)
    (complete' : (readCommand env k (s.withInput k residue).clients).1 = .frame frame')
    (same : frame'.take (le32At frame 0).toNat = frame.take (le32At frame 0).toNat) :
    inputBufferProcess env k (s.withInput k residue) = (inputBufferProcess env k s).withInput k frame' ↔
      ReadsOwn env k s frame frame' := by
  obtain ⟨client, there, -, least, after⟩ := readCommand_completed complete
  have header : 16 ≤ (le32At frame 0).toNat := UInt32.le_iff_toNat_le.mp least
  have announced : le32At frame' 0 = le32At frame 0 := le32At_of_take same (by omega)
  -- both runs carry out a command in the state in which the buffer holds the second frame
  set y := (s.setClients (readCommand env k s.clients).2).withInput k frame' with start
  have handled : (inputBufferProcess env k s).withInput k frame' =
      (handleCommand env k frame y).2.setClients ((handleCommand env k frame y).2.clients.modify k fun client =>
        { client with ibSize := 0 }) := by
    simp only [inputBufferProcess, complete]
    rw [start, Daemon.withInput, handleCommand_blind]
    exact congrArg (Daemon.setClients _) (Clients.mapInputs_modify _ k _ fun _ _ => rfl).symm
  have handled' : inputBufferProcess env k (s.withInput k residue) =
      (handleCommand env k frame' y).2.setClients ((handleCommand env k frame' y).2.clients.modify k fun client =>
        { client with ibSize := 0 }) := by
    simp only [inputBufferProcess, complete']
    rw [readCommand_withInput complete complete' announced]
  obtain ⟨client', present, state⟩ : ∃ client', y.clients.client k = some client' ∧ client'.state = client.state := by
    rw [start, after]
    simp [Daemon.withInput, Daemon.mapInputs, Daemon.setClients, Clients.completed, MuxClient.mapInput]
  have mux : y.mux = s.mux := rfl
  rw [handled, handled']
  constructor
  · intro equal commanding deviceId port connect _ deviceId' port' connect'
    have waiting : client'.state = .command := by simpa [there, state] using commanding
    have traces := congrArg Daemon.mux equal
    simp only [handleCommand_connect present waiting connect, handleCommand_connect present waiting connect',
      Daemon.setClients, connectCommand_mux, mux] at traces
    exact deviceStartConnect_inj env k traces
  · intro own
    rw [handleCommand_residue present same header]
    simpa [ReadsOwn, present, there, state, mux] using own

/-- A request of full length, with other bytes behind it. -/
theorem connect_reads_own_frame :
    let s := run sessionEnv [.accept, .clientProcess 5 ⟨true, false⟩]
    inputBufferProcess sessionEnv 0 (s.withInput 0 ((connectFrame 1 62078).take 16 ++ List.replicate 12 255)) =
      (inputBufferProcess sessionEnv 0 s).withInput 0 (connectFrame 1 62078 ++ List.replicate 4 255) :=
  (command_reads_own_frame sessionEnv 0 _ _ (connectFrame 1 62078) _ (by decide +kernel) (by decide +kernel)
    (by decide)).mpr fun _ _ _ _ short => absurd short (by decide)

/-- A `MESSAGE_CONNECT` that is a header and nothing else, with tag 8. -/
def bareConnect : Bytes := le32 16 ++ le32 0 ++ le32 2 ++ le32 8

/-- The world of the session, in which the first frame is followed by a header. -/
def retrying : Env :=
  { sessionEnv with
    sock := fun n =>
      { sessionEnv.sock n with recv := if n ≤ 2 then (sessionEnv.sock n).recv else .received bareConnect } }

/-- A client asks for device 1 before it is there. -/
def retry : List Event :=
  [.accept, .clientProcess 5 ⟨true, false⟩, .clientProcess 5 ⟨true, false⟩, .deviceAdd 0,
    .dataInput 0 (.full versionReply)]

/-- The header connects the client to the device and port of its last request. Had that request been for
device 2, the same header would have been answered with an error. -/
theorem bare_connect_reads_residue :
    let s := run retrying retry
    let s' := s.withInput 0 (connectFrame 2 62078)
    (readCommand retrying 0 s.clients).1 = .frame (bareConnect ++ (connectFrame 1 62078).drop 16) ∧
      (readCommand retrying 0 s'.clients).1 = .frame (bareConnect ++ (connectFrame 2 62078).drop 16) ∧
      le32At bareConnect 0 = 16 ∧
      ((inputBufferProcess retrying 0 s).clients.client 0).map (·.state) = some .connecting1 ∧
      ((inputBufferProcess retrying 0 s).mux.conn 0).map (fun m => (m.dev, m.dport)) = some (0, 62078) ∧
      ((inputBufferProcess retrying 0 s').clients.client 0).map (·.state) = some .command ∧
      .result 8 resultBadDev ∈ (inputBufferProcess retrying 0 s').clients.log 0 := by
  decide +kernel

end Usbmuxd
