import Usbmuxd.Proofs.Deeds

/-! # The functions of the daemon, deed by deed

One walk through the functions that serve connections and clients, and through those that do so for all
of them.
-/

namespace Usbmuxd

open Collection

section Serving

variable (env : Env) {reach : Reach} {s : Daemon} {c : ConnPtr} {k : ClientPtr}

/-- The read of a collection is only noted when it is a fault. -/
theorem touchNamed_faults (deviceId : ℕ) (s : Mux) : ∃ faults, touchNamed deviceId s = { s with faults := faults } := by
  simp only [touchNamed, Mux.touchConnections]
  split
  · exact ⟨_, rfl⟩
  · split
    · exact ⟨_, rfl⟩
    · exact ⟨_, rfl⟩

private theorem touchNamed_does (deviceId : ℕ) : Does env reach s (s.setMux (touchNamed deviceId s.mux)) := by
  obtain ⟨faults, touched⟩ := touchNamed_faults deviceId s.mux
  exact .unseen _ faults touched

private theorem handed_of_not_pos {note : Bytes → ConnEvent} {buffer : Bytes}
    (nothing : ¬0 < (clientWrite env k buffer s.clients).1) :
    s.handed env c k note buffer = s.setClients (clientWrite env k buffer s.clients).2 := by
  simp [Daemon.handed, nothing, Daemon.setMux, Daemon.setClients]

private theorem handed_of_pos {note : Bytes → ConnEvent} {buffer : Bytes}
    (some : 0 < (clientWrite env k buffer s.clients).1) :
    s.handed env c k note buffer = (s.setClients (clientWrite env k buffer s.clients).2).setMux
      (s.mux.logConn c (note (buffer.take (clientWrite env k buffer s.clients).1.toNat))) := by
  simp [Daemon.handed, some, Mux.logConn]

section Flush

variable {motive : Daemon → Prop} (hand : ∀ buffer s, motive s → motive (s.handed env c k .flushed buffer))
  (bump : ∀ s, motive s → motive (s.setMux s.mux.bump))
include hand bump

private theorem flushLoop_induct (rounds : ℕ) (last : UInt64) (buffer : Bytes) (start : motive s) :
    motive (flushLoop env c k rounds last buffer s) := by
  induction rounds generalizing last buffer s with
  | zero => exact start
  | succ rounds ih =>
    have handed := hand buffer s start
    simp only [flushLoop]
    split
    · next failed =>
      rwa [handed_of_not_pos env (by omega)] at handed
    split
    · next blocked =>
      rw [handed_of_not_pos env (by omega)] at handed
      split
      · exact bump _ handed
      · exact ih last buffer (bump _ handed)
    · rw [handed_of_pos env (by omega)] at handed
      split
      · exact handed
      · exact ih _ _ (bump _ handed)

/-- The flush hands bytes to the client and reads the clock. What these two keep is kept. -/
theorem flushClient_induct (m : MuxConnection) (start : motive s) : motive (flushClient env c k m s) := by
  simp only [flushClient]
  split
  · exact flushLoop_induct env hand bump _ _ _ (bump s start)
  · exact start

end Flush

private theorem flushClient_does (reached : reach.conns c) {m₁ : MuxConnection} (present : s.mux.conn c = some m₁)
    (owner : m₁.client = some k) (m : MuxConnection) : Does env reach s (flushClient env c k m s) := by
  refine (flushClient_induct env (motive := fun x => Does env reach s x ∧ x.mux.conn c = some m₁)
    (fun buffer x done => ⟨done.1.trans ?_, done.2⟩) (fun x done => ⟨done.1.trans (.bump x), done.2⟩) m
    ⟨.refl s, present⟩).1
  exact fun _ => (Deeds.refl x).handed reached done.2 owner (.inr rfl) buffer

/-- `connection_teardown`, with a closing function that stays within reach. -/
private theorem connectionTeardownWith_does (reached : reach.conns c) {close : ClientPtr → Daemon → Daemon}
    (closes : ∀ k s, reach.clients k → Does env reach s (close k s)) :
    Does env reach s (connectionTeardownWith close env c s) := by
  intro within
  simp only [connectionTeardownWith]
  split
  · exact Does.fault s _ within
  next m present =>
  split
  · exact .refl s
  next alive =>
  have torn {x : Daemon} (middle : Deeds env reach (s.closing env c m) x) :
      Deeds env reach s (x.setMux (x.mux.unlink c m.dev)) := (Deeds.refl s).torn reached present alive middle
  have start : Within reach (s.closing env c m).mux := within_stepwise.closing reached present within
  obtain ⟨m₁, sent, -, closing⟩ := closing_eq env present
  split
  · have ended : Deeds env reach s (((s.closing env c m).setClients (s.resetting env c m).clients).setMux
        ((s.closing env c m).mux.unlink c m.dev)) := torn (.refl _)
    rw [closing_unlink env present] at ended
    exact ended
  next k owner =>
  have owned := within.owner c m k reached present owner
  split
  · have ended := torn ((Deeds.refl _).served owned (.clientNotifyConnect k _ env resultConnRefused))
    have unmarked := closing_unlink env present
      (clientNotifyConnect env k resultConnRefused (s.resetting env c m).clients).2 m.dev
    exact unmarked ▸ ended
  · have marked : (s.closing env c m).mux.conn c = some { m₁ with state := .dead } := by
      rw [closing]
      exact Function.update_self ..
    have flushed := flushClient_does env reached marked (sent.same.2.1.trans owner) m
    exact torn ((flushed.trans (closes k _ owned)) start)

private theorem deviceAbortConnect_does (named : reach.clients k) (deviceId : ℕ) :
    Does env reach s (deviceAbortConnect env deviceId k s) := by
  simp only [deviceAbortConnect]
  refine (touchNamed_does env deviceId).trans ?_
  split
  · exact .refl _
  next c found =>
  refine .found named found fun reached => ?_
  split
  · exact .fault _ _
  next m present =>
  exact (Does.store reached present { m with client := none } ⟨rfl, rfl, rfl, .inl rfl⟩ rfl).trans
    (connectionTeardownWith_does env reached fun _ s _ => .refl s)

private theorem clientClose_does (named : reach.clients k) : Does env reach s (clientClose env k s) := by
  simp only [clientClose]
  split
  swap
  · exact .refl s
  split
  · exact .clientFault s _
  next client _ =>
  refine Does.trans ?_ (.serve named (.release _ k))
  split
  · exact (Does.serve named (.setClient s.clients k { client with state := .dead })).trans
      (deviceAbortConnect_does env named _)
  · exact .refl s

theorem connectionTeardown_does (reached : reach.conns c) : Does env reach s (connectionTeardown env c s) :=
  connectionTeardownWith_does env reached fun _ _ named => clientClose_does env named

private theorem updateConnection_does (reached : reach.conns c) : Does env reach s (updateConnection c s) := by
  simp only [updateConnection]
  split
  · exact .fault s _
  next m present =>
  have refreshed : Does env reach s (s.setMux (s.mux.setConn c m.refresh)) :=
    .store reached present m.refresh ⟨rfl, rfl, rfl, .inr rfl⟩ rfl
  split
  · exact refreshed.trans (.clientFault _ _)
  next k owner =>
  refine .owned reached present owner fun named => ?_
  exact refreshed.trans (.serve named (.modify _ k _))

private theorem sendTcpAck_does (reached : reach.conns c) : Does env reach s (sendTcpAck env c s) := by
  simp only [sendTcpAck]
  refine (Does.segment s reached thAck [] (by decide)).trans ?_
  split
  · exact connectionTeardown_does env reached
  · exact updateConnection_does env reached

private theorem sendData_does (reached : reach.conns c) (data : Bytes) :
    Does env reach s (s.setMux (sendData env c data s.mux).2) := by
  have sent : Does env reach s (s.setMux (sendTcp env c thAck data (s.mux.logConn c (.read data))).2) :=
    (Does.note s reached (.read data) rfl).trans (.segment _ reached thAck data (by decide))
  simp only [sendData]
  split
  · exact sent
  split
  · exact sent.trans (.fault _ _)
  next m present =>
  have there : (s.setMux (sendTcp env c thAck data (s.mux.logConn c (.read data))).2).mux.conn c = some m := present
  exact sent.trans (.store reached there _ ⟨rfl, rfl, rfl, .inr rfl⟩ rfl)

private theorem clientInput_does (reached : reach.conns c) (named : reach.clients k) (events : PollMask) :
    Does env reach s (clientInput env c k events s) := by
  simp only [clientInput]
  split
  · exact .fault s _
  next m present =>
  split
  swap
  · exact updateConnection_does env reached
  refine (Does.serve named (.clientRead k s.clients env m.sendable)).trans ?_
  split
  · exact connectionTeardown_does env reached
  next data _ =>
  refine (sendData_does env reached data).trans ?_
  split
  · exact connectionTeardown_does env reached
  · exact updateConnection_does env reached

/-- `device_client_process` for a client in reach. -/
theorem deviceClientProcess_does (named : reach.clients k) (deviceId : ℕ) (events : PollMask) :
    Does env reach s (deviceClientProcess env deviceId k events s) := by
  simp only [deviceClientProcess]
  refine (touchNamed_does env deviceId).trans ?_
  set s₁ := s.setMux (touchNamed deviceId s.mux)
  split
  · exact .refl _
  next c found =>
  refine .found named found fun reached => ?_
  split
  · exact .fault _ _
  next m present =>
  have owner : m.client = some k := by
    obtain ⟨_, -, -, owned⟩ := getMuxConnection_held found
    simpa [Mux.hasClient, present] using owned
  have written : Does env reach s₁ (s₁.handed env c k .wrote m.ibBuf) :=
    fun _ => (Deeds.refl s₁).handed reached present owner (.inl rfl) m.ibBuf
  split
  swap
  · exact clientInput_does env reached named events
  split
  · next stuck =>
    rw [handed_of_not_pos env (by omega)] at written
    exact written.trans (connectionTeardown_does env reached)
  · next moved =>
    rw [handed_of_pos env (by omega)] at written
    set w := clientWrite env k m.ibBuf s₁.clients
    have there : ((s₁.setClients w.2).setMux (s₁.mux.logConn c (.wrote (m.ibBuf.take w.1.toNat)))).mux.conn c =
      some m := present
    exact (written.trans (.store reached there
      { m.shift w.1.toNat with txAck := m.txAck + UInt32.ofNat w.1.toNat } ⟨rfl, rfl, rfl, .inr rfl⟩ rfl)).trans
      (clientInput_does env reached named events)

private theorem connectionOpen_does (reached : reach.conns c) {m : MuxConnection} (present : s.mux.conn c = some m)
    (waiting : m.state = .connecting) : Does env reach s (connectionOpen env c m s) := by
  set x := (s.mux.setConn c m.opened).logConn c (.synAck m.rxSeq) with opening
  have present₁ : x.conn c = some m.opened := Function.update_self ..
  obtain ⟨m₂, present₂, sent⟩ := sendTcp_record env thAck [] present₁
  have opened : Does env reach s (s.setMux x) :=
    (Does.store reached present m.opened ⟨rfl, rfl, rfl, .inr rfl⟩ rfl).trans (.note _ reached _ rfl)
  simp only [connectionOpen, ← opening]
  refine opened.trans ((Does.segment _ reached thAck [] (by decide)).trans ?_)
  split
  · exact connectionTeardown_does env reached
  split
  · exact .fault _ _
  next m' present' =>
  obtain rfl : m₂ = m' := Option.some.inj (present₂.symm.trans present')
  have before : m₂.state = .connecting := sent.same.2.2.trans waiting
  -- a teardown sends a reset in either state
  have connected : m₂.SameEnding { m₂ with state := .connected } :=
    ⟨rfl, by simp [before], fun dev => by simp [MuxConnection.sendsRst, before]⟩
  set s₂ := s.setMux (sendTcp env c thAck [] x).2
  set s₃ := s₂.setMux (s₂.mux.setConn c { m₂ with state := .connected })
  have told : Does env reach s₂ s₃ :=
    fun _ => (Deeds.refl s₂).stored reached present' ⟨rfl, rfl, rfl, .inr rfl⟩ connected
  have present₃ : s₃.mux.conn c = some { m₂ with state := .connected } := Function.update_self ..
  refine told.trans ?_
  split
  · exact .clientFault _ _
  next k owner =>
  refine .owned reached present₃ owner fun named => (Does.serve named (.clientNotifyConnect k _ env resultOk)).trans ?_
  split
  · have there : (s₃.setClients (clientNotifyConnect env k resultOk s₃.clients).2).mux.conn c =
      some { m₂ with state := .connected } := present₃
    exact (Does.store reached there { m₂ with state := .connected, client := none } ⟨rfl, rfl, rfl, .inl rfl⟩
      rfl).trans ((connectionTeardown_does env reached).trans (updateConnection_does env reached))
  · exact updateConnection_does env reached

/-- What a segment of a connection does before anything else: its acknowledgement and window are noted.
If it resets the connection the record is marked, and if it brings data that fits they are taken. -/
inductive Arrival (c : ConnPtr) (th : TcpHdr) (payload : Bytes) (s : Daemon) : Daemon → Prop
  | absent (absent : s.mux.conn c = none) : Arrival c th payload s (s.setMux (s.mux.fault (.releasedConnection c)))
  | noted {m : MuxConnection} (present : s.mux.conn c = some m) :
      Arrival c th payload s
        (s.setMux ((s.mux.setConn c (m.receive th)).logConn c (.rx (m.receive th).rxAck (m.receive th).rxWin)))
  | reset {m : MuxConnection} (present : s.mux.conn c = some m) (reset : th.isRst) {state : ConnState}
      (marks : state = .refused ∨ state = .dying) :
      Arrival c th payload s (s.setMux ((s.mux.setConn c { m.receive th with state := state }).logConn c
        (.rx (m.receive th).rxAck (m.receive th).rxWin)))
  | accepted {m : MuxConnection} (present : s.mux.conn c = some m) (flags : th.flags = thAck) :
      Arrival c th payload s
        (s.setMux ((((s.mux.setConn c ((m.receive th).accept payload)).logConn c
          (.rx (m.receive th).rxAck (m.receive th).rxWin))).logConn c (.accepted payload)))

/-- Flags without `TH_RST`. -/
theorem TcpHdr.isRst_of_flags {th : TcpHdr} {flags : UInt8} (same : th.flags = flags) (plain : flags &&& thRst = 0) :
    th.isRst = false := by
  simp [isRst, same, plain]

/-- `device_tcp_input` for a segment of a connection. After a segment that resets it, nothing happens or the
record is one that sends no reset. -/
theorem connectionInput_does (reached : reach.conns c) (th : TcpHdr) (payload : Bytes) :
    ∃ s₁, Arrival c th payload s s₁ ∧ Does env reach s₁ (connectionInput env c th payload s) ∧
      (th.isRst → connectionInput env c th payload s = s₁ ∨
        ∃ m, s₁.mux.conn c = some m ∧ ∀ dev, m.sendsRst dev = false) := by
  simp only [connectionInput]
  split
  · next absent => exact ⟨_, .absent absent, .refl _, fun _ => .inl rfl⟩
  next m present =>
  set s₁ := s.setMux ((s.mux.setConn c (m.receive th)).logConn c (.rx (m.receive th).rxAck (m.receive th).rxWin))
  have present₁ : s₁.mux.conn c = some (m.receive th) := Function.update_self ..
  have noted : Arrival c th payload s s₁ := .noted present
  have ended {state : ConnState} (marks : state = .refused ∨ state = .dying) :
      let s₃ := connectionTeardown env c (s₁.setMux (s₁.mux.setConn c
        (if th.isRst then { m.receive th with state := state } else m.receive th)))
      ∃ s₂, Arrival c th payload s s₂ ∧ Does env reach s₂ s₃ ∧
        (th.isRst → s₃ = s₂ ∨ ∃ m, s₂.mux.conn c = some m ∧ ∀ dev, m.sendsRst dev = false) := by
    intro s₃
    by_cases reset : th.isRst
    · simp only [s₃, if_pos reset]
      refine ⟨_, .reset present reset marks, ?_, fun _ => .inr ⟨_, Function.update_self .., fun dev => ?_⟩⟩
      swap
      · rcases marks with rfl | rfl <;> simp [MuxConnection.sendsRst]
      have stored : s₁.setMux (s₁.mux.setConn c { m.receive th with state := state }) =
          s.setMux ((s.mux.setConn c { m.receive th with state := state }).logConn c
            (.rx (m.receive th).rxAck (m.receive th).rxWin)) := by
        simp [s₁, Daemon.setMux, Mux.setConn, Mux.logConn]
      rw [stored]
      exact connectionTeardown_does env reached
    · simp only [s₃, if_neg reset]
      exact ⟨s₁, noted, (Does.store reached present₁ (m.receive th) (.refl _) rfl).trans
        (connectionTeardown_does env reached), fun resets => absurd resets reset⟩
  split
  · next waiting =>
    split
    · exact ended (.inl rfl)
    next accepts =>
    exact ⟨s₁, noted, connectionOpen_does env reached present₁ waiting,
      by simp [TcpHdr.isRst_of_flags (not_not.mp accepts) (by decide)]⟩
  · split
    · exact ended (.inr rfl)
    next acknowledges =>
    have unreset : th.isRst = false := TcpHdr.isRst_of_flags (not_not.mp acknowledges) (by decide)
    simp only [connectionDeviceInput, present₁]
    split
    · exact ⟨s₁, noted, (connectionTeardown_does env reached).trans (sendTcpAck_does env reached), by simp [unreset]⟩
    · refine ⟨_, .accepted present (not_not.mp acknowledges), ?_, by simp [unreset]⟩
      have stored : s₁.setMux ((s₁.mux.setConn c ((m.receive th).accept payload)).logConn c (.accepted payload)) =
          s.setMux ((((s.mux.setConn c ((m.receive th).accept payload)).logConn c
            (.rx (m.receive th).rxAck (m.receive th).rxWin))).logConn c (.accepted payload)) := by
        simp [s₁, Daemon.setMux, Mux.setConn, Mux.logConn]
      rw [stored]
      exact (updateConnection_does env reached).trans (sendTcpAck_does env reached)
  · exact ⟨s₁, noted, .refl s₁, fun _ => .inl rfl⟩

end Serving

section Loops

variable (env : Env) {reach : Reach} (conns : ∀ c, reach.conns c) {s : Daemon}
include conns

theorem teardownAll_does (d : DevPtr) : Does env reach s (teardownAll env d s) :=
  forEach_induct (motive := fun current => Does env reach s current) (.refl s) fun c _ done _ =>
    done.trans (connectionTeardown_does env (conns c))

theorem deviceCheckTimeouts_does : Does env reach s (deviceCheckTimeouts env s) := by
  refine forEach_induct (motive := fun current => Does env reach s current) (.bump s) fun d outer done _ => ?_
  split
  swap
  · exact done
  refine done.trans (forEach_induct (motive := fun current => Does env reach outer current) (.refl outer)
    fun c inner done _ => ?_)
  split
  · exact done.trans (sendTcpAck_does env (conns c))
  · exact done

theorem deviceKillConnections_does :
    ∃ x, Does env reach s x ∧ deviceKillConnections env s = { x with phase := .draining } := by
  refine ⟨_, ?_, rfl⟩
  refine forEach_induct (motive := fun current => Does env reach s current) (.refl s) fun d current done _ => ?_
  split
  · exact done.trans (teardownAll_does env conns d)
  · exact done

end Loops

section Commands

variable (env : Env) {reach : Reach} (wide : reach.Wide) {s : Daemon} {k : ClientPtr}
include wide

theorem clientShutdown_does : ∃ x, Does env reach s x ∧ clientShutdown env s = { x with phase := .stopped } :=
  ⟨_, forEach_induct (motive := fun current => Does env reach s current) (.refl s) fun k _ done _ =>
    done.trans (clientClose_does env (wide.clients k)), rfl⟩

/-- A record of a device is stored. -/
theorem Does.setDev {d : DevPtr} {dev : MuxDevice} (ties : (s.mux.dev d).SameTies dev) :
    Does env reach s (s.setMux (s.mux.setDev d dev)) := fun _ => (Deeds.refl s).device wide ties

omit wide in
theorem touchConnections_does (d : DevPtr) : Does env reach s (s.setMux (s.mux.touchConnections d)) := by
  simp only [Mux.touchConnections]
  split
  · exact .refl s
  · exact .fault s _

private theorem findSport_does (d : DevPtr) : Does env reach s (s.setMux (findSport d s.mux).2) := by
  have touched := @touchConnections_does env reach s d
  simp only [findSport]
  split
  · exact touched
  · exact touched.trans (.setDev env wide ⟨rfl, rfl, .rfl⟩)

/-- The same connections, with the same logs. -/
structure Mux.SameConns (s s' : Mux) : Prop where
  conn : s'.conn = s.conn
  connLog : s'.connLog = s.connLog
  nextConn : s'.nextConn = s.nextConn

/-- `device_start_connect`, for a client that may open a connection whatever ports are tried. -/
private theorem deviceStartConnect_does (deviceId : ℕ) (dport : UInt16)
    (may : ∀ x, s.mux.SameConns x → reach.opens k (s.setMux x)) :
    Does env reach s (s.setMux (deviceStartConnect env deviceId dport k s.mux).2) := by
  simp only [deviceStartConnect]
  split
  · exact .refl s
  next d _ =>
  have searched := findSport_does env wide (s := s) d
  have conns : s.mux.SameConns (findSport d s.mux).2 := by
    simp only [findSport, Mux.touchConnections]
    split <;> split <;> exact ⟨rfl, rfl, rfl⟩
  generalize findSport d s.mux = p at searched conns ⊢
  split
  · exact searched
  set m := newConnection d k p.1 dport
  have opened : Does env reach s (s.setMux (p.2.allocConn m)) :=
    fun within => (searched within).opened wide (may _ conns) rfl
  have sent := opened.trans (.segment _ (wide.conns p.2.nextConn) thSyn [] (by decide))
  simp only [Daemon.setMux] at sent ⊢
  generalize sendTcp env p.2.nextConn thSyn [] (p.2.allocConn m) = r at sent ⊢
  split
  · exact fun within => (sent within).discarded wide (searched within).nextConn_le
  · have added : Does env reach (s.setMux r.2) (s.setMux (r.2.setDev d
        { r.2.dev d with connections := add (env.usb r.2.tick).slot p.2.nextConn (r.2.dev d).connections })) :=
      .setDev env wide ⟨rfl, rfl, .rfl⟩
    exact sent.trans (added.trans (.bump _))

private theorem connectCommand_does (tag deviceId : UInt32) (port : UInt16)
    (may : ∀ x, s.mux.SameConns x → reach.opens k (s.setMux x)) :
    Does env reach s (connectCommand env k tag deviceId port s).2 := by
  have started := deviceStartConnect_does env wide (s := s) deviceId.toNat port may
  simp only [connectCommand]
  split
  · exact started.trans (.serve (wide.clients k) (.sendResult k _ env _ _))
  · exact started.trans (.serve (wide.clients k) ((Served.modify _ k _).trans (.logClient _ k rfl)))

private theorem listenCommand_does (tag : UInt32) : Does env reach s (listenCommand env k tag s).2 := by
  have answered : Does env reach s (s.setClients (sendResult env k tag resultOk s.clients).2) :=
    .serve (wide.clients k) (.sendResult k _ env _ _)
  simp only [listenCommand]
  split
  · exact answered
  · exact answered.trans (.serve (wide.clients k) ((Served.modify _ k _).trans (.announceAll k _ env _)))

private theorem notifyListeners_does {send : ClientPtr → Clients → ℤ × Clients} (sends : ∀ k x, Served k x (send k x).2)
    :
    Does env reach s (s.setClients (notifyListeners send s.clients)) := by
  refine forEach_induct (motive := fun current => Does env reach s (s.setClients current)) (.refl s)
    fun k current done _ => ?_
  split
  · exact done.trans (.serve (wide.clients k) (sends k current))
  · exact done

private theorem savePairRecord_does (tag : UInt32) (dict : Plist) :
    Does env reach s (savePairRecord env k tag dict s).2 := by
  have replied (number : UInt32) (x : Daemon) : Does env reach x (replyResult env k tag number x).2 :=
    .serve (wide.clients k) (.sendResult k _ env _ _)
  have paired (deviceId : ℕ) (known : Prop) [Decidable known] (x : Daemon) :
      Does env reach x (if known then x.setClients (clientDevicePaired env deviceId x.clients) else x) := by
    split
    · exact notifyListeners_does env wide fun k x => .sendDeviceEvent k x env _ _ _
    · exact .refl x
  simp only [savePairRecord]
  split
  · refine (Does.serve (wide.clients k) (.bump s.clients)).trans ?_
    split
    · exact replied _ _
    · exact (paired _ _ _).trans (replied _ _)
  · exact replied _ _

private theorem plistCommand_does (tag : UInt32) (message : String) (dict : Plist)
    (may : ∀ x, s.mux.SameConns x → reach.opens k (s.setMux x)) :
    Does env reach s (plistCommand env k tag message dict s).2 := by
  have serve {x : Clients} (serves : Served k s.clients x) : Does env reach s (s.setClients x) :=
    .serve (wide.clients k) serves
  simp only [plistCommand]
  split
  · exact listenCommand_does env wide tag
  · split
    · exact serve (.sendResult k _ env _ _)
    · exact serve (.sendResult k _ env _ _)
    · exact connectCommand_does env wide tag _ _ may
  · exact serve (.sendPlist k _ env _ _)
  · exact serve (.sendListenerList k _ env _)
  · exact serve ((Served.bump s.clients).trans (.sendPlist k _ env _ _))
  · exact serve (.sendPairRecord k _ env _ _)
  · exact savePairRecord_does env wide tag dict
  · simp only [deletePairRecord]
    split
    · exact serve (.sendResult k _ env _ _)
    · exact serve ((Served.bump s.clients).trans (.sendResult k _ env _ _))
  · exact serve (.sendResult k _ env _ _)

private theorem plistInput_does (tag : UInt32) (dict : Option Plist)
    (may : ∀ x clients, s.mux.SameConns x → Served k s.clients clients →
      reach.opens k ((s.setClients clients).setMux x)) :
    Does env reach s (plistInput env k tag dict s).2 := by
  have spoken : Served k s.clients (s.clients.modify k fun client => { client with protoVersion := 1 }) := .modify _ k _
  simp only [plistInput]
  split
  · exact .serve (wide.clients k) spoken
  next dict =>
  split
  · exact .serve (wide.clients k) spoken
  next message _ =>
  set x := updateClientInfo k dict (s.clients.modify k fun client => { client with protoVersion := 1 })
  have informed : Served k s.clients x := spoken.trans (.modify _ k _)
  exact (Does.serve (wide.clients k) informed).trans
    (plistCommand_does env wide (s := s.setClients x) tag message dict fun y same => may y x same informed)

/-- `handle_command`. A connection may be opened for a client in `CLIENT_COMMAND`. -/
private theorem handleCommand_does (frame : Bytes)
    (may : ∀ client, s.clients.client k = some client → client.state = .command → ∀ x clients,
      s.mux.SameConns x → Served k s.clients clients → reach.opens k ((s.setClients clients).setMux x)) :
    Does env reach s (handleCommand env k frame s).2 := by
  have serve {x : Clients} (serves : Served k s.clients x) : Does env reach s (s.setClients x) :=
    .serve (wide.clients k) serves
  simp only [handleCommand]
  split
  · exact .clientFault s _
  next client present =>
  split
  · split
    · exact serve (.sendResult k _ env _ _)
    · exact (serve (.sendResult k _ env _ _)).trans (clientClose_does env (wide.clients k))
  next commanding =>
  have may := may client present (not_not.mp commanding)
  split
  · exact serve (.sendResult k _ env _ _)
  · exact listenCommand_does env wide _
  · exact connectCommand_does env wide _ _ _ fun x same => may x s.clients same (.refl _)
  · exact plistInput_does env wide _ _ may
  · exact serve (.sendResult k _ env _ _)

/-- `client_process`. -/
theorem clientProcess_does (fd : ℤ) (events : PollMask)
    (may : ∀ k client bytes, (readCommand env k s.clients).1 = .frame bytes →
      (readCommand env k s.clients).2.client k = some client → client.state = .command → ∀ x clients,
      s.mux.SameConns x → Served k (readCommand env k s.clients).2 clients →
        reach.opens k ((s.setClients clients).setMux x)) :
    Does env reach s (clientProcess env fd events s) := by
  have input (k : ClientPtr) : Does env reach s (inputBufferProcess env k s) := by
    have named := wide.clients k
    have received : Does env reach s (s.setClients (readCommand env k s.clients).2) :=
      .serve named (.readCommand k _ env)
    simp only [inputBufferProcess]
    refine received.trans ?_
    split
    · exact clientClose_does env named
    · exact .refl _
    · exact .refl _
    · next bytes framed =>
      have handled := handleCommand_does env wide (s := s.setClients (readCommand env k s.clients).2) (k := k) bytes
        fun client present state x clients same served => may k client bytes framed present state x clients same served
      exact handled.trans (.serve named (.modify _ k _))
  have output (k : ClientPtr) : Does env reach s (outputBufferProcess env k s) := by
    have named := wide.clients k
    simp only [outputBufferProcess]
    split
    · exact .clientFault s _
    split
    · exact .serve named (.setClient _ k _)
    refine (Does.serve named (.bump s.clients)).trans ?_
    split
    · split
      · exact clientClose_does env named
      · exact .serve named ((Served.setClient _ k _).trans (.logClient _ k rfl))
    · exact clientClose_does env named
  simp only [clientProcess]
  split
  · exact .refl s
  next k _ =>
  split
  · exact .refl s
  split
  · exact deviceClientProcess_does env (wide.clients k) _ events
  split
  · exact input k
  split
  · exact output k
  · exact .refl s

/-- `client_device_add`. -/
theorem clientDeviceAdd_does (info : DeviceInfo) : Does env reach s (clientDeviceAdd env info s) := by
  have shown : Does env reach s (s.setMux (deviceSetVisible info.id s.mux)) := by
    simp only [deviceSetVisible]
    split
    · exact .refl s
    · exact .setDev env wide ⟨rfl, rfl, .rfl⟩
  exact shown.trans (notifyListeners_does env wide fun k x => .sendDeviceEvent k x env _ _ _)

theorem clientDeviceRemove_does (deviceId : ℕ) :
    Does env reach s (s.setClients (clientDeviceRemove env deviceId s.clients)) :=
  notifyListeners_does env wide fun k x => .sendDeviceEvent k x env _ _ _

end Commands

end Usbmuxd
