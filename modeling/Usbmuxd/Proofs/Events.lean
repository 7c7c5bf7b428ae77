import Usbmuxd.Proofs.Arrival
import Usbmuxd.Proofs.Removal
import Usbmuxd.Proofs.Walk

/-! # The events, deed by deed

Most events are deeds and nothing else. A transfer from a device also brings a packet, and with it a
segment to a connection. A device that comes, leaves or gives up its connections changes its record and
the list. So an invariant holds after an event if deeds keep it and if it does not depend on the rest.
-/

namespace Usbmuxd

open Collection

/-- The segment that a transfer hands to `device_tcp_input`, with its device. -/
def transferSegment (u : UsbPtr) (t : Transfer) (s : Mux) : Option (DevPtr × TcpHdr × Bytes) :=
  match findDevice u s with
  | none => none
  | some d =>
    if t.length = 0 then none
    else if usbMru < t.length ∨ devMru < t.length then none
    else
      match (reassemble (s.dev d) t).1 with
      | .held => none
      | .packet buffer length =>
        if (be32At buffer 4).toNat ≠ length then none
        else
          match dispatch (s.dev d).version buffer length with
          | .tcpInput th payload => some (d, TcpHdr.decode th, payload)
          | _ => none

/-- The state in which a packet is dispatched: it is out of the reassembly buffer, noted and counted. -/
def Daemon.taking (s : Daemon) (d : DevPtr) (rxSeq : Option UInt16) (pktbuf packet : Bytes) (seen : UInt16) : Daemon :=
  s.setMux ((s.mux.setDev d { s.mux.dev d with rxSeq := rxSeq, pktbuf := pktbuf, pktlen := 0 }).logDev d
    (.received packet seen))

/-- What becomes of a transfer: nothing, a piece of a packet, or a packet that is dispatched. -/
inductive Reception (env : Env) (u : UsbPtr) (t : Transfer) (s : Daemon) : Prop
  | nothing (silent : transferSegment u t s.mux = none) (same : deviceDataInput env u t s = s)
  | piece (silent : transferSegment u t s.mux = none) {d : DevPtr} {dev : MuxDevice} (ties : (s.mux.dev d).SameTies dev)
      (stored : deviceDataInput env u t s = s.setMux (s.mux.setDev d dev))
  | packet {d : DevPtr} {buffer : Bytes} {length : ℕ} {rxSeq : Option UInt16} {pktbuf : Bytes}
      (found : findDevice u s.mux = some d) (held : length ≤ buffer.length)
      (known : (s.mux.dev d).rxSeq.isSome → rxSeq.isSome)
      (segment : transferSegment u t s.mux =
        match dispatch (s.mux.dev d).version buffer length with
        | .tcpInput th payload => some (d, TcpHdr.decode th, payload)
        | _ => none)
      (greeting : ∀ vh payload, dispatch (s.mux.dev d).version buffer length = .versionInput vh payload →
        greets u t s.mux = true)
      (dispatched : deviceDataInput env u t s = runDispatch env d (dispatch (s.mux.dev d).version buffer length)
        (s.taking d rxSeq pktbuf (buffer.take length) ((s.mux.dev d).rxSeqSeen buffer length)))

section Reassembly

variable {dev : MuxDevice} {t : Transfer} {buffer : Bytes} {length : ℕ}

private theorem reassemble_ties (dev : MuxDevice) (t : Transfer) : dev.SameTies (reassemble dev t).2 := by
  simp only [reassemble]
  repeat' split
  all_goals exact ⟨rfl, rfl, .rfl⟩

private theorem reassemble_packet (complete : (reassemble dev t).1 = .packet buffer length) :
    length ≤ buffer.length ∧ ∃ pktbuf, (reassemble dev t).2 = { dev with pktbuf := pktbuf, pktlen := 0 } := by
  rcases dev with ⟨usbdev, id, state, visible, initialised, connections, nextSport, pktbuf, pktlen, data, version, rx,
    tx⟩
  simp only [reassemble] at complete ⊢
  split at complete
  · next going =>
    split at complete
    · cases complete
    next fits =>
    split at complete
    · next whole =>
      obtain ⟨rfl, rfl⟩ := Reassembly.packet.inj complete
      refine ⟨?_, _, by rw [if_pos going, if_neg fits, if_pos whole]⟩
      have brought : t.data.length = t.length := List.length_take_of_le t.fits
      simp only [overwrite, List.length_append, List.length_take, List.length_replicate, brought]
      omega
    · cases complete
  next idle =>
  split at complete
  · cases complete
  next short =>
  obtain ⟨rfl, rfl⟩ := Reassembly.packet.inj complete
  rw [if_neg idle, if_neg short]
  exact ⟨t.fits, pktbuf, by simpa using idle⟩

end Reassembly

section Input

variable (env : Env) {reach : Reach} {s : Daemon} {d : DevPtr}

private theorem receive_taking (s : Daemon) (d : DevPtr) (pktbuf buffer : Bytes) (length : ℕ) :
    ∃ rxSeq, ((s.mux.dev d).rxSeq.isSome → rxSeq.isSome) ∧
      (s.setMux (s.mux.setDev d { s.mux.dev d with pktbuf := pktbuf, pktlen := 0 })).receive d buffer length =
        s.taking d rxSeq pktbuf (buffer.take length) ((s.mux.dev d).rxSeqSeen buffer length) := by
  by_cases numbered : 2 ≤ (s.mux.dev d).version
  · refine ⟨some (be16At buffer 14), fun _ => rfl, ?_⟩
    simp only [Daemon.receive, Daemon.taking, Daemon.setMux, Mux.setDev, Function.update_self, Function.update_idem,
      MuxDevice.track, numbered, if_true]
    rfl
  · refine ⟨(s.mux.dev d).rxSeq, id, ?_⟩
    simp only [Daemon.receive, Daemon.taking, Daemon.setMux, Mux.setDev, Function.update_self, Function.update_idem,
      MuxDevice.track, numbered, if_false]
    rfl

theorem deviceDataInput_reception (u : UsbPtr) (t : Transfer) : Reception env u t s := by
  rcases found : findDevice u s.mux with _ | d
  · exact .nothing (by rw [transferSegment, found]) (by rw [deviceDataInput, found])
  by_cases empty : t.length = 0
  · exact .nothing (by simp only [transferSegment, found, if_pos empty])
      (by simp only [deviceDataInput, found, if_pos empty])
  by_cases large : usbMru < t.length ∨ devMru < t.length
  · exact .nothing (by simp only [transferSegment, found, if_neg empty, if_pos large])
      (by simp only [deviceDataInput, found, if_neg empty, if_pos large])
  have ties := reassemble_ties (s.mux.dev d) t
  rcases outcome : (reassemble (s.mux.dev d) t).1 with _ | ⟨buffer, length⟩
  · exact .piece (by simp only [transferSegment, found, if_neg empty, if_neg large, outcome]) ties
      (by simp only [deviceDataInput, found, if_neg empty, if_neg large, outcome])
  by_cases whole : (be32At buffer 4).toNat = length
  swap
  · exact .piece (by simp only [transferSegment, found, if_neg empty, if_neg large, outcome, if_pos whole]) ties
      (by simp only [deviceDataInput, found, if_neg empty, if_neg large, outcome, packetInput, if_pos whole])
  obtain ⟨held, pktbuf, record⟩ := reassemble_packet outcome
  obtain ⟨rxSeq, known, taken⟩ := receive_taking s d pktbuf buffer length
  have version : ((s.setMux (s.mux.setDev d (reassemble (s.mux.dev d) t).2)).mux.dev d).version =
      (s.mux.dev d).version := by
    simp [Daemon.setMux, Mux.setDev, (reassemble_core (s.mux.dev d) t).version]
  have dispatched : deviceDataInput env u t s = runDispatch env d (dispatch (s.mux.dev d).version buffer length)
      (s.taking d rxSeq pktbuf (buffer.take length) ((s.mux.dev d).rxSeqSeen buffer length)) := by
    simp only [deviceDataInput, found, if_neg empty, if_neg large, outcome, packetInput_whole env whole, version]
    rw [record, taken]
  refine .packet found held known ?_ (fun vh payload greeting => ?_) dispatched
  · simp only [transferSegment, found, if_neg empty, if_neg large, outcome, if_neg (not_not.mpr whole)]
  · simp only [greets, found, outcome, greeting]

/-- What comes in before the daemon does anything: the packet, and the segment in it if that is for a
connection of the device. -/
inductive Taken (s : Daemon) (d : DevPtr) : Daemon → Prop
  | packet (rxSeq : Option UInt16) (pktbuf packet : Bytes) (seen : UInt16) :
      Taken s d (s.taking d rxSeq pktbuf packet seen)
  | segment (rxSeq : Option UInt16) (pktbuf : Bytes) (seen : UInt16) {version length : ℕ} {buffer th payload : Bytes}
      (held : length ≤ buffer.length) (tcp : dispatch version buffer length = .tcpInput th payload) {c : ConnPtr}
      (found : findConnection d (TcpHdr.decode th).dport (TcpHdr.decode th).sport s.mux = some c) {s₁ : Daemon}
      (arrival : Arrival c (TcpHdr.decode th) payload (s.taking d rxSeq pktbuf (buffer.take length) seen) s₁) :
      Taken s d s₁

/-- The deeds that follow, and what else an event may change: the device is given up in its handshake, or
its worker is started. -/
def Daemon.Reacts (env : Env) (reach : Reach) (d : DevPtr) (s s' : Daemon) : Prop :=
  ∃ x list workers, Does env reach s x ∧
    s' = { x.setMux { x.mux with deviceList := list } with workers := workers } ∧
    (list = x.mux.deviceList ∨ (s.mux.dev d).state = .init ∧ list = x.mux.deviceList.erase d)

private theorem Daemon.Reacts.of_does {s' : Daemon} (does : Does env reach s s') : s.Reacts env reach d s' :=
  ⟨s', s'.mux.deviceList, s'.workers, does, rfl, .inl rfl⟩

variable (wide : reach.Wide)
include wide

theorem deviceVersionInput_reacts (vh : Bytes) : s.Reacts env reach d (deviceVersionInput env d vh s) := by
  simp only [deviceVersionInput]
  split
  · exact .of_does env (.refl s)
  next waiting =>
  have waiting := not_not.mp waiting
  split
  · exact ⟨s, _, s.workers, .refl s, rfl, .inr ⟨waiting, rfl⟩⟩
  set x := (s.mux.setDev d { s.mux.dev d with version := (be32At vh 0).toNat }).logDev d (.version (be32At vh 0))
  have versioned : Does env reach s (s.setMux (s.mux.setDev d { s.mux.dev d with version := (be32At vh 0).toNat })) :=
    .setDev env wide ⟨rfl, rfl, .rfl⟩
  have noted : Does env reach s (s.setMux x) := versioned.trans fun _ => (Deeds.refl _).logged wide rfl
  set y := if 2 ≤ (be32At vh 0).toNat then (sendPacket env d .setup [] [7] x).2 else x with telling
  obtain ⟨told, alive⟩ : Does env reach (s.setMux x) (s.setMux y) ∧ (y.dev d).state = .init := by
    have state : (x.dev d).state = .init := by simpa [x, Mux.logDev, Mux.setDev] using waiting
    rw [telling]
    split
    · obtain ⟨_, _, _, _, _, _, sent, -⟩ := sendPacket_state env d .setup [] [7] x
      exact ⟨fun _ => (Deeds.refl _).packet wide d (.inl (by decide)), by rw [sent]; simpa using state⟩
    · exact ⟨.refl _, state⟩
  have activated : Does env reach (s.setMux y) (s.setMux (y.activate d)) := by
    simp only [Mux.activate]
    split
    · exact .setDev env wide (s := s.setMux y) ⟨rfl, rfl, by simp [Daemon.setMux, alive]⟩
    · exact (Does.fault (s.setMux y) _).trans (.setDev env wide ⟨rfl, rfl, by simp [Daemon.setMux, Mux.fault, alive]⟩)
  have opened := (noted.trans told).trans activated
  set s₁ := s.setMux (y.activate d)
  simp only [preflightWorkerDeviceAdd]
  split
  · exact .of_does env (opened.trans (clientDeviceAdd_does env wide _))
  have asked : Does env reach s₁ (s₁.setClients s₁.clients.bump) :=
    fun _ => (Deeds.refl s₁).unseen s₁.mux.tick _ s₁.mux.faults s₁.clients.faults
  split
  · exact ⟨_, _, _, opened.trans asked, rfl, .inl rfl⟩
  · exact .of_does env ((opened.trans asked).trans (clientDeviceAdd_does env wide _))

private theorem deviceTcpInput_stray {th : TcpHdr} (absent : findConnection d th.dport th.sport s.mux = none)
    (payload : Bytes) :
    Does env reach s (deviceTcpInput env d th payload s) := by
  simp only [deviceTcpInput, absent]
  split
  · exact .refl s
  · split
    · exact .refl s
    · exact fun _ => (Deeds.refl s).packet wide d (.inr ⟨_, rfl, rfl, rfl, rfl⟩)

/-- `device_data_input`. -/
theorem deviceDataInput_reacts (u : UsbPtr) (t : Transfer) :
    (∃ d, s.Reacts env reach d (deviceDataInput env u t s)) ∨
      ∃ d s₁, findDevice u s.mux = some d ∧ Taken s d s₁ ∧ s₁.Reacts env reach d (deviceDataInput env u t s) ∧
        (s₁.mux.dev d).state = (s.mux.dev d).state := by
  rcases @deviceDataInput_reception env s u t with ⟨-, same⟩ | ⟨-, ties, stored⟩ |
    @⟨d, buffer, length, rxSeq, pktbuf, found, held, -, -, -, dispatched⟩
  · exact .inl ⟨0, .of_does env (same.symm ▸ .refl s)⟩
  · exact .inl ⟨0, .of_does env (stored.symm ▸ .setDev env wide ties)⟩
  set seen := (s.mux.dev d).rxSeqSeen buffer length
  set s₁ := s.taking d rxSeq pktbuf (buffer.take length) seen
  have state : (s₁.mux.dev d).state = (s.mux.dev d).state := by
    simp [s₁, Daemon.taking, Daemon.setMux, Mux.logDev, Mux.setDev]
  have plain {s' : Daemon} (reacts : s₁.Reacts env reach d s') : ∃ d s₁, findDevice u s.mux = some d ∧ Taken s d s₁ ∧
      s₁.Reacts env reach d s' ∧ (s₁.mux.dev d).state = (s.mux.dev d).state :=
    ⟨d, s₁, found, .packet .., reacts, state⟩
  right
  rw [dispatched]
  rcases tcp : dispatch (s.mux.dev d).version buffer length with ⟨vh, _⟩ | payload | ⟨th, payload⟩ | _ | _
  · exact plain (deviceVersionInput_reacts env wide vh)
  · exact plain (.of_does env fun _ => (Deeds.refl s₁).logged wide rfl)
  · simp only [runDispatch]
    have same : findConnection d (TcpHdr.decode th).dport (TcpHdr.decode th).sport s₁.mux =
        findConnection d (TcpHdr.decode th).dport (TcpHdr.decode th).sport s.mux := by
      simp [findConnection, s₁, Daemon.taking, Daemon.setMux, Mux.logDev, Mux.setDev]
    rcases connection : findConnection d (TcpHdr.decode th).dport (TcpHdr.decode th).sport s.mux with _ | c
    · exact plain (.of_does env (deviceTcpInput_stray env wide (same.trans connection) payload))
    simp only [deviceTcpInput, same.trans connection]
    split
    · exact plain (.of_does env (.refl s₁))
    obtain ⟨s₂, arrival, does, -⟩ := connectionInput_does env (s := s₁) (wide.conns c) (TcpHdr.decode th) payload
    refine ⟨d, s₂, found, .segment rxSeq pktbuf seen held tcp connection arrival, .of_does env does, ?_⟩
    rw [← state]
    cases arrival <;> rfl
  · exact plain (.of_does env (.refl s₁))
  · exact plain (.of_does env (.refl s₁))

end Input

/-- Connections, wires and the logs of clients are the same, and every device is on its USB device. -/
structure Aside (s s' : Daemon) : Prop where
  conns : s.mux.SameConns s'.mux
  devLog : s'.mux.devLog = s.mux.devLog
  txXfers : s'.mux.txXfers = s.mux.txXfers
  usbdev : ∀ d, (s'.mux.dev d).usbdev = (s.mux.dev d).usbdev
  log : s'.clients.log = s.clients.log

/-- A property that deeds keep, and that depends on nothing else. -/
structure Kept (env : Env) (reach : Reach) (holds : Daemon → Prop) : Prop where
  wide : reach.Wide
  deeds : ∀ {s s' : Daemon}, holds s → Deeds env reach s s' → holds s'
  aside : ∀ {s s' : Daemon}, holds s → Aside s s' → holds s'

namespace Kept

variable {env : Env} {reach : Reach} {holds : Daemon → Prop} (kept : Kept env reach holds) {s : Daemon}
include kept

private theorem does {s' : Daemon} (start : holds s) (does : Does env reach s s') : holds s' :=
  kept.deeds start (does (kept.wide.within _))

private theorem setDev (start : holds s) (d : DevPtr) (dev : MuxDevice) (same : dev.usbdev = (s.mux.dev d).usbdev) :
    holds (s.setMux (s.mux.setDev d dev)) := by
  refine kept.aside start ⟨⟨rfl, rfl, rfl⟩, rfl, rfl, fun d' => ?_, rfl⟩
  by_cases here : d' = d
  · subst here
    simpa [Daemon.setMux, Mux.setDev] using same
  · simp [Daemon.setMux, Mux.setDev, here]

private theorem relist (start : holds s) (list : List DevPtr) : holds (s.setMux { s.mux with deviceList := list }) :=
  kept.aside start ⟨⟨rfl, rfl, rfl⟩, rfl, rfl, fun _ => rfl, rfl⟩

private theorem reacts {d : DevPtr} {s' : Daemon} (start : holds s) (reacts : s.Reacts env reach d s') : holds s' := by
  obtain ⟨x, list, workers, does, rfl, -⟩ := reacts
  exact kept.aside (kept.does start does) ⟨⟨rfl, rfl, rfl⟩, rfl, rfl, fun _ => rfl, rfl⟩

private theorem deviceAdd (u : UsbPtr) (added : ∀ dev, holds (s.setMux (s.mux.setDev s.mux.nextDev dev))) :
    holds (s.setMux (deviceAdd env u s.mux).2) := by
  set filled := { (getNextDeviceId s.mux).2.setDev s.mux.nextDev (newDevice u (getNextDeviceId s.mux).1) with
    nextDev := s.mux.nextDev + 1 }
  have start : holds (s.setMux filled) :=
    kept.aside (added (newDevice u (getNextDeviceId s.mux).1)) ⟨⟨rfl, rfl, rfl⟩, rfl, rfl, fun _ => rfl, rfl⟩
  have asked : holds (s.setMux (sendPacket env s.mux.nextDev .version versionRequest [] filled).2) :=
    kept.deeds start ((Deeds.refl _).packet kept.wide _ (.inl (by decide)))
  simp only [Usbmuxd.deviceAdd]
  split
  · exact asked
  · exact kept.aside asked ⟨⟨rfl, rfl, rfl⟩, rfl, rfl, fun _ => rfl, rfl⟩

private theorem deviceRemove (start : holds s) (u : UsbPtr) : holds (deviceRemove env u s) := by
  simp only [Usbmuxd.deviceRemove]
  split
  · exact start
  next d _ =>
  split
  swap
  · exact kept.relist start _
  have dead : holds (s.retire d) := by
    have marked : holds (s.setMux (s.mux.setDev d { s.mux.dev d with state := .dead })) :=
      kept.setDev start d _ (by rfl)
    exact kept.deeds marked ((Deeds.refl _).logged kept.wide rfl)
  have torn := kept.does dead (teardownAll_does env kept.wide.conns d)
  have told := kept.does torn (clientDeviceRemove_does env kept.wide ((teardownAll env d (s.retire d)).mux.dev d).id)
  exact kept.relist (kept.setDev told d _ (by rfl)) _

private theorem deviceShutdown (start : holds s) : holds (deviceShutdown env s) := by
  have removed (usbs : List UsbPtr) {current : Daemon} (start : holds current) :
      holds (usbs.foldl (fun s u => Usbmuxd.deviceRemove env u s) current) := by
    induction usbs generalizing current with
    | nil => exact start
    | cons u rest ih => exact ih (kept.deviceRemove start u)
  refine kept.aside (forEach_induct (motive := holds) (removed _ start) fun d current held _ => ?_)
    ⟨⟨rfl, rfl, rfl⟩, rfl, rfl, fun _ => rfl, rfl⟩
  have torn := kept.does held ((touchConnections_does env d).trans (teardownAll_does env kept.wide.conns d))
  exact kept.relist (kept.setDev torn d _ (by rfl)) _

/-- The rule for one event. A new device has a record that is not in use, and connections are opened for
clients in `CLIENT_COMMAND`. -/
theorem step (start : holds s) (added : ∀ dev, holds (s.setMux (s.mux.setDev s.mux.nextDev dev)))
    (taken : ∀ d ∈ s.mux.deviceList, ∀ s₁, Taken s d s₁ → holds s₁)
    (may : ∀ k client bytes, (readCommand env k s.clients).1 = .frame bytes →
      (readCommand env k s.clients).2.client k = some client → client.state = .command → ∀ x clients,
      s.mux.SameConns x → Served k (readCommand env k s.clients).2 clients →
        reach.opens k ((s.setClients clients).setMux x)) (event : Event) : holds (step env s event) := by
  simp only [Usbmuxd.step]
  split
  swap
  · exact start
  cases event with
  | accept =>
    refine kept.aside start ?_
    simp only [clientAccept]
    split <;> exact ⟨⟨rfl, rfl, rfl⟩, rfl, rfl, fun _ => rfl, rfl⟩
  | clientProcess fd events => exact kept.does start (clientProcess_does env kept.wide fd events may)
  | deviceAdd u => exact kept.deviceAdd u added
  | dataInput u t =>
    rcases @deviceDataInput_reacts env reach s kept.wide u t with ⟨d, reacts⟩ | ⟨d, s₁, found, brought, reacts, -⟩
    · exact kept.reacts start reacts
    · exact kept.reacts (taken d (List.mem_of_find?_eq_some found) s₁ brought) reacts
  | deviceRemove u => exact kept.deviceRemove start u
  | checkTimeouts => exact kept.does start (deviceCheckTimeouts_does env kept.wide.conns)
  | workerDeviceAdd info =>
    have ended : holds { s with workers := s.workers.erase info } :=
      kept.aside start ⟨⟨rfl, rfl, rfl⟩, rfl, rfl, fun _ => rfl, rfl⟩
    exact kept.does ended (clientDeviceAdd_does env kept.wide info)
  | workerCbData deviceId data =>
    simp only [deviceSetPreflightCbData]
    split
    · exact start
    · exact kept.setDev start _ _ (by rfl)
  | killConnections =>
    obtain ⟨x, does, killed⟩ := @deviceKillConnections_does env reach kept.wide.conns s
    exact killed ▸ kept.aside (kept.does start does) ⟨⟨rfl, rfl, rfl⟩, rfl, rfl, fun _ => rfl, rfl⟩
  | deviceShutdown => exact kept.deviceShutdown start
  | clientShutdown =>
    obtain ⟨x, does, ended⟩ := @clientShutdown_does env reach kept.wide s
    exact ended ▸ kept.aside (kept.does start does) ⟨⟨rfl, rfl, rfl⟩, rfl, rfl, fun _ => rfl, rfl⟩

end Kept

end Usbmuxd
