import Usbmuxd.Proofs.Ports
import Usbmuxd.Proofs.Replies

/-! # Connection requests

The `Connect` command with `device_start_connect`. A request for a device that has completed its
handshake is one step of the system together with the `SYN` that leaves for the device; a request
for a device in its handshake is only admitted in a lax run.
-/

namespace Usbmuxd

open Collection ConnLog ConnEvent

section Connect

variable {lax : Laxity} (env : Env) {s : Daemon} {d : DevPtr} {k : ClientPtr}

/-- `find_sport` reads the collection of the device and moves its port counter. -/
private theorem findSport_calm (served : Option ClientPtr) (sound : Sound lax s.sys) (listed : d ∈ s.mux.deviceList)
    (ready : (s.mux.dev d).state = .active ∨ lax.early) :
    Calm lax served s.sys (s.setMux (findSport d s.mux).2).sys ∧ (findSport d s.mux).2.nextConn = s.mux.nextConn := by
  have touched : Calm lax served s.sys (s.setMux (s.mux.touchConnections d)).sys := by
    simp only [Mux.touchConnections]
    split
    · exact .refl _
    · next uninitialised =>
      rw [sys_fault, setMux_mux]
      refine .of_run (.single (.fault s.sys _ (ready.resolve_left fun active => ?_))) rfl rfl rfl
      exact uninitialised ((sound.wires d).initialised.mpr (by
        change (s.mux.dev d).state ≠ .init
        simp [active]))
  have next : (s.mux.touchConnections d).nextConn = s.mux.nextConn := by
    simp only [Mux.touchConnections]
    split <;> rfl
  have list : (s.mux.touchConnections d).deviceList = s.mux.deviceList := by
    simp only [Mux.touchConnections]
    split <;> rfl
  simp only [findSport]
  split
  · exact ⟨touched, next⟩
  · refine ⟨touched.trans ?_, next⟩
    exact bookkeep_calm (s := s.setMux (s.mux.touchConnections d)) served (list ▸ listed)
      ⟨rfl, rfl, rfl, rfl, rfl, rfl, rfl, rfl, id⟩ rfl (.inl rfl)

/-- What `device_start_connect` leaves behind when it succeeds: `SYN` is on its way and the device
holds the new connection. -/
structure Started (lax : Laxity) (served : Option ClientPtr) (deviceId : ℕ) (k : ClientPtr) (s : Daemon) (x : Mux)
    (S : Sys) (d : DevPtr) (m : MuxConnection) (log : List ConnEvent) (slot : ℕ) : Prop where
  calm : Calm lax served s.sys S
  client : S.client = s.sys.client
  next : S.nextConn = s.mux.nextConn
  listed : d ∈ S.deviceList
  ready : (S.dev d).1.state = .active ∨ lax.early
  named : (S.dev d).1.id = deviceId
  run : ConnRun (lax.hears S.nextConn) (none, []) (some m, log)
  dev : m.dev = d
  owner : m.client = some k
  waiting : m.state = .connecting
  unopened : synAcks log = []
  dialled : log ≠ []
  port : m.sport ≠ 0
  unused : ∀ c ∈ (S.dev d).1.connections, ∀ m', (S.conn c).1 = some m' → m'.sport ≠ m.sport
  state : (s.setMux x).sys = { (S.setConn S.nextConn (some m, log)).setDev d
    ({ (S.dev d).1 with connections := add slot S.nextConn (S.dev d).1.connections }, (S.dev d).2) with
      nextConn := S.nextConn + 1 }

/-- `SYN` for a new record: the device is told or not, and the record is there with the segment in its
log. -/
private theorem dial_spec (served : Option ClientPtr) (sound : Sound lax s.sys) (listed : d ∈ s.mux.deviceList)
    (ready : (s.mux.dev d).state = .active ∨ lax.early) (sport dport : UInt16) :
    let m := newConnection d k sport dport
    let r := sendTcp env s.mux.nextConn thSyn [] (s.mux.allocConn m)
    ∃ view now, Calm lax served s.sys (s.sys.setDev d view) ∧
      (s.setMux r.2).sys = { (s.sys.setDev d view).setConn s.mux.nextConn
        (some (if 0 ≤ r.1 then m.acked now else m), [segment (m.header thSyn) [] r.1]) with
          nextConn := s.mux.nextConn + 1 } := by
  intro m r
  set c := s.mux.nextConn
  have fresh : s.sys.conn c = (none, []) := sound.linked.links.fresh c (Nat.le_refl _)
  have stored : (s.setMux (s.mux.allocConn m)).sys = { s.sys.setConn c (some m, []) with nextConn := c + 1 } := by
    have stored := sys_setConn s { s.mux with nextConn := c + 1 } c m
    have noLog : ((s.setMux { s.mux with nextConn := c + 1 }).sys.conn c).2 = [] := congrArg Prod.snd fresh
    rw [noLog] at stored
    exact stored
  have numbered : ((s.mux.allocConn m).dev m.dev).unnumbered = false := (sound.wires d).not_unnumbered
  obtain ⟨view, now, sent, after⟩ :=
    sendTcp_sys env c thSyn [] (s.setMux (s.mux.allocConn m)) (Function.update_self ..) numbered
  have sent : Sent (s.sys.dev d) view := sent
  have noLog : (s.setMux (s.mux.allocConn m)).mux.connLog c = [] := congrArg Prod.snd fresh
  refine ⟨view, now, .of_setDev (sent.run listed ready) sent.quiet, ?_⟩
  rw [noLog, List.nil_append, stored] at after
  refine after.trans ?_
  simp only [Sys.setDev, Sys.setConn, Function.update_idem]
  rfl

private theorem deviceStartConnect_spec (served : Option ClientPtr) (sound : Sound lax s.sys) (deviceId : ℕ)
    (port : UInt16)
    (ready : ∀ d, getMuxDeviceForId deviceId s.mux = some d → (s.mux.dev d).state = .active ∨ lax.early) :
    let r := deviceStartConnect env deviceId port k s.mux
    r.1 < 0 ∧ Calm lax served s.sys (s.setMux r.2).sys ∨
      ¬r.1 < 0 ∧ ∃ S d m log slot, Started lax served deviceId k s r.2 S d m log slot := by
  intro r
  rcases found : getMuxDeviceForId deviceId s.mux with _ | d
  · have result : r = (-(resultBadDev.toNat : ℤ), s.mux) := by simp only [r, deviceStartConnect, found]
    rw [result]
    exact .inl ⟨by simp [resultBadDev], .refl _⟩
  obtain ⟨listed, named⟩ := getMuxDeviceForId_mem found
  have ready := ready d found
  obtain ⟨calm₁, next⟩ := findSport_calm served sound listed ready
  have free : (findSport d s.mux).1 ≠ 0 → (findSport d s.mux).1 ∉ s.mux.sports d := findSport_unused
  have conns : (findSport d s.mux).2.conn = s.mux.conn := findSport_conn s.mux d
  have searched : r = let p := findSport d s.mux
      if p.1 = 0 then (-(resultBadDev.toNat : ℤ), p.2)
      else
        let m := newConnection d k p.1 port
        let r := sendTcp env p.2.nextConn thSyn [] (p.2.allocConn m)
        if r.1 < 0 then (-(resultConnRefused.toNat : ℤ), r.2.freeConn p.2.nextConn)
        else (0, r.2.addConnection env d p.2.nextConn) := by
    simp only [r, deviceStartConnect, found]
  rw [searched]
  generalize findSport d s.mux = p at calm₁ next free conns ⊢
  simp only []
  split
  · exact .inl ⟨by simp [resultBadDev], calm₁⟩
  next given =>
  set s₁ := s.setMux p.2
  have state₁ : (s₁.mux.dev d).state = (s.mux.dev d).state := (calm₁.identity d).state
  have list₁ : s₁.mux.deviceList = s.mux.deviceList := calm₁.list
  obtain ⟨view, now, wired, after⟩ := dial_spec (k := k) env served (calm₁.sound sound) (list₁ ▸ listed)
    (state₁ ▸ ready)
    p.1 port
  have mux₁ : s₁.mux = p.2 := rfl
  rw [mux₁] at after
  have created : ConnRun (lax.hears p.2.nextConn) (none, []) (some (newConnection d k p.1 port), []) :=
    .single (.create d k p.1 port)
  have calm₂ := calm₁.trans wired
  have unused (c : ConnPtr) (member : c ∈ ((s₁.sys.setDev d view).dev d).1.connections) (m' : MuxConnection)
      (record : ((s₁.sys.setDev d view).conn c).1 = some m') : m'.sport ≠ p.1 := by
    have before : s.mux.conn c = some m' := by
      rw [← conns]
      exact record
    exact fun same => free given (Mux.mem_sports.mpr ⟨c, (calm₂.quiet d).connections member, m', before, same⟩)
  have filled : (newConnection d k p.1 port).dev = d ∧ (newConnection d k p.1 port).client = some k ∧
      (newConnection d k p.1 port).state = .connecting ∧ (newConnection d k p.1 port).sport = p.1 :=
        ⟨rfl, rfl, rfl, rfl⟩
  generalize newConnection d k p.1 port = m at after created filled ⊢
  generalize sendTcp env p.2.nextConn thSyn [] (p.2.allocConn m) = r₁ at after ⊢
  split
  · next lost =>
    refine .inl ⟨by simp [resultConnRefused], calm₂.trans ?_⟩
    have gone : ConnRun (lax.hears p.2.nextConn) (none, []) (none, [segment (m.header thSyn) [] r₁.1]) :=
      (created.tail (.segmentFailed m [] thSyn r₁.1 lost)).tail (.tear m _ [] (.silent (.nil _)))
    have state : (s.setMux (r₁.2.freeConn p.2.nextConn)).sys =
        { (s₁.sys.setDev d view).setConn p.2.nextConn (none, [segment (m.header thSyn) [] r₁.1]) with
          nextConn := p.2.nextConn + 1 } := by
      have sent : (s.setMux r₁.2).sys = _ := after
      rw [sys_freeConn, sent]
      simp only [Sys.setConn, Function.update_idem, Function.update_self]
    rw [state]
    exact .of_run (.single (.unreachable _ gone)) rfl rfl rfl
  · next ok =>
    rw [if_pos (by omega)] at after
    have stored : (s₁.setMux r₁.2).sys.dev d = view := by
      rw [after]
      simp [Sys.setDev, Sys.setConn]
    have viewed : (r₁.2.dev d, r₁.2.devLog d) = view := stored
    refine .inr ⟨by simp, s₁.sys.setDev d view, d, m.acked now, [segment (m.header thSyn) [] r₁.1],
      (env.usb r₁.2.tick).slot, calm₂, rfl, next, calm₂.list ▸ listed, ?_, ?_,
      created.tail (.segmentSent m [] thSyn r₁.1 now (by omega)), filled.1, filled.2.1, filled.2.2.1, rfl,
      by simp, filled.2.2.2 ▸ given, filled.2.2.2 ▸ unused, ?_⟩
    · rw [(calm₂.identity d).state]
      exact ready
    · rw [(calm₂.identity d).id]
      exact named
    · have sent : (s.setMux r₁.2).sys = _ := after
      rw [Mux.addConnection, sys_bump, sys_setDev, sent]
      simp only [Sys.setDev, Sys.setConn, Function.update_idem, Function.update_self, ← viewed]
      rfl

/-- The request is accepted or not; either way it is a run of the system. -/
theorem connectCommand_serviced (grants : Grants env lax) (sound : Sound lax s.sys) (alive : Alive s.sys)
    {client : MuxClient}
    (present : s.clients.client k = some client) (idle : client.state = .command) (tag deviceId : UInt32)
    (port : UInt16)
    (willing : lax.early ∨ ∀ d, getMuxDeviceForId deviceId.toNat s.mux = some d → (s.mux.dev d).state ≠ .init) :
    Serviced lax k s (connectCommand env k tag deviceId port s).2 := by
  have ready (d : DevPtr) (found : getMuxDeviceForId deviceId.toNat s.mux = some d) :
      (s.mux.dev d).state = .active ∨ lax.early := by
    rcases willing with free | willing
    · exact .inr free
    · have awake := willing d found
      have live : (s.mux.dev d).state ≠ .dead := alive d (getMuxDeviceForId_mem found).1
      cases state : (s.mux.dev d).state <;> simp_all
  have outcome := deviceStartConnect_spec (k := k) env (some k) sound deviceId.toNat port ready
  simp only [connectCommand]
  generalize deviceStartConnect env deviceId.toNat port k s.mux = r at outcome ⊢
  rcases outcome with ⟨refused, calm⟩ | ⟨accepted, S, d, m, log, slot, started⟩
  · rw [if_pos refused]
    have replied := (Spoken.replyResult (s := s.setMux r.2) env grants ⟨client, present, .inl idle⟩ tag
      (UInt32.ofNat (-r.1).toNat)).serviced ⟨client, present, .inl idle⟩
    exact ⟨calm.steady.trans replied.steady, replied.present⟩
  · rw [if_neg accepted]
    have calling : S.client k = (some client, s.clients.log k) := by
      rw [started.client]
      exact congrArg (·, s.clients.log k) present
    have step : SysStep lax (some k) S _ := .connect S d k tag slot started.listed started.ready rfl calling idle
      started.run started.dev started.owner started.waiting (.inl ⟨started.waiting, started.unopened⟩) started.dialled
      started.port started.unused
    have appended : Appended k { client with connectTag := tag, connectDevice := deviceId.toNat, state := .connecting1 }
        [.connecting s.mux.nextConn tag] s.clients
        ((s.clients.modify k fun client =>
          { client with connectTag := tag, connectDevice := deviceId.toNat, state := .connecting1 }).logClient k
            (.connecting s.mux.nextConn tag)) := by
      simp only [Clients.modify, present]
      exact ⟨rfl, rfl, rfl, rfl, rfl⟩
    refine ⟨started.calm.steady.trans ⟨.single ?_, fun alive d' listed => ?_⟩, ?_⟩
    · have final := Appended.sys (s.setMux r.2) _ appended
      have logged : (S.client k).2 = s.clients.log k := congrArg Prod.snd calling
      rw [started.state, ← started.next] at final
      rw [started.named, ← logged] at step
      rw [← started.next]
      exact final ▸ step
    · have lists : (s.setMux r.2).sys.deviceList = S.deviceList := by rw [started.state]; rfl
      have states : ((s.setMux r.2).sys.dev d').1.state = (S.dev d').1.state := by
        rw [started.state]
        by_cases same : d' = d
        · subst same
          simp [Sys.setDev]
        · simp [Sys.setDev, Sys.setConn, same]
      exact fun dead => alive d' (lists ▸ listed) (states ▸ dead)
    · have stored := congrFun appended.client k
      rw [Function.update_self] at stored
      exact Option.isSome_iff_exists.mpr ⟨_, stored⟩

end Connect

end Usbmuxd
