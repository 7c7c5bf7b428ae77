import Usbmuxd.ToMathlib.Update
import Usbmuxd.Machine.Owners
import Usbmuxd.Proofs.Events
import Usbmuxd.Proofs.Runs

/-! # What clients get through their tunnels

`client_write` puts bytes of a connection on the socket of its client, and its callers note for the
connection what the socket took. A client is fed by one connection in its life at most, so what it got
through its tunnel is what that connection has delivered.
-/

namespace Usbmuxd

open Collection ConnLog ClientLog

/-- Clients are fed by connections, each by its own, and get what these deliver. -/
structure Fed (feed : ClientPtr → Option ConnPtr) (s : Daemon) : Prop where
  owner : ∀ c m k, s.mux.conn c = some m → m.client = some k → feed k = some c
  stream : ∀ k c, feed k = some c → tunnel (s.clients.log k) = delivered (s.mux.connLog c)
  idle : ∀ k, feed k = none → tunnel (s.clients.log k) = []
  whose : ∀ c, delivered (s.mux.connLog c) ≠ [] → ∃ k, feed k = some c
  single : ∀ k k' c, feed k = some c → feed k' = some c → k = k'
  fresh : ∀ k c, feed k = some c → c < s.mux.nextConn

private theorem clientWrite_tunnel (env : Env) (k : ClientPtr) (buffer : Bytes) (s : Clients) :
    tunnel ((clientWrite env k buffer s).2.log k) =
      tunnel (s.log k) ++ buffer.take (clientWrite env k buffer s).1.toNat := by
  simp only [clientWrite]
  split
  · simp [Clients.fault]
  split
  · simp
  split
  · simp [Clients.bump]
  · simp [Clients.bump]
  · next size _ =>
    rw [Int.toNat_natCast, ← List.take_eq_take_min]
    simp [Clients.logClient, Clients.bump]

namespace Fed

variable {feed : ClientPtr → Option ConnPtr} {s s' : Daemon} {x : Mux} {c : ConnPtr} {m : MuxConnection}
  {k : ClientPtr}

private theorem keep (fed : Fed feed s)
    (owner : ∀ c m' k, s'.mux.conn c = some m' → m'.client = some k → ∃ m, s.mux.conn c = some m ∧ m.client = some k)
    (tunnels : ∀ k, tunnel (s'.clients.log k) = tunnel (s.clients.log k))
    (deliveries : ∀ c, delivered (s'.mux.connLog c) = delivered (s.mux.connLog c))
    (next : s'.mux.nextConn = s.mux.nextConn) : Fed feed s' where
  owner c m' k present' owned' := by
    obtain ⟨m, present, owned⟩ := owner c m' k present' owned'
    exact fed.owner c m k present owned
  stream k c feeds := by rw [tunnels, deliveries, fed.stream k c feeds]
  idle k dry := by rw [tunnels, fed.idle k dry]
  whose c some := fed.whose c (deliveries c ▸ some)
  single := fed.single
  fresh k c feeds := next ▸ fed.fresh k c feeds

private theorem same (fed : Fed feed s) (conn : s'.mux.conn = s.mux.conn) (connLog : s'.mux.connLog = s.mux.connLog)
    (next : s'.mux.nextConn = s.mux.nextConn) (log : s'.clients.log = s.clients.log) : Fed feed s' :=
  fed.keep (fun _ m _ present owned => ⟨m, conn ▸ present, owned⟩) (fun _ => by rw [log])
    (fun _ => by rw [connLog]) next

private theorem setConn (fed : Fed feed (s.setMux x)) (present : x.conn c = some m) {m' : MuxConnection}
    (client : m'.client = none ∨ m'.client = m.client) : Fed feed (s.setMux (x.setConn c m')) := by
  refine fed.keep (fun c' m₁ k present₁ owned => ?_) (fun _ => rfl) (fun _ => rfl) rfl
  rcases Update.stored.mp present₁ with ⟨rfl, rfl⟩ | ⟨-, before⟩
  · rcases client with gone | same
    · cases gone.symm.trans owned
    · exact ⟨m, present, same ▸ owned⟩
  · exact ⟨m₁, before, owned⟩

private theorem freeConn (fed : Fed feed s) (c : ConnPtr) : Fed feed (s.setMux (s.mux.freeConn c)) :=
  fed.keep (fun _ m _ present owned => ⟨m, (Update.removed.mp present).2, owned⟩) (fun _ => rfl) (fun _ => rfl) rfl

private theorem logConn (fed : Fed feed (s.setMux x)) {event : ConnEvent} (silent : event.deliveredBytes = []) :
    Fed feed (s.setMux (x.logConn c event)) := by
  have quiet : delivered [event] = [] := by rw [delivered_cons, silent]; rfl
  exact fed.keep (fun _ m _ present owned => ⟨m, present, owned⟩) (fun _ => rfl)
    (Update.same delivered (by rw [delivered_append, quiet, List.append_nil])) rfl

private theorem handed (fed : Fed feed s) (env : Env) (present : s.mux.conn c = some m) (owner : m.client = some k)
    {note : Bytes → ConnEvent} (delivers : note = .wrote ∨ note = .flushed) (buffer : Bytes) :
    Fed feed (s.handed env c k note buffer) := by
  have feeds := fed.owner c m k present owner
  have written := clientWrite_tunnel env k buffer s.clients
  have others := (ClientsFrame.clientWrite env k buffer s.clients).log
  have noted : delivered ((s.handed env c k note buffer).mux.connLog c) =
      delivered (s.mux.connLog c) ++ buffer.take (clientWrite env k buffer s.clients).1.toNat := by
    simp only [Daemon.handed, Daemon.setMux, Daemon.setClients, Function.update_self, delivered_append]
    split
    · rcases delivers with rfl | rfl <;> simp
    · next none => simp [Int.toNat_of_nonpos (not_lt.mp none)]
  have elsewhere {c' : ConnPtr} (other : c' ≠ c) : (s.handed env c k note buffer).mux.connLog c' = s.mux.connLog c' :=
    Function.update_of_ne other ..
  refine ⟨fed.owner, fun k' c' feeds' => ?_, fun k' dry => ?_, fun c' some => ?_, fed.single, fed.fresh⟩
  · by_cases here : k' = k
    · subst here
      obtain rfl : c = c' := Option.some.inj (feeds.symm.trans feeds')
      exact written.trans (noted ▸ congrArg (· ++ _) (fed.stream k' c feeds))
    · have other : c' ≠ c := fun same => here (fed.single k' k c (same ▸ feeds') feeds)
      rw [elsewhere other, ← fed.stream k' c' feeds']
      exact congrArg tunnel (others k' (by simpa using here))
  · have here : k' ≠ k := by
      rintro rfl
      cases dry.symm.trans feeds
    exact (congrArg tunnel (others k' (by simpa using here))).trans (fed.idle k' dry)
  · by_cases here : c' = c
    · exact ⟨k, here ▸ feeds⟩
    · exact fed.whose c' (elsewhere here ▸ some)

/-- A client without connection that has got nothing yet is given one. -/
private theorem opened (fed : Fed feed s) (owner : m.client = some k) (silent : tunnel (s.clients.log k) = [])
    (free : ∀ c m, s.mux.conn c = some m → m.client ≠ some k) (unused : s.mux.connLog s.mux.nextConn = []) :
    Fed (Function.update feed k (some s.mux.nextConn)) (s.setMux (s.mux.allocConn m)) where
  owner c' m' k' present' owned := by
    rcases Update.stored.mp present' with ⟨rfl, rfl⟩ | ⟨-, before⟩
    · obtain rfl := Option.some.inj (owner.symm.trans owned)
      exact Function.update_self ..
    · have other : k' ≠ k := fun same => free c' m' before (same ▸ owned)
      rw [Function.update_of_ne other]
      exact fed.owner c' m' k' before owned
  stream k' c' feeds := by
    rcases Update.stored.mp feeds with ⟨rfl, rfl⟩ | ⟨-, before⟩
    · exact silent.trans (congrArg delivered unused).symm
    · exact fed.stream k' c' before
  idle k' dry := by
    have other : k' ≠ k := by
      rintro rfl
      simp at dry
    exact fed.idle k' ((Function.update_of_ne other ..).symm.trans dry)
  whose c' some := by
    obtain ⟨k', feeds⟩ := fed.whose c' some
    have other : k' ≠ k := by
      rintro rfl
      exact some ((fed.stream k' c' feeds).symm.trans silent)
    exact ⟨k', (Function.update_of_ne other ..).trans feeds⟩
  single k₁ k₂ c' feeds₁ feeds₂ := by
    have newer {k' : ClientPtr} (old : feed k' = some s.mux.nextConn) : False := Nat.lt_irrefl _ (fed.fresh k' _ old)
    rcases Update.stored.mp feeds₁ with ⟨rfl, rfl⟩ | ⟨-, before₁⟩
    · rcases Update.stored.mp feeds₂ with ⟨rfl, -⟩ | ⟨-, before₂⟩
      · rfl
      · exact (newer before₂).elim
    · rcases Update.stored.mp feeds₂ with ⟨rfl, rfl⟩ | ⟨-, before₂⟩
      · exact (newer before₁).elim
      · exact fed.single k₁ k₂ c' before₁ before₂
  fresh k' c' feeds := by
    rcases Update.stored.mp feeds with ⟨-, rfl⟩ | ⟨-, before⟩
    · exact Nat.lt_succ_self _
    · exact Nat.lt_succ_of_lt (fed.fresh k' c' before)

end Fed

/-- When a connection may be opened for a client. -/
def Unfed (k : ClientPtr) (s : Daemon) : Prop :=
  tunnel (s.clients.log k) = [] ∧ (∀ c m, s.mux.conn c = some m → m.client ≠ some k) ∧
    s.mux.connLog s.mux.nextConn = []

private theorem fed_stepwise (env : Env) : Stepwise env (.opening Unfed) fun s => ∃ feed, Fed feed s where
  unseen := by rintro s _ _ _ _ ⟨feed, fed⟩; exact ⟨feed, fed.same rfl rfl rfl rfl⟩
  stored := by rintro s c m m' - present ends ⟨feed, fed⟩; exact ⟨feed, Fed.setConn fed present ends.client⟩
  noted := by
    rintro s c event plain ⟨feed, fed⟩
    refine ⟨feed, Fed.logConn fed ?_⟩
    cases event <;> simp_all [ConnEvent.isPlain]
  packet := by
    rintro s d proto header data ⟨feed, fed⟩
    obtain ⟨_, _, _, _, _, _, state, -⟩ := sendPacket_state env d proto header data s.mux
    rw [state]
    exact ⟨feed, fed.same rfl rfl rfl rfl⟩
  handed := by
    rintro s c m k note buffer present owner delivers ⟨feed, fed⟩
    exact ⟨feed, fed.handed env present owner delivers buffer⟩
  served := by
    rintro s k x serves ⟨feed, fed⟩
    exact ⟨feed, fed.keep (fun _ m _ present owned => ⟨m, present, owned⟩) serves.tunnels (fun _ => rfl) rfl⟩
  unlinked := by rintro s c d - ⟨feed, fed⟩; exact ⟨feed, (fed.freeConn c).same rfl rfl rfl rfl⟩
  opened := by
    rintro s k m - ⟨silent, free, unused⟩ owner ⟨feed, fed⟩
    exact ⟨_, fed.opened owner silent free unused⟩
  discarded := by rintro s c - ⟨feed, fed⟩; exact ⟨feed, fed.freeConn c⟩
  device := by rintro s d dev - - ⟨feed, fed⟩; exact ⟨feed, fed.same rfl rfl rfl rfl⟩
  logged := by rintro s d event - - ⟨feed, fed⟩; exact ⟨feed, fed.same rfl rfl rfl rfl⟩

private theorem Taken.fed {feed : ClientPtr → Option ConnPtr} {s s₁ : Daemon} {d : DevPtr} (taken : Taken s d s₁)
    (fed : Fed feed s) : Fed feed s₁ := by
  have noted (rxSeq : Option UInt16) (pktbuf packet : Bytes) (seen : UInt16) :
      Fed feed (s.taking d rxSeq pktbuf packet seen) := fed.same rfl rfl rfl rfl
  cases taken with
  | packet => exact noted ..
  | @segment rxSeq pktbuf seen _ length buffer _ _ held tcp _ found _ arrival =>
    have before := noted rxSeq pktbuf (buffer.take length) seen
    cases arrival with
    | absent => exact before.same rfl rfl rfl rfl
    | noted present | reset present =>
      refine .logConn ?_ rfl
      exact .setConn before present (.inr rfl)
    | accepted present =>
      refine .logConn (.logConn ?_ rfl) rfl
      exact .setConn before present (.inr rfl)

/-- A client whose command is read has no connection and has got nothing through a tunnel. -/
private theorem unfed_of_command (env : Env) {lax : Laxity} {s : Daemon} (sound : Sound lax s.sys)
    (owners : Owners s.sys)
    {k : ClientPtr} {client : MuxClient} {bytes : Bytes} (framed : (readCommand env k s.clients).1 = .frame bytes)
    (present : (readCommand env k s.clients).2.client k = some client) (idle : client.state = .command) {x : Mux}
    {clients : Clients} (same : s.mux.SameConns x) (served : Served k (readCommand env k s.clients).2 clients) :
    Unfed k ((s.setClients clients).setMux x) := by
  rcases before : s.clients.client k with _ | client₀
  · simp [readCommand, before] at framed
  obtain ⟨_, _, present', -⟩ := (readCommand_refilled env before).state before
  obtain rfl := Option.some.inj (present'.symm.trans present)
  have viewed : s.sys.client k = (some client₀, s.clients.log k) := Prod.ext before rfl
  have shape : Shape client₀.state (s.clients.log k) := by
    have ok := sound.clients k
    rw [viewed] at ok
    exact ok.shape
  rw [idle] at shape
  refine ⟨?_, fun c m record owned => ?_, ?_⟩
  · show tunnel (clients.log k) = []
    rw [served.tunnels, (Served.readCommand k s.clients env).tunnels]
    refine List.flatMap_eq_nil_iff.mpr fun event member => ?_
    have quiet := shape event member
    cases event <;> simp_all
  · have record : s.mux.conn c = some m := same.conn ▸ record
    have owner : s.sys.clientOf c = some k := by simp [Sys.clientOf, Daemon.sys, record, owned]
    exact owners.busy c k client₀ owner (by rw [viewed]) idle
  · show x.connLog x.nextConn = []
    rw [same.connLog, same.nextConn]
    exact (Prod.ext_iff.mp (sound.linked.links.fresh s.mux.nextConn le_rfl)).2

private theorem step_fed (env : Env) {lax : Laxity} {s : Daemon} (sound : Sound lax s.sys) (owners : Owners s.sys)
    (fed : ∃ feed, Fed feed s) (event : Event) : ∃ feed, Fed feed (step env s event) := by
  have kept : Kept env (.opening Unfed) fun s => ∃ feed, Fed feed s :=
    { wide := Reach.opening_wide
      deeds := fun fed deeds => deeds.preserve (fed_stepwise env) fed
      aside := by
        rintro s s' ⟨feed, fed⟩ aside
        exact ⟨feed, fed.same aside.conns.conn aside.conns.connLog aside.conns.nextConn aside.log⟩ }
  obtain ⟨feed, start⟩ := fed
  exact kept.step ⟨feed, start⟩ (fun dev => ⟨feed, start.same rfl rfl rfl rfl⟩)
    (fun _ _ _ taken => ⟨feed, taken.fed start⟩)
    (fun _ _ _ framed present idle _ _ same served =>
      unfed_of_command env sound owners framed present idle same served) event

/-- In every run, what clients get through their tunnels is what their connections deliver. -/
theorem run_fed (env : Env) (events : List Event) : ∃ feed, Fed feed (run env events) := by
  induction events using List.reverseRecOn with
  | nil =>
    refine ⟨fun _ => none, ?_, ?_, fun _ _ => rfl, ?_, ?_, ?_⟩ <;> simp [run, Daemon.initial, Mux.initial]
  | append_singleton events event ih =>
    have start : Owners Daemon.initial.sys := by
      constructor <;> simp [Sys.clientOf, Daemon.sys, Daemon.initial, Mux.initial]
    obtain ⟨⟨sound, -⟩, owners⟩ := run_keeps anything env events (.inl trivial) (.inl trivial) (.inl trivial)
      (grants_anything env) open_anything start fun _ _ _ sound change => change.owners sound.linked
    rw [run_snoc]
    exact step_fed env sound owners ih event

end Usbmuxd
