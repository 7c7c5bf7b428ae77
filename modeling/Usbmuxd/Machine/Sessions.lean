import Usbmuxd.Machine.Sound
import Usbmuxd.ToMathlib.History

/-! # Requests and their answers

A result is logged right behind the message that carries it. A request that `device_start_connect`
accepted is answered once and with what became of its connection, unless its client is closed first.
Both are properties of the log of one client, kept by every turn the client takes.
-/

namespace Usbmuxd

open History

/-- Every result follows the message that carries it. -/
def Replied (answers : UInt32 → MsgType → Bytes → Prop) : List ClientEvent → Prop :=
  Each fun before event => ∀ tag number, event = .result tag number →
    ∃ front msg payload, before = front ++ [.queued tag msg payload] ∧ answers number msg payload

namespace Replied

variable {answers : UInt32 → MsgType → Bytes → Prop} {log events : List ClientEvent}

private theorem append (replied : Replied answers log)
    (other : ∀ event ∈ events, ∀ tag number, event ≠ .result tag number) :
    Replied answers (log ++ events) := by
  refine each_append replied fun before event after split tag number same => ?_
  exact absurd same (other event (by simp [split]) tag number)

private theorem result (replied : Replied answers log) {number : UInt32} {msg : MsgType} {payload : Bytes}
    (told : answers number msg payload) (tag : UInt32) :
    Replied answers (log ++ [.queued tag msg payload, .result tag number]) := by
  have queued : Replied answers (log ++ [.queued tag msg payload]) := replied.append (by simp)
  rw [List.append_cons]
  refine each_snoc queued fun tag' number' same => ?_
  obtain ⟨rfl, rfl⟩ := ClientEvent.result.inj same
  exact ⟨log, msg, payload, rfl, told⟩

end Replied

private theorem ClientStep.replied {rules : ClientRules} {view view' : ClientView}
    (change : ClientStep rules view view')
    (replied : Replied rules.answers view.2) : Replied rules.answers view'.2 := by
  cases change with
  | queue => exact replied.append (by simp)
  | reply client log capacity tag number msg payload own idle posts answers => exact replied.result answers tag
  | drain => exact replied.append (by simp)
  | write => exact replied.append (by simp)
  | _ => exact replied

private theorem ClientMove.replied {rules : ClientRules} {view view' : ClientView} (move : ClientMove rules view view')
    (replied : Replied rules.answers view.2) : Replied rules.answers view'.2 := by
  induction move with
  | refl => exact replied
  | tail _ change ih => exact change.replied ih

section Turns

variable {lax : Laxity} {served : Option ClientPtr} {S S' : Sys} {k : ClientPtr}

theorem Turn.replied (turn : Turn lax served S S' k) (replied : Replied lax.answers (S.client k).2) :
    Replied lax.answers (S'.client k).2 := by
  cases turn with
  | moved move => exact move.replied replied
  | polled events before after =>
    rw [before] at replied
    rwa [after]
  | accepted fd number next fresh free after =>
    rw [after]
    exact each_nil _
  | requested tag device own before idle holds record owner after =>
    rw [before] at replied
    rw [after]
    exact replied.append (by simp)
  | told c devents before pending holds record owner shown posts answers after =>
    rw [before] at replied
    rw [after]
    exact replied.result answers _
  | refused c before pending foreign holds record owner gone unseen posts answers after =>
    rw [before] at replied
    rw [after]
    exact replied.result answers _
  | @closed client log events before cause farewell after =>
    rw [before] at replied
    rw [after]
    have farewelled : Replied lax.answers (log ++ events) := by
      cases farewell with
      | quiet => simpa using replied
      | flushed connected flush =>
        refine replied.append fun event member tag number same => ?_
        simpa [same] using flush event member
      | rebuked capacity tag msg payload state posts answers => exact replied.result answers tag
    exact farewelled.append (by simp)

/-- How a request that `device_start_connect` accepted has fared: what was logged since, and what
became of its connection. -/
inductive Outcome (answers : UInt32 → MsgType → Bytes → Prop) (S : Sys) (k : ClientPtr) (c : ConnPtr) (tag : UInt32)
    (since : List ClientEvent) : Prop
  /-- The device has not answered yet. -/
  | waiting {client : MuxClient} {d : DevPtr} (present : (S.client k).1 = some client)
      (pending : client.state = .connecting1) (named : client.connectTag = tag) (holds : S.Holds d c)
      (owner : S.clientOf c = some k) (unseen : ¬Established (S.conn c).2) (unanswered : ∀ event ∈ since, event.isSent)
  /-- The client was closed first, perhaps for another command. -/
  | closed {sents rebuke : List ClientEvent} (gone : (S.client k).1 = none)
      (split : since = sents ++ rebuke ++ [.closed]) (unanswered : ∀ event ∈ sents, event.isSent)
      (other : rebuke = [] ∨ ∃ tag' msg payload,
        rebuke = [.queued tag' msg payload, .result tag' resultBadCommand] ∧ answers resultBadCommand msg payload)
  /-- The device accepted; from then on the client gets no message. -/
  | accepted {sents later : List ClientEvent} {msg : MsgType} {payload : Bytes}
      (split : since = sents ++ .queued tag msg payload :: .result tag resultOk :: later)
      (unanswered : ∀ event ∈ sents, event.isSent) (told : answers resultOk msg payload)
      (tunnel : ∀ event ∈ later, event.isSent ∨ event.isTunnelled ∨ event = .closed) (shown : Established (S.conn c).2)
      (state : ∀ client, (S.client k).1 = some client → client.state = .connecting2 ∨ client.state = .connected)
  /-- The attempt ended in any other way. -/
  | refused {sents later : List ClientEvent} {msg : MsgType} {payload : Bytes}
      (split : since = sents ++ .queued tag msg payload :: .result tag resultConnRefused :: later)
      (unanswered : ∀ event ∈ sents, event.isSent) (told : answers resultConnRefused msg payload)
      (gone : (S.conn c).1 = none) (allocated : c < S.nextConn) (unseen : ¬Established (S.conn c).2)

/-- An outcome after one more step, in which `events` were logged: what is left to show is what
becomes of a client that waits, is gone, or has its connection. -/
private theorem Outcome.step {c : ConnPtr} {tag : UInt32} {since events : List ClientEvent}
    (outcome : Outcome lax.answers S k c tag since) (change : SysStep lax served S S') (links : Links S)
    (waits : ∀ client d, (S.client k).1 = some client → client.state = .connecting1 → client.connectTag = tag →
      S.Holds d c → S.clientOf c = some k → (∀ event ∈ since, event.isSent) →
        Outcome lax.answers S' k c tag (since ++ events))
    (ends : (S.client k).1 = none → events = [] ∧ (S'.client k).1 = none)
    (goes : ∀ client, (S.client k).1 = some client → client.state = .connecting2 ∨ client.state = .connected →
      (∀ event ∈ events, event.isSent ∨ event.isTunnelled ∨ event = .closed) ∧
        ∀ client', (S'.client k).1 = some client' → client'.state = .connecting2 ∨ client'.state = .connected) :
    Outcome lax.answers S' k c tag (since ++ events) := by
  cases outcome with
  | waiting present pending named holds owner unseen unanswered =>
    exact waits _ _ present pending named holds owner unanswered
  | closed gone split unanswered other =>
    obtain ⟨rfl, gone'⟩ := ends gone
    exact .closed gone' (by rw [List.append_nil, split]) unanswered other
  | @accepted sents later msg payload split unanswered told tunnel shown state =>
    have shown' : Established (S'.conn c).2 := shown.mono (change.connRun links c).log_grows
    have split' : since ++ events =
        sents ++ .queued tag msg payload :: .result tag resultOk :: (later ++ events) := by simp [split]
    rcases present : (S.client k).1 with _ | client
    · obtain ⟨rfl, gone⟩ := ends present
      exact .accepted split' unanswered told (by simpa using tunnel) shown' (by simp [gone])
    · obtain ⟨traffic, state'⟩ := goes client present (state client present)
      refine .accepted split' unanswered told (fun event member => ?_) shown' state'
      exact (List.mem_append.mp member).elim (tunnel event) (traffic event)
  | @refused sents later msg payload split unanswered told gone allocated unseen =>
    have same := change.conn_gone gone allocated
    have split' : since ++ events =
        sents ++ .queued tag msg payload :: .result tag resultConnRefused :: (later ++ events) := by simp [split]
    exact .refused split' unanswered told (by rwa [same]) (allocated.trans_le change.nextConn_le)
      (by rwa [same])

/-- Every request that was accepted has its outcome. -/
def Answered (answers : UInt32 → MsgType → Bytes → Prop) (S : Sys) : Prop :=
  ∀ k before c tag since, (S.client k).2 = before ++ .connecting c tag :: since → Outcome answers S k c tag since

private theorem Links.same_connection (links : Links S) {d : DevPtr} {c c' : ConnPtr} {m : MuxConnection}
    (holds : S.Holds d c) (owner : S.clientOf c = some k) (holds' : S.Holds m.dev c')
    (record : (S.conn c').1 = some m) (mine : m.client = some k) : c = c' :=
  links.unique d c m.dev c' holds holds' (by rw [owner]; simp [Sys.clientOf, record, mine])

/-- A device that has accepted the connection has no client that waits for it. -/
private theorem Sound.unseen (sound : Sound lax S) {client : MuxClient} (present : (S.client k).1 = some client)
    (pending : client.state = .connecting1) {d : DevPtr} {c : ConnPtr} (holds : S.Holds d c)
    (owner : S.clientOf c = some k) : ¬Established (S.conn c).2 := by
  obtain ⟨m, k', client', record, _, owned, present', _, fits⟩ := sound.linked.links.held d c holds
  obtain rfl : k' = k := by simpa [Sys.clientOf, record, owned] using owner
  obtain rfl : client' = client := Option.some.inj (present'.symm.trans present)
  have settled := (sound.conns c).2
  rw [show S.conn c = (some m, (S.conn c).2) from Prod.ext record rfl] at settled
  rcases settled with ⟨_, unopened⟩ | ⟨connected, _⟩
  · exact fun shown => shown.isOpen unopened
  · have states := fits.state
    simp [connected, pending, ConnState.fits] at states

private theorem Outcome.moved {before since : List ClientEvent} {c : ConnPtr} {tag : UInt32}
    (answered : Answered lax.answers S)
    (change : SysStep lax served S S') (ready : ¬lax.early) (rich : ¬lax.poor) (sound : Sound lax S)
    (move : ClientMove (lax.rules served S'.harm k) (S.client k) (S'.client k))
    (split : (S'.client k).2 = before ++ .connecting c tag :: since) : Outcome lax.answers S' k c tag since := by
  have linked := sound.linked
  rcases view : S.client k with ⟨_ | client, log⟩
  · have same : S'.client k = S.client k := by
      rw [view] at move ⊢
      exact move.gone_eq
    have gone : (S'.client k).1 = none := by rw [same, view]
    rw [same] at split
    have after : Outcome lax.answers S' k c tag (since ++ []) :=
      (answered k before c tag since split).step change linked.links (fun _ _ present => by simp [view] at present)
        (fun _ => ⟨rfl, gone⟩) (fun _ present => by simp [view] at present)
    rwa [List.append_nil] at after
  · obtain ⟨client', events, after, kept⟩ := move.forward (congrArg Prod.fst view)
    have logs := kept.events
    rw [after] at split
    obtain ⟨rest, rfl, earlier⟩ := split_append split (fun member => logs _ member)
    refine (answered k before c tag rest earlier).step change linked.links ?_ (by simp [view]) ?_
    · intro client₀ d present pending named holds owner unanswered
      obtain rfl : client = client₀ := by simpa [view] using present
      have state : client'.state = .connecting1 := by simpa [pending] using kept.state
      have present' : (S'.client k).1 = some client' := by rw [after]
      obtain ⟨holds', owner'⟩ := change.kept ready rich linked holds owner present'
        (by simp [state, ClientState.engaged])
      have unseen := (change.sound sound).unseen present' state holds' owner'
      refine .waiting present' state (kept.tag.trans named) holds' owner' unseen fun event member => ?_
      rcases List.mem_append.mp member with old | new
      · exact unanswered event old
      · have log := logs event new
        cases event <;> simp_all [ClientRules.Logs]
    · intro client₀ present engaged
      obtain rfl : client = client₀ := by simpa [view] using present
      refine ⟨fun event member => ?_, fun other present' => ?_⟩
      · have log := logs event member
        cases event <;> rcases engaged with state | state <;> simp_all [ClientRules.Logs]
      · obtain rfl : client' = other := by simpa [after] using present'
        rcases engaged with state | state <;> rcases kept.state with same | ⟨_, _ | _⟩ <;> simp_all

/-- Every step keeps the outcomes. -/
theorem SysStep.answered (change : SysStep lax served S S') (ready : ¬lax.early) (rich : ¬lax.poor)
    (sound : Sound lax S)
    (answered : Answered lax.answers S) : Answered lax.answers S' := by
  intro k before c tag since split
  have linked := sound.linked
  have sound' := change.sound sound
  cases change.turn linked.roster k with
  | moved move => exact Outcome.moved answered change ready rich sound move split
  | @polled client log events start after =>
    rw [after] at split
    rw [← List.append_nil since]
    refine (answered k before c tag since (by rw [start]; exact split)).step change linked.links ?_ (by simp [start]) ?_
    · intro client₀ d present pending named holds owner unanswered
      obtain rfl : client = client₀ := by simpa [start] using present
      have present' : (S'.client k).1 = some (client.masked events) := by rw [after]
      obtain ⟨holds', owner'⟩ := change.kept ready rich linked holds owner present'
        (by simp [pending, ClientState.engaged])
      have pending' : (client.masked events).state = .connecting1 := by simpa using pending
      rw [List.append_nil]
      exact .waiting present' pending' (by simpa using named) holds' owner'
        (sound'.unseen present' pending' holds' owner')
        unanswered
    · intro client₀ present engaged
      obtain rfl : client = client₀ := by simpa [start] using present
      refine ⟨by simp, fun other present' => ?_⟩
      obtain rfl : client.masked events = other := by simpa [after] using present'
      simpa using engaged
  | accepted fd number next fresh free after => simp [after] at split
  | @requested client log m tag' device own start idle holds record owner after =>
    rw [after] at split
    rcases split_snoc split with ⟨rfl, rfl, same⟩ | ⟨rest, rfl, earlier⟩
    · obtain ⟨rfl, rfl⟩ := ClientEvent.connecting.inj same
      have present' := congrArg Prod.fst after
      have owner' : S'.clientOf S.nextConn = some k := by simp [Sys.clientOf, record, owner]
      exact .waiting present' rfl rfl holds owner' (sound'.unseen present' rfl holds owner') (by simp)
    · refine (answered k before c tag rest (by rw [start, earlier])).step change linked.links ?_ (by simp [start]) ?_
      · intro client₀ d present pending
        simp_all
      · intro client₀ present engaged
        simp_all
  | @told client log m c' capacity msg payload devents start pending holds record owner shown posts told after =>
    rw [after] at split
    obtain ⟨rest, rfl, earlier⟩ := split_append split (by simp)
    refine (answered k before c tag rest (by rw [start, earlier])).step change linked.links ?_ (by simp [start]) ?_
    · intro client₀ d present _ named holding mine unanswered
      obtain rfl : client = client₀ := by simpa [start] using present
      obtain rfl := linked.links.same_connection holding mine holds record owner
      rw [named]
      refine .accepted rfl unanswered told (by simp) shown fun other present' => ?_
      rw [after] at present'
      rw [← Option.some.inj present']
      exact .inl rfl
    · intro client₀ present engaged
      simp_all
  | @refused client log m c' capacity msg payload start pending foreign holds record owner gone unseen posts told
      after =>
    rw [after] at split
    obtain ⟨rest, rfl, earlier⟩ := split_append split (by simp)
    refine (answered k before c tag rest (by rw [start, earlier])).step change linked.links ?_ (by simp [start]) ?_
    · intro client₀ d present _ named holding mine unanswered
      obtain rfl : client = client₀ := by simpa [start] using present
      obtain rfl := linked.links.same_connection holding mine holds record owner
      have allocated : c < S.nextConn := linked.links.allocated (Prod.ext record rfl)
      rw [named]
      exact .refused rfl unanswered told gone (allocated.trans_le change.nextConn_le) unseen
    · intro client₀ present engaged
      simp_all
  | @closed client log events start cause farewell after =>
    have gone : (S'.client k).1 = none := by rw [after]
    rw [after, List.append_assoc] at split
    have absent : .connecting c tag ∉ events ++ [ClientEvent.closed] := by
      intro member
      cases farewell with
      | quiet => simp at member
      | flushed connected flush => simpa using flush (.connecting c tag) (by simpa using member)
      | rebuked => simp at member
    obtain ⟨rest, rfl, earlier⟩ := split_append split absent
    refine (answered k before c tag rest (by rw [start, earlier])).step change linked.links ?_ (by simp [start]) ?_
    · intro client₀ d present pending named holding mine unanswered
      obtain rfl : client = client₀ := by simpa [start] using present
      rw [← List.append_assoc]
      refine .closed gone rfl unanswered ?_
      cases farewell with
      | quiet => exact .inl rfl
      | flushed connected flush => simp [pending] at connected
      | rebuked capacity tag' msg payload state posts answers => exact .inr ⟨tag', msg, payload, rfl, answers⟩
    · intro client₀ present engaged
      obtain rfl : client = client₀ := by simpa [start] using present
      refine ⟨fun event member => ?_, by simp [gone]⟩
      rcases List.mem_append.mp member with said | last
      · cases farewell with
        | quiet => simp at said
        | flushed connected flush => exact .inr (.inl (flush event said))
        | rebuked capacity tag' msg payload state => rcases engaged with is | is <;> simp [is] at state
      · exact .inr (.inr (List.mem_singleton.mp last))

/-- One event in the life of a client that waits for a connection: what was logged during it and
where it left the client. -/
inductive Attempt (own : Prop) (start : MuxClient) : Option MuxClient → List ClientEvent → Prop
  | pending {client : MuxClient} {during : List ClientEvent} (state : client.state = .connecting1)
      (input : own ∨ client.ibBuf = start.ibBuf ∧ client.ibSize = start.ibSize)
      (unanswered : ∀ event ∈ during, event.isSent) : Attempt own start (some client) during
  | refused {client : MuxClient} {during : List ClientEvent} (state : client.state = .command) (foreign : ¬own)
      (input : client.ibBuf = start.ibBuf ∧ client.ibSize = start.ibSize) : Attempt own start (some client) during
  | other {record : Option MuxClient} {during : List ClientEvent}
      (state : ∀ client, record = some client → client.state = .connecting2 ∨ client.state = .connected)
      (unrefused : ∀ tag, .result tag resultConnRefused ∉ during) : Attempt own start record during

/-- The same for the state within the event. -/
def Attempted (served : Option ClientPtr) (start : MuxClient) (log : List ClientEvent) (k : ClientPtr) (S : Sys) :
    Prop :=
  k < S.nextClient ∧ ∃ during, (S.client k).2 = log ++ during ∧ Attempt (served = some k) start (S.client k).1 during

private theorem Farewell.unrefused {rules : ClientRules} {client : MuxClient} {events : List ClientEvent}
    (farewell : Farewell rules client events) (tag : UInt32) :
    .result tag resultConnRefused ∉ events ++ [ClientEvent.closed] := by
  intro member
  cases farewell with
  | quiet => simp at member
  | flushed connected flush => simpa using flush (.result tag resultConnRefused) (by simpa using member)
  | rebuked => simp [resultConnRefused, resultBadCommand] at member

private theorem Attempt.moved {rules : ClientRules} {start : MuxClient} {view view' : ClientView}
    {during : List ClientEvent}
    (attempt : Attempt rules.own start view.1 during) (move : ClientMove rules view view') :
    ∃ events, view'.2 = view.2 ++ events ∧ Attempt rules.own start view'.1 (during ++ events) := by
  rcases view with ⟨_ | client, log⟩
  · rw [move.gone_eq]
    cases attempt with
    | other state unrefused => exact ⟨[], by simp, .other (by simp) (by simpa using unrefused)⟩
  · obtain ⟨client', events, rfl, kept⟩ := move.forward rfl
    refine ⟨events, rfl, ?_⟩
    have logs := kept.events
    cases attempt with
    | pending state input unanswered =>
      refine .pending (by simpa [state] using kept.state) ?_ fun event member => ?_
      · rcases kept.input with ⟨own, _⟩ | same
        · exact .inl own
        · exact input.imp_right fun before => ⟨same.1.trans before.1, same.2.trans before.2⟩
      · rcases List.mem_append.mp member with old | new
        · exact unanswered event old
        · have log := logs event new
          cases event <;> simp_all [ClientRules.Logs]
    | refused state foreign input =>
      have same := kept.input.resolve_left fun read => foreign read.1
      refine .refused ?_ foreign ⟨same.1.trans input.1, same.2.trans input.2⟩
      rcases kept.state with same | ⟨own, _⟩
      · rw [same, state]
      · exact absurd own foreign
    | other state unrefused =>
      have engaged := state client rfl
      refine .other (fun other present => ?_) fun tag member => ?_
      · obtain rfl := Option.some.inj present
        rcases engaged with state | state <;> rcases kept.state with same | ⟨_, _ | _⟩ <;> simp_all
      · rcases List.mem_append.mp member with old | new
        · exact unrefused tag old
        · have log := logs _ new
          rcases engaged with state | state <;> simp [ClientRules.Logs, state] at log

/-- Every step of an event that does not end the daemon keeps an attempt. -/
theorem SysStep.attempted (change : SysStep lax served S S') (lasting : ¬lax.ends) (linked : Linked S)
    {start : MuxClient} {log : List ClientEvent} (attempted : Attempted served start log k S) :
    Attempted served start log k S' := by
  obtain ⟨allocated, during, logged, attempt⟩ := attempted
  refine ⟨allocated.trans_le change.nextClient_le, ?_⟩
  cases change.turn linked.roster k with
  | moved move =>
    obtain ⟨events, after, attempt'⟩ := attempt.moved move
    exact ⟨during ++ events, by rw [after, logged, List.append_assoc], attempt'⟩
  | polled events before after =>
    rw [before] at attempt logged
    rw [after]
    refine ⟨during, logged, ?_⟩
    cases attempt with
    | pending state input unanswered => exact .pending (by simpa using state) (by simpa using input) unanswered
    | refused state foreign input => exact .refused (by simpa using state) foreign (by simpa using input)
    | other state unrefused =>
      refine .other (fun other present => ?_) unrefused
      obtain rfl := Option.some.inj present
      simpa using state _ rfl
  | accepted fd number next fresh free after => exact absurd allocated (by simp [next])
  | requested tag device own before idle holds record owner after =>
    rw [before] at attempt
    cases attempt with
    | pending state input unanswered => simp [idle] at state
    | refused state foreign input => exact absurd own foreign
    | other state unrefused => simpa [idle] using state _ rfl
  | told c devents before pending holds record owner shown posts answers after =>
    rw [before] at attempt logged
    rw [after]
    refine ⟨during ++ _, by rw [← List.append_assoc, ← logged], ?_⟩
    cases attempt with
    | pending state input unanswered =>
      refine .other (fun other present => ?_) fun tag member => ?_
      · rw [← Option.some.inj present]
        exact .inl rfl
      · rcases List.mem_append.mp member with old | new
        · simpa using unanswered _ old
        · simp [resultOk, resultConnRefused] at new
    | refused state foreign input => simp [pending] at state
    | other state unrefused => simpa [pending] using state _ rfl
  | refused c before pending foreign holds record owner gone unseen posts answers after =>
    rw [before] at attempt logged
    rw [after]
    refine ⟨during ++ _, by rw [← List.append_assoc, ← logged], ?_⟩
    cases attempt with
    | pending state input unanswered => exact .refused rfl foreign (input.resolve_left foreign)
    | refused state foreign input => simp [pending] at state
    | other state unrefused => simpa [pending] using state _ rfl
  | @closed client _ events before cause farewell after =>
    have unrefused {earlier : List ClientEvent} (none : ∀ tag, .result tag resultConnRefused ∉ earlier) (tag : UInt32) :
        .result tag resultConnRefused ∉ earlier ++ (events ++ [ClientEvent.closed]) := by
      intro member
      exact (List.mem_append.mp member).elim (none tag) (farewell.unrefused tag)
    rw [before] at attempt logged
    rw [after]
    refine ⟨during ++ (events ++ [.closed]), by rw [← List.append_assoc, ← logged, List.append_assoc], ?_⟩
    cases attempt with
    | pending state input unanswered =>
      exact .other (by simp) (unrefused fun tag member => by simpa using unanswered _ member)
    | refused state foreign input =>
      obtain ⟨c, m, holds, record, owner⟩ := (cause.resolve_left foreign).resolve_left lasting
      have idle := linked.links.idle_free before (by simp [state]) (by simp [state]) (by simp [state])
      exact absurd (by simp [Sys.clientOf, record, owner]) (idle m.dev c holds)
    | other state none => exact .other (by simp) (unrefused none)

end Turns

end Usbmuxd
