import Usbmuxd.Machine.Sound

/-! # The clients of records

A record may outlive its place in the collection of its device, when the handshake drops the collection.
Still no two records have the same client, and a client that may ask for a connection has none.
-/

namespace Usbmuxd

/-- Records have clients of their own, and none of them waits for a command. -/
structure Owners (S : Sys) : Prop where
  known : ∀ c k, S.clientOf c = some k → k < S.nextClient
  busy : ∀ c k client, S.clientOf c = some k → (S.client k).1 = some client → client.state ≠ .command
  unique : ∀ c c' k, S.clientOf c = some k → S.clientOf c' = some k → c = c'

variable {lax : Laxity} {served : Option ClientPtr} {S S' : Sys}

/-- Records keep their clients, and a new one has the client that asked for it. -/
private theorem SysStep.clientOf (change : SysStep lax served S S') {c : ConnPtr} {k : ClientPtr}
    (owned : S'.clientOf c = some k) :
    S.clientOf c = some k ∨ c = S.nextConn ∧ (∃ client, (S.client k).1 = some client ∧ client.state = .command) ∧
      ∀ client, (S'.client k).1 = some client → client.state ≠ .command := by
  obtain ⟨m', record, owner⟩ := Option.bind_eq_some_iff.mp owned
  rcases change.record record with ⟨m, before, -, same, -⟩ | ⟨next, log, began⟩
  · exact .inl (by simp [Sys.clientOf, before, ← same, owner])
  · obtain ⟨k', client, client', asker, there, idle, asking, state, -⟩ := began.asker
    obtain rfl := Option.some.inj (asker.symm.trans owner)
    refine .inr ⟨next, ⟨client, there, idle⟩, fun other found => ?_⟩
    obtain rfl := Option.some.inj (found.symm.trans asking)
    simp [state]

/-- A client waits for commands from the start, and again when its request was refused. -/
private theorem SysStep.command (change : SysStep lax served S S') (linked : Linked S) {k : ClientPtr}
    {client' : MuxClient}
    (present : (S'.client k).1 = some client') (idle : client'.state = .command) :
    (∃ client, (S.client k).1 = some client ∧ client.state = .command) ∨ k = S.nextClient ∨
      ∃ c, S.clientOf c = some k ∧ S'.clientOf c = none := by
  cases change.turn linked.roster k with
  | moved move =>
    obtain ⟨client, _, before, _, same⟩ := move.backward present
    refine .inl ⟨client, before, ?_⟩
    rcases same.state with state | ⟨-, ⟨-, state⟩ | ⟨-, state⟩⟩
    · exact state.symm.trans idle
    all_goals cases idle.symm.trans state
  | polled events before after =>
    rw [after] at present
    obtain rfl := Option.some.inj present
    exact .inl ⟨_, by rw [before], by simpa using idle⟩
  | accepted fd number next => exact .inr (.inl next)
  | requested tag device own before was holds record owner after =>
    rw [after] at present
    obtain rfl := Option.some.inj present
    cases idle
  | told c devents before pending holds record owner shown posts answers after =>
    rw [after] at present
    obtain rfl := Option.some.inj present
    cases idle
  | refused c before pending foreign holds record owner gone =>
    exact .inr (.inr ⟨c, by simp [Sys.clientOf, record, owner], by simp [Sys.clientOf, gone]⟩)
  | closed before cause farewell after => simp [after] at present

/-- Every step keeps the clients of records apart. -/
theorem SysStep.owners (change : SysStep lax served S S') (linked : Linked S) (owners : Owners S) : Owners S' where
  known c k owned := by
    refine Nat.lt_of_lt_of_le ?_ change.nextClient_le
    rcases change.clientOf owned with before | ⟨-, ⟨client, present, -⟩, -⟩
    · exact owners.known c k before
    · by_contra late
      simp [linked.roster.fresh k (Nat.le_of_not_lt late)] at present
  busy c k client' owned present idle := by
    rcases change.clientOf owned with before | ⟨-, -, engaged⟩
    · rcases change.command linked present idle with ⟨client, there, was⟩ | next | ⟨c₀, mine, gone⟩
      · exact owners.busy c k client before there was
      · exact (owners.known c k before).ne next
      · obtain rfl := owners.unique c c₀ k before mine
        cases gone.symm.trans owned
    · exact engaged client' present idle
  unique c c' k owned owned' := by
    rcases change.clientOf owned with before | ⟨new, ⟨client, present, idle⟩, -⟩
    · rcases change.clientOf owned' with before' | ⟨-, ⟨client, present, idle⟩, -⟩
      · exact owners.unique c c' k before before'
      · exact absurd idle (owners.busy c k client before present)
    · rcases change.clientOf owned' with before' | ⟨new', -⟩
      · exact absurd idle (owners.busy c' k client before' present)
      · exact new.trans new'.symm

end Usbmuxd
