import Usbmuxd.Soundness.Released

/-! # The list of listeners

`send_listener_list` has two client records at hand, the one that asks and the one that listens, and
prints the number of the first where the number of the second belongs. The entries are those of the
listeners, in list order, and their ID Strings are right where both numbers agree.
-/

namespace Usbmuxd

/-- The text that identifies a client to others. -/
def idString (number : UInt32) (progname : String) : String := toString number.toNat ++ "-" ++ progname

/-- The program name a client has given. -/
def MuxClient.progName (client : MuxClient) : String :=
  ((client.info.bind (·.getItem "ProgName")).bind Plist.stringVal?).getD "unknown"

namespace Clients

variable (s : Clients)

/-- The ID String that belongs to a client. -/
def ownId (j : ClientPtr) : Option String := (s.client j).map fun client => idString client.number client.progName

/-- No two clients on the list have the same number. -/
def NumbersDistinct : Prop := (s.clientList.map fun j => (s.client j).map (·.number)).Nodup

/-- Each entry has the ID String of its listener, and distinct listeners have distinct ones. -/
structure Identified (entries : List Plist) : Prop where
  own : entries.map (·.getStringVal "ID String") = s.listeners.map s.ownId
  distinct : s.NumbersDistinct → (entries.map (·.getStringVal "ID String")).Nodup

/-- The entries for the listeners, as the asking client gets them. -/
def listenerEntries (asking : MuxClient) : List Plist := (s.listeners.filterMap s.client).map (listenerEntry asking)

variable {s}

private theorem listeners_present {j : ClientPtr} (listed : j ∈ s.listeners) : ∃ client, s.client j = some client := by
  have listens := (List.mem_filter.mp listed).2
  obtain ⟨client, present, -⟩ := (Option.any_eq_true ..).mp listens
  exact ⟨client, present⟩

private theorem map_listeners {β : Type*} (f : MuxClient → β) :
    ((s.listeners.filterMap s.client).map f).map some = s.listeners.map fun j => (s.client j).map f := by
  have found : ∀ js : List ClientPtr, (∀ j ∈ js, ∃ client, s.client j = some client) →
      ((js.filterMap s.client).map f).map some = js.map fun j => (s.client j).map f := by
    intro js
    induction js with
    | nil => exact fun _ => rfl
    | cons j js hyp =>
      intro all
      obtain ⟨client, present⟩ := all j List.mem_cons_self
      rw [List.filterMap_cons_some present, List.map_cons, List.map_cons, List.map_cons, present,
        hyp fun j' listed => all j' (List.mem_cons_of_mem _ listed)]
      rfl
  exact found s.listeners fun _ => listeners_present

end Clients

private theorem toString_digits (n : ℕ) : (toString n).toList = Nat.toDigits 10 n := by
  rw [Nat.toString_eq_ofList_toDigits, String.toList_ofList]

private theorem digits_before_hyphen (n : ℕ) (rest : List Char) :
    (Nat.toDigits 10 n ++ '-' :: rest).takeWhile (· ≠ '-') = Nat.toDigits 10 n := by
  have digits : ∀ digit ∈ Nat.toDigits 10 n, decide (digit ≠ '-') = true := by
    rintro digit member
    refine decide_eq_true fun hyphen => ?_
    exact absurd (Nat.isDigit_of_mem_toDigits (by decide) (by decide) (hyphen ▸ member)) (by decide)
  rw [List.takeWhile_append_of_pos digits, List.takeWhile_cons_of_neg (by decide), List.append_nil]

private theorem idString_inj {n n' : UInt32} {name name' : String} :
    idString n name = idString n' name' ↔ n = n' ∧ name = name' := by
  refine ⟨fun same => ?_, fun same => by rw [same.1, same.2]⟩
  have texts := congrArg String.toList same
  simp only [idString, String.toList_append, toString_digits, List.append_assoc] at texts
  have digits := congrArg (List.takeWhile (· ≠ '-')) texts
  change (Nat.toDigits 10 _ ++ '-' :: _).takeWhile _ = (Nat.toDigits 10 _ ++ '-' :: _).takeWhile _ at digits
  rw [digits_before_hyphen, digits_before_hyphen] at digits
  rw [digits] at texts
  refine ⟨UInt32.toNat_inj.mp ?_, String.toList_inj.mp ?_⟩
  · rw [← Nat.ofDigitChars_ten_toDigits (n := n.toNat), digits, Nat.ofDigitChars_ten_toDigits]
  · exact List.append_cancel_left (List.append_cancel_left texts)

private theorem listenerEntry_id (asking listener : MuxClient) :
    (listenerEntry asking listener).getStringVal "ID String" = some (idString asking.number listener.progName) := by
  rw [Plist.getStringVal, listenerEntry]
  cases listener.info.bind (·.getItem "BundleID") with
  | none => rfl
  | some bundle => rfl

namespace Clients

variable {s : Clients} {asking : MuxClient}

private theorem sendListenerList_eq {k : ClientPtr} (present : s.client k = some asking) (env : Env) (tag : UInt32) :
    sendListenerList env k tag s =
      sendPlist env k tag (.dict [("ListenerList", .array (s.listenerEntries asking))]) s := by
  rw [sendListenerList, present]
  rfl

/-- One entry for each listener in list order, with the asking client's number and the listener's name. -/
private theorem listenerEntries_ids (s : Clients) (asking : MuxClient) :
    (s.listenerEntries asking).map (·.getStringVal "ID String") =
      s.listeners.map fun j => (s.client j).map fun listener => idString asking.number listener.progName := by
  rw [← map_listeners, listenerEntries, List.map_map, List.map_map]
  exact List.map_congr_left fun listener _ => listenerEntry_id asking listener

/-- The ID Strings are those of the listeners exactly if the listeners have the asking client's number. -/
private theorem listenerEntries_own_iff :
    (s.listenerEntries asking).map (·.getStringVal "ID String") = s.listeners.map s.ownId ↔
      ∀ j ∈ s.listeners, (s.client j).map (·.number) = some asking.number := by
  rw [listenerEntries_ids, List.map_inj_left]
  refine forall₂_congr fun j listed => ?_
  obtain ⟨listener, present⟩ := listeners_present listed
  rw [ownId, present, Option.map_some, Option.map_some, Option.map_some, Option.some_inj, Option.some_inj, idString_inj]
  exact ⟨fun same => same.1.symm, fun same => ⟨same.symm, rfl⟩⟩

private theorem ownIds_nodup (distinct : s.NumbersDistinct) : (s.listeners.map s.ownId).Nodup := by
  have listed : s.listeners.Sublist s.clientList := List.filter_sublist
  have numbers : (s.listeners.map fun j => (s.client j).map (·.number)).Nodup := distinct.sublist (listed.map _)
  refine List.Nodup.map_on ?_ numbers.of_map
  intro j member j' member' same
  refine List.inj_on_of_nodup_map numbers member member' ?_
  obtain ⟨client, present⟩ := listeners_present member
  obtain ⟨client', present'⟩ := listeners_present member'
  rw [ownId, ownId, present, present', Option.map_some, Option.map_some, Option.some_inj, idString_inj] at same
  rw [present, present', Option.map_some, Option.map_some, same.1]

end Clients

/-- A client that asks for the listeners gets one entry for each client in `CLIENT_LISTEN`, in list order.
They identify the listeners if, and only if, no listener has another number than the client that asks; as
numbers are distinct, no other client then listens. -/
theorem listener_list_identified_iff (env : Env) (k : ClientPtr) (tag : UInt32) (s : Clients) (asking : MuxClient)
    (present : s.client k = some asking) :
    sendListenerList env k tag s =
        sendPlist env k tag (.dict [("ListenerList", .array (s.listenerEntries asking))]) s ∧
      (s.listenerEntries asking).length = s.listeners.length ∧
      (s.Identified (s.listenerEntries asking) ↔
        ∀ j ∈ s.listeners, (s.client j).map (·.number) = some asking.number) := by
  refine ⟨Clients.sendListenerList_eq present env tag, ?_, fun identified => ?_, fun alone => ?_⟩
  · have lengths := congrArg List.length (s.listenerEntries_ids asking)
    rwa [List.length_map, List.length_map] at lengths
  · exact Clients.listenerEntries_own_iff.mp identified.own
  · have own := Clients.listenerEntries_own_iff.mpr alone
    refine ⟨own, fun distinct => ?_⟩
    rw [own]
    exact Clients.ownIds_nodup distinct

/-- A client that waits for commands asks while nobody listens, and its number does not matter. -/
theorem unheard_listed :
    let s := (run listenerEnv [.accept]).clients
    ∃ asking, s.client 0 = some asking ∧ asking.state = .command ∧ s.listeners = [] ∧
      s.Identified (s.listenerEntries asking) := by
  intro s
  have present : s.client 0 = some ((s.client 0).get (by decide +kernel)) := by simp
  refine ⟨_, present, by decide +kernel, by decide +kernel, ?_⟩
  exact (listener_list_identified_iff listenerEnv 0 7 s _ present).2.2.mpr (by decide +kernel)

/-- A world in which every client gets a descriptor of its own and sends `Listen`. -/
def crowdEnv : Env := { listenerEnv with sock := fun n => { listenerEnv.sock n with accept := 5 + n } }

/-- Two clients listen, and a third one is accepted. -/
def crowd : List Event :=
  [.accept, .clientProcess 5 ⟨true, false⟩, .accept, .clientProcess 7 ⟨true, false⟩, .accept]

/-- The third client, number 2, is told of two listeners with its own number and the same ID String. Their
numbers are 1 and 0. -/
theorem crowd_confused :
    let s := (run crowdEnv crowd).clients
    s.NumbersDistinct ∧ s.listeners.map s.ownId = [some "1-unknown", some "0-unknown"] ∧
      ∃ entries, sendListenerList crowdEnv 2 7 s =
          sendPlist crowdEnv 2 7 (.dict [("ListenerList", .array entries)]) s ∧
        entries.map (·.getStringVal "ID String") = [some "2-unknown", some "2-unknown"] ∧ ¬s.Identified entries := by
  intro s
  have present : s.client 2 = some ((s.client 2).get (by decide +kernel)) := by simp
  have own : s.listeners.map s.ownId = [some "1-unknown", some "0-unknown"] := by decide +kernel
  have printed : (s.listenerEntries ((s.client 2).get (by decide +kernel))).map (·.getStringVal "ID String") =
      [some "2-unknown", some "2-unknown"] := by decide +kernel
  refine ⟨by unfold Clients.NumbersDistinct; decide +kernel, own, _, Clients.sendListenerList_eq present crowdEnv 7,
    printed, fun identified => ?_⟩
  exact absurd (printed.symm.trans (identified.own.trans own)) (by decide +kernel)

end Usbmuxd
