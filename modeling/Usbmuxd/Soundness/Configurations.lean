import Usbmuxd.Model.Usb.Descriptors

/-! # The configuration and the interface of a device

`set_valid_configuration` looks through the configurations from the last to the first one. From the
first one with an interface of interest on it tries to set every configuration, until one can be set. The
interface it has found last fits the configuration that is active afterwards only if that one has an
interface of interest itself, and it is a multiplexor interface only if it is listed before others with
one of its three codes.
-/

namespace Usbmuxd

namespace InterfaceDescriptor

/-- The interface has these two endpoints, one of each direction. -/
def Offers (intf : InterfaceDescriptor) (endpoints : Endpoints) : Prop :=
  intf.bInterfaceNumber = endpoints.interface ∧
    (intf.endpoints = [endpoints.epIn, endpoints.epOut] ∨ intf.endpoints = [endpoints.epOut, endpoints.epIn]) ∧
    isEndpointIn endpoints.epIn = true ∧ isEndpointIn endpoints.epOut = false

instance (intf : InterfaceDescriptor) (endpoints : Endpoints) : Decidable (intf.Offers endpoints) :=
  inferInstanceAs (Decidable (_ ∧ _ ∧ _ ∧ _))

/-- The interface has two endpoints, one of each direction. -/
def twoWay (intf : InterfaceDescriptor) : Bool :=
  match intf.endpoints with
  | [one, two] => isEndpointIn one != isEndpointIn two
  | _ => false

/-- The interface has one of the codes of the multiplexor interface. -/
def resembles (intf : InterfaceDescriptor) : Bool :=
  intf.bInterfaceClass = 255 || intf.bInterfaceSubClass = 254 || intf.bInterfaceProtocol = 2

private theorem resembles_of_isUsbmux {intf : InterfaceDescriptor} (mux : intf.isUsbmux) : intf.resembles := by
  simp_all [isUsbmux, resembles]

end InterfaceDescriptor

namespace ConfigDescriptor

/-- The first interface of interest: it has one of the codes, and one endpoint of each direction. -/
def choice (config : ConfigDescriptor) : Option InterfaceDescriptor :=
  config.interfaces.find? fun intf => intf.resembles && intf.twoWay

/-- The configuration has an interface with these endpoints. -/
def Offers (config : ConfigDescriptor) (endpoints : Endpoints) : Prop :=
  ∃ intf ∈ config.interfaces, intf.Offers endpoints

/-- The configuration has a multiplexor interface with one endpoint of each direction. -/
def HasMux (config : ConfigDescriptor) : Prop := ∃ intf ∈ config.interfaces, intf.isUsbmux ∧ intf.twoWay

private theorem HasMux.choice {config : ConfigDescriptor} (mux : config.HasMux) : config.choice.isSome := by
  obtain ⟨intf, member, codes, pair⟩ := mux
  rw [ConfigDescriptor.choice, List.find?_isSome]
  exact ⟨intf, member, by simp [InterfaceDescriptor.resembles_of_isUsbmux codes, pair]⟩

end ConfigDescriptor

private theorem findInterface_choice (config : ConfigDescriptor) :
    config.choice = (findInterface config.interfaces).map Prod.fst := by
  rw [ConfigDescriptor.choice]
  generalize config.interfaces = interfaces
  fun_induction findInterface interfaces with
  | case1 => rfl
  | case2 intf rest codes one two pair swapped =>
    rw [List.find?_cons_of_pos]
    · rfl
    · simp_all [InterfaceDescriptor.resembles, InterfaceDescriptor.twoWay, or_assoc]
  | case3 intf rest codes one two pair _ straight =>
    rw [List.find?_cons_of_pos]
    · rfl
    · simp_all [InterfaceDescriptor.resembles, InterfaceDescriptor.twoWay, or_assoc]
  | case4 intf rest codes one two pair other mismatch ih =>
    rw [List.find?_cons_of_neg, ih]
    have same : isEndpointIn one = isEndpointIn two := by
      cases first : isEndpointIn one <;> cases second : isEndpointIn two <;> simp_all
    simp [InterfaceDescriptor.twoWay, pair, same]
  | case5 intf rest codes shape ih =>
    rw [List.find?_cons_of_neg, ih]
    rw [InterfaceDescriptor.twoWay]
    split
    · next one two pair => exact absurd pair (shape one two)
    · simp
  | case6 intf rest codes ih =>
    rw [List.find?_cons_of_neg, ih]
    simp_all [InterfaceDescriptor.resembles]

private theorem findInterface_offers {interfaces : List InterfaceDescriptor} {intf : InterfaceDescriptor}
    {endpoints : Endpoints}
    (found : findInterface interfaces = some (intf, endpoints)) : intf.Offers endpoints := by
  fun_induction findInterface interfaces with
  | case1 => cases found
  | case2 intf rest codes one two pair swapped =>
    cases found
    exact ⟨rfl, .inr pair, swapped.2, by simpa using swapped.1⟩
  | case3 intf rest codes one two pair _ straight =>
    cases found
    exact ⟨rfl, .inl pair, straight.2, by simpa using straight.1⟩
  | case4 _ _ _ _ _ _ _ _ ih | case5 _ _ _ _ ih | case6 _ _ _ ih => exact ih found

/-- The configuration with a number. -/
def LibusbDevice.config? (dev : LibusbDevice) (value : ℤ) : Option ConfigDescriptor :=
  dev.configs.find? fun config => (config.bConfigurationValue.toNat : ℤ) = value

private theorem getConfigDescriptorByValue_config {env : UsbEnv} {dev : LibusbDevice} {value tick : ℕ}
    {config : ConfigDescriptor} (read : getConfigDescriptorByValue env dev value tick = some config) :
    config.bConfigurationValue.toNat = value ∧ dev.config? config.bConfigurationValue.toNat = some config := by
  rw [getConfigDescriptorByValue] at read
  split at read
  · cases read
  have named : config.bConfigurationValue.toNat = value := by simpa using List.find?_some read
  refine ⟨named, ?_⟩
  rw [LibusbDevice.config?, named, ← read]
  simp

/-- A configuration that is tried, and whether it is active already or can be set. -/
structure Trial where
  config : ConfigDescriptor
  settles : Bool
deriving DecidableEq, Repr

/-- The configurations that are tried: those that can be read, from the first one with an interface of
interest to the first one that is active or can be set. -/
def trials (env : UsbEnv) (dev : LibusbDevice) (current : ℤ) : Bool → List ℕ → ℕ → List Trial
  | _, [], _ => []
  | found, value :: rest, tick =>
    match getConfigDescriptorByValue env dev value tick with
    | none => trials env dev current found rest (tick + 1)
    | some config =>
      if ¬found ∧ config.choice = none then trials env dev current found rest (tick + 1)
      else if current ≠ 0 ∧ (config.bConfigurationValue.toNat : ℤ) = current then [⟨config, true⟩]
      else
        let tick := detachDrivers env config.interfaces (tick + 1)
        if (env.answers tick).result = 0 then [⟨config, true⟩]
        else ⟨config, false⟩ :: trials env dev current true rest (tick + 1)

/-- The first interface of interest in the last of these configurations that has any. -/
def chosen (tried : List Trial) : Option InterfaceDescriptor :=
  (tried.filterMap fun trial => trial.config.choice).getLast?

/-- The configuration that is active when these configurations have been tried. -/
def activeAfter (current : ℤ) (tried : List Trial) : ℤ :=
  match tried.getLast? with
  | some ⟨config, true⟩ => config.bConfigurationValue.toNat
  | _ => current

section Search

variable {env : UsbEnv} {dev : LibusbDevice} {current : ℤ} {values : List ℕ} {tick : ℕ} {search : ConfigSearch}

private theorem chosen_cons (trial : Trial) (tried : List Trial) :
    chosen (trial :: tried) = (chosen tried).or trial.config.choice := by
  rw [chosen, chosen, List.filterMap_cons]
  split
  · next none => simp [none]
  · next intf known =>
    rw [List.getLast?_cons, known]
    cases (tried.filterMap fun trial => trial.config.choice).getLast? <;> rfl

private theorem activeAfter_cons (config : ConfigDescriptor) (tried : List Trial) :
    activeAfter current (⟨config, false⟩ :: tried) = activeAfter current tried := by
  rw [activeAfter, activeAfter, List.getLast?_cons]
  cases tried.getLast? <;> rfl

/-- What the loop over configurations comes to when it tries these. -/
structure Traced (current : ℤ) (search after : ConfigSearch) (tried : List Trial) : Prop where
  found : after.found = (search.found || !tried.isEmpty)
  selected : after.selected = (chosen tried).or search.selected
  active : after.active = activeAfter current tried
  offers : (∀ intf ∈ search.selected, intf.Offers search.endpoints) →
    ∀ intf ∈ after.selected, intf.Offers after.endpoints

private theorem enter_eq (search : ConfigSearch) (config : ConfigDescriptor) :
    search.enter config = { search with
      found := search.found || config.choice.isSome, endpoints := (search.enter config).endpoints
      selected := config.choice.or search.selected } := by
  rw [findInterface_choice, ConfigSearch.enter]
  rcases findInterface config.interfaces with _ | ⟨intf, endpoints⟩ <;> simp

private theorem enter_offers (search : ConfigSearch) (config : ConfigDescriptor)
    (before : ∀ intf ∈ search.selected, intf.Offers search.endpoints) :
    ∀ intf ∈ (search.enter config).selected, intf.Offers (search.enter config).endpoints := by
  rw [ConfigSearch.enter]
  rcases found : findInterface config.interfaces with _ | ⟨intf, endpoints⟩
  · exact before
  · intro selected member
    rw [← Option.some.inj member]
    exact findInterface_offers found

/-- The loop over configurations leaves behind what follows from the configurations that it tries. -/
private theorem searchConfigs_traced (unchanged : search.active = current) :
    Traced current search (searchConfigs env dev current values search)
      (trials env dev current search.found values search.tick) := by
  induction values generalizing search with
  | nil => exact ⟨by simp [trials, searchConfigs], by simp [trials, searchConfigs, chosen], unchanged, id⟩
  | cons value rest ih =>
    rw [searchConfigs, trials]
    rcases read : getConfigDescriptorByValue env dev value search.tick with _ | config
    · have later : Traced current { search with tick := search.tick + 1 } _ _ := ih unchanged
      exact ⟨later.found, later.selected, later.active, later.offers⟩
    obtain ⟨named, -⟩ := getConfigDescriptorByValue_config read
    simp only
    set entered := ConfigSearch.enter { search with tick := search.tick + 1 } config with entering
    have offers : (∀ intf ∈ search.selected, intf.Offers search.endpoints) →
        ∀ intf ∈ entered.selected, intf.Offers entered.endpoints :=
      enter_offers { search with tick := search.tick + 1 } config
    obtain ⟨found, selected, active, tick⟩ : entered.found = (search.found || config.choice.isSome) ∧
        entered.selected = config.choice.or search.selected ∧ entered.active = current ∧
        entered.tick = search.tick + 1 := by
      rw [entering, enter_eq]
      exact ⟨rfl, rfl, unchanged, rfl⟩
    clear_value entered
    by_cases idle : entered.found = true
    swap
    · -- nothing is found so far
      obtain ⟨fresh, none⟩ : search.found = false ∧ config.choice = none := by simpa [found] using idle
      have later := ih active
      rw [if_pos idle, if_pos ⟨by simp [fresh], none⟩]
      rw [tick, Bool.eq_false_iff.mpr idle] at later
      rw [fresh]
      refine ⟨by simpa [fresh, idle] using later.found, ?_, later.active, later.offers ∘ offers⟩
      rw [later.selected, selected, none, Option.none_or]
    have tried : ¬(¬search.found = true ∧ config.choice = none) := by
      rintro ⟨fresh, none⟩
      simp [found, fresh, none] at idle
    rw [if_neg (not_not.mpr idle), if_neg tried]
    by_cases same : current ≠ 0 ∧ (config.bConfigurationValue.toNat : ℤ) = current
    · rw [if_neg (by tauto), if_pos same]
      refine ⟨by simp [idle], by simp [selected, chosen], ?_, offers⟩
      rw [active, ← same.2]
      rfl
    rw [if_pos (by tauto), if_neg same, tick]
    by_cases set : (env.answers (detachDrivers env config.interfaces (search.tick + 1))).result = 0
    · rw [if_neg (not_not.mpr set), if_pos set]
      refine ⟨by simp [idle], by simp [selected, chosen], ?_, offers⟩
      rw [← named]
      rfl
    · rw [if_pos set, if_neg set]
      have later : Traced current { entered with tick := detachDrivers env config.interfaces (search.tick + 1) + 1 }
        _ _ := ih active
      simp only [idle] at later ⊢
      refine ⟨by simpa using later.found, ?_, ?_, later.offers ∘ offers⟩
      · rw [later.selected, selected, chosen_cons, Option.or_assoc]
      · rw [later.active, activeAfter_cons]

private theorem trials_config {found : Bool} : ∀ trial ∈ trials env dev current found values tick,
    dev.config? trial.config.bConfigurationValue.toNat = some trial.config := by
  fun_induction trials env dev current found values tick with
  | case1 => simp
  | case2 _ _ _ _ _ ih => exact ih
  | case3 _ _ _ _ _ _ _ ih => exact ih
  | case4 _ _ _ _ config read | case5 _ _ _ _ config read =>
    simpa using (getConfigDescriptorByValue_config read).2
  | case6 _ _ _ _ config read _ _ _ _ ih =>
    intro trial member
    rcases List.mem_cons.mp member with rfl | later
    · exact (getConfigDescriptorByValue_config read).2
    · exact ih trial later

/-- The first configuration that is tried has an interface of interest. -/
private theorem trials_chosen (reached : trials env dev current false values tick ≠ []) :
    (chosen (trials env dev current false values tick)).isSome := by
  induction values generalizing tick with
  | nil => exact absurd rfl reached
  | cons value rest ih =>
    rw [trials] at reached ⊢
    split at reached
    · exact ih reached
    next config read =>
    by_cases idle : config.choice = none
    · simp only [idle, Bool.false_eq_true, not_false_eq_true, and_self, if_true] at reached ⊢
      exact ih reached
    have interest : config.choice.isSome := Option.isSome_iff_ne_none.mpr idle
    rw [if_neg fun both => idle both.2]
    split
    · simp [chosen_cons, interest]
    simp only
    split
    · simp [chosen_cons, interest]
    · simp [chosen_cons, interest]

end Search

private theorem chosen_concat (front : List Trial) (last : Trial) :
    chosen (front ++ [last]) = last.config.choice.or (chosen front) := by
  rw [chosen, chosen, List.filterMap_append, List.getLast?_append]
  cases known : last.config.choice <;> simp [known]

private theorem InterfaceDescriptor.Offers.unique {intf : InterfaceDescriptor} {one two : Endpoints}
    (first : intf.Offers one)
    (second : intf.Offers two) : one = two := by
  obtain ⟨number, listed, inwards, outwards⟩ := first
  obtain ⟨number', listed', inwards', outwards'⟩ := second
  rw [Endpoints.mk.injEq]
  refine ⟨number.symm.trans number', ?_⟩
  rcases listed with listed | listed <;> rcases listed' with listed' | listed' <;>
    simp only [listed, List.cons.injEq, and_true] at listed'
  · exact listed'
  · simp [listed'.1, outwards'] at inwards
  · simp [listed'.1, inwards'] at outwards
  · exact listed'.symm

section Chosen

variable (env : UsbEnv) (dev : LibusbDevice) (bNumConfigurations : UInt8) (endpoints : Endpoints) (tick : ℕ)

/-- The configurations that `set_valid_configuration` tries. -/
def tried : List Trial :=
  if (env.answers tick).result = 0 then
    trials env dev (env.answers tick).value false ((List.range bNumConfigurations.toNat).reverse.map (· + 1)) (tick + 1)
  else []

private theorem tried_config : ∀ trial ∈ tried env dev bNumConfigurations tick,
    dev.config? trial.config.bConfigurationValue.toNat = some trial.config := by
  rw [tried]
  split
  · exact trials_config
  · simp

private theorem tried_chosen (reached : tried env dev bNumConfigurations tick ≠ []) :
    (chosen (tried env dev bNumConfigurations tick)).isSome := by
  rw [tried] at reached ⊢
  split at reached
  · next answered => simpa [answered] using trials_chosen reached
  · exact absurd rfl reached

private theorem setValidConfiguration_traced :
    let r := setValidConfiguration env dev bNumConfigurations endpoints tick
    let tried := tried env dev bNumConfigurations tick
    r.1 = (if tried = [] then -1 else 0) ∧ r.2.selected = chosen tried ∧
      r.2.active = activeAfter (env.answers tick).value tried ∧ ∀ intf ∈ chosen tried, intf.Offers r.2.endpoints := by
  intro r tried'
  by_cases answered : (env.answers tick).result = 0
  swap
  · simp [r, tried', setValidConfiguration, tried, answered, chosen, activeAfter]
  have traced :
      Traced (env.answers tick).value ⟨false, endpoints, none, (env.answers tick).value, tick + 1⟩ r.2 tried' := by
    simp only [r, tried', setValidConfiguration, tried, answered, not_true_eq_false, ne_eq, if_false, if_true]
    exact searchConfigs_traced rfl
  have result : r.1 = if r.2.found then 0 else -1 := by
    simp only [r, setValidConfiguration, answered, not_true_eq_false, ne_eq, if_false]
  have selected : r.2.selected = chosen tried' := by simpa using traced.selected
  refine ⟨?_, selected, traced.active, ?_⟩
  · rw [result, traced.found]
    cases tried' <;> simp
  · rw [← selected]
    exact traced.offers (by simp)

/-- The configuration that is active afterwards has the interface that was found, if one was; and one
was found only if it has an interface of interest. -/
structure Agreement (r : ℤ × ConfigSearch) : Prop where
  fits : r.1 = 0 → ∃ config ∈ dev.config? r.2.active, config.Offers r.2.endpoints
  refused : (¬∃ config ∈ dev.config? r.2.active, config.choice.isSome) → r.1 = -1

/-- The last configuration that is tried can be set and has an interface of interest, or it cannot be
set and the configuration that is active all the time has one, and has the endpoints of the last
interface that was found. -/
def EndsWell (current : ℤ) (tried : List Trial) : Prop :=
  ∀ last ∈ tried.getLast?,
    if last.settles then last.config.choice.isSome
    else ∃ config ∈ dev.config? current, config.choice.isSome ∧
      ∀ intf ∈ chosen tried, ∀ endpoints, intf.Offers endpoints → config.Offers endpoints

/-- The interface that was found belongs to the configuration that is active afterwards, exactly if the
configurations that are tried end well. -/
theorem configuration_agrees :
    Agreement dev (setValidConfiguration env dev bNumConfigurations endpoints tick) ↔
      EndsWell dev (env.answers tick).value (tried env dev bNumConfigurations tick) := by
  obtain ⟨result, selected, active, offers⟩ := setValidConfiguration_traced env dev bNumConfigurations endpoints tick
  have known := tried_config env dev bNumConfigurations tick
  have reached := tried_chosen env dev bNumConfigurations tick
  generalize setValidConfiguration env dev bNumConfigurations endpoints tick = r at *
  generalize tried env dev bNumConfigurations tick = tried at *
  rcases tried.eq_nil_or_concat with rfl | ⟨front, last, shape⟩
  · have failed : r.1 = -1 := result
    exact iff_of_true ⟨fun zero => by simp [failed] at zero, fun _ => failed⟩ (by simp [EndsWell])
  rw [List.concat_eq_append] at shape
  subst shape
  have done : r.1 = 0 := by simpa using result
  obtain ⟨intf, choice⟩ := Option.isSome_iff_exists.mp (reached (by simp))
  have agreement : Agreement dev r ↔ (∃ config ∈ dev.config? r.2.active, config.Offers r.2.endpoints) ∧
      ∃ config ∈ dev.config? r.2.active, config.choice.isSome := by
    refine ⟨fun agrees => ⟨agrees.fits done, ?_⟩, fun both => ⟨fun _ => both.1, fun none => absurd both.2 none⟩⟩
    by_contra none
    have failed := agrees.refused none
    simp [done] at failed
  rw [agreement, active, EndsWell]
  simp only [List.getLast?_concat, Option.mem_def, Option.some.injEq, forall_eq', activeAfter]
  rcases last with ⟨config, _ | _⟩
  · -- no configuration was set
    simp only [Bool.false_eq_true, if_false]
    constructor
    · rintro ⟨⟨config, present, offers'⟩, config', present', interest⟩
      obtain rfl := Option.some.inj (present.symm.trans present')
      refine ⟨config, present, interest, fun intf' choice' endpoints' offers'' => ?_⟩
      rw [offers''.unique (offers intf' choice')]
      exact offers'
    · rintro ⟨config, present, interest, fits⟩
      exact ⟨⟨config, present, fits intf choice _ (offers intf choice)⟩, config, present, interest⟩
  · -- the last configuration was set
    have present : dev.config? config.bConfigurationValue.toNat = some config := known ⟨config, true⟩ (by simp)
    simp only [if_true, present, Option.some.injEq, exists_eq_left', and_iff_right_iff_imp]
    intro interest
    obtain ⟨intf', first⟩ := Option.isSome_iff_exists.mp interest
    refine ⟨intf', List.mem_of_find?_eq_some first, offers intf' ?_⟩
    rw [chosen_concat, first]
    rfl

/-- A device that answers every call and can be set to every configuration but those of `refused` calls. -/
def refusing (refused : List ℕ) : UsbEnv where
  answers tick := if tick ∈ refused then ⟨-6, 0, 0, by decide⟩ else .success
  desiredMode := 0

/-- The multiplexor interface. -/
def muxInterface : InterfaceDescriptor := ⟨1, 255, 254, 2, [0x85, 0x04]⟩

/-- An interface of a camera. -/
def cameraInterface : InterfaceDescriptor := ⟨0, 6, 1, 1, [0x81, 0x02, 0x83]⟩

/-- A device with the multiplexor interface in its second configuration. -/
def camera : LibusbDevice where
  bus := 1
  address := 1
  idVendor := 0x5ac
  idProduct := 0x12a8
  bNumConfigurations := 2
  configs := [⟨1, [cameraInterface]⟩, ⟨2, [muxInterface]⟩]
  speed := .high

/-- The second configuration cannot be set: the first one is, with the endpoints of the second; and when
that fails too, the call succeeds with no configuration at all. -/
theorem camera_disagrees :
    (setValidConfiguration (refusing [3]) camera 2 default 0).1 = 0 ∧
    (setValidConfiguration (refusing [3]) camera 2 default 0).2.active = 1 ∧
    (setValidConfiguration (refusing [3]) camera 2 default 0).2.endpoints = ⟨1, 0x85, 0x04⟩ ∧
    (¬∃ config ∈ camera.configs, config.bConfigurationValue = 1 ∧ ∃ intf ∈ config.interfaces,
      intf.Offers ⟨1, 0x85, 0x04⟩) ∧
    (setValidConfiguration (refusing [3, 6]) camera 2 default 0).1 = 0 ∧
    (setValidConfiguration (refusing [3, 6]) camera 2 default 0).2.active = 0 ∧
    ¬∃ config ∈ camera.configs, config.bConfigurationValue = 0 := by
  decide

/-- A multiplexor interface is chosen, and one of the highest configuration that is tried and has one if
that can be set. -/
structure MuxChosen (r : ℤ × ConfigSearch) (tried : List Trial) : Prop where
  mux : r.1 = 0 → ∃ intf ∈ r.2.selected, intf.isUsbmux ∧ intf.Offers r.2.endpoints
  highest : ∀ front trial, tried = front ++ [trial] → trial.settles → trial.config.HasMux →
    (∀ other ∈ front, ¬other.config.HasMux) → r.1 = 0 ∧ r.2.active = trial.config.bConfigurationValue.toNat ∧
      ∃ intf ∈ r.2.selected, intf ∈ trial.config.interfaces

/-- The interface that is chosen is a multiplexor interface, exactly if such an interface comes first
among the interfaces of interest of the last configuration that is tried and has any. -/
theorem multiplexor_chosen :
    MuxChosen (setValidConfiguration env dev bNumConfigurations endpoints tick)
        (tried env dev bNumConfigurations tick) ↔
      ∀ intf ∈ chosen (tried env dev bNumConfigurations tick), intf.isUsbmux := by
  obtain ⟨result, selected, active, offers⟩ := setValidConfiguration_traced env dev bNumConfigurations endpoints tick
  have reached := tried_chosen env dev bNumConfigurations tick
  generalize setValidConfiguration env dev bNumConfigurations endpoints tick = r at *
  generalize tried env dev bNumConfigurations tick = tried at *
  constructor
  · intro right intf choice
    have done : r.1 = 0 := by
      rw [result, if_neg]
      rintro rfl
      cases choice
    obtain ⟨intf', member, mux, -⟩ := right.mux done
    rw [selected] at member
    obtain rfl := Option.some.inj (member.symm.trans choice)
    exact mux
  · intro mux
    refine ⟨fun done => ?_, ?_⟩
    · have tries : tried ≠ [] := by
        rintro rfl
        simp [done] at result
      obtain ⟨intf, choice⟩ := Option.isSome_iff_exists.mp (reached tries)
      exact ⟨intf, selected.trans choice, mux intf choice, offers intf choice⟩
    · rintro front trial rfl settles has -
      obtain ⟨intf, interest⟩ := Option.isSome_iff_exists.mp has.choice
      refine ⟨by simpa using result, ?_, intf, ?_, List.mem_of_find?_eq_some interest⟩
      · rw [active, activeAfter, List.getLast?_concat]
        obtain ⟨config, _⟩ := trial
        simp only at settles
        rw [settles]
      · rw [selected, chosen_concat, interest]
        rfl

/-- The interface of screen recording. -/
def valeriaInterface : InterfaceDescriptor := ⟨2, 255, 42, 255, [0x86, 0x05]⟩

/-- A device that lists the interface of screen recording first. -/
def recorder : LibusbDevice := { camera with configs := [⟨1, [cameraInterface]⟩,
    ⟨2, [valeriaInterface, muxInterface]⟩] }

/-- The interface of screen recording is chosen. -/
theorem valeria_chosen :
    valeriaInterface.isValeria ∧ ¬valeriaInterface.isUsbmux ∧
    (setValidConfiguration (refusing []) recorder 2 default 0).1 = 0 ∧
    (setValidConfiguration (refusing []) recorder 2 default 0).2.selected = some valeriaInterface ∧
    valeriaInterface.Offers (setValidConfiguration (refusing []) recorder 2 default 0).2.endpoints ∧
    ¬∃ config ∈ recorder.configs, ∃ intf ∈ config.interfaces, intf.isUsbmux ∧
      intf.Offers (setValidConfiguration (refusing []) recorder 2 default 0).2.endpoints := by
  decide

end Chosen

end Usbmuxd
