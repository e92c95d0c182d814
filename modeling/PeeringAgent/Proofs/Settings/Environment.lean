import Mathlib
import PeeringAgent.Proofs.Settings.Layers
import PeeringAgent.Proofs.Settings.Loading

/-!
# What the environment decides

Names of variables lose their capital letters, so variables reach the two settings that are
one plain word. For each of these the last variable counts, before the file and the default;
the other settings are those of the file and the defaults in every environment.
-/

set_option autoImplicit false

namespace PeeringAgent.Settings

open Value

namespace Variable

variable {key : String} {v : String × String} {environment other : List (String × String)}

/-- What a variable gives for a key, in dictionaries for the keys below this one. -/
def given? (key : String) (v : String × String) : Option Value :=
  match keys? v.1 with
  | some (k :: below) => if k = key then some (nest below (parse v.2)) else none
  | _ => none

/-- The name of a variable spells a key or one below it. -/
def concerns (key : String) (v : String × String) : Bool := (given? key v).isSome

/-- What the last variable for a key gives. -/
def setting? (key : String) (environment : List (String × String)) : Option Value :=
  (environment.filterMap (given? key)).getLast?

theorem setting_cons : setting? key (v :: environment) =
    (setting? key environment).or (given? key v) := by
  rw [setting?, setting?, List.filterMap_cons]
  cases given? key v with
  | none => rw [Option.or_none]
  | some value =>
    dsimp only
    rw [List.getLast?_cons]
    cases (environment.filterMap (given? key)).getLast? <;> rfl

theorem filterMap_filter_concerns :
    (environment.filter (concerns key)).filterMap (given? key) =
      environment.filterMap (given? key) := by
  rw [List.filterMap_filter]
  refine congrArg (environment.filterMap ·) (funext fun v => ?_)
  rw [concerns]
  cases given? key v <;> rfl

/-- Variables that do not concern a key do not set it. -/
theorem setting_of_agree
    (agree : other.filter (concerns key) = environment.filter (concerns key)) :
    setting? key other = setting? key environment := by
  rw [setting?, setting?, ← filterMap_filter_concerns, agree, filterMap_filter_concerns]

/-! ## Keys that names spell -/

theorem split_ne_nil (s : List Char) : keys?.split s ≠ [] := by
  cases s with
  | nil => exact List.cons_ne_nil _ _
  | cons c s =>
    unfold keys?.split
    split_ifs
    · exact List.cons_ne_nil _ _
    · split <;> exact List.cons_ne_nil _ _

theorem mem_of_mem_split {s part : List Char} {c : Char} (among : part ∈ keys?.split s)
    (inside : c ∈ part) : c ∈ s := by
  induction s generalizing part with
  | nil =>
    rw [keys?.split, List.mem_singleton] at among
    rw [among] at inside
    cases inside
  | cons d s ih =>
    unfold keys?.split at among
    split_ifs at among with point
    · rcases List.mem_cons.mp among with rfl | among
      · cases inside
      · exact List.mem_cons_of_mem d (ih among inside)
    · split at among
      case h_1 none => exact absurd none (split_ne_nil s)
      case h_2 first parts parted =>
        rcases List.mem_cons.mp among with rfl | among
        · rcases List.mem_cons.mp inside with rfl | inside
          · exact List.mem_cons_self
          · exact List.mem_cons_of_mem d (ih (parted ▸ List.mem_cons_self) inside)
        · exact List.mem_cons_of_mem d (ih (parted ▸ List.mem_cons_of_mem _ among) inside)

theorem exists_split_of_keys {name : String} {keys : List String}
    (spelled : keys? name = some keys) :
    ∃ s : List Char, keys = (keys?.split (lower s)).map String.ofList := by
  simp only [keys?] at spelled
  split_ifs at spelled
  cases spelled
  exact ⟨_, rfl⟩

theorem keys_ne_nil {name : String} {keys : List String} (spelled : keys? name = some keys) :
    keys ≠ [] := by
  obtain ⟨s, rfl⟩ := exists_split_of_keys spelled
  rw [ne_eq, List.map_eq_nil_iff]
  exact split_ne_nil _

theorem isUpper_of_mem_keys {name : String} {keys : List String} (spelled : keys? name = some keys)
    (among : key ∈ keys) {c : Char} (inside : c ∈ key.toList) : c.isUpper = false := by
  obtain ⟨s, rfl⟩ := exists_split_of_keys spelled
  obtain ⟨part, parted, rfl⟩ := List.mem_map.mp among
  rw [String.toList_ofList] at inside
  obtain ⟨d, -, rfl⟩ := List.mem_map.mp (mem_of_mem_split parted inside)
  exact Char.isUpper_toLower_eq_false d

/-- No variable sets a key with a capital letter. -/
theorem setting_eq_none_of_isUpper (capital : key.toList.any Char.isUpper = true)
    (environment : List (String × String)) : setting? key environment = none := by
  have never (v : String × String) : given? key v = none := by
    unfold given?
    split
    case h_1 k below spelled =>
      refine if_neg fun same => ?_
      obtain ⟨c, inside, upper⟩ := List.any_eq_true.mp capital
      rw [isUpper_of_mem_keys spelled (same ▸ List.mem_cons_self) inside] at upper
      cases upper
    case h_2 => rfl
  induction environment with
  | nil => rfl
  | cons v environment ih => rw [setting_cons, ih, never, Option.none_or]

/-! ## The layer of the variables -/

/-- The layer with one more variable. -/
def enter (base : Value) (v : String × String) : Value :=
  match keys? v.1 with
  | some keys => base.cover (nest keys (parse v.2))
  | none => base

theorem lookup_of_keys {k : String} {below : List String}
    (spelled : keys? v.1 = some (k :: below)) :
    [(k, nest below (parse v.2))].lookup key = given? key v := by
  rw [given?, spelled]
  dsimp only
  by_cases same : k = key
  · rw [if_pos same, same, List.lookup_cons_self]
  · have other : (key == k) = false := beq_eq_false_iff_ne.mpr (Ne.symm same)
    rw [if_neg same, List.lookup_cons, other, List.lookup_nil]

theorem reads_enter {base : Value} {value : String → Option Value} (reads : Reads base value)
    (v : String × String) : Reads (enter base v) fun key => (given? key v).or (value key) := by
  obtain ⟨entries, rfl, distinct, each⟩ := reads
  cases spelled : keys? v.1 with
  | none =>
    refine ⟨entries, by rw [enter, spelled], distinct, fun key α f whole => ?_⟩
    have unset : given? key v = none := by rw [given?, spelled]
    show _ = ((given? key v).or (value key)).map f
    rw [each key whole, unset, Option.none_or]
  | some keys =>
    obtain ⟨k, below, rfl⟩ := List.exists_cons_of_ne_nil (keys_ne_nil spelled)
    have single : Distinct [(k, nest below (parse v.2))] := List.nodup_singleton k
    refine ⟨coverEntries entries [(k, nest below (parse v.2))], ?_,
      distinct_coverEntries distinct, fun key α f whole => ?_⟩
    · rw [enter, spelled]
      dsimp only
      rw [nest, cover]
    · rw [map_lookup_coverEntries whole single, lookup_of_keys spelled, Option.map_or,
        each key whole, ← Option.map_or]

theorem reads_foldl {base : Value} {value : String → Option Value} (reads : Reads base value)
    (environment : List (String × String)) : Reads (environment.foldl enter base) fun key =>
      (setting? key environment).or (value key) := by
  induction environment generalizing base value with
  | nil => exact reads
  | cons v environment ih =>
    -- The first variable is entered below all the others.
    have rest := ih (reads_enter reads v)
    simp only [← Option.or_assoc, ← setting_cons] at rest
    exact rest

theorem reads_layer (environment : List (String × String)) :
    Reads (layer environment) (setting? · environment) := by
  have all := reads_foldl isLayer_empty.reads environment
  simp only [get?, List.lookup_nil, Option.or_none] at all
  exact all

end Variable

/-! ## Settings from three layers -/

open Variable (setting? concerns)

/-- The settings that values for the keys spell. -/
def spelled (value : String → Option Value) : Option Settings := do
  return { asn := ← required text? (value "asn")
           restartScript := ← required text? (value "asConfigScript")
           delay := ← required word64? (value "asConfigDelay")
           backlogWarn := ← required word64? (value "backlogWarn")
           connections := ← required (list? connection?) (value "connections") }

theorem required_eq_join {α : Type} (f : Value → Option α) (v : Option Value) :
    required f v = (v.map f).join := by
  cases v <;> rfl

theorem spelled_congr {value other : String → Option Value}
    (same : ∀ key {α : Type} {f : Value → Option α}, Whole f →
      (value key).map f = (other key).map f) : spelled value = spelled other := by
  rw [spelled, spelled]
  simp only [required_eq_join, same _ whole_text, same _ whole_word64,
    same _ (whole_list connection?)]

variable {environment other : List (String × String)} {file : Value}

theorem ofLayers_eq (file : Value) (environment : List (String × String)) :
    ofLayers? file (Variable.layer environment) = spelled fun key =>
      (setting? key environment).or ((defaults.cover file).get? key) := by
  show spelled (fun key => ((defaults.cover file).cover (Variable.layer environment)).get? key) = _
  refine spelled_congr fun key α f whole => ?_
  exact (Variable.reads_layer environment).map_get_cover whole (defaults.cover file) key

theorem ofLayers_of_isLayer (isLayer : IsLayer file) (environment : List (String × String)) :
    ofLayers? file (Variable.layer environment) = spelled fun key =>
      (setting? key environment).or ((file.get? key).or (defaults.get? key)) := by
  rw [ofLayers_eq]
  refine spelled_congr fun key α f whole => ?_
  rw [Option.map_or, isLayer.reads.map_get_cover whole, ← Option.map_or]

/-- Environments that agree on the variables for the two plain words spell the same. -/
theorem ofLayers_of_agree (agree : ∀ key ∈ ["asn", "connections"],
      other.filter (concerns key) = environment.filter (concerns key)) (file : Value) :
    ofLayers? file (Variable.layer other) = ofLayers? file (Variable.layer environment) := by
  have plain (key : String) (among : key ∈ ["asn", "connections"]) :
      setting? key other = setting? key environment := Variable.setting_of_agree (agree key among)
  have capital (key : String) (upper : key.toList.any Char.isUpper = true) :
      setting? key other = setting? key environment := by
    rw [Variable.setting_eq_none_of_isUpper upper, Variable.setting_eq_none_of_isUpper upper]
  rw [ofLayers_eq, ofLayers_eq, spelled, spelled, plain "asn" (by decide),
    plain "connections" (by decide)]
  rw [capital "asConfigScript" (by decide), capital "asConfigDelay" (by decide),
    capital "backlogWarn" (by decide)]

/-! ## Loading in two environments -/

theorem load_of_agree (agree : ∀ key ∈ ["asn", "connections"],
      other.filter (concerns key) = environment.filter (concerns key))
    {m : Type → Type} [Monad m] (files : Files m) (path : String) :
    load files path other = load files path environment := by
  unfold load
  simp only [ofLayers_of_agree agree]

variable {files : Files Id} {path : String} {s : Settings}

theorem fields_of_spelled {value : String → Option Value} (made : spelled value = some s) :
    required text? (value "asConfigScript") = some s.restartScript ∧
    required word64? (value "asConfigDelay") = some s.delay ∧
    required word64? (value "backlogWarn") = some s.backlogWarn := by
  simp only [spelled, bind, pure, Option.bind_eq_some_iff] at made
  obtain ⟨asn, -, script, first, delay, second, warn, third, connections, -, made⟩ := made
  cases made
  exact ⟨first, second, third⟩

/-- Settings with capital letters in their keys are those of the file and the defaults. -/
theorem fields_of_load (loaded : load files path environment = .ok s) :
    ∃ file, fileLayer files path = some file ∧
      required text? ((defaults.cover file).get? "asConfigScript") = some s.restartScript ∧
      required word64? ((defaults.cover file).get? "asConfigDelay") = some s.delay ∧
      required word64? ((defaults.cover file).get? "backlogWarn") = some s.backlogWarn := by
  have below {key : String} (upper : key.toList.any Char.isUpper = true) (v : Option Value) :
      (setting? key environment).or v = v := by
    rw [Variable.setting_eq_none_of_isUpper upper, Option.none_or]
  rw [load_eq] at loaded
  obtain ⟨connections, found, -⟩ := exists_of_conclude loaded
  rw [extract?] at found
  split at found
  case h_1 => cases found
  case h_2 file read =>
    rw [ofLayers_eq] at found
    obtain ⟨script, delay, warn⟩ := fields_of_spelled found
    rw [below (by decide)] at script delay warn
    exact ⟨file, read, script, delay, warn⟩

/-- What an environment has to do with the settings that are loaded in it. -/
structure Layered (environment : List (String × String)) : Prop where
  /-- Only the variables for `asn` and `connections` and below count, in their order. -/
  agreeing : ∀ other, (∀ key ∈ ["asn", "connections"],
      other.filter (concerns key) = environment.filter (concerns key)) →
    ∀ {m : Type → Type} [Monad m] (files : Files m) (path : String),
      load files path other = load files path environment
  /-- Whatever the variables are, three of the settings are the same. -/
  untouched : ∀ (other : List (String × String)) (files : Files Id) (path : String)
    (s t : Settings), load files path environment = .ok s → load files path other = .ok t →
      s.restartScript = t.restartScript ∧ s.delay = t.delay ∧ s.backlogWarn = t.backlogWarn
  /-- No variable is for these three settings. -/
  unset : ∀ key ∈ ["asConfigScript", "asConfigDelay", "backlogWarn"],
    setting? key environment = none
  /-- Key by key a variable counts before the file, and the file before the default. -/
  layered : ∀ (files : Files Id) (path : String), load files path environment =
    conclude files ((fileLayer files path : Option Value).bind fun file => spelled fun key =>
      (setting? key environment).or ((file.get? key).or (defaults.get? key)))

theorem layered_of_environment (environment : List (String × String)) : Layered environment where
  agreeing other agree _ _ files path := load_of_agree agree files path
  untouched other files path s t loaded elsewhere := by
    obtain ⟨file, read, script, delay, warn⟩ := fields_of_load loaded
    obtain ⟨_, same, script', delay', warn'⟩ := fields_of_load elsewhere
    obtain rfl := Option.some.inj (read.symm.trans same)
    exact ⟨Option.some.inj (script.symm.trans script'), Option.some.inj (delay.symm.trans delay'),
      Option.some.inj (warn.symm.trans warn')⟩
  unset := by
    intro key among
    refine Variable.setting_eq_none_of_isUpper ?_ environment
    fin_cases among <;> decide
  layered files path := by
    rw [load_eq, extract?]
    cases read : (fileLayer files path : Option Value) with
    | none => rfl
    | some file =>
      dsimp only [Option.bind_some]
      rw [ofLayers_of_isLayer (isLayer_of_file read)]

/-- More variables, none of them for a plain word. -/
def exampleNoise : List (String × String) :=
  [("COORD_CLIENT_CONFIG", "d"), ("COORD_CLIENT_ASCONFIGDELAY", "9"), ("ASN", "b"),
    ("COORD_CLIENT_ASN_", "b")] ++ exampleVariables

theorem exampleNoise_layered :
    (∀ key ∈ ["asn", "connections"],
      exampleNoise.filter (concerns key) = exampleVariables.filter (concerns key)) ∧
    load exampleHost "c" exampleNoise = .ok (exampleSettings "t") := by
  have agree : ∀ key ∈ ["asn", "connections"],
      exampleNoise.filter (concerns key) = exampleVariables.filter (concerns key) := by
    decide +kernel
  refine ⟨agree, ?_⟩
  rw [(layered_of_environment exampleVariables).agreeing exampleNoise agree, load_exampleHost]

end PeeringAgent.Settings
