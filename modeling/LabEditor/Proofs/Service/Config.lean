import LabEditor.Proofs.Json.Access
import LabEditor.Service.Config
import Mathlib

/-! Which files configure the editor, and how. An object puts its members over the defaults. A text that is
no JSON, and a value that is a text, leave the defaults as they are. A list puts over them the settings
that it begins with. Nothing else is accepted. -/
namespace LabEditor.Config
variable {item name value : Json} {items : List Json} {config result : Config}
variable {settings : List (Json × Json)} {stop : Option Fault} {limit : Nat}

/-- The settings that a list begins with. Behind them the list ends, or goes on with a sequence that is no
pair. -/
inductive Begins : List Json → List (Json × Json) → Prop
  | done : Begins [] []
  | noPair {item : Json} {items parts : List Json} :
    item.items = .ok parts → parts.length ≠ 2 → Begins (item :: items) []
  | setting {item name value : Json} {items : List Json} {settings : List (Json × Json)} :
    item.items = .ok [name, value] → name.key? ≠ none → Begins items settings →
      Begins (item :: items) ((name, value) :: settings)

/-- What a file puts over the defaults. -/
inductive Overrides : Except Json.ReadError Json → List (Json × Json) → Prop
  | noJson : Overrides (.error .malformed) []
  | longNumber : Overrides (.error .numberTooLong) []
  | text {t : Text} : Overrides (.ok (.str t)) []
  | object {members : List (Text × Json)} :
    Overrides (.ok (.obj members)) (members.map fun (name, value) => (.str name, value))
  | list {items : List Json} {settings : List (Json × Json)} :
    Begins items settings → Overrides (.ok (.arr items)) settings

/-- What settings say under a name, which may be written in another way: the last of them counts. -/
def lastOf (settings : List (Json × Json)) (name : Json) : Option Json :=
  (settings.filter fun setting => setting.1.key? == name.key?).getLast?.map (·.2)

/-- The different names of settings, each as it is written first. -/
def namesOf : List (Json × Json) → List Json
  | [] => []
  | (name, _) :: settings => name :: (namesOf settings).filter fun other => other.key? != name.key?

/-- A configuration holds the last value that is set under each name, and the default where none is; new
names stand behind the known ones. -/
structure IsOver (settings : List (Json × Json)) (config : Config) : Prop where
  names : config.map (·.1) =
    defaults.map (·.1) ++ (namesOf settings).filter fun name => (defaults.get? name).isNone
  values : ∀ name, config.get? name = (lastOf settings name).or (defaults.get? name)

theorem get?_put (name value : Json) (config : Config) (other : Json) :
    (put name value config).get? other =
      if other.key? = name.key? then some value else config.get? other := by
  induction config with
  | nil =>
    by_cases same : other.key? = name.key?
    · simp [put, get?, same]
    · simp [put, get?, same, Ne.symm same]
  | cons setting rest ih =>
    simp only [get?] at ih ⊢
    by_cases here : setting.1.key? = name.key?
    · by_cases same : other.key? = name.key?
      · simp [put, here, same]
      · simp [put, here, same, Ne.symm same]
    · by_cases same : setting.1.key? = other.key?
      · have apart : other.key? ≠ name.key? := same ▸ here
        simp [put, same, apart]
      · simp [put, here, same, ih]

theorem names_put (name value : Json) (config : Config) :
    (put name value config).map (·.1) =
      config.map (·.1) ++ if (config.get? name).isNone then [name] else [] := by
  induction config with
  | nil => rfl
  | cons setting rest ih =>
    by_cases here : setting.1.key? = name.key?
    · simp [put, get?, here]
    · have kept : get? (setting :: rest) name = get? rest name := by simp [get?, here]
      rw [put, if_neg here, kept, List.map_cons, List.map_cons, List.cons_append, ih]

theorem override_concat (config : Config) (settings : List (Json × Json)) (setting : Json × Json) :
    config.override (settings ++ [setting]) =
      put setting.1 setting.2 (config.override settings) :=
  List.foldl_append

theorem lastOf_concat (settings : List (Json × Json)) (setting : Json × Json) (name : Json) :
    lastOf (settings ++ [setting]) name =
      if name.key? = setting.1.key? then some setting.2 else lastOf settings name := by
  by_cases same : setting.1.key? = name.key?
  · simp [lastOf, same]
  · simp [lastOf, same, Ne.symm same]

theorem lastOf_cons_none (setting : Json × Json) (settings : List (Json × Json)) (name : Json) :
    (lastOf (setting :: settings) name).isNone =
      (name.key? != setting.1.key? && (lastOf settings name).isNone) := by
  by_cases same : setting.1.key? = name.key?
  · simp [lastOf, same]
  · simp [lastOf, same, Ne.symm same]

theorem get?_override (settings : List (Json × Json)) (config : Config) (name : Json) :
    (config.override settings).get? name = (lastOf settings name).or (config.get? name) := by
  induction settings using List.reverseRecOn with
  | nil => rfl
  | append_singleton settings setting ih =>
    rw [override_concat, get?_put, lastOf_concat, ih]
    split
    · rfl
    · rfl

theorem mem_namesOf (member : name ∈ namesOf settings) : ∃ value, lastOf settings name = some value := by
  induction settings with
  | nil => contradiction
  | cons setting settings ih =>
    refine Option.ne_none_iff_exists'.mp fun none => ?_
    rw [← Option.isNone_iff_eq_none, lastOf_cons_none] at none
    simp only [Bool.and_eq_true, bne_iff_ne, Option.isNone_iff_eq_none] at none
    rcases List.mem_cons.mp member with rfl | later
    · exact none.1 rfl
    · obtain ⟨value, known⟩ := ih (List.mem_filter.mp later).1
      exact absurd (none.2.symm.trans known) nofun

theorem namesOf_concat (settings : List (Json × Json)) (setting : Json × Json) :
    namesOf (settings ++ [setting]) =
      namesOf settings ++ if (lastOf settings setting.1).isNone then [setting.1] else [] := by
  induction settings with
  | nil => rfl
  | cons first settings ih =>
    simp only [List.cons_append, namesOf, ih, List.filter_append, lastOf_cons_none]
    cases lastOf settings setting.1 with
    | some value => simp
    | none => simp [List.filter_singleton]

theorem names_override (settings : List (Json × Json)) (config : Config) :
    (config.override settings).map (·.1) =
      config.map (·.1) ++ (namesOf settings).filter fun name => (config.get? name).isNone := by
  induction settings using List.reverseRecOn with
  | nil => exact (List.append_nil _).symm
  | append_singleton settings setting ih =>
    rw [override_concat, names_put, get?_override, ih, namesOf_concat, List.filter_append,
      List.append_assoc]
    cases lastOf settings setting.1 with
    | some value => rfl
    | none => cases held : config.get? setting.1 <;> simp [held]

/-- No name is written twice, in whatever way. -/
def Distinct (config : Config) : Prop :=
  (config.map fun setting => setting.1.key?).Nodup

theorem distinct_defaults : Distinct defaults := by
  unfold Distinct
  decide

theorem Distinct.put (distinct : Distinct config) : Distinct (put name value config) := by
  have keys (config : Config) : (config.map fun setting => setting.1.key?) =
      (config.map (·.1)).map Json.key? := by
    rw [List.map_map]
    rfl
  rw [Distinct, keys, names_put, List.map_append, ← keys]
  split
  · rename_i new
    refine List.nodup_append.mpr ⟨distinct, List.nodup_singleton _, ?_⟩
    rintro _ known _ fresh rfl
    obtain ⟨setting, member, same⟩ := List.mem_map.mp known
    rw [List.mem_singleton.mp fresh] at same
    simp only [get?, Option.isNone_map, Option.isNone_iff_eq_none, List.find?_eq_none] at new
    exact new setting member (beq_iff_eq.mpr same)
  · rwa [List.map_nil, List.append_nil]

theorem Distinct.override (distinct : Distinct config) (settings : List (Json × Json)) :
    Distinct (config.override settings) :=
  List.foldlRecOn settings _ distinct fun _ distinct _ _ => distinct.put

theorem Distinct.get? (distinct : Distinct config) {setting : Json × Json}
    (member : setting ∈ config) : config.get? setting.1 = some setting.2 := by
  induction config with
  | nil => contradiction
  | cons first rest ih =>
    simp only [Distinct, List.map_cons, List.nodup_cons] at distinct
    rcases List.mem_cons.mp member with rfl | later
    · simp [Config.get?]
    · have apart : first.1.key? ≠ setting.1.key? := fun same =>
        distinct.1 (same ▸ List.mem_map_of_mem (f := fun setting : Json × Json => setting.1.key?) later)
      simpa only [Config.get?, List.find?_cons, beq_eq_false_iff_ne.mpr apart] using
        ih distinct.2 later

/-- A configuration is known by its names in their order and what it holds under them. -/
theorem ext_get? {other : Config} (distinct : Distinct config)
    (names : config.map (·.1) = other.map (·.1))
    (values : ∀ name, config.get? name = other.get? name) : config = other := by
  have settings_of {held : Config} (distinct : Distinct held) :
      held.map some = (held.map (·.1)).map fun name => (held.get? name).map (name, ·) := by
    rw [List.map_map]
    refine List.map_congr_left fun setting member => ?_
    rw [Function.comp_apply, distinct.get? member]
    rfl
  have same : Distinct other := by
    have keys := congrArg (List.map Json.key?) names
    rw [List.map_map, List.map_map] at keys
    exact (congrArg List.Nodup keys).mp distinct
  refine List.map_injective_iff.mpr (fun _ _ => Option.some.inj) ?_
  rw [settings_of distinct, settings_of same, names]
  simp only [values]

theorem isOver_iff : IsOver settings config ↔ config = defaults.override settings := by
  have names := names_override settings defaults
  have values := get?_override settings defaults
  constructor
  · intro laid
    exact (ext_get? (distinct_defaults.override settings) (names.trans laid.names.symm)
      fun name => (values name).trans (laid.values name).symm).symm
  · rintro rfl
    exact ⟨names, values⟩

theorem isOver_defaults : IsOver settings defaults ↔ ∀ name value,
    lastOf settings name = some value → defaults.get? name = some value := by
  rw [isOver_iff]
  constructor
  · intro same name value set
    rw [same, get?_override, set]
    rfl
  · intro same
    have values (name : Json) : (defaults.override settings).get? name = defaults.get? name := by
      rw [get?_override]
      cases set : lastOf settings name with
      | none => rfl
      | some value => exact (same name value set).symm
    have known : ∀ name ∈ namesOf settings, (defaults.get? name).isNone ≠ true := by
      intro name member none
      obtain ⟨value, set⟩ := mem_namesOf member
      rw [same name value set] at none
      contradiction
    refine ext_get? distinct_defaults ?_ fun name => (values name).symm
    rw [names_override, List.filter_eq_nil_iff.mpr known, List.append_nil]

theorem settingOf_ok : settingOf item = .ok (name, value) ↔
    item.items = .ok [name, value] ∧ name.key? ≠ none := by
  constructor
  · intro read
    obtain ⟨⟨key, setting⟩, pair, read⟩ := Outcome.bind_ok.mp read
    obtain ⟨named, read⟩ := Outcome.guard_ok.mp read
    cases read
    exact ⟨Json.pair_ok.mp pair, by simpa using named⟩
  · rintro ⟨parts, named⟩
    have pair : item.pair = .ok (name, value) := Json.pair_ok.mpr parts
    simp [settingOf, pair, named]

theorem settingOf_notAPair : settingOf item = .error .notAPair ↔
    ∃ parts, item.items = .ok parts ∧ parts.length ≠ 2 := by
  rw [← Json.pair_notAPair, settingOf]
  cases item.pair with
  | error cause => simp
  | ok pair =>
    obtain ⟨name, value⟩ := pair
    cases named : name.key? with
    | none => simp [named]
    | some key => simp [named]

/-- The reading of a list ends at its end, or at a sequence that is no pair. -/
def Ends (stop : Option Fault) : Prop :=
  stop = none ∨ stop = some .notAPair

theorem exists_begins (read : putAll config items = (result, stop)) (ends : Ends stop) :
    ∃ settings, Begins items settings ∧ result = config.override settings := by
  -- What has been read so far counts, so the configuration varies along the list.
  induction items generalizing config with
  | nil =>
    cases read
    exact ⟨[], .done, rfl⟩
  | cons item items ih =>
    rw [putAll] at read
    cases taken : settingOf item with
    | ok setting =>
      obtain ⟨name, value⟩ := setting
      obtain ⟨parts, named⟩ := settingOf_ok.mp taken
      rw [taken] at read
      obtain ⟨settings, begins, same⟩ := ih read
      exact ⟨_, .setting parts named begins, same⟩
    | error fault =>
      rw [taken] at read
      cases read
      rcases ends with none | ⟨⟨⟩⟩
      · contradiction
      · obtain ⟨parts, split, other⟩ := settingOf_notAPair.mp taken
        exact ⟨[], .noPair split other, rfl⟩

theorem Begins.putAll (begins : Begins items settings) (config : Config) :
    ∃ stop, putAll config items = (config.override settings, stop) ∧ Ends stop := by
  induction begins generalizing config with
  | done => exact ⟨none, rfl, Or.inl rfl⟩
  | noPair split other =>
    rw [Config.putAll, settingOf_notAPair.mpr ⟨_, split, other⟩]
    exact ⟨_, rfl, Or.inr rfl⟩
  | setting split named _ ih =>
    rw [Config.putAll, settingOf_ok.mpr ⟨split, named⟩]
    exact ih _

/-- Every character of a text is a sequence, and no pair. -/
theorem begins_text (t : Text) : Begins (t.map fun c => .str [c]) [] := by
  cases t with
  | nil => exact .done
  | cons c t => exact .noPair rfl (Nat.succ_ne_succ_iff.mpr Nat.zero_ne_one)

theorem overlay_ends (overrides : Overrides (.ok value) settings) :
    ∃ stop, overlay defaults value = (defaults.override settings, stop) ∧ Ends stop := by
  cases overrides with
  | text => exact (begins_text _).putAll defaults
  | object => exact ⟨none, rfl, Or.inl rfl⟩
  | list begins => exact begins.putAll defaults

theorem exists_overrides (read : overlay defaults value = (result, stop)) (ends : Ends stop) :
    ∃ settings, Overrides (.ok value) settings ∧ result = defaults.override settings := by
  cases value with
  | obj members =>
    cases read
    exact ⟨_, .object, rfl⟩
  | arr items =>
    obtain ⟨settings, begins, same⟩ := exists_begins read ends
    exact ⟨settings, .list begins, same⟩
  | str t =>
    obtain ⟨stop, same, _⟩ := overlay_ends (.text (t := t))
    exact ⟨[], .text, congrArg Prod.fst (read.symm.trans same)⟩
  | _ =>
    cases read
    -- A value without items ends the reading, but not as a sequence that is no pair does.
    rcases ends with none | other
    · contradiction
    · contradiction

theorem ofJson_ok : ofJson value = .ok config ↔
    ∃ stop, overlay defaults value = (config, stop) ∧ Ends stop := by
  rw [ofJson]
  split
  · rename_i read
    simp [read, Ends]
  · rename_i read
    simp [read, Ends]
  · rename_i apart read
    simpa [read, Ends] using fun _ => apart

theorem ofJson_iff : ofJson value = .ok config ↔
    ∃ settings, Overrides (.ok value) settings ∧ config = defaults.override settings := by
  rw [ofJson_ok]
  constructor
  · rintro ⟨stop, read, ends⟩
    exact exists_overrides read ends
  · rintro ⟨settings, overrides, rfl⟩
    exact overlay_ends overrides

/-- The configuration of a file is made by what the file puts over the defaults. -/
theorem load_iff {content : Text} : load limit (some content) = .ok config ↔
    ∃ settings, Overrides (Json.read limit content) settings ∧
      config = defaults.override settings := by
  have plain (cause : Json.ReadError) (known : Overrides (.error cause) []) :
      Except.ok defaults = (Except.ok config : Except Fault _) ↔
        ∃ settings, Overrides (.error cause) settings ∧ config = defaults.override settings := by
    constructor
    · rintro ⟨⟩
      exact ⟨[], known, rfl⟩
    · rintro ⟨settings, overrides, rfl⟩
      cases overrides <;> rfl
  simp only [load]
  cases Json.read limit content with
  | ok value => exact ofJson_iff
  | error cause =>
    cases cause with
    | malformed => exact plain _ .noJson
    | numberTooLong => exact plain _ .longNumber
    | tooDeep =>
      constructor
      · intro refused
        contradiction
      · rintro ⟨_, ⟨⟩, _⟩

/-- Every file is accepted that puts settings over the defaults, and only these; they are put over them.
The defaults remain exactly if the last value that is set under each name is its default. -/
theorem load_overrides_iff (limit : Nat) (content : Text) :
    (∀ config, load limit (some content) = .ok config ↔
      ∃ settings, Overrides (Json.read limit content) settings ∧ IsOver settings config) ∧
    (load limit (some content) = .ok defaults ↔
      ∃ settings, Overrides (Json.read limit content) settings ∧
        ∀ name value, lastOf settings name = some value → defaults.get? name = some value) := by
  have laid (config : Config) : load limit (some content) = .ok config ↔
      ∃ settings, Overrides (Json.read limit content) settings ∧ IsOver settings config := by
    simp only [load_iff, isOver_iff]
  refine ⟨laid, (laid defaults).trans (exists_congr fun settings => and_congr_right' ?_)⟩
  exact isOver_defaults

/-- A number is another name than its digits, and the word for yes is the same name as one: there are eight
defaults and two new settings. -/
example : (load 100 (some "[[\"1\",5],[1,6],[true,7]]")).toOption.map List.length = some 10 := by
  decide +kernel

/-- A number is not accepted, and a list of pairs changes the defaults, even if it is broken off. -/
theorem number_not_accepted : load 100 (some "5") = .error .notASequence ∧
    (load 100 (some "[[\"port\",1],[]]")).map (fun config => setting config "port") =
      .ok (.int 1) :=
  ⟨rfl, by cbv⟩

end LabEditor.Config
