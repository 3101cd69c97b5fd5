import Batching.ConfigFile
import Batching.Proofs.Numerals

namespace Batching

/-! The layers of a configuration, field by field.

A field has one or two names, the profile's own before the plain one, and no two fields share a
name.  The first of its names that has a value decides: what is written there replaces what the
field was before, if it can be read, and the names of the other fields have no say in it.  A
number that cannot be read stays what it was, with one warning.
-/

/-- The numbers of a configuration. -/
inductive Limit where
  | batchSize
  | outBatchSize
  | batchTimeout
deriving DecidableEq, Repr

inductive Field where
  | name
  | number (limit : Limit)
deriving DecidableEq, Repr

namespace Limit

/-- In the order in which they are asked for. -/
def all : List Limit := [.batchSize, .outBatchSize, .batchTimeout]

def key : Limit → String
  | .batchSize => batchSizeKey
  | .outBatchSize => outBatchSizeKey
  | .batchTimeout => batchTimeoutKey

end Limit

namespace Field

/-- In the order in which they are asked for. -/
def all : List Field := .name :: Limit.all.map .number

def key : Field → String
  | .name => nameKey
  | .number limit => limit.key

def Value : Field → Type
  | .name => String
  | .number _ => Nat

/-- Any text is a name; the text of a number may not be readable. -/
def read? : (field : Field) → String → Option field.Value
  | .name, text => some text
  | .number _, text => Text.paddedNumeral? text

end Field

def Settings.limit (settings : Settings) : Limit → Nat
  | .batchSize => settings.batchSize
  | .outBatchSize => settings.outBatchSize
  | .batchTimeout => settings.batchTimeout

def Config.value (config : Config) : (field : Field) → field.Value
  | .name => config.name
  | .number limit => config.batch.limit limit

/-- The names under which the value of a key may stand, the profile's own first. -/
def namesOf (profile key : String) : List String :=
  if profile = "" then [key] else [profile ++ "_" ++ key, key]

namespace Lookup

/-- The value under the first of the names that has one. -/
def first? (lookup : Lookup) (names : List String) : Option String :=
  names.findSome? lookup.value?

/-- The names up to the first that has a value. -/
def upToFirst (lookup : Lookup) : List String → List String
  | [] => []
  | name :: rest => name :: if (lookup.value? name).isSome then [] else lookup.upToFirst rest

/-- What the lookup makes of a field: the text found for it, where that can be read. -/
def layer (lookup : Lookup) (profile : String) (field : Field) (start : field.Value) :
    field.Value :=
  ((lookup.first? (namesOf profile field.key)).bind field.read?).getD start

end Lookup

/-- The entries that name a key. -/
def Inquiry.entriesOf (inquiry : Inquiry) (key : String) : List LogEntry :=
  (inquiry.notices.map Notice.entry).filter fun entry =>
    entry.fields.lookup "key" = some (.text key)

/-- The text found for a number decides it: a numeral is read and nothing is said of it, any other
text is warned of once and leaves the number as it was. -/
structure Limit.DecidedBy (limit : Limit) (text : String) (before after : Nat)
    (inquiry : Inquiry) : Prop where
  read : ∀ value, Text.PaddedNumeral text value → after = value ∧ inquiry.entriesOf limit.key = []
  refused : (∀ value, ¬ Text.PaddedNumeral text value) → after = before ∧
    inquiry.entriesOf limit.key =
      [⟨.warn, "ignoring unparseable config value",
        [("key", .text limit.key), ("value", .text text)]⟩]

variable {lookup other : Lookup} {profile key text : String} {limit : Limit}

/-! ### One value -/

/-- A value is what the first of its names gives; no name after that is asked for. -/
theorem profiled?_eq (lookup : Lookup) (profile key : String) :
    profiled? lookup profile key =
      (lookup.first? (namesOf profile key),
        { asked := lookup.upToFirst (namesOf profile key) }) := by
  by_cases unnamed : profile = ""
  · subst unnamed
    simp [profiled?, namesOf, Lookup.first?, Lookup.upToFirst]
  · cases own : lookup.value? (profile ++ "_" ++ key) with
    | none => simp [profiled?, namesOf, profiledName, Lookup.first?, Lookup.upToFirst, unnamed, own]
    | some value =>
        simp [profiled?, namesOf, profiledName, Lookup.first?, Lookup.upToFirst, unnamed, own]

/-- What is made known of the value under a key: that it is no number. -/
def complaints (lookup : Lookup) (profile key : String) : List Notice :=
  match lookup.first? (namesOf profile key) with
  | none => []
  | some text => if (Text.paddedNumeral? text).isSome then [] else [.unparsableValue key text]

theorem profiledNumber?_eq (lookup : Lookup) (profile key : String) :
    profiledNumber? lookup profile key =
      ((lookup.first? (namesOf profile key)).bind Text.paddedNumeral?,
        { asked := lookup.upToFirst (namesOf profile key)
          notices := complaints lookup profile key }) := by
  rw [profiledNumber?, profiled?_eq, complaints]
  cases found : lookup.first? (namesOf profile key) with
  | none => rfl
  | some text =>
      cases read : Text.paddedNumeral? text with
      | none => simp [read, Inquiry.append]
      | some number => simp [read]

/-! ### All fields -/

theorem Settings.override_limit (settings : Settings) (lookup : Lookup) (profile : String)
    (limit : Limit) :
    (settings.override lookup profile).1.limit limit =
      lookup.layer profile (.number limit) (settings.limit limit) := by
  cases limit <;> simp only [override, profiledNumber?_eq] <;> rfl

theorem Settings.override_inquiry (settings : Settings) (lookup : Lookup) (profile : String) :
    (settings.override lookup profile).2 =
      { asked := Limit.all.flatMap fun limit => lookup.upToFirst (namesOf profile limit.key)
        notices := Limit.all.flatMap fun limit => complaints lookup profile limit.key } := by
  simp [override, profiledNumber?_eq, Inquiry.append, Limit.all, Limit.key]

theorem Config.override_value (config : Config) (lookup : Lookup) (profile : String)
    (field : Field) :
    (config.override lookup profile).1.value field =
      lookup.layer profile field (config.value field) := by
  cases field with
  | number limit => exact config.batch.override_limit lookup profile limit
  | name =>
      simp only [override, profiled?_eq, value, Lookup.layer, Field.key]
      cases lookup.first? (namesOf profile nameKey) <;> rfl

theorem Config.override_inquiry (config : Config) (lookup : Lookup) (profile : String) :
    (config.override lookup profile).2 =
      { asked := Field.all.flatMap fun field => lookup.upToFirst (namesOf profile field.key)
        notices := Limit.all.flatMap fun limit => complaints lookup profile limit.key } := by
  simp [override, profiled?_eq, Settings.override_inquiry, Inquiry.append, Field.all, Field.key,
    List.flatMap_map]

theorem Config.resolve_asked (config : Config) (lookup : Lookup) (profile : String) :
    (config.resolve lookup profile).2.asked = (config.override lookup profile).2.asked := by
  simp [resolve, Inquiry.append]

/-- Checking a configuration does not change it. -/
theorem Config.validate_ok {config final : Config} (valid : config.validate.1 = .ok final) :
    final = config := by
  simp only [validate] at valid
  split at valid
  · cases valid
  · split at valid <;> exact (Except.ok.inj valid).symm

theorem Config.ofText_eq {config : Config} (parsed : Config.ofText? text = some config)
    (lookup : Lookup) (profile : String) :
    Config.ofText text lookup profile = config.resolve lookup profile := by
  rw [ofText, parsed]

/-! ### One name, one field -/

theorem first?_congr {names : List String} (same : ∀ name ∈ names, other name = lookup name) :
    other.first? names = lookup.first? names := by
  induction names with
  | nil => rfl
  | cons name rest ih =>
      have here : other.value? name = lookup.value? name := by
        rw [Lookup.value?, Lookup.value?, same name List.mem_cons_self]
      have there := ih fun name member => same name (List.mem_cons_of_mem _ member)
      rw [Lookup.first?, List.findSome?_cons, here, ← Lookup.first?, there]
      rfl

theorem layer_congr {field : Field} (start : field.Value)
    (same : ∀ name ∈ namesOf profile field.key, other name = lookup name) :
    other.layer profile field start = lookup.layer profile field start := by
  rw [Lookup.layer, Lookup.layer, first?_congr same]

theorem Field.key_injective {field different : Field} (same : field.key = different.key) :
    field = different := by
  revert same
  rcases field with _ | (_ | _ | _) <;> rcases different with _ | (_ | _ | _) <;> decide

/-- No key ends with an underscore and a key. -/
theorem Field.key_not_suffix (field different : Field) :
    ¬ ("_" ++ field.key).toList <:+ different.key.toList := by
  rcases field with _ | (_ | _ | _) <;> rcases different with _ | (_ | _ | _) <;> decide

theorem profiled_ne_key (profile : String) (field different : Field) :
    profile ++ "_" ++ field.key ≠ different.key := by
  intro same
  apply field.key_not_suffix different
  exact ⟨profile.toList, by rw [← String.toList_append, ← String.append_assoc, same]⟩

/-- No profile makes a name of one field a name of another. -/
theorem namesOf_disjoint {field different : Field} (profile : String)
    (distinct : field ≠ different) :
    ∀ name ∈ namesOf profile field.key, name ∉ namesOf profile different.key := by
  have keys : field.key ≠ different.key := fun same => distinct (Field.key_injective same)
  have owns : profile ++ "_" ++ field.key ≠ profile ++ "_" ++ different.key := by
    intro same
    apply keys
    apply String.toList_injective
    simpa [← String.toList_inj] using same
  intro name own others
  unfold namesOf at own others
  split at own
  · rename_i unnamed
    rw [if_pos unnamed] at others
    simp_all
  · rename_i named
    rw [if_neg named] at others
    simp only [List.mem_cons, List.not_mem_nil, or_false] at own others
    rcases own with rfl | rfl
    · rcases others with same | same
      · exact owns same
      · exact profiled_ne_key profile field different same
    · rcases others with same | same
      · exact profiled_ne_key profile different field same.symm
      · exact keys same

/-- Each field is decided by its own names alone, the profile's before the plain one, wherever the
overrides are applied.  Names are asked for field by field, and the plain one of a field only if
the profile's own has no value. -/
theorem Config.layered (lookup : Lookup) (profile : String) :
    (∀ (config : Config) (field : Field),
      (config.override lookup profile).1.value field =
        lookup.layer profile field (config.value field)) ∧
    (∀ (settings : Settings) (limit : Limit),
      (settings.override lookup profile).1.limit limit =
        lookup.layer profile (.number limit) (settings.limit limit)) ∧
    (∀ limit : Limit,
      (Settings.ofLookup lookup profile).1.limit limit =
        lookup.layer profile (.number limit) (({} : Settings).limit limit)) ∧
    (∀ (text : String) (config final : Config), Config.ofText? text = some config →
      (Config.ofText text lookup profile).1 = .ok final →
        ∀ field, final.value field = lookup.layer profile field (config.value field)) ∧
    (∀ config : Config,
      (config.override lookup profile).2.asked =
        Field.all.flatMap fun field => lookup.upToFirst (namesOf profile field.key)) ∧
    (∀ settings : Settings,
      (settings.override lookup profile).2.asked =
        Limit.all.flatMap fun limit => lookup.upToFirst (namesOf profile limit.key)) ∧
    (∀ (text : String) (config : Config), Config.ofText? text = some config →
      (Config.ofText text lookup profile).2.asked =
        Field.all.flatMap fun field => lookup.upToFirst (namesOf profile field.key)) ∧
    (∀ (other : Lookup) (field : Field),
      (∀ name ∈ namesOf profile field.key, other name = lookup name) → ∀ config : Config,
        (config.override other profile).1.value field =
          (config.override lookup profile).1.value field) ∧
    (∀ field different : Field, field ≠ different →
      ∀ name ∈ namesOf profile field.key, name ∉ namesOf profile different.key) := by
  refine ⟨fun config => config.override_value lookup profile,
    fun settings => settings.override_limit lookup profile,
    fun limit => Settings.override_limit {} lookup profile limit, ?_, ?_, ?_, ?_, ?_,
    fun _ _ => namesOf_disjoint profile⟩
  · intro text config final parsed accepted
    rw [Config.ofText_eq parsed] at accepted
    rw [Config.validate_ok accepted]
    exact config.override_value lookup profile
  · intro config
    rw [config.override_inquiry]
  · intro settings
    rw [settings.override_inquiry]
  · intro text config parsed
    rw [Config.ofText_eq parsed, config.resolve_asked, config.override_inquiry]
  · intro other field same config
    rw [config.override_value, config.override_value, layer_congr _ same]

/-- A profile whose own batch size is no number, beside a plain one that is. -/
def profileTexts : Lookup := fun name =>
  if name = "PROD_BATCH_SIZE" then some "4 2"
  else if name = "BATCH_SIZE" then some "7"
  else if name = "BATCH_TIMEOUT_MS" then some " +042 "
  else none

/-- The plain batch size is neither taken nor asked for. -/
theorem Config.layered_profileTexts :
    (({} : Config).override profileTexts "PROD").1.batch.batchSize = 100 ∧
    (({} : Config).override profileTexts "PROD").1.batch.batchTimeout = 42 ∧
    (({} : Config).override profileTexts "PROD").2.asked =
      ["PROD_BATCHLINE_NAME", "BATCHLINE_NAME", "PROD_BATCH_SIZE", "PROD_BATCH_OUT_SIZE",
        "BATCH_OUT_SIZE", "PROD_BATCH_TIMEOUT_MS", "BATCH_TIMEOUT_MS"] := by
  obtain ⟨values, _, _, _, asked, _⟩ := Config.layered profileTexts "PROD"
  exact ⟨(values {} (.number .batchSize)).trans rfl, (values {} (.number .batchTimeout)).trans rfl,
    (asked {}).trans (by decide)⟩

/-! ### What is said of a number -/

theorem Inquiry.entriesOf_append (first second : Inquiry) (key : String) :
    (first.append second).entriesOf key = first.entriesOf key ++ second.entriesOf key := by
  simp [entriesOf, append]

/-- A complaint names the key that it is about, and no other. -/
theorem entriesOf_complaints (lookup : Lookup) (profile key about : String) :
    Inquiry.entriesOf { notices := complaints lookup profile about } key =
      if about = key then (complaints lookup profile about).map Notice.entry else [] := by
  unfold complaints
  cases lookup.first? (namesOf profile about) with
  | none => simp [Inquiry.entriesOf]
  | some text =>
      cases read : (Text.paddedNumeral? text).isSome with
      | true => simp [Inquiry.entriesOf, read]
      | false => by_cases same : about = key <;> simp [Inquiry.entriesOf, Notice.entry, read, same]

theorem profiledNumber?_entriesOf (lookup : Lookup) (profile key about : String) :
    (profiledNumber? lookup profile about).2.entriesOf key =
      if about = key then (complaints lookup profile about).map Notice.entry else [] := by
  rw [profiledNumber?_eq, ← entriesOf_complaints]
  rfl

theorem Settings.override_entriesOf (settings : Settings) (lookup : Lookup) (profile : String)
    (limit : Limit) :
    (settings.override lookup profile).2.entriesOf limit.key =
      (complaints lookup profile limit.key).map Notice.entry := by
  simp only [override, Inquiry.entriesOf_append, profiledNumber?_entriesOf]
  cases limit <;>
    simp [Limit.key, batchSizeKey, outBatchSizeKey, batchTimeoutKey]

/-- Overriding the numbers says nothing but what it says of each of them. -/
theorem Settings.override_entries (settings : Settings) (lookup : Lookup) (profile : String) :
    (settings.override lookup profile).2.notices.map Notice.entry =
      Limit.all.flatMap fun limit => (settings.override lookup profile).2.entriesOf limit.key := by
  simp only [override_entriesOf]
  rw [override_inquiry, List.map_flatMap]

/-- The entries about a number are the same when the rest of the configuration is overridden and
checked too: neither the name nor the warning of an idle cap speaks of a key. -/
theorem Config.resolve_entriesOf (config : Config) (lookup : Lookup) (profile : String)
    (limit : Limit) :
    (config.resolve lookup profile).2.entriesOf limit.key =
      (complaints lookup profile limit.key).map Notice.entry := by
  have checked (config : Config) :
      Inquiry.entriesOf { notices := config.validate.2 } limit.key = [] := by
    unfold validate
    split
    · rfl
    · split
      · simp [Inquiry.entriesOf, Notice.entry, List.lookup_cons]
      · rfl
  have named : (profiled? lookup profile nameKey).2.entriesOf limit.key = [] := by
    rw [profiled?_eq]
    rfl
  simp only [resolve, override, Inquiry.entriesOf_append, checked, named,
    Settings.override_entriesOf, List.nil_append, List.append_nil]

/-- What the text found for a number does, to the number and to what is said. -/
theorem Limit.decidedBy {before after : Nat} {inquiry : Inquiry}
    (effective : lookup.first? (namesOf profile limit.key) = some text)
    (result : after = lookup.layer profile (.number limit) before)
    (said : inquiry.entriesOf limit.key =
      (complaints lookup profile limit.key).map Notice.entry) :
    limit.DecidedBy text before after inquiry := by
  have replaced : after = (Text.paddedNumeral? text).getD before := by
    simp only [result, Lookup.layer, Field.key, effective]
    rfl
  constructor
  · intro value numeral
    have read := Text.paddedNumeral?_eq_some_iff.mpr numeral
    rw [replaced, said, complaints, effective]
    simp [read]
  · intro foreign
    have unread := Text.paddedNumeral?_eq_none_iff.mpr foreign
    rw [replaced, said, complaints, effective]
    simp [unread, Notice.entry]

/-- A number is overridden by numerals alone.  The text found for it decides, wherever the
overrides are applied, and nothing is said but what is said of each number.  Every number that fits
64 bits is read back from its digits, with any zeros before them and any blanks around. -/
theorem Limit.overridden_by_numerals
    (effective : lookup.first? (namesOf profile limit.key) = some text) :
    (∀ value, (profiledNumber? lookup profile limit.key).1 = some value ↔
      Text.PaddedNumeral text value) ∧
    (∀ settings : Settings,
      limit.DecidedBy text (settings.limit limit)
        ((settings.override lookup profile).1.limit limit)
        (settings.override lookup profile).2) ∧
    (∀ config : Config,
      limit.DecidedBy text (config.batch.limit limit)
        ((config.override lookup profile).1.batch.limit limit)
        (config.resolve lookup profile).2) ∧
    (∀ settings : Settings, (settings.override lookup profile).2.notices.map Notice.entry =
      Limit.all.flatMap fun limit => (settings.override lookup profile).2.entriesOf limit.key) ∧
    (∀ (value zeros : Nat) (before after : List Char), value < Text.numeralLimit →
      (∀ c ∈ before, Text.isBlank c = true) → (∀ c ∈ after, Text.isBlank c = true) →
      text.toList = before ++ (List.replicate zeros '0' ++ Nat.toDigits 10 value) ++ after →
        ∀ settings : Settings, (settings.override lookup profile).1.limit limit = value) := by
  have decided (settings : Settings) :=
    limit.decidedBy effective (settings.override_limit lookup profile limit)
      (settings.override_entriesOf lookup profile limit)
  refine ⟨?_, decided, ?_, fun settings => settings.override_entries lookup profile, ?_⟩
  · intro value
    rw [profiledNumber?_eq, effective]
    exact Text.paddedNumeral?_eq_some_iff
  · intro config
    apply limit.decidedBy effective
    · exact config.override_value lookup profile (.number limit)
    · exact config.resolve_entriesOf lookup profile limit
  · intro value zeros before after fits early late written settings
    apply ((decided settings).read value _).1
    exact ⟨before, _, after, written, early, late, Text.numeral_toDigits zeros fits⟩

theorem Limit.overridden_by_numerals_profileTexts :
    profileTexts.first? (namesOf "PROD" Limit.batchSize.key) = some "4 2" ∧
    profileTexts.first? (namesOf "PROD" Limit.batchTimeout.key) = some " +042 " ∧
    ∀ settings : Settings,
      (settings.override profileTexts "PROD").1.batchSize = settings.batchSize ∧
      (settings.override profileTexts "PROD").1.batchTimeout = 42 := by
  have size : profileTexts.first? (namesOf "PROD" Limit.batchSize.key) = some "4 2" := by decide
  have timeout : profileTexts.first? (namesOf "PROD" Limit.batchTimeout.key) = some " +042 " := by
    decide
  obtain ⟨_, kept, _⟩ := Limit.overridden_by_numerals size
  obtain ⟨_, replaced, _⟩ := Limit.overridden_by_numerals timeout
  refine ⟨size, timeout, fun settings => ⟨?_, ?_⟩⟩
  · exact ((kept settings).refused (Text.paddedNumeral?_eq_none_iff.mp (by decide))).1
  · exact ((replaced settings).read 42 (Text.paddedNumeral?_eq_some_iff.mp (by decide))).1

end Batching
