import Mathlib.Data.List.DropRight
import Batching.Demo.Run
import Batching.Proofs.LayeredConfig

namespace Batching

/-! What a loaded configuration is fit for.

To drive an accumulator a configuration needs a name that is not blank and some time for
each fill phase.  Whatever the layers are that a configuration comes from, the name that they
give it in the end is checked, and the time is not.
-/

/-! ### The check -/

theorem Text.trim_eq_nil_iff {cs : List Char} : trim cs = [] ↔ ∀ c ∈ cs, isBlank c = true := by
  have ends : trim cs = (cs.dropWhile isBlank).rdropWhile isBlank := rfl
  rw [ends, List.rdropWhile_eq_nil_iff]
  constructor
  · intro rest c member
    rw [← List.takeWhile_append_dropWhile (p := isBlank) (l := cs), List.mem_append] at member
    rcases member with early | late
    · exact List.mem_takeWhile_imp early
    · exact rest c late
  · intro all c member
    exact all c ((List.dropWhile_suffix isBlank).subset member)

theorem Text.isBlankText_iff {text : String} :
    isBlankText text = true ↔ ∀ c ∈ text.toList, isBlank c = true := by
  rw [isBlankText, List.isEmpty_iff, trim_eq_nil_iff]

namespace Config

variable {config : Config}

/-- Some character of the name is not blank. -/
def Named (config : Config) : Prop :=
  ∃ c ∈ config.name.toList, Text.isBlank c = false

/-- What can drive an accumulator: it has a name, and its fill phases have some time. -/
structure Usable (config : Config) : Prop where
  named : config.Named
  timed : 0 < config.batch.batchTimeout

theorem not_named_iff : ¬ config.Named ↔ Text.isBlankText config.name = true := by
  simp [Named, Text.isBlankText_iff]

theorem validate_of_named (named : config.Named) : config.validate.1 = .ok config := by
  have solid : ¬ Text.isBlankText config.name = true := fun blank => not_named_iff.mpr blank named
  rw [validate, if_neg solid]
  split <;> rfl

theorem validate_of_unnamed (unnamed : ¬ config.Named) :
    config.validate.1 = .error (.invalid "accumulator name must not be empty") := by
  rw [validate, if_pos (not_named_iff.mp unnamed)]

end Config

/-! ### The layers -/

/-- What a lookup makes of the numbers, one by one. -/
def Lookup.settings (lookup : Lookup) (profile : String) (start : Settings) : Settings where
  batchSize := lookup.layer profile (.number .batchSize) start.batchSize
  outBatchSize := lookup.layer profile (.number .outBatchSize) start.outBatchSize
  batchTimeout := lookup.layer profile (.number .batchTimeout) start.batchTimeout

/-- What a lookup makes of a configuration, field by field. -/
def Lookup.config (lookup : Lookup) (profile : String) (start : Config) : Config where
  name := lookup.layer profile .name start.name
  batch := lookup.settings profile start.batch

theorem Settings.override_eq (settings : Settings) (lookup : Lookup) (profile : String) :
    (settings.override lookup profile).1 = lookup.settings profile settings := by
  have limits := settings.override_limit lookup profile
  exact Settings.mk.injEq .. ▸ ⟨limits .batchSize, limits .outBatchSize, limits .batchTimeout⟩

theorem Config.override_eq (config : Config) (lookup : Lookup) (profile : String) :
    (config.override lookup profile).1 = lookup.config profile config := by
  have named := config.override_value lookup profile .name
  have batch := config.batch.override_eq lookup profile
  exact Config.mk.injEq .. ▸ ⟨named, batch⟩

theorem Config.resolve_result (config : Config) (lookup : Lookup) (profile : String) :
    (config.resolve lookup profile).1 = (lookup.config profile config).validate.1 := by
  simp only [resolve, config.override_eq]

/-- A way to load a configuration. -/
inductive Loading where
  | fromText (text : String) (lookup : Lookup) (profile : String)
  | fromFile (files : Files) (path : String) (environment : Environment)
  | fromOptions (options : Demo.Options) (files : Files) (environment : Environment)

namespace Loading

def result : Loading → Except ConfigFault Config
  | .fromText text lookup profile => (Config.ofText text lookup profile).1
  | .fromFile files path environment => (Config.ofFile files path environment).1
  | .fromOptions options files environment => (Demo.loadConfig options files environment).1

/-- What a text says, with a lookup over it. -/
def ofText? (text : String) (lookup : Lookup) (profile : String) : Option Config :=
  (Config.ofText? text).map (lookup.config profile)

/-- What a file says, with the environment over it. -/
def ofFile? (files : Files) (path : String) (environment : Environment) : Option Config :=
  match files.text path with
  | .ok text => ofText? text environment.lookup environment.profile
  | .error _ => none

/-- What is under the options: a file, or the environment with a name of its own. -/
def underOptions? (files : Files) (environment : Environment) : Option String → Option Config
  | some path => ofFile? files path environment
  | none =>
      some { name := "demo", batch := environment.lookup.settings environment.profile {} }

/-- What all the layers make together, before any check.  It is nothing if a file or a text
cannot be read. -/
def layered? : Loading → Option Config
  | .fromText text lookup profile => ofText? text lookup profile
  | .fromFile files path environment => ofFile? files path environment
  | .fromOptions options files environment =>
      (underOptions? files environment options.config).map fun config =>
        { config with batch := options.override config.batch }

/-! ### What is loaded -/

/-- What is made of layers: the name decides. -/
inductive Verdict : Option Config → Except ConfigFault Config → Prop where
  | accepted {config : Config} (named : config.Named) : Verdict (some config) (.ok config)
  | refused {config : Config} (unnamed : ¬ config.Named) :
      Verdict (some config) (.error (.invalid "accumulator name must not be empty"))
  | unreadable {fault : ConfigFault} (foreign : ∀ reason, fault ≠ .invalid reason) :
      Verdict none (.error fault)

variable {loading : Loading} {config : Config} {layered : Option Config}
  {result : Except ConfigFault Config}

theorem verdict_validate (config : Config) : Verdict (some config) config.validate.1 := by
  by_cases named : config.Named
  · rw [Config.validate_of_named named]
    exact .accepted named
  · rw [Config.validate_of_unnamed named]
    exact .refused named

theorem verdict_ofText (text : String) (lookup : Lookup) (profile : String) :
    Verdict (ofText? text lookup profile) (Config.ofText text lookup profile).1 := by
  cases parsed : Config.ofText? text with
  | none =>
      rw [ofText?, Config.ofText, parsed]
      exact .unreadable (by simp)
  | some config =>
      rw [ofText?, Config.ofText_eq parsed, parsed, Option.map_some, config.resolve_result]
      exact verdict_validate _

theorem verdict_ofFile (files : Files) (path : String) (environment : Environment) :
    Verdict (ofFile? files path environment) (Config.ofFile files path environment).1 := by
  cases found : files.text path with
  | error fault =>
      rw [ofFile?, Config.ofFile, found]
      exact .unreadable (by simp)
  | ok text =>
      rw [ofFile?, Config.ofFile, found]
      exact verdict_ofText _ _ _

theorem verdict_startingConfig (options : Demo.Options) (files : Files)
    (environment : Environment) :
    Verdict (underOptions? files environment options.config)
      (Demo.startingConfig options files environment).1 := by
  unfold underOptions? Demo.startingConfig
  cases options.config with
  | some path => exact verdict_ofFile files path environment
  | none =>
      rw [← Settings.override_eq]
      exact .accepted ⟨'d', (by decide : 'd' ∈ "demo".toList), by decide⟩

/-- The options leave the name as it is, so a file that is refused stays refused. -/
theorem verdict_loadConfig (options : Demo.Options) (files : Files)
    (environment : Environment) :
    Verdict (layered? (.fromOptions options files environment))
      (Demo.loadConfig options files environment).1 := by
  have start := verdict_startingConfig options files environment
  rw [layered?, Demo.loadConfig]
  generalize underOptions? files environment options.config = under at start ⊢
  generalize Demo.startingConfig options files environment = started at start ⊢
  obtain ⟨result, notices⟩ := started
  cases start with
  | accepted named => exact verdict_validate _
  | refused unnamed => exact .refused unnamed
  | unreadable foreign => exact .unreadable foreign

theorem verdict : (loading : Loading) → Verdict loading.layered? loading.result
  | .fromText text lookup profile => verdict_ofText text lookup profile
  | .fromFile files path environment => verdict_ofFile files path environment
  | .fromOptions options files environment => verdict_loadConfig options files environment

theorem Verdict.ok_iff (verdict : Verdict layered result) :
    result = .ok config ↔ layered = some config ∧ config.Named := by
  cases verdict with
  | accepted named =>
      constructor
      · intro same
        cases same
        exact ⟨rfl, named⟩
      · rintro ⟨same, _⟩
        cases same
        rfl
  | refused unnamed =>
      constructor
      · intro same
        cases same
      · rintro ⟨same, named⟩
        cases same
        exact absurd named unnamed
  | unreadable foreign => simp

theorem Verdict.invalid_iff (verdict : Verdict layered result) :
    (∃ reason, result = .error (.invalid reason)) ↔
      ∃ config, layered = some config ∧ ¬ config.Named := by
  cases verdict with
  | accepted named =>
      constructor
      · rintro ⟨_, same⟩
        cases same
      · rintro ⟨_, same, unnamed⟩
        cases same
        exact absurd named unnamed
  | refused unnamed => exact ⟨fun _ => ⟨_, rfl, unnamed⟩, fun _ => ⟨_, rfl⟩⟩
  | unreadable foreign =>
      constructor
      · rintro ⟨reason, same⟩
        cases same
        exact absurd rfl (foreign reason)
      · rintro ⟨_, same, _⟩
        cases same

/-- Whatever is loaded can drive an accumulator, and what the layers make is refused as a
configuration if it could not. -/
structure Sound (loading : Loading) : Prop where
  usable : ∀ config, loading.result = .ok config → config.Usable
  refused : ∀ config, loading.layered? = some config → ¬ config.Usable →
    ∃ reason, loading.result = .error (.invalid reason)

/-- In every way to load a configuration, from a text, from a file or with the options of the
demonstration, the layers together decide: their configuration is loaded if it has a name and
refused if it has none.  Its timeout is not looked at, so only what can drive an accumulator
is loaded exactly when the layers do not make a named configuration without any time. -/
theorem loads_by_name (loading : Loading) :
    (∀ config, loading.result = .ok config ↔ loading.layered? = some config ∧ config.Named) ∧
      ((∃ reason, loading.result = .error (.invalid reason)) ↔
        ∃ config, loading.layered? = some config ∧ ¬ config.Named) ∧
      (loading.Sound ↔ ∀ config, loading.layered? = some config → config.Named →
        0 < config.batch.batchTimeout) := by
  have loads {config : Config} : loading.result = .ok config ↔
      loading.layered? = some config ∧ config.Named :=
    loading.verdict.ok_iff
  have refuses := loading.verdict.invalid_iff
  refine ⟨fun _ => loads, refuses, ?_⟩
  constructor
  · intro sound config layered named
    exact (sound.usable config (loads.mpr ⟨layered, named⟩)).timed
  · intro timed
    constructor
    · intro config loaded
      obtain ⟨layered, named⟩ := loads.mp loaded
      exact ⟨named, timed config layered named⟩
    · intro config layered unusable
      refine refuses.mpr ⟨config, layered, ?_⟩
      intro named
      exact unusable ⟨named, timed config layered named⟩

/-- A timeout on the command line is over a timeout of zero in the environment. -/
theorem loads_by_name_of_option :
    (fromOptions { batchTimeout := some 5 } (fun _ => .error .notFound)
      { entries := [("BATCH_TIMEOUT_MS", "0".toUTF8)] }).Sound := by
  refine (loads_by_name _).2.2.mpr ?_
  intro config layered _
  cases layered
  decide

/-- A text that gives its fill phases no time is loaded all the same. -/
theorem loads_timeless :
    ¬ (fromText "[batch]\nbatch_timeout_ms = 0" (fun _ => none) "").Sound := by
  intro sound
  have parsed : Config.ofText? "[batch]\nbatch_timeout_ms = 0" =
      some { batch := { batchTimeout := 0 } } := by
    decide +kernel
  have loaded : (fromText "[batch]\nbatch_timeout_ms = 0" (fun _ => none) "").result =
      .ok { batch := { batchTimeout := 0 } } := by
    rw [result, Config.ofText_eq parsed]
    rfl
  exact absurd (sound.usable _ loaded).timed (Nat.lt_irrefl 0)

end Loading

end Batching
