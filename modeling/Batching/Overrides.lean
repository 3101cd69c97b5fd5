import Batching.Notice
import Batching.Text.Numeral

namespace Batching

/-! Settings from named values, each of which a profile may replace.

A value is looked up under the profile's name for it first and under its plain name
second; an empty value counts as none.  A number that cannot be read is reported and
ignored, and the plain name is not tried in its place.
-/

/-- Answers a name with a value, if there is one. -/
abbrev Lookup := String → Option String

def Lookup.value? (lookup : Lookup) (name : String) : Option String :=
  (lookup name).filter fun value => !value.isEmpty

/-- The name under which a profile gives its own value. -/
def profiledName (profile key : String) : String :=
  profile ++ "_" ++ key

/-- What reading some values has asked for, in order, and made known. -/
structure Inquiry where
  asked : List String := []
  notices : List Notice := []
deriving Repr

def Inquiry.append (first second : Inquiry) : Inquiry where
  asked := first.asked ++ second.asked
  notices := first.notices ++ second.notices

/-- The value under the profile's name, else the one under the plain name. -/
def profiled? (lookup : Lookup) (profile key : String) : Option String × Inquiry :=
  if profile.isEmpty then (lookup.value? key, { asked := [key] })
  else
    let ownName := profiledName profile key
    match lookup.value? ownName with
    | some value => (some value, { asked := [ownName] })
    | none => (lookup.value? key, { asked := [ownName, key] })

def profiledNumber? (lookup : Lookup) (profile key : String) : Option Nat × Inquiry :=
  let (value, inquiry) := profiled? lookup profile key
  match value with
  | none => (none, inquiry)
  | some raw =>
      match Text.paddedNumeral? raw with
      | some number => (some number, inquiry)
      | none => (none, inquiry.append { notices := [.unparsableValue key raw] })

def nameKey : String := "BATCHLINE_NAME"

def batchSizeKey : String := "BATCH_SIZE"

def outBatchSizeKey : String := "BATCH_OUT_SIZE"

def batchTimeoutKey : String := "BATCH_TIMEOUT_MS"

def Settings.override (settings : Settings) (lookup : Lookup) (profile : String) :
    Settings × Inquiry :=
  let (size, first) := profiledNumber? lookup profile batchSizeKey
  let (outSize, second) := profiledNumber? lookup profile outBatchSizeKey
  let (timeout, third) := profiledNumber? lookup profile batchTimeoutKey
  ({ batchSize := size.getD settings.batchSize
     outBatchSize := outSize.getD settings.outBatchSize
     batchTimeout := timeout.getD settings.batchTimeout },
    (first.append second).append third)

/-- The standard settings with what the lookup replaces. -/
def Settings.ofLookup (lookup : Lookup) (profile : String) : Settings × Inquiry :=
  Settings.override {} lookup profile

/-- Replaces the name if there is one, and the settings. -/
def Config.override (config : Config) (lookup : Lookup) (profile : String) : Config × Inquiry :=
  let (name, first) := profiled? lookup profile nameKey
  let (batch, second) := config.batch.override lookup profile
  ({ name := name.getD config.name, batch }, first.append second)

inductive ConfigFault where
  | io (reason : String)
  | invalid (reason : String)
  | unparsable
deriving DecidableEq, Repr

/-- The wording of a fault; that of an unparsable text is not settled here. -/
def ConfigFault.message? : ConfigFault → Option String
  | .io reason => some ("config I/O error: " ++ reason)
  | .invalid reason => some ("config error: " ++ reason)
  | .unparsable => none

/-- The content cap exceeds the size cap, which always ends a fill phase first. -/
def Settings.contentCapIsIdle (settings : Settings) : Bool :=
  0 < settings.outBatchSize && settings.batchSize < settings.outBatchSize

/-- Refuses a blank name, and warns of a content cap that cannot take effect. -/
def Config.validate (config : Config) : Except ConfigFault Config × List Notice :=
  if Text.isBlankText config.name then
    (.error (.invalid "accumulator name must not be empty"), [])
  else if config.batch.contentCapIsIdle then
    (.ok config, [.contentCapTooLarge config.batch.batchSize config.batch.outBatchSize])
  else (.ok config, [])

def Config.resolve (config : Config) (lookup : Lookup) (profile : String) :
    Except ConfigFault Config × Inquiry :=
  let (overridden, inquiry) := config.override lookup profile
  let (result, notices) := overridden.validate
  (result, inquiry.append { notices })

end Batching
