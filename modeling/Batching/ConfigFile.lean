import Batching.Files
import Batching.Toml.Document

namespace Batching

/-! The configuration of an accumulator as a document gives it.

A name that means nothing here is ignored, on every level.  The settings may be a table,
or a list of up to three numbers by position.
-/

def Toml.Value.natural? : Toml.Value → Option Nat
  | .integer number => if 0 ≤ number then some number.toNat else none
  | _ => none

/-- A number, or what stands for it when there is no value. -/
def Toml.naturalOr (standard : Nat) : Option Toml.Value → Option Nat
  | none => some standard
  | some value => value.natural?

/-- The settings that three values give, each of which may be missing. -/
def Settings.ofValues (batchSize outBatchSize batchTimeout : Option Toml.Value) :
    Option Settings := do
  let standard : Settings := {}
  return {
    batchSize := ← Toml.naturalOr standard.batchSize batchSize
    outBatchSize := ← Toml.naturalOr standard.outBatchSize outBatchSize
    batchTimeout := ← Toml.naturalOr standard.batchTimeout batchTimeout }

/-- The settings that a value gives.  A date counts as a table of nothing that is
known. -/
def Settings.ofValue : Toml.Value → Option Settings
  | .table _ entries =>
      Settings.ofValues (entries.lookup "batch_size") (entries.lookup "out_batch_size")
        (entries.lookup "batch_timeout_ms")
  | .list items => Settings.ofValues items[0]? items[1]? items[2]?
  | .moment => some {}
  | _ => none

def Config.nameOf : Option Toml.Value → Option String
  | none => some ({} : Config).name
  | some (.text name) => some name
  | some _ => none

def Config.batchOf : Option Toml.Value → Option Settings
  | none => some {}
  | some value => Settings.ofValue value

def Config.ofEntries (entries : Toml.Entries) : Option Config := do
  return {
    name := ← nameOf (entries.value? "name")
    batch := ← batchOf (entries.value? "batch") }

def Config.ofText? (text : String) : Option Config :=
  (Toml.read? text).bind Config.ofEntries

/-- The configuration of a text, with the overrides and checked. -/
def Config.ofText (text : String) (lookup : Lookup) (profile : String) :
    Except ConfigFault Config × Inquiry :=
  match Config.ofText? text with
  | none => (.error .unparsable, {})
  | some config => config.resolve lookup profile

def Config.ofFile (files : Files) (path : String) (environment : Environment) :
    Except ConfigFault Config × Inquiry :=
  match files.text path with
  | .error fault => (.error (.io fault.message), {})
  | .ok text => Config.ofText text environment.lookup environment.profile

end Batching
