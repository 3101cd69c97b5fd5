import Batching.Environment
import Batching.Text.Numeral

namespace Batching.Demo

/-! The options of the demonstration on its command line. -/

inductive OptionName where
  | config
  | batchSize
  | outBatchSize
  | batchTimeout
  | messages
  | interval
  | failEvery
  | runSeconds
deriving DecidableEq, Repr

def OptionName.text : OptionName → String
  | .config => "config"
  | .batchSize => "batch-size"
  | .outBatchSize => "out-batch-size"
  | .batchTimeout => "batch-timeout-ms"
  | .messages => "messages"
  | .interval => "interval-ms"
  | .failEvery => "fail-every"
  | .runSeconds => "run-secs"

def OptionName.all : List OptionName :=
  [.config, .batchSize, .outBatchSize, .batchTimeout, .messages, .interval, .failEvery,
    .runSeconds]

def OptionName.ofText? (text : String) : Option OptionName :=
  OptionName.all.find? fun name => name.text == text

/-- What the options say.  An override that is missing changes nothing. -/
structure Options where
  config : Option String := none
  batchSize : Option Nat := none
  outBatchSize : Option Nat := none
  batchTimeout : Option Nat := none
  messages : Nat := 1000
  interval : Nat := 2
  failEvery : Nat := 0
  runSeconds : Nat := 5
deriving DecidableEq, Repr

/-- What the given text says for an option; all but the path of a file are numbers. -/
def Options.set? (options : Options) (name : OptionName) (text : String) : Option Options :=
  match name with
  | .config => some { options with config := some text }
  | .batchSize => number.map fun value => { options with batchSize := some value }
  | .outBatchSize => number.map fun value => { options with outBatchSize := some value }
  | .batchTimeout => number.map fun value => { options with batchTimeout := some value }
  | .messages => number.map fun value => { options with messages := value }
  | .interval => number.map fun value => { options with interval := value }
  | .failEvery => number.map fun value => { options with failEvery := value }
  | .runSeconds => number.map fun value => { options with runSeconds := value }
where
  number : Option Nat := Text.numeral? text.toList

/-- Why the arguments are not carried out. -/
inductive Refusal where
  | help
  | version
  | unknownArgument
  | missingValue
  | invalidNumber
  | repeated
  | needlessValue
  | invalidText
deriving DecidableEq, Repr

/-- Asking for help or for the version is no mistake. -/
def Refusal.exitCode : Refusal → Nat
  | .help | .version => 0
  | _ => 2

/-- The options so far, and the one that waits for its value or for the next argument,
which shows that its value is complete. -/
structure Reading where
  options : Options := {}
  given : List OptionName := []
  pending : Option (OptionName × Option String) := none
  /-- No more options are to come. -/
  closed : Bool := false
deriving Repr

namespace Reading

def give (reading : Reading) (name : OptionName) (value : Option String) :
    Except Refusal Reading :=
  match value with
  | none => .error .missingValue
  | some text =>
      if reading.given.contains name then .error .repeated
      else
        match reading.options.set? name text with
        | none => .error .invalidNumber
        | some options => .ok { reading with options, given := name :: reading.given }

def settle (reading : Reading) : Except Refusal Reading :=
  match reading.pending with
  | none => .ok reading
  | some (name, value) => give { reading with pending := none } name value

def readLong (reading : Reading) (name : String) (value : Option String) :
    Except Refusal Reading :=
  match OptionName.ofText? name, value with
  | some option, some text => do (← reading.settle).give option (some text)
  | some option, none => do return { ← reading.settle with pending := some (option, none) }
  | none, value =>
      if name == "help" || name == "version" then do
        if value.isSome then throw .needlessValue
        let _ ← reading.settle
        throw (if name == "help" then .help else .version)
      else .error .unknownArgument

def readShort (reading : Reading) (letter : Char) : Except Refusal Reading :=
  if letter = 'h' || letter = 'V' then do
    let _ ← reading.settle
    throw (if letter = 'h' then .help else .version)
  else .error .unknownArgument

def readValue (reading : Reading) (argument : String) : Except Refusal Reading :=
  match reading.pending with
  | some (name, none) => .ok { reading with pending := some (name, some argument) }
  | _ => .error .unknownArgument

def splitLong (text : List Char) : String × Option String :=
  let name := String.ofList (text.takeWhile (· != '='))
  match text.dropWhile (· != '=') with
  | _ :: value => (name, some (String.ofList value))
  | [] => (name, none)

def read (reading : Reading) (argument : String) : Except Refusal Reading :=
  if reading.closed then .error .unknownArgument
  else
    match argument.toList with
    | ['-', '-'] => .ok { reading with closed := true }
    | '-' :: '-' :: text =>
        let (name, value) := splitLong text
        reading.readLong name value
    | '-' :: letter :: _ => reading.readShort letter
    | _ => reading.readValue argument

end Reading

def configKey : String := "BATCHLINE_CONFIG"

/-- The path that the environment gives stands in for one that the arguments do not. -/
def Options.complete (options : Options) (environment : Environment) :
    Except Refusal Options :=
  if options.config.isSome then .ok options
  else
    match environment.bytes? configKey with
    | none => .ok options
    | some bytes =>
        match decodeText? bytes with
        | some path => .ok { options with config := some path }
        | none => .error .invalidText

/-- Reads the arguments from left to right. -/
def Options.ofArguments (arguments : List String) (environment : Environment) :
    Except Refusal Options := do
  let reading ← (← arguments.foldlM Reading.read {}).settle
  reading.options.complete environment

end Batching.Demo
