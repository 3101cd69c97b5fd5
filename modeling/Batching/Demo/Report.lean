import Batching.Counters
import Batching.Demo.Options
import Batching.Overrides

namespace Batching.Demo

/-! What the demonstration prints. -/

def reportLine (name value : String) : String :=
  "  \"" ++ name ++ "\": " ++ value

/-- The counters as an object of names and values; times are milliseconds. -/
def statsReport (stats : Stats) : String :=
  let counters := stats.counters
  let lines := [
    reportLine "state" ("\"" ++ stats.state.text ++ "\""),
    reportLine "pending" (toString stats.pending),
    reportLine "cycles" (toString counters.cycles),
    reportLine "failed_cycles" (toString counters.failedCycles),
    reportLine "received" (toString counters.received),
    reportLine "dispatched" (toString counters.dispatched),
    reportLine "discarded" (toString counters.discarded),
    reportLine "started_at" ((counters.startedAt.map toString).getD "null")]
  "\x7b\n" ++ ",\n".intercalate lines ++ "\n\x7d"

def optionReport (name : OptionName) : String :=
  "  --" ++ name.text ++ " <VALUE>"

def helpReport : String :=
  "Run a batch accumulator against a synthetic message stream.\n\nOptions:\n" ++
    "\n".intercalate (OptionName.all.map optionReport ++ ["  -h, --help", "  -V, --version"])

def versionReport : String :=
  "batchline-demo 0.1.0"

def refusalReport : Refusal → String
  | .help => helpReport
  | .version => versionReport
  | .unknownArgument => "error: unexpected argument found"
  | .missingValue => "error: a value is required"
  | .invalidNumber => "error: invalid value"
  | .repeated => "error: an argument cannot be used multiple times"
  | .needlessValue => "error: unexpected value found"
  | .invalidText => "error: invalid UTF-8 was detected"

def faultReport (fault : ConfigFault) : String :=
  "Error: " ++ fault.message?.getD "config parse error"

end Batching.Demo
