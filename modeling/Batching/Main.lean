import Batching.Demo.Report
import Batching.Demo.Run

/-! The program: reads what it depends on, runs the demonstration and prints how it ended.

Time in the demonstration is not the time of the clock on the wall.
-/

open Batching

namespace Batching.Program

def faultOf : IO.Error → ReadFault
  | .noFileOrDirectory _ _ _ => .notFound
  | .inappropriateType _ 21 _ => .isDirectory
  | .inappropriateType _ _ _ => .notDirectory
  | .invalidArgument _ _ _ => .nulInPath
  | _ => .notFound

def readFile (path : String) : IO (Except ReadFault ByteArray) := do
  try
    return .ok (← IO.FS.readBinFile path)
  catch problem =>
    return .error (faultOf problem)

def splitEntries : List UInt8 → List UInt8 → List (List UInt8)
  | held, [] => if held.isEmpty then [] else [held.reverse]
  | held, byte :: rest =>
      if byte = 0 then held.reverse :: splitEntries [] rest
      else splitEntries (byte :: held) rest

/-- An entry of the environment, split at its first equals sign. -/
def entryOf (bytes : List UInt8) : Option (String × ByteArray) := do
  let name ← decodeText? ⟨(bytes.takeWhile (· != 61)).toArray⟩
  return (name, ⟨((bytes.dropWhile (· != 61)).drop 1).toArray⟩)

def readEnvironment : IO Environment := do
  match ← readFile "/proc/self/environ" with
  | .ok bytes => return { entries := (splitEntries [] bytes.toList).filterMap entryOf }
  | .error _ => return {}

/-- The path of the configuration, if the arguments and the environment lead to one. -/
def configPath (arguments : List String) (environment : Environment) : Option String :=
  match Demo.Options.ofArguments arguments environment with
  | .ok options => options.config
  | .error _ => none

def readFiles (arguments : List String) (environment : Environment) : IO Files := do
  let assignments ← readFile Demo.dotenvName
  let extended :=
    (Demo.extendedEnvironment (fun _ => assignments) environment).getD environment
  match configPath arguments extended with
  | none => return fun _ => assignments
  | some path =>
      let config ← readFile path
      return fun name => if name == Demo.dotenvName then assignments else config

def report : Demo.Ending → IO Unit
  | .finished stats => IO.println (Demo.statsReport stats)
  | .refused .help => IO.println (Demo.refusalReport .help)
  | .refused .version => IO.println (Demo.refusalReport .version)
  | .refused refusal => IO.eprintln (Demo.refusalReport refusal)
  | .misconfigured fault => IO.eprintln (Demo.faultReport fault)
  | .crashed => IO.eprintln "a variable cannot be set"

end Batching.Program

def main (arguments : List String) : IO UInt32 := do
  let environment ← Program.readEnvironment
  let files ← Program.readFiles arguments environment
  let ending := Demo.run arguments files environment
  Program.report ending
  return UInt32.ofNat ending.exitCode
