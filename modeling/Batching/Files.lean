import Batching.Environment

namespace Batching

/-! The files that a program can read. -/

inductive ReadFault where
  | notFound
  | notDirectory
  | isDirectory
  | nameTooLong
  | invalidText
  | nulInPath
deriving DecidableEq, Repr

def ReadFault.message : ReadFault → String
  | .notFound => "No such file or directory (os error 2)"
  | .notDirectory => "Not a directory (os error 20)"
  | .isDirectory => "Is a directory (os error 21)"
  | .nameTooLong => "File name too long (os error 36)"
  | .invalidText => "stream did not contain valid UTF-8"
  | .nulInPath => "file name contained an unexpected NUL byte"

/-- What reading the file at a path gives. -/
abbrev Files := String → Except ReadFault ByteArray

def Files.text (files : Files) (path : String) : Except ReadFault String := do
  match decodeText? (← files path) with
  | some text => return text
  | none => throw .invalidText

end Batching
