import Batching.Overrides
import Batching.Text.Uppercase

namespace Batching

/-! The environment of a process: entries of a name, an equals sign and a value of bytes.

A value that is not UTF-8 counts as none.
-/

def decodeText? (bytes : ByteArray) : Option String :=
  String.fromUTF8? bytes

structure Environment where
  entries : List (String × ByteArray) := []

namespace Environment

/-- The part of an entry after the key and an equals sign, if it begins with those. -/
def valueOf? (key : String) (entry : String × ByteArray) : Option ByteArray :=
  let written := (entry.1 ++ "=").toUTF8 ++ entry.2
  let wanted := (key ++ "=").toUTF8
  if written.extract 0 wanted.size == wanted then
    some (written.extract wanted.size written.size)
  else none

def bytes? (environment : Environment) (key : String) : Option ByteArray :=
  environment.entries.findSome? (valueOf? key)

def text? (environment : Environment) (key : String) : Option String :=
  (environment.bytes? key).bind decodeText?

def lookup (environment : Environment) : Lookup :=
  fun key => (environment.text? key).filter fun value => !value.isEmpty

def setText (environment : Environment) (key value : String) : Environment :=
  let others := environment.entries.filter fun entry => entry.1 != key
  { entries := others ++ [(key, value.toUTF8)] }

def profileKey : String := "BATCHLINE_PROFILE"

/-- The active profile in upper case; empty when none is set. -/
def profile (environment : Environment) : String :=
  Text.uppercase ((environment.lookup profileKey).getD "")

def settings (environment : Environment) : Settings × Inquiry :=
  Settings.ofLookup environment.lookup environment.profile

end Environment

end Batching
