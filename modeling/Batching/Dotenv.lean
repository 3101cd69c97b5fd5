import Batching.Environment
import Batching.Text.Blank
import Batching.Text.Letter

namespace Batching.Dotenv

/-! Files of `NAME=value` lines that add to an environment what it does not have.

A value may be bare, in single quotes, where every character stands for itself, or in
double quotes, where a backslash escapes and `$NAME` or `${NAME}` stands for a value
given earlier.  A quoted value may go on over several lines.  The first line that is
not well formed ends the reading; what came before it is kept.
-/

/-- How far a line has come towards its end. -/
inductive LineState where
  | complete
  | escape
  | strong
  | strongEscape
  | weak
  | weakEscape
  | blank
  | comment
deriving DecidableEq, Repr

/-- The state after one more character; a comment goes on to the end of the line. -/
def LineState.next (state : LineState) (c : Char) : LineState :=
  match state with
  | .blank =>
      if c = '#' then .comment
      else if c = '\\' then .escape
      else if c = '"' then .weak
      else if c = '\'' then .strong
      else .complete
  | .escape => .complete
  | .complete =>
      if Text.isBlank c && c != '\n' && c != '\r' then .blank
      else if c = '\\' then .escape
      else if c = '"' then .weak
      else if c = '\'' then .strong
      else .complete
  | .weak => if c = '\\' then .weakEscape else if c = '"' then .complete else .weak
  | .weakEscape => .weak
  | .strong => if c = '\\' then .strongEscape else if c = '\'' then .complete else .strong
  | .strongEscape => .strong
  | .comment => .comment

/-- The state after a text, and the part of the text before a comment. -/
def LineState.scan (state : LineState) : List Char → LineState × List Char
  | [] => (state, [])
  | c :: rest =>
      match state.next c with
      | .comment => (.comment, [])
      | next =>
          let (last, kept) := next.scan rest
          (last, c :: kept)

def withoutBreak (line : List Char) : List Char :=
  match line.reverse with
  | '\n' :: '\r' :: rest => rest.reverse
  | '\n' :: rest => rest.reverse
  | _ => line

/-- Joins physical lines to logical ones.  `none` stands for a line that cannot be read,
and ends the result as one that is never completed does. -/
def logicalLines : LineState → List Char → List (Option (List Char)) →
    List (Option (List Char))
  | .complete, _, [] => []
  | _, _, [] => [none]
  | _, _, none :: _ => [none]
  | state, held, some line :: rest =>
      let whole := held ++ line
      if (whole.dropWhile Text.isBlank).head? = some '#' then
        some [] :: logicalLines .complete [] rest
      else
        match state.scan line with
        | (.complete, _) => some (withoutBreak whole) :: logicalLines .complete [] rest
        | (.comment, kept) => some (held ++ kept) :: logicalLines .complete [] rest
        | (next, _) => logicalLines next whole rest

/-- What the lines read so far have given, and the environment they read from. -/
structure Known where
  environment : Environment
  given : List (String × String) := []

/-- The value that a name stands for, empty if it stands for none. -/
def Known.value (known : Known) (name : List Char) : List Char :=
  let key := String.ofList name
  match known.environment.text? key with
  | some value => value.toList
  | none => ((known.given.lookup key).getD "").toList

inductive ValueState where
  | bare
  | strong
  | weak
  | escape (inWeak : Bool)
  | name (inWeak : Bool) (name : List Char)
  | bracedName (inWeak : Bool) (name : List Char)
  | ended
deriving Repr

def unquoted (inWeak : Bool) : ValueState :=
  if inWeak then .weak else .bare

def escaped? (c : Char) : Option Char :=
  if c = '\\' || c = '\'' || c = '"' || c = '$' || c = ' ' then some c
  else if c = 'n' then some '\n'
  else none

/-- Reads the rest of a value after the text read so far; nothing if it is not well formed. -/
def readValue (known : Known) : ValueState → List Char → List Char → Option (List Char)
  | .bare, out, [] => some out
  | .ended, out, [] => some out
  | .name false name, out, [] => some (out ++ known.value name)
  | .escape false, out, [] => some out
  | _, _, [] => none
  | .ended, out, c :: rest =>
      if c = ' ' || c = '\t' then readValue known .ended out rest
      else if c = '#' then some out
      else none
  | .escape inWeak, out, c :: rest =>
      match escaped? c with
      | some character => readValue known (unquoted inWeak) (out ++ [character]) rest
      | none => none
  | .strong, out, c :: rest =>
      if c = '\'' then readValue known .bare out rest
      else readValue known .strong (out ++ [c]) rest
  | .name inWeak name, out, c :: rest =>
      if Text.isLetterOrNumber c then readValue known (.name inWeak (name ++ [c])) out rest
      else if c = '\x7b' && name.isEmpty then readValue known (.bracedName inWeak []) out rest
      else if c = '$' then readValue known (.name inWeak []) (out ++ known.value name) rest
      else readValue known (unquoted inWeak) (out ++ known.value name ++ [c]) rest
  | .bracedName inWeak name, out, c :: rest =>
      if c = '\x7d' then readValue known (unquoted inWeak) (out ++ known.value name) rest
      else readValue known (.bracedName inWeak (name ++ [c])) out rest
  | .weak, out, c :: rest =>
      if c = '$' then readValue known (.name true []) out rest
      else if c = '"' then readValue known .bare out rest
      else if c = '\\' then readValue known (.escape true) out rest
      else readValue known .weak (out ++ [c]) rest
  | .bare, out, c :: rest =>
      if c = '$' then readValue known (.name false []) out rest
      else if c = '\'' then readValue known .strong out rest
      else if c = '"' then readValue known .weak out rest
      else if c = '\\' then readValue known (.escape false) out rest
      else if c = ' ' || c = '\t' then readValue known .ended out rest
      else readValue known .bare (out ++ [c]) rest

def beginsKey (c : Char) : Bool :=
  c.isAlpha || c == '_'

def continuesKey (c : Char) : Bool :=
  c.isAlphanum || c == '_' || c == '.'

/-- A key and what follows it. -/
def readKey (line : List Char) : Option (String × List Char) :=
  match line with
  | c :: _ =>
      if beginsKey c then
        some (String.ofList (line.takeWhile continuesKey), line.dropWhile continuesKey)
      else none
  | [] => none

def skipBlanks (line : List Char) : List Char :=
  line.dropWhile Text.isBlank

def skipEquals : List Char → Option (List Char)
  | '=' :: rest => some rest
  | _ => none

/-- A key with the equals sign after it.  The word `export` may go before the key, and
is itself the key if the equals sign follows it. -/
def readAssignment (line : List Char) : Option (String × List Char) := do
  let (word, rest) ← readKey line
  let rest := skipBlanks rest
  if word == "export" && (skipEquals rest).isNone then
    let (key, rest) ← readKey rest
    return (key, ← skipEquals (skipBlanks rest))
  else return (word, ← skipEquals rest)

/-- A line without content, or one assignment. -/
inductive Line where
  | empty
  | assigns (key value : String)
deriving Repr

def isOver : List Char → Bool
  | [] => true
  | c :: _ => c == '#'

def readLine (known : Known) (line : List Char) : Option Line := do
  let content := skipBlanks (Text.trimEnd line)
  if isOver content then return .empty
  let (key, rest) ← readAssignment content
  let rest := skipBlanks rest
  if isOver rest then return .assigns key ""
  let value ← readValue known .bare [] rest
  return .assigns key (String.ofList value)

/-- Adds the assignments of the lines to the environment, unless it has a value already.
There is no result if a value cannot be set because it holds a NUL. -/
def assignLines : Known → List (Option (List Char)) → Option Environment
  | known, [] => some known.environment
  | known, none :: _ => some known.environment
  | known, some line :: rest =>
      match readLine known line with
      | none => some known.environment
      | some .empty => assignLines known rest
      | some (.assigns key value) =>
          let given := (key, value) :: known.given
          if (known.environment.text? key).isSome then assignLines { known with given } rest
          else if value.contains '\x00' then none
          else assignLines { environment := known.environment.setText key value, given } rest

def splitLines : List UInt8 → List UInt8 → List (List UInt8)
  | [], [] => []
  | held, [] => [held.reverse]
  | held, byte :: rest =>
      if byte = 10 then (byte :: held).reverse :: splitLines [] rest
      else splitLines (byte :: held) rest

def withoutMark : List UInt8 → List UInt8
  | 0xEF :: 0xBB :: 0xBF :: rest => rest
  | bytes => bytes

def load (environment : Environment) (file : ByteArray) : Option Environment :=
  let lines := (splitLines [] (withoutMark file.toList)).map fun line =>
    (decodeText? ⟨line.toArray⟩).map String.toList
  assignLines { environment } (logicalLines .complete [] lines)

end Batching.Dotenv
