import Batching.Toml.Moment

namespace Batching.Toml

/-! Values of every kind, statements, and the document that they make. -/

def isBareChar (c : Char) : Bool :=
  c.isAlphanum || c == '-' || c == '_'

/-- Reads one part of a key: a bare word or a quoted text of one line. -/
def readPart : Reader String := fun input =>
  match input with
  | '"' :: rest => do
      let (content, rest) ← readBasic .plain rest
      return (String.ofList content, rest)
  | '\'' :: rest => do
      let (content, rest) ← readLiteral rest
      return (String.ofList content, rest)
  | _ =>
      let word := input.takeWhile isBareChar
      if word.isEmpty then none else some (String.ofList word, input.dropWhile isBareChar)

/-- Reads a key of at most so many parts after those that have come, the latest first. -/
def readParts : Nat → List String → Reader Key
  | 0, _, _ => none
  | room + 1, parents, input => do
      let (part, rest) ← readPart (skipSpaces input)
      match skipSpaces rest with
      | '.' :: rest => readParts room (part :: parents) rest
      | rest => return ({ parents := parents.reverse, name := part }, rest)

/-- The most parts of one key, and the most values within one another. -/
def longestPath : Nat := 79

def readKey : Reader Key :=
  readParts longestPath []

def readPlain : Reader Value := fun input =>
  match input with
  | [] => none
  | c :: _ =>
      if c = '"' || c = '\'' then do
        let (content, rest) ← readQuoted input
        return (.text content, rest)
      else if c = 't' then do
        return (.truth true, ← pastWord ['t', 'r', 'u', 'e'] input)
      else if c = 'f' then do
        return (.truth false, ← pastWord ['f', 'a', 'l', 's', 'e'] input)
      else
        match pastMoment input with
        | some rest => some (.moment, rest)
        | none => readNumber input

/-- Reads the items of a list up to its bracket; a comma may come after the last. -/
def readItems (readItem : Reader Value) : Nat → Reader (List Value)
  | 0, _ => none
  | fuel + 1, input =>
      match skipLines false input with
      | ']' :: rest => some ([], rest)
      | content => do
          let (item, rest) ← readItem content
          match skipLines false rest with
          | ']' :: rest => return ([item], rest)
          | ',' :: rest =>
              let (items, rest) ← readItems readItem fuel rest
              return (item :: items, rest)
          | _ => none

def readAssignment (readValue : Reader Value) : Reader (Key × Value) := fun input => do
  let (key, rest) ← readKey input
  let (value, rest) ← readValue (skipSpaces (← past '=' rest))
  return ((key, value), rest)

/-- Reads one or more assignments up to a brace, into the entries read so far. -/
def readPairs (readValue : Reader Value) : Nat → Entries → Reader Entries
  | 0, _, _ => none
  | fuel + 1, entries, input => do
      let ((key, value), rest) ← readAssignment readValue input
      let entries ← entries.assign key.name value key.parents
      match skipSpaces rest with
      | '\x7d' :: rest => return (entries, rest)
      | ',' :: rest => readPairs readValue fuel entries rest
      | _ => none

/-- Reads a value that holds values of at most so many levels. -/
def readValue : Nat → Reader Value
  | 0, input => readPlain input
  | levels + 1, input =>
      match input with
      | '[' :: rest => do
          let (items, rest) ← readItems (readValue levels) (rest.length + 1) rest
          return (.list items, rest)
      | '\x7b' :: rest =>
          match skipSpaces rest with
          | '\x7d' :: rest => some (.table .inline [], rest)
          | content => do
              let (entries, rest) ← readPairs (readValue levels) content.length [] content
              return (.table .inline entries, rest)
      | _ => readPlain input

/-- What a line of a document, or several that belong together, can say. -/
inductive Statement where
  | table (key : Key)
  | element (key : Key)
  | assigns (key : Key) (value : Value)
deriving Repr

def readStatement : Reader Statement := fun input =>
  match input with
  | '[' :: '[' :: rest => do
      let (key, rest) ← readKey rest
      return (.element key, ← pastWord [']', ']'] rest)
  | '[' :: rest => do
      let (key, rest) ← readKey rest
      return (.table key, ← past ']' rest)
  | _ => do
      let ((key, value), rest) ← readAssignment (readValue longestPath) input
      return (.assigns key value, rest)

/-- The tables so far, and the path of the one that assignments go to. -/
structure Document where
  path : List String := []
  root : Entries := []
deriving Repr

/-- What a statement adds, unless it contradicts an earlier one. -/
def Document.apply (document : Document) : Statement → Option Document
  | .table key => do
      return { path := key.parents ++ [key.name], root := ← document.root.openTable key }
  | .element key => do
      return { path := key.parents ++ [key.name], root := ← document.root.openElement key }
  | .assigns key value => do
      let assign (table : Entries) := table.assign key.name value key.parents
      return { document with root := ← document.root.within assign document.path }

def readStatements : Nat → Document → List Char → Option Document
  | 0, _, _ => none
  | fuel + 1, document, input =>
      match skipLines false input with
      | [] => some document
      | content => do
          let (statement, rest) ← readStatement content
          readStatements fuel (← document.apply statement) (← endLine rest)

def withoutMark : List Char → List Char
  | '\uFEFF' :: rest => rest
  | input => input

/-- The table that a text describes, if it is well formed. -/
def read? (text : String) : Option Entries := do
  let input ← plainBreaks (withoutMark text.toList)
  let document ← readStatements (input.length + 1) {} input
  return document.root

end Batching.Toml
