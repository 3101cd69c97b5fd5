import Batching.Toml.Reader

namespace Batching.Toml

/-! Quoted texts.

Between double quotes a backslash escapes; between single quotes every character stands
for itself.  Three quotes hold a text of several lines, and then a run of one or two of
them belongs to the text, as do two at its end.
-/

def hexDigit? (c : Char) : Option Nat :=
  if '0' ≤ c && c ≤ '9' then some (c.toNat - '0'.toNat)
  else if 'a' ≤ c && c ≤ 'f' then some (c.toNat - 'a'.toNat + 10)
  else if 'A' ≤ c && c ≤ 'F' then some (c.toNat - 'A'.toNat + 10)
  else none

/-- The character of a code, unless there is none. -/
def charOfCode? (code : Nat) : Option Char :=
  if code.isValidChar then some (Char.ofNat code) else none

inductive QuoteState where
  | plain
  | escape
  | code (missing value : Nat)
  /-- Skips white space after a backslash, in which a line break must come. -/
  | fold (broken : Bool)
  | quotes (count : Nat)
deriving DecidableEq, Repr

/-- The state after a character that nothing precedes, and what the character adds. -/
def QuoteState.afterPlain? (c : Char) : Option (QuoteState × List Char) :=
  if c = '\\' then some (.escape, [])
  else if c = '"' then some (.quotes 1, [])
  else if c = '\n' || isLineChar c then some (.plain, [c])
  else none

def QuoteState.afterEscape? (c : Char) : Option (QuoteState × List Char) :=
  match c with
  | 'b' => some (.plain, ['\x08'])
  | 't' => some (.plain, ['\t'])
  | 'n' => some (.plain, ['\n'])
  | 'f' => some (.plain, ['\x0C'])
  | 'r' => some (.plain, ['\r'])
  | '"' => some (.plain, ['"'])
  | '\\' => some (.plain, ['\\'])
  | 'u' => some (.code 4 0, [])
  | 'U' => some (.code 8 0, [])
  | '\n' => some (.fold true, [])
  | _ => if isSpace c then some (.fold false, []) else none

/-- The state after one more character, and what the character adds to the text. -/
def QuoteState.next? (state : QuoteState) (c : Char) : Option (QuoteState × List Char) :=
  match state with
  | .plain => afterPlain? c
  | .escape => afterEscape? c
  | .code missing value => do
      let code := value * 16 + (← hexDigit? c)
      if missing ≤ 1 then return (.plain, [← charOfCode? code])
      else return (.code (missing - 1) code, [])
  | .fold broken =>
      if c = '\n' then some (.fold true, [])
      else if isSpace c then some (.fold broken, [])
      else if broken then afterPlain? c
      else none
  | .quotes count => do
      if c = '"' then return (.quotes (count + 1), [])
      else
        let (next, added) ← afterPlain? c
        return (next, List.replicate count '"' ++ added)

def readBasic (state : QuoteState) : Reader (List Char)
  | [] => none
  | c :: rest =>
      if state = .plain && c = '"' then some ([], rest)
      else if c = '\n' then none
      else do
        let (next, added) ← state.next? c
        let (content, rest) ← readBasic next rest
        return (added ++ content, rest)

/-- After three closing quotes, the quotes more that still belong to the text. -/
def readClosing (quote : Char) : List Char → List Char × List Char
  | c :: d :: rest =>
      if c = quote then
        if d = quote then ([quote, quote], rest) else ([quote], d :: rest)
      else ([], c :: d :: rest)
  | [c] => if c = quote then ([quote], []) else ([], [c])
  | [] => ([], [])

/-- Reads a text of several lines up to its closing double quotes. -/
def readBasicLines (state : QuoteState) : Reader (List Char)
  | [] => none
  | c :: rest =>
      if state = .quotes 2 && c = '"' then some (readClosing '"' rest)
      else do
        let (next, added) ← state.next? c
        let (content, rest) ← readBasicLines next rest
        return (added ++ content, rest)

def readLiteral : Reader (List Char)
  | [] => none
  | c :: rest =>
      if c = '\'' then some ([], rest)
      else if isLineChar c then do
        let (content, rest) ← readLiteral rest
        return (c :: content, rest)
      else none

/-- Reads a text of several lines up to its closing single quotes, of which `quotes` have
come. -/
def readLiteralLines (quotes : Nat) : Reader (List Char)
  | [] => none
  | c :: rest =>
      if c = '\'' then
        if quotes = 2 then some (readClosing '\'' rest)
        else readLiteralLines (quotes + 1) rest
      else if c = '\n' || isLineChar c then do
        let (content, rest) ← readLiteralLines 0 rest
        return (List.replicate quotes '\'' ++ c :: content, rest)
      else none

/-- A line break right after the opening quotes does not belong to the text. -/
def skipBreak : List Char → List Char
  | '\n' :: rest => rest
  | input => input

def readQuoted : Reader String := fun input => do
  let (content, rest) ← match input with
    | '"' :: '"' :: '"' :: rest => readBasicLines .plain (skipBreak rest)
    | '"' :: rest => readBasic .plain rest
    | '\'' :: '\'' :: '\'' :: rest => readLiteralLines 0 (skipBreak rest)
    | '\'' :: rest => readLiteral rest
    | _ => none
  return (String.ofList content, rest)

end Batching.Toml
