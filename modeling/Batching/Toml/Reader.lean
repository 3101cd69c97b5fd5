namespace Batching.Toml

/-! Reading from the front of a text, and skipping what means nothing. -/

/-- Reads something from the front of a text and leaves the rest. -/
abbrev Reader (α : Type) := List Char → Option (α × List Char)

def past (c : Char) : List Char → Option (List Char)
  | [] => none
  | d :: rest => if d = c then some rest else none

def pastWord : List Char → List Char → Option (List Char)
  | [], input => some input
  | c :: word, input => (past c input).bind (pastWord word)

/-- Line breaks of one character each.  A carriage return stands nowhere but before a
line feed. -/
def plainBreaks : List Char → Option (List Char)
  | [] => some []
  | '\r' :: '\n' :: rest => do return '\n' :: (← plainBreaks rest)
  | c :: rest => if c = '\r' then none else do return c :: (← plainBreaks rest)

def isSpace (c : Char) : Bool :=
  c == ' ' || c == '\t'

/-- The characters that a line may hold: no control character but the tab. -/
def isLineChar (c : Char) : Bool :=
  c == '\t' || (0x20 ≤ c.toNat && c.toNat != 0x7F)

def skipSpaces (input : List Char) : List Char :=
  input.dropWhile isSpace

def skipLines (inComment : Bool) : List Char → List Char
  | [] => []
  | c :: rest =>
      if inComment && isLineChar c then skipLines true rest
      else if isSpace c || c == '\n' then skipLines false rest
      else if c = '#' then skipLines true rest
      else c :: rest

/-- Skips the rest of a line, which holds at most a comment. -/
def endLine (input : List Char) : Option (List Char) :=
  let rest := match skipSpaces input with
    | '#' :: comment => comment.dropWhile isLineChar
    | other => other
  match rest with
  | [] => some []
  | '\n' :: next => some next
  | _ => none

end Batching.Toml
