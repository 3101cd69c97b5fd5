import Batching.Toml.Number

namespace Batching.Toml

/-! Dates and times.  Only their form matters here, and that they can be. -/

def readFixed : Nat → Nat → Reader Nat
  | 0, value, input => some (value, input)
  | _ + 1, _, [] => none
  | count + 1, value, c :: rest => do
      readFixed count (value * 10 + (← digitIn? 10 c)) rest

/-- Reads a number of two digits that is within bounds. -/
def readPair (least most : Nat) : Reader Nat := fun input => do
  let (value, rest) ← readFixed 2 0 input
  if least ≤ value && value ≤ most then return (value, rest) else none

def isLeapYear (year : Nat) : Bool :=
  year % 4 == 0 && (year % 100 != 0 || year % 400 == 0)

def daysOfMonth (year month : Nat) : Nat :=
  if month = 2 then if isLeapYear year then 29 else 28
  else if month = 4 || month = 6 || month = 9 || month = 11 then 30
  else 31

def pastDate (input : List Char) : Option (List Char) := do
  let (year, rest) ← readFixed 4 0 input
  let (month, rest) ← readPair 1 12 (← past '-' rest)
  let (_, rest) ← readPair 1 (daysOfMonth year month) (← past '-' rest)
  return rest

def pastSplit : List Char → List Char
  | '.' :: c :: rest =>
      if c.isDigit then rest.dropWhile Char.isDigit else '.' :: c :: rest
  | input => input

def pastTime (input : List Char) : Option (List Char) := do
  let (_, rest) ← readPair 0 23 input
  let (_, rest) ← readPair 0 59 (← past ':' rest)
  let (_, rest) ← readPair 0 60 (← past ':' rest)
  return pastSplit rest

def pastShift (input : List Char) : Option (List Char) := do
  let (_, rest) ← readPair 0 23 input
  let (_, rest) ← readPair 0 59 (← past ':' rest)
  return rest

def pastOffset (input : List Char) : List Char :=
  match input with
  | c :: rest =>
      if c = 'Z' || c = 'z' then rest
      else if c = '+' || c = '-' then (pastShift rest).getD input
      else input
  | [] => []

/-- Past the time that may follow a date. -/
def pastTimeOfDate (input : List Char) : List Char :=
  match input with
  | c :: rest =>
      if c = 'T' || c = 't' || c = ' ' then ((pastTime rest).map pastOffset).getD input
      else input
  | [] => []

def pastMoment (input : List Char) : Option (List Char) :=
  match pastDate input with
  | some rest => some (pastTimeOfDate rest)
  | none => pastTime input

end Batching.Toml
