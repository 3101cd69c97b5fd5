import Batching.Toml.Quoted
import Batching.Toml.Value

namespace Batching.Toml

/-! Numbers: whole ones of 64 bits with a sign, in four notations, and decimal ones. -/

def digitIn? (base : Nat) (c : Char) : Option Nat :=
  (hexDigit? c).filter (· < base)

/-- Reads the digits after a first one; an underscore may stand between two digits. -/
def readMoreDigits (base : Nat) : Reader (List Nat)
  | [] => some ([], [])
  | '_' :: c :: rest => do
      let digit ← digitIn? base c
      let (digits, rest) ← readMoreDigits base rest
      return (digit :: digits, rest)
  | c :: rest =>
      if c = '_' then none
      else
        match digitIn? base c with
        | none => some ([], c :: rest)
        | some digit => do
            let (digits, rest) ← readMoreDigits base rest
            return (digit :: digits, rest)

def readDigits (base : Nat) : Reader (List Nat)
  | [] => none
  | c :: rest => do
      let digit ← digitIn? base c
      let (digits, rest) ← readMoreDigits base rest
      return (digit :: digits, rest)

def readWhole : Reader (List Nat)
  | '0' :: rest => some ([0], rest)
  | input => readDigits 10 input

def ofDigits (base : Nat) (digits : List Nat) : Nat :=
  digits.foldl (fun value digit => value * base + digit) 0

def readSign : List Char → Bool × List Char
  | '-' :: rest => (true, rest)
  | '+' :: rest => (false, rest)
  | input => (false, input)

def signed (negative : Bool) (magnitude : Nat) : Int :=
  if negative then -(magnitude : Int) else magnitude

/-- The least magnitude that does not fit a positive whole number; a negative one can
have it. -/
def wholeLimit : Nat := 0x8000000000000000

def wholeOf (negative : Bool) (magnitude : Nat) : Option Value :=
  if magnitude < wholeLimit || (negative && magnitude = wholeLimit) then
    some (.integer (signed negative magnitude))
  else none

/-- The least magnitude that no decimal number of 64 bits comes near enough to. -/
def decimalLimit : Nat := Nat.pow 2 1024 - Nat.pow 2 970

/-- The digits with an exponent reach the limit.  By the count of the digits alone this
is decided unless it is close. -/
def reachesLimit (digits : List Nat) (exponent : Int) : Bool :=
  let significant := digits.dropWhile (· == 0)
  let size := (significant.length : Int) + exponent
  if significant.isEmpty || size < 300 then false
  else if 320 < size then true
  else if 0 ≤ exponent then
    decimalLimit ≤ ofDigits 10 significant * Nat.pow 10 exponent.toNat
  else decimalLimit * Nat.pow 10 (-exponent).toNat ≤ ofDigits 10 significant

def readFraction : Reader (List Nat)
  | '.' :: rest => readDigits 10 rest
  | input => some ([], input)

def readExponent : Reader Int
  | c :: rest =>
      if c = 'e' || c = 'E' then do
        let (negative, rest) := readSign rest
        let (digits, rest) ← readDigits 10 rest
        return (signed negative (ofDigits 10 digits), rest)
      else some (0, c :: rest)
  | [] => some (0, [])

def beginsDecimalPart : List Char → Bool
  | c :: _ => c == '.' || c == 'e' || c == 'E'
  | [] => false

/-- Reads a number in decimal notation after its sign.  A positive one that is too large
for a decimal number is refused; a negative one is not. -/
def readDecimal (negative : Bool) : Reader Value := fun input => do
  let (whole, rest) ← readWhole input
  if beginsDecimalPart rest then
    let (fraction, rest) ← readFraction rest
    let (exponent, rest) ← readExponent rest
    if !negative && reachesLimit (whole ++ fraction) (exponent - fraction.length) then none
    else return (.decimal, rest)
  else return (← wholeOf negative (ofDigits 10 whole), rest)

/-- Reads a whole number in the notation of another base, after the sign of that. -/
def readInBase (base : Nat) : Reader Value := fun input => do
  let (digits, rest) ← readDigits base input
  return (← wholeOf false (ofDigits base digits), rest)

def readNumber : Reader Value
  | '0' :: 'x' :: rest => readInBase 16 rest
  | '0' :: 'o' :: rest => readInBase 8 rest
  | '0' :: 'b' :: rest => readInBase 2 rest
  | input =>
      let (negative, rest) := readSign input
      match rest with
      | 'i' :: rest => do return (.decimal, ← pastWord ['n', 'f'] rest)
      | 'n' :: rest => do return (.decimal, ← pastWord ['a', 'n'] rest)
      | _ => readDecimal negative rest

end Batching.Toml
