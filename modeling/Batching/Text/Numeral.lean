import Batching.Text.Blank

namespace Batching.Text

/-! Unsigned numerals of 64 bits: an optional plus sign and one or more decimal digits. -/

/-- The first number that no longer fits. -/
def numeralLimit : Nat := 0x10000000000000000

def digit? (c : Char) : Option Nat :=
  if '0' ≤ c && c ≤ '9' then some (c.toNat - '0'.toNat) else none

/-- Continues a number already read to `value` with the digits that follow it. -/
def digitsFrom : Nat → List Char → Option Nat
  | value, [] => some value
  | value, c :: rest =>
      match digit? c with
      | some d => digitsFrom (value * 10 + d) rest
      | none => none

def digits? : List Char → Option Nat
  | [] => none
  | cs => digitsFrom 0 cs

/-- A numeral below the limit; a sign other than one plus, a blank or a digit of
another script makes it none. -/
def numeral? (cs : List Char) : Option Nat :=
  let unsigned := match cs with
    | '+' :: rest => rest
    | _ => cs
  match digits? unsigned with
  | some value => if value < numeralLimit then some value else none
  | none => none

/-- A numeral that blanks may surround. -/
def paddedNumeral? (text : String) : Option Nat :=
  numeral? (trim text.toList)

end Batching.Text
