namespace Batching.Text

/-! The text of a time span given in whole milliseconds.

From one second on it is written in seconds, below that in milliseconds, and a
span of no length is written `0ns`.  A fraction drops the zeros it ends with.
-/

/-- The decimal point and the thousandths after it; nothing for no thousandths. -/
def thousandths (ms : Nat) : String :=
  if ms = 0 then ""
  else
    let digits := (toString (1000 + ms)).toList.drop 1
    "." ++ String.ofList (digits.reverse.dropWhile (· == '0')).reverse

def span (ms : Nat) : String :=
  if ms = 0 then "0ns"
  else if ms < 1000 then toString ms ++ "ms"
  else toString (ms / 1000) ++ thousandths (ms % 1000) ++ "s"

end Batching.Text
