import Batching.Text.Numeral

namespace Batching.Text

/-! The numerals that are read, and the blanks that may surround them.

`Numeral` says which texts stand for which number, by the decimal digits alone.  Reading agrees
with it on every text, however long: the value of all the digits is held against the limit, so
leading zeros do no harm and no digit is ever dropped.
-/

example : numeralLimit = 2 ^ 64 := rfl

/-- An optional plus sign and one or more decimal digits, whose value fits 64 bits. -/
inductive Numeral : List Char → Nat → Prop where
  | unsigned {digits : List Char} (nonempty : digits ≠ [])
      (decimal : ∀ c ∈ digits, c.isDigit = true)
      (fits : Nat.ofDigitChars 10 digits 0 < numeralLimit) :
      Numeral digits (Nat.ofDigitChars 10 digits 0)
  | signed {digits : List Char} (nonempty : digits ≠ [])
      (decimal : ∀ c ∈ digits, c.isDigit = true)
      (fits : Nat.ofDigitChars 10 digits 0 < numeralLimit) :
      Numeral ('+' :: digits) (Nat.ofDigitChars 10 digits 0)

/-- A numeral between blanks. -/
def PaddedNumeral (text : String) (value : Nat) : Prop :=
  ∃ before numeral after, text.toList = before ++ numeral ++ after ∧
    (∀ c ∈ before, isBlank c = true) ∧ (∀ c ∈ after, isBlank c = true) ∧ Numeral numeral value

variable {c : Char} {cs before core after : List Char} {start value : Nat} {text : String}

/-! ### Trimming -/

theorem trimEnd_append (blank : ∀ c ∈ after, isBlank c = true) :
    trimEnd (core ++ after) = trimEnd core := by
  have reversed : ∀ c ∈ after.reverse, isBlank c = true :=
    fun c member => blank c (List.mem_reverse.mp member)
  rw [trimEnd, List.reverse_append, List.dropWhile_append_of_pos reversed, trimEnd]

theorem trimEnd_of_solid (solid : ∀ c ∈ core, isBlank c = false) : trimEnd core = core := by
  cases reversed : core.reverse with
  | nil => rw [trimEnd, reversed, List.reverse_eq_nil_iff.mp reversed]; rfl
  | cons last others =>
      have member : last ∈ core := by
        apply List.mem_reverse.mp
        rw [reversed]
        exact List.mem_cons_self
      rw [trimEnd, reversed, List.dropWhile_cons_of_neg (by simp [solid last member]), ← reversed,
        List.reverse_reverse]

/-- Blanks around a text without any are all that trimming takes away. -/
theorem trim_append (early : ∀ c ∈ before, isBlank c = true)
    (late : ∀ c ∈ after, isBlank c = true) (solid : ∀ c ∈ core, isBlank c = false) :
    trim (before ++ core ++ after) = core := by
  rw [trim, List.append_assoc, List.dropWhile_append_of_pos early]
  cases core with
  | nil =>
      have blank : (after ++ []).dropWhile isBlank = [] := List.dropWhile_append_of_pos late
      rw [List.append_nil] at blank
      rw [List.nil_append, blank]
      rfl
  | cons first others =>
      have kept : isBlank first = false := solid first List.mem_cons_self
      rw [List.cons_append, List.dropWhile_cons_of_neg (by simp [kept]), ← List.cons_append,
        trimEnd_append late, trimEnd_of_solid solid]

theorem exists_trimEnd (cs : List Char) :
    ∃ after, cs = trimEnd cs ++ after ∧ ∀ c ∈ after, isBlank c = true := by
  refine ⟨(cs.reverse.takeWhile isBlank).reverse, ?_, fun c member => ?_⟩
  · rw [trimEnd, ← List.reverse_append, List.takeWhile_append_dropWhile, List.reverse_reverse]
  · exact List.all_eq_true.mp List.all_takeWhile c (List.mem_reverse.mp member)

/-- What trimming takes away are blanks. -/
theorem exists_trim (cs : List Char) :
    ∃ before after, cs = before ++ trim cs ++ after ∧ (∀ c ∈ before, isBlank c = true) ∧
      ∀ c ∈ after, isBlank c = true := by
  obtain ⟨after, rest, late⟩ := exists_trimEnd (cs.dropWhile isBlank)
  refine ⟨cs.takeWhile isBlank, after, ?_, List.all_eq_true.mp List.all_takeWhile, late⟩
  rw [trim, List.append_assoc, ← rest, List.takeWhile_append_dropWhile]

/-! ### Reading -/

theorem digit?_eq (c : Char) :
    digit? c = if c.isDigit = true then some (c.toNat - '0'.toNat) else none := rfl

theorem digitsFrom_eq_some_iff : digitsFrom start cs = some value ↔
    (∀ c ∈ cs, c.isDigit = true) ∧ Nat.ofDigitChars 10 cs start = value := by
  induction cs generalizing start with
  | nil => simp [digitsFrom]
  | cons c rest ih =>
      rw [digitsFrom, digit?_eq]
      cases digit : c.isDigit with
      | false => simp [digit]
      | true =>
          rw [if_pos rfl, ih, Nat.ofDigitChars_cons, Nat.mul_comm start]
          simp [digit]

theorem digits?_eq_some_iff : digits? cs = some value ↔
    cs ≠ [] ∧ (∀ c ∈ cs, c.isDigit = true) ∧ Nat.ofDigitChars 10 cs 0 = value := by
  cases cs with
  | nil => simp [digits?]
  | cons c rest =>
      rw [digits?, digitsFrom_eq_some_iff]
      · simp
      · simp

theorem Numeral.of_numeral? (read : numeral? cs = some value) : Numeral cs value := by
  simp only [numeral?] at read
  split at read
  · rename_i number digits
    obtain ⟨fits, rfl⟩ : number < numeralLimit ∧ number = value := by simpa using read
    split at digits
    · obtain ⟨nonempty, decimal, rfl⟩ := digits?_eq_some_iff.mp digits
      exact .signed nonempty decimal fits
    · obtain ⟨nonempty, decimal, rfl⟩ := digits?_eq_some_iff.mp digits
      exact .unsigned nonempty decimal fits
  · cases read

theorem Numeral.numeral?_eq (numeral : Numeral cs value) : numeral? cs = some value := by
  cases numeral with
  | signed nonempty decimal fits =>
      have read := digits?_eq_some_iff.mpr ⟨nonempty, decimal, rfl⟩
      simp only [numeral?, read]
      exact if_pos fits
  | unsigned nonempty decimal fits =>
      have read := digits?_eq_some_iff.mpr ⟨nonempty, decimal, rfl⟩
      -- a plus sign is no digit, so there is none to take off
      have plain (rest : List Char) (plus : cs = '+' :: rest) : False := by
        subst plus
        simp at decimal
      simp only [numeral?, read]
      exact if_pos fits

theorem isBlank_of_isDigit (digit : c.isDigit = true) : isBlank c = false := by
  have range : 48 ≤ c.toNat ∧ c.toNat ≤ 57 := by
    simpa [Char.isDigit, UInt32.le_iff_toNat_le] using digit
  simp [isBlank]
  omega

/-- A numeral has no blanks, so that there is one way to take those around it off. -/
theorem Numeral.solid (numeral : Numeral cs value) : ∀ c ∈ cs, isBlank c = false := by
  cases numeral with
  | unsigned _ decimal _ => exact fun c member => isBlank_of_isDigit (decimal c member)
  | signed _ decimal _ =>
      intro c member
      rcases List.mem_cons.mp member with rfl | digit
      · decide
      · exact isBlank_of_isDigit (decimal c digit)

/-- Reading takes exactly the numerals that blanks may surround, each for the number it stands
for. -/
theorem paddedNumeral?_eq_some_iff :
    paddedNumeral? text = some value ↔ PaddedNumeral text value := by
  constructor
  · intro read
    obtain ⟨before, after, split, early, late⟩ := exists_trim text.toList
    exact ⟨before, _, after, split, early, late, .of_numeral? read⟩
  · rintro ⟨before, core, after, split, early, late, numeral⟩
    rw [paddedNumeral?, split, trim_append early late numeral.solid, numeral.numeral?_eq]

theorem paddedNumeral?_eq_none_iff :
    paddedNumeral? text = none ↔ ∀ value, ¬ PaddedNumeral text value := by
  simp only [Option.eq_none_iff_forall_ne_some, ne_eq, paddedNumeral?_eq_some_iff]

/-- Every number that fits is read back from its decimal digits, whatever zeros lead them. -/
theorem numeral_toDigits (zeros : Nat) (fits : value < numeralLimit) :
    Numeral (List.replicate zeros '0' ++ Nat.toDigits 10 value) value := by
  have same :
      Nat.ofDigitChars 10 (List.replicate zeros '0' ++ Nat.toDigits 10 value) 0 = value := by
    rw [Nat.ofDigitChars_append, Nat.ofDigitChars_replicate_zero, Nat.mul_zero,
      Nat.ofDigitChars_ten_toDigits]
  have numeral : Numeral (List.replicate zeros '0' ++ Nat.toDigits 10 value)
      (Nat.ofDigitChars 10 (List.replicate zeros '0' ++ Nat.toDigits 10 value) 0) := by
    refine .unsigned (by simp) (fun c member => ?_) (same.symm ▸ fits)
    rcases List.mem_append.mp member with zero | digit
    · rw [List.eq_of_mem_replicate zero]
      rfl
    · exact Nat.isDigit_of_mem_toDigits (by decide) (by decide) digit
  rwa [same] at numeral

end Batching.Text
