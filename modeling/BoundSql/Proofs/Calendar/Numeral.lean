import BoundSql.Calendar
import Mathlib.Data.Nat.Digits.Defs

/-! Numbers at the front of a text. A number that is written in a fixed width is read back in that width,
and all the text behind it is left, whatever it begins with. -/
namespace BoundSql.Calendar

open BoundSql.Text

theorem length_padded {width n : Nat} (positive : 0 < width) (fits : n < 10 ^ width) :
    (padded width n).length = width := by
  have short : (digits n).length ≤ width := Nat.toDigits_length 10 n width positive fits
  rw [padded, List.length_append, List.length_replicate]
  omega

theorem padded_ne_nil (width n : Nat) : padded width n ≠ [] :=
  List.append_ne_nil_of_right_ne_nil _ (digits_ne_nil n)

section Digits

variable {c : Char} {run : List Char}

theorem range_of_isDigit (digit : c.isDigit = true) : 48 ≤ c.toNat ∧ c.toNat ≤ 57 := by
  simpa [Char.isDigit, UInt32.le_iff_toNat_le] using digit

theorem ofDigits_lt (numeric : ∀ c ∈ run, c.isDigit = true) : ofDigits run < 10 ^ run.length := by
  induction run with
  | nil => decide
  | cons c rest ih =>
    obtain ⟨digit, others⟩ := List.forall_mem_cons.mp numeric
    have small : ofDigits [c] ≤ 9 := by
      have range := range_of_isDigit digit
      simp [ofDigits, Nat.ofDigitChars]
      omega
    have behind := ih others
    have ahead := Nat.mul_le_mul_right (10 ^ rest.length) small
    rw [← List.singleton_append, ofDigits_append, Nat.pow_eq, List.length_append, List.length_singleton,
      Nat.pow_add]
    omega

end Digits

section Blanks

variable {c : Char}

theorem isBlank_of_isDigit (digit : c.isDigit = true) : isBlank c = false := by
  have range := range_of_isDigit digit
  simp [isBlank]
  omega

theorem skipBlanks_cons (visible : isBlank c = false) (rest : List Char) :
    skipBlanks (c :: rest) = c :: rest := by
  simp [skipBlanks, visible]

theorem skipBlanks_padded_append (width n : Nat) (rest : List Char) :
    skipBlanks (padded width n ++ rest) = padded width n ++ rest := by
  obtain ⟨c, others, shape⟩ := List.exists_cons_of_ne_nil (padded_ne_nil width n)
  have first : c ∈ padded width n := by simp [shape]
  have digit : c.isDigit = true := isDigit_of_mem_padded first
  rw [shape, List.cons_append, skipBlanks_cons (isBlank_of_isDigit digit)]

end Blanks

section Runs

variable {run rest : List Char}

theorem readNumber_append {most : Nat} (nonempty : run ≠ []) (numeric : ∀ c ∈ run, c.isDigit = true)
    (fits : run.length ≤ most)
    (stops : (rest.take (most - run.length)).takeWhile Char.isDigit = []) :
    readNumber most (run ++ rest) = some (ofDigits run, rest) := by
  have taken : ((run ++ rest).take most).takeWhile Char.isDigit = run := by
    rw [List.take_append, List.take_of_length_le fits, List.takeWhile_append_of_pos numeric, stops,
      List.append_nil]
  simp [readNumber, taken, nonempty]

theorem readNumber_padded {width n : Nat} (positive : 0 < width) (fits : n < 10 ^ width)
    (rest : List Char) : readNumber width (padded width n ++ rest) = some (n, rest) := by
  have length := length_padded positive fits
  rw [readNumber_append (padded_ne_nil width n) (fun _ => isDigit_of_mem_padded) length.le,
    ofDigits_padded]
  simp [length]

theorem readExactly_padded {width n : Nat} (positive : 0 < width) (fits : n < 10 ^ width)
    (rest : List Char) : readExactly width (padded width n ++ rest) = some (n, rest) := by
  have length := length_padded positive fits
  have taken : (padded width n ++ rest).take width = padded width n := by
    rw [List.take_append, length, List.take_of_length_le length.le]
    simp
  have left : (padded width n ++ rest).drop width = rest := by
    rw [List.drop_append, length, List.drop_of_length_le length.le]
    simp
  have numeric : (padded width n).all Char.isDigit = true :=
    List.all_eq_true.mpr fun _ => isDigit_of_mem_padded
  simp [readExactly, taken, left, length, numeric]

/-- The first nine digits behind a point are read as a fraction when no digit follows the run. -/
theorem readFraction_point (nonempty : run ≠ []) (numeric : ∀ c ∈ run, c.isDigit = true)
    (stops : rest.takeWhile Char.isDigit = []) :
    readFraction ('.' :: (run ++ rest)) =
      some (ofDigits (run.take 9) * 10 ^ (9 - (run.take 9).length), rest) := by
  have taken : (run ++ rest).takeWhile Char.isDigit = run := by
    rw [List.takeWhile_append_of_pos numeric, stops, List.append_nil]
  simp [readFraction, taken, nonempty]

end Runs

/-- What may stand behind a time without being read as a part of it. -/
def EndsTime (rest : List Char) : Prop := ∀ c ∈ rest.head?, c.isDigit = false ∧ c ≠ '.'

theorem EndsTime.takeWhile {rest : List Char} (ends : EndsTime rest) :
    rest.takeWhile Char.isDigit = [] := by
  cases rest with
  | nil => rfl
  | cons c others => simp [(ends c rfl).1]

/-- A fraction of three, six or nine digits is read back, and so is one that is not written. -/
theorem readFraction_fractionText {nanos : Nat} (small : nanos < nanosPerSecond) {rest : List Char}
    (ends : EndsTime rest) : readFraction (fractionText nanos ++ rest) = some (nanos, rest) := by
  have read {width n : Nat} (positive : 0 < width) (short : width ≤ 9) (fits : n < 10 ^ width) :
      readFraction ('.' :: padded width n ++ rest) = some (n * 10 ^ (9 - width), rest) := by
    have length := length_padded positive fits
    rw [List.cons_append, readFraction_point (padded_ne_nil width n)
      (fun _ => isDigit_of_mem_padded) ends.takeWhile, List.take_of_length_le (length.trans_le short),
      ofDigits_padded, length]
  unfold nanosPerSecond at small
  unfold fractionText
  split
  · next zero =>
    cases rest with
    | nil => simp [readFraction, zero]
    | cons c others =>
      obtain ⟨-, point⟩ := ends c rfl
      simp only [List.nil_append, zero]
      unfold readFraction
      split
      · next same => cases same; exact absurd rfl point
      · rfl
  · split
    · next millis =>
      rw [read (by decide) (by decide) (by omega)]
      congr 2; omega
    · split
      · next micros =>
        rw [read (by decide) (by decide) (by omega)]
        congr 2; omega
      · rw [read (by decide) (by decide) (by omega)]
        congr 2; omega

end BoundSql.Calendar
