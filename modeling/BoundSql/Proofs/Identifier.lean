import BoundSql.Uuid
import Mathlib.Data.Nat.Digits.Defs

/-! Identifiers read back from their written form: hexadecimal digits spell their number again, and
hyphens are found where they were put in. -/
namespace BoundSql

namespace Text

theorem hexValue?_hexDigit {n : Nat} (small : n < 16) : hexValue? (hexDigit n) = some n := by
  have all : ∀ n < 16, hexValue? (hexDigit n) = some n := by decide
  exact all n small

theorem length_hexDigits (width n : Nat) : (hexDigits width n).length = width := by
  induction width with
  | zero => rfl
  | succ width ih => simp [hexDigits, ih]

/-- Behind a part that is read already, the digits add the end of their number. -/
theorem ofHexDigits?_hexDigits (width n read : Nat) :
    ofHexDigits? (hexDigits width n) read = some (16 ^ width * read + n % 16 ^ width) := by
  induction width generalizing read with
  | zero => simp [hexDigits, ofHexDigits?, Nat.mod_one]
  | succ width ih =>
    have digit : n / 16 ^ width % 16 < 16 := Nat.mod_lt _ (by decide)
    have split : n % 16 ^ (width + 1) = n % 16 ^ width + 16 ^ width * (n / 16 ^ width % 16) := by
      rw [Nat.pow_succ, Nat.mod_mul]
    simp only [hexDigits, ofHexDigits?, Nat.pow_eq, hexValue?_hexDigit digit, ih]
    rw [split, Nat.mul_add, Nat.pow_succ, Nat.mul_assoc]
    congr 1
    omega

end Text

namespace Uuid

open BoundSql.Text

theorem parseDigits?_hexDigits (u : Uuid) : parseDigits? (hexDigits 32 u.toNat) = some u := by
  have small : u.toNat < 16 ^ 32 := u.isLt
  rw [parseDigits?, if_pos (length_hexDigits ..), ofHexDigits?_hexDigits, Nat.mod_eq_of_lt small]
  simp

theorem groups_of_hyphenated {ds : List Char} (length : ds.length = 32) :
    (hyphenated ds).take 8 ++ ((hyphenated ds).drop 9).take 4 ++ ((hyphenated ds).drop 14).take 4 ++
      ((hyphenated ds).drop 19).take 4 ++ (hyphenated ds).drop 24 = ds := by
  have groups : ds = ds.take 8 ++ ((ds.drop 8).take 4 ++ ((ds.drop 12).take 4 ++
      ((ds.drop 16).take 4 ++ ds.drop 20))) := by
    have rest (n : Nat) : (ds.drop n).take 4 ++ ds.drop (n + 4) = ds.drop n := by
      rw [← List.drop_drop, List.take_append_drop]
    rw [rest 16, rest 12, rest 8, List.take_append_drop]
  refine Eq.trans ?_ groups.symm
  simp [hyphenated, List.drop_append, List.drop_take, length]

theorem length_hyphenated {ds : List Char} (length : ds.length = 32) :
    (hyphenated ds).length = 36 := by
  simp [hyphenated, length]

theorem parse?_text (u : Uuid) : parse? u.text = some u := by
  have length : (hexDigits 32 u.toNat).length = 32 := length_hexDigits ..
  have plain : parseDigits? u.text = none := by
    rw [parseDigits?, text, length_hyphenated length]
    rfl
  have hyphens : parseHyphenated? u.text = some u := by
    simp only [parseHyphenated?, text, groups_of_hyphenated length, if_true, parseDigits?_hexDigits]
  rw [parse?, plain, hyphens]
  rfl

end Uuid
end BoundSql
