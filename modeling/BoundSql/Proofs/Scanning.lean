import BoundSql.Proofs.Ordinals
import BoundSql.Proofs.Rest

/-! What the search in the bytes of a text finds. The induction is on the rest of the text from a place where
a character begins; inside a character the search passes over bytes that are neither a dollar sign nor a
digit, and where it cuts, a character begins on both sides. -/
namespace BoundSql

open Text

theorem unsigned?_of_digits {numeral : List Char} (numeric : ∀ c ∈ numeral, c.isDigit = true) :
    unsigned? ordinalLimit numeral = ordinal? numeral := by
  have unsigned : numeral.head? ≠ some '+' := by
    intro sign
    exact absurd (numeric '+' (List.mem_of_head? sign)) (by decide)
  have digits : numeral.all Char.isDigit = true := List.all_eq_true.mpr numeric
  rw [unsigned?, if_neg unsigned, natural?, digits, ordinal?]
  cases numeral <;> simp [Option.filter]

namespace Scan

section Bytes

variable {c : Char} {byte : UInt8}

theorem isDigit_eq_decide (c : Char) : c.isDigit = decide (48 ≤ c.toNat ∧ c.toNat ≤ 57) := by
  simp [Char.isDigit, UInt32.le_iff_toNat_le]

theorem isDigit_of_mem (member : byte ∈ String.utf8EncodeChar c) : isDigit byte = c.isDigit := by
  have code : isDigit byte = decide (48 ≤ byte.toNat ∧ byte.toNat ≤ 57) := by
    simp [isDigit, UInt8.le_iff_toNat_le]
  rw [code, isDigit_eq_decide, decide_eq_decide]
  rcases toNat_of_mem_utf8EncodeChar member with same | ⟨high, wide⟩ <;> omega

theorem eq_dollar_iff_of_mem (member : byte ∈ String.utf8EncodeChar c) :
    byte = dollar ↔ c = '$' := by
  rw [← UInt8.toNat_inj, ← Char.toNat_inj]
  show byte.toNat = 36 ↔ c.toNat = 36
  rcases toNat_of_mem_utf8EncodeChar member with same | ⟨high, wide⟩ <;> omega

theorem utf8Size_of_isDigit (digit : c.isDigit = true) : c.utf8Size = 1 := by
  rw [isDigit_eq_decide, decide_eq_true_eq] at digit
  rw [Char.utf8Size_eq_one_iff, UInt32.le_iff_toNat_le]
  exact digit.2.trans (by decide)

end Bytes

variable {text : String} {place : Nat} {c : Char} {rest numeral : List Char}

theorem utf8ByteSize_of_digits (numeric : ∀ c ∈ numeral, c.isDigit = true) :
    (String.ofList numeral).utf8ByteSize = numeral.length := by
  induction numeral with
  | nil => rfl
  | cons c others ih =>
    obtain ⟨digit, numeric⟩ := List.forall_mem_cons.mp numeric
    rw [String.ofList_cons, String.utf8ByteSize_append, String.utf8ByteSize_singleton,
      utf8Size_of_isDigit digit, ih numeric, List.length_cons, Nat.add_comm]

theorem digitsEnd_eq (here : Rest text place rest) :
    digitsEnd text.toByteArray place = place + (rest.takeWhile Char.isDigit).length := by
  induction rest generalizing place with
  | nil => rw [digitsEnd, dif_neg here.not_inside]; rfl
  | cons c rest ih =>
    obtain ⟨inside, member⟩ := here.first_mem
    rw [digitsEnd, dif_pos inside, isDigit_of_mem member]
    cases digit : c.isDigit with
    | false => simp [digit]
    | true =>
      have behind := here.tail
      rw [utf8Size_of_isDigit digit] at behind
      rw [if_pos rfl, ih behind, List.takeWhile_cons, if_pos digit, List.length_cons]
      omega

section Numeral

variable (digits : rest.takeWhile Char.isDigit = numeral)

include digits

theorem isDigit_of_takeWhile : ∀ c ∈ numeral, c.isDigit = true :=
  List.all_eq_true.mp (digits ▸ List.all_takeWhile)

theorem numeral_append_drop : numeral ++ rest.drop numeral.length = rest :=
  List.prefix_iff_eq_append.mp (digits ▸ List.takeWhile_prefix _)

theorem slice?_numeral (here : Rest text place rest) :
    slice? text place (place + numeral.length) = some (String.ofList numeral) := by
  rw [← numeral_append_drop digits] at here
  rw [← utf8ByteSize_of_digits (isDigit_of_takeWhile digits)]
  exact here.slice?_eq

theorem rest_behind_numeral (here : Rest text place rest) :
    Rest text (place + numeral.length) (rest.drop numeral.length) := by
  rw [← numeral_append_drop digits] at here
  have behind := here.append
  rwa [utf8ByteSize_of_digits (isDigit_of_takeWhile digits)] at behind

end Numeral

section Round

variable (found : List Nat)

theorem round_end (here : Rest text place []) : round text ⟨place, found⟩ = .over found := by
  simp only [round, dif_neg here.not_inside]

/-- The bytes of a character other than the dollar sign are passed over one by one. -/
theorem round_of_ne (here : Rest text place (c :: rest)) (other : c ≠ '$') {more : Nat}
    (inner : more < c.utf8Size) :
    round text ⟨place + more, found⟩ = .next ⟨place + (more + 1), found⟩ := by
  obtain ⟨inside, member⟩ := here.byte_mem inner
  have different := mt (eq_dollar_iff_of_mem member).mp other
  simp only [round, dif_pos inside, if_neg different, Nat.add_assoc]

/-- The round at a dollar sign takes in the digits behind it. -/
theorem round_dollar (here : Rest text place ('$' :: rest))
    (digits : rest.takeWhile Char.isDigit = numeral) :
    round text ⟨place, found⟩ =
      .next ⟨place + 1 + numeral.length, found ++ (ordinal? numeral).toList⟩ := by
  obtain ⟨inside, member⟩ := here.first_mem
  have same := (eq_dollar_iff_of_mem member).mpr rfl
  have behind : Rest text (place + 1) rest := here.tail
  have stop := digitsEnd_eq behind
  rw [digits] at stop
  simp only [round, dif_pos inside, if_pos same, stop]
  by_cases empty : numeral = []
  · simp [empty, ordinal?]
  · have longer : place + 1 < place + 1 + numeral.length :=
      Nat.lt_add_of_pos_right (List.length_pos_of_ne_nil empty)
    simp only [if_pos longer, slice?_numeral digits behind, String.toList_ofList,
      unsigned?_of_digits (isDigit_of_takeWhile digits)]

end Round

theorem run_of_next {s later : State} (more : round text s = .next later) :
    run text s = run text later := by
  rw [run]
  split <;> simp_all

theorem run_of_over {s : State} {found : List Nat} (last : round text s = .over found) :
    run text s = some found := by
  rw [run]
  split <;> simp_all

theorem run_past (found : List Nat) (here : Rest text place (c :: rest)) (other : c ≠ '$') :
    run text ⟨place, found⟩ = run text ⟨place + c.utf8Size, found⟩ := by
  have passed (more : Nat) (within : more ≤ c.utf8Size) :
      run text ⟨place, found⟩ = run text ⟨place + more, found⟩ := by
    induction more with
    | zero => rfl
    | succ more ih =>
      rw [ih (Nat.le_of_lt within), run_of_next (round_of_ne found here other within)]
  exact passed c.utf8Size (Nat.le_refl _)

/-- From where a character begins the search goes on to the end, and adds the ordinals of the rest. -/
theorem run_eq (found : List Nat) (here : Rest text place rest) :
    run text ⟨place, found⟩ = some (found ++ ordinals rest) := by
  fun_induction ordinals rest generalizing place found with
  | case1 => rw [run_of_over (round_end found here), List.append_nil]
  | @case2 rest numeral ih =>
    have behind : Rest text (place + 1) rest := here.tail
    rw [run_of_next (round_dollar found here rfl), ih _ (rest_behind_numeral rfl behind),
      List.append_assoc]
  | case3 c rest other ih => rw [run_past found here other, ih _ here.tail]

theorem references_eq (text : String) : references text = some (ordinals text.toList) :=
  run_eq [] (Rest.start text)

end Scan
end BoundSql
