import BoundSql.Proofs.Scanning

/-! The references of a text. The search finds the maximal runs of digits behind dollar signs, and so does a
reader that goes from one dollar sign to the next. Two texts may be searched apart unless a run of digits
lies across the cut between them. -/
namespace BoundSql

def BeginsWithDigit (text : List Char) : Prop := ∃ c ∈ text.head?, c.isDigit = true

/-- The text ends in a dollar sign with nothing but digits behind it. -/
def LeavesOpen (text : List Char) : Prop :=
  ∃ ahead numeral, text = ahead ++ '$' :: numeral ∧ ∀ c ∈ numeral, c.isDigit = true

/-- A dollar sign behind a number of characters, and the digits that follow it: all of them, and at least
one. -/
structure Reference (text : List Char) (place : Nat) (numeral : List Char) : Prop where
  nonempty : numeral ≠ []
  numeric : ∀ c ∈ numeral, c.isDigit = true
  maximal : ∃ ahead behind, text = ahead ++ '$' :: (numeral ++ behind) ∧ ahead.length = place ∧
    ¬ BeginsWithDigit behind

/-- The references of a text from left to right, with their places. -/
structure Listed (text : List Char) (all : List (Nat × List Char)) : Prop where
  ordered : all.Pairwise fun first second => first.1 < second.1
  mem_iff : ∀ place numeral, (place, numeral) ∈ all ↔ Reference text place numeral

/-- A reader that finds the next dollar sign, takes the digits behind it, and goes on behind the sign. -/
def ordinalsByDollar (text : List Char) : List Nat :=
  match _ : text.findIdx? (· = '$') with
  | none => []
  | some place =>
    let behind := text.drop (place + 1)
    (Text.unsigned? ordinalLimit (behind.takeWhile Char.isDigit)).toList ++ ordinalsByDollar behind
termination_by text.length
decreasing_by
  have inside := (List.findIdx?_eq_some_iff_getElem.mp ‹_›).1
  rw [List.length_drop]
  omega

theorem takeWhile_of_not_begins {text : List Char} (stops : ¬ BeginsWithDigit text) :
    text.takeWhile Char.isDigit = [] := by
  cases text with
  | nil => rfl
  | cons c rest =>
    have other : ¬ c.isDigit = true := fun digit => stops ⟨c, rfl, digit⟩
    rw [List.takeWhile_cons, if_neg other]

theorem not_begins_dropWhile (text : List Char) : ¬ BeginsWithDigit (text.dropWhile Char.isDigit) := by
  rintro ⟨c, first, digit⟩
  have other := List.head?_dropWhile_not Char.isDigit text
  rw [Option.mem_def.mp first] at other
  exact Bool.noConfusion (digit.symm.trans other)

namespace Reference

theorem cons_iff {c : Char} {rest numeral : List Char} {place : Nat} :
    Reference (c :: rest) place numeral ↔
      (place = 0 ∧ c = '$' ∧ numeral ≠ [] ∧ rest.takeWhile Char.isDigit = numeral) ∨
        ∃ later, place = later + 1 ∧ Reference rest later numeral := by
  constructor
  · rintro ⟨nonempty, numeric, ahead, behind, parts, length, stops⟩
    cases ahead with
    | nil =>
      obtain ⟨rfl, rfl⟩ := List.cons.inj parts
      refine .inl ⟨length.symm, rfl, nonempty, ?_⟩
      rw [List.takeWhile_append_of_pos numeric, takeWhile_of_not_begins stops, List.append_nil]
    | cons d ahead =>
      obtain ⟨rfl, others⟩ := List.cons.inj parts
      exact .inr ⟨ahead.length, length.symm, nonempty, numeric, ahead, behind, others, rfl, stops⟩
  · rintro (⟨rfl, rfl, nonempty, digits⟩ | ⟨later, rfl, nonempty, numeric, ahead, behind, rfl, rfl, stops⟩)
    · refine ⟨nonempty, Scan.isDigit_of_takeWhile digits, [], rest.dropWhile Char.isDigit, ?_, rfl,
        not_begins_dropWhile rest⟩
      rw [← digits, List.takeWhile_append_dropWhile, List.nil_append]
    · exact ⟨nonempty, numeric, c :: ahead, behind, rfl, rfl, stops⟩

def moved (all : List (Nat × List Char)) : List (Nat × List Char) :=
  all.map fun r => (r.1 + 1, r.2)

def values (all : List (Nat × List Char)) : List Nat :=
  (all.map fun r => Text.ofDigits r.2).filter (· < UInt64.size)

theorem values_moved (all : List (Nat × List Char)) : values (moved all) = values all := by
  simp [values, moved, Function.comp_def]

theorem values_cons (place : Nat) {numeral : List Char} (nonempty : numeral ≠ [])
    (all : List (Nat × List Char)) :
    values ((place, numeral) :: all) = (ordinal? numeral).toList ++ values all := by
  have limit : ordinalLimit = UInt64.size := rfl
  simp only [values, ordinal?, List.isEmpty_iff, if_neg nonempty, limit, List.map_cons,
    List.filter_cons, decide_eq_true_eq]
  split <;> rfl

end Reference

open Reference

namespace Listed

variable {c : Char} {rest : List Char} {all : List (Nat × List Char)}

theorem pairwise_moved (listed : Listed rest all) :
    (moved all).Pairwise fun first second => first.1 < second.1 := by
  rw [moved, List.pairwise_map]
  exact listed.ordered.imp Nat.succ_lt_succ

theorem mem_moved_iff (listed : Listed rest all) {place : Nat} {numeral : List Char} :
    (place, numeral) ∈ moved all ↔ ∃ later, place = later + 1 ∧ Reference rest later numeral := by
  simp only [← listed.mem_iff, moved, List.mem_map, Prod.mk.injEq, Prod.exists]
  constructor
  · rintro ⟨later, _, member, rfl, rfl⟩
    exact ⟨later, rfl, member⟩
  · rintro ⟨later, rfl, member⟩
    exact ⟨later, numeral, member, rfl, rfl⟩

theorem cons_of_unnumbered (listed : Listed rest all)
    (unnumbered : c = '$' → rest.takeWhile Char.isDigit = []) :
    Listed (c :: rest) (moved all) := by
  refine ⟨listed.pairwise_moved, fun place numeral => ?_⟩
  rw [listed.mem_moved_iff, Reference.cons_iff]
  constructor
  · exact .inr
  · rintro (⟨-, same, nonempty, digits⟩ | later)
    · exact absurd (digits ▸ unnumbered same) nonempty
    · exact later

theorem cons_dollar (listed : Listed rest all) (nonempty : rest.takeWhile Char.isDigit ≠ []) :
    Listed ('$' :: rest) ((0, rest.takeWhile Char.isDigit) :: moved all) := by
  refine ⟨List.pairwise_cons.mpr ⟨?_, listed.pairwise_moved⟩, fun place numeral => ?_⟩
  · rintro ⟨place, numeral⟩ member
    obtain ⟨later, rfl, -⟩ := listed.mem_moved_iff.mp member
    exact Nat.succ_pos later
  · rw [List.mem_cons, listed.mem_moved_iff, Reference.cons_iff, Prod.mk.injEq]
    refine or_congr_left ⟨?_, ?_⟩
    · rintro ⟨rfl, rfl⟩
      exact ⟨rfl, rfl, nonempty, rfl⟩
    · rintro ⟨rfl, -, -, digits⟩
      exact ⟨rfl, digits.symm⟩

end Listed

/-- The ordinals of a text are the values of its references. -/
theorem exists_listed (text : List Char) : ∃ all, Listed text all ∧ ordinals text = values all := by
  induction text with
  | nil =>
    refine ⟨[], ⟨.nil, fun place numeral => ⟨by simp, fun here => ?_⟩⟩, by simp [ordinals, values]⟩
    obtain ⟨ahead, behind, parts, -⟩ := here.maximal
    simp at parts
  | cons c rest ih =>
    obtain ⟨all, listed, read⟩ := ih
    by_cases same : c = '$'
    · subst same
      by_cases digits : rest.takeWhile Char.isDigit = []
      · refine ⟨moved all, listed.cons_of_unnumbered fun _ => digits, ?_⟩
        rw [ordinals_cons_dollar, digits, values_moved, read]
        rfl
      · refine ⟨_, listed.cons_dollar digits, ?_⟩
        rw [ordinals_cons_dollar, values_cons 0 digits, values_moved, read]
    · refine ⟨moved all, listed.cons_of_unnumbered fun dollar => absurd dollar same, ?_⟩
      rw [ordinals_cons_of_ne same, values_moved, read]

section ByDollar

variable {text : List Char}

theorem ordinalsByDollar_of_absent (absent : text.findIdx? (· = '$') = none) :
    ordinalsByDollar text = [] := by
  rw [ordinalsByDollar]
  split
  · rfl
  · next found => cases absent.symm.trans found

theorem ordinalsByDollar_of_found {place : Nat} (found : text.findIdx? (· = '$') = some place) :
    ordinalsByDollar text =
      (ordinal? ((text.drop (place + 1)).takeWhile Char.isDigit)).toList ++
        ordinalsByDollar (text.drop (place + 1)) := by
  rw [ordinalsByDollar]
  split
  · next absent => cases absent.symm.trans found
  · next found' =>
    cases found.symm.trans found'
    simp only [unsigned?_of_digits (Scan.isDigit_of_takeWhile rfl)]

theorem ordinalsByDollar_cons_of_ne {c : Char} (other : c ≠ '$') (rest : List Char) :
    ordinalsByDollar (c :: rest) = ordinalsByDollar rest := by
  cases here : rest.findIdx? (· = '$') with
  | none =>
    have absent : (c :: rest).findIdx? (· = '$') = none := by
      simp [List.findIdx?_cons, other, here]
    rw [ordinalsByDollar_of_absent here, ordinalsByDollar_of_absent absent]
  | some place =>
    have found : (c :: rest).findIdx? (· = '$') = some (place + 1) := by
      simp [List.findIdx?_cons, other, here]
    rw [ordinalsByDollar_of_found here, ordinalsByDollar_of_found found, List.drop_succ_cons]

theorem ordinalsByDollar_cons_dollar (rest : List Char) :
    ordinalsByDollar ('$' :: rest) =
      (ordinal? (rest.takeWhile Char.isDigit)).toList ++ ordinalsByDollar rest := by
  have found : ('$' :: rest).findIdx? (· = '$') = some 0 := by simp [List.findIdx?_cons]
  rw [ordinalsByDollar_of_found found, List.drop_succ_cons, List.drop_zero]

theorem ordinalsByDollar_eq (text : List Char) : ordinalsByDollar text = ordinals text := by
  induction text with
  | nil => rw [ordinalsByDollar_of_absent rfl, ordinals]
  | cons c rest ih =>
    by_cases same : c = '$'
    · rw [same, ordinalsByDollar_cons_dollar, ordinals_cons_dollar, ih]
    · rw [ordinalsByDollar_cons_of_ne same, ordinals_cons_of_ne same, ih]

end ByDollar

section Append

variable {ahead behind : List Char}

theorem LeavesOpen.cons (c : Char) : LeavesOpen ahead → LeavesOpen (c :: ahead) := by
  rintro ⟨front, numeral, rfl, numeric⟩
  exact ⟨c :: front, numeral, rfl, numeric⟩

/-- The digits behind a dollar sign do not go on in another text that is kept apart. -/
theorem takeWhile_append_of_apart
    (apart : ¬ (LeavesOpen ('$' :: ahead) ∧ BeginsWithDigit behind)) :
    (ahead ++ behind).takeWhile Char.isDigit = ahead.takeWhile Char.isDigit := by
  rw [List.takeWhile_append]
  split
  · next whole =>
    have all : ahead.takeWhile Char.isDigit = ahead :=
      (List.takeWhile_prefix _).eq_of_length whole
    have opens : LeavesOpen ('$' :: ahead) := ⟨[], ahead, rfl, Scan.isDigit_of_takeWhile all⟩
    rw [takeWhile_of_not_begins fun begins => apart ⟨opens, begins⟩, List.append_nil, all]
  · rfl

theorem ordinals_append (apart : ¬ (LeavesOpen ahead ∧ BeginsWithDigit behind)) :
    ordinals (ahead ++ behind) = ordinals ahead ++ ordinals behind := by
  induction ahead with
  | nil => simp [ordinals]
  | cons c rest ih =>
    have others := ih fun both => apart ⟨both.1.cons c, both.2⟩
    rw [List.cons_append]
    by_cases same : c = '$'
    · subst same
      rw [ordinals_cons_dollar, ordinals_cons_dollar, takeWhile_append_of_apart apart, others,
        List.append_assoc]
    · rw [ordinals_cons_of_ne same, ordinals_cons_of_ne same, others]

end Append

namespace Scan

/-- The search goes forward in every round, and it tears no character. In every text it finds the values of
the references in their order, as far as they fit into 64 bits, and so does the reader that goes from one
dollar sign to the next. In two texts that follow one another it finds what it finds in each of them, unless
the first leaves a reference open and the second begins with a digit. -/
theorem references_are_maximal_runs (text : String) :
    (∀ s later, round text s = .next later →
      s.place < later.place ∧ later.place ≤ text.utf8ByteSize) ∧
    (∃ all, Listed text.toList all ∧
      references text = some ((all.map fun r => Text.ofDigits r.2).filter (· < UInt64.size))) ∧
    references text = some (ordinals text.toList) ∧
    references text = some (ordinalsByDollar text.toList) ∧
    ∀ more : String, ¬ (LeavesOpen text.toList ∧ BeginsWithDigit more.toList) →
      ∃ first second, references text = some first ∧ references more = some second ∧
        references (text ++ more) = some (first ++ second) := by
  obtain ⟨all, listed, read⟩ := exists_listed text.toList
  refine ⟨fun _ _ => round_advances, ⟨all, listed, ?_⟩, references_eq text, ?_, ?_⟩
  · rw [references_eq, read, values]
  · rw [references_eq, ordinalsByDollar_eq]
  · intro more apart
    refine ⟨_, _, references_eq text, references_eq more, ?_⟩
    rw [references_eq, String.toList_append, ordinals_append apart]

theorem references_of_neighbours :
    let text := "é$$007$18446744073709551616$"
    let more := "x$12"
    ¬ (LeavesOpen text.toList ∧ BeginsWithDigit more.toList) ∧ references text = some [7] ∧
      references more = some [12] ∧ references (text ++ more) = some [7, 12] := by
  intro text more
  have apart : ¬ (LeavesOpen text.toList ∧ BeginsWithDigit more.toList) := by
    rintro ⟨-, c, first, digit⟩
    have letter : more.toList.head? = some 'x' := by decide
    cases letter.symm.trans first
    cases digit
  have ahead : references text = some [7] := by decide +kernel
  have behind : references more = some [12] := by decide +kernel
  obtain ⟨-, -, -, -, joined⟩ := references_are_maximal_runs text
  obtain ⟨first, second, same, same', both⟩ := joined more apart
  cases ahead.symm.trans same
  cases behind.symm.trans same'
  exact ⟨apart, ahead, behind, both⟩

end Scan
end BoundSql
