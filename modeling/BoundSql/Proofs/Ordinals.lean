import BoundSql.Proofs.Adjacency

/-! Reading the references of a statement back from its text. In text without references of its own each
slot is read once, as its number with the digits that stand directly behind it, and the readings are
`1, 2, …` exactly when there are no such digits. -/
namespace BoundSql

theorem ordinals_cons_of_ne {c : Char} (other : c ≠ '$') (rest : List Char) :
    ordinals (c :: rest) = ordinals rest := by
  rw [ordinals, if_neg other]

theorem ordinals_dollar (rest : List Char) :
    ordinals ('$' :: rest) =
      (ordinal? (rest.takeWhile Char.isDigit)).toList ++
        ordinals (rest.drop (rest.takeWhile Char.isDigit).length) := by
  rw [ordinals, if_pos rfl]

theorem ordinals_drop_digits (text : List Char) :
    ordinals (text.drop (text.takeWhile Char.isDigit).length) = ordinals text := by
  induction text with
  | nil => rfl
  | cons c rest ih =>
    cases digit : c.isDigit with
    | false => simp [digit]
    | true =>
      have other : c ≠ '$' := by rintro rfl; cases digit
      rw [ordinals_cons_of_ne other, List.takeWhile_cons, if_pos digit, List.length_cons,
        List.drop_succ_cons, ih]

theorem ordinals_cons_dollar (rest : List Char) :
    ordinals ('$' :: rest) = (ordinal? (rest.takeWhile Char.isDigit)).toList ++ ordinals rest := by
  rw [ordinals_dollar, ordinals_drop_digits]

theorem takeWhile_digits_append (n : Nat) (rest : List Char) :
    (Text.digits n ++ rest).takeWhile Char.isDigit =
      Text.digits n ++ rest.takeWhile Char.isDigit :=
  List.takeWhile_append_of_pos fun _ digit => Text.isDigit_of_mem_digits digit

theorem ordinals_placeholder_append (place : Nat) (rest : List Char) :
    ordinals (placeholder place ++ rest) =
      (ordinal? (Text.digits place ++ rest.takeWhile Char.isDigit)).toList ++ ordinals rest := by
  rw [placeholder, List.cons_append, ordinals_dollar, takeWhile_digits_append, List.length_append,
    List.drop_append, List.drop_of_length_le (Nat.le_add_right _ _), List.nil_append,
    Nat.add_sub_cancel_left, ordinals_drop_digits]

theorem ordinal?_digits {place : Nat} (held : place < ordinalLimit) :
    ordinal? (Text.digits place) = some place := by
  simp [ordinal?, Text.digits_ne_nil, held]

theorem ordinal?_eq_some {run : List Char} {n : Nat} (read : ordinal? run = some n) :
    Text.ofDigits run = n ∧ n < ordinalLimit := by
  unfold ordinal? at read
  split at read
  · cases read
  · split at read
    · next held => cases read; exact ⟨rfl, held⟩
    · cases read

/-- With digits behind it the number of a place reads as a larger one, if as any. -/
theorem lt_of_ordinal?_digits_append {place n : Nat} {run : List Char} (positive : 0 < place)
    (behind : run ≠ []) (read : ordinal? (Text.digits place ++ run) = some n) : place < n := by
  obtain ⟨value, -⟩ := ordinal?_eq_some read
  obtain ⟨c, rest, rfl⟩ := List.exists_cons_of_ne_nil behind
  have split : Text.ofDigits (Text.digits place ++ c :: rest) =
      place * 10 ^ (rest.length + 1) + Text.ofDigits (c :: rest) := by
    rw [Text.ofDigits_append, Nat.pow_eq, Text.ofDigits_digits, List.length_cons]
  have grows : place * 10 ≤ place * 10 ^ (rest.length + 1) := by
    rw [Nat.pow_succ']
    exact Nat.mul_le_mul_left _ (Nat.le_mul_of_pos_right _ (Nat.pow_pos (by decide)))
  omega

namespace Piece

/-- The digits that stand directly behind whatever comes before the pieces. -/
def leadingDigits : List Piece → List Char
  | literal c :: rest => if c.isDigit then c :: leadingDigits rest else []
  | _ => []

/-- What is read for each slot. -/
def readings : Nat → List Piece → List Nat
  | _, [] => []
  | used, literal _ :: rest => readings used rest
  | used, slot _ :: rest =>
    (ordinal? (Text.digits (used + 1) ++ leadingDigits rest)).toList ++ readings (used + 1) rest

theorem takeWhile_spell (used : Nat) (pieces : List Piece) :
    (spell used pieces).takeWhile Char.isDigit = leadingDigits pieces := by
  induction pieces with
  | nil => rfl
  | cons p rest ih =>
    cases p with
    | literal c =>
      rw [spell, List.takeWhile_cons, leadingDigits, ih]
    | slot v => rfl

theorem leadingDigits_eq_nil_iff {pieces : List Piece} :
    leadingDigits pieces = [] ↔ Detached pieces := by
  unfold Detached
  cases pieces with
  | nil => simp [leadingDigits]
  | cons p rest => cases p <;> simp [leadingDigits, isDigit]

theorem closed_cons {opens : Piece → Bool} {p : Piece} {rest : List Piece} :
    Closed opens (p :: rest) ↔ (opens p = true → Detached rest) ∧ Closed opens rest := by
  rw [Closed, List.isChain_cons, Detached]
  constructor
  · rintro ⟨first, others⟩
    exact ⟨fun opening next here => first next here opening, others⟩
  · rintro ⟨first, others⟩
    exact ⟨fun next here opening => first opening next here, others⟩

/-- The text of closed pieces has the references of its slots and no others. -/
theorem ordinals_spell {used : Nat} {pieces : List Piece} (closed : Closed isDollar pieces) :
    ordinals (spell used pieces) = readings used pieces := by
  induction pieces generalizing used with
  | nil => simp [spell, readings, ordinals]
  | cons p rest ih =>
    obtain ⟨first, others⟩ := closed_cons.mp closed
    cases p with
    | literal c =>
      rw [spell, readings, ← ih others]
      by_cases h : c = '$'
      · subst h
        have apart : leadingDigits rest = [] := leadingDigits_eq_nil_iff.mpr (first rfl)
        rw [ordinals_dollar, takeWhile_spell, apart]
        rfl
      · exact ordinals_cons_of_ne h _
    | slot v => rw [spell_slot, readings, ordinals_placeholder_append, takeWhile_spell, ih others]

theorem length_readings_le (used : Nat) (pieces : List Piece) :
    (readings used pieces).length ≤ (values pieces).length := by
  induction pieces generalizing used with
  | nil => exact Nat.le_refl 0
  | cons p rest ih =>
    cases p with
    | literal c => exact ih used
    | slot v =>
      have one (o : Option Nat) : o.toList.length ≤ 1 := by cases o <;> simp
      have := one (ordinal? (Text.digits (used + 1) ++ leadingDigits rest))
      have := ih (used + 1)
      simp only [readings, values, List.length_append, List.length_cons]
      omega

theorem lt_of_mem_readings {used n : Nat} {pieces : List Piece} (read : n ∈ readings used pieces) :
    n < ordinalLimit := by
  induction pieces generalizing used with
  | nil => cases read
  | cons p rest ih =>
    cases p with
    | literal c => exact ih read
    | slot v =>
      rcases List.mem_append.mp read with here | there
      · exact (ordinal?_eq_some (Option.mem_toList.mp here)).2
      · exact ih there

/-- The slots are read as their own numbers when no digit stands directly behind one. -/
theorem readings_eq_iff {used : Nat} {pieces : List Piece}
    (held : used + (values pieces).length < ordinalLimit) :
    readings used pieces = List.range' (used + 1) (values pieces).length ↔
      Closed isSlot pieces := by
  induction pieces generalizing used with
  | nil => simp [readings, values, Closed]
  | cons p rest ih =>
    rw [closed_cons]
    cases p with
    | literal c => simpa [readings, values, isSlot] using ih held
    | slot v =>
      rw [values, List.length_cons] at held
      have bound : used + 1 + (values rest).length < ordinalLimit := by omega
      rw [readings, values, List.length_cons, List.range'_succ, ← ih bound,
        ← leadingDigits_eq_nil_iff]
      constructor
      · intro same
        cases read : ordinal? (Text.digits (used + 1) ++ leadingDigits rest) with
        | none =>
          have short := length_readings_le (used + 1) rest
          rw [read] at same
          have := congrArg List.length same
          simp at this
          omega
        | some n =>
          rw [read] at same
          obtain ⟨rfl, others⟩ := List.cons.inj same
          refine ⟨fun _ => ?_, others⟩
          by_contra behind
          exact Nat.lt_irrefl _ (lt_of_ordinal?_digits_append (Nat.succ_pos used) behind read)
      · rintro ⟨apart, others⟩
        rw [apart rfl, List.append_nil, ordinal?_digits (by omega), others]
        rfl

theorem readings_eq_range'_iff {pieces : List Piece} :
    readings 0 pieces = List.range' 1 (values pieces).length ↔
      (values pieces).length < ordinalLimit ∧ Closed isSlot pieces := by
  constructor
  · intro same
    have held : (values pieces).length < ordinalLimit := by
      rcases Nat.eq_zero_or_pos (values pieces).length with empty | positive
      · rw [empty]; decide
      · have last : (values pieces).length ∈ readings 0 pieces := by
          rw [same, List.mem_range'_1]
          omega
        exact lt_of_mem_readings last
    exact ⟨held, (readings_eq_iff (by omega)).mp same⟩
  · rintro ⟨held, closed⟩
    exact (readings_eq_iff (by omega)).mpr closed

end Piece

open Piece

namespace Draft

theorem closed_isDollar_pieces_iff {d : Draft} (filled : ∀ f ∈ d.templates, f.Filled) :
    Closed isDollar d.pieces ↔ ∀ text ∈ d.callerTexts, ¬ DigitBehind '$' text.toList := by
  rw [d.closed_pieces_iff (by simp [isDollar]), callerTexts, List.forall_mem_append,
    List.forall_mem_map]
  refine and_congr (forall₂_congr fun name _ => closed_isDollar_literals) ?_
  exact forall₂_congr fun f member => closed_isDollar_pieces (filled f member)

theorem closed_isSlot_pieces_iff {d : Draft} (filled : ∀ f ∈ d.templates, f.Filled) :
    Closed isSlot d.pieces ↔ ∀ f ∈ d.templates, ¬ DigitBehind marker f.text.toList := by
  rw [d.closed_pieces_iff (by simp [isSlot])]
  constructor
  · rintro ⟨-, each⟩ f member
    exact (closed_isSlot_pieces (filled f member)).mp (each f member)
  · intro each
    exact ⟨fun name _ => closed_isSlot_literals name,
      fun f member => (closed_isSlot_pieces (filled f member)).mpr (each f member)⟩

end Draft

namespace Compiler

/-- Where no text of the caller has a reference of its own, the references in a query are `1, 2, …`, one
for each parameter, exactly when no template has a digit directly behind a marker and the numbers
stay below the limit, as they do for every list that fits into memory. -/
theorem ordinals_of_compiled_iff {d : Draft} {q : Query} (compiled : postgres d = .ok q)
    (plain : ∀ text ∈ d.callerTexts, ¬ DigitBehind '$' text.toList) :
    (ordinals q.sql.toList = List.range' 1 q.params.length ↔
      q.params.length < ordinalLimit ∧ ∀ f ∈ d.templates, ¬ DigitBehind marker f.text.toList) ∧
    (ordinals q.sql.toList = List.range' 1 q.params.length →
      q.placeholderCount = q.params.length) := by
  refine ⟨?_, fun same => by rw [Query.placeholderCount, same, List.length_range']⟩
  obtain ⟨-, filled, rfl⟩ := postgres_eq_ok_iff.mp compiled
  have whole : Closed isDollar d.pieces := (Draft.closed_isDollar_pieces_iff filled).mpr plain
  have text : ordinals d.spelled.sql.toList = readings 0 d.pieces := by
    rw [Draft.spelled, String.toList_ofList, ordinals_spell whole]
  rw [text, ← Draft.closed_isSlot_pieces_iff filled]
  exact readings_eq_range'_iff

theorem ordinals_of_select :
    let d := Draft.empty.applyAll [
      .table "t$", .select ["$", "2nd"], .whereRaw "a = $? OR ?::text" [.int 7, .null],
      .whereIn "b" [.text "$9", .text "?1"], .limit 10]
    let q : Query :=
      ⟨"SELECT $, 2nd FROM t$ WHERE (a = $$1 OR $2::text) AND (b IN ($3, $4)) LIMIT 10",
        [.int 7, .null, .text "$9", .text "?1"]⟩
    postgres d = .ok q ∧ (∀ text ∈ d.callerTexts, ¬ DigitBehind '$' text.toList) ∧
      (ordinals q.sql.toList = List.range' 1 q.params.length ↔
        q.params.length < ordinalLimit ∧ ∀ f ∈ d.templates, ¬ DigitBehind marker f.text.toList) ∧
      (ordinals q.sql.toList = List.range' 1 q.params.length →
        q.placeholderCount = q.params.length) :=
  ⟨rfl, by decide, ordinals_of_compiled_iff rfl (by decide)⟩

end Compiler
end BoundSql
