import BoundSql.Proofs.Statement
import Mathlib.Data.List.Chain

/-! Digits directly behind a dollar sign or a slot, which alone could join a reference. The text that a
statement puts between what its caller gives keeps the parts apart, so that a digit stands behind
such a piece in the whole only where it does in one part. -/
namespace BoundSql

/-- Somewhere in the text a digit stands directly behind the character. -/
def DigitBehind (c : Char) (text : List Char) : Prop :=
  ∃ before digit after, text = before ++ c :: digit :: after ∧ digit.isDigit = true

theorem not_digitBehind_iff {c : Char} {text : List Char} :
    ¬ DigitBehind c text ↔ text.IsChain fun x y => x = c → y.isDigit = false := by
  rw [List.isChain_iff_forall_rel_of_append_cons_cons]
  constructor
  · intro free x y before after split same
    subst same
    by_contra digit
    exact free ⟨before, y, after, split, by simpa using digit⟩
  · rintro free ⟨before, y, after, split, digit⟩
    rw [free split rfl] at digit
    cases digit

instance (c : Char) (text : List Char) : Decidable (DigitBehind c text) :=
  decidable_of_iff (¬ text.IsChain fun x y => x = c → y.isDigit = false)
    (not_iff_comm.mp not_digitBehind_iff)

namespace Piece

def isDigit : Piece → Bool
  | literal c => c.isDigit
  | slot _ => false

def isDollar : Piece → Bool
  | literal c => c = '$'
  | slot _ => false

def isSlot : Piece → Bool
  | literal _ => false
  | slot _ => true

def source : Piece → Char
  | literal c => c
  | slot _ => '?'

/-- No digit stands directly behind a piece that opens a reference. -/
def Closed (opens : Piece → Bool) (pieces : List Piece) : Prop :=
  pieces.IsChain fun p next => opens p = true → next.isDigit = false

/-- Text that keeps its neighbours apart: it has no dollar sign and begins with no digit. -/
def Seam (text : String) : Prop :=
  '$' ∉ text.toList ∧ text.toList.head?.any (fun c => !c.isDigit) = true

instance (text : String) : Decidable (Seam text) := inferInstanceAs (Decidable (_ ∧ _))

/-- A clause follows on anything when it does not begin with a digit. -/
def Detached (clause : List Piece) : Prop := ∀ p ∈ clause.head?, p.isDigit = false

theorem source_fill {text : List Char} {args : List Value}
    (enough : text.count '?' ≤ args.length) : (fill text args).map source = text := by
  induction text generalizing args with
  | nil => rfl
  | cons c rest ih =>
    by_cases h : c = '?'
    · subst h
      rw [List.count_cons_self] at enough
      cases args with
      | nil => exact absurd enough (by simp)
      | cons v args =>
        have left : rest.count '?' ≤ args.length := by simpa using enough
        simp [fill, source, ih left]
    · rw [List.count_cons_of_ne h] at enough
      simp [fill, source, h, ih enough]

theorem literal_mem_fill {text : List Char} {args : List Value} {c : Char}
    (member : literal c ∈ fill text args) : c ≠ '?' := by
  induction text generalizing args with
  | nil => cases member
  | cons d rest ih =>
    by_cases h : d = '?'
    · cases args with
      | nil => exact ih (by simpa [fill, h] using member)
      | cons v args => exact ih (by simpa [fill, h] using member)
    · simp only [fill, if_neg h, List.mem_cons, literal.injEq] at member
      rcases member with rfl | member
      · exact h
      · exact ih member

theorem closed_template_iff {opens : Piece → Bool} {c : Char} {f : Fragment} (filled : f.Filled)
    (opening : ∀ p ∈ f.pieces, (opens p = true ↔ p.source = c)) :
    Closed opens f.pieces ↔ ¬ DigitBehind c f.text.toList := by
  have shown : f.pieces.map source = f.text.toList := source_fill (Nat.le_of_eq filled)
  rw [not_digitBehind_iff, ← shown, List.isChain_map]
  apply List.IsChain.iff_of_mem_imp
  intro p next here _
  have digit : next.isDigit = next.source.isDigit := by cases next <;> rfl
  rw [opening p here, digit]

theorem closed_isDollar_pieces {f : Fragment} (filled : f.Filled) :
    Closed isDollar f.pieces ↔ ¬ DigitBehind '$' f.text.toList := by
  apply closed_template_iff filled
  intro p _
  cases p <;> simp [isDollar, source]

theorem closed_isSlot_pieces {f : Fragment} (filled : f.Filled) :
    Closed isSlot f.pieces ↔ ¬ DigitBehind marker f.text.toList := by
  apply closed_template_iff filled
  intro p here
  cases p with
  | literal c => simp [isSlot, source, marker, literal_mem_fill here]
  | slot v => simp [isSlot, source, marker]

theorem closed_isDollar_literals {text : String} :
    Closed isDollar (literals text) ↔ ¬ DigitBehind '$' text.toList := by
  rw [not_digitBehind_iff, Closed, literals, List.isChain_map]
  simp [isDollar, isDigit]

theorem closed_of_forall {opens : Piece → Bool} {pieces : List Piece}
    (shut : ∀ p ∈ pieces, opens p = false) : Closed opens pieces := by
  apply List.isChain_iff_forall_rel_of_append_cons_cons.mpr
  intro p next before after split opening
  rw [shut p (by simp [split])] at opening
  cases opening

theorem closed_isSlot_literals (text : String) : Closed isSlot (literals text) := by
  apply closed_of_forall
  intro p here
  obtain ⟨c, -, rfl⟩ := List.mem_map.mp here
  rfl

section Composition

/-! Literal text opens a reference only by a dollar sign. -/
variable {opens : Piece → Bool} (dollar : ∀ c, opens (literal c) = true → c = '$')
include dollar

theorem closed_literals {text : String} (plain : '$' ∉ text.toList) :
    Closed opens (literals text) := by
  apply closed_of_forall
  intro p here
  obtain ⟨c, member, rfl⟩ := List.mem_map.mp here
  by_contra opening
  have same := dollar c (by simpa using opening)
  exact plain (same ▸ member)

omit dollar in
theorem closed_append_detached {before clause : List Piece} (detached : Detached clause) :
    Closed opens (before ++ clause) ↔ Closed opens before ∧ Closed opens clause := by
  rw [Closed, List.isChain_append]
  constructor
  · rintro ⟨left, right, -⟩; exact ⟨left, right⟩
  · rintro ⟨left, right⟩
    exact ⟨left, right, fun _ _ next first _ => detached next first⟩

omit dollar in
theorem detached_seam {text : String} (seam : Seam text) (after : List Piece) :
    Detached (literals text ++ after) := by
  have first := seam.2
  unfold literals
  cases split : text.toList with
  | nil => simp [split] at first
  | cons c rest =>
    intro p here
    simp only [List.map_cons, List.cons_append, List.head?_cons, Option.mem_some_iff] at here
    subst here
    simpa [split, isDigit] using first

theorem closed_seam_append {text : String} (seam : Seam text) (after : List Piece) :
    Closed opens (literals text ++ after) ↔ Closed opens after := by
  rw [Closed, List.isChain_append]
  constructor
  · rintro ⟨-, right, -⟩; exact right
  · intro right
    refine ⟨closed_literals dollar seam.1, right, ?_⟩
    intro p last next _ opening
    obtain ⟨c, member, rfl⟩ := List.mem_map.mp (List.mem_of_getLast? last)
    exact absurd (dollar c opening ▸ member) seam.1

/-- Between two parts a seam lets nothing through. -/
theorem closed_append_seam {text : String} (seam : Seam text) (before after : List Piece) :
    Closed opens (before ++ (literals text ++ after)) ↔
      Closed opens before ∧ Closed opens after := by
  rw [closed_append_detached (detached_seam seam after), closed_seam_append dollar seam]

theorem closed_append_end {text : String} (seam : Seam text) (before : List Piece) :
    Closed opens (before ++ literals text) ↔ Closed opens before := by
  simpa [Closed] using closed_append_seam dollar seam before []

theorem closed_separated {separator : String} (seam : Seam separator)
    (parts : List (List Piece)) :
    Closed opens (separated separator parts) ↔ ∀ part ∈ parts, Closed opens part := by
  induction parts with
  | nil => simp [separated, Closed]
  | cons part rest ih =>
    cases rest with
    | nil => simp [separated]
    | cons next rest =>
      rw [List.forall_mem_cons, ← ih, separated, List.intercalate_cons_cons, List.append_assoc]
      exact closed_append_seam dollar seam part (separated separator (next :: rest))

omit dollar in
/-- Of clauses that each follow on anything, the whole is closed when every one is. -/
theorem closed_flatten {clauses : List (List Piece)}
    (detached : ∀ clause ∈ clauses, Detached clause) :
    Closed opens clauses.flatten ↔ ∀ clause ∈ clauses, Closed opens clause := by
  suffices both : Detached clauses.flatten ∧
      (Closed opens clauses.flatten ↔ ∀ clause ∈ clauses, Closed opens clause) from both.2
  induction clauses with
  | nil => simp [Detached, Closed]
  | cons clause rest ih =>
    obtain ⟨here, others⟩ := List.forall_mem_cons.mp detached
    obtain ⟨tail, whole⟩ := ih others
    rw [List.flatten_cons, List.forall_mem_cons, closed_append_detached tail, whole]
    refine ⟨?_, Iff.rfl⟩
    cases clause with
    | nil => exact tail
    | cons p clause => exact here

theorem closed_projection (columns : List String) :
    Closed opens (projection columns) ↔ ∀ column ∈ columns, Closed opens (literals column) := by
  unfold projection
  split
  · next unnamed =>
    simp [List.isEmpty_iff.mp unnamed, closed_literals dollar (show '$' ∉ "*".toList by decide)]
  · rw [closed_separated dollar (by decide), List.forall_mem_map]

theorem closed_assignments (entries : List (String × Value)) :
    Closed opens (separated ", " (entries.map assignment)) ↔
      ∀ entry ∈ entries, Closed opens (literals entry.1) := by
  rw [closed_separated dollar (by decide), List.forall_mem_map]
  refine forall₂_congr fun entry _ => ?_
  rw [assignment, List.append_assoc, closed_append_seam dollar (by decide)]
  simp [Closed]

theorem closed_sorting (orders : List Order) :
    Closed opens (sorting orders) ↔ ∀ o ∈ orders, Closed opens (literals o.column) := by
  unfold sorting
  split
  · next unsorted => simp [List.isEmpty_iff.mp unsorted, Closed]
  · rw [closed_seam_append dollar (by decide), closed_separated dollar (by decide),
      List.forall_mem_map]
    refine forall₂_congr fun o _ => ?_
    rw [sortTerm]
    cases o.direction <;> exact closed_append_end dollar (by decide) _

theorem closed_condition (predicates : List Fragment) :
    Closed opens (condition predicates) ↔ ∀ f ∈ predicates, Closed opens f.pieces := by
  unfold condition conjuncts
  split
  · next unconditional => simp [List.isEmpty_iff.mp unconditional, Closed]
  · rw [closed_seam_append dollar (by decide), closed_separated dollar (by decide)]
    split
    · rw [List.forall_mem_map]
      refine forall₂_congr fun f _ => ?_
      rw [closed_seam_append dollar (by decide), closed_append_end dollar (by decide)]
    · rw [List.forall_mem_map]

theorem closed_counted {keyword : String} (seam : Seam keyword) (n : Option UInt64) :
    Closed opens (counted keyword n) := by
  cases n with
  | none => simp [counted, Closed]
  | some n =>
    rw [counted, closed_seam_append dollar seam]
    apply closed_literals dollar
    intro digit
    rw [Nat.repr, String.toList_ofList] at digit
    exact absurd (Text.isDigit_of_mem_digits digit) (by decide)

end Composition

theorem detached_condition (predicates : List Fragment) : Detached (condition predicates) := by
  unfold condition
  split
  · intro p absent; cases absent
  · exact detached_seam (by decide) _

theorem detached_sorting (orders : List Order) : Detached (sorting orders) := by
  unfold sorting
  split
  · intro p absent; cases absent
  · exact detached_seam (by decide) _

theorem detached_counted {keyword : String} (seam : Seam keyword) (n : Option UInt64) :
    Detached (counted keyword n) := by
  cases n with
  | none => simp [counted, Detached]
  | some n => exact detached_seam seam _

end Piece

open Piece

namespace Draft

def names (d : Draft) : List String :=
  match d.kind with
  | .select => d.columns ++ d.table :: d.ordering.map Order.column
  | .insert => d.table :: (Payload.written d.insertPayload).map Prod.fst
  | .update => d.table :: (Payload.written d.updatePayload).map Prod.fst
  | .delete => [d.table]

/-- All text of the statement that comes from its caller. -/
def callerTexts (d : Draft) : List String := d.names ++ d.templates.map Fragment.text

theorem detached_clauses (d : Draft) : ∀ clause ∈ d.clauses, Detached clause := by
  unfold clauses
  cases d.kind with
  | select =>
    simp only [List.forall_mem_cons]
    exact ⟨detached_seam (by decide) _, detached_seam (by decide) _, detached_condition _,
      detached_sorting _, detached_counted (by decide) _, detached_counted (by decide) _, by simp⟩
  | insert =>
    have closing := detached_seam (show Seam ")" by decide) []
    rw [List.append_nil] at closing
    simp only [List.forall_mem_cons]
    exact ⟨detached_seam (by decide) _, detached_seam (by decide) _, detached_seam (by decide) _,
      closing, by simp⟩
  | update =>
    simp only [List.forall_mem_cons]
    exact ⟨detached_seam (by decide) _, detached_seam (by decide) _, detached_condition _, by simp⟩
  | delete =>
    simp only [List.forall_mem_cons]
    exact ⟨detached_seam (by decide) _, detached_condition _, by simp⟩

/-- A statement is closed when the names and templates in it are. -/
theorem closed_pieces_iff {opens : Piece → Bool} (dollar : ∀ c, opens (literal c) = true → c = '$')
    (d : Draft) :
    Closed opens d.pieces ↔
      (∀ name ∈ d.names, Closed opens (literals name)) ∧
        ∀ f ∈ d.templates, Closed opens f.pieces := by
  rw [pieces, closed_flatten d.detached_clauses]
  unfold clauses names templates
  have brackets : Closed opens (literals ")") := closed_literals dollar (by decide)
  cases d.kind with
  | select =>
    have limit := closed_counted dollar (show Seam " LIMIT " by decide) d.limit
    have offset := closed_counted dollar (show Seam " OFFSET " by decide) d.offset
    simp only [List.forall_mem_cons, List.forall_mem_append, List.forall_mem_map,
      closed_seam_append dollar (show Seam "SELECT " by decide),
      closed_seam_append dollar (show Seam " FROM " by decide), closed_projection dollar,
      closed_condition dollar, closed_sorting dollar, limit, offset]
    constructor
    · rintro ⟨columns, table, conditions, orders, -⟩
      exact ⟨⟨columns, table, orders⟩, conditions⟩
    · rintro ⟨⟨columns, table, orders⟩, conditions⟩
      exact ⟨columns, table, conditions, orders, trivial, trivial, by simp⟩
  | insert =>
    simp only [List.forall_mem_cons, List.forall_mem_map,
      closed_seam_append dollar (show Seam "INSERT INTO " by decide),
      closed_seam_append dollar (show Seam " (" by decide),
      closed_seam_append dollar (show Seam ") VALUES (" by decide),
      closed_separated dollar (show Seam ", " by decide), brackets, Payload.written_eq]
    constructor
    · rintro ⟨table, columns, -⟩
      exact ⟨⟨table, columns⟩, by simp⟩
    · rintro ⟨⟨table, columns⟩, -⟩
      exact ⟨table, columns, fun entry _ => by simp [Closed], trivial, by simp⟩
  | update =>
    simp only [List.forall_mem_cons, List.forall_mem_map,
      closed_seam_append dollar (show Seam "UPDATE " by decide),
      closed_seam_append dollar (show Seam " SET " by decide), closed_assignments dollar,
      closed_condition dollar, Payload.written_eq]
    constructor
    · rintro ⟨table, columns, conditions, -⟩
      exact ⟨⟨table, columns⟩, conditions⟩
    · rintro ⟨⟨table, columns⟩, conditions⟩
      exact ⟨table, columns, conditions, by simp⟩
  | delete =>
    simp only [List.forall_mem_cons,
      closed_seam_append dollar (show Seam "DELETE FROM " by decide), closed_condition dollar]
    constructor
    · rintro ⟨table, conditions, -⟩
      exact ⟨⟨table, by simp⟩, conditions⟩
    · rintro ⟨⟨table, -⟩, conditions⟩
      exact ⟨table, conditions, by simp⟩

end Draft
end BoundSql
