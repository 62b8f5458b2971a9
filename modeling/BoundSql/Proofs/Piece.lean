import BoundSql.Compiler

/-! Text with slots: literal characters, and the places in which values stand. Spelling numbers the
slots from left to right, and a template becomes pieces by filling its markers. -/
namespace BoundSql

inductive Piece where
  | literal (c : Char)
  | slot (v : Value)

namespace Piece

def literals (text : String) : List Piece := text.toList.map literal

def values : List Piece → List Value
  | [] => []
  | literal _ :: rest => values rest
  | slot v :: rest => v :: values rest

/-- A slot is spelled as a reference to its place among all slots, `used` of which came before. -/
def spell : Nat → List Piece → List Char
  | _, [] => []
  | used, literal c :: rest => c :: spell used rest
  | used, slot _ :: rest => '$' :: (Nat.toDigits 10 (used + 1) ++ spell (used + 1) rest)

/-- Each part by itself, with numbers that run on from part to part. -/
def spellEach : Nat → List (List Piece) → List (List Char)
  | _, [] => []
  | used, part :: rest => spell used part :: spellEach (used + (values part).length) rest

/-- A template with its arguments in the places of its question marks. -/
def fill : List Char → List Value → List Piece
  | [], _ => []
  | c :: rest, args =>
    if c = '?' then
      match args with
      | [] => fill rest []
      | v :: args => slot v :: fill rest args
    else literal c :: fill rest args

def separated (separator : String) (parts : List (List Piece)) : List Piece :=
  (literals separator).intercalate parts

theorem spell_slot (used : Nat) (v : Value) (rest : List Piece) :
    spell used (slot v :: rest) = placeholder (used + 1) ++ spell (used + 1) rest := rfl

@[simp] theorem values_literals (text : String) : values (literals text) = [] := by
  unfold literals
  induction text.toList with
  | nil => rfl
  | cons c rest ih => exact ih

@[simp] theorem values_append (a b : List Piece) : values (a ++ b) = values a ++ values b := by
  induction a with
  | nil => rfl
  | cons p rest ih => cases p <;> simp [values, ih]

@[simp] theorem spell_literals (used : Nat) (text : String) :
    spell used (literals text) = text.toList := by
  unfold literals
  induction text.toList with
  | nil => rfl
  | cons c rest ih => simp [spell, ih]

@[simp] theorem spell_append (used : Nat) (a b : List Piece) :
    spell used (a ++ b) = spell used a ++ spell (used + (values a).length) b := by
  induction a generalizing used with
  | nil => rfl
  | cons p rest ih =>
    cases p with
    | literal c => simp [spell, values, ih]
    | slot v => simp [spell, values, ih, Nat.add_assoc, Nat.add_comm 1]

@[simp] theorem length_spellEach (used : Nat) (parts : List (List Piece)) :
    (spellEach used parts).length = parts.length := by
  induction parts generalizing used with
  | nil => rfl
  | cons part rest ih => simp [spellEach, ih]

theorem values_separated (separator : String) (parts : List (List Piece)) :
    values (separated separator parts) = parts.flatMap values := by
  unfold separated
  induction parts with
  | nil => rfl
  | cons part rest ih =>
    cases rest with
    | nil => simp
    | cons next rest => simp [ih]

@[simp] theorem spell_separated (used : Nat) (separator : String) (parts : List (List Piece)) :
    spell used (separated separator parts) =
      separator.toList.intercalate (spellEach used parts) := by
  unfold separated
  induction parts generalizing used with
  | nil => rfl
  | cons part rest ih =>
    cases rest with
    | nil => simp [spellEach]
    | cons next rest => simp [spellEach, ih]

theorem spellEach_literals {α : Type} (text : α → String) (used : Nat) (items : List α) :
    spellEach used (items.map fun item => literals (text item)) =
      items.map fun item => (text item).toList := by
  induction items generalizing used with
  | nil => rfl
  | cons item rest ih => simp [spellEach, ih]

theorem spellEach_around (opening closing : String) (used : Nat) (parts : List (List Piece)) :
    spellEach used (parts.map fun part => literals opening ++ (part ++ literals closing)) =
      (spellEach used parts).map fun text => opening.toList ++ (text ++ closing.toList) := by
  induction parts generalizing used with
  | nil => rfl
  | cons part rest ih => simp [spellEach, ih]

theorem spell_fill {text : List Char} {args : List Value} (used : Nat)
    (enough : text.count '?' ≤ args.length) :
    spell used (fill text args) = numbered used text := by
  induction text generalizing used args with
  | nil => rfl
  | cons c rest ih =>
    by_cases h : c = '?'
    · subst h
      rw [List.count_cons_self] at enough
      cases args with
      | nil => exact absurd enough (by simp)
      | cons v args =>
        have left : rest.count '?' ≤ args.length := by simpa using enough
        simp [fill, numbered, marker, spell_slot, ih _ left]
    · rw [List.count_cons_of_ne h] at enough
      simp [fill, numbered, marker, spell, h, ih _ enough]

theorem values_fill {text : List Char} {args : List Value}
    (filled : text.count '?' = args.length) : values (fill text args) = args := by
  induction text generalizing args with
  | nil => exact (List.eq_nil_of_length_eq_zero filled.symm).symm
  | cons c rest ih =>
    by_cases h : c = '?'
    · subst h
      rw [List.count_cons_self] at filled
      cases args with
      | nil => exact absurd filled (by simp)
      | cons v args =>
        have left : rest.count '?' = args.length := by simpa using filled
        simp [fill, values, ih left]
    · rw [List.count_cons_of_ne h] at filled
      simpa [fill, values, h] using ih filled

end Piece
end BoundSql
