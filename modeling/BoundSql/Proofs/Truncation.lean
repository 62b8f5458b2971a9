import BoundSql.Log

/-! How much a log shows of a long statement. The search for a cut ends at a boundary between characters,
and at the last one that the limit allows, so what is shown is the longest front of whole characters that
fits. A character has four bytes at most, so no more than three bytes of the limit are left unused. -/
namespace BoundSql

namespace Text

/-- A front of a text, of whole characters, that fits into a number of bytes and than which no front that
fits is longer. -/
structure LongestFront (text : String) (most : Nat) (front : String) : Prop where
  isFront : ∃ rest, text = front ++ rest
  fits : front.utf8ByteSize ≤ most
  longest : ∀ {other rest}, text = other ++ rest → other.utf8ByteSize ≤ most →
    ∃ more, front = other ++ more

theorem isValid_of_front {text front rest : String} (parts : text = front ++ rest) :
    String.Pos.Raw.IsValid text ⟨front.utf8ByteSize⟩ :=
  String.Pos.Raw.isValid_iff_exists_append.mpr ⟨front, rest, parts, rfl⟩

theorem exists_more_of_le {front rest other rest' : String} (parts : front ++ rest = other ++ rest')
    (shorter : other.utf8ByteSize ≤ front.utf8ByteSize) : ∃ more, front = other ++ more := by
  have lists := congrArg String.toList parts
  rw [String.toList_append, String.toList_append] at lists
  rcases List.append_eq_append_iff.mp lists with ⟨more, longer, -⟩ | ⟨more, longer, -⟩
  · have extended : other = front ++ String.ofList more := by
      rw [← String.toList_inj, String.toList_append, String.toList_ofList, longer]
    have nothing : (String.ofList more).utf8ByteSize = 0 := by
      rw [extended, String.utf8ByteSize_append] at shorter
      omega
    rw [String.utf8ByteSize_eq_zero_iff.mp nothing, String.append_empty] at extended
    exact ⟨"", by rw [extended, String.append_empty]⟩
  · refine ⟨String.ofList more, ?_⟩
    rw [← String.toList_inj, String.toList_append, String.toList_ofList, longer]

/-- A front that is longest leaves no room for one more character. -/
theorem LongestFront.within_three {text front : String} {most : Nat}
    (longest : LongestFront text most front) (long : most < text.utf8ByteSize) :
    most ≤ front.utf8ByteSize + 3 := by
  obtain ⟨rest, parts⟩ := longest.isFront
  have fits := longest.fits
  cases characters : rest.toList with
  | nil =>
    have all : rest = "" := by rw [← String.toList_inj, characters]; rfl
    rw [parts, all, String.append_empty] at long
    omega
  | cons c others =>
    have next : text = (front ++ String.singleton c) ++ String.ofList others := by
      rw [parts, String.append_assoc, ← String.toList_inj]
      simp [characters]
    have size : (front ++ String.singleton c).utf8ByteSize = front.utf8ByteSize + c.utf8Size := by
      rw [String.utf8ByteSize_append, String.utf8ByteSize_singleton]
    have small := c.utf8Size_le_four
    have large := c.utf8Size_pos
    refine Nat.le_of_not_lt fun room => ?_
    obtain ⟨more, longer⟩ := longest.longest next (by omega)
    have sizes := congrArg String.utf8ByteSize longer
    rw [String.utf8ByteSize_append] at sizes
    omega

theorem lastBoundary_le (text : String) (bytes : Nat) : lastBoundary text bytes ≤ bytes := by
  induction bytes with
  | zero => exact Nat.le_refl 0
  | succ bytes ih =>
    rw [lastBoundary]
    split <;> omega

theorem le_lastBoundary {text : String} {place bytes : Nat}
    (boundary : String.Pos.Raw.IsValid text ⟨place⟩) (within : place ≤ bytes) :
    place ≤ lastBoundary text bytes := by
  induction bytes with
  | zero => exact within
  | succ bytes ih =>
    rw [lastBoundary]
    split
    · exact within
    · next inside =>
      have before : place ≠ bytes + 1 := by
        rintro rfl
        exact inside (String.Pos.Raw.isValid_eq_true_iff.mpr boundary)
      exact ih (by omega)

section Truncated

variable {text : String} {most : Nat}

/-- A cut divides the text at the boundary that the search finds. -/
theorem exists_truncated_append (long : most < text.utf8ByteSize) :
    ∃ rest, text = truncated text most ++ rest ∧
      (truncated text most).utf8ByteSize = lastBoundary text most := by
  rw [truncated, if_neg (by omega)]
  have splits := (text.pos ⟨lastBoundary text most⟩ (isValid_lastBoundary text most)).splits
  exact ⟨_, splits.eq_append, (congrArg String.Pos.Raw.byteIdx splits.offset_eq_rawEndPos).symm⟩

theorem longestFront_truncated (long : most < text.utf8ByteSize) :
    LongestFront text most (truncated text most) := by
  obtain ⟨rest, parts, size⟩ := exists_truncated_append long
  refine ⟨⟨rest, parts⟩, size ▸ lastBoundary_le text most, ?_⟩
  intro other rest' parts' fits
  have reached : other.utf8ByteSize ≤ lastBoundary text most :=
    le_lastBoundary (isValid_of_front parts') fits
  exact exists_more_of_le (parts ▸ parts') (size ▸ reached)

end Truncated

end Text

namespace Log.Config

/-- A statement is logged whole if there is no limit or its bytes are within it. A longer one is logged as
its longest front of whole characters within the limit, and three points. The front ends where the search
for a boundary ends. -/
theorem shown_statements_are_longest_fronts (c : Config) (sql : String) :
    (c.maxSqlLength = none → c.shownSql sql = sql) ∧
    ∀ most, c.maxSqlLength = some most →
      (sql.utf8ByteSize ≤ most → c.shownSql sql = sql) ∧
      (most < sql.utf8ByteSize → ∃ front, c.shownSql sql = front ++ "..." ∧
        Text.LongestFront sql most front ∧ most ≤ front.utf8ByteSize + 3 ∧
        front.utf8ByteSize = Text.lastBoundary sql most ∧
        String.Pos.Raw.IsValid sql ⟨Text.lastBoundary sql most⟩) := by
  constructor
  · intro unlimited
    rw [shownSql, unlimited]
  · intro most limited
    constructor
    · intro short
      simp only [shownSql, limited, if_pos short]
    · intro long
      have longest := Text.longestFront_truncated long
      obtain ⟨_, -, size⟩ := Text.exists_truncated_append long
      refine ⟨Text.truncated sql most, ?_, longest, longest.within_three long, size,
        Text.isValid_lastBoundary sql most⟩
      simp only [shownSql, limited, if_neg (Nat.not_le.mpr long)]

example : ({ maxSqlLength := some 2 } : Config).shownSql "aé" = "a..." := by decide +kernel

end Log.Config
end BoundSql
