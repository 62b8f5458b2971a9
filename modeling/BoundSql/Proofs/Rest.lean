import BoundSql.Bytes

/-! Characters among the bytes of a text. In a place where a character begins the text has a rest, and goes
on with the bytes of its first character. Such a byte is the code of the character, or it lies beyond ASCII
together with the character. -/
namespace BoundSql.Text

/-- Behind a number of bytes the text goes on with these characters. -/
def Rest (text : String) (place : Nat) (rest : List Char) : Prop :=
  ∃ ahead, text = ahead ++ String.ofList rest ∧ ahead.utf8ByteSize = place

theorem toNat_of_mem_utf8EncodeChar {c : Char} {byte : UInt8} (member : byte ∈ String.utf8EncodeChar c) :
    byte.toNat = c.toNat ∨ 128 ≤ byte.toNat ∧ 128 ≤ c.toNat := by
  have code : c.val.toNat = c.toNat := rfl
  simp only [String.utf8EncodeChar, code] at member
  by_cases ascii : c.toNat ≤ 0x7f
  · left
    rw [if_pos ascii, List.mem_singleton] at member
    rw [member, UInt8.toNat_ofNat']
    omega
  · right
    have marked {n : Nat} (low : 128 ≤ n) (high : n < 256) : 128 ≤ (UInt8.ofNat n).toNat := by
      rw [UInt8.toNat_ofNat']
      omega
    refine ⟨?_, by omega⟩
    rw [if_neg ascii] at member
    split at member
    · simp only [List.mem_cons, List.not_mem_nil, or_false] at member
      rcases member with rfl | rfl <;> exact marked (by omega) (by omega)
    · split at member <;> simp only [List.mem_cons, List.not_mem_nil, or_false] at member
      · rcases member with rfl | rfl | rfl <;> exact marked (by omega) (by omega)
      · rcases member with rfl | rfl | rfl | rfl <;> exact marked (by omega) (by omega)

namespace Rest

variable {text : String} {place : Nat} {c : Char} {rest : List Char}

theorem start (text : String) : Rest text 0 text.toList :=
  ⟨"", by simp, rfl⟩

theorem append {run : List Char} (here : Rest text place (run ++ rest)) :
    Rest text (place + (String.ofList run).utf8ByteSize) rest := by
  obtain ⟨ahead, parts, rfl⟩ := here
  refine ⟨ahead ++ String.ofList run, ?_, String.utf8ByteSize_append⟩
  rw [parts, String.ofList_append, String.append_assoc]

theorem tail (here : Rest text place (c :: rest)) : Rest text (place + c.utf8Size) rest := by
  have size : (String.ofList [c]).utf8ByteSize = c.utf8Size := by
    rw [← String.singleton_eq_ofList, String.utf8ByteSize_singleton]
  rw [← size]
  exact append here

theorem not_inside (here : Rest text place []) : ¬ place < text.toByteArray.size := by
  obtain ⟨ahead, rfl, rfl⟩ := here
  simp

theorem isValid (here : Rest text place rest) : String.Pos.Raw.IsValid text ⟨place⟩ := by
  obtain ⟨ahead, parts, rfl⟩ := here
  exact String.Pos.Raw.isValid_iff_exists_append.mpr ⟨ahead, _, parts, rfl⟩

/-- The next bytes are those of the first character. -/
theorem byte_mem (here : Rest text place (c :: rest)) {more : Nat} (inner : more < c.utf8Size) :
    ∃ inside : place + more < text.toByteArray.size,
      text.toByteArray[place + more] ∈ String.utf8EncodeChar c := by
  obtain ⟨ahead, rfl, rfl⟩ := here
  have parts : (ahead ++ String.ofList (c :: rest)).toByteArray =
      ahead.toByteArray ++ ((String.utf8EncodeChar c).toByteArray ++ rest.utf8Encode) := by
    rw [String.toByteArray_append, String.toByteArray_ofList, List.utf8Encode_cons,
      List.utf8Encode_singleton]
  have size : (String.utf8EncodeChar c).toByteArray.size = c.utf8Size := by simp
  have inside : ahead.utf8ByteSize + more < (ahead ++ String.ofList (c :: rest)).toByteArray.size := by
    rw [parts, ByteArray.size_append, ByteArray.size_append, String.size_toByteArray]
    omega
  refine ⟨inside, ?_⟩
  simp only [parts]
  rw [ByteArray.getElem_append_right (by simp), ByteArray.getElem_append_left (by simp [inner]),
    List.getElem_toByteArray]
  exact List.getElem_mem _

theorem first_mem (here : Rest text place (c :: rest)) :
    ∃ inside : place < text.toByteArray.size,
      text.toByteArray[place] ∈ String.utf8EncodeChar c :=
  here.byte_mem c.utf8Size_pos

/-- What stands between two places where characters begin can be cut out. -/
theorem slice?_eq {run : List Char} (here : Rest text place (run ++ rest)) :
    slice? text place (place + (String.ofList run).utf8ByteSize) = some (String.ofList run) := by
  have first := here.isValid
  have last := here.append.isValid
  rw [slice?, dif_pos ⟨first, last, Nat.le_add_right _ _⟩]
  obtain ⟨ahead, parts, rfl⟩ := here
  have front : (text.pos _ first).Splits ahead (String.ofList run ++ String.ofList rest) :=
    ⟨by rw [parts, String.ofList_append], rfl⟩
  have back : (text.pos _ last).Splits (ahead ++ String.ofList run) (String.ofList rest) :=
    ⟨by rw [parts, String.ofList_append, String.append_assoc],
      String.Pos.Raw.ext (by simp [String.utf8ByteSize_append])⟩
  obtain ⟨_, same⟩ := String.copy_slice_eq_iff_splits.mpr ⟨ahead, String.ofList rest, front, back⟩
  rw [same]

end Rest
end BoundSql.Text
