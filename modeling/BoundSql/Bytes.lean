/-! Bytes: big-endian words, in which the most significant byte comes first, and text in UTF-8. A number of
bytes from the front of a text is a boundary when no character lies across it. A cut looks for one
backwards, and a part between two places is there only if both are boundaries. -/
namespace BoundSql

abbrev Bytes := List UInt8

namespace Bytes

/-- The last `width` bytes of a number. -/
def bigEndian : Nat → Nat → Bytes
  | 0, _ => []
  | width + 1, n => UInt8.ofNat (n / Nat.pow 256 width) :: bigEndian width n

def toNat (bytes : Bytes) : Nat := bytes.foldl (fun n b => 256 * n + b.toNat) 0

/-- A signed number in two's complement, as the residue modulo `256 ^ width`. -/
def twosComplement (width : Nat) (n : Int) : Bytes := bigEndian width (n % Nat.pow 256 width).toNat

def toInt (bytes : Bytes) : Int := Int.bmod bytes.toNat (Nat.pow 256 bytes.length)

@[simp] theorem length_bigEndian (width n : Nat) : (bigEndian width n).length = width := by
  induction width with
  | zero => rfl
  | succ width ih => simp [bigEndian, ih]

@[simp] theorem length_twosComplement (width : Nat) (n : Int) :
    (twosComplement width n).length = width := by
  simp [twosComplement]

end Bytes

namespace Text

def utf8 (text : List Char) : Bytes := text.flatMap String.utf8EncodeChar

/-- The text that bytes spell, if they are well formed. -/
def ofUtf8? (bytes : Bytes) : Option (List Char) :=
  (String.fromUTF8? ⟨bytes.toArray⟩).map String.toList

/-- The first boundary on the way back from a number of bytes. -/
def lastBoundary (text : String) : Nat → Nat
  | 0 => 0
  | bytes + 1 =>
    if String.Pos.Raw.isValid text ⟨bytes + 1⟩ then bytes + 1 else lastBoundary text bytes

theorem isValid_lastBoundary (text : String) (bytes : Nat) :
    String.Pos.Raw.IsValid text ⟨lastBoundary text bytes⟩ := by
  induction bytes with
  | zero => exact String.Pos.Raw.isValid_zero
  | succ bytes ih =>
    rw [lastBoundary]
    split
    · next here => exact String.Pos.Raw.isValid_eq_true_iff.mp here
    · exact ih

/-- The text up to the last boundary that a number of bytes reaches. -/
def truncated (text : String) (most : Nat) : String :=
  if text.utf8ByteSize ≤ most then text
  else (text.sliceTo (text.pos ⟨lastBoundary text most⟩ (isValid_lastBoundary text most))).copy

def slice? (text : String) (start stop : Nat) : Option String :=
  if h : String.Pos.Raw.IsValid text ⟨start⟩ ∧ String.Pos.Raw.IsValid text ⟨stop⟩ ∧ start ≤ stop then
    some (text.slice (text.pos ⟨start⟩ h.1) (text.pos ⟨stop⟩ h.2.1) h.2.2).copy
  else none

end Text
end BoundSql
