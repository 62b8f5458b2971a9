import BoundSql.Value

/-! A finished statement: its text with numbered placeholders, and the values in the order of the
numbers. `ordinals` finds the placeholders of any text again. `Scan` does so in the bytes of the text: a
round looks at the byte in one place, and behind a dollar sign it walks over the digits, cuts them out of
the text as a number, and goes on behind them. -/
namespace BoundSql

structure Query where
  sql : String
  params : List Value

def ordinalLimit : Nat := UInt64.size

/-- The number that digits behind a dollar sign spell, if they name a placeholder. -/
def ordinal? (run : List Char) : Option Nat :=
  if run.isEmpty then none
  else if Text.ofDigits run < ordinalLimit then some (Text.ofDigits run) else none

/-- The ordinal of each dollar sign that has digits right behind it, from left to right. -/
def ordinals : List Char → List Nat
  | [] => []
  | c :: rest =>
    if c = '$' then
      let run := rest.takeWhile Char.isDigit
      (ordinal? run).toList ++ ordinals (rest.drop run.length)
    else ordinals rest
termination_by text => text.length
decreasing_by
  · simp only [List.length_drop, List.length_cons]; omega
  · exact Nat.lt_succ_self _

namespace Query

def placeholderCount (q : Query) : Nat := (ordinals q.sql.toList).length

def described (q : Query) : String :=
  Text.record "CompiledQuery"
    [("sql", Text.quoted q.sql), ("params", Value.listDescribed q.params)]

end Query

namespace Scan

def dollar : UInt8 := 0x24

def isDigit (byte : UInt8) : Bool := 0x30 ≤ byte && byte ≤ 0x39

/-- Where the digits end that begin in a place. -/
def digitsEnd (bytes : ByteArray) (place : Nat) : Nat :=
  if inside : place < bytes.size then
    if isDigit bytes[place] then digitsEnd bytes (place + 1) else place
  else place
termination_by bytes.size - place

structure State where
  place : Nat
  found : List Nat

inductive Round where
  | next (later : State)
  | over (found : List Nat)
  /-- The digits could not be cut out, because a character lies across one of their ends. -/
  | torn

def round (text : String) (s : State) : Round :=
  let bytes := text.toByteArray
  if inside : s.place < bytes.size then
    if bytes[s.place] = dollar then
      let start := s.place + 1
      let stop := digitsEnd bytes start
      if start < stop then
        match Text.slice? text start stop with
        | some numeral =>
          .next ⟨stop, s.found ++ (Text.unsigned? ordinalLimit numeral.toList).toList⟩
        | none => .torn
      else .next ⟨s.place + 1, s.found⟩
    else .next ⟨s.place + 1, s.found⟩
  else .over s.found

theorem digitsEnd_le {bytes : ByteArray} {place : Nat} (within : place ≤ bytes.size) :
    digitsEnd bytes place ≤ bytes.size := by
  fun_induction digitsEnd bytes place with
  | case1 place inside digit ih => exact ih inside
  | case2 place inside => exact within
  | case3 => exact within

/-- A round that is not the last one goes forward, and not past the end. -/
theorem round_advances {text : String} {s later : State} (more : round text s = .next later) :
    s.place < later.place ∧ later.place ≤ text.utf8ByteSize := by
  simp only [round] at more
  split at more
  · next inside =>
    have stop : digitsEnd text.toByteArray (s.place + 1) ≤ text.utf8ByteSize := digitsEnd_le inside
    split at more
    · split at more
      · next digits =>
        split at more
        · cases more; exact ⟨Nat.lt_of_succ_lt digits, stop⟩
        · cases more
      · cases more; exact ⟨Nat.lt_succ_self _, inside⟩
    · cases more; exact ⟨Nat.lt_succ_self _, inside⟩
  · cases more

/-- The rounds from a state to the end; there are no ordinals if a character is torn. -/
def run (text : String) (s : State) : Option (List Nat) :=
  match _ : round text s with
  | .next later => run text later
  | .over found => some found
  | .torn => none
termination_by text.utf8ByteSize - s.place
decreasing_by have := round_advances ‹_›; omega

def references (text : String) : Option (List Nat) := run text ⟨0, []⟩

end Scan
end BoundSql
