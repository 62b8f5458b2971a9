import BoundSql.Text

/-! Binary interchange formats and their decimal texts. A pattern holds a sign bit, an exponent field and a
fraction field, and `Pattern.reading` gives the signed multiple of a power of two that it stands for.
`Pattern.nearest` goes the other way and rounds to nearest, a half to the even neighbour. A text shows the
shortest decimal that reads back as its pattern. The numbers that round to a pattern form an interval, and
the decimal grids are searched from the coarsest for one of the value's two neighbours inside it; all
comparisons are exact. The decimal is laid out positionally with at least one digit after the point, or with
an exponent when it is very large or very small. -/
namespace BoundSql.Floating

open BoundSql.Text

structure Format where
  fractionBits : Nat
  exponentBits : Nat
  deriving DecidableEq

def single : Format := ⟨23, 8⟩
def double : Format := ⟨52, 11⟩

namespace Format

def width (f : Format) : Nat := 1 + f.exponentBits + f.fractionBits

def signWeight (f : Format) : Nat := Nat.pow 2 (f.exponentBits + f.fractionBits)

/-- The positive pattern of infinity, above that of every finite number. -/
def infinity (f : Format) : Nat := (Nat.pow 2 f.exponentBits - 1) * Nat.pow 2 f.fractionBits

/-- The exponent of the least positive number, which is one unit of the subnormal range. -/
def leastExponent (f : Format) : Int :=
  2 - (Nat.pow 2 (f.exponentBits - 1) : Int) - f.fractionBits

end Format

abbrev Pattern (f : Format) := BitVec f.width

abbrev Single := Pattern single
abbrev Double := Pattern double

/-- What a pattern stands for; a finite one is `significand * 2 ^ exponent` with a sign. -/
inductive Reading where
  | finite (negative : Bool) (significand : Nat) (exponent : Int)
  | infinite (negative : Bool)
  | notANumber
  deriving DecidableEq

/-- A number of units after dropping low bits, to the nearest and a half to the even neighbour. -/
def roundedShift (m shift : Nat) : Nat :=
  let kept := m / Nat.pow 2 shift
  let dropped := m % Nat.pow 2 shift
  if 2 * dropped < Nat.pow 2 shift then kept
  else if Nat.pow 2 shift < 2 * dropped then kept + 1
  else kept + kept % 2

namespace Pattern

variable {f : Format}

def ofNat (f : Format) (bits : Nat) : Pattern f := BitVec.ofNat f.width bits

def isNegative (x : Pattern f) : Bool := f.signWeight ≤ x.toNat

def magnitude (x : Pattern f) : Nat := x.toNat % f.signWeight

def isNaN (x : Pattern f) : Bool := f.infinity < x.magnitude

def isFinite (x : Pattern f) : Bool := x.magnitude < f.infinity

def reading (x : Pattern f) : Reading :=
  if x.isNaN then .notANumber
  else if x.magnitude = f.infinity then .infinite x.isNegative
  else
    let field := x.magnitude / Nat.pow 2 f.fractionBits
    let fraction := x.magnitude % Nat.pow 2 f.fractionBits
    if field = 0 then .finite x.isNegative fraction f.leastExponent
    else .finite x.isNegative (Nat.pow 2 f.fractionBits + fraction) (f.leastExponent + field - 1)

/-- Equality as numbers: a NaN equals nothing, and the two zeros are equal. -/
def numericallyEqual (x y : Pattern f) : Bool :=
  !x.isNaN && !y.isNaN && (x == y || (x.magnitude == 0 && y.magnitude == 0))

def ofMagnitude (negative : Bool) (magnitude : Nat) : Pattern f :=
  ofNat f (magnitude + if negative then f.signWeight else 0)

/-- The NaN whose only fraction bit is the highest. -/
def canonicalNaN : Pattern f := ofNat f (f.infinity + Nat.pow 2 (f.fractionBits - 1))

/-- The magnitude of the pattern nearest to `m * 2 ^ q`; what lies beyond the largest finite number
by half a unit or more is infinity. -/
def nearestMagnitude (f : Format) (m : Nat) (q : Int) : Nat :=
  if m = 0 then 0
  else
    let unit := max (m.log2 + q - f.fractionBits) f.leastExponent
    let units := if unit ≤ q then m * Nat.pow 2 (q - unit).toNat else roundedShift m (unit - q).toNat
    min f.infinity ((unit - f.leastExponent).toNat * Nat.pow 2 f.fractionBits + units)

def nearest (negative : Bool) (m : Nat) (q : Int) : Pattern f :=
  ofMagnitude negative (nearestMagnitude f m q)

/-- A NaN in another format. It keeps its sign and the high bits of its fraction, of which the highest
is set. -/
def quieted {g : Format} (x : Pattern f) : Pattern g :=
  let fraction := x.magnitude % Nat.pow 2 f.fractionBits
  let kept := fraction * Nat.pow 2 (g.fractionBits - f.fractionBits) /
    Nat.pow 2 (f.fractionBits - g.fractionBits)
  ofMagnitude x.isNegative (Nat.lor (canonicalNaN : Pattern g).toNat kept)

/-- The same number in another format, as near as that format has it. -/
def convert {g : Format} (x : Pattern f) : Pattern g :=
  match x.reading with
  | .finite negative m q => nearest negative m q
  | .infinite negative => ofMagnitude negative g.infinity
  | .notANumber => x.quieted

def ofInt (n : Int) : Pattern f := nearest (n < 0) n.natAbs 0

theorem numericallyEqual_comm (x y : Pattern f) :
    x.numericallyEqual y = y.numericallyEqual x := by
  simp only [numericallyEqual]
  rw [Bool.and_comm (!x.isNaN), Bool.beq_comm (a := x), Bool.and_comm (x.magnitude == 0)]

@[simp] theorem numericallyEqual_self (x : Pattern f) : x.numericallyEqual x = !x.isNaN := by
  simp [numericallyEqual]

end Pattern

/-- The number `digits * 10 ^ exponent`. -/
structure Decimal where
  digits : Nat
  exponent : Int
  deriving DecidableEq

inductive Tie where
  | even
  | up
  deriving DecidableEq

/-- A positive number and the interval that rounds to it, all as multiples of one fraction: the
value is `value * scale / divisor`. The ends belong to the interval when `closed` holds. -/
structure Interval where
  low : Nat
  value : Nat
  high : Nat
  scale : Nat
  divisor : Nat
  closed : Bool

namespace Interval

/-- Below a power of two the neighbour is half as far away, except at the least exponent. -/
def ofReading (f : Format) (m : Nat) (q : Int) : Interval where
  low := 4 * m - if m = Nat.pow 2 f.fractionBits ∧ f.leastExponent < q then 1 else 2
  value := 4 * m
  high := 4 * m + 2
  scale := Nat.pow 2 (q - 2).toNat
  divisor := Nat.pow 2 (2 - q).toNat
  closed := m % 2 == 0

def contains (i : Interval) (k : Int) (c : Nat) : Bool :=
  let point := c * (i.divisor * Nat.pow 10 k.toNat)
  let unit := i.scale * Nat.pow 10 (-k).toNat
  if i.closed then i.low * unit ≤ point && point ≤ i.high * unit
  else i.low * unit < point && point < i.high * unit

def below (i : Interval) (k : Int) : Nat :=
  i.value * i.scale * Nat.pow 10 (-k).toNat / (i.divisor * Nat.pow 10 k.toNat)

def nearer (i : Interval) (tie : Tie) (k : Int) : Nat :=
  let c := i.below k
  let twice := 2 * i.value * i.scale * Nat.pow 10 (-k).toNat
  let middle := (2 * c + 1) * (i.divisor * Nat.pow 10 k.toNat)
  if twice < middle then c
  else if middle < twice then c + 1
  else match tie with
    | .even => c + c % 2
    | .up => c + 1

def onGrid (i : Interval) (tie : Tie) (k : Int) : Option Nat :=
  match i.contains k (i.below k), i.contains k (i.below k + 1) with
  | true, true => some (i.nearer tie k)
  | true, false => some (i.below k)
  | false, true => some (i.below k + 1)
  | false, false => none

def leadingExponent (i : Interval) : Int :=
  let whole := i.value * i.scale / i.divisor
  if 0 < whole then (Nat.toDigits 10 whole).length - 1
  else -((Nat.toDigits 10 ((i.divisor - 1) / (i.value * i.scale))).length : Int)

def search (i : Interval) (tie : Tie) : Nat → Int → Decimal
  | 0, k => ⟨i.nearer tie k, k⟩
  | grids + 1, k =>
    match i.onGrid tie k with
    | some c => ⟨c, k⟩
    | none => search i tie grids (k - 1)

end Interval

def Decimal.trimmed (d : Decimal) : Decimal :=
  if d.digits % 10 = 0 then ⟨d.digits / 10, d.exponent + 1⟩ else d

/-- Twenty digits are more than any format here needs. -/
def shortest (f : Format) (tie : Tie) (m : Nat) (q : Int) : Decimal :=
  let i := Interval.ofReading f m q
  (i.search tie 20 i.leadingExponent).trimmed

structure Layout where
  leastPositional : Int
  greatestPositional : Int
  plusOnExponent : Bool
  tie : Tie

/-- Descriptions write a number positionally from `0.0001` up to sixteen digits. -/
def Layout.descriptive : Layout := ⟨-4, 15, false, .up⟩

/-- Documents write a number positionally from `0.00001` up to sixteen digits. -/
def Layout.document : Layout := ⟨-5, 15, true, .even⟩

namespace Layout

def positional (ds : List Char) (lead : Int) : List Char :=
  if lead < 0 then
    '0' :: '.' :: (List.replicate (-lead - 1).toNat '0' ++ ds)
  else
    let whole := ds.take (lead.toNat + 1)
    let rest := ds.drop (lead.toNat + 1)
    whole ++ List.replicate (lead.toNat + 1 - ds.length) '0' ++
      '.' :: (if rest.isEmpty then ['0'] else rest)

def scientific (l : Layout) (ds : List Char) (lead : Int) : List Char :=
  let rest := ds.drop 1
  ds.take 1 ++ (if rest.isEmpty then [] else '.' :: rest) ++
    'e' :: (if l.plusOnExponent && 0 ≤ lead then '+' :: integer lead else integer lead)

def decimal (l : Layout) (d : Decimal) : List Char :=
  let ds := digits d.digits
  let lead := d.exponent + ds.length - 1
  if l.leastPositional ≤ lead ∧ lead ≤ l.greatestPositional then positional ds lead
  else l.scientific ds lead

/-- The text of a finite number of the format. -/
def finite (l : Layout) (f : Format) (negative : Bool) (m : Nat) (q : Int) : List Char :=
  (if negative then ['-'] else []) ++
    if m = 0 then ['0', '.', '0'] else l.decimal (shortest f l.tie m q)

end Layout

namespace Pattern

def described {f : Format} (x : Pattern f) : String :=
  match x.reading with
  | .finite negative m q => String.ofList (Layout.descriptive.finite f negative m q)
  | .infinite negative => if negative then "-inf" else "inf"
  | .notANumber => "NaN"

def documentText? {f : Format} (x : Pattern f) : Option String :=
  match x.reading with
  | .finite negative m q => some (String.ofList (Layout.document.finite f negative m q))
  | _ => none

end Pattern

end BoundSql.Floating
