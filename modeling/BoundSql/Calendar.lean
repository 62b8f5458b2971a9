import BoundSql.Text

/-! Days of the proleptic Gregorian calendar, with a year zero, times of day with nanoseconds and leap
seconds, their distance from the start of 2000, and how dates and timestamps are written and read. The free
form allows white space before each number and each separator and at the end; the form with an offset is
fixed, column by column. A reader takes what it recognises from the front of a text and leaves the rest. -/
namespace BoundSql.Calendar

open BoundSql.Text

def isLeap (year : Int) : Bool := year % 4 == 0 && (year % 100 != 0 || year % 400 == 0)

def daysInMonth (year : Int) (month : Nat) : Nat :=
  if month = 2 then (if isLeap year then 29 else 28)
  else if month = 4 ∨ month = 6 ∨ month = 9 ∨ month = 11 then 30
  else 31

def leastYear : Int := -262143
def greatestYear : Int := 262142

structure Date where
  year : Int
  month : Nat
  day : Nat
  inRange : leastYear ≤ year ∧ year ≤ greatestYear
  inYear : 1 ≤ month ∧ month ≤ 12
  inMonth : 1 ≤ day ∧ day ≤ daysInMonth year month
  deriving DecidableEq

namespace Date

def ofFields? (year : Int) (month day : Nat) : Option Date :=
  if range : leastYear ≤ year ∧ year ≤ greatestYear then
    if inYear : 1 ≤ month ∧ month ≤ 12 then
      if inMonth : 1 ≤ day ∧ day ≤ daysInMonth year month then
        some ⟨year, month, day, range, inYear, inMonth⟩
      else none
    else none
  else none

@[simp] theorem ofFields?_fields (d : Date) : ofFields? d.year d.month d.day = some d := by
  simp [ofFields?, d.inRange, d.inYear, d.inMonth]

def tomorrow? (d : Date) : Option Date :=
  if d.day < daysInMonth d.year d.month then ofFields? d.year d.month (d.day + 1)
  else if d.month < 12 then ofFields? d.year (d.month + 1) 1
  else ofFields? (d.year + 1) 1 1

def yesterday? (d : Date) : Option Date :=
  if 1 < d.day then ofFields? d.year d.month (d.day - 1)
  else if 1 < d.month then ofFields? d.year (d.month - 1) (daysInMonth d.year (d.month - 1))
  else ofFields? (d.year - 1) 12 31

end Date

/-- The days of the years before a year, counted from year one. -/
def daysBeforeYear (year : Int) : Int :=
  365 * (year - 1) + (year - 1) / 4 - (year - 1) / 100 + (year - 1) / 400

/-- The days of the months of a year before a month. -/
def daysBeforeMonth (year : Int) : Nat → Nat
  | 0 => 0
  | 1 => 0
  | month + 2 => daysBeforeMonth year (month + 1) + daysInMonth year (month + 1)

def Date.dayNumber (d : Date) : Int :=
  daysBeforeYear d.year - daysBeforeYear 2000 + daysBeforeMonth d.year d.month + (d.day - 1)

def nanosPerSecond : Nat := 1000000000

/-- A leap second is a nanosecond count past a full second. It may follow any second, since a clock
elsewhere can show another second when the minute of universal time ends. -/
structure TimeOfDay where
  hour : Nat
  minute : Nat
  second : Nat
  nanosecond : Nat
  inDay : hour < 24 ∧ minute < 60 ∧ second < 60
  inSecond : nanosecond < 2 * nanosPerSecond
  deriving DecidableEq

namespace TimeOfDay

def ofFields? (hour minute second nanosecond : Nat) : Option TimeOfDay :=
  if inDay : hour < 24 ∧ minute < 60 ∧ second < 60 then
    if inSecond : nanosecond < 2 * nanosPerSecond then
      some ⟨hour, minute, second, nanosecond, inDay, inSecond⟩
    else none
  else none

/-- The time that a clock shows; a shown second 60 is a leap second. -/
def ofClock? (hour minute shown fraction : Nat) : Option TimeOfDay :=
  if shown = 60 then ofFields? hour minute 59 (fraction + nanosPerSecond)
  else ofFields? hour minute shown fraction

@[simp] theorem ofFields?_fields (t : TimeOfDay) :
    ofFields? t.hour t.minute t.second t.nanosecond = some t := by
  simp [ofFields?, t.inDay, t.inSecond]

def shownSecond (t : TimeOfDay) : Nat := t.second + t.nanosecond / nanosPerSecond

def fraction (t : TimeOfDay) : Nat := t.nanosecond % nanosPerSecond

end TimeOfDay

structure Timestamp where
  date : Date
  time : TimeOfDay
  deriving DecidableEq

namespace Timestamp

/-- The same clock reading some minutes earlier; less than a day, so at most one midnight is
crossed. Seconds are kept, a leap second included. -/
def minutesEarlier? (t : Timestamp) (minutes : Int) : Option Timestamp := do
  let clock := (60 * t.time.hour + t.time.minute : Nat) - minutes
  let date ←
    if clock < 0 then t.date.yesterday?
    else if 1440 ≤ clock then t.date.tomorrow?
    else some t.date
  let clock := (clock % 1440).toNat
  let time ← TimeOfDay.ofFields? (clock / 60) (clock % 60) t.time.second t.time.nanosecond
  some ⟨date, time⟩

/-- The signed number of nanoseconds since the start of 2000; a leap second runs on past the
second it belongs to. -/
def nanosSince2000 (t : Timestamp) : Int :=
  (t.date.dayNumber * 86400 + 3600 * t.time.hour + 60 * t.time.minute + t.time.second) *
    nanosPerSecond + t.time.nanosecond

def microsSince2000 (t : Timestamp) : Int := t.nanosSince2000.tdiv 1000

end Timestamp

def yearText (year : Int) : List Char :=
  if 0 ≤ year ∧ year ≤ 9999 then padded 4 year.natAbs
  else (if year < 0 then '-' else '+') :: padded 4 year.natAbs

def Date.text (d : Date) : List Char :=
  yearText d.year ++ '-' :: padded 2 d.month ++ '-' :: padded 2 d.day

def fractionText (nanos : Nat) : List Char :=
  if nanos = 0 then []
  else if nanos % 1000000 = 0 then '.' :: padded 3 (nanos / 1000000)
  else if nanos % 1000 = 0 then '.' :: padded 6 (nanos / 1000)
  else '.' :: padded 9 nanos

def TimeOfDay.text (t : TimeOfDay) : List Char :=
  padded 2 t.hour ++ ':' :: padded 2 t.minute ++ ':' :: padded 2 t.shownSecond ++
    fractionText t.fraction

def Timestamp.text (t : Timestamp) : List Char := t.date.text ++ 'T' :: t.time.text

def Timestamp.utcText (t : Timestamp) : List Char := t.text ++ ['Z']

def readNumber (most : Nat) (text : List Char) : Option (Nat × List Char) :=
  let run := (text.take most).takeWhile Char.isDigit
  if run.isEmpty then none else some (ofDigits run, text.drop run.length)

/-- A year has at most four digits, or any number of them behind a sign. -/
def readYear : List Char → Option (Int × List Char)
  | '-' :: rest => (readNumber rest.length rest).map fun (n, rest) => (-(n : Int), rest)
  | '+' :: rest => (readNumber rest.length rest).map fun (n, rest) => ((n : Int), rest)
  | text => (readNumber 4 text).map fun (n, rest) => ((n : Int), rest)

/-- Nothing, or a point and at least one digit; digits past the ninth are dropped. -/
def readFraction : List Char → Option (Nat × List Char)
  | '.' :: rest =>
    let run := rest.takeWhile Char.isDigit
    let kept := run.take 9
    if run.isEmpty then none
    else some (ofDigits kept * Nat.pow 10 (9 - kept.length), rest.drop run.length)
  | text => some (0, text)

def readDate (text : List Char) : Option (Date × List Char) := do
  let (year, text) ← readYear (skipBlanks text)
  let text ← expect '-' (skipBlanks text)
  let (month, text) ← readNumber 2 (skipBlanks text)
  let text ← expect '-' (skipBlanks text)
  let (day, text) ← readNumber 2 (skipBlanks text)
  let date ← Date.ofFields? year month day
  some (date, text)

def readTime (text : List Char) : Option (TimeOfDay × List Char) := do
  let (hour, text) ← readNumber 2 (skipBlanks text)
  let text ← expect ':' (skipBlanks text)
  let (minute, text) ← readNumber 2 (skipBlanks text)
  let text ← expect ':' (skipBlanks text)
  let (second, text) ← readNumber 2 (skipBlanks text)
  let (fraction, text) ← readFraction text
  let time ← TimeOfDay.ofClock? hour minute second fraction
  some (time, text)

def finished (text : List Char) : Bool := (skipBlanks text).isEmpty

def Date.parse? (text : List Char) : Option Date := do
  let (date, text) ← readDate text
  if finished text then some date else none

def Timestamp.parse? (text : List Char) : Option Timestamp := do
  let (date, text) ← readDate text
  let text ← expect 'T' (skipBlanks text)
  let (time, text) ← readTime text
  if finished text then some ⟨date, time⟩ else none

def readExactly (count : Nat) (text : List Char) : Option (Nat × List Char) :=
  let run := text.take count
  if run.length = count ∧ run.all Char.isDigit then some (ofDigits run, text.drop count) else none

def readMark : List Char → Option (List Char)
  | 'T' :: rest | 't' :: rest | ' ' :: rest => some rest
  | _ => none

def readOffsetMinutes (text : List Char) : Option (Nat × List Char) := do
  let (hours, text) ← readExactly 2 text
  let text ← expect ':' text
  let (minutes, text) ← readExactly 2 text
  if hours < 24 ∧ minutes < 60 then some (60 * hours + minutes, text) else none

/-- `Z`, or a sign and an offset; the minus sign may be the typographic one. -/
def readOffset : List Char → Option (Int × List Char)
  | 'Z' :: rest | 'z' :: rest => some (0, rest)
  | '+' :: rest => (readOffsetMinutes rest).map fun (n, rest) => ((n : Int), rest)
  | '-' :: rest | '\u2212' :: rest =>
    (readOffsetMinutes rest).map fun (n, rest) => (-(n : Int), rest)
  | _ => none

/-- Reads a local time with its offset and gives the same moment in universal time. -/
def Timestamp.parseUtc? (text : List Char) : Option Timestamp := do
  let (year, text) ← readExactly 4 text
  let text ← expect '-' text
  let (month, text) ← readExactly 2 text
  let text ← expect '-' text
  let (day, text) ← readExactly 2 text
  let text ← readMark text
  let (hour, text) ← readExactly 2 text
  let text ← expect ':' text
  let (minute, text) ← readExactly 2 text
  let text ← expect ':' text
  let (second, text) ← readExactly 2 text
  let (fraction, text) ← readFraction text
  let (offset, text) ← readOffset text
  let date ← Date.ofFields? year month day
  let time ← TimeOfDay.ofClock? hour minute second fraction
  if text.isEmpty then Timestamp.minutesEarlier? ⟨date, time⟩ offset else none

end BoundSql.Calendar
