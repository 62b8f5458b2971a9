import BoundSql.Proofs.Calendar.Numeral

/-! Dates and timestamps read back from their written form. The free form reads every one of them again, up
to the spelling of a leap second that does not end its minute. The form with an offset has years of
four digits only, so it reads the timestamps of the years 0 to 9999 and refuses all others. -/
namespace BoundSql.Calendar

open BoundSql.Text

theorem expect_cons (c : Char) (rest : List Char) : expect c (c :: rest) = some rest := by
  simp [expect]

section Year

variable {rest : List Char}

theorem takeWhile_take_eq_nil {p : Char → Bool} (stops : rest.takeWhile p = []) (most : Nat) :
    (rest.take most).takeWhile p = [] := by
  cases rest with
  | nil => simp
  | cons c others =>
    have first : ¬ p c = true := fun holds => by simp [holds] at stops
    cases most <;> simp [first]

theorem readNumber_padded_all {width n : Nat} (stops : rest.takeWhile Char.isDigit = []) :
    readNumber (padded width n ++ rest).length (padded width n ++ rest) = some (n, rest) := by
  rw [readNumber_append (padded_ne_nil width n) (fun _ => isDigit_of_mem_padded)
    (by simp) (takeWhile_take_eq_nil stops _), ofDigits_padded]

theorem readYear_padded {year : Nat} (fits : year < 10 ^ 4) (rest : List Char) :
    readYear (padded 4 year ++ rest) = some ((year : Int), rest) := by
  obtain ⟨c, others, shape⟩ := List.exists_cons_of_ne_nil (padded_ne_nil 4 year)
  have first : c ∈ padded 4 year := by simp [shape]
  have digit : c.isDigit = true := isDigit_of_mem_padded first
  have number := readNumber_padded (by decide) fits rest
  rw [shape, List.cons_append] at number ⊢
  unfold readYear
  split
  · next same => cases same; cases digit
  · next same => cases same; cases digit
  · rw [number]; rfl

/-- A year is read with its sign, which it has when it does not fit four digits. -/
theorem readYear_yearText (year : Int) (stops : rest.takeWhile Char.isDigit = []) :
    readYear (yearText year ++ rest) = some (year, rest) := by
  unfold yearText
  split
  · next plain =>
    have value : (year.natAbs : Int) = year := by omega
    rw [readYear_padded (by omega), value]
  · rw [List.cons_append]
    split
    · next negative =>
      have value : -(year.natAbs : Int) = year := by omega
      simp only [readYear, readNumber_padded_all stops, Option.map_some, value]
    · next positive =>
      have value : (year.natAbs : Int) = year := by omega
      simp only [readYear, readNumber_padded_all stops, Option.map_some, value]

theorem skipBlanks_yearText_append (year : Int) (rest : List Char) :
    skipBlanks (yearText year ++ rest) = yearText year ++ rest := by
  unfold yearText
  split
  · exact skipBlanks_padded_append 4 _ rest
  · split <;> exact skipBlanks_cons (by decide) _

end Year

section Fields

variable (d : Date) (t : TimeOfDay)

theorem Date.month_lt : d.month < 100 := by
  obtain ⟨-, latest⟩ := d.inYear
  omega

theorem Date.day_lt : d.day < 100 := by
  obtain ⟨-, last⟩ := d.inMonth
  have days : daysInMonth d.year d.month ≤ 31 := by
    unfold daysInMonth
    split
    · split <;> decide
    · split <;> decide
  omega

theorem TimeOfDay.hour_lt : t.hour < 100 := by
  obtain ⟨hour, -⟩ := t.inDay
  omega

theorem TimeOfDay.minute_lt : t.minute < 100 := by
  obtain ⟨-, minute, -⟩ := t.inDay
  omega

theorem TimeOfDay.shownSecond_lt : t.shownSecond < 100 := by
  obtain ⟨-, -, second⟩ := t.inDay
  have leap : t.nanosecond / nanosPerSecond < 2 :=
    Nat.div_lt_of_lt_mul (Nat.mul_comm .. ▸ t.inSecond)
  rw [shownSecond]
  omega

theorem TimeOfDay.fraction_lt : t.fraction < nanosPerSecond := Nat.mod_lt _ (by decide)

end Fields

theorem readNumber_two {n : Nat} (fits : n < 100) (rest : List Char) :
    readNumber 2 (padded 2 n ++ rest) = some (n, rest) :=
  readNumber_padded (by decide) fits rest

theorem Date.readDate_text (d : Date) (rest : List Char) :
    readDate (d.text ++ rest) = some (d, rest) := by
  have month := readNumber_two d.month_lt
  have day := readNumber_two d.day_lt
  have year (rest : List Char) :
      readYear (yearText d.year ++ '-' :: rest) = some (d.year, '-' :: rest) :=
    readYear_yearText d.year rfl
  have hyphen (rest : List Char) : skipBlanks ('-' :: rest) = '-' :: rest :=
    skipBlanks_cons (by decide) rest
  simp only [readDate, text, List.append_assoc, List.cons_append, skipBlanks_yearText_append,
    year, hyphen, expect_cons, skipBlanks_padded_append, month, day, ofFields?_fields,
    Option.bind_eq_bind, Option.bind_some]

theorem Date.parse?_text (d : Date) : parse? d.text = some d := by
  have read := d.readDate_text []
  have nothing : finished [] = true := rfl
  rw [List.append_nil] at read
  simp only [parse?, read, nothing, if_true, Option.bind_eq_bind, Option.bind_some]

namespace TimeOfDay

/-- The time that the written form of a time shows. A leap second is told from the next second at the end
of a minute only. -/
def asShown (t : TimeOfDay) : TimeOfDay :=
  if early : nanosPerSecond ≤ t.nanosecond ∧ t.second < 59 then
    { t with
      second := t.second + 1
      nanosecond := t.nanosecond - nanosPerSecond
      inDay := ⟨t.inDay.1, t.inDay.2.1, by omega⟩
      inSecond := Nat.lt_of_le_of_lt (Nat.sub_le ..) t.inSecond }
  else t

def clockText (t : TimeOfDay) : List Char :=
  padded 2 t.hour ++ ':' :: padded 2 t.minute ++ ':' :: padded 2 t.shownSecond

theorem text_eq (t : TimeOfDay) : t.text = t.clockText ++ fractionText t.fraction := by
  simp only [text, clockText, List.append_assoc, List.cons_append]

theorem ofClock?_shown (t : TimeOfDay) :
    ofClock? t.hour t.minute t.shownSecond t.fraction = some t.asShown := by
  obtain ⟨hour, minute, second⟩ := t.inDay
  have twice := t.inSecond
  unfold nanosPerSecond at twice
  rcases Nat.lt_or_ge t.nanosecond nanosPerSecond with small | large
  · have early : ¬ (nanosPerSecond ≤ t.nanosecond ∧ t.second < 59) := by omega
    have shown : ¬ t.shownSecond = 60 := by
      rw [shownSecond, Nat.div_eq_of_lt small]
      omega
    rw [ofClock?, if_neg shown, shownSecond, Nat.div_eq_of_lt small, fraction,
      Nat.mod_eq_of_lt small, Nat.add_zero, ofFields?_fields, asShown, dif_neg early]
  · have one : t.nanosecond / nanosPerSecond = 1 := by
      unfold nanosPerSecond at large ⊢
      omega
    have rest : t.nanosecond % nanosPerSecond = t.nanosecond - nanosPerSecond := by
      unfold nanosPerSecond at large ⊢
      omega
    rcases Nat.lt_or_ge t.second 59 with inside | final
    · have early : nanosPerSecond ≤ t.nanosecond ∧ t.second < 59 := ⟨large, inside⟩
      have shown : ¬ t.shownSecond = 60 := by
        rw [shownSecond, one]
        omega
      have whole := ofFields?_fields t.asShown
      simp only [asShown, dif_pos early] at whole
      rw [ofClock?, if_neg shown, shownSecond, one, fraction, rest, whole, asShown, dif_pos early]
    · have early : ¬ (nanosPerSecond ≤ t.nanosecond ∧ t.second < 59) := by omega
      have last : t.second = 59 := by omega
      have shown : t.shownSecond = 60 := by rw [shownSecond, one, last]
      rw [ofClock?, if_pos shown, fraction, rest, Nat.sub_add_cancel large, asShown, dif_neg early,
        ← last, ofFields?_fields]

theorem readTime_text (t : TimeOfDay) {rest : List Char} (ends : EndsTime rest) :
    readTime (t.text ++ rest) = some (t.asShown, rest) := by
  have hour := readNumber_two t.hour_lt
  have minute := readNumber_two t.minute_lt
  have second := readNumber_two t.shownSecond_lt
  have colon (rest : List Char) : skipBlanks (':' :: rest) = ':' :: rest :=
    skipBlanks_cons (by decide) rest
  simp only [readTime, text, List.append_assoc, List.cons_append, skipBlanks_padded_append, hour,
    colon, expect_cons, minute, second, readFraction_fractionText t.fraction_lt ends, ofClock?_shown,
    Option.bind_eq_bind, Option.bind_some]

end TimeOfDay

namespace Timestamp

def asShown (t : Timestamp) : Timestamp := ⟨t.date, t.time.asShown⟩

/-- The second that a leap second is told as is the same moment. -/
theorem nanosSince2000_asShown (t : Timestamp) : t.asShown.nanosSince2000 = t.nanosSince2000 := by
  unfold asShown TimeOfDay.asShown nanosSince2000
  dsimp only
  split
  · next early =>
    unfold nanosPerSecond at early ⊢
    dsimp only
    omega
  · rfl

theorem microsSince2000_asShown (t : Timestamp) : t.asShown.microsSince2000 = t.microsSince2000 := by
  rw [microsSince2000, nanosSince2000_asShown, microsSince2000]

theorem parse?_text (t : Timestamp) : parse? t.text = some t.asShown := by
  have mark (rest : List Char) : skipBlanks ('T' :: rest) = 'T' :: rest :=
    skipBlanks_cons (by decide) rest
  have nothing : finished [] = true := rfl
  have time : readTime (t.time.text ++ []) = some (t.time.asShown, []) := t.time.readTime_text nofun
  rw [List.append_nil] at time
  simp only [parse?, text, Date.readDate_text, mark, expect_cons, time, nothing, if_true, asShown,
    Option.bind_eq_bind, Option.bind_some]

theorem minutesEarlier?_zero (t : Timestamp) : t.minutesEarlier? 0 = some t := by
  obtain ⟨hour, minute, -⟩ := t.time.inDay
  have later : ¬ ((60 * t.time.hour + t.time.minute : Nat) : Int) - 0 < 0 := by omega
  have earlier : ¬ (1440 : Int) ≤ ((60 * t.time.hour + t.time.minute : Nat) : Int) - 0 := by omega
  have clock : (((60 * t.time.hour + t.time.minute : Nat) : Int) - 0) % 1440 =
      (60 * t.time.hour + t.time.minute : Nat) := by omega
  have hours : (60 * t.time.hour + t.time.minute) / 60 = t.time.hour := by omega
  have minutes : (60 * t.time.hour + t.time.minute) % 60 = t.time.minute := by omega
  simp only [minutesEarlier?, if_neg later, if_neg earlier, clock, Int.toNat_natCast, hours, minutes,
    TimeOfDay.ofFields?_fields, Option.bind_eq_bind, Option.bind_some]

section Offset

variable {t : Timestamp}

theorem bind_of_eq_some {α β : Type} {step : Option α} {a : α} {next : α → Option β} {result : Option β}
    (taken : step = some a) (behind : next a = result) : (step >>= next) = result := by
  rw [taken]
  exact behind

/-- In front of an offset a timestamp is read as the local time there, with whatever is read as its
fraction of a second. -/
theorem parseUtc?_append (early : 0 ≤ t.date.year) (late : t.date.year ≤ 9999)
    {fraction rest : List Char} {offset : Int}
    (exact : readFraction (fraction ++ rest) = some (t.time.fraction, rest))
    (read : readOffset rest = some (offset, [])) :
    parseUtc? (t.date.text ++ 'T' :: (t.time.clockText ++ (fraction ++ rest))) =
      t.asShown.minutesEarlier? offset := by
  have plain : yearText t.date.year = padded 4 t.date.year.natAbs := if_pos ⟨early, late⟩
  have value : ((t.date.year.natAbs : Nat) : Int) = t.date.year := by omega
  have year (rest : List Char) :
      readExactly 4 (padded 4 t.date.year.natAbs ++ rest) = some (t.date.year.natAbs, rest) :=
    readExactly_padded (by decide) (by omega) rest
  have two {n : Nat} (fits : n < 100) (rest : List Char) :
      readExactly 2 (padded 2 n ++ rest) = some (n, rest) := readExactly_padded (by decide) fits rest
  have mark (rest : List Char) : readMark ('T' :: rest) = some rest := rfl
  have date : Date.ofFields? (t.date.year.natAbs : Nat) t.date.month t.date.day = some t.date := by
    rw [value, Date.ofFields?_fields]
  rw [Date.text, TimeOfDay.clockText, plain]
  simp only [List.append_assoc, List.cons_append]
  exact bind_of_eq_some (year _) <| bind_of_eq_some (expect_cons ..) <|
    bind_of_eq_some (two t.date.month_lt _) <| bind_of_eq_some (expect_cons ..) <|
    bind_of_eq_some (two t.date.day_lt _) <| bind_of_eq_some (mark _) <|
    bind_of_eq_some (two t.time.hour_lt _) <| bind_of_eq_some (expect_cons ..) <|
    bind_of_eq_some (two t.time.minute_lt _) <| bind_of_eq_some (expect_cons ..) <|
    bind_of_eq_some (two t.time.shownSecond_lt _) <| bind_of_eq_some exact <|
    bind_of_eq_some read <| bind_of_eq_some date <| bind_of_eq_some t.time.ofClock?_shown rfl

theorem parseUtc?_utcText (early : 0 ≤ t.date.year) (late : t.date.year ≤ 9999) :
    parseUtc? t.utcText = some t.asShown := by
  have ends : EndsTime ['Z'] := by
    rintro c same
    cases same
    decide
  have written : t.utcText =
      t.date.text ++ 'T' :: (t.time.clockText ++ (fractionText t.time.fraction ++ ['Z'])) := by
    simp only [utcText, text, TimeOfDay.text_eq, List.append_assoc, List.cons_append]
  have exact := readFraction_fractionText t.time.fraction_lt ends
  rw [written, parseUtc?_append early late exact rfl, minutesEarlier?_zero]

/-- A year with a sign is not in the form with an offset. -/
theorem parseUtc?_utcText_eq_none (signed : ¬ (0 ≤ t.date.year ∧ t.date.year ≤ 9999)) :
    parseUtc? t.utcText = none := by
  have refused {c : Char} (sign : c.isDigit = false) (rest : List Char) :
      readExactly 4 (c :: rest) = none := by
    simp [readExactly, sign]
  have year (rest : List Char) : readExactly 4 (yearText t.date.year ++ rest) = none := by
    rw [yearText, if_neg signed, List.cons_append]
    split <;> exact refused rfl _
  rw [parseUtc?, utcText, text, Date.text]
  simp only [List.append_assoc]
  rw [year]
  rfl

end Offset

end Timestamp
end BoundSql.Calendar
