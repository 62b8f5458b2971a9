import BoundSql.Calendar
import Mathlib.Algebra.Order.Ring.Int
import Mathlib.Tactic.SplitIfs

/-! The day before and the day after, and a clock that is set back or forward by less than a day. Each
step of a date changes its day number by one, across the ends of months and years, so the clock that is
set by some minutes is off by exactly these. -/
namespace BoundSql.Calendar

namespace Date

theorem ofFields?_eq_some {year : Int} {month day : Nat}
    (inRange : leastYear ≤ year ∧ year ≤ greatestYear) (inYear : 1 ≤ month ∧ month ≤ 12)
    (inMonth : 1 ≤ day ∧ day ≤ daysInMonth year month) :
    ofFields? year month day = some ⟨year, month, day, inRange, inYear, inMonth⟩ := by
  simp [ofFields?, inRange, inYear, inMonth]

end Date

theorem one_le_daysInMonth (year : Int) (month : Nat) : 1 ≤ daysInMonth year month := by
  unfold daysInMonth
  split
  · split <;> decide
  · split <;> decide

theorem daysBeforeMonth_succ (year : Int) {month : Nat} (positive : 1 ≤ month) :
    daysBeforeMonth year (month + 1) = daysBeforeMonth year month + daysInMonth year month := by
  obtain ⟨before, rfl⟩ := Nat.exists_eq_add_of_le' positive
  rfl

theorem daysBeforeYear_succ (year : Int) :
    daysBeforeYear (year + 1) = daysBeforeYear year + (daysBeforeMonth year 12 + 31 : Nat) := by
  have months : daysBeforeMonth year 12 + 31 = if isLeap year then 366 else 365 := by
    cases leap : isLeap year <;> simp [daysBeforeMonth, daysInMonth, leap]
  rw [months, daysBeforeYear, daysBeforeYear, add_sub_cancel_right]
  split
  · next leap =>
    simp only [isLeap, Bool.and_eq_true, Bool.or_eq_true, beq_iff_eq, bne_iff_ne] at leap
    omega
  · next plain =>
    simp only [isLeap, Bool.and_eq_true, Bool.or_eq_true, beq_iff_eq, bne_iff_ne] at plain
    omega

namespace Date

variable {d : Date}

/-- The day after, and the number that it has. -/
theorem exists_tomorrow (room : d.year < greatestYear) :
    ∃ next, d.tomorrow? = some next ∧ next.dayNumber = d.dayNumber + 1 := by
  obtain ⟨early, late⟩ := d.inRange
  obtain ⟨january, december⟩ := d.inYear
  obtain ⟨first, last⟩ := d.inMonth
  unfold tomorrow?
  by_cases inside : d.day < daysInMonth d.year d.month
  · rw [if_pos inside]
    refine ⟨_, ofFields?_eq_some d.inRange d.inYear ⟨by omega, inside⟩, ?_⟩
    simp only [dayNumber]
    omega
  rw [if_neg inside]
  by_cases more : d.month < 12
  · rw [if_pos more]
    refine ⟨_, ofFields?_eq_some d.inRange ⟨by omega, more⟩ ⟨le_rfl, one_le_daysInMonth ..⟩, ?_⟩
    simp only [dayNumber, daysBeforeMonth_succ d.year january]
    omega
  · rw [if_neg more]
    have final : d.month = 12 := by omega
    have days : daysInMonth d.year d.month = 31 := by rw [final]; rfl
    refine ⟨_, ofFields?_eq_some ⟨by omega, by omega⟩ (by decide) ⟨le_rfl, one_le_daysInMonth ..⟩, ?_⟩
    simp only [dayNumber, daysBeforeYear_succ, daysBeforeMonth, final]
    omega

theorem exists_yesterday (room : leastYear < d.year) :
    ∃ previous, d.yesterday? = some previous ∧ previous.dayNumber = d.dayNumber - 1 := by
  obtain ⟨early, late⟩ := d.inRange
  obtain ⟨january, december⟩ := d.inYear
  obtain ⟨first, last⟩ := d.inMonth
  unfold yesterday?
  by_cases inside : 1 < d.day
  · rw [if_pos inside]
    refine ⟨_, ofFields?_eq_some d.inRange d.inYear ⟨by omega, by omega⟩, ?_⟩
    simp only [dayNumber]
    omega
  rw [if_neg inside]
  by_cases more : 1 < d.month
  · rw [if_pos more]
    have days := daysBeforeMonth_succ d.year (show 1 ≤ d.month - 1 by omega)
    have nonempty := one_le_daysInMonth d.year (d.month - 1)
    rw [Nat.sub_add_cancel january] at days
    refine ⟨_, ofFields?_eq_some d.inRange ⟨by omega, by omega⟩ ⟨nonempty, le_rfl⟩, ?_⟩
    simp only [dayNumber, days]
    omega
  · rw [if_neg more]
    have only : d.month = 1 := by omega
    have days := daysBeforeYear_succ (d.year - 1)
    rw [sub_add_cancel] at days
    have january : daysBeforeMonth d.year d.month = 0 := by rw [only]; rfl
    have long : 31 ≤ daysInMonth (d.year - 1) 12 := le_rfl
    refine ⟨_, ofFields?_eq_some ⟨by omega, by omega⟩ (by decide) ⟨by decide, long⟩, ?_⟩
    simp only [dayNumber, days, january]
    omega

end Date

namespace Timestamp

/-- What a clock shows some minutes earlier is that many minutes before, across midnight and the ends of
months and years; the second, a leap second too, is kept. -/
theorem exists_minutesEarlier {t : Timestamp} (early : leastYear < t.date.year)
    (late : t.date.year < greatestYear) {minutes : Int} (least : -1440 < minutes)
    (most : minutes < 1440) :
    ∃ u, t.minutesEarlier? minutes = some u ∧
      u.nanosSince2000 = t.nanosSince2000 - 60 * minutes * nanosPerSecond ∧
      u.time.second = t.time.second ∧ u.time.nanosecond = t.time.nanosecond := by
  obtain ⟨hour, minute, second⟩ := t.time.inDay
  obtain ⟨clock, reading⟩ : ∃ clock : Int, clock = (60 * t.time.hour + t.time.minute : Nat) - minutes :=
    ⟨_, rfl⟩
  obtain ⟨date, found, number⟩ : ∃ date : Date, (if clock < 0 then t.date.yesterday? else
      if 1440 ≤ clock then t.date.tomorrow? else some t.date) = some date ∧
      date.dayNumber = t.date.dayNumber + clock / 1440 := by
    by_cases before : clock < 0
    · obtain ⟨date, found, number⟩ := Date.exists_yesterday early
      exact ⟨date, by rw [if_pos before, found], by omega⟩
    rw [if_neg before]
    by_cases after : 1440 ≤ clock
    · obtain ⟨date, found, number⟩ := Date.exists_tomorrow late
      exact ⟨date, by rw [if_pos after, found], by omega⟩
    · exact ⟨t.date, by rw [if_neg after], by omega⟩
  obtain ⟨time, hours, rest, seconds, nanos⟩ : ∃ time : TimeOfDay,
      time.hour = (clock % 1440).toNat / 60 ∧ time.minute = (clock % 1440).toNat % 60 ∧
      time.second = t.time.second ∧ time.nanosecond = t.time.nanosecond :=
    ⟨⟨_, _, _, _, ⟨by omega, by omega, second⟩, t.time.inSecond⟩, rfl, rfl, rfl, rfl⟩
  have shown := time.ofFields?_fields
  rw [hours, rest, seconds, nanos] at shown
  refine ⟨⟨date, time⟩, ?_, ?_, seconds, nanos⟩
  · simp only [minutesEarlier?, ← reading, shown, Option.bind_eq_bind, Option.bind_some]
    split_ifs at found ⊢
    · rw [found, Option.bind_some]
    · rw [found, Option.bind_some]
    · rw [Option.some.inj found]
  · have clock : 60 * (time.hour : Int) + time.minute = clock % 1440 := by omega
    simp only [nanosSince2000, number, seconds, nanos, nanosPerSecond]
    omega

end Timestamp

end BoundSql.Calendar
