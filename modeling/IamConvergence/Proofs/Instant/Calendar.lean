/-
A count of days gives a date of the calendar and is given back by it. An era has 400 years. In it
the year of a day is found by a quotient that grows with the day, so it is enough to look at the
first and the last day of each year.
-/
import IamConvergence.Instant.Calendar

namespace IamConvergence.Date

/-! ## Years -/

/-- The days of an era before a year that begins in March. -/
def daysBefore (y : Nat) : Int := y * 365 + y / 4 - y / 100 + y / 400

/-- The days of an era up to some day, without its leap days. -/
def leapless (d : Int) : Int := d - d / 1460 + d / 36524 - d / 146096

theorem leapless_le {c d : Int} (h : c ≤ d) : leapless c ≤ leapless d := by
  unfold leapless
  omega

/-- On the first and on the last day of a year the days without leap days tell the year. -/
theorem leapless_daysBefore : ∀ y : Nat, y < 400 →
    y * 365 ≤ leapless (daysBefore y) ∧
      leapless (daysBefore (y + 1) - 1) < ((y : Int) + 1) * 365 := by
  decide +kernel

theorem exists_year {d : Int} (hd : 0 ≤ d) {n : Nat} (h : d < daysBefore n) :
    ∃ y < n, daysBefore y ≤ d ∧ d < daysBefore (y + 1) := by
  induction n with
  | zero => exact absurd h (Int.not_lt.mpr hd)
  | succ n ih =>
    by_cases hn : d < daysBefore n
    · obtain ⟨y, hy, hyear⟩ := ih hn
      exact ⟨y, Nat.lt_succ_of_lt hy, hyear⟩
    · exact ⟨n, Nat.lt_succ_self n, Int.not_lt.mp hn, h⟩

/-- So they do on every day of it. -/
theorem leapless_div {d : Int} {y : Nat} (hy : y < 400) (hleast : daysBefore y ≤ d)
    (hmost : d < daysBefore (y + 1)) : leapless d / 365 = y := by
  obtain ⟨hfirst, hlast⟩ := leapless_daysBefore y hy
  have hle := leapless_le hleast
  have hle' := leapless_le (Int.le_sub_one_of_lt hmost)
  omega

/-- A year that begins in March is longer when it ends with a leap day. -/
theorem daysBefore_succ_le (y : Nat) : daysBefore (y + 1) ≤ daysBefore y + 366 := by
  unfold daysBefore
  omega

theorem isLeapYear_of_long (era : Int) {y : Nat} (h : daysBefore y + 365 < daysBefore (y + 1)) :
    isLeapYear (y + era * 400 + 1) = true := by
  unfold daysBefore at h
  simp only [isLeapYear, Bool.and_eq_true, Bool.or_eq_true, beq_iff_eq, bne_iff_ne]
  omega

/-! ## Days of a year -/

/-- The month and the day of the month, from the day of a year that begins in March. -/
def monthDay (dayOfYear : Int) : Int × Int :=
  let monthFromMarch := (5 * dayOfYear + 2) / 153
  (if monthFromMarch < 10 then monthFromMarch + 3 else monthFromMarch - 9,
    dayOfYear - (153 * monthFromMarch + 2) / 5 + 1)

/-- The day of such a year. -/
def yearDay (month day : Nat) : Int := ((153 * ((month + 9) % 12) + 2) / 5 + day : Nat) - 1

/-- The month and the day are those of a calendar, where only the leap day needs a leap year, and
they tell the day of the year. -/
theorem monthDay_onCalendar : ∀ d : Nat, d < 366 →
    (1 ≤ (monthDay d).1.toNat ∧ (monthDay d).1.toNat ≤ 12) ∧ 1 ≤ (monthDay d).2.toNat ∧
      ((monthDay d).2.toNat ≤ daysInMonth 1 (monthDay d).1.toNat ∨
        (monthDay d).1 = 2 ∧ (monthDay d).2 = 29 ∧ d = 365) ∧
      yearDay (monthDay d).1.toNat (monthDay d).2.toNat = d := by
  decide +kernel

theorem daysInMonth_le (y : Int) (m : Nat) : daysInMonth 1 m ≤ daysInMonth y m := by
  unfold daysInMonth
  split
  · have hshort : isLeapYear 1 = false := by decide
    rw [hshort, if_neg Bool.false_ne_true]
    split <;> decide
  · exact Nat.le_refl _

theorem daysInMonth_le_31 (y : Int) (m : Nat) : daysInMonth y m ≤ 31 := by
  unfold daysInMonth
  split
  · split <;> decide
  · split <;> decide

/-! ## Dates -/

/-- The date a number of days after the start of 1970 is the day `d` of the year `y` of an era. -/
structure Located (n era : Int) (y d : Nat) : Prop where
  year : y < 400
  day : (d : Int) < daysBefore (y + 1) - daysBefore y
  count : n = era * 146097 + daysBefore y + d - 719468

theorem exists_located (n : Int) : ∃ era y d, Located n era y d := by
  have hleast : 0 ≤ (n + 719468) % 146097 := Int.emod_nonneg _ (by decide)
  have hmost : (n + 719468) % 146097 < daysBefore 400 := Int.emod_lt_of_pos _ (by decide)
  obtain ⟨y, hy, hfirst, hlast⟩ := exists_year hleast hmost
  refine ⟨(n + 719468) / 146097, y, ((n + 719468) % 146097 - daysBefore y).toNat, hy, ?_, ?_⟩
  · omega
  · have := Int.mul_ediv_add_emod (n + 719468) 146097
    omega

variable {n era : Int} {y d : Nat}

/-- Where a day is located, there is its date. -/
theorem Located.ofDays_eq (h : Located n era y d) : ofDays n =
    ⟨if (monthDay d).1 ≤ 2 then y + era * 400 + 1 else y + era * 400, (monthDay d).1.toNat,
      (monthDay d).2.toNat⟩ := by
  have hnonneg : 0 ≤ daysBefore y := by unfold daysBefore; omega
  have hwithin : daysBefore (y + 1) ≤ 146097 := by
    have := h.year
    unfold daysBefore
    omega
  have hday := h.day
  have hera : (n + 719468) / 146097 = era := by rw [h.count]; omega
  have hin : (n + 719468) % 146097 = daysBefore y + d := by rw [h.count]; omega
  have hyear : leapless (daysBefore y + d) / 365 = y :=
    leapless_div h.year (by omega) (by omega)
  have hrest : daysBefore y + d - (365 * (y : Int) + y / 4 - y / 100) = d := by
    have := h.year
    unfold daysBefore
    omega
  unfold leapless at hyear
  unfold ofDays
  simp only [hera, hin, hyear, hrest]
  rfl

theorem Located.lt (h : Located n era y d) : d < 366 := by
  have := h.day
  have := daysBefore_succ_le y
  omega

/-- The days to a date, from its year and month counted from March. -/
theorem toDays_mk (h : y < 400) {month : Int} {day : Nat} :
    toDays ⟨if month ≤ 2 then y + era * 400 + 1 else y + era * 400, month.toNat, day⟩ =
      era * 146097 + daysBefore y + yearDay month.toNat day - 719468 := by
  have hyear : (if month.toNat ≤ 2 then
      (if month ≤ 2 then (y : Int) + era * 400 + 1 else y + era * 400) - 1
    else if month ≤ 2 then (y : Int) + era * 400 + 1 else y + era * 400) = y + era * 400 := by
    split <;> split <;> omega
  unfold toDays yearDay daysBefore
  simp only [hyear]
  omega

theorem toDays_ofDays (n : Int) : (ofDays n).toDays = n := by
  obtain ⟨era, y, d, h⟩ := exists_located n
  obtain ⟨-, -, -, hback⟩ := monthDay_onCalendar d h.lt
  rw [h.ofDays_eq, toDays_mk h.year, hback]
  exact h.count.symm

/-- Every date is one of the calendar, if its year is. -/
theorem isValid_ofDays (h : hasYear (ofDays n).year = true) : (ofDays n).isValid = true := by
  obtain ⟨era, y, d, hn⟩ := exists_located n
  obtain ⟨⟨hleast, hmost⟩, hday, hlength, -⟩ := monthDay_onCalendar d hn.lt
  rw [hn.ofDays_eq] at h ⊢
  have hwithin : (monthDay d).2.toNat ≤ daysInMonth
      (if (monthDay d).1 ≤ 2 then y + era * 400 + 1 else y + era * 400) (monthDay d).1.toNat := by
    rcases hlength with hlength | ⟨hmonth, hleap, rfl⟩
    · exact Nat.le_trans hlength (daysInMonth_le _ _)
    · have hlong : daysBefore y + 365 < daysBefore (y + 1) := by
        have := hn.day
        omega
      rw [hmonth, hleap, if_pos (Int.le_refl 2)]
      unfold daysInMonth
      rw [if_pos (by decide), isLeapYear_of_long era hlong]
      decide
  simp only [isValid, h, hleast, hmost, hday, hwithin, decide_true, Bool.and_self]

end IamConvergence.Date
