import Tenancy.Time.Calendar

/-!
# Dates and day numbers

The date of a day number exists, and it is the date that has this number.  The
day of a 400-year cycle is taken apart into centuries, terms of four years,
years and days, and the day of a year into months, all counted from March.
-/

namespace Tenancy.Calendar

/-- A day of a cycle by its century, the four-year term of that century, the
year of that term and the day of that year.  Only the last year of a term has
a day number 365, and not at the end of a century that is not the last. -/
structure InCycle (day century term year dayOfYear : Int) : Prop where
  sum : day = 36524 * century + 1461 * term + 365 * year + dayOfYear
  ofCentury : 0 ≤ century ∧ century ≤ 3
  ofTerm : 0 ≤ term ∧ term ≤ 24
  ofYear : 0 ≤ year ∧ year ≤ 3
  ofDay : 0 ≤ dayOfYear ∧ dayOfYear ≤ 365
  leapDay : dayOfYear = 365 → year = 3 ∧ (term ≠ 24 ∨ century = 3)

theorem exists_inCycle {day : Int} (notNegative : 0 ≤ day) (inside : day < cycleDays) :
    ∃ century term year dayOfYear, InCycle day century term year dayOfYear := by
  unfold cycleDays at inside
  have centuries : ∃ century rest, day = 36524 * century + rest ∧ 0 ≤ century ∧ century ≤ 3 ∧
      0 ≤ rest ∧ rest ≤ 36524 ∧ (rest = 36524 → century = 3) := by
    by_cases last : day = 146096
    · exact ⟨3, 36524, by omega⟩
    · exact ⟨day / 36524, day % 36524, by omega⟩
  obtain ⟨century, rest, ofCentury⟩ := centuries
  have years : ∃ year dayOfYear, rest % 1461 = 365 * year + dayOfYear ∧ 0 ≤ year ∧ year ≤ 3 ∧
      0 ≤ dayOfYear ∧ dayOfYear ≤ 365 ∧ (dayOfYear = 365 → year = 3) := by
    by_cases last : rest % 1461 = 1460
    · exact ⟨3, 365, by omega⟩
    · exact ⟨rest % 1461 / 365, rest % 1461 % 365, by omega⟩
  obtain ⟨year, dayOfYear, ofYear⟩ := years
  exact ⟨century, rest / 1461, year, dayOfYear, by omega, by omega, by omega, by omega, by omega,
    by omega⟩

section

variable {day century term year dayOfYear : Int}

/-- The year of a day's cycle, found without looking for its century first. -/
theorem InCycle.marchYear (inCycle : InCycle day century term year dayOfYear) :
    (day - day / 1460 + day / 36524 - day / 146096) / 365 =
      100 * century + 4 * term + year := by
  obtain ⟨sum, ofCentury, ofTerm, ofYear, ofDay, leapDay⟩ := inCycle
  have terms : day / 1460 =
      25 * century + term + (24 * century + term + 365 * year + dayOfYear) / 1460 := by omega
  have few : (24 * century + term + 365 * year + dayOfYear) / 1460 ≤ 1 := by omega
  -- A term has 1461 days, so its last one is counted for the next term; only a cycle's
  -- last day is counted for the next century too.
  rw [terms]
  by_cases last : day = 146096
  · omega
  · have centuries : day / 36524 = century := by omega
    have single : day / 146096 = 0 := by omega
    rw [centuries, single]
    omega

theorem InCycle.yearStart (inCycle : InCycle day century term year dayOfYear) :
    yearStart (100 * century + 4 * term + year) = day - dayOfYear := by
  obtain ⟨sum, ofCentury, ofTerm, ofYear, ofDay, leapDay⟩ := inCycle
  unfold Calendar.yearStart
  omega

/-- A year of 366 days, counted from March, ends in a leap year. -/
theorem InCycle.isLeapYear (inCycle : InCycle day century term year dayOfYear)
    (last : dayOfYear = 365) (cycle : Int) :
    isLeapYear (cycle * 400 + (100 * century + 4 * term + year) + 1) = true := by
  obtain ⟨sum, ofCentury, ofTerm, ofYear, ofDay, leapDay⟩ := inCycle
  obtain ⟨rfl, regular⟩ := leapDay last
  simp only [Calendar.isLeapYear, Bool.and_eq_true, Bool.or_eq_true, beq_iff_eq, bne_iff_ne]
  refine ⟨by omega, ?_⟩
  by_cases ends : term = 24
  · right
    omega
  · left
    omega

end

/-- The date of a day of a year, both counted from March. -/
def marchDate (year dayOfYear : Int) : Date :=
  let month := (5 * dayOfYear + 2) / 153
  let day := dayOfYear - monthStart month + 1
  if month < 10 then ⟨year, (month + 3).toNat, day.toNat⟩
  else ⟨year + 1, (month - 9).toNat, day.toNat⟩

theorem monthStart_le {dayOfYear month : Int} (found : (5 * dayOfYear + 2) / 153 = month) :
    monthStart month ≤ dayOfYear ∧ dayOfYear < monthStart (month + 1) := by
  unfold monthStart
  omega

/-- From March to December a month is as long as the starts of months are apart. -/
theorem daysInMonth_eq (year : Int) {month : Nat} (early : month < 10) :
    (daysInMonth year (month + 3) : Int) = monthStart (month + 1) - monthStart month := by
  have inYearZero : ∀ month < 10,
      (daysInMonth 0 (month + 3) : Int) = monthStart (month + 1) - monthStart month := by decide
  have notFebruary : month + 3 ≠ 2 := by omega
  rw [← inYearZero month early, daysInMonth, daysInMonth, if_neg notFebruary, if_neg notFebruary]

section

variable {year dayOfYear : Int}

theorem dayNumber_marchDate (year : Int) (notNegative : 0 ≤ dayOfYear)
    (inside : dayOfYear ≤ 365) :
    (marchDate year dayOfYear).dayNumber =
      year / 400 * cycleDays + yearStart (year % 400) + dayOfYear - epochOffset := by
  unfold marchDate
  generalize found : (5 * dayOfYear + 2) / 153 = month
  have start := monthStart_le found
  by_cases early : month < 10
  · have late : ¬(month + 3).toNat ≤ 2 := by omega
    have back : ((month + 3).toNat : Int) - 3 = month := by omega
    simp only [if_pos early, Date.dayNumber, if_neg late, back]
    omega
  · have nextYear : (month - 9).toNat ≤ 2 := by omega
    have back : ((month - 9).toNat : Int) + 9 = month := by omega
    simp only [if_neg early, Date.dayNumber, if_pos nextYear, back, Int.add_sub_cancel]
    omega

theorem exists_marchDate (notNegative : 0 ≤ dayOfYear) (inside : dayOfYear ≤ 365)
    (leapDay : dayOfYear = 365 → isLeapYear (year + 1) = true) :
    (marchDate year dayOfYear).exists = true := by
  unfold marchDate
  generalize found : (5 * dayOfYear + 2) / 153 = month
  have start := monthStart_le found
  obtain ⟨month, rfl⟩ := Int.eq_ofNat_of_zero_le (a := month) (by omega)
  by_cases early : month < 10
  · have sameYear : (month : Int) < 10 := by omega
    have number : ((month : Int) + 3).toNat = month + 3 := by omega
    have length := daysInMonth_eq year early
    simp only [if_pos sameYear, Date.exists, number, Bool.and_eq_true, decide_eq_true_eq]
    omega
  · have nextYear : ¬(month : Int) < 10 := by omega
    simp only [if_neg nextYear, Date.exists, Bool.and_eq_true, decide_eq_true_eq]
    by_cases january : month = 10
    · subst january
      simp [monthStart, daysInMonth] at *
      omega
    · have february : month = 11 := by omega
      subst february
      have length : daysInMonth (year + 1) 2 = if isLeapYear (year + 1) then 29 else 28 := rfl
      cases leap : isLeapYear (year + 1) with
      | true =>
          simp [monthStart, length, leap] at *
          omega
      | false =>
          simp [monthStart, length, leap] at *
          omega

end

/-- Every day has a place in its cycle, which gives its date. -/
theorem ofDayNumber_eq (number : Int) :
    ∃ year dayOfYear, Date.ofDayNumber number = marchDate year dayOfYear ∧ 0 ≤ dayOfYear ∧
      dayOfYear ≤ 365 ∧ (dayOfYear = 365 → isLeapYear (year + 1) = true) ∧
      number = year / 400 * cycleDays + yearStart (year % 400) + dayOfYear - epochOffset := by
  have cycle : (number + epochOffset) / cycleDays * cycleDays +
      (number + epochOffset) % cycleDays = number + epochOffset :=
    Int.ediv_mul_add_emod ..
  have inside : 0 ≤ (number + epochOffset) % cycleDays ∧
      (number + epochOffset) % cycleDays < cycleDays := by
    unfold cycleDays
    omega
  obtain ⟨century, term, year, dayOfYear, inCycle⟩ := exists_inCycle inside.1 inside.2
  generalize found : 100 * century + 4 * term + year = marchYear
  have range : 0 ≤ marchYear ∧ marchYear < 400 := by
    obtain ⟨sum, ofCentury, ofTerm, ofYear, ofDay, leapDay⟩ := inCycle
    omega
  have byYear := found ▸ inCycle.marchYear
  have start := found ▸ inCycle.yearStart
  have within : (number + epochOffset) % cycleDays - yearStart marchYear = dayOfYear := by
    rw [start, Int.sub_sub_self]
  refine ⟨(number + epochOffset) / cycleDays * 400 + marchYear, dayOfYear, ?_, inCycle.ofDay.1,
    inCycle.ofDay.2, fun last => found ▸ inCycle.isLeapYear last _, ?_⟩
  · simp only [Date.ofDayNumber, byYear, within, marchDate, Int.add_assoc]
  · have cycles : ((number + epochOffset) / cycleDays * 400 + marchYear) / 400 =
        (number + epochOffset) / cycleDays := by omega
    have inCycleAgain : ((number + epochOffset) / cycleDays * 400 + marchYear) % 400 =
        marchYear := by omega
    rw [cycles, inCycleAgain, start]
    omega

theorem dayNumber_ofDayNumber (number : Int) : (Date.ofDayNumber number).dayNumber = number := by
  obtain ⟨year, dayOfYear, shape, notNegative, inside, _, place⟩ := ofDayNumber_eq number
  rw [shape, dayNumber_marchDate year notNegative inside, ← place]

theorem exists_ofDayNumber (number : Int) : (Date.ofDayNumber number).exists = true := by
  obtain ⟨year, dayOfYear, shape, notNegative, inside, leapDay, _⟩ := ofDayNumber_eq number
  rw [shape]
  exact exists_marchDate notNegative inside leapDay

theorem month_le_of_exists {date : Date} (valid : date.exists = true) : date.month ≤ 12 := by
  simp only [Date.exists, Bool.and_eq_true, decide_eq_true_eq] at valid
  exact valid.1.1.2

theorem day_le_of_exists {date : Date} (valid : date.exists = true) : date.day ≤ 31 := by
  simp only [Date.exists, Bool.and_eq_true, decide_eq_true_eq] at valid
  have longest : daysInMonth date.year date.month ≤ 31 := by
    unfold daysInMonth
    split
    · split <;> decide
    · split <;> decide
  exact Nat.le_trans valid.2 longest

end Tenancy.Calendar
