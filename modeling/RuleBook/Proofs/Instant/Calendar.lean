import Mathlib
import RuleBook.Instant.Calendar

/-!
# Days and dates

Every day number has a date in the calendar, and the date gives the day number back.
-/

namespace RuleBook.CalendarDate

theorem firstDay_yearOfDay_le (days : Int) : firstDay (yearOfDay days) ≤ days := by
  unfold yearOfDay firstDay leapDaysBefore
  simp only
  split
  · omega
  · split <;> omega

theorem lt_firstDay_yearOfDay (days : Int) : days < firstDay (yearOfDay days + 1) := by
  unfold yearOfDay
  simp only
  split
  · rwa [Int.sub_add_cancel]
  · split
    · unfold firstDay leapDaysBefore
      omega
    · next h => exact Int.not_le.1 h

theorem isLeapYear_eq (year : Int) : isLeapYear year = true ↔
    year % 4 = 0 ∧ (year % 100 ≠ 0 ∨ year % 400 = 0) := by
  simp [isLeapYear]

theorem sum_monthLengths (year : Int) :
    ((monthLengths year).sum : Int) = firstDay (year + 1) - firstDay year := by
  have hleap := isLeapYear_eq year
  have h4 : year / 4 = (year - 1) / 4 + if year % 4 = 0 then 1 else 0 := by split <;> omega
  have h100 : year / 100 = (year - 1) / 100 + if year % 100 = 0 then 1 else 0 := by
    split <;> omega
  have h400 : year / 400 = (year - 1) / 400 + if year % 400 = 0 then 1 else 0 := by
    split <;> omega
  have hdays : firstDay (year + 1) - firstDay year =
      365 + (if year % 4 = 0 then 1 else 0) - (if year % 100 = 0 then 1 else 0) +
        (if year % 400 = 0 then 1 else 0) := by
    unfold firstDay leapDaysBefore
    rw [Int.add_sub_cancel, h4, h100, h400]
    omega
  rw [hdays]
  have hcentury : year % 100 = 0 → year % 4 = 0 := by omega
  have hcycle : year % 400 = 0 → year % 100 = 0 := by omega
  unfold monthLengths
  simp only [hleap, List.sum_cons, List.sum_nil]
  by_cases h4 : year % 4 = 0 <;> by_cases h100 : year % 100 = 0 <;>
    by_cases h400 : year % 400 = 0 <;> simp_all

theorem walkMonths_eq {lengths : List Nat} (month offset : Nat) (h : offset < lengths.sum) :
    ∃ index length, lengths[index]? = some length ∧
      (walkMonths lengths month offset).1 = month + index ∧
      1 ≤ (walkMonths lengths month offset).2 ∧
      (walkMonths lengths month offset).2 ≤ length ∧
      (lengths.take index).sum + (walkMonths lengths month offset).2 = offset + 1 := by
  induction lengths generalizing month offset with
  | nil => simp at h
  | cons length lengths ih =>
      rw [walkMonths]
      split
      · next hlt => exact ⟨0, length, rfl, rfl, by simp, hlt, by simp⟩
      · next hle =>
        rw [List.sum_cons] at h
        obtain ⟨index, length', hget, hmonth, hpos, hlength, hsum⟩ :=
          ih (month + 1) (offset - length) (by omega)
        refine ⟨index + 1, length', by simpa using hget, by omega, hpos, hlength, ?_⟩
        rw [List.take_succ_cons, List.sum_cons]
        omega

theorem le_of_mem_monthLengths {year : Int} {length : Nat} (h : length ∈ monthLengths year) :
    length ≤ 31 := by
  simp only [monthLengths, List.mem_cons, List.not_mem_nil, or_false] at h
  split at h <;> omega

private theorem ofDays_month (days : Int) :
    ∃ index length, (monthLengths (yearOfDay days))[index]? = some length ∧
      (ofDays days).month = 1 + index ∧ 1 ≤ (ofDays days).day ∧
      (ofDays days).day ≤ length ∧
      ((monthLengths (yearOfDay days)).take index).sum + (ofDays days).day =
        (days - firstDay (yearOfDay days)).toNat + 1 := by
  have hle := firstDay_yearOfDay_le days
  have hlt := lt_firstDay_yearOfDay days
  have hsum := sum_monthLengths (yearOfDay days)
  exact walkMonths_eq _ _ (by omega)

theorem ofYearMonthDay?_ofDays (days : Int) :
    ofYearMonthDay? (ofDays days).year (ofDays days).month (ofDays days).day =
      some (ofDays days) := by
  obtain ⟨index, length, hget, hmonth, hpos, hlength, -⟩ := ofDays_month days
  have hyear : (ofDays days).year = yearOfDay days := rfl
  rw [ofYearMonthDay?, if_neg (by omega), hyear, hmonth, Nat.add_sub_cancel_left, hget,
    ← hyear, ← hmonth]
  simp [hlength]

theorem toDays_ofDays (days : Int) : (ofDays days).toDays = days := by
  obtain ⟨index, length, -, hmonth, hpos, -, hoffset⟩ := ofDays_month days
  have hle := firstDay_yearOfDay_le days
  have hyear : (ofDays days).year = yearOfDay days := rfl
  rw [toDays, daysBeforeMonth, hyear, hmonth, Nat.add_sub_cancel_left, ← List.sum_eq_foldl]
  omega

theorem month_ofDays_le (days : Int) : (ofDays days).month ≤ 12 := by
  obtain ⟨index, length, hget, hmonth, -⟩ := ofDays_month days
  obtain ⟨hlt, -⟩ := List.getElem?_eq_some_iff.1 hget
  simp only [monthLengths, List.length_cons, List.length_nil] at hlt
  omega

theorem day_ofDays_le (days : Int) : (ofDays days).day ≤ 31 := by
  obtain ⟨index, length, hget, -, -, hlength, -⟩ := ofDays_month days
  exact Nat.le_trans hlength (le_of_mem_monthLengths (List.mem_of_getElem? hget))

end RuleBook.CalendarDate
