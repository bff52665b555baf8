import Mathlib.Logic.Function.Iterate
import ViewAdapters.Calendar.Date

/-!
# Days of the calendar

Each date of the calendar has a next one, and the number of a date counts the steps to it from the
first of January of year 1. The cycles of 400, 100, 4 and 1 years lead to the same date as these
steps, so numbers and dates of the calendar stand for each other.

* `Date.check_eq_ok_iff`: what is checked is a date of a year up to 9999.
* `Date.number_next`: the next date has the next number.
* `Date.number_ofNumber`, `Date.ofNumber_number`: a number is that of one date of the calendar.
* `Date.ofNumber_eq_iterate`: a number leads to the date that is as many steps away.
-/

namespace ViewAdapters.Calendar

/-- A month of a year and a day of that month. -/
structure Date.IsReal (d : Date) : Prop where
  one_le_year : 1 ≤ d.year
  one_le_month : 1 ≤ d.month
  month_le : d.month ≤ 12
  one_le_day : 1 ≤ d.day
  day_le : d.day ≤ daysInMonth d.year d.month

/-- The day after a date: the next of the month, the first of the next month, or the first of
January. -/
def Date.next (d : Date) : Date :=
  if d.day < daysInMonth d.year d.month then { d with day := d.day + 1 }
  else if d.month < 12 then ⟨d.year, d.month + 1, 1⟩
  else ⟨d.year + 1, 1, 1⟩

/-- The first day of the calendar. -/
def Date.first : Date := ⟨1, 1, 1⟩

theorem Date.check_eq_ok_iff {year month day : Nat} {d : Date} :
    Date.check year month day = .ok d ↔ d = ⟨year, month, day⟩ ∧ d.IsReal ∧ d.year ≤ 9999 := by
  constructor
  · intro h
    unfold Date.check at h
    split at h <;> try contradiction
    rename_i hYear
    split at h <;> try contradiction
    rename_i hMonth
    split at h <;> try contradiction
    rename_i hDay
    cases h
    simp only [Bool.or_eq_true, decide_eq_true_eq, not_or, Nat.not_lt] at hYear hMonth hDay
    exact ⟨rfl, ⟨hYear.1, hMonth.1, hMonth.2, hDay.1, hDay.2⟩, hYear.2⟩
  · rintro ⟨rfl, ⟨hYear, hMonth, hMonths, hDay, hDays⟩, hLast⟩
    unfold Date.check
    simp only [Bool.or_eq_true, decide_eq_true_eq] at *
    rw [if_neg (by omega), if_neg (by omega), if_neg (by omega)]

/-! ## Years -/

/-- The number of days of a year. -/
def daysInYear (year : Nat) : Nat := if isLeap year then 366 else 365

/-- A year is a leap year if it is one of every four, unless it is one of every hundred and not
one of every four hundred. -/
theorem isLeap_iff {year : Nat} :
    isLeap year = true ↔ year % 4 = 0 ∧ (year % 100 = 0 → year % 400 = 0) := by
  by_cases hHundred : year % 100 = 0
  · simp [isLeap, hHundred]
  · simp [isLeap, hHundred]

theorem daysBeforeYear_succ {year : Nat} (h : 1 ≤ year) :
    daysBeforeYear (year + 1) = daysBeforeYear year + daysInYear year := by
  obtain ⟨y, rfl⟩ := Nat.exists_eq_add_of_le' h
  have hLess : y / 100 ≤ y / 4 := Nat.div_le_div_left (by decide) (by decide)
  unfold daysBeforeYear daysInYear
  simp only [Nat.add_sub_cancel]
  by_cases hFour : (y + 1) % 4 = 0
  · have h4 : (y + 1) / 4 = y / 4 + 1 := by omega
    by_cases hHundred : (y + 1) % 100 = 0
    · have h100 : (y + 1) / 100 = y / 100 + 1 := by omega
      by_cases hCycle : (y + 1) % 400 = 0
      · have h400 : (y + 1) / 400 = y / 400 + 1 := by omega
        rw [if_pos (isLeap_iff.2 ⟨hFour, fun _ => hCycle⟩), h4, h100, h400]
        omega
      · have h400 : (y + 1) / 400 = y / 400 := by omega
        rw [if_neg fun hLeap => hCycle ((isLeap_iff.1 hLeap).2 hHundred), h4, h100, h400]
        omega
    · have h100 : (y + 1) / 100 = y / 100 := by omega
      have h400 : (y + 1) / 400 = y / 400 := by omega
      rw [if_pos (isLeap_iff.2 ⟨hFour, fun hNot => absurd hNot hHundred⟩), h4, h100, h400]
      omega
  · have h4 : (y + 1) / 4 = y / 4 := by omega
    have h100 : (y + 1) / 100 = y / 100 := by omega
    have h400 : (y + 1) / 400 = y / 400 := by omega
    rw [if_neg fun hLeap => hFour (isLeap_iff.1 hLeap).1, h4, h100, h400]
    omega

theorem daysBeforeYear_le {year year' : Nat} (h : 1 ≤ year) (hLe : year ≤ year') :
    daysBeforeYear year ≤ daysBeforeYear year' := by
  induction hLe with
  | refl => exact Nat.le_refl _
  | @step y hy ih =>
    rw [daysBeforeYear_succ (Nat.le_trans h hy)]
    omega

/-- The days before a year by its cycles of 400, 100, 4 and 1 years. -/
theorem daysBeforeYear_cycles (a : Nat) {b c d : Nat} (hb : b ≤ 3) (hc : c ≤ 24) (hd : d ≤ 3) :
    daysBeforeYear (a * 400 + b * 100 + c * 4 + d + 1) =
      a * 146097 + b * 36524 + c * 1461 + d * 365 := by
  unfold daysBeforeYear
  have h4 : (a * 400 + b * 100 + c * 4 + d) / 4 = a * 100 + b * 25 + c := by omega
  have h100 : (a * 400 + b * 100 + c * 4 + d) / 100 = a * 4 + b := by omega
  have h400 : (a * 400 + b * 100 + c * 4 + d) / 400 = a := by omega
  simp only [Nat.add_sub_cancel, h4, h100, h400]
  omega

/-! ## Months -/

theorem monthLengths_cases (P : Bool → Nat → Prop) {month : Nat} (h : 1 ≤ month)
    (hLe : month ≤ 12) (hAll : ∀ leap, ∀ m < 12, P leap (m + 1)) (leap : Bool) :
    P leap month := by
  obtain ⟨m, rfl⟩ := Nat.exists_eq_add_of_le' h
  exact hAll leap m (by omega)

/-- The days of the months of a year that are before a month. -/
theorem daysBeforeMonth_succ {year month : Nat} (h : 1 ≤ month) (hLe : month ≤ 12) :
    daysBeforeMonth year (month + 1) = daysBeforeMonth year month + daysInMonth year month := by
  unfold daysBeforeMonth daysInMonth
  exact monthLengths_cases (fun leap m =>
    ((monthLengths leap).take (m + 1 - 1)).foldl (· + ·) 0 =
      ((monthLengths leap).take (m - 1)).foldl (· + ·) 0 + (monthLengths leap).getD (m - 1) 0)
    h hLe (by decide) (isLeap year)

theorem daysBeforeMonth_year (year : Nat) : daysBeforeMonth year 13 = daysInYear year := by
  unfold daysBeforeMonth daysInYear
  cases isLeap year <;> rfl

theorem daysBeforeMonth_one (year : Nat) : daysBeforeMonth year 1 = 0 := rfl

theorem daysBeforeMonth_le {year month month' : Nat} (h : 1 ≤ month) (hLe : month ≤ month')
    (hYear : month' ≤ 13) : daysBeforeMonth year month ≤ daysBeforeMonth year month' := by
  induction hLe with
  | refl => exact Nat.le_refl _
  | @step m hm ih =>
    have hBefore := ih (by omega)
    have hSucc := @daysBeforeMonth_succ year m (Nat.le_trans h hm) (by omega)
    rw [Nat.succ_eq_add_one, hSucc]
    omega

theorem one_le_daysInMonth {year month : Nat} (h : 1 ≤ month) (hLe : month ≤ 12) :
    1 ≤ daysInMonth year month := by
  unfold daysInMonth
  exact monthLengths_cases (fun leap m => 1 ≤ (monthLengths leap).getD (m - 1) 0) h hLe
    (by decide) (isLeap year)

/-! ## Steps from date to date -/

namespace Date

variable {d e : Date}

theorem eq_iff : d = e ↔ d.year = e.year ∧ d.month = e.month ∧ d.day = e.day := by
  cases d
  cases e
  rw [mk.injEq]

theorem isReal_first : first.IsReal := ⟨by decide, by decide, by decide, by decide, by decide⟩

theorem number_first : first.number = 1 := rfl

theorem IsReal.next (h : d.IsReal) : d.next.IsReal := by
  obtain ⟨hYear, hMonth, hMonths, hDay, hDays⟩ := h
  unfold Date.next
  split
  · exact ⟨hYear, hMonth, hMonths, Nat.le_add_left 1 d.day, by assumption⟩
  split
  · exact ⟨hYear, Nat.le_add_left 1 d.month, by assumption, Nat.le_refl 1,
      one_le_daysInMonth (Nat.le_add_left 1 d.month) (by assumption)⟩
  · exact ⟨Nat.le_add_left 1 d.year, Nat.le_refl 1, Nat.le_add_left 1 11, Nat.le_refl 1,
      one_le_daysInMonth (Nat.le_refl 1) (Nat.le_add_left 1 11)⟩

/-- The next date has the next number. -/
theorem number_next (h : d.IsReal) : d.next.number = d.number + 1 := by
  obtain ⟨hYear, hMonth, hMonths, hDay, hDays⟩ := h
  have hEnd := @daysBeforeMonth_succ d.year d.month hMonth hMonths
  unfold Date.next
  split
  · rfl
  rename_i hNotInMonth
  split
  · simp only [number, hEnd]
    omega
  · have hTwelve : d.month = 12 := by omega
    have hYearEnd : daysBeforeMonth d.year (12 + 1) = daysInYear d.year :=
      daysBeforeMonth_year d.year
    rw [hTwelve] at hEnd hDays hNotInMonth
    simp only [number, daysBeforeMonth_one, daysBeforeYear_succ hYear, hTwelve]
    omega

/-! ## Numbers and dates -/

/-- The number of a date lies in its month. -/
theorem IsReal.number_mem_month (h : d.IsReal) :
    daysBeforeYear d.year + daysBeforeMonth d.year d.month < d.number ∧
      d.number ≤ daysBeforeYear d.year + daysBeforeMonth d.year (d.month + 1) := by
  have hEnd := @daysBeforeMonth_succ d.year d.month h.one_le_month h.month_le
  have hFirst := h.one_le_day
  have hLast := h.day_le
  unfold number
  omega

/-- The number of a date lies in its year. -/
theorem IsReal.number_mem_year (h : d.IsReal) :
    daysBeforeYear d.year < d.number ∧ d.number ≤ daysBeforeYear (d.year + 1) := by
  have hMonth := h.number_mem_month
  have hLast := @daysBeforeMonth_le d.year (d.month + 1) 13 (by omega)
    (Nat.succ_le_succ h.month_le) (Nat.le_refl 13)
  rw [daysBeforeMonth_year] at hLast
  rw [daysBeforeYear_succ h.one_le_year]
  omega

theorem IsReal.year_le_of_number_le (hd : d.IsReal) (he : e.IsReal) (h : d.number ≤ e.number) :
    d.year ≤ e.year := by
  refine Nat.le_of_not_lt fun hLater => ?_
  have hBefore := daysBeforeYear_le (Nat.le_add_left 1 e.year) hLater
  have hFirst := hd.number_mem_year.1
  have hLast := he.number_mem_year.2
  omega

/-- A date of the calendar is known by its number. -/
theorem IsReal.eq_of_number (hd : d.IsReal) (he : e.IsReal) (h : d.number = e.number) : d = e := by
  have hYear : d.year = e.year :=
    Nat.le_antisymm (hd.year_le_of_number_le he (Nat.le_of_eq h))
      (he.year_le_of_number_le hd (Nat.le_of_eq h.symm))
  have hMonth : d.month = e.month := by
    have hFirst := hd.number_mem_month
    have hLast := he.number_mem_month
    rw [hYear] at hFirst
    refine Nat.le_antisymm (Nat.le_of_not_lt fun hLater => ?_)
      (Nat.le_of_not_lt fun hLater => ?_)
    · have hBefore := @daysBeforeMonth_le e.year (e.month + 1) d.month (by omega) hLater
        (Nat.le_trans hd.month_le (by decide))
      omega
    · have hBefore := @daysBeforeMonth_le e.year (d.month + 1) e.month (by omega) hLater
        (Nat.le_trans he.month_le (by decide))
      omega
  have hDay : d.day = e.day := by
    unfold number at h
    rw [hYear, hMonth] at h
    omega
  exact eq_iff.2 ⟨hYear, hMonth, hDay⟩

/-- The month and day at a distance that ends inside the listed months. -/
theorem exists_monthDay {lengths : List Nat} {rest : Nat} (month : Nat)
    (h : rest < lengths.foldl (· + ·) 0) :
    ∃ k r, monthDay month rest lengths = (month + k, r + 1) ∧ k < lengths.length ∧
      r < lengths.getD k 0 ∧ (lengths.take k).foldl (· + ·) 0 + r = rest := by
  induction lengths generalizing month rest with
  | nil => exact absurd h (Nat.not_lt_zero rest)
  | cons length lengths ih =>
    have hSum : ∀ ns : List Nat, (length :: ns).foldl (· + ·) 0 =
        length + ns.foldl (· + ·) 0 := by
      intro ns
      rw [List.foldl_cons, Nat.zero_add, ← Nat.add_zero length, List.foldl_assoc, Nat.add_zero]
    unfold monthDay
    split
    · rename_i hFirst
      exact ⟨0, rest, rfl, by simp, by simpa using hFirst, by simp⟩
    · rename_i hLater
      rw [hSum] at h
      obtain ⟨k, r, hResult, hLength, hDay, hRest⟩ := @ih (rest - length) (month + 1) (by omega)
      refine ⟨k + 1, r, ?_, by simpa using hLength, by simpa using hDay, ?_⟩
      · rw [hResult, Nat.add_assoc, Nat.add_comm 1 k]
      · rw [List.take_succ_cons, hSum]
        omega

/-- The date at a distance from the start of its year. -/
def inYear (year rest : Nat) : Date :=
  let monthAndDay := monthDay 1 rest (monthLengths (isLeap year))
  ⟨year, monthAndDay.1, monthAndDay.2⟩

theorem isReal_inYear {year rest : Nat} (hYear : 1 ≤ year) (h : rest < daysInYear year) :
    (inYear year rest).IsReal ∧ (inYear year rest).number = daysBeforeYear year + rest + 1 := by
  have hSum : rest < (monthLengths (isLeap year)).foldl (· + ·) 0 := by
    rw [← daysBeforeMonth_year] at h
    exact h
  obtain ⟨k, r, hResult, hMonth, hDay, hRest⟩ := exists_monthDay 1 hSum
  have hMonths : k < 12 := hMonth
  have hIs : inYear year rest = ⟨year, k + 1, r + 1⟩ := by
    rw [inYear, hResult, Nat.add_comm 1 k]
  rw [hIs]
  refine ⟨⟨hYear, Nat.le_add_left 1 k, hMonths, Nat.le_add_left 1 r, hDay⟩, ?_⟩
  have hBefore : daysBeforeMonth year (k + 1) + r = rest := hRest
  simp only [number]
  omega

/-- A number leads to a date in the year that its cycles of 400, 100, 4 and 1 years end in. -/
theorem exists_ofNumber (m : Nat) :
    ∃ year rest, ofNumber (m + 1) = inYear year rest ∧ 1 ≤ year ∧ rest < daysInYear year ∧
      daysBeforeYear year + rest = m := by
  obtain ⟨c400, hC400⟩ : ∃ c, m / 146097 = c := ⟨_, rfl⟩
  obtain ⟨r400, hR400⟩ : ∃ r, m % 146097 = r := ⟨_, rfl⟩
  obtain ⟨c100, hC100⟩ : ∃ c, min (r400 / 36524) 3 = c := ⟨_, rfl⟩
  obtain ⟨r100, hR100⟩ : ∃ r, r400 - c100 * 36524 = r := ⟨_, rfl⟩
  obtain ⟨c4, hC4⟩ : ∃ c, r100 / 1461 = c := ⟨_, rfl⟩
  obtain ⟨r4, hR4⟩ : ∃ r, r100 % 1461 = r := ⟨_, rfl⟩
  obtain ⟨c1, hC1⟩ : ∃ c, min (r4 / 365) 3 = c := ⟨_, rfl⟩
  obtain ⟨rest, hRest⟩ : ∃ r, r4 - c1 * 365 = r := ⟨_, rfl⟩
  refine ⟨c400 * 400 + c100 * 100 + c4 * 4 + c1 + 1, rest, ?_, Nat.le_add_left 1 _, ?_, ?_⟩
  · subst hC400 hR400 hC100 hR100 hC4 hR4 hC1 hRest
    rfl
  · -- a day 366 is left only by a cycle of 4 years that ends in a leap year
    unfold daysInYear
    split
    · omega
    · rename_i hLeap
      rw [isLeap_iff] at hLeap
      omega
  · rw [daysBeforeYear_cycles c400 (by omega) (by omega) (by omega)]
    omega

/-- A number leads to a date of the calendar. -/
theorem isReal_ofNumber {n : Nat} (h : 1 ≤ n) : (ofNumber n).IsReal := by
  obtain ⟨m, rfl⟩ := Nat.exists_eq_add_of_le' h
  obtain ⟨year, rest, hDate, hYear, hRest, -⟩ := exists_ofNumber m
  rw [hDate]
  exact (isReal_inYear hYear hRest).1

/-- A number is that of the date that it leads to. -/
theorem number_ofNumber {n : Nat} (h : 1 ≤ n) : (ofNumber n).number = n := by
  obtain ⟨m, rfl⟩ := Nat.exists_eq_add_of_le' h
  obtain ⟨year, rest, hDate, hYear, hRest, hNumber⟩ := exists_ofNumber m
  rw [hDate, (isReal_inYear hYear hRest).2, hNumber]

theorem IsReal.one_le_number (h : d.IsReal) : 1 ≤ d.number := by
  have hFirst := h.number_mem_year.1
  omega

/-- The number of a date leads back to it. -/
theorem ofNumber_number (h : d.IsReal) : ofNumber d.number = d :=
  (isReal_ofNumber h.one_le_number).eq_of_number h (number_ofNumber h.one_le_number)

theorem isReal_iterate (n : Nat) : (next^[n] first).IsReal := by
  induction n with
  | zero => exact isReal_first
  | succ n ih =>
    rw [Function.iterate_succ_apply']
    exact ih.next

/-- The number of a date counts the steps to it from the first day. -/
theorem number_iterate (n : Nat) : (next^[n] first).number = n + 1 := by
  induction n with
  | zero => exact number_first
  | succ n ih => rw [Function.iterate_succ_apply', number_next (isReal_iterate n), ih]

/-- A number leads to the date that is as many steps after the first day. -/
theorem ofNumber_eq_iterate (n : Nat) : ofNumber (n + 1) = next^[n] first := by
  rw [← number_iterate n, ofNumber_number (isReal_iterate n)]

end Date
end ViewAdapters.Calendar
