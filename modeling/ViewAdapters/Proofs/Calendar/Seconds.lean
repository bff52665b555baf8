import Mathlib.Data.List.Basic
import ViewAdapters.Calendar.UtcSecond
import ViewAdapters.Proofs.Adapter.InputTexts
import ViewAdapters.Proofs.Calendar.Days

/-!
# Seconds and their texts

A second of UTC is a date of the calendar with a time of day, and every moment lies in one second
whatever its offset. The text of a header shows that date and time, so two seconds with one text
are the same, although the year is not padded.

* `UtcSecond.sinceEpoch_start`: a second starts at its date and time of day.
* `inCalendar_iff`: the seconds of the calendar are those of the years from 1 to 9999.
* `UtcSecond.headerText_inj`: a second is known by its text.
-/

namespace ViewAdapters.Calendar

/-! ## Seconds of the calendar -/

theorem number_le_of_year {d : Date} (h : d.IsReal) (hYear : d.year ≤ 9999) :
    d.number ≤ 3652059 :=
  Nat.le_trans h.number_mem_year.2 (daysBeforeYear_le (Nat.le_add_left 1 d.year)
    (Nat.succ_le_succ hYear))

theorem year_le_of_number {d : Date} (h : d.IsReal) (hNumber : d.number ≤ 3652059) :
    d.year ≤ 9999 := by
  refine Nat.le_of_not_lt fun hLater => ?_
  have hBefore : 3652059 ≤ daysBeforeYear d.year := daysBeforeYear_le (by decide : 1 ≤ 10000) hLater
  have hFirst := h.number_mem_year.1
  omega

namespace UtcSecond

variable (t : UtcSecond)

/-- The moment that a second starts with. -/
def start : DateTime where
  date := t.date
  hour := t.ofDay / 3600
  minute := t.ofDay / 60 % 60
  second := t.ofDay % 60
  microsecond := 0
  offset := some 0

/-- The number of the day that a second is part of. -/
def dayNumber : Nat := (Int.fdiv t.sinceEpoch 86400 + epochDay).toNat

theorem dayNumber_and_ofDay :
    1 ≤ t.dayNumber ∧ t.dayNumber ≤ 3652059 ∧ t.ofDay < 86400 ∧
      t.sinceEpoch = ((t.dayNumber : Int) - epochDay) * 86400 + t.ofDay := by
  have hFirst := t.first_le
  have hLast := t.le_last
  unfold firstSecond at hFirst
  unfold lastSecond at hLast
  unfold dayNumber ofDay epochDay
  rw [Int.fdiv_eq_ediv_of_nonneg _ (by decide), Int.fmod_eq_emod_of_nonneg _ (by decide)]
  omega

theorem number_date : t.date.number = t.dayNumber :=
  Date.number_ofNumber t.dayNumber_and_ofDay.1

theorem isReal_date : t.date.IsReal := Date.isReal_ofNumber t.dayNumber_and_ofDay.1

theorem year_le : t.date.year ≤ 9999 :=
  year_le_of_number t.isReal_date (t.number_date ▸ t.dayNumber_and_ofDay.2.1)

/-- A second starts at its date and its time of day. -/
theorem sinceEpoch_start : t.start.sinceEpoch = t.sinceEpoch * 1000000 := by
  obtain ⟨-, -, hOfDay, hSeconds⟩ := t.dayNumber_and_ofDay
  rw [hSeconds]
  simp only [DateTime.sinceEpoch, start, number_date, Option.getD_some]
  omega

end UtcSecond

/-- A moment in UTC that starts a second. -/
structure DateTime.Starts (t : DateTime) (n : Int) : Prop where
  isReal_date : t.date.IsReal
  year_le : t.date.year ≤ 9999
  hour_le : t.hour ≤ 23
  minute_le : t.minute ≤ 59
  second_le : t.second ≤ 59
  microsecond_eq : t.microsecond = 0
  offset_eq : t.offset = some 0
  sinceEpoch_eq : t.sinceEpoch = n * 1000000

theorem UtcSecond.starts_start (t : UtcSecond) : t.start.Starts t.sinceEpoch := by
  have hOfDay := t.dayNumber_and_ofDay.2.2.1
  exact ⟨t.isReal_date, t.year_le, by simp only [start]; omega, by simp only [start]; omega,
    by simp only [start]; omega, rfl, rfl, t.sinceEpoch_start⟩

/-- The seconds of the calendar are those with a date in the years from 1 to 9999. -/
theorem inCalendar_iff {n : Int} :
    firstSecond ≤ n ∧ n ≤ lastSecond ↔ ∃ t : DateTime, t.Starts n := by
  constructor
  · rintro ⟨hFirst, hLast⟩
    exact ⟨_, (⟨n, hFirst, hLast⟩ : UtcSecond).starts_start⟩
  · rintro ⟨t, hReal, hYear, hHour, hMinute, hSecond, hMicro, hOffset, hStart⟩
    have hNumber := number_le_of_year hReal hYear
    have hOne := hReal.one_le_number
    unfold firstSecond lastSecond
    simp only [DateTime.sinceEpoch, hMicro, hOffset, Option.getD_some, epochDay] at hStart
    omega

theorem UtcSecond.starts_iff {t : UtcSecond} {n : Int} :
    t.start.Starts n ↔ t.sinceEpoch = n := by
  refine ⟨fun h => ?_, fun h => h ▸ t.starts_start⟩
  have hStart := t.sinceEpoch_start.symm.trans h.sinceEpoch_eq
  omega

/-- A second has one moment that it starts with. -/
theorem UtcSecond.start_eq_of_starts {t : UtcSecond} {m : DateTime}
    (h : m.Starts t.sinceEpoch) : t.start = m := by
  obtain ⟨-, -, hOfDay, hSeconds⟩ := t.dayNumber_and_ofDay
  obtain ⟨hReal, -, hHour, hMinute, hSecond, hMicro, hOffset, hStart⟩ := h
  have hOne := hReal.one_le_number
  simp only [DateTime.sinceEpoch, hMicro, hOffset, Option.getD_some] at hStart
  have hNumber : t.dayNumber = m.date.number := by omega
  have hTime : t.ofDay = m.hour * 3600 + m.minute * 60 + m.second := by omega
  have hDate : t.date = m.date :=
    t.isReal_date.eq_of_number hReal (t.number_date.trans hNumber)
  cases m
  simp only at hDate hTime hMicro hOffset hHour hMinute hSecond
  simp only [start, hDate, hTime, hMicro, hOffset, DateTime.mk.injEq, and_true, true_and]
  omega

/-! ## Moments in seconds -/

/-- A moment lies in a second of UTC, counted from the start of 1970. -/
def DateTime.IsIn (t : DateTime) (n : Int) : Prop :=
  n * 1000000 ≤ t.sinceEpoch ∧ t.sinceEpoch < (n + 1) * 1000000

section IsIn

variable {t : DateTime} {m n : Int}

theorem DateTime.exists_isIn (t : DateTime) : ∃ n, t.IsIn n := by
  refine ⟨t.sinceEpoch / 1000000, ?_⟩
  unfold IsIn
  omega

theorem DateTime.IsIn.unique (hm : t.IsIn m) (hn : t.IsIn n) : m = n := by
  unfold IsIn at hm hn
  omega

/-- The second of a moment is the one that it lies in, if that is part of the calendar. -/
theorem UtcSecond.ofDateTime?_of_isIn (h : t.IsIn n) : ofDateTime? t = ofSinceEpoch? n := by
  unfold DateTime.IsIn at h
  have hFloor : Int.fdiv t.sinceEpoch 1000000 = n := by
    rw [Int.fdiv_eq_ediv_of_nonneg _ (by decide)]
    omega
  rw [ofDateTime?, hFloor]

end IsIn

/-! ## Texts -/

section Numerals

variable {m n : Nat}

theorem ofDigitChars_padded (width n : Nat) :
    Nat.ofDigitChars 10 (padded width n).toList 0 = n := by
  rw [padded, String.toList_ofList, Nat.ofDigitChars_append, Nat.ofDigitChars_replicate_zero,
    Nat.mul_zero, Nat.ofDigitChars_ten_toDigits]

/-- A number is known by its digits, with or without zeros in front. -/
theorem padded_inj {width : Nat} (h : (padded width m).toList = (padded width n).toList) :
    m = n := by
  rw [← ofDigitChars_padded width m, h, ofDigitChars_padded]

theorem toString_inj (h : (toString m).toList = (toString n).toList) : m = n := by
  have hDigits : Nat.toDigits 10 m = Nat.toDigits 10 n := by
    simpa only [Nat.toString_eq_repr, Nat.toList_repr] using h
  rw [← @Nat.ofDigitChars_ten_toDigits m, hDigits, Nat.ofDigitChars_ten_toDigits]

end Numerals

section Fields

variable {c : Char} {a b x y : List Char}

/-- Where two texts go on behind a mark that neither has in front of it, both parts agree. -/
theorem eq_of_append_mark (ha : c ∉ a) (hb : c ∉ b) (h : a ++ c :: x = b ++ c :: y) :
    a = b ∧ x = y := by
  induction a generalizing b with
  | nil =>
    cases b with
    | nil => exact ⟨rfl, List.tail_eq_of_cons_eq h⟩
    | cons d b => exact absurd (List.head_eq_of_cons_eq h ▸ List.mem_cons_self) hb
  | cons d a ih =>
    cases b with
    | nil => exact absurd (List.head_eq_of_cons_eq h ▸ List.mem_cons_self) ha
    | cons e b =>
      obtain ⟨rfl, hRest⟩ := List.cons_eq_cons.1 h
      obtain ⟨rfl, hTail⟩ := ih (List.not_mem_of_not_mem_cons ha)
        (List.not_mem_of_not_mem_cons hb) hRest
      exact ⟨rfl, hTail⟩

/-- Fields of digits, each with the mark behind it. -/
abbrev Fields := List (String × Char)

def Fields.chars (fields : Fields) : List Char := fields.flatMap fun f => f.1.toList ++ [f.2]

/-- Fields of digits are known by their text if their marks are known. -/
theorem Fields.eq_of_chars {fields fields' : Fields}
    (hMarks : fields.map Prod.snd = fields'.map Prod.snd)
    (hDigits : ∀ f ∈ fields, IsDigits f.1 ∧ f.2.isDigit = false)
    (hDigits' : ∀ f ∈ fields', IsDigits f.1 ∧ f.2.isDigit = false)
    (h : fields.chars = fields'.chars) : fields = fields' := by
  induction fields generalizing fields' with
  | nil => exact (List.map_eq_nil_iff.1 hMarks.symm).symm
  | cons f fields ih =>
    cases fields' with
    | nil => contradiction
    | cons f' fields' =>
      obtain ⟨hMark, hRest⟩ := List.cons_eq_cons.1 hMarks
      rw [List.forall_mem_cons] at hDigits hDigits'
      have hNotIn : f.2 ∉ f.1.toList := fun hIn =>
        absurd (hDigits.1.1 _ hIn) (Bool.eq_false_iff.1 hDigits.1.2)
      have hNotIn' : f'.2 ∉ f'.1.toList := fun hIn =>
        absurd (hDigits'.1.1 _ hIn) (Bool.eq_false_iff.1 hDigits'.1.2)
      rw [← hMark] at hNotIn'
      rw [chars, chars, List.flatMap_cons, List.flatMap_cons, List.append_assoc,
        List.append_assoc, List.singleton_append, List.singleton_append, ← hMark] at h
      obtain ⟨hField, hTail⟩ := eq_of_append_mark hNotIn hNotIn' h
      rw [Prod.ext (String.toList_inj.1 hField) hMark, ih hRest hDigits.2 hDigits'.2 hTail]

end Fields

namespace UtcSecond

variable {s t : UtcSecond}

/-- The numbers in the text of a header, with their marks. -/
def headerFields (t : UtcSecond) : Fields :=
  [(toString t.date.year, '-'), (padded 2 t.date.month, '-'), (padded 2 t.date.day, 'T'),
    (padded 2 (t.ofDay / 3600), ':'), (padded 2 (t.ofDay / 60 % 60), ':'),
    (padded 2 (t.ofDay % 60), 'Z')]

theorem toList_headerText (t : UtcSecond) : t.headerText.toList = t.headerFields.chars := by
  simp [headerText, clockText, headerFields, Fields.chars]

theorem marks_headerFields (t : UtcSecond) :
    t.headerFields.map Prod.snd = ['-', '-', 'T', ':', ':', 'Z'] := rfl

theorem isDigits_headerFields (t : UtcSecond) :
    ∀ f ∈ t.headerFields, IsDigits f.1 ∧ f.2.isDigit = false := by
  have hYear : IsDigits (toString t.date.year) := by
    rw [Nat.toString_eq_repr, Nat.repr_eq_ofList_toDigits]
    exact isDigits_toDigits t.date.year
  simp only [headerFields, List.forall_mem_cons]
  exact ⟨⟨hYear, rfl⟩, ⟨isDigits_padded 2 _, rfl⟩, ⟨isDigits_padded 2 _, rfl⟩,
    ⟨isDigits_padded 2 _, rfl⟩, ⟨isDigits_padded 2 _, rfl⟩, ⟨isDigits_padded 2 _, rfl⟩, nofun⟩

theorem sinceEpoch_inj : s.sinceEpoch = t.sinceEpoch ↔ s = t := by
  cases s
  cases t
  simp

/-- A second is known by its date and its time of day. -/
theorem eq_of_date_of_ofDay (hDate : s.date = t.date) (hOfDay : s.ofDay = t.ofDay) : s = t := by
  have hs := s.dayNumber_and_ofDay.2.2.2
  have ht := t.dayNumber_and_ofDay.2.2.2
  rw [← number_date, hDate, hOfDay] at hs
  rw [← number_date] at ht
  exact sinceEpoch_inj.1 (hs.trans ht.symm)

/-- A second is known by its text. -/
theorem headerText_inj : s.headerText = t.headerText ↔ s = t := by
  refine ⟨fun h => ?_, fun h => h ▸ rfl⟩
  have hFields : s.headerFields = t.headerFields :=
    Fields.eq_of_chars (s.marks_headerFields.trans t.marks_headerFields.symm)
      s.isDigits_headerFields t.isDigits_headerFields
      (by rw [← toList_headerText, ← toList_headerText, h])
  simp only [headerFields, List.cons.injEq, Prod.mk.injEq, and_true] at hFields
  obtain ⟨hYear, hMonth, hDay, hHour, hMinute, hSecond⟩ := hFields
  have hDate : s.date = t.date := Date.eq_iff.2 ⟨toString_inj (congrArg String.toList hYear),
    padded_inj (congrArg String.toList hMonth), padded_inj (congrArg String.toList hDay)⟩
  have hHour := padded_inj (congrArg String.toList hHour)
  have hMinute := padded_inj (congrArg String.toList hMinute)
  have hSecond := padded_inj (congrArg String.toList hSecond)
  exact eq_of_date_of_ofDay hDate (by omega)

end UtcSecond
end ViewAdapters.Calendar
