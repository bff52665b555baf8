import ViewAdapters.Proofs.Adapter.TextLines
import ViewAdapters.Proofs.Calendar.Seconds
import ViewAdapters.Proofs.CommandLine.Preparations
import ViewAdapters.Proofs.Text.Numerals

/-!
# Generation times

The generation time is one second of UTC, whichever way it is fixed: by a moment with any offset
and any fraction of a second, or by a text of seconds. Two adapters that differ in nothing else
have one text exactly if their times lie in one second.

* `FixesTime.generationTime_eq_ok_iff`: the time is the second that is fixed.
* `Backend.text_time_inj`: the text of an adapter tells the seconds of its time apart.
* `sameHeader_iff_sameSecond`: moments and texts of one second give one header.
* `epoch_outcomes`: what each text of seconds leads to.
-/

namespace ViewAdapters

open Calendar (DateTime UtcSecond firstSecond lastSecond)
open CommandLine (timeOfEpoch_eq generationTime_epoch)

/-! ## Ways to fix a time -/

/-- The generation time is fixed to a second of UTC: the one that a given moment lies in, and
without a given moment the one whose number from the start of 1970 a text is read as. -/
inductive FixesTime : Option DateTime → Option String → Int → Prop
  | moment {t : DateTime} {epoch : Option String} {n : Int} (h : t.IsIn n) :
      FixesTime (some t) epoch n
  | seconds {text : String} {n : Int} (h : Text.readInteger? text = some n) :
      FixesTime none (some text) n

/-- Every given moment fixes one second, whatever the text says. -/
theorem FixesTime.existsUnique (t : DateTime) (epoch : Option String) :
    ∃! n, FixesTime (some t) epoch n := by
  obtain ⟨n, hIn⟩ := t.exists_isIn
  refine ⟨n, .moment hIn, ?_⟩
  rintro m ⟨hOther⟩
  exact hOther.unique hIn

theorem clock_of_inCalendar {n : Int} (h : firstSecond ≤ n ∧ n ≤ lastSecond) :
    ¬ (n < clockSeconds.1 ∨ clockSeconds.2 < n) ∧ ¬ (n < clockYears.1 ∨ clockYears.2 < n) := by
  obtain ⟨hFirst, hLast⟩ := h
  unfold firstSecond at hFirst
  unfold lastSecond at hLast
  simp only [clockSeconds, clockYears]
  omega

/-- A text that is read as a second of the calendar is the text of that time. -/
theorem timeOfEpoch_eq_ok_iff {text : String} {n : Int} (h : Text.readInteger? text = some n)
    {t : UtcSecond} : timeOfEpoch text = .ok t ↔ t.sinceEpoch = n := by
  rw [timeOfEpoch_eq h]
  constructor
  · intro hOk
    split at hOk
    · contradiction
    split at hOk
    · contradiction
    cases hSecond : UtcSecond.ofSinceEpoch? n with
    | none =>
      rw [hSecond] at hOk
      contradiction
    | some s =>
      rw [hSecond] at hOk
      cases hOk
      exact UtcSecond.ofSinceEpoch?_eq_some_iff.1 hSecond
  · intro hSame
    have hInside : firstSecond ≤ n ∧ n ≤ lastSecond := hSame ▸ ⟨t.first_le, t.le_last⟩
    obtain ⟨hClock, hYears⟩ := clock_of_inCalendar hInside
    rw [if_neg hClock, if_neg hYears, UtcSecond.ofSinceEpoch?_eq_some_iff.2 hSame]
    rfl

section FixesTime

variable {given : Option DateTime} {epoch : Option String} {present : UtcSecond} {n : Int}

/-- The generation time is the second that it is fixed to, which has to be one of the calendar. -/
theorem FixesTime.generationTime_eq_ok_iff (h : FixesTime given epoch n) {t : UtcSecond} :
    generationTime given epoch present = .ok t ↔ t.sinceEpoch = n := by
  cases h with
  | @moment m _ _ h =>
    rw [generationTime_given, UtcSecond.ofDateTime?_of_isIn h,
      ← UtcSecond.ofSinceEpoch?_eq_some_iff]
    cases UtcSecond.ofSinceEpoch? n <;> simp
  | seconds h =>
    rw [generationTime_epoch h]
    exact timeOfEpoch_eq_ok_iff h

theorem FixesTime.exists_generationTime_iff (h : FixesTime given epoch n) :
    (∃ t, generationTime given epoch present = .ok t) ↔ ∃ start : DateTime, start.Starts n := by
  rw [← Calendar.inCalendar_iff]
  constructor
  · rintro ⟨t, hOk⟩
    rw [← h.generationTime_eq_ok_iff.1 hOk]
    exact ⟨t.first_le, t.le_last⟩
  · rintro ⟨hFirst, hLast⟩
    exact ⟨⟨n, hFirst, hLast⟩, h.generationTime_eq_ok_iff.2 rfl⟩

end FixesTime

theorem DateTime.isIn_of_starts {t : DateTime} {n : Int} (h : t.Starts n) : t.IsIn n := by
  have hStart := h.sinceEpoch_eq
  unfold Calendar.DateTime.IsIn
  omega

/-- The text of a second of the calendar is read as that second. -/
theorem fixesTime_numeral {n : Int} (h : firstSecond ≤ n ∧ n ≤ lastSecond) :
    FixesTime none (some (Text.numeral n)) n := by
  obtain ⟨hFirst, hLast⟩ := h
  refine .seconds (Text.readInteger?_numeral ?_)
  have hBound : tenTo 12 ≤ Text.numeralBound := tenTo_le (by decide)
  have hTwelve : tenTo 12 = 1000000000000 := rfl
  unfold firstSecond at hFirst
  unfold lastSecond at hLast
  omega

/-! ## Texts of adapters -/

theorem UserTemplate.bodyLines_time (platform : Platform) (c : Content) (t : UtcSecond) :
    bodyLines platform { c with time := t } = bodyLines platform c := by
  cases platform <;> rfl

/-- The lines of an adapter around the one with its time. -/
theorem Content.exists_lines_time (c : Content) :
    ∃ front back, ∀ t : UtcSecond, ({ c with time := t } : Content).lines =
      front ++ ("// Generated at: " ++ t.headerText) :: back := by
  refine ⟨["// <auto-generated>", "// " ++ Header.disclaimer,
      "// Generated from: " ++ c.viewModel.qualifiedName,
      "// Source module: " ++ c.viewModel.originModule],
    Header.note "NOTE: Custom type mappings or date semantics apply to" c.customMembers ++
      Header.note "WARNING: Members needing custom implementation" c.warnedMembers ++
      ["// Do not edit by hand; changes are overwritten on the next generation run.",
        "// </auto-generated>"] ++ UserTemplate.bodyLines c.platform c, fun t => ?_⟩
  rw [Content.lines, UserTemplate.bodyLines_time]
  simp only [Header.lines, Content.customMembers, Content.warnedMembers, List.cons_append,
    List.nil_append, List.append_assoc]

/-- Two texts that differ in the time of their contents are the same exactly if the times are. -/
theorem Content.textOfLines_time_inj (c : Content) {s t : UtcSecond} :
    textOfLines ({ c with time := s } : Content).lines =
      textOfLines ({ c with time := t } : Content).lines ↔ s = t := by
  refine ⟨fun h => ?_, fun h => h ▸ rfl⟩
  obtain ⟨front, back, hLines⟩ := c.exists_lines_time
  rw [hLines, hLines, Text.textOfLines_append, Text.textOfLines_append, Text.textOfLines_cons,
    Text.textOfLines_cons] at h
  have hChars := congrArg String.toList h
  simp only [String.toList_append, List.append_cancel_left_eq,
    List.append_cancel_right_eq] at hChars
  exact UtcSecond.headerText_inj.1 (String.toList_inj.1 hChars)

/-- Two adapters of one view-model that differ in the time of their backends have one text exactly
if the times are the same. -/
theorem Backend.text_time_inj {b : Backend} {v : ViewModel} {s t : UtcSecond} {a a' : Adapter}
    (hStandard : b.templates = []) (h : { b with time := s }.generate v = .ok a)
    (h' : { b with time := t }.generate v = .ok a') : a.text = a'.text ↔ s = t := by
  obtain ⟨assembly, hMake, hText, -⟩ :=
    @exists_assembly_of_generate { b with time := s } v a hStandard h
  obtain ⟨assembly', hMake', hText', -⟩ :=
    @exists_assembly_of_generate { b with time := t } v a' hStandard h'
  obtain ⟨properties, commands, hProperties, hCommands, rfl⟩ := Assembly.make_eq_ok.1 hMake
  obtain ⟨properties', commands', hProperties', hCommands', rfl⟩ := Assembly.make_eq_ok.1 hMake'
  cases hProperties.symm.trans hProperties'
  cases hCommands.symm.trans hCommands'
  rw [hText, hText']
  exact (Assembly.ofParts b.target b.package s v properties commands).content.textOfLines_time_inj

/-! ## One header for one second -/

section Header

variable {given given' : Option DateTime} {epoch epoch' : Option String} {m n : Int}

/-- However the times are fixed, they have one header exactly if they are fixed to one second, and
so have the adapters. Every second of the years from 1 to 9999 can be fixed, no other can, and the
header of a second is the same from its start as a moment and from its number as a text. Every
moment fixes one second. -/
theorem sameHeader_iff_sameSecond (h : FixesTime given epoch m) (h' : FixesTime given' epoch' n)
    (present present' : UtcSecond) :
    (∀ s t, generationTime given epoch present = .ok s →
      generationTime given' epoch' present' = .ok t →
        (s.headerText = t.headerText ↔ m = n) ∧
        ∀ (b : Backend) v a a', b.templates = [] →
          { b with time := s }.generate v = .ok a → { b with time := t }.generate v = .ok a' →
            (a.text = a'.text ↔ m = n)) ∧
      ((∃ s, generationTime given epoch present = .ok s) ↔
        ∃ start : DateTime, start.Starts m) ∧
      (∀ start : DateTime, start.Starts m →
        ∃ s, s.start = start ∧ generationTime given epoch present = .ok s ∧
          generationTime (some start) epoch' present' = .ok s ∧
          generationTime none (some (Text.numeral m)) present' = .ok s) ∧
      ∀ moment, ∃! k, FixesTime (some moment) epoch k := by
  refine ⟨fun s t hs ht => ?_, h.exists_generationTime_iff, fun start hStart => ?_,
    fun moment => FixesTime.existsUnique moment epoch⟩
  · have hSeconds : s = t ↔ m = n := by
      rw [← h.generationTime_eq_ok_iff.1 hs, ← h'.generationTime_eq_ok_iff.1 ht,
        UtcSecond.sinceEpoch_inj]
    exact ⟨UtcSecond.headerText_inj.trans hSeconds, fun b v a a' hStandard ha ha' =>
      (Backend.text_time_inj hStandard ha ha').trans hSeconds⟩
  · have hInside := Calendar.inCalendar_iff.2 ⟨start, hStart⟩
    obtain ⟨s, hs⟩ := h.exists_generationTime_iff.2 ⟨start, hStart⟩
    have hSecond := h.generationTime_eq_ok_iff.1 hs
    have hGiven : FixesTime (some start) epoch' m := .moment (DateTime.isIn_of_starts hStart)
    exact ⟨s, UtcSecond.start_eq_of_starts (hSecond ▸ hStart), hs,
      hGiven.generationTime_eq_ok_iff.2 hSecond,
      (fixesTime_numeral hInside).generationTime_eq_ok_iff.2 hSecond⟩

/-- One moment in the night after a leap day, in a zone of five and a half hours. -/
def leapNight : DateTime where
  date := ⟨2000, 3, 1⟩
  hour := 1
  minute := 29
  second := 59
  microsecond := 999999
  offset := some 19800000000

/-- The second of that moment. -/
def leapEvening : UtcSecond := ⟨951854399, by decide, by decide⟩

/-- A time of a run, which makes no difference where the time is fixed. -/
def lastOf1970 : UtcSecond := ⟨31535999, by decide, by decide⟩

/-- The moment and the number of its second have the header of the leap day before. -/
theorem sameHeader_leapNight :
    FixesTime (some leapNight) none 951854399 ∧ FixesTime none (some "951854399") 951854399 ∧
      ∃ s t, generationTime (some leapNight) none lastOf1970 = .ok s ∧
        generationTime none (some "951854399") lastOf1970 = .ok t ∧
        s.headerText = t.headerText ∧ s.headerText = "2000-02-29T19:59:59Z" := by
  have hGiven : FixesTime (some leapNight) none 951854399 := .moment ⟨by decide, by decide⟩
  have hText : FixesTime none (some "951854399") 951854399 := .seconds (by decide)
  have hs : generationTime (some leapNight) none lastOf1970 = .ok leapEvening :=
    hGiven.generationTime_eq_ok_iff.2 rfl
  have ht : generationTime none (some "951854399") lastOf1970 = .ok leapEvening :=
    hText.generationTime_eq_ok_iff.2 rfl
  have hHeaders := ((sameHeader_iff_sameSecond hGiven hText lastOf1970 lastOf1970).1 _ _ hs ht).1
  exact ⟨hGiven, hText, leapEvening, leapEvening, hs, ht, hHeaders.2 rfl, by decide⟩

end Header

/-! ## Texts of seconds -/

/-- What a text of seconds leads to, by the integer that it is read as. -/
inductive EpochOutcome (text : String) : Except TimeFault UtcSecond → Prop
  | accepted {n : Int} {t : UtcSecond} (hRead : Text.readInteger? text = some n)
      (hStart : t.start.Starts n) : EpochOutcome text (.ok t)
  | unread (hRead : Text.readInteger? text = none) : EpochOutcome text (.error (.badEpoch text))
  | outOfCalendar {n : Int} (hRead : Text.readInteger? text = some n)
      (hYears : clockYears.1 ≤ n ∧ n ≤ clockYears.2)
      (hNone : ∀ start : DateTime, ¬ start.Starts n) :
      EpochOutcome text (.error (.badEpoch text))
  | beyondYears {n : Int} (hRead : Text.readInteger? text = some n)
      (hClock : clockSeconds.1 ≤ n ∧ n ≤ clockSeconds.2)
      (hYears : n < clockYears.1 ∨ clockYears.2 < n) : EpochOutcome text (.error .beyondYears)
  | beyondClock {n : Int} (hRead : Text.readInteger? text = some n)
      (hClock : n < clockSeconds.1 ∨ clockSeconds.2 < n) : EpochOutcome text (.error .beyondClock)

section Epoch

variable {text : String} {present : UtcSecond} {result : Except TimeFault UtcSecond}

theorem epochOutcome_timeOfEpoch (text : String) : EpochOutcome text (timeOfEpoch text) := by
  cases hRead : Text.readInteger? text with
  | none =>
    rw [timeOfEpoch, hRead]
    exact .unread hRead
  | some n =>
    rw [timeOfEpoch_eq hRead]
    split
    · exact .beyondClock hRead ‹_›
    split
    · exact .beyondYears hRead (by omega) ‹_›
    cases hSecond : UtcSecond.ofSinceEpoch? n with
    | some t =>
      exact .accepted hRead (UtcSecond.starts_iff.2 (UtcSecond.ofSinceEpoch?_eq_some_iff.1 hSecond))
    | none =>
      refine .outOfCalendar hRead (by omega) fun start hStart => ?_
      obtain ⟨hFirst, hLast⟩ := Calendar.inCalendar_iff.2 ⟨start, hStart⟩
      rw [@UtcSecond.ofSinceEpoch?_eq_some_iff n ⟨n, hFirst, hLast⟩ |>.2 rfl] at hSecond
      contradiction

theorem EpochOutcome.eq_timeOfEpoch (h : EpochOutcome text result) : timeOfEpoch text = result := by
  cases h with
  | accepted hRead hStart => exact (timeOfEpoch_eq_ok_iff hRead).2 (UtcSecond.starts_iff.1 hStart)
  | unread hRead => rw [timeOfEpoch, hRead]
  | @outOfCalendar n hRead hYears hNone =>
    have hOutside : UtcSecond.ofSinceEpoch? n = none := by
      refine Option.eq_none_iff_forall_ne_some.2 fun t hSecond => ?_
      exact hNone t.start (UtcSecond.starts_iff.2 (UtcSecond.ofSinceEpoch?_eq_some_iff.1 hSecond))
    have hClock : ¬ (n < clockSeconds.1 ∨ clockSeconds.2 < n) := by
      simp only [clockSeconds, clockYears] at hYears ⊢
      omega
    rw [timeOfEpoch_eq hRead, if_neg hClock, if_neg (by omega), hOutside, Option.elim_none]
  | beyondYears hRead hClock hYears =>
    rw [timeOfEpoch_eq hRead, if_neg (by omega), if_pos hYears]
  | beyondClock hRead hClock => rw [timeOfEpoch_eq hRead, if_pos hClock]

/-- A text of seconds gives the time that it counts if that is in the years from 1 to 9999. It is
refused with the text if it is no integer or counts a second of other years, but a number that is
too large for the years or the clock of the system is refused without it. -/
theorem epoch_outcomes (hSome : text ≠ "") :
    generationTime none (some text) present = result ↔ EpochOutcome text result := by
  have hShown : (!text.isEmpty) = true := by
    rw [Bool.not_eq_true', Bool.eq_false_iff]
    exact fun hEmpty => hSome (String.isEmpty_iff.1 hEmpty)
  have hTime : generationTime none (some text) present = timeOfEpoch text := by
    rw [generationTime, Option.filter_some, if_pos hShown]
  rw [hTime]
  exact ⟨fun h => h ▸ epochOutcome_timeOfEpoch text, EpochOutcome.eq_timeOfEpoch⟩

end Epoch

/-- The first second that no date has is refused with its text. -/
theorem epoch_outcomes_afterLast :
    "253402300800" ≠ "" ∧ generationTime none (some "253402300800") lastOf1970 =
      .error (.badEpoch "253402300800") := by
  have hRead : Text.readInteger? "253402300800" = some 253402300800 := by decide
  refine ⟨by decide, (epoch_outcomes (by decide)).2 (.outOfCalendar hRead (by decide) ?_)⟩
  intro start hStart
  exact absurd (Calendar.inCalendar_iff.2 ⟨start, hStart⟩).2 (by decide)

/-- A number of seconds that no clock counts is refused, but not with its text. -/
theorem epoch_beyond_clock :
    ¬ ∀ text present, text ≠ "" → (∃ t, generationTime none (some text) present = .ok t) ∨
      generationTime none (some text) present = .error (.badEpoch text) := by
  intro h
  have hRead : Text.readInteger? "99999999999999999999" = some 99999999999999999999 := by decide
  have hClock : generationTime none (some "99999999999999999999") lastOf1970 =
      .error .beyondClock := by
    rw [generationTime_epoch hRead, timeOfEpoch_eq hRead, if_pos (by decide)]
  rcases h "99999999999999999999" lastOf1970 (by decide) with ⟨t, hTime⟩ | hText
  · rw [hClock] at hTime
    contradiction
  · rw [hClock] at hText
    contradiction

end ViewAdapters
