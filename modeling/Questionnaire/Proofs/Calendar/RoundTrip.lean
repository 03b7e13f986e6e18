import Questionnaire.Proofs.Calendar.Formats

namespace Questionnaire.Calendar

open Number (isDigit natOfDigits paddedDigits)

theorem takeNumber?_paddedDigits {width n : ℕ} (hwidth : 0 < width) (h : n < 10 ^ width)
    (rest : List Char) : takeNumber? width (paddedDigits width n ++ rest) = some (n, rest) :=
  takeNumber?_eq_some_iff.mpr ⟨_, rfl, Number.length_paddedDigits hwidth h,
    Number.isDigit_of_mem_paddedDigits, Number.natOfDigits_paddedDigits _ _⟩

theorem takeNumber?_two {n : ℕ} (h : n < 100) (rest : List Char) :
    takeNumber? 2 (paddedDigits 2 n ++ rest) = some (n, rest) :=
  takeNumber?_paddedDigits (by decide) h rest

/-- Dropping a character at the end leaves out nothing else. -/
theorem exists_append_replicate (c : Char) (cs : List Char) :
    ∃ k, cs = (cs.reverse.dropWhile (· = c)).reverse ++ List.replicate k c := by
  have hsplit := List.takeWhile_append_dropWhile (p := (· = c)) (l := cs.reverse)
  have hdropped : ∀ x ∈ cs.reverse.takeWhile (· = c), x = c := by
    intro x hx
    have hp := List.mem_takeWhile_imp hx
    exact of_decide_eq_true hp
  refine ⟨(cs.reverse.takeWhile (· = c)).length, ?_⟩
  rw [← List.reverse_replicate, ← List.eq_replicate_of_mem hdropped, ← List.reverse_append, hsplit,
    List.reverse_reverse]

theorem daysInMonth_le (year : ℤ) (month : ℕ) : daysInMonth year month ≤ 31 := by
  unfold daysInMonth
  split <;> try split
  all_goals decide

/-- The characters of month and day. -/
def Date.monthDayChars (d : Date) : List Char :=
  '-' :: (paddedDigits 2 d.month ++ '-' :: paddedDigits 2 d.day)

theorem Date.chars_of_nonneg {d : Date} (h : 0 ≤ d.year) :
    d.chars = paddedDigits 4 d.year.natAbs ++ d.monthDayChars := by
  rw [chars, if_neg (by omega), monthDayChars]
  simp only [List.append_assoc, List.cons_append, List.nil_append]

theorem Date.chars_of_neg {d : Date} (h : d.year < 0) :
    d.chars = '-' :: (paddedDigits 4 d.year.natAbs ++ d.monthDayChars) := by
  rw [chars, if_pos h, monthDayChars]
  simp only [List.append_assoc, List.cons_append, List.nil_append]

theorem takeYearNumber?_chars (d : Date) (rest : List Char) :
    takeNumber? 4 (paddedDigits 4 d.year.natAbs ++ rest) = some (d.year.natAbs, rest) := by
  have hyear := d.year_inRange
  exact takeNumber?_paddedDigits (by decide) (by omega) rest

theorem takeMonthDay?_chars (d : Date) (rest : List Char) :
    takeMonthDay? d.year (d.monthDayChars ++ rest) = some (d, rest) := by
  have hmonth : d.month < 100 := by
    have := d.month_inRange
    omega
  have hday : d.day < 100 := by
    have := d.day_inMonth
    have := daysInMonth_le d.year d.month
    omega
  simp only [takeMonthDay?, Date.monthDayChars, List.cons_append, List.append_assoc, takeChar?_cons,
    takeNumber?_two hmonth, takeNumber?_two hday, d.of?_self, Option.bind_eq_bind, Option.bind_some,
    Option.pure_def]

theorem takeDate?_chars (d : Date) (rest : List Char) :
    takeDate? (d.chars ++ rest) = some (d, rest) := by
  have hyear : takeYear? (d.chars ++ rest) = some (d.year, d.monthDayChars ++ rest) := by
    rcases Int.lt_or_le d.year 0 with h | h
    · have hvalue : -(d.year.natAbs : ℤ) = d.year := by omega
      rw [Date.chars_of_neg h, List.cons_append, List.append_assoc, takeYear?, takeYearNumber?_chars]
      exact congrArg (fun year => some (year, _)) hvalue
    · rw [Date.chars_of_nonneg h, List.append_assoc,
        takeYear?_of_takeNumber? (takeYearNumber?_chars d _), Int.natAbs_of_nonneg h]
  rw [takeDate?, hyear]
  exact takeMonthDay?_chars d rest

theorem dateOf?_chars (d : Date) : dateOf? d.chars = some d := by
  rw [dateOf?_eq_some_iff, ← List.append_nil d.chars]
  exact takeDate?_chars d []

theorem takeClock?_digits {hour minute : ℕ} (hhour : hour < 100) (hminute : minute < 100)
    (rest : List Char) :
    takeClock? (paddedDigits 2 hour ++ ':' :: (paddedDigits 2 minute ++ rest)) =
      some (hour, minute, rest) := by
  simp only [takeClock?, takeNumber?_two hhour, takeNumber?_two hminute, takeChar?_cons,
    Option.bind_eq_bind, Option.bind_some, Option.pure_def]

/-- The time with its nanoseconds cut off. -/
def TimeOfDay.toSecond (t : TimeOfDay) : TimeOfDay :=
  { t with nanosecond := 0, nanosecond_lt := TimeOfDay.midnight.nanosecond_lt }

section

variable (t : TimeOfDay)

theorem TimeOfDay.hour_lt_hundred : t.hour < 100 := t.hour_lt.trans (by decide)

theorem TimeOfDay.minute_lt_hundred : t.minute < 100 := t.minute_lt.trans (by decide)

theorem TimeOfDay.second_lt_hundred : t.second < 100 := t.second_lt.trans (by decide)

theorem TimeOfDay.chars_append (rest : List Char) :
    t.chars ++ rest = paddedDigits 2 t.hour ++ ':' :: (paddedDigits 2 t.minute ++
      ':' :: (paddedDigits 2 t.second ++ rest)) := by
  simp only [chars, List.append_assoc, List.cons_append]

theorem timeOf?_chars : timeOf? t.chars = some t.toSecond := by
  rw [← List.append_nil t.chars, t.chars_append]
  simp only [timeOf?, takeClock?_digits t.hour_lt_hundred t.minute_lt_hundred,
    takeNumber?_two t.second_lt_hundred, Option.bind_eq_bind, Option.bind_some, List.isEmpty_nil,
    if_true]
  exact t.toSecond.of?_self

theorem TimeOfDay.exists_fractionDigits :
    ∃ k, paddedDigits 9 t.nanosecond = t.fractionDigits ++ List.replicate k '0' :=
  exists_append_replicate '0' _

theorem TimeOfDay.natOfDigits_fraction :
    natOfDigits ((t.fractionDigits ++ List.replicate 9 '0').take 9) = t.nanosecond := by
  obtain ⟨k, hk⟩ := t.exists_fractionDigits
  have hlength := congrArg List.length hk
  rw [Number.length_paddedDigits (by decide) t.nanosecond_lt, List.length_append, List.length_replicate]
    at hlength
  rw [List.take_append, List.take_replicate, List.take_of_length_le (by omega),
    Nat.min_eq_left (by omega), show 9 - t.fractionDigits.length = k by omega, ← hk,
    Number.natOfDigits_paddedDigits]

/-- The point and the digits of the nanoseconds, if there are any. -/
def TimeOfDay.fractionChars (t : TimeOfDay) : List Char :=
  if t.fractionDigits.isEmpty then [] else '.' :: t.fractionDigits

theorem TimeOfDay.isDigit_of_mem_fractionDigits : ∀ c ∈ t.fractionDigits, isDigit c := by
  obtain ⟨k, hk⟩ := t.exists_fractionDigits
  intro c hc
  have hmem : c ∈ paddedDigits 9 t.nanosecond := by
    rw [hk]
    exact List.mem_append_left _ hc
  exact Number.isDigit_of_mem_paddedDigits c hmem

theorem takeNanoseconds?_fractionChars {rest : List Char}
    (hrest : ∀ c ∈ rest.head?, ¬isDigit c ∧ c ≠ '.') :
    takeNanoseconds? (t.fractionChars ++ rest) = some (t.nanosecond, rest) := by
  have hvalue := t.natOfDigits_fraction
  unfold TimeOfDay.fractionChars
  cases hdigits : t.fractionDigits with
  | nil =>
    rw [hdigits] at hvalue
    have hzero : t.nanosecond = 0 := hvalue.symm
    rw [hzero]
    change takeNanoseconds? rest = _
    unfold takeNanoseconds?
    split
    · exact absurd rfl (hrest '.' rfl).2
    · rfl
  | cons d ds =>
    have hmem : ∀ c ∈ d :: ds, isDigit c := hdigits ▸ t.isDigit_of_mem_fractionDigits
    have hhead : ∀ c ∈ rest.head?, ¬isDigit c := fun c hc => (hrest c hc).1
    rw [hdigits] at hvalue
    change takeNanoseconds? ('.' :: ((d :: ds) ++ rest)) = _
    simp only [takeNanoseconds?, Number.takeWhile_append_of_head hmem hhead,
      Number.dropWhile_append_of_head hmem hhead, hvalue]
    rfl

end

theorem Offset.of?_self (o : Offset) : Offset.of? o.seconds = some o := by
  unfold of?
  rw [dif_pos o.inRange]

theorem Offset.head_chars (o : Offset) : ∀ c ∈ o.chars.head?, ¬isDigit c ∧ c ≠ '.' := by
  unfold chars
  split
  · rintro c ⟨⟩
    decide
  · split
    · rintro c ⟨⟩
      decide
    · rintro c ⟨⟩
      decide

theorem offsetOf?_signed {sign : Char} {hours minutes : ℕ} (hhours : hours < 24)
    (hminutes : minutes < 60) :
    offsetOf? (sign :: (paddedDigits 2 hours ++ ':' :: paddedDigits 2 minutes)) =
      if sign = '+' then Offset.of? ((hours * 60 + minutes) * 60)
      else if sign = '-' then Offset.of? (-((hours * 60 + minutes) * 60)) else none := by
  have hclock : takeClock? (paddedDigits 2 hours ++ ':' :: paddedDigits 2 minutes) =
      some (hours, minutes, []) := by
    rw [← List.append_nil (paddedDigits 2 minutes)]
    exact takeClock?_digits (by omega) (by omega) []
  have hne : paddedDigits 2 hours ++ ':' :: paddedDigits 2 minutes ≠ [] := by simp
  unfold offsetOf?
  -- the letters for UTC stand alone, so only a sign is left
  split
  · rename_i heq
    exact absurd (List.cons.inj heq).2 hne
  · rename_i heq
    exact absurd (List.cons.inj heq).2 hne
  · rename_i heq
    obtain ⟨rfl, rfl⟩ := List.cons.inj heq
    simp [hclock, hhours, hminutes]
  · rename_i heq
    cases heq

theorem offsetOf?_chars {o : Offset} (hminutes : 60 ∣ o.seconds)
    (hday : o.seconds.natAbs < 86400) : offsetOf? o.chars = some o := by
  have hhours : o.seconds.natAbs / 3600 < 24 := by omega
  have hminute : o.seconds.natAbs / 60 % 60 < 60 := by omega
  unfold Offset.chars
  rcases lt_trichotomy o.seconds 0 with h | h | h
  · have hseconds : -(((o.seconds.natAbs / 3600 : ℕ) * 60 + (o.seconds.natAbs / 60 % 60 : ℕ)) * 60 : ℤ) =
        o.seconds := by omega
    rw [if_neg h.ne, if_pos h, List.cons_append, offsetOf?_signed hhours hminute, hseconds, o.of?_self]
    rfl
  · rw [if_pos h, ← o.of?_self, h]
    rfl
  · have hseconds : (((o.seconds.natAbs / 3600 : ℕ) * 60 + (o.seconds.natAbs / 60 % 60 : ℕ)) * 60 : ℤ) =
        o.seconds := by omega
    rw [if_neg h.ne', if_neg h.not_gt, List.cons_append, offsetOf?_signed hhours hminute, hseconds,
      o.of?_self]
    rfl

theorem Moment.isRfc3339_iff {m : Moment} :
    m.isRfc3339 = true ↔
      0 ≤ m.date.year ∧ 60 ∣ m.offset.seconds ∧ m.offset.seconds.natAbs < 86400 := by
  simp only [isRfc3339, Bool.and_eq_true, decide_eq_true_eq, Int.dvd_iff_emod_eq_zero, and_assoc]

theorem Moment.rfc3339Chars_eq (m : Moment) :
    m.rfc3339Chars =
      m.date.chars ++ 'T' :: (m.time.chars ++ (m.time.fractionChars ++ m.offset.chars)) := by
  rw [rfc3339Chars]
  simp only [List.append_assoc, List.cons_append]
  rfl

theorem rfc3339Of?_chars {m : Moment} (h : m.isRfc3339 = true) :
    rfc3339Of? m.rfc3339Chars = some m := by
  obtain ⟨hyear, hminutes, hday⟩ := Moment.isRfc3339_iff.mp h
  have hdate : takeMonthDay? (m.date.year.natAbs : ℤ) = takeMonthDay? m.date.year := by
    rw [Int.natAbs_of_nonneg hyear]
  have hsecond : m.time.second ≠ 60 := m.time.second_lt.ne
  rw [m.rfc3339Chars_eq, Date.chars_of_nonneg hyear, List.append_assoc, m.time.chars_append]
  -- the reader goes over the text field by field, each lemma with what follows its field
  simp only [rfc3339Of?, takeYearNumber?_chars, hdate, takeMonthDay?_chars, Option.bind_eq_bind,
    Option.bind_some, List.head?_cons, List.drop_succ_cons, List.drop_zero,
    takeClock?_digits m.time.hour_lt_hundred m.time.minute_lt_hundred, takeChar?_cons,
    takeNumber?_two m.time.second_lt_hundred, takeNanoseconds?_fractionChars m.time m.offset.head_chars,
    offsetOf?_chars hminutes hday]
  rw [if_neg (by decide), if_neg hsecond, m.time.of?_self]
  rfl

theorem Date.ofText?_text (d : Date) : Date.ofText? d.text = some d := by
  rw [ofText?, text, String.toList_ofList, dateOf?_chars]
  rfl

theorem TimeOfDay.ofText?_text (t : TimeOfDay) : TimeOfDay.ofText? t.text = some t.toSecond := by
  rw [ofText?, text, String.toList_ofList, timeOf?_chars]
  rfl

theorem Moment.ofText?_text {m : Moment} (h : m.isRfc3339 = true) :
    Moment.ofText? m.text = some m := by
  rw [ofText?, text, if_pos h, String.toList_ofList, momentOf?, rfc3339Of?_chars h]
  rfl

theorem not_isBlank_of_isDigit {c : Char} (h : isDigit c) : ¬Text.isBlank c := by
  simp only [isDigit, Bool.and_eq_true, decide_eq_true_eq] at h
  have hlow : '0'.toNat ≤ c.toNat := h.1
  have hhigh : c.toNat ≤ '9'.toNat := h.2
  have hzero : '0'.toNat = 48 := rfl
  have hnine : '9'.toNat = 57 := rfl
  simp only [Text.isBlank, Text.blankRanges, List.any_cons, List.any_nil, Bool.or_eq_true,
    Bool.and_eq_true, decide_eq_true_eq, Bool.false_eq_true, or_false]
  omega

theorem not_isBlank_of_mem_paddedDigits {width n : ℕ} :
    ∀ c ∈ paddedDigits width n, ¬Text.isBlank c :=
  fun c hc => not_isBlank_of_isDigit (Number.isDigit_of_mem_paddedDigits c hc)

theorem Date.not_isBlank_of_mem_chars (d : Date) : ∀ c ∈ d.chars, ¬Text.isBlank c := by
  have hmonthDay : ∀ c ∈ d.monthDayChars, ¬Text.isBlank c := by
    rw [monthDayChars, List.forall_mem_cons, List.forall_mem_append, List.forall_mem_cons]
    exact ⟨by decide, not_isBlank_of_mem_paddedDigits, by decide, not_isBlank_of_mem_paddedDigits⟩
  rcases Int.lt_or_le d.year 0 with h | h
  · rw [chars_of_neg h, List.forall_mem_cons, List.forall_mem_append]
    exact ⟨by decide, not_isBlank_of_mem_paddedDigits, hmonthDay⟩
  · rw [chars_of_nonneg h, List.forall_mem_append]
    exact ⟨not_isBlank_of_mem_paddedDigits, hmonthDay⟩

theorem TimeOfDay.not_isBlank_of_mem_chars (t : TimeOfDay) : ∀ c ∈ t.chars, ¬Text.isBlank c := by
  rw [← List.append_nil t.chars, t.chars_append]
  simp only [List.forall_mem_append, List.forall_mem_cons]
  exact ⟨not_isBlank_of_mem_paddedDigits, by decide, not_isBlank_of_mem_paddedDigits, by decide,
    not_isBlank_of_mem_paddedDigits, List.forall_mem_nil _⟩

theorem TimeOfDay.not_isBlank_of_mem_fractionChars (t : TimeOfDay) :
    ∀ c ∈ t.fractionChars, ¬Text.isBlank c := by
  unfold fractionChars
  split
  · exact List.forall_mem_nil _
  · exact List.forall_mem_cons.mpr ⟨by decide, fun c hc =>
      not_isBlank_of_isDigit (t.isDigit_of_mem_fractionDigits c hc)⟩

theorem Offset.not_isBlank_of_mem_chars (o : Offset) : ∀ c ∈ o.chars, ¬Text.isBlank c := by
  unfold chars
  split
  · rw [List.forall_mem_singleton]
    decide
  · rw [List.cons_append, List.forall_mem_cons, List.forall_mem_append, List.forall_mem_cons]
    refine ⟨?_, not_isBlank_of_mem_paddedDigits, by decide, not_isBlank_of_mem_paddedDigits⟩
    split <;> decide

theorem Moment.not_isBlank_of_mem_rfc3339Chars (m : Moment) :
    ∀ c ∈ m.rfc3339Chars, ¬Text.isBlank c := by
  rw [m.rfc3339Chars_eq, List.forall_mem_append, List.forall_mem_cons, List.forall_mem_append,
    List.forall_mem_append]
  exact ⟨m.date.not_isBlank_of_mem_chars, by decide, m.time.not_isBlank_of_mem_chars,
    m.time.not_isBlank_of_mem_fractionChars, m.offset.not_isBlank_of_mem_chars⟩

end Questionnaire.Calendar
