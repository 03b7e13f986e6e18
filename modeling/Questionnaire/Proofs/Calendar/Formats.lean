import Questionnaire.Calendar.Text
import Questionnaire.Proofs.Number.Rendering

namespace Questionnaire.Calendar

open Number (isDigit natOfDigits)

theorem takeNumber?_eq_some_iff {width n : ℕ} {cs rest : List Char} :
    takeNumber? width cs = some (n, rest) ↔
      ∃ ds, cs = ds ++ rest ∧ ds.length = width ∧ (∀ c ∈ ds, isDigit c) ∧ natOfDigits ds = n := by
  unfold takeNumber?
  dsimp only
  constructor
  · intro h
    split at h
    · rename_i hds
      rw [Bool.and_eq_true, decide_eq_true_eq, List.all_eq_true] at hds
      cases h
      exact ⟨cs.take width, (List.take_append_drop width cs).symm, hds.1, hds.2, rfl⟩
    · cases h
  · rintro ⟨ds, rfl, rfl, hdigits, rfl⟩
    rw [List.take_left, List.drop_left, if_pos]
    rw [Bool.and_eq_true, decide_eq_true_eq, List.all_eq_true]
    exact ⟨rfl, hdigits⟩

theorem takeChar?_eq_some_iff {c : Char} {cs rest : List Char} :
    takeChar? c cs = some rest ↔ cs = c :: rest := by
  cases cs with
  | nil => simp [takeChar?]
  | cons x cs =>
    rw [takeChar?, Option.ite_none_right_eq_some, Option.some_inj, List.cons.injEq]

theorem takeChar?_cons (c : Char) (rest : List Char) : takeChar? c (c :: rest) = some rest :=
  takeChar?_eq_some_iff.mpr rfl

theorem takeYear?_of_isDigit {cs : List Char} (h : ∀ c ∈ cs.head?, isDigit c) :
    takeYear? cs = (takeNumber? 4 cs).map fun (n, rest) => ((n : ℤ), rest) := by
  unfold takeYear?
  split
  · exact absurd (h '-' rfl) (by decide)
  · exact absurd (h '+' rfl) (by decide)
  · rfl

theorem takeYear?_of_takeNumber? {n : ℕ} {cs rest : List Char}
    (h : takeNumber? 4 cs = some (n, rest)) : takeYear? cs = some ((n : ℤ), rest) := by
  have hhead : ∀ c ∈ cs.head?, isDigit c := by
    obtain ⟨ds, rfl, hlength, hdigits, -⟩ := takeNumber?_eq_some_iff.mp h
    cases ds with
    | nil => cases hlength
    | cons d ds =>
      rintro c ⟨⟩
      exact hdigits d List.mem_cons_self
  rw [takeYear?_of_isDigit hhead, h, Option.map_some]

/-- A colon stands where a year has its sign or a digit. -/
theorem takeYear?_of_takeClock? {hour minute : ℕ} {cs rest : List Char}
    (h : takeClock? cs = some (hour, minute, rest)) : takeYear? cs = none := by
  simp only [takeClock?, Option.bind_eq_bind, Option.bind_eq_some_iff] at h
  obtain ⟨⟨n, cs₁⟩, hhour, cs₂, hcolon, -⟩ := h
  obtain ⟨ds, rfl, hlength, hdigits, -⟩ := takeNumber?_eq_some_iff.mp hhour
  cases takeChar?_eq_some_iff.mp hcolon
  obtain ⟨a, b, rfl⟩ := List.length_eq_two.mp hlength
  have hhead : ∀ c ∈ ([a, b] ++ ':' :: cs₂).head?, isDigit c := by
    rintro c ⟨⟩
    exact hdigits a List.mem_cons_self
  rw [takeYear?_of_isDigit hhead, Option.map_eq_none_iff, Option.eq_none_iff_forall_ne_some]
  -- the colon comes third, and a year without a sign has four digits
  rintro ⟨n, tail⟩ hyear
  obtain ⟨year, happend, hwidth, hyearDigits, -⟩ := takeNumber?_eq_some_iff.mp hyear
  have hthird : year[2]? = some ':' := by
    rw [← List.getElem?_append_left (by omega : 2 < year.length), ← happend]
    rfl
  exact absurd (hyearDigits ':' (List.mem_of_getElem? hthird)) (by decide)

/-- The text begins with a date and goes on after it. -/
def StartsWithDate (cs : List Char) (d : Date) : Prop :=
  ∃ c rest, takeDate? cs = some (d, c :: rest)

theorem dateOf?_eq_some_iff {cs : List Char} {d : Date} :
    dateOf? cs = some d ↔ takeDate? cs = some (d, []) := by
  unfold dateOf?
  cases takeDate? cs with
  | none => simp
  | some x =>
    obtain ⟨e, rest⟩ := x
    cases rest <;> simp

theorem startsWithDate_of_localOf? {cs : List Char} {d : Date} {t : TimeOfDay}
    (h : localOf? cs = some (d, t)) : StartsWithDate cs d := by
  simp only [localOf?, Option.bind_eq_bind, Option.bind_eq_some_iff] at h
  obtain ⟨⟨e, rest⟩, hdate, h⟩ := h
  dsimp only at h
  cases rest with
  | nil => cases h
  | cons c rest =>
    have he : e = d := by
      split at h
      · obtain ⟨u, -, hu⟩ := Option.map_eq_some_iff.mp h
        exact (Prod.mk.inj hu).1
      · obtain ⟨u, -, hu⟩ := Option.map_eq_some_iff.mp h
        exact (Prod.mk.inj hu).1
      · cases h
    exact ⟨c, rest, he ▸ hdate⟩

theorem startsWithDate_of_rfc3339Of? {cs : List Char} {m : Moment} (h : rfc3339Of? cs = some m) :
    StartsWithDate cs m.date := by
  simp only [rfc3339Of?, Option.bind_eq_bind, Option.bind_eq_some_iff] at h
  obtain ⟨⟨year, cs₁⟩, hyear, ⟨date, cs₂⟩, hdate, separator, hseparator, h⟩ := h
  dsimp only at h hdate hseparator
  have hm : m.date = date := by
    split at h
    · cases h
    · simp only [Option.bind_eq_some_iff] at h
      obtain ⟨_, -, _, -, _, -, _, -, _, -, h⟩ := h
      -- a leap second and any other second
      split at h
      · obtain ⟨time, -, hmoment⟩ := Option.bind_eq_some_iff.mp h
        rw [Option.ite_none_right_eq_some, Option.some_inj] at hmoment
        rw [← hmoment.2]
      · obtain ⟨time, -, hmoment⟩ := Option.bind_eq_some_iff.mp h
        rw [← Option.some_inj.mp hmoment]
  obtain ⟨rest, rfl⟩ := List.head?_eq_some_iff.mp hseparator
  rw [hm]
  exact ⟨separator, rest, by rw [takeDate?, takeYear?_of_takeNumber? hyear]; exact hdate⟩

theorem momentOf?_of_dateOf? {cs : List Char} {d : Date} (h : dateOf? cs = some d) :
    momentOf? cs = some ⟨d, .midnight, .utc⟩ := by
  have halone {e : Date} : ¬StartsWithDate cs e := by
    rintro ⟨c, rest, hdate⟩
    cases hdate.symm.trans (dateOf?_eq_some_iff.mp h)
  have hrfc3339 : rfc3339Of? cs = none :=
    Option.eq_none_iff_forall_ne_some.mpr fun m hm => halone (startsWithDate_of_rfc3339Of? hm)
  have hlocal : localOf? cs = none :=
    Option.eq_none_iff_forall_ne_some.mpr fun x hx => halone (startsWithDate_of_localOf? hx)
  rw [momentOf?, hrfc3339, hlocal, h]
  rfl

/-- A moment is read in one of three formats. -/
theorem momentOf?_cases {cs : List Char} {m : Moment} (h : momentOf? cs = some m) :
    rfc3339Of? cs = some m ∨ (∃ t, localOf? cs = some (m.date, t)) ∨ dateOf? cs = some m.date := by
  simp only [momentOf?, Option.orElse_eq_orElse, Option.orElse_eq_or, Option.or_eq_some_iff,
    Option.map_eq_some_iff] at h
  rcases h with hrfc3339 | ⟨-, ⟨⟨d, t⟩, hlocal, rfl⟩ | ⟨-, d, hdate, rfl⟩⟩
  · exact .inl hrfc3339
  · exact .inr (.inl ⟨t, hlocal⟩)
  · exact .inr (.inr hdate)

/-- Each format of a moment begins with its date. -/
theorem exists_takeDate?_of_momentOf? {cs : List Char} {m : Moment} (h : momentOf? cs = some m) :
    ∃ rest, takeDate? cs = some (m.date, rest) := by
  rcases momentOf?_cases h with hrfc3339 | ⟨t, hlocal⟩ | hdate
  · obtain ⟨c, rest, hstart⟩ := startsWithDate_of_rfc3339Of? hrfc3339
    exact ⟨_, hstart⟩
  · obtain ⟨c, rest, hstart⟩ := startsWithDate_of_localOf? hlocal
    exact ⟨_, hstart⟩
  · exact ⟨_, dateOf?_eq_some_iff.mp hdate⟩

theorem timeOf?_of_takeDate? {cs : List Char} {x : Date × List Char} (h : takeDate? cs = some x) :
    timeOf? cs = none := by
  rw [Option.eq_none_iff_forall_ne_some]
  intro t ht
  simp only [timeOf?, Option.bind_eq_bind, Option.bind_eq_some_iff] at ht
  obtain ⟨⟨hour, minute, rest⟩, hclock, -⟩ := ht
  rw [takeDate?, takeYear?_of_takeClock? hclock] at h
  cases h

theorem Date.ofText?_eq (s : String) : Date.ofText? s = (Moment.ofText? s).map (·.date) := by
  unfold Date.ofText? Moment.ofText?
  cases h : dateOf? s.toList with
  | none => rfl
  | some d => rw [momentOf?_of_dateOf? h]; rfl

theorem TimeOfDay.ofText?_of_moment {s : String} {m : Moment} (h : Moment.ofText? s = some m) :
    TimeOfDay.ofText? s = some m.time := by
  obtain ⟨rest, hdate⟩ := exists_takeDate?_of_momentOf? h
  have hmoment : momentOf? s.toList = some m := h
  rw [TimeOfDay.ofText?, timeOf?_of_takeDate? hdate, hmoment]
  rfl

end Questionnaire.Calendar
