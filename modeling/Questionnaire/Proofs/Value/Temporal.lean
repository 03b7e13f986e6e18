import Questionnaire.Coercion
import Questionnaire.Proofs.Calendar.RoundTrip
import Questionnaire.Proofs.Json.NumberText

namespace Questionnaire

open Calendar

theorem Text.trim_eq_self {s : String} (h : ∀ c ∈ s.toList, ¬isBlank c) : trim s = s := by
  rw [trim, strip_eq_self h, String.ofList_toList]

theorem coerce_eq_coerceTemporal {kind : Kind} {v : Value} (hkind : kind.isTemporal = true)
    (hnull : v.isNull = false) : coerce kind v = coerceTemporal kind v := by
  unfold coerce
  rw [hnull, if_neg Bool.false_ne_true]
  cases kind with
  | date | datetime | time => rfl
  | _ => cases hkind

section

variable {kind : Kind} {s : String} (hkind : kind.isTemporal = true)

include hkind

theorem coerce_text :
    coerce kind (.text s) =
      if (Text.trim s).isEmpty then .ok none
      else match temporalOfText? kind (Text.trim s) with
        | some v => .ok (some v)
        | none => .error (.unparseable kind s) := by
  rw [coerce_eq_coerceTemporal hkind rfl, coerceTemporal]
  exact if_neg Bool.false_ne_true

theorem coerce_text_of_blank (hblank : (Text.trim s).isEmpty = true) :
    coerce kind (.text s) = .ok none := by
  rw [coerce_text hkind, if_pos hblank]

theorem coerce_text_of_some {v : Value} (hblank : (Text.trim s).isEmpty = false)
    (h : temporalOfText? kind (Text.trim s) = some v) : coerce kind (.text s) = .ok (some v) := by
  rw [coerce_text hkind, hblank, if_neg Bool.false_ne_true, h]

theorem coerce_text_of_none (hblank : (Text.trim s).isEmpty = false)
    (h : temporalOfText? kind (Text.trim s) = none) :
    coerce kind (.text s) = .error (.unparseable kind s) := by
  rw [coerce_text hkind, hblank, if_neg Bool.false_ne_true, h]

end

theorem temporalOfText?_empty (kind : Kind) : temporalOfText? kind "" = none := by
  cases kind <;> rfl

theorem coerce_text_of_ink {kind : Kind} {s : String} {v : Value}
    (hkind : kind.isTemporal = true) (hink : ∀ c ∈ s.toList, ¬Text.isBlank c)
    (h : temporalOfText? kind s = some v) : coerce kind (.text s) = .ok (some v) := by
  have hne : s.isEmpty = false := by
    rw [String.isEmpty_eq_false_iff]
    rintro rfl
    cases (temporalOfText?_empty kind).symm.trans h
  rw [← Text.trim_eq_self hink] at hne h
  exact coerce_text_of_some hkind hne h

theorem coerce_date_text (d : Date) : coerce .date (.text d.text) = .ok (some (.date d)) := by
  refine coerce_text_of_ink rfl ?_ ?_
  · rw [Date.text, String.toList_ofList]
    exact d.not_isBlank_of_mem_chars
  · rw [temporalOfText?, Date.ofText?_text, Option.map_some]

theorem coerce_time_text (t : TimeOfDay) :
    coerce .time (.text t.text) = .ok (some (.time t.toSecond)) := by
  refine coerce_text_of_ink rfl ?_ ?_
  · rw [TimeOfDay.text, String.toList_ofList]
    exact t.not_isBlank_of_mem_chars
  · rw [temporalOfText?, TimeOfDay.ofText?_text, Option.map_some]

theorem coerce_moment_text {m : Moment} (h : m.isRfc3339 = true) :
    coerce .datetime (.text m.text) = .ok (some (.moment m)) := by
  refine coerce_text_of_ink rfl ?_ ?_
  · rw [Moment.text, if_pos h, String.toList_ofList]
    exact m.not_isBlank_of_mem_rfc3339Chars
  · exact congrArg (Option.map Value.moment) (Moment.ofText?_text h)

/-- The text that a date, a time or a moment has in JSON is coerced to the value again: a time to
the second, a moment with its local clock and its offset, if the year is not negative and the offset
has whole minutes below a day. -/
theorem coerce_toJson_temporal :
    (∀ d : Date, ∃ s, (Value.date d).toJson = .string s ∧
      coerce .date (.text s) = .ok (some (.date d))) ∧
    (∀ t : TimeOfDay, ∃ s, (Value.time t).toJson = .string s ∧
      coerce .time (.text s) = .ok (some (.time t.toSecond))) ∧
    ∀ m : Moment, 0 ≤ m.date.year → 60 ∣ m.offset.seconds → m.offset.seconds.natAbs < 24 * 60 * 60 →
      ∃ s, (Value.moment m).toJson = .string s ∧
        coerce .datetime (.text s) = .ok (some (.moment m)) := by
  refine ⟨?_, ?_, ?_⟩
  · intro d
    exact ⟨d.text, rfl, coerce_date_text d⟩
  · intro t
    exact ⟨t.text, rfl, coerce_time_text t⟩
  · intro m hyear hminutes hday
    exact ⟨m.text, rfl, coerce_moment_text (Moment.isRfc3339_iff.mpr ⟨hyear, hminutes, hday⟩)⟩

/-- The last nanosecond of a leap day of the first year, to the west of UTC. -/
theorem coerce_toJson_temporal_leapDayEnd :
    ∃ m : Moment, m.text = "0000-02-29T23:59:59.999999999-23:59" ∧
      0 ≤ m.date.year ∧ 60 ∣ m.offset.seconds ∧ m.offset.seconds.natAbs < 24 * 60 * 60 ∧
      ∃ s, (Value.moment m).toJson = .string s ∧
        coerce .datetime (.text s) = .ok (some (.moment m)) := by
  refine ⟨⟨⟨0, 2, 29, by decide, by decide⟩,
    ⟨23, 59, 59, 999999999, by decide, by decide, by decide, by decide⟩,
    ⟨-(23 * 60 + 59) * 60, by decide⟩⟩, by decide +kernel, by decide, by decide, by decide, ?_⟩
  exact coerce_toJson_temporal.2.2 _ (by decide) (by decide) (by decide)

theorem temporalOfText?_of_some {s : String} {m : Moment} (h : Moment.ofText? s = some m) :
    temporalOfText? .date s = some (.date m.date) ∧
    temporalOfText? .datetime s = some (.moment m) ∧
    temporalOfText? .time s = some (.time m.time) := by
  refine ⟨?_, congrArg (Option.map Value.moment) h, ?_⟩
  · rw [temporalOfText?, Date.ofText?_eq, h, Option.map_some, Option.map_some]
  · rw [temporalOfText?, TimeOfDay.ofText?_of_moment h, Option.map_some]

theorem temporalOfText?_of_none {s : String} (h : Moment.ofText? s = none) :
    temporalOfText? .date s = none ∧ temporalOfText? .datetime s = none := by
  refine ⟨?_, congrArg (Option.map Value.moment) h⟩
  rw [temporalOfText?, Date.ofText?_eq, h, Option.map_none, Option.map_none]

/-- The date of a text is that of its moment, and so is the time where there is a moment. Blank
texts leave the default unset, and a text is refused as a date exactly if it is refused as a
moment. -/
theorem coerce_temporal_agree (s : String) :
    ((coerce .date (.text s) = .ok none ∧ coerce .datetime (.text s) = .ok none) ∨
      (coerce .date (.text s) = .error (.unparseable .date s) ∧
        coerce .datetime (.text s) = .error (.unparseable .datetime s)) ∨
      ∃ m : Moment, coerce .date (.text s) = .ok (some (.date m.date)) ∧
        coerce .datetime (.text s) = .ok (some (.moment m))) ∧
    ∀ m : Moment, coerce .datetime (.text s) = .ok (some (.moment m)) →
      coerce .time (.text s) = .ok (some (.time m.time)) := by
  cases hblank : (Text.trim s).isEmpty with
  | true =>
    refine ⟨.inl ⟨coerce_text_of_blank rfl hblank, coerce_text_of_blank rfl hblank⟩, ?_⟩
    intro m hm
    cases (coerce_text_of_blank rfl hblank).symm.trans hm
  | false =>
    cases hmoment : Moment.ofText? (Text.trim s) with
    | none =>
      obtain ⟨hdate, hdatetime⟩ := temporalOfText?_of_none hmoment
      have hrefused := coerce_text_of_none rfl hblank hdatetime
      refine ⟨.inr (.inl ⟨coerce_text_of_none rfl hblank hdate, hrefused⟩), ?_⟩
      intro m hm
      cases hrefused.symm.trans hm
    | some m =>
      obtain ⟨hdate, hdatetime, htime⟩ := temporalOfText?_of_some hmoment
      have hread := coerce_text_of_some rfl hblank hdatetime
      refine ⟨.inr (.inr ⟨m, coerce_text_of_some rfl hblank hdate, hread⟩), ?_⟩
      intro n hn
      cases hread.symm.trans hn
      exact coerce_text_of_some rfl hblank htime

/-- A leap second with a space before the time and blanks around the text: the date, the moment and
the time, which is the last nanosecond of the second before. -/
theorem coerce_temporal_agree_leapSecond :
    ∃ m : Moment, m.time.nanosecond = 999999999 ∧
      coerce .datetime (.text " 2016-12-31 23:59:60.5Z\n") = .ok (some (.moment m)) ∧
      coerce .time (.text " 2016-12-31 23:59:60.5Z\n") = .ok (some (.time m.time)) := by
  have hmoment : coerce .datetime (.text " 2016-12-31 23:59:60.5Z\n") = .ok (some (.moment
      ⟨⟨2016, 12, 31, by decide, by decide⟩,
        ⟨23, 59, 59, 999999999, by decide, by decide, by decide, by decide⟩, .utc⟩)) := by
    rfl
  exact ⟨_, rfl, hmoment, (coerce_temporal_agree _).2 _ hmoment⟩

end Questionnaire
