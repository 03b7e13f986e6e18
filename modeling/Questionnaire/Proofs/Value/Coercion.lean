import Questionnaire.Proofs.Value.Integer
import Questionnaire.Proofs.Value.Temporal

namespace Questionnaire

open Number

theorem Number.Decimal.toInt64?_ofInt64 (n : Int64) : (Decimal.ofInt64 n).toInt64? = some n := by
  have htruncate : (Decimal.ofInt64 n).truncate = n.toInt := Int.tdiv_one _
  rw [Decimal.toInt64?, htruncate, if_pos ⟨n.le_toInt, n.toInt_lt⟩, Int64.ofInt_toInt]

theorem coerceInteger_cases (v : Value) :
    (∃ n, coerceInteger v = .int n) ∨ coerceInteger v = v := by
  unfold coerceInteger
  cases v.reading?.bind (·.toInt64?) with
  | none => exact .inr rfl
  | some n => exact .inl ⟨n, rfl⟩

theorem coerceInteger_int (n : Int64) : coerceInteger (.int n) = .int n := by
  rw [coerceInteger, Value.reading?, Option.bind_some, Reading.toInt64?, Decimal.toInt64?_ofInt64]

theorem coerceInteger_coerceInteger (v : Value) :
    coerceInteger (coerceInteger v) = coerceInteger v := by
  rcases coerceInteger_cases v with ⟨n, hn⟩ | hv
  · rw [hn, coerceInteger_int]
  · rw [hv, hv]

theorem isNull_coerceInteger {v : Value} (h : v.isNull = false) :
    (coerceInteger v).isNull = false := by
  rcases coerceInteger_cases v with ⟨n, hn⟩ | hv
  · rw [hn]
    rfl
  · rw [hv, h]

theorem eq_coerceInteger_of_coerce {v w : Value} (h : coerce .integer v = .ok (some w)) :
    w = coerceInteger v := by
  unfold coerce at h
  split at h
  · cases h
  · cases h
    rfl

theorem Value.isTemporal_cases {v : Value} (h : v.isTemporal = true) :
    (∃ d, v = .date d) ∨ (∃ m, v = .moment m) ∨ ∃ t, v = .time t := by
  cases v with
  | date d => exact .inl ⟨d, rfl⟩
  | moment m => exact .inr (.inl ⟨m, rfl⟩)
  | time t => exact .inr (.inr ⟨t, rfl⟩)
  | _ => cases h

theorem isTemporal_of_temporalOfText? {kind : Kind} {s : String} {v : Value}
    (h : temporalOfText? kind s = some v) : v.isTemporal = true := by
  unfold temporalOfText? at h
  split at h
  all_goals
    obtain ⟨x, -, rfl⟩ := Option.map_eq_some_iff.mp h
    rfl

theorem isTemporal_of_coerceTemporal {kind : Kind} {v w : Value}
    (h : coerceTemporal kind v = .ok (some w)) : w.isTemporal = true := by
  unfold coerceTemporal at h
  -- a temporal value is kept, a text is blank, read or refused, and nothing else is taken
  split at h
  · rename_i hv
    cases h
    exact hv
  · split at h
    · dsimp only at h
      split at h
      · cases h
      · split at h
        · rename_i hread
          cases h
          exact isTemporal_of_temporalOfText? hread
        · cases h
    · cases h

/-- The values that a kind leaves as they are. -/
def Kind.Keeps (k : Kind) (v : Value) : Prop :=
  match k with
  | .integer => v.isNull = false ∧ coerceInteger v = v
  | .file => ∃ f, v = .file f
  | .date | .datetime | .time => v.isTemporal = true
  | _ => v.isNull = false

theorem Kind.Keeps.isNull {k : Kind} {v : Value} (h : k.Keeps v) : v.isNull = false := by
  cases k with
  | integer => exact h.1
  | file =>
    obtain ⟨f, rfl⟩ := h
    rfl
  | date | datetime | time =>
    rcases Value.isTemporal_cases h with ⟨x, rfl⟩ | ⟨x, rfl⟩ | ⟨x, rfl⟩
    all_goals rfl
  | _ => exact h

theorem coerce_of_keeps {k : Kind} {v : Value} (h : k.Keeps v) : coerce k v = .ok (some v) := by
  unfold coerce
  rw [h.isNull, if_neg Bool.false_ne_true]
  cases k with
  | integer =>
    dsimp only
    rw [h.2]
  | file =>
    obtain ⟨f, rfl⟩ := h
    rfl
  | date | datetime | time => exact if_pos h
  | _ => rfl

theorem keeps_of_coerce {k : Kind} {v w : Value} (h : coerce k v = .ok (some w)) : k.Keeps w := by
  unfold coerce at h
  split at h
  · cases h
  · rename_i hnull
    rw [Bool.not_eq_true] at hnull
    cases k with
    | integer =>
      cases h
      exact ⟨isNull_coerceInteger hnull, coerceInteger_coerceInteger v⟩
    | file =>
      dsimp only at h
      split at h
      · cases h
        exact ⟨_, rfl⟩
      · cases h
    | date | datetime | time => exact isTemporal_of_coerceTemporal h
    | _ =>
      cases h
      exact hnull

/-- What coercion gives, coercion to the same kind keeps. For integers it is an integer or the value
itself, for files a file, and for the temporal kinds a date, a moment or a time. -/
theorem coerce_idempotent {k : Kind} {v w : Value} (h : coerce k v = .ok (some w)) :
    coerce k w = .ok (some w) ∧
    (k = .integer → (∃ n, w = .int n) ∨ w = v) ∧
    (k = .file → ∃ f, w = .file f) ∧
    (k = .date ∨ k = .datetime ∨ k = .time →
      (∃ d, w = .date d) ∨ (∃ m, w = .moment m) ∨ ∃ t, w = .time t) := by
  have hkeeps := keeps_of_coerce h
  refine ⟨coerce_of_keeps hkeeps, ?_, ?_, ?_⟩
  · rintro rfl
    rw [eq_coerceInteger_of_coerce h]
    exact coerceInteger_cases v
  · rintro rfl
    exact hkeeps
  · rintro (rfl | rfl | rfl)
    all_goals exact Value.isTemporal_cases hkeeps

/-- A text with places that is cut to the least integer of the signed 64-bit range. -/
theorem coerce_idempotent_minValue :
    ∃ w, coerce .integer (.text "-9223372036854775808.9") = .ok (some w) ∧
      w = .int Int64.minValue ∧ coerce .integer w = .ok (some w) := by
  have hread : (Value.text "-9223372036854775808.9").reading? =
      some (.exact ⟨-92233720368547758089, 1, by decide, by decide⟩) := by decide +kernel
  have hcut : Reading.toInt64? (.exact ⟨-92233720368547758089, 1, by decide, by decide⟩) =
      some Int64.minValue := by decide
  have h := coerce_integer_of_some hread hcut rfl
  exact ⟨_, h, rfl, (coerce_idempotent h).1⟩

end Questionnaire
