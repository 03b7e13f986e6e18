import Questionnaire.Json.Basic

namespace Questionnaire.Json

variable {v w : Json} {key : String}

theorem lookup_eq_none_iff {α : Type} {members : List (String × α)} {key : String} :
    members.lookup key = none ↔ key ∉ members.map (·.1) := by
  rw [List.lookup_eq_none_iff, List.mem_map]
  constructor
  · rintro h ⟨m, hm, rfl⟩
    exact absurd (h m hm) (by simp)
  · intro h m hm
    rw [bne_iff_ne]
    rintro rfl
    exact h ⟨m, hm, rfl⟩

/-- Only objects have members, and a null member is one. -/
theorem hasMember_iff :
    v.hasMember key = true ↔ ∃ members, v = .object members ∧ key ∈ members.map (·.1) := by
  cases v with
  | object members =>
    rw [hasMember, get?, Option.isSome_iff_ne_none, Ne, lookup_eq_none_iff, Classical.not_not]
    constructor
    · intro h
      exact ⟨members, rfl, h⟩
    · rintro ⟨members', heq, h⟩
      cases heq
      exact h
  | _ =>
    refine iff_of_false Bool.false_ne_true ?_
    rintro ⟨members, heq, -⟩
    cases heq

theorem exists_object_of_get? (h : v.get? key = some w) : ∃ members, v = .object members := by
  cases v with
  | object members => exact ⟨members, rfl⟩
  | _ => cases h

theorem string?_eq_some_iff {s : String} : v.string? = some s ↔ v = .string s := by
  cases v with
  | string s' => exact ⟨fun h => congrArg _ (Option.some.inj h), fun h => by rw [h]; rfl⟩
  | _ => exact iff_of_false nofun nofun

theorem array?_eq_some_iff {items : List Json} : v.array? = some items ↔ v = .array items := by
  cases v with
  | array items' => exact ⟨fun h => congrArg _ (Option.some.inj h), fun h => by rw [h]; rfl⟩
  | _ => exact iff_of_false nofun nofun

theorem getString?_eq_some_iff {s : String} :
    v.getString? key = some s ↔ v.get? key = some (.string s) := by
  rw [getString?, Option.bind_eq_some_iff]
  constructor
  · rintro ⟨w, hw, hs⟩
    rw [hw, string?_eq_some_iff.mp hs]
  · intro h
    exact ⟨_, h, rfl⟩

theorem getItems_of_array {items : List Json} (h : v.get? key = some (.array items)) :
    v.getItems key = items := by
  rw [getItems, h]
  rfl

theorem mem_getItems_iff :
    w ∈ v.getItems key ↔ ∃ items, v.get? key = some (.array items) ∧ w ∈ items := by
  constructor
  · intro h
    rw [getItems] at h
    cases hitems : (v.get? key).bind array? with
    | none =>
      rw [hitems] at h
      cases h
    | some items =>
      rw [hitems] at h
      obtain ⟨u, hu, harray⟩ := Option.bind_eq_some_iff.mp hitems
      rw [array?_eq_some_iff.mp harray] at hu
      exact ⟨items, hu, h⟩
  · rintro ⟨items, hitems, hmem⟩
    rwa [getItems_of_array hitems]

/-- What passes from the items of a member to the document holds of every document. -/
@[elab_as_elim]
theorem induction_getItems {motive : Json → Prop} (key : String)
    (step : ∀ v, (∀ w ∈ v.getItems key, motive w) → motive v) (v : Json) : motive v :=
  step v fun w _ => induction_getItems key step w
termination_by sizeOf v
decreasing_by exact sizeOf_mem_getItems ‹_›

end Questionnaire.Json
