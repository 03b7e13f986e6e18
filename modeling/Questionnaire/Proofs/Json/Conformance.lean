import Questionnaire.Json.Schema

namespace Questionnaire.Json.Schema

/-- The document has no fault. -/
def Conforms (definitions : List (String × Schema)) (s : Schema) (v : Json) : Prop :=
  s.faults definitions v = []

variable {definitions : List (String × Schema)} {v : Json}

attribute [local simp] Conforms faults

@[simp] theorem conforms_type_iff {names : List String} :
    (type names).Conforms definitions v ↔ v.typeName ∈ names := by
  rw [Conforms, faults, List.contains_eq_mem]
  split
  · rename_i h
    exact iff_of_true rfl (of_decide_eq_true h)
  · rename_i h
    exact iff_of_false (List.cons_ne_nil _ _) (fun hmem => h (decide_eq_true hmem))

@[simp] theorem conforms_required_iff {names : List String} :
    (required names).Conforms definitions v ↔
      (v.isObject = true → ∀ name ∈ names, v.hasMember name = true) := by
  rw [Conforms, faults]
  split
  · rename_i h
    rw [List.map_eq_nil_iff, List.filter_eq_nil_iff]
    simp [h]
  · rename_i h
    exact iff_of_true rfl (fun hobject => absurd hobject h)

@[simp] theorem conforms_property_iff {name : String} {s : Schema} :
    (property name s).Conforms definitions v ↔
      ∀ w, v.get? name = some w → s.Conforms definitions w := by
  rw [Conforms, faults]
  split
  · rename_i w hw
    rw [hw]
    exact ⟨fun h w' hw' => Option.some.inj hw' ▸ h, fun h => h w rfl⟩
  · rename_i h
    rw [h]
    apply iff_of_true rfl
    intro w hw
    cases hw

theorem conforms_itemsNamed_iff {name : String} {s : Schema}
    (h : definitions.lookup name = some s) :
    (itemsNamed name).Conforms definitions v ↔
      ∀ items, v = .array items → ∀ w ∈ items, s.Conforms definitions w := by
  cases v with
  | array elements => simp [h]
  | _ => simp

@[simp] theorem conforms_maxItems_iff {count : Nat} :
    (maxItems count).Conforms definitions v ↔
      ∀ items, v = .array items → items.length ≤ count := by
  cases v with
  | array elements => simp
  | _ => simp

@[simp] theorem conforms_enum_iff {texts : List String} :
    (enum texts).Conforms definitions v ↔ ∃ text ∈ texts, v = .string text := by
  cases v with
  | string text => simp [string?]
  | _ => simp [string?]

@[simp] theorem conforms_hasCharacterBeyond_iff {characters : List Char} :
    (hasCharacterBeyond characters).Conforms definitions v ↔
      ∀ text, v = .string text → ∃ c ∈ text.toList, c ∉ characters := by
  cases v with
  | string text => simp
  | _ => simp

@[simp] theorem conforms_all_iff {ss : List Schema} :
    (all ss).Conforms definitions v ↔ ∀ s ∈ ss, s.Conforms definitions v := by
  rw [Conforms, faults, List.flatMap_eq_nil_iff]
  simp

@[simp] theorem conforms_anyOf_iff {ss : List Schema} :
    (anyOf ss).Conforms definitions v ↔ ∃ s ∈ ss, s.Conforms definitions v := by
  rw [Conforms, faults]
  simp

@[simp] theorem conforms_conditional_iff {test yes no : Schema} :
    (conditional test yes no).Conforms definitions v ↔
      (test.Conforms definitions v → yes.Conforms definitions v) ∧
      (¬ test.Conforms definitions v → no.Conforms definitions v) := by
  rw [Conforms, faults]
  split
  · rename_i h
    have htest : test.Conforms definitions v := List.isEmpty_iff.mp h
    exact ⟨fun hyes => ⟨fun _ => hyes, fun hno => absurd htest hno⟩, fun h => h.1 htest⟩
  · rename_i h
    have htest : ¬ test.Conforms definitions v := fun hnil => h (List.isEmpty_iff.mpr hnil)
    exact ⟨fun hno => ⟨fun hyes => absurd hyes htest, fun _ => hno⟩, fun h => h.2 htest⟩

end Questionnaire.Json.Schema
