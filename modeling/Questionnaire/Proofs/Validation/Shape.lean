import Questionnaire.Proofs.Json.Conformance
import Questionnaire.Proofs.Schema.WellFormed
import Questionnaire.Validation

namespace Questionnaire.Validation

open Questionnaire.Json.Schema (conforms_all_iff conforms_anyOf_iff conforms_conditional_iff
  conforms_enum_iff conforms_hasCharacterBeyond_iff conforms_itemsNamed_iff conforms_maxItems_iff
  conforms_property_iff conforms_required_iff conforms_type_iff)

variable {v w : Json} {name : String} {names : List String} {s : Json.Schema}

theorem conforms_text_iff : text.Conforms definitions v ↔ ∃ s, v = .string s := by
  rw [text, conforms_type_iff]
  cases v <;> simp [Json.typeName]

theorem conforms_object_iff : object.Conforms definitions v ↔ v.isObject = true := by
  rw [object, conforms_type_iff]
  cases v <;> simp [Json.typeName, Json.isObject]

theorem conforms_listOf_iff (h : definitions.lookup name = some s) :
    (listOf name).Conforms definitions v ↔
      ∃ items, v = .array items ∧ ∀ w ∈ items, s.Conforms definitions w := by
  simp only [listOf, conforms_all_iff, List.forall_mem_cons, conforms_itemsNamed_iff h,
    conforms_type_iff]
  cases v <;> simp [Json.typeName]

theorem conforms_emptyArray_iff : emptyArray.Conforms definitions v ↔ v = .array [] := by
  simp only [emptyArray, conforms_all_iff, List.forall_mem_cons, conforms_maxItems_iff,
    conforms_type_iff]
  cases v <;> simp [Json.typeName]

theorem exists_member (hobject : object.Conforms definitions v)
    (hrequired : (Json.Schema.required names).Conforms definitions v) (hname : name ∈ names)
    (hproperty : (Json.Schema.property name s).Conforms definitions v) :
    ∃ w, v.get? name = some w ∧ s.Conforms definitions w := by
  have hmember := conforms_required_iff.mp hrequired (conforms_object_iff.mp hobject) name hname
  obtain ⟨w, hw⟩ := Option.isSome_iff_exists.mp hmember
  exact ⟨w, hw, conforms_property_iff.mp hproperty w hw⟩

theorem exists_text_member (hobject : object.Conforms definitions v)
    (hrequired : (Json.Schema.required names).Conforms definitions v) (hname : name ∈ names)
    (hproperty : (Json.Schema.property name text).Conforms definitions v) :
    ∃ s, v.get? name = some (.string s) := by
  obtain ⟨w, hw, htext⟩ := exists_member hobject hrequired hname hproperty
  obtain ⟨s, rfl⟩ := conforms_text_iff.mp htext
  exact ⟨s, hw⟩

theorem forall_items {definition : String} (h : definitions.lookup definition = some s)
    (hproperty : (Json.Schema.property name (listOf definition)).Conforms definitions v) :
    ∀ w ∈ v.getItems name, s.Conforms definitions w := by
  rw [← Json.forall_items_iff]
  intro items hitems w hw
  obtain ⟨items', harray, hconforms⟩ :=
    (conforms_listOf_iff h).mp (conforms_property_iff.mp hproperty _ hitems)
  cases harray
  exact hconforms w hw

theorem operator_of_conditionGroup (h : conditionGroup.Conforms definitions v)
    (hw : v.get? "operator" = some w) : ∃ token ∈ ["AND", "OR", "NOT"], w = .string token := by
  simp only [conditionGroup, conforms_all_iff, List.forall_mem_cons] at h
  obtain ⟨-, hoperator, -⟩ := h
  exact conforms_enum_iff.mp (conforms_property_iff.mp hoperator w hw)

theorem conditions_of_conditionGroup (h : conditionGroup.Conforms definitions v) :
    ∀ w ∈ v.getItems "conditions", conditionNode.Conforms definitions w := by
  simp only [conditionGroup, conforms_all_iff, List.forall_mem_cons] at h
  obtain ⟨-, -, hconditions, -⟩ := h
  exact forall_items rfl hconditions

/-- A node with both members of a group conforms as a group does. -/
theorem conforms_conditionNode_iff (h : Condition.isGroupNode v = true) :
    conditionNode.Conforms definitions v ↔ conditionGroup.Conforms definitions v := by
  have hboth : (Json.Schema.required ["operator", "conditions"]).Conforms definitions v := by
    rw [conforms_required_iff]
    intro _ name hname
    obtain ⟨hoperator, hconditions⟩ := (Bool.and_eq_true _ _).mp h
    rcases List.mem_cons.mp hname with rfl | hname
    · exact hoperator
    · cases List.mem_singleton.mp hname
      exact hconditions
  simp only [conditionNode, conforms_all_iff, List.forall_mem_cons, conforms_conditional_iff]
  constructor
  · rintro ⟨-, ⟨hyes, -⟩, -⟩
    exact hyes hboth
  · intro hgroup
    have hobject : object.Conforms definitions v := conforms_all_iff.mp hgroup _ List.mem_cons_self
    refine ⟨hobject, ⟨fun _ => hgroup, fun hnot => absurd hboth hnot⟩, ?_⟩
    intro s hs
    cases hs

theorem head_of_question (h : question.Conforms definitions v) :
    ∃ key type, Question.headOf? v = .ok (key, type) := by
  simp only [question, conforms_all_iff, List.forall_mem_cons] at h
  obtain ⟨hobject, hrequired, hkey, htype, -⟩ := h
  obtain ⟨key, hkey⟩ := exists_text_member hobject hrequired (by decide) hkey
  obtain ⟨type, htype⟩ := exists_text_member hobject hrequired (by decide) htype
  exact ⟨key, type, Question.headOf?_eq_ok_iff.mpr ⟨hkey, htype⟩⟩

theorem constraints_of_question (h : question.Conforms definitions v) :
    ∃ constraints, constraintsOf? v = .ok constraints := by
  simp only [question, conforms_all_iff, List.forall_mem_cons] at h
  obtain ⟨-, -, -, -, -, -, hconstraints, -⟩ := h
  simp only [constraintsOf?_eq_ok_iff]
  rw [exists_readsConstraints_iff]
  rw [conforms_property_iff] at hconstraints
  cases hblock : v.get? "constraints" with
  | none => exact .missing
  | some block =>
    obtain ⟨s, hs, hconforms⟩ := conforms_anyOf_iff.mp (hconstraints block hblock)
    simp only [List.mem_cons, List.not_mem_nil, or_false] at hs
    rcases hs with rfl | rfl
    · rw [conforms_type_iff] at hconforms
      cases block with
      | null => exact .null
      | object members => exact .object members
      | _ => simp [Json.typeName] at hconforms
    · cases conforms_emptyArray_iff.mp hconforms
      exact .empty

theorem dependencies_of_question (h : question.Conforms definitions v)
    (hblock : v.get? "displayDependencies" = some w) (hgroup : Condition.isGroupNode w = true) :
    conditionGroup.Conforms definitions w := by
  simp only [question, conforms_all_iff, List.forall_mem_cons] at h
  obtain ⟨-, -, -, -, -, -, -, hdependencies, -⟩ := h
  obtain ⟨s, hs, hconforms⟩ := conforms_anyOf_iff.mp (conforms_property_iff.mp hdependencies w hblock)
  simp only [List.mem_cons, List.not_mem_nil, or_false] at hs
  rcases hs with rfl | rfl | rfl
  · rw [conforms_type_iff] at hconforms
    cases w with
    | object members => simp [Json.typeName] at hconforms
    | _ => cases hgroup
  · cases conforms_emptyArray_iff.mp hconforms
    cases hgroup
  · exact hconforms

theorem fields_of_question (h : question.Conforms definitions v) :
    ∀ w ∈ v.getItems "fields", question.Conforms definitions w := by
  simp only [question, conforms_all_iff, List.forall_mem_cons] at h
  obtain ⟨-, -, -, -, -, -, -, -, hfields, -⟩ := h
  exact forall_items rfl hfields

/-- A text that has more in it than the blanks that the schema knows. -/
def HasVisible (slug : String) : Prop :=
  ∃ c ∈ slug.toList, c ∉ slugBlanks

theorem slug_of_layout {list definition : String}
    (h : ∀ s ∈ layout list definition, s.Conforms definitions v) :
    ∃ slug, v.get? "slug" = some (.string slug) ∧ HasVisible slug := by
  simp only [layout, List.forall_mem_cons] at h
  obtain ⟨hobject, hrequired, hslug, -⟩ := h
  obtain ⟨w, hw, hconforms⟩ := exists_member hobject hrequired (by decide) hslug
  simp only [slug, conforms_all_iff, List.forall_mem_cons] at hconforms
  obtain ⟨htext, hvisible, -⟩ := hconforms
  obtain ⟨text, rfl⟩ := conforms_text_iff.mp htext
  exact ⟨text, hw, conforms_hasCharacterBeyond_iff.mp hvisible text rfl⟩

theorem items_of_layout {list definition : String} (hs : definitions.lookup definition = some s)
    (h : ∀ s ∈ layout list definition, s.Conforms definitions v) :
    ∀ w ∈ v.getItems list, s.Conforms definitions w := by
  simp only [layout, List.forall_mem_cons] at h
  obtain ⟨-, -, -, -, hlist, -⟩ := h
  exact forall_items hs hlist

theorem layout_of_category (h : category.Conforms definitions v) :
    ∀ s ∈ layout "questions" "question", s.Conforms definitions v :=
  conforms_all_iff.mp h

theorem layout_of_section (h : formSection.Conforms definitions v) :
    ∀ s ∈ layout "categories" "category", s.Conforms definitions v :=
  (List.forall_mem_append.mp (conforms_all_iff.mp h)).1

theorem head_of_form (h : form.Conforms definitions v) :
    ∃ slug items, FormSchema.headOf v = .ok (slug, items) ∧
      v.get? "sections" = some (.array items) ∧
      ∀ w ∈ items, formSection.Conforms definitions w := by
  simp only [form, conforms_all_iff, List.forall_mem_cons] at h
  obtain ⟨hobject, hrequired, hslug, hsections, -⟩ := h
  obtain ⟨slug, hslug⟩ := exists_text_member hobject hrequired (by decide) hslug
  obtain ⟨w, hw, hlist⟩ := exists_member hobject hrequired (by decide) hsections
  obtain ⟨items, rfl, hitems⟩ := (conforms_listOf_iff rfl).mp hlist
  exact ⟨slug, items, FormSchema.headOf_eq_ok_iff.mpr ⟨hslug, hw⟩, hw, hitems⟩

/-- A form with one section, which has one category. -/
def oneCategory (above slug : String) (questions : List Json) : Json :=
  .object [("slug", .string "form"), ("sections", .array [
    .object [("slug", .string above), ("categories", .array [
      .object [("slug", .string slug), ("questions", .array questions)]])]])]

theorem conforms_oneCategory {above slug : String} {questions : List Json}
    (habove : HasVisible above) (hslug : HasVisible slug)
    (h : ∀ w ∈ questions, question.Conforms definitions w) :
    form.Conforms definitions (oneCategory above slug questions) := by
  have hsection : definitions.lookup "section" = some formSection := rfl
  have hcategory : definitions.lookup "category" = some category := rfl
  have hquestion : definitions.lookup "question" = some question := rfl
  rw [HasVisible] at habove hslug
  simpa [form, formSection, category, layout, Validation.slug, oneCategory, conforms_text_iff,
    conforms_object_iff, conforms_listOf_iff hsection, conforms_listOf_iff hcategory,
    conforms_listOf_iff hquestion, Json.get?, Json.hasMember, Json.isObject, List.lookup_cons,
    habove, hslug] using h

end Questionnaire.Validation
