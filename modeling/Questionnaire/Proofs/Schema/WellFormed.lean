import Questionnaire.Proofs.Condition.Reading
import Questionnaire.Proofs.Schema.Reading

namespace Questionnaire

namespace Json

/-- The slug is a text in which not all is blank. -/
def HasSlug (v : Json) : Prop :=
  ∃ slug, v.get? "slug" = some (.string slug) ∧ ∃ c ∈ slug.toList, Text.isBlank c = false

/-- A block of constraints may be missing. -/
inductive IsConstraintBlock : Option Json → Prop
  | missing : IsConstraintBlock none
  | null : IsConstraintBlock (some .null)
  | empty : IsConstraintBlock (some (.array []))
  | object (members : List (String × Json)) : IsConstraintBlock (some (.object members))

inductive IsQuestion : Json → Prop
  | intro {v : Json}
      (object : ∃ members, v = .object members)
      (key : ∃ key, v.get? "key" = some (.string key))
      (type : ∃ type, v.get? "type" = some (.string type))
      (constraints : IsConstraintBlock (v.get? "constraints"))
      (dependencies : ∀ block, v.get? "displayDependencies" = some block →
        block.hasMember "operator" = true → block.hasMember "conditions" = true →
        ¬ Group.NestsDeeper 128 block)
      (fields : ∀ items, v.get? "fields" = some (.array items) → ∀ w ∈ items, IsQuestion w) :
      IsQuestion v

structure IsCategory (v : Json) : Prop where
  slug : v.HasSlug
  questions : ∀ items, v.get? "questions" = some (.array items) → ∀ w ∈ items, w.IsQuestion

structure IsSection (v : Json) : Prop where
  slug : v.HasSlug
  categories : ∀ items, v.get? "categories" = some (.array items) → ∀ w ∈ items, w.IsCategory

structure IsForm (v : Json) : Prop where
  object : ∃ members, v = .object members
  slug : ∃ slug, v.get? "slug" = some (.string slug)
  sections : ∃ items, v.get? "sections" = some (.array items) ∧ ∀ w ∈ items, w.IsSection

theorem forall_items_iff {v : Json} {key : String} {p : Json → Prop} :
    (∀ items, v.get? key = some (.array items) → ∀ w ∈ items, p w) ↔
      ∀ w ∈ v.getItems key, p w := by
  constructor
  · intro h w hw
    obtain ⟨items, hitems, hmem⟩ := mem_getItems_iff.mp hw
    exact h items hitems w hmem
  · intro h items hitems w hw
    exact h w (mem_getItems_iff.mpr ⟨items, hitems, hw⟩)

end Json

theorem exists_forall₂_iff {α β : Type} {R : α → β → Prop} {l : List α} :
    (∃ bs, List.Forall₂ R l bs) ↔ ∀ a ∈ l, ∃ b, R a b := by
  induction l with
  | nil => exact iff_of_true ⟨[], .nil⟩ nofun
  | cons a rest ih =>
    rw [List.forall_mem_cons, ← ih]
    constructor
    · rintro ⟨bs, h⟩
      obtain ⟨b, others, hab, hothers, -⟩ := List.forall₂_cons_left_iff.mp h
      exact ⟨⟨b, hab⟩, ⟨others, hothers⟩⟩
    · rintro ⟨⟨b, hab⟩, ⟨others, hothers⟩⟩
      exact ⟨b :: others, .cons hab hothers⟩

/-- The items of a member have partners in a row exactly if each has one. A member that is no array
has no items. -/
theorem exists_forall₂_getItems_iff {β : Type} {R : Json → β → Prop} {p : Json → Prop} {v : Json}
    {key : String} (h : ∀ w ∈ v.getItems key, (∃ b, R w b) ↔ p w) :
    (∃ bs, List.Forall₂ R (v.getItems key) bs) ↔
      ∀ items, v.get? key = some (.array items) → ∀ w ∈ items, p w := by
  rw [exists_forall₂_iff, Json.forall_items_iff]
  exact forall₂_congr h

theorem exists_readsConstraints_iff {block : Option Json} :
    (∃ constraints, ReadsConstraints block constraints) ↔ Json.IsConstraintBlock block := by
  constructor
  · rintro ⟨constraints, h⟩
    cases h with
    | missing => exact .missing
    | null => exact .null
    | empty => exact .empty
    | object members => exact .object members
  · intro h
    cases h with
    | missing => exact ⟨none, .missing⟩
    | null => exact ⟨none, .null⟩
    | empty => exact ⟨none, .empty⟩
    | object members => exact ⟨some members, .object members⟩

namespace Dependencies

variable {v block : Json}

theorem ofBlock?_eq_none_iff :
    ofBlock? block = none ↔
      Condition.isGroupNode block = true ∧ Group.NestsDeeper Group.maxLevels block := by
  cases h : Condition.isGroupNode block with
  | true =>
    rw [ofBlock?_of_group h, Option.map_eq_none_iff, Group.ofJson?_eq_none_iff, eq_self, true_and]
  | false =>
    apply iff_of_false _ nofun
    intro hnone
    cases hblank : block.isBlank with
    | true => cases hnone.symm.trans (ofBlock?_of_blank hblank)
    | false => cases hnone.symm.trans (ofBlock?_of_not_group h hblank)

theorem exists_reads_iff :
    (∃ dependencies, Reads (v.get? "displayDependencies") dependencies) ↔
      ∀ block, v.get? "displayDependencies" = some block →
        block.hasMember "operator" = true → block.hasMember "conditions" = true →
        ¬ Group.NestsDeeper 128 block := by
  simp only [← ofBlock?_eq_some_iff]
  rw [← Option.ne_none_iff_exists', Ne, ofBlock?_eq_none_iff, Condition.isGroupNode_eq_true_iff]
  constructor
  · intro h block hblock hoperator hconditions hdeep
    rw [hblock] at h
    exact h ⟨⟨hoperator, hconditions⟩, hdeep⟩
  · rintro h ⟨⟨hoperator, hconditions⟩, hdeep⟩
    cases hblock : v.get? "displayDependencies" with
    | none =>
      rw [hblock] at hoperator
      cases hoperator
    | some block =>
      rw [hblock] at hoperator hconditions hdeep
      exact h block hblock hoperator hconditions hdeep

end Dependencies

namespace Question

theorem exists_reads_iff {v : Json} : (∃ q, Reads v q) ↔ v.IsQuestion := by
  induction v using Json.induction_getItems "fields" with
  | step v ih =>
    have hfields : (∃ fields, List.Forall₂ Reads (v.getItems "fields") fields) ↔
        ∀ items, v.get? "fields" = some (.array items) → ∀ w ∈ items, w.IsQuestion :=
      exists_forall₂_getItems_iff ih
    constructor
    · rintro ⟨q, h⟩
      cases h with
      | intro key type _ _ _ constraints dependencies fields options =>
        obtain ⟨members, hv, -⟩ := options
        exact .intro ⟨members, hv⟩ ⟨_, key⟩ ⟨_, type⟩
          (exists_readsConstraints_iff.mp ⟨_, constraints⟩)
          (Dependencies.exists_reads_iff.mp ⟨_, dependencies⟩) (hfields.mp ⟨_, fields⟩)
    · rintro ⟨-, ⟨key, hkey⟩, ⟨type, htype⟩, constraints, dependencies, fields⟩
      obtain ⟨constraints, hconstraints⟩ := exists_readsConstraints_iff.mpr constraints
      obtain ⟨dependencies, hdependencies⟩ := Dependencies.exists_reads_iff.mpr dependencies
      obtain ⟨fields, hfields⟩ := hfields.mpr fields
      exact ⟨_, reads_iff.mpr ⟨key, type, constraints, dependencies, fields,
        headOf?_eq_ok_iff.mpr ⟨hkey, htype⟩, hconstraints, hdependencies, hfields, rfl⟩⟩

end Question

theorem Category.exists_reads_iff {v : Json} : (∃ c, Reads v c) ↔ v.IsCategory := by
  have hquestions : (∃ qs, List.Forall₂ Question.Reads (v.getItems "questions") qs) ↔
      ∀ items, v.get? "questions" = some (.array items) → ∀ w ∈ items, w.IsQuestion :=
    exists_forall₂_getItems_iff fun _ _ => Question.exists_reads_iff
  constructor
  · rintro ⟨c, h⟩
    exact ⟨⟨c.slug, h.slug, h.notBlank⟩, hquestions.mp ⟨_, h.questions⟩⟩
  · rintro ⟨⟨slug, hslug, hink⟩, h⟩
    obtain ⟨qs, hqs⟩ := hquestions.mpr h
    exact ⟨⟨slug, _, qs⟩, hslug, hink, rfl, hqs⟩

theorem Section.exists_reads_iff {v : Json} : (∃ s, Reads v s) ↔ v.IsSection := by
  have hcategories : (∃ cs, List.Forall₂ Category.Reads (v.getItems "categories") cs) ↔
      ∀ items, v.get? "categories" = some (.array items) → ∀ w ∈ items, w.IsCategory :=
    exists_forall₂_getItems_iff fun _ _ => Category.exists_reads_iff
  constructor
  · rintro ⟨s, h⟩
    exact ⟨⟨s.slug, h.slug, h.notBlank⟩, hcategories.mp ⟨_, h.categories⟩⟩
  · rintro ⟨⟨slug, hslug, hink⟩, h⟩
    obtain ⟨cs, hcs⟩ := hcategories.mpr h
    exact ⟨⟨slug, _, cs, _⟩, hslug, hink, rfl, hcs, SubmitSpec.reads_iff.mpr rfl⟩

namespace FormSchema

theorem exists_reads_iff {v : Json} : (∃ s, Reads v s) ↔ v.IsForm := by
  constructor
  · rintro ⟨s, hslug, ⟨items, hitems, hsections⟩, -, -⟩
    refine ⟨Json.exists_object_of_get? hslug, ⟨s.slug, hslug⟩, items, hitems, fun w hw => ?_⟩
    exact Section.exists_reads_iff.mp (exists_forall₂_iff.mp ⟨_, hsections⟩ w hw)
  · rintro ⟨-, ⟨slug, hslug⟩, items, hitems, h⟩
    obtain ⟨sections, hsections⟩ := exists_forall₂_iff.mpr fun w hw =>
      Section.exists_reads_iff.mpr (h w hw)
    exact ⟨⟨slug, sections, _, _⟩, hslug, ⟨items, hitems, hsections⟩,
      GroupDisplay.reads_iff.mpr rfl, GroupDisplay.reads_iff.mpr rfl⟩

/-- A document is read exactly if it is well-formed, and the form that is read has one section,
category, question and entry field for each item of the document, in order, each question with all
its other members as options. -/
theorem ofJson_isForm_and_reads (v : Json) :
    ((∃ s, ofJson v = .ok s) ↔ v.IsForm) ∧ ∀ s, ofJson v = .ok s → Reads v s := by
  refine ⟨?_, fun s h => ofJson_eq_ok_iff.mp h⟩
  rw [← exists_reads_iff]
  exact exists_congr fun s => ofJson_eq_ok_iff

/-- A collection whose entries have one field, a question without more, and a section without
categories. -/
def rowsForm (cell : List (String × Json)) : Json :=
  .object [("slug", .string "form"), ("sections", .array [
    .object [("slug", .string "s"), ("categories", .array [
      .object [("slug", .string "c"), ("questions", .array [
        .object [("help", .bool true), ("key", .string "rows"), ("type", .string "collection"),
          ("constraints", .array []), ("fields", .array [.object cell]),
          ("displayDependencies", .object [("operator", .string "AND"), ("conditions", .array [
            .object [("operator", .null), ("conditions", .null)]])])],
        .object [("key", .string "note"), ("type", .string "text"), ("fields", .null)]])]])],
    .object [("slug", .string " t"), ("categories", .bool true)]])]

theorem ofJson_isForm_and_reads_rowsForm :
    (rowsForm [("unit", .null), ("key", .string "cell"), ("type", .string "text"),
      ("width", .bool true)]).IsForm ∧
    (∃ s, ofJson (rowsForm [("unit", .null), ("key", .string "cell"), ("type", .string "text"),
        ("width", .bool true)]) = .ok s ∧
      Reads (rowsForm [("unit", .null), ("key", .string "cell"), ("type", .string "text"),
        ("width", .bool true)]) s ∧
      s.questions.map (fun q => (q.key, q.fields.map (·.options))) =
        [("rows", [[("unit", .null), ("width", .bool true)]]), ("note", [])]) ∧
    ¬ (rowsForm [("key", .string "cell")]).IsForm := by
  obtain ⟨haccepted, hreads⟩ := ofJson_isForm_and_reads (rowsForm [("unit", .null),
    ("key", .string "cell"), ("type", .string "text"), ("width", .bool true)])
  refine ⟨haccepted.mp ⟨_, rfl⟩, ⟨_, rfl, hreads _ rfl, rfl⟩, fun hform => ?_⟩
  obtain ⟨s, hs⟩ := (ofJson_isForm_and_reads _).1.mpr hform
  cases hs

end FormSchema

end Questionnaire
