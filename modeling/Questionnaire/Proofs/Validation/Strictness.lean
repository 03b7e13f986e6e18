import Questionnaire.Proofs.Validation.Shape

namespace Questionnaire.Validation

variable {v : Json} {e : SchemaError} {index : Nat}

/-- A text of blanks, some of them unknown to the schema. -/
def IsUnseen (slug : String) : Prop :=
  (∀ c ∈ slug.toList, Text.isBlank c = true) ∧ HasVisible slug

/-- The errors about a section or a category whose slug the schema lets through and reading does
not. -/
inductive UnseenSlug (v : Json) : SchemaError → Prop
  | ofSection {i : Nat} {w : Json} {slug : String}
      (place : (v.getItems "sections")[i]? = some w) (found : w.get? "slug" = some (.string slug))
      (unseen : IsUnseen slug) : UnseenSlug v (.sectionSlug i)
  | ofCategory {i j : Nat} {w c : Json} {above slug : String}
      (sectionPlace : (v.getItems "sections")[i]? = some w)
      (sectionFound : w.get? "slug" = some (.string above))
      (place : (w.getItems "categories")[j]? = some c)
      (found : c.get? "slug" = some (.string slug))
      (unseen : IsUnseen slug) : UnseenSlug v (.categorySlug above j)

theorem isUnseen_of_no_slug {slug : String} (hslug : v.get? "slug" = some (.string slug))
    (hvisible : HasVisible slug) (h : slugOf? v = none) : IsUnseen slug := by
  refine ⟨fun c hc => ?_, hvisible⟩
  by_contra hink
  have hread := slugOf?_eq_some_iff.mpr ⟨hslug, c, hc, Bool.eq_false_iff.mpr hink⟩
  cases h.symm.trans hread

theorem tooDeep_of_question {scope : String} (h : question.Conforms definitions v)
    (he : Question.ofJson scope index v = .error e) : ∃ key, e = .conditionsTooDeep key := by
  induction v using Json.induction_getItems "fields" generalizing scope index e with
  | step v ih =>
    obtain ⟨key, type, hhead⟩ := head_of_question h
    obtain ⟨constraints, hconstraints⟩ := constraints_of_question h
    rw [Question.ofJson_eq] at he
    rcases bind_eq_error_iff.mp he with hshell | ⟨⟨key', question⟩, -, he⟩
    · exact ⟨key, Question.tooDeep_of_shellOf hhead hconstraints hshell⟩
    · dsimp only at he
      rw [Question.listOfJson_eq_readRow] at he
      obtain ⟨i, w, hi, hw⟩ := exists_of_readRow_bind_error he
      have hmem := List.mem_of_getElem? hi
      exact ih w hmem (fields_of_question h w hmem) hw

theorem error_of_category {above : String} (h : category.Conforms definitions v)
    (he : Category.ofJson above index v = .error e) :
    (∃ key, e = .conditionsTooDeep key) ∨ e = .categorySlug above index ∧
      ∃ slug, v.get? "slug" = some (.string slug) ∧ IsUnseen slug := by
  obtain ⟨slug, hslug, hvisible⟩ := slug_of_layout (layout_of_category h)
  cases hread : slugOf? v with
  | none =>
    rw [Category.ofJson_of_no_slug hread] at he
    cases he
    exact .inr ⟨rfl, slug, hslug, isUnseen_of_no_slug hslug hvisible hread⟩
  | some slug =>
    rw [Category.ofJson_of_slug hread, Question.listOfJson_eq_readRow] at he
    obtain ⟨i, w, hi, hw⟩ := exists_of_readRow_bind_error he
    have hquestion := items_of_layout rfl (layout_of_category h) w (List.mem_of_getElem? hi)
    exact .inl (tooDeep_of_question hquestion hw)

theorem error_of_section {w : Json} (place : (v.getItems "sections")[index]? = some w)
    (h : formSection.Conforms definitions w) (he : Section.ofJson index w = .error e) :
    (∃ key, e = .conditionsTooDeep key) ∨ UnseenSlug v e := by
  obtain ⟨slug, hslug, hvisible⟩ := slug_of_layout (layout_of_section h)
  cases hread : slugOf? w with
  | none =>
    rw [Section.ofJson_of_no_slug hread] at he
    cases he
    exact .inr (.ofSection place hslug (isUnseen_of_no_slug hslug hvisible hread))
  | some above =>
    rw [Section.ofJson_of_slug hread, Category.listOfJson_eq_readRow] at he
    obtain ⟨j, c, hj, hc⟩ := exists_of_readRow_bind_error he
    have hcategory := items_of_layout rfl (layout_of_section h) c (List.mem_of_getElem? hj)
    rcases error_of_category hcategory hc with hdeep | ⟨rfl, slug, hslug, hunseen⟩
    · exact .inl hdeep
    · exact .inr (.ofCategory place (slugOf?_eq_some_iff.mp hread).1 hj hslug hunseen)

theorem error_of_form (h : form.Conforms definitions v) (he : FormSchema.ofJson v = .error e) :
    (∃ key, e = .conditionsTooDeep key) ∨ UnseenSlug v e := by
  obtain ⟨slug, items, hhead, hitems, hsections⟩ := head_of_form h
  rw [FormSchema.ofJson_of_head hhead, Section.listOfJson_eq_readRow] at he
  obtain ⟨i, w, hi, hw⟩ := exists_of_readRow_bind_error he
  refine error_of_section ?_ (hsections w (List.mem_of_getElem? hi)) hw
  rwa [Json.getItems_of_array hitems]

theorem not_hasSlug_of_isUnseen {slug : String} (hslug : v.get? "slug" = some (.string slug))
    (h : IsUnseen slug) : ¬ v.HasSlug := by
  rintro ⟨slug', hslug', c, hc, hink⟩
  cases hslug.symm.trans hslug'
  rw [h.1 c hc] at hink
  cases hink

theorem not_isForm_of_unseenSlug (h : UnseenSlug v e) : ¬ v.IsForm := by
  rintro ⟨-, -, items, hitems, hsections⟩
  cases h with
  | ofSection place found unseen =>
    rw [Json.getItems_of_array hitems] at place
    exact not_hasSlug_of_isUnseen found unseen (hsections _ (List.mem_of_getElem? place)).slug
  | ofCategory sectionPlace sectionFound place found unseen =>
    rw [Json.getItems_of_array hitems] at sectionPlace
    have hcategories := Json.forall_items_iff.mp
      (hsections _ (List.mem_of_getElem? sectionPlace)).categories
    exact not_hasSlug_of_isUnseen found unseen (hcategories _ (List.mem_of_getElem? place)).slug

/-- A document that conforms to the schema of form documents is read, unless groups of conditions
nest too deep or a section or category has a slug of blanks, some of which the schema does not know.
With such a slug it is not read. -/
theorem reading_of_conforms (v : Json) (h : form.Conforms definitions v) :
    ((∃ s, FormSchema.ofJson v = .ok s) ∨
      (∃ key, FormSchema.ofJson v = .error (.conditionsTooDeep key)) ∨
      ∃ e, UnseenSlug v e ∧ FormSchema.ofJson v = .error e) ∧
    ∀ e, UnseenSlug v e → ∀ s, FormSchema.ofJson v ≠ .ok s := by
  constructor
  · cases hread : FormSchema.ofJson v with
    | ok s => exact .inl ⟨s, rfl⟩
    | error e =>
      rcases error_of_form h hread with ⟨key, rfl⟩ | hunseen
      · exact .inr (.inl ⟨key, rfl⟩)
      · exact .inr (.inr ⟨e, hunseen, rfl⟩)
  · intro e hunseen s hs
    exact not_isForm_of_unseenSlug hunseen
      (FormSchema.exists_reads_iff.mp ⟨s, FormSchema.ofJson_eq_ok_iff.mp hs⟩)

theorem reading_of_conforms_oneCategory :
    (form.Conforms definitions (oneCategory "s" "c" []) ∧
      ∃ s, FormSchema.ofJson (oneCategory "s" "c" []) = .ok s) ∧
    form.Conforms definitions (oneCategory "s" "\u2028" []) ∧
    UnseenSlug (oneCategory "s" "\u2028" []) (.categorySlug "s" 0) ∧
    ∀ s, FormSchema.ofJson (oneCategory "s" "\u2028" []) ≠ .ok s := by
  have habove : HasVisible "s" := ⟨'s', by decide, by decide⟩
  have hseen : form.Conforms definitions (oneCategory "s" "c" []) :=
    conforms_oneCategory habove ⟨'c', by decide, by decide⟩ nofun
  have hblank : IsUnseen "\u2028" := by
    refine ⟨fun c hc => ?_, '\u2028', by decide, by decide⟩
    cases List.mem_singleton.mp hc
    rfl
  have hconforms : form.Conforms definitions (oneCategory "s" "\u2028" []) :=
    conforms_oneCategory habove hblank.2 nofun
  have hunseen : UnseenSlug (oneCategory "s" "\u2028" []) (.categorySlug "s" 0) :=
    .ofCategory (i := 0) rfl rfl rfl rfl hblank
  refine ⟨⟨hseen, ?_⟩, hconforms, hunseen, (reading_of_conforms _ hconforms).2 _ hunseen⟩
  rcases (reading_of_conforms _ hseen).1 with hok | ⟨key, hdeep⟩ | ⟨e, -, he⟩
  · exact hok
  · cases hdeep
  · cases he

/-- The ideographic space is a blank that the schema does not know. -/
theorem conforms_ideographicSpace_and_refused :
    form.Conforms definitions (oneCategory "\u3000" "c" []) ∧
      FormSchema.ofJson (oneCategory "\u3000" "c" []) = .error (.sectionSlug 0) := by
  refine ⟨conforms_oneCategory ?_ ⟨'c', by decide, by decide⟩ nofun, rfl⟩
  exact ⟨'\u3000', by decide, by decide⟩

end Questionnaire.Validation
