import Questionnaire.Proofs.Form.Checks
import Questionnaire.Proofs.Session.History

namespace Questionnaire

theorem FormSchema.exists_field_of_build {config : Config} {s : FormSchema} {d : Context}
    {e : BuildError} (h : (s.build config d).result = .error e) : ∃ k, e.field? = some k := by
  rw [build_eq_error_iff, fault?_eq_some_iff] at h
  obtain ⟨i, q, -, hfails, -⟩ := h
  cases hfails with
  | coercion | constraint | visibility => exact ⟨_, rfl⟩

namespace Step

/-- The data that a step saves. -/
def data? : Step → Option Context
  | .save d => some d
  | _ => none

/-- Until the session begins anew the document stays, and the data saved pile up on the draft. -/
theorem applyAll_of_not_beginsAnew {s : Store} {steps : List Step}
    (h : ∀ x ∈ steps, ¬ x.BeginsAnew) :
    applyAll s steps = ⟨s.document, (steps.filterMap data?).foldl Table.overlay s.draft⟩ := by
  induction steps generalizing s with
  | nil => rfl
  | cons x rest ih =>
    obtain ⟨hx, hrest⟩ := List.forall_mem_cons.mp h
    have hstep : applyAll s (x :: rest) = applyAll (apply s x) rest := rfl
    rw [hstep, ih hrest]
    cases x with
    | start document =>
      rw [(effect_apply s _).eq_of_refused fun haccepted => hx (.start haccepted)]
      rfl
    | save d => rfl
    | build => rfl
    | reset => exact absurd .reset hx

end Step

namespace Store

/-- The active document, if there is one, was accepted. -/
def IsSound (s : Store) : Prop :=
  ∀ document, s.document = some document → FormSchema.Accepts document

variable {s : Store} {config : Config}

theorem isSound_empty : empty.IsSound := nofun

theorem IsSound.apply (h : s.IsSound) (x : Step) : (x.apply s).IsSound := by
  intro document hdocument
  rcases (Step.effect_apply s x).document_iff.mp hdocument with ⟨haccepted, -⟩ | ⟨-, hkept⟩
  · exact haccepted
  · exact h document hkept

theorem IsSound.applyAll (h : s.IsSound) (steps : List Step) : (Step.applyAll s steps).IsSound := by
  induction steps generalizing s with
  | nil => exact h
  | cons x rest ih => exact ih (h.apply x)

theorem build_of_accepted {document : Json} {schema : FormSchema}
    (hdocument : s.document = some document) (hschema : FormSchema.ofJson document = .ok schema) :
    s.build config = schema.build config s.draft := by
  rw [build, hdocument]
  dsimp only
  rw [hschema]
  rfl

theorem build_of_no_document (h : s.document = none) :
    s.build config = Journal.ofExcept (.error .noStructure) := by
  rw [build, h]

theorem IsSound.error_of_build (h : s.IsSound) {e : BuildError}
    (he : (s.build config).result = .error e) :
    s.document = none ∧ e = .noStructure ∨ s.document.isSome ∧ ∃ k, e.field? = some k := by
  cases hdocument : s.document with
  | none =>
    rw [build_of_no_document hdocument] at he
    cases he
    exact .inl ⟨rfl, rfl⟩
  | some document =>
    obtain ⟨schema, hschema⟩ := h document hdocument
    rw [build_of_accepted hdocument hschema] at he
    exact .inr ⟨rfl, FormSchema.exists_field_of_build he⟩

theorem IsSound.noStructure_iff (h : s.IsSound) :
    (s.build config).result = .error .noStructure ↔ s.document = none := by
  constructor
  · intro he
    rcases h.error_of_build he with ⟨hnone, -⟩ | ⟨-, k, hk⟩
    · exact hnone
    · cases hk
  · intro hnone
    rw [build_of_no_document hnone]
    rfl

theorem IsSound.not_about_document (h : s.IsSound) {e : BuildError}
    (he : (s.build config).result = .error e) :
    (∀ c, e ≠ .schema c) ∧ ∀ c, e ≠ .invalidData c := by
  rcases h.error_of_build he with ⟨-, rfl⟩ | ⟨-, k, hk⟩
  · exact ⟨nofun, nofun⟩
  · constructor <;> rintro c rfl <;> cases hk

/-- After any steps a build finds no document exactly if none was accepted since the last reset, it
never fails for a document or for the form of the data, and after a document was accepted it builds
the schema of the document with the data saved since, later data over earlier. -/
theorem build_applyAll (config : Config) (steps : List Step) :
    (((Step.applyAll .empty steps).build config).result = .error .noStructure ↔
      ¬ ∃ document, FormSchema.Accepts document ∧
        Step.Stands (· = .reset) (.start document) steps) ∧
    (∀ e, ((Step.applyAll .empty steps).build config).result = .error e →
      (∀ c, e ≠ .schema c) ∧ ∀ c, e ≠ .invalidData c) ∧
    (∀ document schema after, FormSchema.ofJson document = .ok schema →
      (∀ x ∈ after, ¬ Step.BeginsAnew x) →
      (Step.applyAll .empty (steps ++ .start document :: after)).build config =
        schema.build config ((after.filterMap Step.data?).foldl Table.overlay .empty)) := by
  have hsound : (Step.applyAll empty steps).IsSound := isSound_empty.applyAll steps
  refine ⟨?_, fun e he => hsound.not_about_document he, ?_⟩
  · rw [hsound.noStructure_iff, ← Step.isSome_document_applyAll_iff, Option.not_isSome_iff_eq_none]
  · intro document schema after hschema hafter
    have hrun : Step.applyAll empty (steps ++ .start document :: after) =
        Step.applyAll (empty.setDocument document) after := by
      rw [Step.applyAll, List.foldl_append, List.foldl_cons,
        (Step.effect_apply _ _).eq_of_accepted ⟨schema, hschema⟩]
      rfl
    rw [hrun, Step.applyAll_of_not_beginsAnew hafter]
    exact build_of_accepted rfl hschema

/-- A document with one question, for a date. -/
def dateForm : Json :=
  .object [("slug", .string "form"), ("sections", .array [
    .object [("slug", .string "s"), ("categories", .array [
      .object [("slug", .string "c"), ("questions", .array [
        .object [("key", .string "born"), ("type", .string "date")]])]])]])]

/-- Data are saved twice, with a build and a refused document in between. -/
def corrected : List Step := [
  .save (Table.ofList [("born", .bool true), ("name", .bool true)]),
  .build,
  .start .null,
  .save (Table.ofList [("born", .text "1815-12-10")])]

theorem build_applyAll_dateForm :
    ((Step.applyAll .empty [.start dateForm, .reset]).build {}).result = .error .noStructure ∧
    (∃ e, ((Step.applyAll .empty (.start dateForm :: corrected.take 1)).build {}).result =
      .error e ∧ (∀ c, e ≠ .schema c) ∧ ∀ c, e ≠ .invalidData c) ∧
    ∃ schema, FormSchema.ofJson dateForm = .ok schema ∧
      (∀ x ∈ corrected, ¬ Step.BeginsAnew x) ∧
      (Step.applyAll .empty (.start dateForm :: corrected)).build {} =
        schema.build {} (Table.ofList [("born", .text "1815-12-10"), ("name", .bool true)]) := by
  have hnull : ¬ FormSchema.Accepts .null := FormSchema.not_accepts rfl
  have hcorrected : ∀ x ∈ corrected, ¬ Step.BeginsAnew x := by simp [corrected, hnull]
  refine ⟨(build_applyAll {} [.start dateForm, .reset]).1.mpr ?_, ?_, ?_⟩
  · rintro ⟨document, -, hstands⟩
    have hlast : Step.Stands (· = .reset) (.start document) ([.start dateForm] ++ [.reset]) := hstands
    rcases Step.stands_concat_iff.mp hlast with h | ⟨h, -⟩
    · cases h
    · exact h rfl
  · exact ⟨_, rfl, (build_applyAll {} (.start dateForm :: corrected.take 1)).2.1 _ rfl⟩
  · exact ⟨_, rfl, hcorrected, (build_applyAll {} []).2.2 _ _ _ rfl hcorrected⟩

end Store

end Questionnaire
