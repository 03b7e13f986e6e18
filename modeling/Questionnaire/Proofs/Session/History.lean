import Mathlib.Data.List.Induction
import Mathlib.Tactic.Tauto
import Questionnaire.Session
import Questionnaire.Proofs.Table.Lookup

namespace Questionnaire

/-- A document that is read without a fault. -/
def FormSchema.Accepts (document : Json) : Prop :=
  ∃ schema, ofJson document = .ok schema

theorem FormSchema.not_accepts {document : Json} {e : SchemaError}
    (h : ofJson document = .error e) : ¬ Accepts document := by
  rintro ⟨schema, hschema⟩
  rw [h] at hschema
  cases hschema

namespace Step

/-- A step was taken, and none that undoes it came after it. -/
def Stands (undoes : Step → Prop) (x : Step) (steps : List Step) : Prop :=
  ∃ before after, steps = before ++ x :: after ∧ ∀ y ∈ after, ¬ undoes y

variable {undoes : Step → Prop} {x y : Step} {steps : List Step}

theorem not_stands_nil : ¬ Stands undoes x [] := by
  rintro ⟨before, after, h, -⟩
  exact List.append_ne_nil_of_right_ne_nil before (List.cons_ne_nil x after) h.symm

theorem stands_concat_iff :
    Stands undoes x (steps ++ [y]) ↔ y = x ∨ ¬ undoes y ∧ Stands undoes x steps := by
  constructor
  · rintro ⟨before, after, h, hafter⟩
    rcases List.eq_nil_or_concat after with rfl | ⟨after, z, rfl⟩
    · exact .inl (List.singleton_inj.mp (List.append_inj' h rfl).2)
    · rw [List.concat_eq_append, List.forall_mem_append] at hafter
      rw [List.concat_eq_append, ← List.cons_append, ← List.append_assoc] at h
      obtain ⟨hsteps, hlast⟩ := List.append_inj' h rfl
      cases List.singleton_inj.mp hlast
      exact .inr ⟨hafter.2 y List.mem_cons_self, before, after, hsteps, hafter.1⟩
  · rintro (rfl | ⟨hy, before, after, rfl, hafter⟩)
    · exact ⟨steps, [], rfl, nofun⟩
    · refine ⟨before, after ++ [y], by rw [List.append_assoc, List.cons_append], ?_⟩
      exact List.forall_mem_append.mpr ⟨hafter, List.forall_mem_singleton.mpr hy⟩

/-- A session begins anew with a reset, and with a document that is accepted. -/
inductive BeginsAnew : Step → Prop
  | start {document : Json} (accepted : FormSchema.Accepts document) :
      BeginsAnew (.start document)
  | reset : BeginsAnew .reset

@[simp] theorem beginsAnew_start_iff {document : Json} :
    BeginsAnew (.start document) ↔ FormSchema.Accepts document := by
  constructor
  · rintro ⟨haccepted⟩
    exact haccepted
  · exact .start

@[simp] theorem not_beginsAnew_save (d : Context) : ¬ BeginsAnew (.save d) := nofun

@[simp] theorem not_beginsAnew_build : ¬ BeginsAnew .build := nofun

/-- What takes a value out of the draft: another one for its key, and a new beginning. -/
inductive Replaces (key : String) : Step → Prop
  | save {d : Context} (contains : d.contains key = true) : Replaces key (.save d)
  | anew {x : Step} (anew : x.BeginsAnew) : Replaces key x

variable {key : String}

@[simp] theorem replaces_start_iff {document : Json} :
    Replaces key (.start document) ↔ FormSchema.Accepts document := by
  constructor
  · intro h
    cases h with
    | anew hanew => exact beginsAnew_start_iff.mp hanew
  · intro haccepted
    exact .anew (.start haccepted)

@[simp] theorem replaces_save_iff {d : Context} :
    Replaces key (.save d) ↔ d.contains key = true := by
  constructor
  · rintro (hcontains | hanew)
    · exact hcontains
    · exact absurd hanew (not_beginsAnew_save d)
  · exact .save

@[simp] theorem not_replaces_build : ¬ Replaces key .build := by
  intro h
  cases h with
  | anew hanew => exact not_beginsAnew_build hanew

@[simp] theorem replaces_reset : Replaces key .reset := .anew .reset

/-- All that a step can do to a store. -/
inductive Effect (s : Store) : Step → Store → Prop
  | started {document : Json} (accepted : FormSchema.Accepts document) :
      Effect s (.start document) (Store.empty.setDocument document)
  | refused {document : Json} {e : SchemaError} (error : FormSchema.ofJson document = .error e) :
      Effect s (.start document) s
  | saved (d : Context) : Effect s (.save d) (s.save d)
  | built : Effect s .build s
  | reset : Effect s .reset .empty

theorem effect_apply (s : Store) (x : Step) : Effect s x (apply s x) := by
  cases x with
  | start document =>
    rw [apply, Store.start]
    cases h : FormSchema.ofJson document with
    | ok schema => exact .started ⟨schema, h⟩
    | error e => exact .refused h
  | save d => exact .saved d
  | build => exact .built
  | reset => exact .reset

namespace Effect

variable {s s' : Store}

theorem document_iff (h : Effect s x s') {document : Json} :
    s'.document = some document ↔
      FormSchema.Accepts document ∧ x = .start document ∨
        ¬ x.BeginsAnew ∧ s.document = some document := by
  cases h with
  | @started document' accepted =>
    simp only [Store.setDocument, Option.some.injEq, Step.start.injEq, beginsAnew_start_iff,
      accepted, not_true, false_and, or_false]
    exact ⟨fun heq => ⟨heq ▸ accepted, heq⟩, And.right⟩
  | @refused document' e error =>
    have hother : FormSchema.Accepts document → document' ≠ document := by
      rintro haccepted rfl
      exact FormSchema.not_accepts error haccepted
    simp +contextual [hother, FormSchema.not_accepts error]
  | saved d => simp [Store.save]
  | built => simp
  | reset => simp [BeginsAnew.reset, Store.empty]

theorem isSome_document_iff (h : Effect s x s') :
    s'.document.isSome ↔
      (∃ document, FormSchema.Accepts document ∧ x = .start document) ∨
        ¬ x = .reset ∧ s.document.isSome := by
  cases h with
  | started accepted => simp [Store.setDocument, accepted]
  | refused error => simp [FormSchema.not_accepts error]
  | saved d => simp [Store.save]
  | built => simp
  | reset => simp [Store.empty]

theorem get?_draft_iff (h : Effect s x s') {k : String} {v : Value} :
    s'.draft.get? k = some v ↔
      (∃ d : Context, d.get? k = some v ∧ x = .save d) ∨
        ¬ x.Replaces k ∧ s.draft.get? k = some v := by
  cases h with
  | started accepted => simp [accepted, Store.setDocument, Store.empty]
  | refused error => simp [FormSchema.not_accepts error]
  | saved d =>
    simp only [Store.save, Table.get?_overlay, replaces_save_iff, Step.save.injEq, Table.contains]
    cases hd : d.get? k <;> simp [hd]
  | built => simp
  | reset => simp [Store.empty]

theorem eq_of_accepted {document : Json} (h : Effect s (.start document) s')
    (haccepted : FormSchema.Accepts document) : s' = Store.empty.setDocument document := by
  cases h with
  | started accepted => rfl
  | refused error => exact absurd haccepted (FormSchema.not_accepts error)

theorem eq_of_refused {document : Json} (h : Effect s (.start document) s')
    (hrefused : ¬ FormSchema.Accepts document) : s' = s := by
  cases h with
  | started accepted => exact absurd accepted hrefused
  | refused error => rfl

end Effect

theorem applyAll_concat (s : Store) (steps : List Step) (x : Step) :
    applyAll s (steps ++ [x]) = apply (applyAll s steps) x :=
  List.foldl_append

theorem document_applyAll_iff {document : Json} :
    (applyAll .empty steps).document = some document ↔
      FormSchema.Accepts document ∧ Stands BeginsAnew (.start document) steps := by
  induction steps using List.reverseRecOn with
  | nil => simp [applyAll, Store.empty, not_stands_nil]
  | append_singleton steps x ih =>
    rw [applyAll_concat, (effect_apply _ x).document_iff, stands_concat_iff, ih]
    tauto

theorem isSome_document_applyAll_iff :
    (applyAll .empty steps).document.isSome ↔
      ∃ document, FormSchema.Accepts document ∧ Stands (· = .reset) (.start document) steps := by
  induction steps using List.reverseRecOn with
  | nil => simp [applyAll, Store.empty, not_stands_nil]
  | append_singleton steps x ih =>
    rw [applyAll_concat, (effect_apply _ x).isSome_document_iff, ih, ← exists_and_left, ← exists_or]
    simp only [stands_concat_iff]
    exact exists_congr fun document => by tauto

theorem get?_draft_applyAll_iff {v : Value} :
    (applyAll .empty steps).draft.get? key = some v ↔
      ∃ d : Context, d.get? key = some v ∧ Stands (Replaces key) (.save d) steps := by
  induction steps using List.reverseRecOn with
  | nil => simp [applyAll, Store.empty, not_stands_nil]
  | append_singleton steps x ih =>
    rw [applyAll_concat, (effect_apply _ x).get?_draft_iff, ih, ← exists_and_left, ← exists_or]
    simp only [stands_concat_iff]
    exact exists_congr fun d => by tauto

/-- What is stored is settled by the steps taken: the active document is one that was accepted and
after which the session did not begin anew, a value of the draft is one that was saved and not
replaced since, and nothing else is there. A document that is refused and a build change nothing. -/
theorem stored_iff_stands (steps : List Step) :
    (∀ document, (applyAll .empty steps).document = some document ↔
      FormSchema.Accepts document ∧ Stands BeginsAnew (.start document) steps) ∧
    (∀ key v, (applyAll .empty steps).draft.get? key = some v ↔
      ∃ d : Context, d.get? key = some v ∧ Stands (Replaces key) (.save d) steps) ∧
    (∀ document, ¬ FormSchema.Accepts document →
      applyAll .empty (steps ++ [.start document]) = applyAll .empty steps) ∧
    applyAll .empty (steps ++ [.build]) = applyAll .empty steps := by
  refine ⟨fun _ => document_applyAll_iff, fun _ _ => get?_draft_applyAll_iff, ?_, ?_⟩
  · intro document hrefused
    rw [applyAll_concat]
    exact (effect_apply _ _).eq_of_refused hrefused
  · rw [applyAll_concat]
    rfl

/-- A document without sections. -/
def blankForm (slug : String) : Json :=
  .object [("slug", .string slug), ("sections", .array [])]

/-- Data are saved before and after a document is started; one value is then replaced by null. -/
def resumed : List Step := [
  .save (Table.ofList [("a", .bool true), ("c", .bool true)]),
  .start (blankForm "form"),
  .save (Table.ofList [("a", .bool true), ("b", .bool true)]),
  .start .null,
  .build,
  .save (Table.ofList [("a", .null)])]

theorem stored_iff_stands_resumed :
    (applyAll .empty resumed).document = some (blankForm "form") ∧
    (applyAll .empty resumed).draft.get? "a" = some .null ∧
    (applyAll .empty resumed).draft.get? "b" = some (.bool true) ∧
    ¬ FormSchema.Accepts .null ∧
    applyAll .empty (resumed ++ [.start .null]) = applyAll .empty resumed := by
  have hnull : ¬ FormSchema.Accepts .null := FormSchema.not_accepts rfl
  have hb : (Table.ofList [("a", Value.null)]).contains "b" = false := rfl
  obtain ⟨hdocument, hdraft, hrefused, -⟩ := stored_iff_stands resumed
  refine ⟨(hdocument _).mpr ⟨⟨_, rfl⟩, [_], _, rfl, ?_⟩,
    (hdraft _ _).mpr ⟨_, ?_, [_, _, _, _, _], [], rfl, nofun⟩,
    (hdraft _ _).mpr ⟨_, ?_, [_, _], _, rfl, ?_⟩, hnull, hrefused _ hnull⟩
  · simp [hnull]
  · rfl
  · rfl
  · simp [hnull, hb]

end Step

end Questionnaire
