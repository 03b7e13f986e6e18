import Questionnaire.Proofs.Form.Checks

namespace Questionnaire

/-- An error for a value that does not suit its kind. -/
def BuildError.IsCoercion (e : BuildError) : Prop :=
  ∃ key c, e = .coercion key c

namespace Config

/-- The configuration with the policy to fail the build, whatever its own policy is. -/
def aborting (config : Config) : Config :=
  { config with onCoercionError := .abort }

/-- The configuration with the policy to leave questions out. -/
def skipping (config : Config) : Config :=
  { config with onCoercionError := .skip }

end Config

namespace Question

variable {config : Config} {d : Context} {q : Question} {e : BuildError}

/-- The failures of a question under the policy to leave it out are those under the other policy,
but for the coercion. -/
theorem failsWith_skipping_iff :
    q.FailsWith config.skipping d e ↔ q.FailsWith config.aborting d e ∧ ¬ e.IsCoercion := by
  constructor
  · intro h
    cases h with
    | coercion policy => cases policy
    | constraint suits blocks accepted refused =>
      exact ⟨.constraint suits blocks accepted refused, nofun⟩
    | visibility suits accepted rule undecided =>
      exact ⟨.visibility suits accepted rule undecided, nofun⟩
  · rintro ⟨h, hother⟩
    cases h with
    | coercion => exact absurd ⟨_, _, rfl⟩ hother
    | constraint suits blocks accepted refused => exact .constraint suits blocks accepted refused
    | visibility suits accepted rule undecided => exact .visibility suits accepted rule undecided

theorem FailsWith.unsuited (h : q.FailsWith config d e) (hcoercion : e.IsCoercion) :
    ∃ c, coerce q.kind (d.resolve q.key) = .error c ∧ e = .coercion q.key c := by
  obtain ⟨key, c, rfl⟩ := hcoercion
  cases h with
  | coercion policy unsuited => exact ⟨c, unsuited, rfl⟩

theorem Clears.suits (h : q.Clears config.aborting d) :
    ∃ default, coerce q.kind (d.resolve q.key) = .ok default := by
  rcases h with ⟨hskip, -⟩ | hpasses
  · cases hskip
  · exact hpasses.suits

end Question

namespace Stage

variable {config : Config} {p : Stage}

theorem fault?_skipping_eq_some_iff {e : BuildError} :
    p.fault? config.skipping = some e ↔ p.fault? config.aborting = some e ∧ ¬ e.IsCoercion := by
  rw [fault?_eq_some_iff, fault?_eq_some_iff, Question.failsWith_skipping_iff]

theorem fault?_skipping_eq_none (h : p.fault? config.aborting = none) :
    p.fault? config.skipping = none := by
  rw [Option.eq_none_iff_forall_ne_some]
  intro e he
  have habort := (fault?_skipping_eq_some_iff.mp he).1
  rw [h] at habort
  cases habort

end Stage

namespace Context

variable {config : Config} {d : Context} {qs : List Question} {e : BuildError}

theorem fault?_skipping_eq_none (h : d.fault? config.aborting qs = none) :
    d.fault? config.skipping qs = none := by
  rw [fault?, List.findSome?_eq_none_iff] at h ⊢
  intro p hp
  exact Stage.fault?_skipping_eq_none (h p hp)

/-- No question before the first fault has a fault under the other policy either, so a first fault
that is none of coercion is the first under both. -/
theorem fault?_skipping_eq_some (h : d.fault? config.aborting qs = some e)
    (hother : ¬ e.IsCoercion) : d.fault? config.skipping qs = some e := by
  rw [fault?, List.findSome?_eq_some_iff] at h ⊢
  obtain ⟨before, p, after, hstages, hp, hbefore⟩ := h
  refine ⟨before, p, after, hstages, Stage.fault?_skipping_eq_some_iff.mpr ⟨hp, hother⟩, ?_⟩
  intro p' hp'
  exact Stage.fault?_skipping_eq_none (hbefore p' hp')

theorem not_isCoercion_of_skipping (h : d.fault? config.skipping qs = some e) :
    ¬ e.IsCoercion := by
  obtain ⟨p, -, hp⟩ := List.exists_of_findSome?_eq_some h
  exact (Stage.fault?_skipping_eq_some_iff.mp hp).2

end Context

theorem Category.layout_skipping (config : Config) (display : GroupDisplay) (d : Context)
    (cs : List Category) :
    layout config.skipping display d cs = layout config.aborting display d cs := by
  induction cs generalizing d with
  | nil => rfl
  | cons c rest ih =>
    rw [layout, layout, ih]
    rfl

theorem Section.layout_skipping (config : Config) (schema : FormSchema) (d : Context)
    (ss : List Section) :
    layout config.skipping schema d ss = layout config.aborting schema d ss := by
  induction ss generalizing d with
  | nil => rfl
  | cons s rest ih =>
    rw [layout, layout, ih, Category.layout_skipping]
    rfl

namespace FormSchema

theorem tree_skipping (config : Config) (s : FormSchema) (d : Context) :
    s.tree config.skipping d = s.tree config.aborting d := by
  rw [tree, tree, Section.layout_skipping]
  rfl

variable {config : Config} {s : FormSchema} {d : Context}

/-- The error of coercion for the first question whose seeded value does not suit its kind. -/
def FirstUnsuited (s : FormSchema) (d : Context) (e : BuildError) : Prop :=
  ∃ (i : Nat) (q : Question) (c : CoercionError), s.questions[i]? = some q ∧
    coerce q.kind ((s.dataAt d i).resolve q.key) = .error c ∧ e = .coercion q.key c ∧
    ∀ (j : Nat) (p : Question), j < i → s.questions[j]? = some p →
      ∃ default, coerce p.kind ((s.dataAt d j).resolve p.key) = .ok default

theorem firstUnsuited_of_aborting {e : BuildError}
    (h : (s.build config.aborting d).result = .error e) (hcoercion : e.IsCoercion) :
    s.FirstUnsuited d e := by
  rw [build_eq_error_iff, fault?_eq_some_iff] at h
  obtain ⟨i, q, hq, hfails, hbefore⟩ := h
  obtain ⟨c, hunsuited, he⟩ := hfails.unsuited hcoercion
  exact ⟨i, q, c, hq, hunsuited, he, fun j p hj hp => (hbefore j p hj hp).suits⟩

/-- The two policies differ in failures of coercion only. What goes through under the policy to fail
goes through under the other with the same tree, and an error of any other sort is the same under
both. Under the policy to leave out no error is one of coercion, and where it alone goes through,
the error under the other is that of the first question whose seeded value does not suit. The
templates of entries are made alike. -/
theorem build_skipping_and_aborting (config : Config) (s : FormSchema) (d : Context) :
    (∀ t, (s.build config.aborting d).result = .ok t →
      (s.build config.skipping d).result = .ok t) ∧
    (∀ e, (s.build config.aborting d).result = .error e → ¬ e.IsCoercion →
      (s.build config.skipping d).result = .error e) ∧
    (∀ e, (s.build config.skipping d).result = .error e → ¬ e.IsCoercion) ∧
    (∀ t e, (s.build config.skipping d).result = .ok t →
      (s.build config.aborting d).result = .error e → s.FirstUnsuited d e) ∧
    (∀ qs, entryFields config.skipping .null qs =
        Journal.ofExcept (Question.template config.registry qs) ∧
      entryFields config.aborting .null qs =
        Journal.ofExcept (Question.template config.registry qs)) := by
  refine ⟨?_, ?_, ?_, ?_, fun qs => ⟨Question.entryFields_null _ qs, Question.entryFields_null _ qs⟩⟩
  · intro t h
    obtain ⟨hfault, rfl⟩ := build_eq_ok_iff.mp h
    exact build_eq_ok_iff.mpr ⟨Context.fault?_skipping_eq_none hfault, tree_skipping config s d⟩
  · intro e h hother
    rw [build_eq_error_iff] at h ⊢
    exact Context.fault?_skipping_eq_some h hother
  · intro e h
    exact Context.not_isCoercion_of_skipping (build_eq_error_iff.mp h)
  · intro t e hskip habort
    refine firstUnsuited_of_aborting habort (Classical.byContradiction fun hother => ?_)
    -- any other error would stop the build under both policies
    have hfault := Context.fault?_skipping_eq_some (build_eq_error_iff.mp habort) hother
    rw [(build_eq_ok_iff.mp hskip).1] at hfault
    cases hfault

/-- A date between two other questions: its default and the constraints of the last question are
left open. -/
def datedForm (default : Option Json) (constraints : Option (List (String × Json))) :
    FormSchema where
  slug := "form"
  sections := [
    ⟨"s", none, [⟨"c", none, [
      ⟨"rows", "collection", none, none, none, none, none,
        [⟨"day", "date", none, none, some (.bool true), none, none, [], []⟩], []⟩,
      ⟨"born", "date", none, none, default, none, none, [], []⟩]⟩], none⟩,
    ⟨"t", none, [⟨"c", none, [
      ⟨"name", "text", none, none, none, constraints, none, [], []⟩]⟩], none⟩]
  sectionDisplay := ⟨[], []⟩
  categoryDisplay := ⟨[], []⟩

theorem build_skipping_and_aborting_datedForm :
    (∃ t, ((datedForm none none).build (Config.aborting {}) .empty).result = .ok t ∧
      ((datedForm none none).build (Config.skipping {}) .empty).result = .ok t) ∧
    (let s := datedForm none (some [("Bogus", .null)])
      ∃ e, (s.build (Config.aborting {}) .empty).result = .error e ∧ ¬ e.IsCoercion ∧
        (s.build (Config.skipping {}) .empty).result = .error e) ∧
    (let s := datedForm (some (.bool true)) (some [("Bogus", .null)])
      ∃ e e', (s.build (Config.aborting {}) .empty).result = .error e ∧ e.IsCoercion ∧
        (s.build (Config.skipping {}) .empty).result = .error e' ∧ ¬ e'.IsCoercion) ∧
    (let s := datedForm (some (.bool true)) none
      ∃ t e, (s.build (Config.skipping {}) .empty).result = .ok t ∧
        t.fields.map (·.name) = ["rows", "name"] ∧
        (s.build (Config.aborting {}) .empty).result = .error e ∧ s.FirstUnsuited .empty e) := by
  refine ⟨⟨_, rfl, ?_⟩, ⟨_, rfl, nofun, ?_⟩, ⟨_, _, rfl, ⟨_, _, rfl⟩, rfl, ?_⟩,
    ⟨_, _, rfl, rfl, rfl, ?_⟩⟩
  · exact (build_skipping_and_aborting {} _ .empty).1 _ rfl
  · exact (build_skipping_and_aborting {} _ .empty).2.1 _ rfl nofun
  · exact (build_skipping_and_aborting {}
      (datedForm (some (.bool true)) (some [("Bogus", .null)])) .empty).2.2.1 _ rfl
  · exact (build_skipping_and_aborting {} _ .empty).2.2.2.1 _ _ rfl rfl

end FormSchema

end Questionnaire
