import Questionnaire.Form.Report
import Questionnaire.Proofs.Form.Field

namespace Questionnaire

/-- A question, and the data that is seeded up to it. -/
structure Stage where
  question : Question
  data : Context

namespace Context

def seedAll (d : Context) (qs : List Question) : Context :=
  qs.foldl seed d

@[simp] theorem seedAll_nil (d : Context) : d.seedAll [] = d := rfl

@[simp] theorem seedAll_cons (d : Context) (q : Question) (qs : List Question) :
    d.seedAll (q :: qs) = (d.seed q).seedAll qs := rfl

theorem seedAll_append (d : Context) (qs rs : List Question) :
    d.seedAll (qs ++ rs) = (d.seedAll qs).seedAll rs :=
  List.foldl_append

/-- Questions in their turn, each seeded before the next one. -/
def stages (d : Context) : List Question → List Stage
  | [] => []
  | q :: rest => ⟨q, d.seed q⟩ :: (d.seed q).stages rest

theorem stages_append (d : Context) (qs rs : List Question) :
    d.stages (qs ++ rs) = d.stages qs ++ (d.seedAll qs).stages rs := by
  induction qs generalizing d with
  | nil => rfl
  | cons q rest ih => simp only [List.cons_append, stages, seedAll_cons, ih]

theorem map_question_stages (d : Context) (qs : List Question) :
    (d.stages qs).map (·.question) = qs := by
  induction qs generalizing d with
  | nil => rfl
  | cons q rest ih => simp only [stages, List.map_cons, ih]

@[simp] theorem length_stages (d : Context) (qs : List Question) :
    (d.stages qs).length = qs.length := by
  have hquestions := congrArg List.length (map_question_stages d qs)
  rwa [List.length_map] at hquestions

theorem stages_take (d : Context) (qs : List Question) (n : Nat) :
    d.stages (qs.take n) = (d.stages qs).take n := by
  induction qs generalizing d n with
  | nil =>
    rw [List.take_nil]
    exact List.take_nil.symm
  | cons q rest ih =>
    cases n with
    | zero => rfl
    | succ n => rw [List.take_succ_cons, stages, stages, List.take_succ_cons, ih]

theorem findSome?_stages_cons {β : Type} (f : Stage → Option β) (d : Context) (q : Question)
    (rest : List Question) :
    (d.stages (q :: rest)).findSome? f =
      (f ⟨q, d.seed q⟩).or (((d.seed q).stages rest).findSome? f) :=
  findSome?_cons_or _ _ _

theorem findSome?_stages_append {β : Type} (f : Stage → Option β) (d : Context)
    (qs rs : List Question) :
    (d.stages (qs ++ rs)).findSome? f =
      ((d.stages qs).findSome? f).or (((d.seedAll qs).stages rs).findSome? f) := by
  rw [stages_append, List.findSome?_append]

/-- The data of a stage is seeded with all questions up to it and with none after it. -/
theorem getElem?_stages (d : Context) (qs : List Question) (i : Nat) :
    (d.stages qs)[i]? = qs[i]?.map fun q => ⟨q, d.seedAll (qs.take (i + 1))⟩ := by
  induction qs generalizing d i with
  | nil => rfl
  | cons q rest ih =>
    cases i with
    | zero => rfl
    | succ i => simp only [stages, List.getElem?_cons_succ, ih, List.take_succ_cons, seedAll_cons]

end Context

theorem Question.result_visible (config : Config) (d : Context) (q : Question) :
    (q.visible config d).result = q.isShown config d := by
  rw [visible, isShown]
  cases q.dependencies with
  | none => rfl
  | some deps => cases deps <;> rfl

namespace Stage

def default? (p : Stage) : Except CoercionError (Option Value) :=
  coerce p.question.kind (p.data.resolve p.question.key)

/-- Whether the question has a default that suits its kind. -/
def suits (p : Stage) : Bool :=
  p.default?.isOk

def ruleFault? (config : Config) (p : Stage) : Option BuildError :=
  match p.question.isShown config p.data with
  | .ok _ => none
  | .error e => some e

/-- Whether the question is shown, if that can be decided. -/
def shows (config : Config) (p : Stage) : Bool :=
  match p.question.isShown config p.data with
  | .ok b => b
  | .error _ => false

/-- Why the question fails a build. One that is left out by the policy is not checked further. -/
def fault? (config : Config) (p : Stage) : Option BuildError :=
  match p.default?, config.onCoercionError with
  | .ok _, _ => (p.question.blocks.findSome? config.registry.refusal?).or (p.ruleFault? config)
  | .error _, .skip => none
  | .error e, .abort => some (.coercion p.question.key e)

/-- What becomes of the question if it does not fail the build. -/
def assessment (config : Config) (p : Stage) : Question.Assessment :=
  match p.default? with
  | .ok default => if p.shows config then .included (p.question.shape default) else .hidden
  | .error e => .skipped e

def field? (config : Config) (p : Stage) : Option FieldDefinition :=
  (p.assessment config).field?

variable (config : Config) (p : Stage)

theorem isShown_eq_verdict :
    p.question.isShown config p.data = verdict (p.ruleFault? config) (p.shows config) := by
  rw [ruleFault?, shows]
  cases p.question.isShown config p.data <;> rfl

theorem result_assess :
    (p.question.assess config p.data).result = verdict (p.fault? config) (p.assessment config) := by
  rw [Question.assess, Journal.result_bind, fault?, assessment, default?]
  cases h : coerce p.question.kind (p.data.resolve p.question.key) with
  | ok default =>
    rw [Question.makesShape config _ _ _ h]
    apply verdict_bind
    rw [Journal.result_bind, Question.result_visible, isShown_eq_verdict]
    apply verdict_bind_ok
    cases p.shows config <;> rfl
  | error e =>
    cases hpolicy : config.onCoercionError with
    | skip =>
      rw [Question.makeField_of_skip h hpolicy]
      rfl
    | abort =>
      rw [Question.makeField_of_abort h hpolicy]
      rfl

variable {config p}

/-- Under the policy to fail, a stage without a fault has a default that suits and a rule that can
be evaluated. -/
theorem suits_of_fault? (habort : config.onCoercionError = .abort) (h : p.fault? config = none) :
    p.suits = true ∧ p.ruleFault? config = none := by
  rw [fault?] at h
  rw [suits]
  rw [habort] at h
  cases hd : p.default? with
  | ok default =>
    rw [hd] at h
    exact ⟨rfl, (Option.or_eq_none_iff.mp h).2⟩
  | error e =>
    rw [hd] at h
    cases h

end Stage

end Questionnaire
