import Questionnaire.Proofs.Form.Stage

namespace Questionnaire

namespace Context

/-- The first fault of questions in their turn. -/
def fault? (config : Config) (d : Context) (qs : List Question) : Option BuildError :=
  (d.stages qs).findSome? (Stage.fault? config)

def fields (config : Config) (d : Context) (qs : List Question) : List FieldDefinition :=
  (d.stages qs).filterMap (Stage.field? config)

variable (config : Config) (d : Context)

theorem fault?_cons (q : Question) (rest : List Question) :
    d.fault? config (q :: rest) =
      (Stage.fault? config ⟨q, d.seed q⟩).or ((d.seed q).fault? config rest) :=
  findSome?_stages_cons _ d q rest

theorem fault?_append (qs rs : List Question) :
    d.fault? config (qs ++ rs) = (d.fault? config qs).or ((d.seedAll qs).fault? config rs) :=
  findSome?_stages_append _ d qs rs

theorem fields_cons (q : Question) (rest : List Question) :
    d.fields config (q :: rest) =
      (Stage.field? config ⟨q, d.seed q⟩).toList ++ (d.seed q).fields config rest := by
  rw [fields, stages, List.filterMap_cons]
  cases Stage.field? config ⟨q, d.seed q⟩ <;> rfl

end Context

theorem Question.result_fieldsOf (config : Config) (d : Context) (qs : List Question) :
    (fieldsOf config d qs).result =
      verdict (d.fault? config qs) (d.fields config qs, d.seedAll qs) := by
  induction qs generalizing d with
  | nil => rfl
  | cons q rest ih =>
    have hassess := Stage.result_assess config ⟨q, d.seed q⟩
    simp only [fieldsOf, Journal.result_bind, hassess, ih]
    rw [Context.fault?_cons, Context.fields_cons]
    apply verdict_bind
    exact verdict_bind_ok rfl

/-- The groups of categories when nothing fails. -/
def Category.layout (config : Config) (display : GroupDisplay) (d : Context) :
    List Category → List FormNode
  | [] => []
  | c :: rest =>
    .group (display.header c.slug c.title) ((d.fields config c.questions).map .field) ::
      layout config display (d.seedAll c.questions) rest

theorem Category.result_groupsOf (config : Config) (display : GroupDisplay) (d : Context)
    (cs : List Category) :
    (groupsOf config display d cs).result =
      verdict (d.fault? config (cs.flatMap (·.questions)))
        (layout config display d cs, d.seedAll (cs.flatMap (·.questions))) := by
  induction cs generalizing d with
  | nil => rfl
  | cons c rest ih =>
    simp only [groupsOf, Journal.result_bind, Question.result_fieldsOf]
    rw [List.flatMap_cons, Context.fault?_append, Context.seedAll_append]
    apply verdict_bind
    simp only [ih]
    exact verdict_bind_ok rfl

/-- The nodes at the end of a section: its submit button, if it has one. -/
def Section.ending (config : Config) (s : Section) : List FormNode :=
  (s.submit.map fun spec => .action (spec.action config)).toList

theorem Section.result_actions (config : Config) (s : Section) :
    (s.actions config).result = .ok (s.ending config) := by
  rw [actions, ending]
  cases s.submit <;> rfl

def Section.layout (config : Config) (schema : FormSchema) (d : Context) :
    List Section → List FormNode
  | [] => []
  | s :: rest =>
    .group (schema.sectionDisplay.header s.slug s.title)
        (Category.layout config schema.categoryDisplay d s.categories ++ s.ending config) ::
      layout config schema (d.seedAll s.questions) rest

theorem Section.result_groupsOf (config : Config) (schema : FormSchema) (d : Context)
    (ss : List Section) :
    (groupsOf config schema d ss).result =
      verdict (d.fault? config (ss.flatMap (·.questions)))
        (layout config schema d ss, d.seedAll (ss.flatMap (·.questions))) := by
  induction ss generalizing d with
  | nil => rfl
  | cons s rest ih =>
    simp only [groupsOf, Journal.result_bind, Category.result_groupsOf]
    rw [List.flatMap_cons, Context.fault?_append, Context.seedAll_append]
    apply verdict_bind
    simp only [result_actions, ih]
    exact verdict_bind_ok rfl

namespace FormSchema

/-- The nodes at the end of a form: the usual submit button, if no section has one. -/
def ending (config : Config) (s : FormSchema) : List FormNode :=
  if s.sections.any (·.submit.isSome) then [] else [.action config.submit]

theorem result_actions (config : Config) (s : FormSchema) :
    (s.actions config).result = .ok (s.ending config) := by
  rw [actions, ending]
  split <;> rfl

/-- The tree when nothing fails. -/
def tree (config : Config) (s : FormSchema) (d : Context) : FormTree where
  name := s.slug
  children := Section.layout config s d s.sections ++ s.ending config
  data := d.seedAll s.questions

/-- A build comes to the tree of the schema unless some question has a fault, and then fails with
the first. -/
theorem result_build (config : Config) (s : FormSchema) (d : Context) :
    (s.build config d).result = verdict (d.fault? config s.questions) (s.tree config d) := by
  simp only [build, Journal.result_bind, Section.result_groupsOf, result_actions]
  exact verdict_bind_ok rfl

variable {config : Config} {s : FormSchema} {d : Context}

theorem build_eq_ok_iff {t : FormTree} :
    (s.build config d).result = .ok t ↔
      d.fault? config s.questions = none ∧ s.tree config d = t := by
  rw [result_build, verdict_eq_ok_iff]

theorem build_eq_error_iff {e : BuildError} :
    (s.build config d).result = .error e ↔ d.fault? config s.questions = some e := by
  rw [result_build, verdict_eq_error_iff]

end FormSchema

end Questionnaire
