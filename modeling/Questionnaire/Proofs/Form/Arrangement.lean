import Questionnaire.Proofs.Form.Agreement

namespace Questionnaire

namespace Context

/-- What questions in their turn come to: the field of each that is included. -/
def outcomes (config : Config) (d : Context) (qs : List Question) : List (Option FieldDefinition) :=
  (d.stages qs).map (Stage.field? config)

variable (config : Config) (d : Context)

theorem outcomes_cons (q : Question) (rest : List Question) :
    d.outcomes config (q :: rest) =
      Stage.field? config ⟨q, d.seed q⟩ :: (d.seed q).outcomes config rest := rfl

theorem outcomes_append (qs rs : List Question) :
    d.outcomes config (qs ++ rs) =
      d.outcomes config qs ++ (d.seedAll qs).outcomes config rs := by
  rw [outcomes, stages_append, List.map_append]
  rfl

@[simp] theorem length_outcomes (qs : List Question) :
    (d.outcomes config qs).length = qs.length := by
  rw [outcomes, List.length_map, length_stages]

theorem fields_eq_outcomes (qs : List Question) :
    d.fields config qs = (d.outcomes config qs).filterMap id := by
  rw [fields, outcomes, List.filterMap_map]
  rfl

theorem fields_append (qs rs : List Question) :
    d.fields config (qs ++ rs) = d.fields config qs ++ (d.seedAll qs).fields config rs := by
  rw [fields, stages_append, List.filterMap_append]
  rfl

end Context

/-- The groups of categories in a row, with what their questions come to. -/
def Category.arrange (display : GroupDisplay) :
    List Category → List (Option FieldDefinition) → List FormNode
  | [], _ => []
  | c :: rest, outcomes =>
    .group (display.header c.slug c.title)
        (((outcomes.take c.questions.length).filterMap id).map .field) ::
      arrange display rest (outcomes.drop c.questions.length)

theorem Category.layout_eq_arrange (config : Config) (display : GroupDisplay) (d : Context)
    (cs : List Category) :
    layout config display d cs =
      arrange display cs (d.outcomes config (cs.flatMap (·.questions))) := by
  induction cs generalizing d with
  | nil => rfl
  | cons c rest ih =>
    have hlength := Context.length_outcomes config d c.questions
    rw [layout, arrange, ih, List.flatMap_cons, Context.outcomes_append, List.take_left' hlength,
      List.drop_left' hlength, Context.fields_eq_outcomes]

def Section.arrange (config : Config) (schema : FormSchema) :
    List Section → List (Option FieldDefinition) → List FormNode
  | [], _ => []
  | s :: rest, outcomes =>
    .group (schema.sectionDisplay.header s.slug s.title)
        (Category.arrange schema.categoryDisplay s.categories
          (outcomes.take s.questions.length) ++ s.ending config) ::
      arrange config schema rest (outcomes.drop s.questions.length)

theorem Section.layout_eq_arrange (config : Config) (schema : FormSchema) (d : Context)
    (ss : List Section) :
    layout config schema d ss =
      arrange config schema ss (d.outcomes config (ss.flatMap (·.questions))) := by
  induction ss generalizing d with
  | nil => rfl
  | cons s rest ih =>
    have hlength := Context.length_outcomes config d s.questions
    rw [layout, arrange, ih, List.flatMap_cons, Context.outcomes_append, List.take_left' hlength,
      List.drop_left' hlength, Category.layout_eq_arrange]
    rfl

theorem FormSchema.tree_eq_arrange (config : Config) (s : FormSchema) (d : Context) :
    s.tree config d =
      ⟨s.slug, Section.arrange config s s.sections (d.outcomes config s.questions) ++
        s.ending config, d.seedAll s.questions⟩ := by
  rw [tree, Section.layout_eq_arrange]
  rfl

namespace FormNode

theorem fieldsOf_map_field (fs : List FieldDefinition) : fieldsOf (fs.map .field) = fs := by
  induction fs with
  | nil => rfl
  | cons f rest ih =>
    rw [List.map_cons, fieldsOf, ih]
    rfl

end FormNode

theorem Category.fieldsOf_layout (config : Config) (display : GroupDisplay) (d : Context)
    (cs : List Category) :
    FormNode.fieldsOf (layout config display d cs) =
      d.fields config (cs.flatMap (·.questions)) := by
  induction cs generalizing d with
  | nil => rfl
  | cons c rest ih =>
    rw [layout, FormNode.fieldsOf, FormNode.fields, FormNode.fieldsOf_map_field, ih,
      List.flatMap_cons, Context.fields_append]

theorem Section.fieldsOf_ending (config : Config) (s : Section) :
    FormNode.fieldsOf (s.ending config) = [] := by
  rw [ending]
  cases s.submit <;> rfl

theorem Section.fieldsOf_layout (config : Config) (schema : FormSchema) (d : Context)
    (ss : List Section) :
    FormNode.fieldsOf (layout config schema d ss) =
      d.fields config (ss.flatMap (·.questions)) := by
  induction ss generalizing d with
  | nil => rfl
  | cons s rest ih =>
    rw [layout, FormNode.fieldsOf, FormNode.fields, FormNode.fieldsOf_append, fieldsOf_ending,
      List.append_nil, Category.fieldsOf_layout, ih, List.flatMap_cons, Context.fields_append]
    rfl

/-- What a stage comes to in a report, its place left out. -/
def Stage.answer (config : Config) (p : Stage) : String × Bool × Question.RuleState :=
  (p.question.key, p.shows config, p.question.ruleState)

namespace FormSchema

theorem fieldsOf_ending (config : Config) (s : FormSchema) :
    FormNode.fieldsOf (s.ending config) = [] := by
  rw [ending]
  split <;> rfl

theorem fields_tree (config : Config) (s : FormSchema) (d : Context) :
    (s.tree config d).fields = d.fields config s.questions := by
  rw [FormTree.fields, tree, FormNode.fieldsOf_append, fieldsOf_ending, List.append_nil,
    Section.fieldsOf_layout]
  rfl

theorem map_decisions (config : Config) (s : FormSchema) (d : Context) :
    (s.decisions config d).map (·.map fun r => (r.key, r.visible, r.rule)) =
      verdict (d.ruleFault? config s.questions)
        ((d.stages s.questions).map (Stage.answer config)) := by
  rw [decisions_eq_verdict, verdict_map, questions, ← Section.map_stage_sites, List.map_map,
    List.map_map]
  rfl

/-- Schemas with the same questions in the same order agree, however the questions are divided into
sections and categories and whatever these show: their builds fail with the same error or give the
same fields and data, and their reports fail with the same error or give the same decisions. -/
theorem build_and_decisions_of_questions_eq (config : Config) (d : Context) {s s' : FormSchema}
    (h : s.questions = s'.questions) :
    (s.build config d).result.map (fun t => (t.fields, t.data)) =
        (s'.build config d).result.map (fun t => (t.fields, t.data)) ∧
      (s.decisions config d).map (·.map fun r => (r.key, r.visible, r.rule)) =
        (s'.decisions config d).map (·.map fun r => (r.key, r.visible, r.rule)) := by
  constructor
  · rw [result_build, result_build, verdict_map, verdict_map, fields_tree, fields_tree, h]
    rw [tree, tree, h]
  · rw [map_decisions, map_decisions, h]

/-- A question with a default, and one that this default hides. -/
def hidingPair : List Question := [
  ⟨"a", "text", none, none, some (.bool true), none, none, [], []⟩,
  ⟨"b", "text", none, none, none, none,
    some (.rule ⟨.and, [.comparison ⟨some "a", some .isNull⟩]⟩), [], []⟩]

def gathered : FormSchema where
  slug := "form"
  sections := [⟨"s", none, [⟨"c", none, hidingPair⟩], none⟩]
  sectionDisplay := ⟨[], []⟩
  categoryDisplay := ⟨[], []⟩

/-- The pair in two sections, among groups without questions, with a submit button in between. -/
def scattered : FormSchema where
  slug := "other"
  sections := [
    ⟨"s", some "S", [⟨"empty", none, []⟩, ⟨"c", none, hidingPair.take 1⟩],
      some ⟨none, none, .empty⟩⟩,
    ⟨"t", none, [], none⟩,
    ⟨"u", none, [⟨"d", some "D", hidingPair.drop 1⟩], none⟩]
  sectionDisplay := ⟨[("class", .string "wide")], []⟩
  categoryDisplay := ⟨[], []⟩

theorem build_and_decisions_of_questions_eq_scattered :
    gathered.questions = scattered.questions ∧
    (gathered.build {} .empty).result.map (fun t => (t.fields, t.data)) =
      (scattered.build {} .empty).result.map (fun t => (t.fields, t.data)) ∧
    (gathered.decisions {} .empty).map (·.map fun r => (r.key, r.visible, r.rule)) =
      (scattered.decisions {} .empty).map (·.map fun r => (r.key, r.visible, r.rule)) ∧
    (∃ t, (scattered.build {} .empty).result = .ok t ∧ t.fields.map (·.name) = ["a"]) :=
  have hquestions : gathered.questions = scattered.questions := rfl
  have hagree := build_and_decisions_of_questions_eq {} .empty hquestions
  ⟨hquestions, hagree.1, hagree.2, _, rfl, rfl⟩

end FormSchema

end Questionnaire
