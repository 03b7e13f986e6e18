import Questionnaire.Proofs.Condition.Truth
import Questionnaire.Proofs.Form.Agreement
import Questionnaire.Proofs.Form.Checks
import Questionnaire.Proofs.Validation.Shape

namespace Questionnaire

namespace Group

/-- The operators of all groups in a group, itself included, are known. -/
def AllKnown (g : Group) : Prop :=
  ∀ path h, g.SubgroupAt path h → h.operator.isKnown = true

variable {g : Group}

theorem allKnown_of_conditions (hoperator : g.operator.isKnown = true)
    (hconditions : ∀ h : Group, h.toCondition ∈ g.conditions → h.AllKnown) : g.AllKnown := by
  rintro path ⟨operator, conditions⟩ hat
  cases path with
  | nil =>
    cases (Condition.at?_nil _).symm.trans hat
    exact hoperator
  | cons i path =>
    rw [SubgroupAt, toCondition, Condition.at?] at hat
    obtain ⟨c, hi, hat⟩ := Option.bind_eq_some_iff.mp hat
    cases c with
    | comparison c => cases path <;> cases hat
    | group operator' conditions' =>
      exact hconditions ⟨operator', conditions'⟩ (List.mem_of_getElem? hi) path _ hat

/-- A group of known operators fails for its depth alone. -/
theorem AllKnown.tooDeep {limit : Nat} {d : Context} {e : VisibilityError} (hknown : g.AllKnown)
    (h : g.evaluate limit d = .error e) : e = .tooDeep limit := by
  obtain ⟨path, inner, hat, ⟨-, he⟩ | ⟨-, token, htoken, -⟩⟩ := refused_of_evaluate h
  · exact he
  · have hoperator := hknown path inner hat
    rw [htoken] at hoperator
    cases hoperator

end Group

theorem error_of_readForm {α : Type} {v data : Json} {s : FormSchema} {e : BuildError}
    {f : FormSchema × Context → Except BuildError α} (hread : FormSchema.ofJson v = .ok s)
    (h : (readForm v data >>= f) = .error e) :
    (∃ c, e = .invalidData c) ∨ ∃ d, f (s, d) = .error e := by
  rw [readForm, hread] at h
  cases hdata : Context.ofJson? data with
  | error c =>
    rw [hdata] at h
    cases h
    exact .inl ⟨c, rfl⟩
  | ok d =>
    rw [hdata] at h
    exact .inr ⟨d, h⟩

namespace FormSchema

variable {config : Config} {s : FormSchema} {d : Context} {e : BuildError}

/-- The error is from the rule of a question. -/
def RuleFails (config : Config) (s : FormSchema) (e : BuildError) : Prop :=
  ∃ q ∈ s.questions, ∃ g d c, q.dependencies = some (.rule g) ∧
    g.evaluate config.maxConditionDepth d = .error c ∧ e = .visibility q.key c

theorem error_of_build (h : (s.build config d).result = .error e) :
    (∃ key c, e = .coercion key c) ∨ (∃ key c, e = .constraint key c) ∨ s.RuleFails config e := by
  rw [build_eq_error_iff, fault?_eq_some_iff] at h
  obtain ⟨i, q, hq, hfails, -⟩ := h
  cases hfails with
  | coercion => exact .inl ⟨_, _, rfl⟩
  | constraint => exact .inr (.inl ⟨_, _, rfl⟩)
  | visibility _ _ rule undecided =>
    exact .inr (.inr ⟨q, List.mem_of_getElem? hq, _, _, _, rule, undecided, rfl⟩)

theorem error_of_decisions (h : s.decisions config d = .error e) : s.RuleFails config e := by
  rw [decisions_eq_verdict, verdict_eq_error_iff] at h
  obtain ⟨p, hp, hfault⟩ := List.exists_of_findSome?_eq_some h
  obtain ⟨g, c, rule, undecided, he⟩ := Stage.ruleFault?_eq_some_iff.mp hfault
  refine ⟨p.question, ?_, g, p.data, c, rule, undecided, he⟩
  rw [← Context.map_question_stages d s.questions]
  exact List.mem_map_of_mem hp

end FormSchema

namespace Validation

variable {v : Json}

theorem objections_eq_nil_iff :
    objections v = [] ↔ form.Conforms definitions v ∧ ∃ s, FormSchema.ofJson v = .ok s := by
  rw [objections, Json.Schema.Conforms]
  cases form.faults definitions v with
  | cons fault rest => simp
  | nil =>
    cases FormSchema.ofJson v with
    | ok s => simp
    | error e => simp

theorem isKnown_of_conditionGroup (h : conditionGroup.Conforms definitions v) :
    (Operator.ofJson (v.get? "operator")).isKnown = true := by
  cases hoperator : v.get? "operator" with
  | none => rfl
  | some w =>
    obtain ⟨token, htoken, rfl⟩ := operator_of_conditionGroup h hoperator
    simp only [List.mem_cons, List.not_mem_nil, or_false] at htoken
    rcases htoken with rfl | rfl | rfl <;> rfl

theorem allKnown_of_ofJsonWithin? {levels : Nat} {g : Group}
    (h : conditionGroup.Conforms definitions v) (hread : Group.ofJsonWithin? levels v = some g) :
    g.AllKnown := by
  induction levels generalizing v g with
  | zero => cases hread
  | succ levels ih =>
    obtain ⟨hoperator, hconditions⟩ := Group.ofJsonWithin?_succ_eq_some_iff.mp hread
    apply Group.allKnown_of_conditions
    · rw [hoperator]
      exact isKnown_of_conditionGroup h
    · intro inner hinner
      obtain ⟨node, hnode, hread⟩ := exists_mem_of_forall₂ hconditions hinner
      obtain ⟨hgroup, hread⟩ := Condition.exists_group_of_ofNode? hread
      have hnode' := conditions_of_conditionGroup h node hnode
      exact ih ((conforms_conditionNode_iff hgroup).mp hnode') hread

theorem allKnown_of_question {q : Question} {g : Group} (h : question.Conforms definitions v)
    (hreads : Question.Reads v q) (hrule : q.dependencies = some (.rule g)) : g.AllKnown := by
  cases hreads with
  | intro _ _ _ _ _ _ dependencies _ _ =>
    rw [hrule] at dependencies
    cases hblock : v.get? "displayDependencies" with
    | none =>
      rw [hblock] at dependencies
      cases dependencies
    | some block =>
      rw [hblock] at dependencies
      cases dependencies with
      | rule hoperator hconditions hlevels hreads =>
        have hgroup := Condition.isGroupNode_eq_true_iff.mpr ⟨hoperator, hconditions⟩
        have hread := Group.ofJsonWithin?_eq_some_iff.mpr ⟨hlevels, hreads⟩
        exact allKnown_of_ofJsonWithin? (dependencies_of_question h hblock hgroup) hread

theorem exists_question_of_mem {s : FormSchema} (h : form.Conforms definitions v)
    (hreads : FormSchema.Reads v s) {q : Question} (hq : q ∈ s.questions) :
    ∃ w, question.Conforms definitions w ∧ Question.Reads w q := by
  obtain ⟨sec, hsec, hq⟩ := List.mem_flatMap.mp hq
  obtain ⟨c, hc, hq⟩ := List.mem_flatMap.mp hq
  obtain ⟨-, items, -, hitems, hconforms⟩ := head_of_form h
  obtain ⟨items', hitems', hsections⟩ := hreads.sections
  cases hitems.symm.trans hitems'
  obtain ⟨u, hu, hsec⟩ := exists_mem_of_forall₂ hsections hsec
  have hcategories := items_of_layout rfl (layout_of_section (hconforms u hu))
  obtain ⟨w, hw, hc⟩ := exists_mem_of_forall₂ hsec.categories hc
  have hquestions := items_of_layout rfl (layout_of_category (hcategories w hw))
  obtain ⟨x, hx, hq⟩ := exists_mem_of_forall₂ hc.questions hq
  exact ⟨x, hquestions x hx, hq⟩

theorem tooDeep_of_ruleFails {config : Config} {s : FormSchema} {e : BuildError}
    (h : form.Conforms definitions v) (hread : FormSchema.ofJson v = .ok s)
    (hfails : s.RuleFails config e) :
    ∃ key, e = .visibility key (.tooDeep config.maxConditionDepth) := by
  obtain ⟨q, hq, g, d, c, hrule, hevaluate, rfl⟩ := hfails
  obtain ⟨w, hconforms, hreads⟩ :=
    exists_question_of_mem h (FormSchema.ofJson_eq_ok_iff.mp hread) hq
  have hknown := allKnown_of_question hconforms hreads hrule
  exact ⟨q.key, by rw [hknown.tooDeep hevaluate]⟩

/-- A valid document fails no build and no report in being read, nor for an operator: if the
visibility of a question cannot be decided, its rule nests deeper than the build allows. -/
theorem errors_of_valid (v : Json) (h : objections v = []) (config : Config) (data : Json)
    (e : BuildError) (he : (buildForm config v data).result = .error e ∨
      reportVisibility config v data = .error e) :
    (∀ c, e ≠ .schema c) ∧
      ∀ key c, e = .visibility key c → c = .tooDeep config.maxConditionDepth := by
  obtain ⟨hconforms, s, hread⟩ := objections_eq_nil_iff.mp h
  have hcauses : (∃ c, e = .invalidData c) ∨ (∃ key c, e = .coercion key c) ∨
      (∃ key c, e = .constraint key c) ∨ s.RuleFails config e := by
    rcases he with he | he
    · rw [buildForm, Journal.result_bind, Journal.result_liftM] at he
      rcases error_of_readForm hread he with hdata | ⟨d, hd⟩
      · exact .inl hdata
      · exact .inr (FormSchema.error_of_build hd)
    · rcases error_of_readForm hread he with hdata | ⟨d, hd⟩
      · exact .inl hdata
      · exact .inr (.inr (.inr (FormSchema.error_of_decisions hd)))
  rcases hcauses with ⟨c, rfl⟩ | ⟨key, c, rfl⟩ | ⟨key, c, rfl⟩ | hfails
  · exact ⟨nofun, nofun⟩
  · exact ⟨nofun, nofun⟩
  · exact ⟨nofun, nofun⟩
  · obtain ⟨key, rfl⟩ := tooDeep_of_ruleFails hconforms hread hfails
    refine ⟨nofun, fun key' c hc => ?_⟩
    cases hc
    rfl

def ruledQuestion (rule : Json) : Json :=
  .object [("key", .string "a"), ("type", .string "text"), ("displayDependencies", rule)]

theorem conforms_ruledQuestion {rule : Json} (h : conditionGroup.Conforms definitions rule) :
    question.Conforms definitions (ruledQuestion rule) := by
  simp [question, ruledQuestion, conforms_text_iff, conforms_object_iff, Json.get?, Json.hasMember,
    Json.isObject, List.lookup_cons, h]

def groupOf (operator : String) (conditions : List Json) : Json :=
  .object [("operator", .string operator), ("conditions", .array conditions)]

theorem conforms_groupOf {operator : String} {conditions : List Json}
    (hoperator : operator ∈ ["AND", "OR", "NOT"])
    (h : ∀ w ∈ conditions, conditionNode.Conforms definitions w) :
    conditionGroup.Conforms definitions (groupOf operator conditions) := by
  have hnode : definitions.lookup "conditionNode" = some conditionNode := rfl
  simp only [List.mem_cons, List.not_mem_nil, or_false] at hoperator
  simpa [conditionGroup, groupOf, conforms_object_iff, conforms_listOf_iff hnode, Json.get?,
    Json.isObject, List.lookup_cons, hoperator] using h

/-- A group in a group. -/
def nestedRule : Json :=
  groupOf "OR" [groupOf "NOT" []]

def ruledForm : Json :=
  oneCategory "s" "c" [ruledQuestion nestedRule]

theorem errors_of_valid_ruledForm :
    objections ruledForm = [] ∧
    (buildForm { maxConditionDepth := 0 } ruledForm (.object [])).result =
      .error (.visibility "a" (.tooDeep 0)) ∧
    reportVisibility { maxConditionDepth := 0 } ruledForm (.object []) =
      .error (.visibility "a" (.tooDeep 0)) ∧
    (∀ c, BuildError.visibility "a" (.tooDeep 0) ≠ .schema c) ∧
    ∀ key c, BuildError.visibility "a" (.tooDeep 0) = .visibility key c → c = .tooDeep 0 := by
  have hinner : conditionNode.Conforms definitions (groupOf "NOT" []) :=
    (conforms_conditionNode_iff rfl).mpr (conforms_groupOf (by decide) nofun)
  have hrule : conditionGroup.Conforms definitions nestedRule :=
    conforms_groupOf (by decide) (List.forall_mem_singleton.mpr hinner)
  have hform : form.Conforms definitions ruledForm :=
    conforms_oneCategory ⟨'s', by decide, by decide⟩ ⟨'c', by decide, by decide⟩
      (List.forall_mem_singleton.mpr (conforms_ruledQuestion hrule))
  have hvalid : objections ruledForm = [] := objections_eq_nil_iff.mpr ⟨hform, _, rfl⟩
  have hbuild : (buildForm { maxConditionDepth := 0 } ruledForm (.object [])).result =
      .error (.visibility "a" (.tooDeep 0)) := rfl
  exact ⟨hvalid, hbuild, rfl, errors_of_valid ruledForm hvalid
    { maxConditionDepth := 0 } (.object []) _ (.inl hbuild)⟩

end Validation

end Questionnaire
