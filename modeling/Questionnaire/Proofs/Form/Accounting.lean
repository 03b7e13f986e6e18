import Mathlib.Data.List.Basic
import Questionnaire.Proofs.Form.Arrangement
import Questionnaire.Proofs.Form.Policy

namespace Questionnaire

namespace Event

/-- The key of the question that an event is about. -/
def field? (e : Event) : Option String :=
  e.details.lookup "field"

/-- The messages that say what became of a question. -/
def outcomeMessages : List String :=
  ["field included", "field hidden by displayDependencies",
   "skipping field with unusable default"]

def isOutcome (e : Event) : Bool :=
  outcomeMessages.contains e.message

theorem field?_of_sectionSubmit {e : Event} (h : (e.message == "adding section submit") = true) :
    e.field? = none := by
  cases e with
  | sectionSubmit slug => rfl
  | _ => simp [message] at h

theorem field?_of_rootSubmit {e : Event}
    (h : (e.message == "no section declares a submit, adding default at root") = true) :
    e.field? = none := by
  cases e with
  | rootSubmit form => rfl
  | _ => simp [message] at h

end Event

namespace Journal

variable {α β : Type}

theorem events_bind {j : Journal α} {f : α → Journal β} {a : α} (h : j.result = .ok a) :
    (j >>= f).events = j.events ++ (f a).events := by
  change (bind j f).events = _
  rw [bind, h]

end Journal

theorem Question.events_visible (config : Config) (d : Context) (q : Question) :
    (q.visible config d).events =
      if q.ruleState = .malformed then [.malformedRule q.key] else [] := by
  rw [visible, ruleState]
  cases q.dependencies with
  | none => rfl
  | some deps => cases deps <;> rfl

namespace Stage

variable (config : Config) (p : Stage)

/-- Whether there is a warning about the rule of the question. -/
def isWarned : Bool :=
  p.question.ruleState = .malformed && p.suits

/-- The event that says what became of the question. -/
def outcome : Event :=
  match p.assessment config with
  | .skipped e => .skipped p.question.key e
  | .hidden => .hidden p.question.key
  | .included f => .included p.question.key f.kind

theorem shows_of_malformed (h : p.question.ruleState = .malformed) : p.shows config = true := by
  rw [Question.ruleState] at h
  rw [shows, Question.isShown]
  cases hd : p.question.dependencies with
  | none => rfl
  | some deps =>
    rw [hd] at h
    cases deps with
    | rule g => cases h
    | malformed block => rfl

/-- What is reported of the question if it does not fail the build. The last event says what became
of it, and only a warning can stand before. -/
def events : List Event :=
  (if p.isWarned then [.malformedRule p.question.key] else []) ++ [p.outcome config]

theorem events_assess (h : p.fault? config = none) :
    (p.question.assess config p.data).events = p.events config := by
  rw [fault?] at h
  rw [Question.assess, events, isWarned, suits, outcome, assessment]
  cases hvalue : p.default? with
  | ok default =>
    rw [hvalue] at h
    obtain ⟨hblocks, hrule⟩ := Option.or_eq_none_iff.mp h
    have hfield := Question.makesShape config _ _ _ hvalue
    rw [hblocks] at hfield
    have hvisible : (p.question.visible config p.data).result = .ok (p.shows config) := by
      rw [Question.result_visible, isShown_eq_verdict, hrule, verdict_none]
    have hsuits : (Except.ok default : Except CoercionError (Option Value)).isOk = true := rfl
    rw [hfield, Journal.events_bind rfl, Journal.events_bind hvisible, Question.events_visible,
      hsuits, Bool.and_true]
    simp only [decide_eq_true_eq]
    cases p.shows config <;> rfl
  | error e =>
    rw [hvalue] at h
    cases hpolicy : config.onCoercionError with
    | skip =>
      have hsuits : (Except.error e : Except CoercionError (Option Value)).isOk = false := rfl
      rw [Question.makeField_of_skip hvalue hpolicy, hsuits, Bool.and_false]
      rfl
    | abort =>
      rw [hpolicy] at h
      cases h

theorem isOutcome_outcome : (p.outcome config).isOutcome = true := by
  rw [outcome]
  split <;> rfl

theorem field?_outcome : (p.outcome config).field? = some p.question.key := by
  rw [outcome]
  split <;> rfl

theorem events_of_malformed (hrule : p.question.ruleState = .malformed) (hsuits : p.suits = true) :
    p.events config =
      [.malformedRule p.question.key, .included p.question.key p.question.kind] := by
  have hwarned : p.isWarned = true := by
    rw [isWarned, hrule, hsuits]
    rfl
  have hincluded : p.outcome config = .included p.question.key p.question.kind := by
    rw [suits] at hsuits
    rw [outcome, assessment, shows_of_malformed config p hrule]
    cases hd : p.default? with
    | error e =>
      rw [hd] at hsuits
      cases hsuits
    | ok default => exact congrArg _ (Question.shape_kind _ _)
  rw [events, hwarned, hincluded]
  rfl

theorem filter_isOutcome_events :
    (p.events config).filter Event.isOutcome = [p.outcome config] := by
  rw [events, List.filter_append, List.filter_singleton, isOutcome_outcome]
  split <;> rfl

theorem filter_included_events :
    (p.events config).filter (·.message == "field included") =
      ((p.field? config).map fun f => .included f.name f.kind).toList := by
  have hwarning : (if p.isWarned then [Event.malformedRule p.question.key] else []).filter
      (·.message == "field included") = [] := by
    split <;> rfl
  rw [events, List.filter_append, hwarning, List.nil_append, outcome]
  cases ha : p.assessment config with
  | skipped e | hidden =>
    rw [field?, ha]
    rfl
  | included f =>
    have hf : p.field? config = some f := by
      rw [field?, ha]
      rfl
    rw [hf, Option.map_some, name_of_field? hf]
    rfl

theorem filter_warnings_events :
    (p.events config).filter (fun e => e.field?.isSome && !e.isOutcome) =
      if p.isWarned then [.malformedRule p.question.key] else [] := by
  rw [events, List.filter_append, List.filter_singleton, isOutcome_outcome, Bool.not_true,
    Bool.and_false]
  split <;> rfl

theorem filter_events_of_no_field {P : Event → Bool} (hP : ∀ e, P e = true → e.field? = none) :
    (p.events config).filter P = [] := by
  rw [List.filter_eq_nil_iff]
  intro e he hPe
  have hnone := hP e hPe
  rw [events, List.mem_append, List.mem_singleton] at he
  rcases he with he | rfl
  · split at he
    · cases List.mem_singleton.mp he
      cases hnone
    · cases he
  · rw [field?_outcome] at hnone
    cases hnone

end Stage

theorem Question.events_fieldsOf {config : Config} {d : Context} {qs : List Question}
    (h : d.fault? config qs = none) :
    (fieldsOf config d qs).events = (d.stages qs).flatMap (Stage.events config) := by
  induction qs generalizing d with
  | nil => rfl
  | cons q rest ih =>
    rw [Context.fault?_cons, Option.or_eq_none_iff] at h
    obtain ⟨hfirst, hrest⟩ := h
    have hassess := eq_ok_of_verdict (Stage.result_assess config ⟨q, d.seed q⟩) hfirst
    have hevents := Stage.events_assess config ⟨q, d.seed q⟩ hfirst
    have hothers := eq_ok_of_verdict (result_fieldsOf config (d.seed q) rest) hrest
    rw [fieldsOf, Journal.events_bind hassess, Journal.events_bind hothers, ih hrest, hevents,
      Journal.events_pure, List.append_nil]
    rfl

theorem Category.events_groupsOf {config : Config} {display : GroupDisplay} {d : Context}
    {cs : List Category} (h : d.fault? config (cs.flatMap (·.questions)) = none) :
    (groupsOf config display d cs).events =
      (d.stages (cs.flatMap (·.questions))).flatMap (Stage.events config) := by
  induction cs generalizing d with
  | nil => rfl
  | cons c rest ih =>
    rw [List.flatMap_cons, Context.fault?_append, Option.or_eq_none_iff] at h
    obtain ⟨hfirst, hrest⟩ := h
    have hfields := eq_ok_of_verdict (Question.result_fieldsOf config d c.questions) hfirst
    have hothers :=
      eq_ok_of_verdict (result_groupsOf config display (d.seedAll c.questions) rest) hrest
    rw [groupsOf, Journal.events_bind hfields, Journal.events_bind hothers, ih hrest,
      Question.events_fieldsOf hfirst, List.flatMap_cons, Context.stages_append, List.flatMap_append,
      Journal.events_pure, List.append_nil]

/-- What is reported at the end of a section. -/
def Section.endEvents (s : Section) : List Event :=
  (s.submit.map fun _ => .sectionSubmit s.slug).toList

theorem Section.events_actions (config : Config) (s : Section) :
    (s.actions config).events = s.endEvents := by
  rw [actions, endEvents]
  cases s.submit <;> rfl

/-- The log of sections when nothing fails. -/
def Section.log (config : Config) (d : Context) : List Section → List Event
  | [] => []
  | s :: rest =>
    (d.stages s.questions).flatMap (Stage.events config) ++ s.endEvents ++
      log config (d.seedAll s.questions) rest

theorem Section.events_groupsOf {config : Config} {schema : FormSchema} {d : Context}
    {ss : List Section} (h : d.fault? config (ss.flatMap (·.questions)) = none) :
    (groupsOf config schema d ss).events = log config d ss := by
  induction ss generalizing d with
  | nil => rfl
  | cons s rest ih =>
    rw [List.flatMap_cons, Context.fault?_append, Option.or_eq_none_iff] at h
    obtain ⟨hfirst, hrest⟩ := h
    have hcategories := eq_ok_of_verdict
      (Category.result_groupsOf config schema.categoryDisplay d s.categories) hfirst
    have hothers :=
      eq_ok_of_verdict (result_groupsOf config schema (d.seedAll s.questions) rest) hrest
    rw [groupsOf, Journal.events_bind hcategories, Journal.events_bind (result_actions config s),
      ← questions, Journal.events_bind hothers, ih hrest, Category.events_groupsOf hfirst,
      events_actions, Journal.events_pure, List.append_nil, log, List.append_assoc]
    rfl

namespace FormSchema

/-- What is reported at the end of a form. -/
def endEvents (s : FormSchema) : List Event :=
  if s.sections.any (·.submit.isSome) then [] else [.rootSubmit s.slug]

theorem events_actions (config : Config) (s : FormSchema) :
    (s.actions config).events = s.endEvents := by
  rw [actions, endEvents]
  split <;> rfl

theorem events_build {config : Config} {s : FormSchema} {d : Context}
    (h : d.fault? config s.questions = none) :
    (s.build config d).events = Section.log config d s.sections ++ s.endEvents := by
  have hgroups := eq_ok_of_verdict (Section.result_groupsOf config s d s.sections) h
  rw [build, Journal.events_bind hgroups, Journal.events_bind (result_actions config s),
    Section.events_groupsOf h, events_actions, Journal.events_pure, List.append_nil]

end FormSchema

namespace Stage

variable (config : Config) (ps : List Stage)

theorem filter_isOutcome_flatMap :
    (ps.flatMap (events config)).filter Event.isOutcome = ps.map (outcome config) := by
  rw [List.filter_flatMap]
  simp only [filter_isOutcome_events]
  exact List.flatMap_pure_eq_map _ _

theorem filter_included_flatMap :
    (ps.flatMap (events config)).filter (·.message == "field included") =
      (ps.filterMap (field? config)).map fun f => .included f.name f.kind := by
  rw [List.filter_flatMap, List.map_filterMap, List.filterMap_eq_flatMap_toList]
  simp only [filter_included_events]

theorem filter_warnings_flatMap :
    (ps.flatMap (events config)).filter (fun e => e.field?.isSome && !e.isOutcome) =
      (ps.filter isWarned).map fun p => .malformedRule p.question.key := by
  induction ps with
  | nil => rfl
  | cons p rest ih =>
    rw [List.flatMap_cons, List.filter_append, filter_warnings_events, ih, List.filter_cons]
    cases p.isWarned <;> rfl

theorem filter_flatMap_of_no_field {P : Event → Bool} (hP : ∀ e, P e = true → e.field? = none) :
    (ps.flatMap (events config)).filter P = [] := by
  rw [List.filter_flatMap, List.flatMap_eq_nil_iff]
  intro p _
  exact filter_events_of_no_field config p hP

end Stage

namespace Section

variable {config : Config} {P : Event → Bool}

/-- Where nothing counts that is reported at the end of a section, the questions account for all. -/
theorem filter_log_of_questions (hP : ∀ slug, P (.sectionSubmit slug) = false) (d : Context)
    (ss : List Section) :
    (log config d ss).filter P =
      ((d.stages (ss.flatMap (·.questions))).flatMap (Stage.events config)).filter P := by
  induction ss generalizing d with
  | nil => rfl
  | cons s rest ih =>
    have hend : s.endEvents.filter P = [] := by
      rw [endEvents]
      cases s.submit with
      | none => rfl
      | some spec => exact List.filter_cons_of_neg (by simp [hP])
    rw [log, List.filter_append, List.filter_append, hend, List.append_nil, ih,
      List.flatMap_cons, Context.stages_append, List.flatMap_append, List.filter_append]

theorem filter_log_of_ends (hP : ∀ e, P e = true → e.field? = none) (d : Context)
    (ss : List Section) :
    (log config d ss).filter P = (ss.flatMap endEvents).filter P := by
  induction ss generalizing d with
  | nil => rfl
  | cons s rest ih =>
    rw [log, List.filter_append, List.filter_append, Stage.filter_flatMap_of_no_field config _ hP,
      List.nil_append, ih, List.flatMap_cons, List.filter_append]

theorem flatMap_endEvents (ss : List Section) :
    ss.flatMap endEvents =
      (ss.filter (·.submit.isSome)).map fun s => .sectionSubmit s.slug := by
  induction ss with
  | nil => rfl
  | cons s rest ih =>
    rw [List.flatMap_cons, ih, List.filter_cons, endEvents]
    cases s.submit <;> rfl

/-- The events of a question stand together, after the outcomes of all questions before it. -/
theorem exists_log_eq (config : Config) {d : Context} {ss : List Section} {i : Nat} {p : Stage}
    (h : (d.stages (ss.flatMap (·.questions)))[i]? = some p) :
    ∃ before after, log config d ss = before ++ p.events config ++ after ∧
      (before.filter Event.isOutcome).length = i := by
  induction ss generalizing d i with
  | nil => cases h
  | cons s rest ih =>
    rw [List.flatMap_cons, Context.stages_append] at h
    by_cases hi : i < (d.stages s.questions).length
    · -- the question is in this section, after the first `i` of its questions
      rw [List.getElem?_append_left hi] at h
      obtain ⟨_, rfl⟩ := List.getElem?_eq_some_iff.mp h
      refine ⟨((d.stages s.questions).take i).flatMap (Stage.events config),
        ((d.stages s.questions).drop (i + 1)).flatMap (Stage.events config) ++ s.endEvents ++
          log config (d.seedAll s.questions) rest, ?_, ?_⟩
      · conv => lhs; rw [log, ← List.take_append_drop i (d.stages s.questions),
          ← List.getElem_cons_drop hi, List.flatMap_append, List.flatMap_cons]
        simp only [List.append_assoc]
      · rw [Stage.filter_isOutcome_flatMap, List.length_map, List.length_take,
          Nat.min_eq_left (Nat.le_of_lt hi)]
    · -- it is in a later one, and what this section reports comes before
      rw [List.getElem?_append_right (Nat.le_of_not_lt hi)] at h
      obtain ⟨before, after, hlog, hlength⟩ := ih h
      refine ⟨(d.stages s.questions).flatMap (Stage.events config) ++ s.endEvents ++ before, after,
        ?_, ?_⟩
      · rw [log, hlog]
        simp only [List.append_assoc]
      · have hend : s.endEvents.filter Event.isOutcome = [] := by
          rw [endEvents]
          cases s.submit <;> rfl
        rw [List.filter_append, List.filter_append, hend, List.append_nil,
          Stage.filter_isOutcome_flatMap, List.length_append, List.length_map, hlength]
        omega

end Section

namespace FormSchema

/-- How a log accounts for the questions of a schema and for the tree that is built. -/
structure Accounts (config : Config) (s : FormSchema) (d : Context) (t : FormTree)
    (log : List Event) : Prop where
  /-- One event for each question says what became of it. -/
  outcomes : (log.filter Event.isOutcome).map Event.field? = s.questions.map fun q => some q.key
  included : log.filter (·.message == "field included") =
    t.fields.map fun f => .included f.name f.kind
  /-- A malformed rule is warned about just before its question is included. -/
  warned : ∀ (i : Nat) (q : Question), s.questions[i]? = some q → q.ruleState = .malformed →
    ¬ q.LeftOut config (s.dataAt d i) → ∃ before after,
      log = before ++ [.malformedRule q.key, .included q.key q.kind] ++ after ∧
      (before.filter Event.isOutcome).length = i
  /-- Apart from these warnings and the outcomes, nothing is said of any field. -/
  warnings : log.filter (fun e => e.field?.isSome && !e.isOutcome) =
    ((d.stages s.questions).filter Stage.isWarned).map fun p => .malformedRule p.question.key
  sectionSubmits : log.filter (·.message == "adding section submit") =
    (s.sections.filter (·.submit.isSome)).map fun sec => .sectionSubmit sec.slug
  rootSubmit : log.filter (·.message == "no section declares a submit, adding default at root") =
    if s.sections.any (·.submit.isSome) then [] else [.rootSubmit s.slug]

variable {config : Config} {s : FormSchema} {d : Context} {t : FormTree}

theorem filter_log_of_questions {P : Event → Bool} (h : d.fault? config s.questions = none)
    (hsection : ∀ slug, P (.sectionSubmit slug) = false)
    (hroot : ∀ slug, P (.rootSubmit slug) = false) :
    (s.build config d).events.filter P =
      ((d.stages s.questions).flatMap (Stage.events config)).filter P := by
  have hend : s.endEvents.filter P = [] := by
    rw [endEvents]
    split
    · rfl
    · exact List.filter_cons_of_neg (by simp [hroot])
  rw [events_build h, List.filter_append, hend, List.append_nil,
    Section.filter_log_of_questions hsection]
  rfl

theorem filter_log_of_ends {P : Event → Bool} (h : d.fault? config s.questions = none)
    (hP : ∀ e, P e = true → e.field? = none) :
    (s.build config d).events.filter P =
      ((s.sections.filter (·.submit.isSome)).map fun sec => .sectionSubmit sec.slug).filter P ++
        s.endEvents.filter P := by
  rw [events_build h, List.filter_append, Section.filter_log_of_ends hP, Section.flatMap_endEvents]

theorem outcomes_of_log (h : d.fault? config s.questions = none) :
    ((s.build config d).events.filter Event.isOutcome).map Event.field? =
      s.questions.map fun q => some q.key := by
  rw [filter_log_of_questions h (fun _ => rfl) (fun _ => rfl), Stage.filter_isOutcome_flatMap,
    List.map_map]
  conv => rhs; rw [← Context.map_question_stages d s.questions, List.map_map]
  exact List.map_congr_left fun p _ => Stage.field?_outcome config p

theorem included_of_log (h : d.fault? config s.questions = none) :
    (s.build config d).events.filter (·.message == "field included") =
      (s.tree config d).fields.map fun f => .included f.name f.kind := by
  rw [filter_log_of_questions h (fun _ => rfl) (fun _ => rfl), Stage.filter_included_flatMap,
    fields_tree]
  rfl

theorem warned_of_log (h : d.fault? config s.questions = none) {i : Nat} {q : Question}
    (hq : s.questions[i]? = some q) (hrule : q.ruleState = .malformed)
    (hkept : ¬ q.LeftOut config (s.dataAt d i)) :
    ∃ before after, (s.build config d).events =
        before ++ [.malformedRule q.key, .included q.key q.kind] ++ after ∧
      (before.filter Event.isOutcome).length = i := by
  have hsuits : Stage.suits ⟨q, s.dataAt d i⟩ = true := by
    rcases fault?_eq_none_iff.mp h i q hq with hleft | hpasses
    · exact absurd hleft hkept
    · obtain ⟨default, hdefault⟩ := hpasses.suits
      rw [Stage.suits, Stage.default?, hdefault]
      rfl
  have hstage := getElem?_stages_eq_some_iff (d := d).mpr ⟨q, hq, rfl⟩
  obtain ⟨before, after, hlog, hlength⟩ := Section.exists_log_eq config hstage
  refine ⟨before, after ++ s.endEvents, ?_, hlength⟩
  rw [events_build h, hlog, Stage.events_of_malformed config _ hrule hsuits, List.append_assoc]

theorem sectionSubmits_of_log (h : d.fault? config s.questions = none) :
    (s.build config d).events.filter (·.message == "adding section submit") =
      (s.sections.filter (·.submit.isSome)).map fun sec => .sectionSubmit sec.slug := by
  have hend : s.endEvents.filter (·.message == "adding section submit") = [] := by
    rw [endEvents]
    split <;> rfl
  rw [filter_log_of_ends h fun _ => Event.field?_of_sectionSubmit, hend, List.append_nil,
    List.filter_eq_self]
  intro e he
  obtain ⟨sec, -, rfl⟩ := List.mem_map.mp he
  rfl

theorem rootSubmit_of_log (h : d.fault? config s.questions = none) :
    (s.build config d).events.filter
        (·.message == "no section declares a submit, adding default at root") =
      if s.sections.any (·.submit.isSome) then [] else [.rootSubmit s.slug] := by
  have hsections : ((s.sections.filter (·.submit.isSome)).map fun sec =>
      Event.sectionSubmit sec.slug).filter
        (·.message == "no section declares a submit, adding default at root") = [] := by
    rw [List.filter_eq_nil_iff]
    intro e he
    obtain ⟨sec, -, rfl⟩ := List.mem_map.mp he
    exact Bool.false_ne_true
  rw [filter_log_of_ends h fun _ => Event.field?_of_rootSubmit, hsections, List.nil_append,
    endEvents]
  split <;> rfl

/-- The log of a build that goes through accounts for all questions. The making of the fields of
entries, at whatever depth, leaves no log. -/
theorem log_accounts_for_build (h : (s.build config d).result = .ok t) :
    s.Accounts config d t (s.build config d).events ∧
      ∀ qs, (entryFields config .null qs).events = [] := by
  obtain ⟨hfault, rfl⟩ := build_eq_ok_iff.mp h
  constructor
  · exact {
      outcomes := outcomes_of_log hfault
      included := included_of_log hfault
      warned := fun _ _ hq hrule hkept => warned_of_log hfault hq hrule hkept
      warnings := by
        rw [filter_log_of_questions hfault (fun _ => rfl) (fun _ => rfl),
          Stage.filter_warnings_flatMap]
      sectionSubmits := sectionSubmits_of_log hfault
      rootSubmit := rootSubmit_of_log hfault }
  · intro qs
    rw [Question.entryFields_null]
    rfl

/-- A collection with a date in its entries, a date of no use with a rule that is none, the same rule
at a question of text, and a question that hides itself; the first section has a submit button. -/
def loggedForm : FormSchema where
  slug := "form"
  sections := [
    ⟨"s", none, [⟨"c", none, [
      ⟨"rows", "collection", none, none, none, none, none,
        [⟨"day", "date", none, none, some (.bool true), none, some (.malformed .null), [], []⟩], []⟩,
      ⟨"born", "date", none, none, some (.bool true), none, some (.malformed .null), [], []⟩]⟩],
      some ⟨none, none, .empty⟩⟩,
    ⟨"t", none, [⟨"d", none, [
      ⟨"name", "text", none, none, none, none, some (.malformed .null), [], []⟩,
      ⟨"note", "text", none, none, none, none,
        some (.rule ⟨.and, [.comparison ⟨some "note", some .isNotNull⟩]⟩), [], []⟩]⟩], none⟩]
  sectionDisplay := ⟨[], []⟩
  categoryDisplay := ⟨[], []⟩

theorem log_accounts_for_build_loggedForm :
    ∃ t, (loggedForm.build { onCoercionError := .skip } .empty).result = .ok t ∧
      loggedForm.Accounts { onCoercionError := .skip } .empty t
        (loggedForm.build { onCoercionError := .skip } .empty).events ∧
      (loggedForm.build { onCoercionError := .skip } .empty).events.map (·.message) =
        ["field included", "skipping field with unusable default", "adding section submit",
          "displayDependencies lacks 'operator' or 'conditions', field always included",
          "field included", "field hidden by displayDependencies"] := by
  obtain ⟨t, ht⟩ : ∃ t, (loggedForm.build { onCoercionError := .skip } .empty).result = .ok t :=
    ⟨_, rfl⟩
  exact ⟨t, ht, (log_accounts_for_build ht).1, rfl⟩

end FormSchema

end Questionnaire
