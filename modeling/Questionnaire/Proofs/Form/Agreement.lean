import Questionnaire.Proofs.Form.Layout

namespace Questionnaire

/-- Where a field stands: the groups around it, the outermost first, and its own name. -/
structure Place where
  groups : List String
  field : String
  deriving DecidableEq

namespace FormNode

mutual

/-- The places of the fields in a node that lies in the given groups, in order and at any
depth. -/
def places (groups : List String) : FormNode → List Place
  | .group header children => placesOf (groups ++ [header.name]) children
  | .field f => [⟨groups, f.name⟩]
  | .action _ => []

def placesOf (groups : List String) : List FormNode → List Place
  | [] => []
  | n :: rest => n.places groups ++ placesOf groups rest

end

theorem placesOf_append (groups : List String) (ns ms : List FormNode) :
    placesOf groups (ns ++ ms) = placesOf groups ns ++ placesOf groups ms := by
  induction ns with
  | nil => rfl
  | cons n rest ih => simp only [List.cons_append, placesOf, ih, List.append_assoc]

theorem placesOf_fields (groups : List String) (fs : List FieldDefinition) :
    placesOf groups (fs.map .field) = fs.map fun f => ⟨groups, f.name⟩ := by
  induction fs with
  | nil => rfl
  | cons f rest ih =>
    rw [List.map_cons, placesOf, ih]
    rfl

end FormNode

def FormTree.places (t : FormTree) : List Place :=
  FormNode.placesOf [] t.children

def Decision.place (r : Decision) : Place :=
  ⟨[r.sectionSlug, r.categorySlug], r.key⟩

/-- The places of all questions of a schema, in the order of the document. -/
def FormSchema.places (s : FormSchema) : List Place :=
  s.sections.flatMap fun sec => sec.categories.flatMap fun c => c.questions.map fun q =>
    ⟨[sec.slug, c.slug], q.key⟩

/-- A stage with the section and the category of its question. -/
structure Site where
  sectionSlug : String
  categorySlug : String
  stage : Stage

namespace Site

def place (x : Site) : Place :=
  ⟨[x.sectionSlug, x.categorySlug], x.stage.question.key⟩

def decision (config : Config) (x : Site) : Decision where
  sectionSlug := x.sectionSlug
  categorySlug := x.categorySlug
  key := x.stage.question.key
  visible := x.stage.shows config
  rule := x.stage.question.ruleState

end Site

def Category.sites (sectionSlug : String) (d : Context) : List Category → List Site
  | [] => []
  | c :: rest =>
    (d.stages c.questions).map (⟨sectionSlug, c.slug, ·⟩) ++
      sites sectionSlug (d.seedAll c.questions) rest

def Section.sites (d : Context) : List Section → List Site
  | [] => []
  | s :: rest => Category.sites s.slug d s.categories ++ sites (d.seedAll s.questions) rest

theorem Category.map_stage_sites (sectionSlug : String) (d : Context) (cs : List Category) :
    (sites sectionSlug d cs).map (·.stage) = d.stages (cs.flatMap (·.questions)) := by
  induction cs generalizing d with
  | nil => rfl
  | cons c rest ih =>
    rw [sites, List.map_append, ih, List.map_map, List.flatMap_cons, Context.stages_append]
    congr 1
    exact List.map_id _

theorem Section.map_stage_sites (d : Context) (ss : List Section) :
    (sites d ss).map (·.stage) = d.stages (ss.flatMap (·.questions)) := by
  induction ss generalizing d with
  | nil => rfl
  | cons s rest ih =>
    rw [sites, List.map_append, ih, Category.map_stage_sites, List.flatMap_cons,
      Context.stages_append]
    rfl

theorem Category.map_place_sites (sectionSlug : String) (d : Context) (cs : List Category) :
    (sites sectionSlug d cs).map Site.place =
      cs.flatMap fun c => c.questions.map fun q => ⟨[sectionSlug, c.slug], q.key⟩ := by
  induction cs generalizing d with
  | nil => rfl
  | cons c rest ih =>
    have hquestions := Context.map_question_stages d c.questions
    rw [sites, List.map_append, ih, List.map_map, List.flatMap_cons]
    congr 1
    conv => rhs; rw [← hquestions, List.map_map]
    rfl

theorem FormSchema.map_place_sites (s : FormSchema) (d : Context) :
    (Section.sites d s.sections).map Site.place = s.places := by
  rw [places]
  induction s.sections generalizing d with
  | nil => rfl
  | cons sec rest ih =>
    rw [Section.sites, List.map_append, ih, Category.map_place_sites, List.flatMap_cons]

def Context.ruleFault? (config : Config) (d : Context) (qs : List Question) : Option BuildError :=
  (d.stages qs).findSome? (Stage.ruleFault? config)

theorem Context.ruleFault?_cons (config : Config) (d : Context) (q : Question)
    (rest : List Question) :
    d.ruleFault? config (q :: rest) =
      (Stage.ruleFault? config ⟨q, d.seed q⟩).or ((d.seed q).ruleFault? config rest) :=
  findSome?_stages_cons _ d q rest

theorem Context.ruleFault?_append (config : Config) (d : Context) (qs rs : List Question) :
    d.ruleFault? config (qs ++ rs) =
      (d.ruleFault? config qs).or ((d.seedAll qs).ruleFault? config rs) :=
  findSome?_stages_append _ d qs rs

theorem Question.decisionsOf_eq_verdict (config : Config) (sectionSlug categorySlug : String)
    (d : Context) (qs : List Question) :
    decisionsOf config sectionSlug categorySlug d qs = verdict (d.ruleFault? config qs)
      ((d.stages qs).map fun p => Site.decision config ⟨sectionSlug, categorySlug, p⟩,
        d.seedAll qs) := by
  induction qs generalizing d with
  | nil => rfl
  | cons q rest ih =>
    have hshown := Stage.isShown_eq_verdict config ⟨q, d.seed q⟩
    simp only [decisionsOf, hshown]
    rw [Context.ruleFault?_cons, Context.stages]
    apply verdict_bind
    rw [ih]
    exact verdict_bind_ok rfl

theorem Category.decisionsOf_eq_verdict (config : Config) (sectionSlug : String) (d : Context)
    (cs : List Category) :
    decisionsOf config sectionSlug d cs =
      verdict (d.ruleFault? config (cs.flatMap (·.questions)))
        ((sites sectionSlug d cs).map (Site.decision config),
          d.seedAll (cs.flatMap (·.questions))) := by
  induction cs generalizing d with
  | nil => rfl
  | cons c rest ih =>
    rw [decisionsOf, Question.decisionsOf_eq_verdict, List.flatMap_cons,
      Context.ruleFault?_append, Context.seedAll_append, sites, List.map_append, List.map_map]
    apply verdict_bind
    dsimp only
    rw [ih]
    exact verdict_bind_ok rfl

theorem Section.decisionsOf_eq_verdict (config : Config) (d : Context) (ss : List Section) :
    decisionsOf config d ss = verdict (d.ruleFault? config (ss.flatMap (·.questions)))
      ((sites d ss).map (Site.decision config), d.seedAll (ss.flatMap (·.questions))) := by
  induction ss generalizing d with
  | nil => rfl
  | cons s rest ih =>
    rw [decisionsOf, Category.decisionsOf_eq_verdict, List.flatMap_cons,
      Context.ruleFault?_append, Context.seedAll_append, sites, List.map_append]
    apply verdict_bind
    dsimp only
    rw [← questions, ih]
    exact verdict_bind_ok rfl

/-- Whether the question becomes a field of the tree. -/
def Stage.included (config : Config) (p : Stage) : Bool :=
  p.suits && p.shows config

theorem Stage.map_name_field? (config : Config) (p : Stage) :
    (p.field? config).map (·.name) =
      if p.included config then some p.question.key else none := by
  rw [field?, assessment, included, suits]
  cases p.default? with
  | error e => rfl
  | ok default =>
    cases p.shows config with
    | false => rfl
    | true => exact congrArg some (Question.shape_name _ _)

theorem Stage.name_of_field? {config : Config} {p : Stage} {f : FieldDefinition}
    (h : p.field? config = some f) : f.name = p.question.key := by
  have hname := map_name_field? config p
  rw [h] at hname
  split at hname
  · exact Option.some.inj hname
  · cases hname

theorem Context.map_name_fields (config : Config) (d : Context) (qs : List Question) :
    (d.fields config qs).map (·.name) =
      ((d.stages qs).filter (Stage.included config)).map (·.question.key) := by
  rw [fields]
  induction d.stages qs with
  | nil => rfl
  | cons p rest ih =>
    have hname := Stage.map_name_field? config p
    rw [List.filterMap_cons, List.filter_cons]
    cases hp : p.included config with
    | false =>
      rw [hp] at hname
      rw [Option.map_eq_none_iff.mp hname]
      exact ih
    | true =>
      rw [hp] at hname
      obtain ⟨f, hf, hkey⟩ := Option.map_eq_some_iff.mp hname
      rw [hf, if_pos rfl, List.map_cons, List.map_cons, hkey, ih]

theorem Category.places_layout (config : Config) (display : GroupDisplay) (sectionSlug : String)
    (d : Context) (cs : List Category) :
    FormNode.placesOf [sectionSlug] (layout config display d cs) =
      ((sites sectionSlug d cs).filter fun x => x.stage.included config).map Site.place := by
  induction cs generalizing d with
  | nil => rfl
  | cons c rest ih =>
    have hnames := congrArg (List.map (Place.mk [sectionSlug, c.slug]))
      (Context.map_name_fields config d c.questions)
    rw [List.map_map, List.map_map] at hnames
    rw [layout, FormNode.placesOf, FormNode.places, FormNode.placesOf_fields, ih, sites,
      List.filter_append, List.map_append, List.filter_map, List.map_map]
    exact congrArg (· ++ _) hnames

theorem Section.places_ending (config : Config) (groups : List String) (s : Section) :
    FormNode.placesOf groups (s.ending config) = [] := by
  rw [ending]
  cases s.submit <;> rfl

theorem Section.places_layout (config : Config) (schema : FormSchema) (d : Context)
    (ss : List Section) :
    FormNode.placesOf [] (layout config schema d ss) =
      ((sites d ss).filter fun x => x.stage.included config).map Site.place := by
  induction ss generalizing d with
  | nil => rfl
  | cons s rest ih =>
    have hcategories := Category.places_layout config schema.categoryDisplay s.slug d s.categories
    rw [layout, FormNode.placesOf, FormNode.places, FormNode.placesOf_append, places_ending,
      List.append_nil, ih, sites, List.filter_append, List.map_append]
    exact congrArg (· ++ _) hcategories

namespace FormSchema

variable {config : Config} {s : FormSchema} {d : Context}

theorem places_ending (config : Config) (s : FormSchema) :
    FormNode.placesOf [] (s.ending config) = [] := by
  rw [ending]
  split <;> rfl

theorem places_tree (config : Config) (s : FormSchema) (d : Context) :
    (s.tree config d).places =
      ((Section.sites d s.sections).filter fun x => x.stage.included config).map Site.place := by
  rw [FormTree.places, tree, FormNode.placesOf_append, places_ending, List.append_nil,
    Section.places_layout]

theorem decisions_eq_verdict (config : Config) (s : FormSchema) (d : Context) :
    s.decisions config d = verdict (d.ruleFault? config s.questions)
      ((Section.sites d s.sections).map (Site.decision config)) := by
  rw [decisions, Section.decisionsOf_eq_verdict]
  exact verdict_bind_ok rfl

theorem map_place_decisions {rows : List Decision} (h : s.decisions config d = .ok rows) :
    rows.map Decision.place = s.places := by
  rw [decisions_eq_verdict, verdict_eq_ok_iff] at h
  rw [← h.2, List.map_map, ← map_place_sites s d]
  rfl

/-- A build that goes through has fields where the visible rows are, but for the questions whose
values do not suit. -/
theorem places_of_build {t : FormTree} {rows : List Decision}
    (hbuild : (s.build config d).result = .ok t) (hrows : s.decisions config d = .ok rows) :
    t.places = ((rows.zip (d.stages s.questions)).filter fun p => p.1.visible && p.2.suits).map
      (·.1.place) := by
  obtain ⟨-, rfl⟩ := build_eq_ok_iff.mp hbuild
  rw [decisions_eq_verdict, verdict_eq_ok_iff] at hrows
  obtain ⟨-, rfl⟩ := hrows
  have hstages : d.stages s.questions = (Section.sites d s.sections).map (·.stage) :=
    (Section.map_stage_sites d s.sections).symm
  rw [places_tree, hstages, List.zip_map', List.filter_map, List.map_map]
  simp only [Stage.included, Bool.and_comm]
  rfl

theorem decisions_of_build (habort : config.onCoercionError = .abort) {t : FormTree}
    (h : (s.build config d).result = .ok t) :
    ∃ rows, s.decisions config d = .ok rows ∧
      t.places = (rows.filter (·.visible)).map Decision.place := by
  obtain ⟨hfault, rfl⟩ := build_eq_ok_iff.mp h
  -- under this policy a stage without a fault has passed its coercion, so nothing is left out
  have hstage : ∀ p ∈ d.stages s.questions, p.suits = true ∧ p.ruleFault? config = none :=
    fun p hp => Stage.suits_of_fault? habort (List.findSome?_eq_none_iff.mp hfault p hp)
  have hrule : d.ruleFault? config s.questions = none :=
    List.findSome?_eq_none_iff.mpr fun p hp => (hstage p hp).2
  refine ⟨_, by rw [decisions_eq_verdict, hrule, verdict_none], ?_⟩
  rw [places_tree, List.filter_map, List.map_map]
  refine congrArg (List.map Site.place) (List.filter_congr fun x hx => ?_)
  have hx' : x.stage ∈ d.stages s.questions := by
    rw [FormSchema.questions, ← Section.map_stage_sites]
    exact List.mem_map_of_mem hx
  rw [Stage.included, (hstage _ hx').1, Bool.true_and]
  rfl

/-- The tree and the report agree, under either policy. -/
theorem build_agrees_with_decisions (config : Config) (s : FormSchema) (d : Context) :
    (config.onCoercionError = .abort → ∀ t, (s.build config d).result = .ok t →
      ∃ rows, s.decisions config d = .ok rows ∧ rows.map Decision.place = s.places ∧
        t.places = (rows.filter (·.visible)).map Decision.place) ∧
    (config.onCoercionError = .skip → ∀ t rows, (s.build config d).result = .ok t →
      s.decisions config d = .ok rows → rows.map Decision.place = s.places ∧
        t.places = ((rows.zip (d.stages s.questions)).filter fun p =>
          p.1.visible && p.2.suits).map (·.1.place)) := by
  refine ⟨fun habort t ht => ?_, fun _ t rows ht hrows => ?_⟩
  · obtain ⟨rows, hrows, hplaces⟩ := decisions_of_build habort ht
    exact ⟨rows, hrows, map_place_decisions hrows, hplaces⟩
  · exact ⟨map_place_decisions hrows, places_of_build ht hrows⟩

/-- A hidden question, a key that is asked for twice, a rule that is none, and a date with a
default. -/
def twoSections (date : Option Json) : FormSchema where
  slug := "form"
  sections := [
    ⟨"s", none, [⟨"c", none, [
      ⟨"a", "text", none, none, some (.bool true), none, none, [], []⟩,
      ⟨"b", "text", none, none, none, none,
        some (.rule ⟨.and, [.comparison ⟨some "a", some .isNull⟩]⟩), [], []⟩]⟩], none⟩,
    ⟨"t", none, [⟨"c", none, [
      ⟨"a", "text", none, none, none, none, some (.malformed (.bool true)), [], []⟩,
      ⟨"date", "date", none, none, date, none, none, [], []⟩]⟩], none⟩]
  sectionDisplay := ⟨[], []⟩
  categoryDisplay := ⟨[], []⟩

theorem build_agrees_with_decisions_twoSections :
    (∃ t rows, ((twoSections none).build {} .empty).result = .ok t ∧
      (twoSections none).decisions {} .empty = .ok rows ∧
      t.places = (rows.filter (·.visible)).map Decision.place ∧
      t.places = [⟨["s", "c"], "a"⟩, ⟨["t", "c"], "a"⟩, ⟨["t", "c"], "date"⟩]) ∧
    (∃ t rows,
      ((twoSections (some (.bool true))).build { onCoercionError := .skip } .empty).result =
        .ok t ∧
      (twoSections (some (.bool true))).decisions { onCoercionError := .skip } .empty = .ok rows ∧
      t.places = ((rows.zip (Context.stages .empty
        (twoSections (some (.bool true))).questions)).filter fun p =>
          p.1.visible && p.2.suits).map (·.1.place) ∧
      t.places = [⟨["s", "c"], "a"⟩, ⟨["t", "c"], "a"⟩]) := by
  obtain ⟨t, ht⟩ : ∃ t, ((twoSections none).build {} .empty).result = .ok t := ⟨_, rfl⟩
  obtain ⟨rows, hrows, -, hplaces⟩ :=
    (build_agrees_with_decisions {} (twoSections none) .empty).1 rfl t ht
  have hskip := (build_agrees_with_decisions { onCoercionError := .skip }
    (twoSections (some (.bool true))) .empty).2 rfl _ _ rfl rfl
  refine ⟨⟨t, rows, ht, hrows, hplaces, ?_⟩, ⟨_, _, rfl, rfl, hskip.2, ?_⟩⟩
  · cases ht
    decide
  · decide

end FormSchema

end Questionnaire
