import Questionnaire.Proofs.Form.Agreement
import Questionnaire.Proofs.Json.Members

namespace Questionnaire

namespace Json.Members

/-- Settings over a first member: each new one comes after those that are settled, and one for the
first member is set in its place. -/
theorem entries_setAll {entries settled : List (String × Json)} {key : String} {value : Json}
    (hkeys : (entries.map (·.1)).Nodup) (hsettled : ∀ m ∈ settled, m.1 ∉ entries.map (·.1))
    {members : Members} (hmembers : members.entries = (key, value) :: settled) :
    (members.setAll entries).entries =
      (key, (entries.lookup key).getD value) ::
        (settled ++ entries.filter fun m => m.1 != key) := by
  induction entries generalizing value settled members with
  | nil =>
    rw [List.lookup_nil, Option.getD_none, List.filter_nil, List.append_nil]
    exact hmembers
  | cons e rest ih =>
    obtain ⟨k, v⟩ := e
    rw [List.map_cons, List.nodup_cons] at hkeys
    obtain ⟨hfirst, hrest⟩ := hkeys
    have hold : ∀ m ∈ settled, m.1 ≠ k ∧ m.1 ∉ rest.map (·.1) := by
      intro m hm
      exact not_or.mp (mt List.mem_cons.mpr (hsettled m hm))
    rw [setAll_cons, List.lookup_cons]
    by_cases hk : k = key
    · -- the first member gets its value, which no later setting changes
      subst hk
      have hset : (members.set k v).entries = (k, v) :: settled := by
        rw [entries_set, hmembers, setMember_of_mem List.mem_cons_self, List.map_cons, beq_self_eq_true,
          if_pos rfl]
        congr 1
        conv => rhs; rw [← List.map_id settled]
        apply List.map_congr_left
        intro m hm
        rw [beq_false_of_ne (hold m hm).1]
        rfl
      rw [ih hrest (fun m hm => (hold m hm).2) hset, beq_self_eq_true,
        Json.lookup_eq_none_iff.mpr hfirst, List.filter_cons_of_neg (by simp)]
      rfl
    · -- a new member goes behind the settled ones and is settled from then on
      have hnew : k ∉ members.entries.map (·.1) := by
        rw [hmembers, List.map_cons, List.mem_cons, not_or]
        refine ⟨hk, fun hmem => ?_⟩
        obtain ⟨m, hm, heq⟩ := List.mem_map.mp hmem
        exact (hold m hm).1 heq
      have hset : (members.set k v).entries = (key, value) :: (settled ++ [(k, v)]) := by
        rw [entries_set, setMember_of_new hnew, hmembers, List.cons_append]
      have hsettled' : ∀ m ∈ settled ++ [(k, v)], m.1 ∉ rest.map (·.1) := by
        intro m hm
        rcases List.mem_append.mp hm with hm | hm
        · exact (hold m hm).2
        · cases List.mem_singleton.mp hm
          exact hfirst
      rw [ih hrest hsettled' hset, beq_false_of_ne (Ne.symm hk),
        List.filter_cons_of_pos (by simp [hk]), List.append_assoc]
      rfl

end Json.Members

namespace SubmitSpec

/-- A submit button of a section that leaves everything as it is. -/
def usual : SubmitSpec := ⟨none, none, .empty⟩

/-- The class of a submit button: that of its attributes, or else that of its settings, or else the
usual one. -/
def classOf (config : Config) (spec : SubmitSpec) : Json :=
  (spec.attr.lookup "class").getD (.string (spec.class?.getD config.submitClass))

/-- How settings show in the attributes of an action: a class comes first, and all other attributes
of the settings are kept. -/
def Dresses (config : Config) (spec : SubmitSpec) (a : Action) : Prop :=
  a.attr.entries =
    ("class", spec.classOf config) :: spec.attr.entries.filter fun m => m.1 != "class"

theorem dresses_action (config : Config) (spec : SubmitSpec) :
    spec.Dresses config (spec.action config) :=
  Json.Members.entries_setAll spec.attr.distinct (List.forall_mem_nil _) rfl

end SubmitSpec

/-- A category and its group: the group holds fields only, named by some of the questions. -/
inductive Category.MirroredBy (c : Category) : FormNode → Prop
  | group {header : GroupHeader} {fields : List FieldDefinition} (name : header.name = c.slug)
      (names : (fields.map (·.name)).Sublist (c.questions.map (·.key))) :
      MirroredBy c (.group header (fields.map .field))

/-- A section and its group: the groups of the categories, and then a submit button exactly if the
section asks for one. -/
inductive Section.MirroredBy (config : Config) (s : Section) : FormNode → Prop
  | group {header : GroupHeader} {groups : List FormNode} {actions : List Action}
      (name : header.name = s.slug)
      (categories : List.Forall₂ Category.MirroredBy s.categories groups)
      (submit : List.Forall₂ (SubmitSpec.Dresses config) s.submit.toList actions) :
      MirroredBy config s (.group header (groups ++ actions.map .action))

/-- What the form itself asks for: the usual submit button, if no section has one. -/
def FormSchema.rootSubmits (s : FormSchema) : List SubmitSpec :=
  if s.sections.any (·.submit.isSome) then [] else [.usual]

theorem Category.forall₂_layout (config : Config) (display : GroupDisplay) (d : Context)
    (cs : List Category) : List.Forall₂ MirroredBy cs (layout config display d cs) := by
  induction cs generalizing d with
  | nil => exact .nil
  | cons c rest ih =>
    refine .cons (.group rfl ?_) (ih _)
    have hkeys : (d.stages c.questions).map (·.question.key) = c.questions.map (·.key) := by
      conv => rhs; rw [← Context.map_question_stages d c.questions, List.map_map]
      rfl
    rw [Context.map_name_fields, ← hkeys]
    exact List.filter_sublist.map _

/-- The submit buttons of settings. -/
def SubmitSpec.actions (config : Config) (specs : List SubmitSpec) : List Action :=
  specs.map (·.action config)

theorem SubmitSpec.forall₂_actions (config : Config) (specs : List SubmitSpec) :
    List.Forall₂ (Dresses config) specs (actions config specs) := by
  rw [actions, List.forall₂_map_right_iff, List.forall₂_same]
  exact fun spec _ => dresses_action config spec

theorem Section.ending_eq (config : Config) (s : Section) :
    s.ending config = (SubmitSpec.actions config s.submit.toList).map .action := by
  rw [ending]
  cases s.submit <;> rfl

theorem FormSchema.ending_eq (config : Config) (s : FormSchema) :
    s.ending config = (SubmitSpec.actions config s.rootSubmits).map .action := by
  rw [ending, rootSubmits]
  split <;> rfl

theorem Section.forall₂_layout (config : Config) (schema : FormSchema) (d : Context)
    (ss : List Section) : List.Forall₂ (MirroredBy config) ss (layout config schema d ss) := by
  induction ss generalizing d with
  | nil => exact .nil
  | cons s rest ih =>
    refine .cons ?_ (ih _)
    rw [ending_eq]
    exact .group rfl (Category.forall₂_layout config schema.categoryDisplay d s.categories)
      (SubmitSpec.forall₂_actions config _)

namespace FormNode

theorem actionsOf_map_field (fs : List FieldDefinition) : actionsOf (fs.map .field) = [] := by
  induction fs with
  | nil => rfl
  | cons f rest ih => exact ih

theorem actionsOf_map_action (as : List Action) : actionsOf (as.map .action) = as := by
  induction as with
  | nil => rfl
  | cons a rest ih =>
    rw [List.map_cons, actionsOf, ih]
    rfl

end FormNode

theorem Category.actionsOf_layout (config : Config) (display : GroupDisplay) (d : Context)
    (cs : List Category) : FormNode.actionsOf (layout config display d cs) = [] := by
  induction cs generalizing d with
  | nil => rfl
  | cons c rest ih =>
    rw [layout, FormNode.actionsOf, FormNode.actions, FormNode.actionsOf_map_field, ih]
    rfl

theorem Section.actionsOf_layout (config : Config) (schema : FormSchema) (d : Context)
    (ss : List Section) :
    FormNode.actionsOf (layout config schema d ss) =
      SubmitSpec.actions config (ss.filterMap (·.submit)) := by
  induction ss generalizing d with
  | nil => rfl
  | cons s rest ih =>
    rw [layout, FormNode.actionsOf, FormNode.actions, FormNode.actionsOf_append,
      Category.actionsOf_layout, ending_eq, FormNode.actionsOf_map_action, ih, List.filterMap_cons]
    cases s.submit <;> rfl

namespace FormSchema

variable {config : Config} {s : FormSchema} {d : Context}

/-- The submit buttons that a form asks for, those of the sections first. -/
def submits (s : FormSchema) : List SubmitSpec :=
  s.sections.filterMap (·.submit) ++ s.rootSubmits

theorem actions_tree (config : Config) (s : FormSchema) (d : Context) :
    (s.tree config d).actions = SubmitSpec.actions config s.submits := by
  rw [FormTree.actions, tree, FormNode.actionsOf_append, Section.actionsOf_layout, ending_eq,
    FormNode.actionsOf_map_action, submits, SubmitSpec.actions, SubmitSpec.actions,
    SubmitSpec.actions, List.map_append]

theorem length_submits (s : FormSchema) :
    s.submits.length = max 1 (s.sections.countP (·.submit.isSome)) := by
  rw [submits, List.length_append, List.length_filterMap_eq_countP, rootSubmits]
  split
  · rename_i hany
    have hpos : 0 < s.sections.countP (·.submit.isSome) := by
      rw [List.countP_pos_iff]
      exact List.any_eq_true.mp hany
    rw [List.length_nil]
    omega
  · rename_i hnone
    have hzero : s.sections.countP (·.submit.isSome) = 0 := by
      rw [List.countP_eq_zero]
      exact fun sec hsec hsubmit => hnone (List.any_eq_true.mpr ⟨sec, hsec, hsubmit⟩)
    rw [hzero]
    rfl

/-- A tree has one group for each section, in order, and then the usual submit button exactly if no
section asks for one; so it has as many actions as sections ask for, but at least one. Each action has
a class, and all other attributes that the section gives it. -/
theorem build_mirrors_schema {t : FormTree} (h : (s.build config d).result = .ok t) :
    (∃ groups actions, t.children = groups ++ actions.map .action ∧
      List.Forall₂ (Section.MirroredBy config) s.sections groups ∧
      List.Forall₂ (SubmitSpec.Dresses config) s.rootSubmits actions) ∧
    t.actions.length = max 1 (s.sections.countP (·.submit.isSome)) ∧
    List.Forall₂ (SubmitSpec.Dresses config) s.submits t.actions := by
  obtain ⟨-, rfl⟩ := build_eq_ok_iff.mp h
  refine ⟨⟨Section.layout config s d s.sections, SubmitSpec.actions config s.rootSubmits, ?_,
    Section.forall₂_layout config s d s.sections, SubmitSpec.forall₂_actions config _⟩, ?_, ?_⟩
  · rw [← ending_eq]
    rfl
  · rw [actions_tree, SubmitSpec.actions, List.length_map, length_submits]
  · rw [actions_tree]
    exact SubmitSpec.forall₂_actions config _

/-- A hidden question and a shown one, a category and a section without any, and perhaps a submit
button in the first section. -/
def submitForm (submit : Option SubmitSpec) : FormSchema where
  slug := "form"
  sections := [
    ⟨"s", none, [⟨"empty", none, []⟩, ⟨"c", some "C", [
      ⟨"a", "text", none, none, none, none,
        some (.rule ⟨.and, [.comparison ⟨some "a", some .isNotNull⟩]⟩), [], []⟩,
      ⟨"b", "text", none, none, none, none, none, [], []⟩]⟩], submit⟩,
    ⟨"t", none, [], none⟩]
  sectionDisplay := ⟨[], []⟩
  categoryDisplay := ⟨[], []⟩

theorem build_mirrors_schema_submitForm :
    (∃ t a, ((submitForm (some ⟨none, some "wide", .ofList [("id", .null),
        ("class", .bool true), ("role", .null)]⟩)).build {} .empty).result = .ok t ∧ t.actions = [a] ∧
      a.attr.entries = [("class", .bool true), ("id", .null), ("role", .null)]) ∧
    (∃ t a, ((submitForm (some ⟨none, some "wide", .empty⟩)).build {} .empty).result = .ok t ∧
      t.actions = [a] ∧ a.attr.entries = [("class", .string "wide")]) ∧
    (∃ t a, ((submitForm none).build {} .empty).result = .ok t ∧ t.actions = [a] ∧
      a.attr.entries = [("class", .string "btn btn-primary")]) := by
  have hdressed : ∀ submit, ∃ t a, ((submitForm submit).build {} .empty).result = .ok t ∧
      t.actions = [a] ∧ (submit.getD .usual).Dresses {} a := by
    intro submit
    obtain ⟨t, ht⟩ : ∃ t, ((submitForm submit).build {} .empty).result = .ok t := by
      cases submit <;> exact ⟨_, rfl⟩
    obtain ⟨-, -, hactions⟩ := build_mirrors_schema ht
    have hsubmits : (submitForm submit).submits = [submit.getD .usual] := by
      cases submit <;> rfl
    rw [hsubmits] at hactions
    obtain ⟨a, as, ha, has, heq⟩ := List.forall₂_cons_left_iff.mp hactions
    cases has
    exact ⟨t, a, ht, heq, ha⟩
  refine ⟨?_, ?_, ?_⟩
  · obtain ⟨t, a, ht, hactions, hdress⟩ := hdressed (some _)
    exact ⟨t, a, ht, hactions, hdress⟩
  · obtain ⟨t, a, ht, hactions, hdress⟩ := hdressed (some _)
    exact ⟨t, a, ht, hactions, hdress⟩
  · obtain ⟨t, a, ht, hactions, hdress⟩ := hdressed none
    exact ⟨t, a, ht, hactions, hdress⟩

end FormSchema

end Questionnaire
