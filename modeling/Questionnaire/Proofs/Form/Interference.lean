import Questionnaire.Proofs.Form.Arrangement
import Questionnaire.Proofs.Form.Locality
import Questionnaire.Proofs.Form.Seeding

namespace Questionnaire

namespace FormNode

mutual

/-- A node without the fields of a name; such a field leaves nothing. -/
def without (name : String) : FormNode → List FormNode
  | .group header children => [.group header (listWithout name children)]
  | .field f => if f.name = name then [] else [.field f]
  | .action a => [.action a]

def listWithout (name : String) : List FormNode → List FormNode
  | [] => []
  | n :: rest => n.without name ++ listWithout name rest

end

theorem listWithout_append (name : String) (ns ms : List FormNode) :
    listWithout name (ns ++ ms) = listWithout name ns ++ listWithout name ms := by
  induction ns with
  | nil => rfl
  | cons n rest ih => rw [List.cons_append, listWithout, listWithout, ih, List.append_assoc]

end FormNode

/-- A tree without the fields of a name and without the entry of the name in its data. -/
def FormTree.without (name : String) (t : FormTree) : FormTree where
  name := t.name
  children := FormNode.listWithout name t.children
  data := t.data.erase name

/-- An outcome without a field of the name. -/
def FieldDefinition.unlessNamed (name : String) (o : Option FieldDefinition) :
    Option FieldDefinition :=
  o.filter fun f => f.name ≠ name

theorem FormNode.listWithout_map_field (name : String) (fs : List FieldDefinition) :
    listWithout name (fs.map .field) = (fs.filter fun f => f.name ≠ name).map .field := by
  induction fs with
  | nil => rfl
  | cons f rest ih =>
    rw [List.map_cons, listWithout, without, ih, List.filter_cons]
    by_cases hf : f.name = name
    · simp [hf]
    · simp [hf]

theorem FormNode.listWithout_fields (name : String) (os : List (Option FieldDefinition)) :
    listWithout name ((os.filterMap id).map .field) =
      ((os.map (FieldDefinition.unlessNamed name)).filterMap id).map .field := by
  rw [listWithout_map_field, List.filter_filterMap, List.filterMap_map]
  rfl

theorem Category.listWithout_arrange (name : String) (display : GroupDisplay) (cs : List Category)
    (os : List (Option FieldDefinition)) :
    FormNode.listWithout name (arrange display cs os) =
      arrange display cs (os.map (FieldDefinition.unlessNamed name)) := by
  induction cs generalizing os with
  | nil => rfl
  | cons c rest ih =>
    rw [arrange, arrange, FormNode.listWithout, FormNode.without, FormNode.listWithout_fields, ih,
      List.map_take, List.map_drop]
    rfl

theorem Section.listWithout_ending (name : String) (config : Config) (s : Section) :
    FormNode.listWithout name (s.ending config) = s.ending config := by
  rw [ending]
  cases s.submit <;> rfl

theorem Section.listWithout_arrange (name : String) (config : Config) (schema : FormSchema)
    (ss : List Section) (os : List (Option FieldDefinition)) :
    FormNode.listWithout name (arrange config schema ss os) =
      arrange config schema ss (os.map (FieldDefinition.unlessNamed name)) := by
  induction ss generalizing os with
  | nil => rfl
  | cons s rest ih =>
    rw [arrange, arrange, FormNode.listWithout, FormNode.without, FormNode.listWithout_append,
      listWithout_ending, Category.listWithout_arrange, ih, List.map_take, List.map_drop]
    rfl

namespace FormSchema

theorem listWithout_ending (name : String) (config : Config) (s : FormSchema) :
    FormNode.listWithout name (s.ending config) = s.ending config := by
  rw [ending]
  split <;> rfl

theorem without_tree (name : String) (config : Config) (s : FormSchema) (d : Context) :
    (s.tree config d).without name =
      ⟨s.slug, Section.arrange config s s.sections
        ((d.outcomes config s.questions).map (FieldDefinition.unlessNamed name)) ++
          s.ending config, (d.seedAll s.questions).erase name⟩ := by
  rw [tree_eq_arrange, FormTree.without, FormNode.listWithout_append, Section.listWithout_arrange,
    listWithout_ending]

end FormSchema

namespace Context

/-- Data that agree on every key but one. -/
def AgreeOff (k : String) (d d' : Context) : Prop :=
  ∀ l, l ≠ k → d.get? l = d'.get? l

variable {k : String} {d d' : Context} {q : Question}

theorem AgreeOff.resolve (h : AgreeOff k d d') {l : String} (hl : l ≠ k) :
    d.resolve l = d'.resolve l := by
  rw [Context.resolve, Context.resolve, h l hl]

theorem AgreeOff.seed (h : AgreeOff k d d') (q : Question) :
    AgreeOff k (d.seed q) (d'.seed q) := by
  intro l hl
  rw [get?_seed, get?_seed, h l hl]
  by_cases hkey : l = q.key
  · rw [h.resolve (hkey ▸ hl)]
  · simp only [hkey, false_and]

theorem AgreeOff.seedAll (h : AgreeOff k d d') (qs : List Question) :
    AgreeOff k (d.seedAll qs) (d'.seedAll qs) := by
  induction qs generalizing d d' with
  | nil => exact h
  | cons q rest ih => exact ih (h.seed q)

theorem AgreeOff.ruleFields (h : AgreeOff k d d') (hrule : k ∉ q.ruleFields) :
    ∀ l ∈ q.ruleFields, d.resolve l = d'.resolve l := by
  intro l hl
  apply h.resolve
  rintro rfl
  exact hrule hl

theorem AgreeOff.reads (h : AgreeOff k d d') (hrule : k ∉ q.ruleFields) (hkey : q.key ≠ k) :
    ∀ l ∈ q.reads, d.resolve l = d'.resolve l :=
  List.forall_mem_cons.mpr ⟨h.resolve hkey, h.ruleFields hrule⟩

end Context

namespace Stage

variable {config : Config} {k : String} {d d' : Context} {q : Question}

theorem unlessNamed_field? (h : d.AgreeOff k d') (hrule : k ∉ q.ruleFields) :
    FieldDefinition.unlessNamed k (field? config ⟨q, d⟩) =
      FieldDefinition.unlessNamed k (field? config ⟨q, d'⟩) := by
  by_cases hkey : q.key = k
  · -- whatever the question comes to, its field has the name that is left out
    have hnone : ∀ d, FieldDefinition.unlessNamed k (field? config ⟨q, d⟩) = none := by
      intro d
      rw [FieldDefinition.unlessNamed, Option.filter_eq_none_iff]
      intro f hf
      simp [name_of_field? hf, hkey]
    rw [hnone, hnone]
  · rw [isLocal_field? q d d' (h.reads hrule hkey)]

/-- Under the policy to fail, another value under a key that the rule does not test can only fail to
suit the kind of its question. -/
theorem fault?_of_agreeOff (habort : config.onCoercionError = .abort) (h : d.AgreeOff k d')
    (hrule : k ∉ q.ruleFields) (hfault : fault? config ⟨q, d⟩ = none) :
    fault? config ⟨q, d'⟩ = none ∨ ∃ c, fault? config ⟨q, d'⟩ = some (.coercion k c) := by
  by_cases hkey : q.key = k
  · rw [fault?, habort] at hfault ⊢
    cases hd' : default? ⟨q, d'⟩ with
    | error c => exact .inr ⟨c, by rw [hkey]⟩
    | ok default' =>
      cases hd : default? ⟨q, d⟩ with
      | error c =>
        rw [hd] at hfault
        cases hfault
      | ok default =>
        rw [hd] at hfault
        rw [← ruleFault?_congr (h.ruleFields hrule)]
        exact .inl hfault
  · rw [← isLocal_fault? q d d' (h.reads hrule hkey)]
    exact .inl hfault

end Stage

namespace Context

variable {config : Config} {k : String} {d d' : Context} {qs : List Question}

theorem AgreeOff.outcomes (h : AgreeOff k d d') (hrules : ∀ q ∈ qs, k ∉ q.ruleFields) :
    (d.outcomes config qs).map (FieldDefinition.unlessNamed k) =
      (d'.outcomes config qs).map (FieldDefinition.unlessNamed k) := by
  induction qs generalizing d d' with
  | nil => rfl
  | cons q rest ih =>
    obtain ⟨hq, hrest⟩ := List.forall_mem_cons.mp hrules
    rw [outcomes_cons, outcomes_cons, List.map_cons, List.map_cons,
      Stage.unlessNamed_field? (h.seed q) hq, ih (h.seed q) hrest]

theorem AgreeOff.fault? (habort : config.onCoercionError = .abort) (h : AgreeOff k d d')
    (hrules : ∀ q ∈ qs, k ∉ q.ruleFields) (hfault : d.fault? config qs = none) :
    d'.fault? config qs = none ∨ ∃ c, d'.fault? config qs = some (.coercion k c) := by
  induction qs generalizing d d' with
  | nil => exact .inl rfl
  | cons q rest ih =>
    obtain ⟨hq, hrest⟩ := List.forall_mem_cons.mp hrules
    rw [fault?_cons, Option.or_eq_none_iff] at hfault
    rw [fault?_cons]
    rcases Stage.fault?_of_agreeOff habort (h.seed q) hq hfault.1 with hstage | ⟨c, hstage⟩
    · rw [hstage, Option.none_or]
      exact ih (h.seed q) hrest hfault.2
    · rw [hstage]
      exact .inr ⟨c, rfl⟩

end Context

namespace FormSchema

/-- A value under a key that no rule tests shows only in the fields of that name and in its own
entry of the data; under the policy to fail, such a value can only stop a build because it does not
suit a question with that key. -/
theorem build_of_agreeOff (config : Config) (s : FormSchema) {k : String} {d d' : Context}
    (hrules : ∀ q ∈ s.questions, k ∉ q.ruleFields) (h : d.AgreeOff k d') :
    (∀ t t', (s.build config d).result = .ok t → (s.build config d').result = .ok t' →
      t.without k = t'.without k) ∧
    (config.onCoercionError = .abort → ∀ t e, (s.build config d).result = .ok t →
      (s.build config d').result = .error e → ∃ c, e = .coercion k c) := by
  constructor
  · intro t t' ht ht'
    obtain ⟨-, rfl⟩ := build_eq_ok_iff.mp ht
    obtain ⟨-, rfl⟩ := build_eq_ok_iff.mp ht'
    have hdata := Table.erase_eq_iff.mpr (h.seedAll s.questions)
    rw [without_tree, without_tree, h.outcomes hrules, hdata]
  · intro habort t e ht he
    obtain ⟨hfault, -⟩ := build_eq_ok_iff.mp ht
    rw [build_eq_error_iff] at he
    rcases h.fault? habort hrules hfault with hnone | ⟨c, hc⟩
    · rw [hnone] at he
      cases he
    · rw [hc] at he
      exact ⟨c, (Option.some.inj he).symm⟩

/-- A key that two questions of a kind have, among questions with rules on other keys. -/
def sharedKey (kind : String) : FormSchema where
  slug := "form"
  sections := [
    ⟨"s", none, [⟨"c", none, [
      ⟨"a", kind, none, none, none, none, none, [], []⟩,
      ⟨"b", "text", none, none, some (.bool true), none, none, [], []⟩]⟩], none⟩,
    ⟨"t", none, [⟨"c", none, [
      ⟨"a", "text", none, none, none, none,
        some (.rule ⟨.and, [.comparison ⟨some "b", some .isNotNull⟩]⟩), [], []⟩]⟩], none⟩]
  sectionDisplay := ⟨[], []⟩
  categoryDisplay := ⟨[], []⟩

theorem build_of_agreeOff_sharedKey :
    (∀ kind, ∀ q ∈ (sharedKey kind).questions, "a" ∉ q.ruleFields) ∧
    Context.AgreeOff "a" .empty (Table.empty.insert "a" (.bool true)) ∧
    (∃ t t', ((sharedKey "text").build {} .empty).result = .ok t ∧
      ((sharedKey "text").build {} (Table.empty.insert "a" (.bool true))).result = .ok t' ∧
      t.without "a" = t'.without "a") ∧
    (∃ t e, ((sharedKey "date").build {} .empty).result = .ok t ∧
      ((sharedKey "date").build {} (Table.empty.insert "a" (.bool true))).result = .error e ∧
      ∃ c, e = .coercion "a" c) := by
  have hrules : ∀ kind, ∀ q ∈ (sharedKey kind).questions, "a" ∉ q.ruleFields := by
    intro kind q hq
    rcases List.mem_cons.mp hq with rfl | hq
    · nofun
    rcases List.mem_cons.mp hq with rfl | hq
    · nofun
    cases List.mem_singleton.mp hq
    decide
  have hagree : Context.AgreeOff "a" .empty (Table.empty.insert "a" (.bool true)) := by
    intro l hl
    rw [Table.get?_insert, if_neg hl]
  refine ⟨hrules, hagree, ⟨_, _, rfl, rfl, ?_⟩, ⟨_, _, rfl, rfl, ?_⟩⟩
  · exact (build_of_agreeOff {} (sharedKey "text") (hrules _) hagree).1 _ _ rfl rfl
  · exact (build_of_agreeOff {} (sharedKey "date") (hrules _) hagree).2 rfl _ _ rfl rfl

end FormSchema

end Questionnaire
