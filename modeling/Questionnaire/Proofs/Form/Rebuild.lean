import Questionnaire.Proofs.Form.Arrangement
import Questionnaire.Proofs.Form.Locality
import Questionnaire.Proofs.Form.Seeding

namespace Questionnaire

namespace Context

variable {d : Context} {qs : List Question}

theorem stages_eq_map (h : ∀ q ∈ qs, d.seed q = d) : d.stages qs = qs.map (Stage.mk · d) := by
  induction qs with
  | nil => rfl
  | cons q rest ih =>
    rw [stages, h q List.mem_cons_self, ih fun r hr => h r (List.mem_cons_of_mem _ hr),
      List.map_cons]

theorem fault?_eq_map (config : Config) :
    d.fault? config qs = ((d.stages qs).map (Stage.fault? config)).findSome? id := by
  rw [List.findSome?_map]
  rfl

variable {β : Type} {f : Stage → β}

/-- A question that reads no key of a later one may as well be judged by the data at the end. -/
theorem map_stages_of_reads (hf : Stage.IsLocal f)
    (h : qs.Pairwise fun q r => r.key ∉ q.reads) :
    (d.stages qs).map f = qs.map fun q => f ⟨q, d.seedAll qs⟩ := by
  induction qs generalizing d with
  | nil => rfl
  | cons q rest ih =>
    obtain ⟨hq, hrest⟩ := List.pairwise_cons.mp h
    have hstage : f ⟨q, d.seed q⟩ = f ⟨q, (d.seed q).seedAll rest⟩ := by
      apply hf
      intro k hk
      symm
      apply resolve_seedAll_of_ne
      rintro r hr rfl
      exact hq r hr hk
    rw [stages, List.map_cons, List.map_cons, ih hrest, hstage]
    rfl

theorem map_stages_seedAll (hf : Stage.IsLocal f)
    (h : qs.Pairwise fun q r => r.key ∉ q.reads) :
    ((d.seedAll qs).stages qs).map f = (d.stages qs).map f := by
  rw [stages_eq_map fun _ => seed_seedAll_of_mem, List.map_map, map_stages_of_reads hf h]
  rfl

end Context

namespace FormSchema

variable {config : Config} {s : FormSchema} {d : Context}

/-- A build from the data of a tree gives the tree again. -/
theorem build_data_of_build {t : FormTree} (hkeys : (s.questions.map (·.key)).Nodup)
    (hrules : s.questions.Pairwise fun q r => r.key ∉ q.ruleFields)
    (h : (s.build config d).result = .ok t) : (s.build config t.data).result = .ok t := by
  obtain ⟨hfault, rfl⟩ := build_eq_ok_iff.mp h
  have hreads : s.questions.Pairwise fun q r => r.key ∉ q.reads := by
    apply ((List.pairwise_map.mp hkeys).and hrules).imp
    rintro q r ⟨hne, hrule⟩ hmem
    rcases List.mem_cons.mp hmem with hkey | hmem
    · exact hne hkey.symm
    · exact hrule hmem
  have hfault' : (d.seedAll s.questions).fault? config s.questions = none := by
    have hfaults := Context.map_stages_seedAll (d := d) (f := Stage.fault? config)
      Stage.isLocal_fault? hreads
    rw [Context.fault?_eq_map, hfaults, ← Context.fault?_eq_map, hfault]
  have houtcomes : (d.seedAll s.questions).outcomes config s.questions =
      d.outcomes config s.questions := Context.map_stages_seedAll Stage.isLocal_field? hreads
  apply build_eq_ok_iff.mpr ⟨hfault', ?_⟩
  rw [tree_eq_arrange, tree_eq_arrange, houtcomes, Context.seedAll_seedAll]

/-- A question that shows the next by its default, and a date that is left out for its own. -/
def chained : FormSchema where
  slug := "form"
  sections := [
    ⟨"s", none, [⟨"c", none, [
      ⟨"a", "text", none, none, some (.bool true), none, none, [], []⟩,
      ⟨"b", "text", none, none, none, none, some (.rule ⟨.or, [
        .group .not [.comparison ⟨some "a", some .isNull⟩],
        .comparison ⟨some "b", some .isNotNull⟩]⟩), [], []⟩]⟩], none⟩,
    ⟨"t", none, [⟨"c", none, [
      ⟨"date", "date", none, none, some (.bool true), none, none, [], []⟩]⟩], none⟩]
  sectionDisplay := ⟨[], []⟩
  categoryDisplay := ⟨[], []⟩

theorem build_data_of_build_chained :
    (chained.questions.map (·.key)).Nodup ∧
    (chained.questions.Pairwise fun q r => r.key ∉ q.ruleFields) ∧
    ∃ t, (chained.build { onCoercionError := .skip } .empty).result = .ok t ∧
      t.fields.map (·.name) = ["a", "b"] ∧ t.data.get? "a" = some (.bool true) ∧
      (chained.build { onCoercionError := .skip } t.data).result = .ok t := by
  have hkeys : (chained.questions.map (·.key)).Nodup := by decide
  have hrules : chained.questions.Pairwise fun q r => r.key ∉ q.ruleFields := by decide
  have hbuild : (chained.build { onCoercionError := .skip } .empty).result =
      .ok (chained.tree { onCoercionError := .skip } .empty) := rfl
  exact ⟨hkeys, hrules, _, hbuild, rfl, rfl, build_data_of_build hkeys hrules hbuild⟩

end FormSchema

end Questionnaire
