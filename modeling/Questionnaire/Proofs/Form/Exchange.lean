import Questionnaire.Proofs.Form.Locality
import Questionnaire.Proofs.Form.Replacement
import Questionnaire.Proofs.Form.Seeding

namespace Questionnaire

namespace Context

variable {a b : Question}

theorem seed_comm (h : a.key ≠ b.key) (d : Context) : (d.seed a).seed b = (d.seed b).seed a := by
  have hb : (d.seed a).seed b =
      if (d.resolve b.key).isNull then (d.seed a).insert b.key b.defaultValue else d.seed a := by
    rw [seed, resolve_seed_of_ne d h]
  have ha : (d.seed b).seed a =
      if (d.resolve a.key).isNull then (d.seed b).insert a.key a.defaultValue else d.seed b := by
    rw [seed, resolve_seed_of_ne d h.symm]
  rw [ha, hb, seed, seed]
  -- both inserts happen only if both keys are gaps
  by_cases hga : (d.resolve a.key).isNull = true
  · by_cases hgb : (d.resolve b.key).isNull = true
    · rw [if_pos hga, if_pos hgb, if_pos hgb, if_pos hga, Table.insert_comm h]
    · rw [if_pos hga, if_neg hgb, if_neg hgb, if_pos hga]
  · rw [if_neg hga, if_neg hga]

theorem seedAll_exchange (h : a.key ≠ b.key) (d : Context) (qs rs : List Question) :
    d.seedAll (qs ++ b :: a :: rs) = d.seedAll (qs ++ a :: b :: rs) := by
  rw [seedAll_append, seedAll_append, seedAll_cons, seedAll_cons, seedAll_cons, seedAll_cons,
    seed_comm h]

end Context

/-- Neither question reads the value under the key of the other. -/
structure Question.Independent (a b : Question) : Prop where
  keys : a.key ≠ b.key
  left : b.key ∉ a.ruleFields
  right : a.key ∉ b.ruleFields

theorem Question.Independent.symm {a b : Question} (h : a.Independent b) : b.Independent a :=
  ⟨h.keys.symm, h.right, h.left⟩

/-- A question is judged the same if an independent one goes before it. -/
theorem Stage.IsLocal.seed_independent {β : Type} {f : Stage → β} (hf : IsLocal f)
    {a b : Question} (h : a.Independent b) (d : Context) :
    f ⟨b, (d.seed a).seed b⟩ = f ⟨b, d.seed b⟩ := by
  rw [Context.seed_comm h.keys]
  apply hf
  intro k hk
  apply Context.resolve_seed_of_ne
  rintro rfl
  rcases List.mem_cons.mp hk with hkey | hrule
  · exact h.keys hkey
  · exact h.right hrule

namespace Context

variable {config : Config} {d : Context} {a b : Question}

theorem fault?_exchange (h : a.Independent b) (qs rs : List Question) :
    d.fault? config (qs ++ b :: a :: rs) = none ↔
      d.fault? config (qs ++ a :: b :: rs) = none := by
  have hlocal : Stage.IsLocal (Stage.fault? config) := Stage.isLocal_fault?
  have ha := hlocal.seed_independent h.symm (d.seedAll qs)
  have hb := hlocal.seed_independent h (d.seedAll qs)
  simp only [fault?_append, fault?_cons, Option.or_eq_none_iff]
  rw [ha, hb, seed_comm h.keys]
  exact and_congr_right' and_left_comm

theorem fault?_neighbours {qs rs : List Question}
    (h : d.fault? config (qs ++ a :: b :: rs) = none) :
    d.fault? config qs = none ∧ Stage.fault? config ⟨a, d.seedAll (qs ++ [a])⟩ = none ∧
      Stage.fault? config ⟨b, d.seedAll (qs ++ [a, b])⟩ = none ∧
      (d.seedAll (qs ++ [a, b])).fault? config rs = none := by
  simp only [fault?_append, fault?_cons, Option.or_eq_none_iff] at h
  simpa only [seedAll_append, seedAll_cons, seedAll_nil] using h

theorem fields_neighbours (config : Config) (d : Context) (a b : Question)
    (qs rs : List Question) :
    d.fields config (qs ++ a :: b :: rs) =
      d.fields config qs ++ (Stage.field? config ⟨a, d.seedAll (qs ++ [a])⟩).toList ++
        (Stage.field? config ⟨b, d.seedAll (qs ++ [a, b])⟩).toList ++
        (d.seedAll (qs ++ [a, b])).fields config rs := by
  simp only [fields_append, fields_cons, seedAll_append, seedAll_cons, seedAll_nil,
    List.append_assoc]

theorem fields_exchange (h : a.Independent b) (qs rs : List Question) :
    d.fields config (qs ++ b :: a :: rs) =
      d.fields config qs ++ (Stage.field? config ⟨b, d.seedAll (qs ++ [a, b])⟩).toList ++
        (Stage.field? config ⟨a, d.seedAll (qs ++ [a])⟩).toList ++
        (d.seedAll (qs ++ [a, b])).fields config rs := by
  have hlocal : Stage.IsLocal (Stage.field? config) := Stage.isLocal_field?
  have ha := hlocal.seed_independent h.symm (d.seedAll qs)
  have hb := hlocal.seed_independent h (d.seedAll qs)
  rw [fields_neighbours]
  simp only [seedAll_append, seedAll_cons, seedAll_nil]
  rw [ha, hb, seed_comm h.keys]

end Context

/-- A field that has no other to change places with stays where it is. -/
theorem FormTree.setNodes_of_missing {t : FormTree} {i j : Nat} {header : GroupHeader}
    {before after : List FieldDefinition} {x y : Option FieldDefinition}
    (h : t.group? i j =
      some (.group header ((before ++ x.toList ++ y.toList ++ after).map .field)))
    (hxy : x = none ∨ y = none) :
    t.setNodes i j ((before ++ y.toList ++ x.toList ++ after).map .field) = t := by
  have hsame : before ++ x.toList ++ y.toList ++ after =
      before ++ y.toList ++ x.toList ++ after := by
    rcases hxy with rfl | rfl <;> simp
  rw [hsame] at h
  exact setNodes_of_group h

namespace FormSchema

section

variable {s : FormSchema} {i j : Nat} {c : Category} {qs rs : List Question} {a b : Question}

theorem fault?_of_category {config : Config} {d : Context} (hc : s.category? i j = some c)
    (h : d.fault? config s.questions = none) :
    (d.seedAll (s.questionsAhead i j)).fault? config c.questions = none := by
  obtain ⟨later, hquestions, -⟩ := questions_setQuestions hc
  rw [hquestions, Context.fault?_append, Context.fault?_append] at h
  exact (Option.or_eq_none_iff.mp (Option.or_eq_none_iff.mp h).2).1

theorem fault?_exchange (config : Config) (d : Context) (hc : s.category? i j = some c)
    (hqs : c.questions = qs ++ a :: b :: rs) (h : a.Independent b) :
    d.fault? config (s.setQuestions i j (qs ++ b :: a :: rs)).questions = none ↔
      d.fault? config s.questions = none := by
  obtain ⟨later, hquestions, hreplaced⟩ := questions_setQuestions hc
  rw [hquestions, hreplaced, hqs]
  simp only [Context.fault?_append _ _ (s.questionsAhead i j), Context.fault?_append _ _ _ later,
    Option.or_eq_none_iff]
  -- behind the two the data are the same again
  rw [Context.fault?_exchange h, Context.seedAll_exchange h.keys]

/-- Neighbours of which neither reads the key of the other may change places: the build goes through
in both orders or in neither, with the same data, and in the trees their two fields change places.
All else stays, so that the trees are equal if one of the two has no field. -/
theorem build_exchange (config : Config) (d : Context) (hc : s.category? i j = some c)
    (hqs : c.questions = qs ++ a :: b :: rs) (h : a.Independent b) :
    ((∃ t', ((s.setQuestions i j (qs ++ b :: a :: rs)).build config d).result = .ok t') ↔
      ∃ t, (s.build config d).result = .ok t) ∧
    ∀ t t', (s.build config d).result = .ok t →
      ((s.setQuestions i j (qs ++ b :: a :: rs)).build config d).result = .ok t' →
      t'.data = t.data ∧
      ∃ before left right after,
        (Question.fieldsOf config (d.seedAll (s.questionsAhead i j)) qs).result =
          .ok (before, d.seedAll (s.questionsAhead i j ++ qs)) ∧
        (a.assess config (d.seedAll (s.questionsAhead i j ++ (qs ++ [a])))).result = .ok left ∧
        (b.assess config (d.seedAll (s.questionsAhead i j ++ (qs ++ [a, b])))).result = .ok right ∧
        (Question.fieldsOf config (d.seedAll (s.questionsAhead i j ++ (qs ++ [a, b]))) rs).result =
          .ok (after, d.seedAll (s.questionsAhead i j ++ c.questions)) ∧
        t.group? i j = some (.group (s.categoryDisplay.header c.slug c.title)
          ((before ++ left.field?.toList ++ right.field?.toList ++ after).map .field)) ∧
        t' = t.setNodes i j
          ((before ++ right.field?.toList ++ left.field?.toList ++ after).map .field) ∧
        (left.field? = none ∨ right.field? = none → t' = t) := by
  constructor
  · simp only [build_eq_ok_iff, exists_and_left, exists_eq', and_true]
    exact fault?_exchange config d hc hqs h
  intro t t' ht ht'
  obtain ⟨hnone, rfl⟩ := build_eq_ok_iff.mp ht
  obtain ⟨-, rfl⟩ := build_eq_ok_iff.mp ht'
  have hseed (d : Context) : d.seedAll (qs ++ b :: a :: rs) = d.seedAll c.questions := by
    rw [hqs, Context.seedAll_exchange h.keys]
  have hgroup := group?_tree config d hc
  have htree := tree_setQuestions config d hc hseed
  have hfault := fault?_of_category hc hnone
  rw [hqs] at hfault hgroup
  rw [Context.fields_neighbours] at hgroup
  rw [Context.fields_exchange h] at htree
  obtain ⟨hbefore, hleft, hright, hafter⟩ := Context.fault?_neighbours hfault
  simp only [Context.seedAll_append _ (s.questionsAhead i j)]
  refine ⟨by rw [htree]; rfl, _, _, _, _, ?_, ?_, ?_, ?_, hgroup, htree, ?_⟩
  · rw [Question.result_fieldsOf, hbefore, verdict_none]
  · rw [Stage.result_assess config ⟨a, _⟩, hleft, verdict_none]
  · rw [Stage.result_assess config ⟨b, _⟩, hright, verdict_none]
  · rw [Question.result_fieldsOf, hafter, verdict_none, hqs]
    simp only [Context.seedAll_append, Context.seedAll_cons, Context.seedAll_nil]
  · intro hmissing
    rw [htree]
    exact FormTree.setNodes_of_missing hgroup hmissing

end

/-- A question that its rule shows as long as a field is null. -/
def shownWhileNull (key field : String) : Question :=
  ⟨key, "text", none, none, some (.bool true), none,
    some (.rule ⟨.or, [.group .and [.comparison ⟨some field, some .isNull⟩]]⟩), [], []⟩

/-- Two neighbours that read a question ahead of them, and one after them that reads the first. -/
def neighbouringForm : FormSchema where
  slug := "form"
  sections := [
    ⟨"s", none, [⟨"c", none, [
      ⟨"first", "text", none, none, none, none, none, [], []⟩]⟩], none⟩,
    ⟨"t", none, [⟨"c", none, []⟩, ⟨"d", none, [
      shownWhileNull "left" "first", shownWhileNull "right" "first",
      shownWhileNull "last" "left"]⟩], none⟩]
  sectionDisplay := ⟨[], []⟩
  categoryDisplay := ⟨[], []⟩

theorem build_exchange_neighbouringForm :
    ∃ t t', (neighbouringForm.build {} .empty).result = .ok t ∧
      ((neighbouringForm.setQuestions 1 1 [shownWhileNull "right" "first",
        shownWhileNull "left" "first", shownWhileNull "last" "left"]).build {} .empty).result =
          .ok t' ∧
      t'.data = t.data ∧ t.fields.map (·.name) = ["first", "left", "right"] ∧
      t'.fields.map (·.name) = ["first", "right", "left"] := by
  have hindependent :
      (shownWhileNull "left" "first").Independent (shownWhileNull "right" "first") :=
    ⟨by decide, by decide, by decide⟩
  obtain ⟨c, hcategory, hquestions⟩ : ∃ c, neighbouringForm.category? 1 1 = some c ∧
      c.questions = [] ++ shownWhileNull "left" "first" :: shownWhileNull "right" "first" ::
        [shownWhileNull "last" "left"] := ⟨_, rfl, rfl⟩
  have hexchange := (build_exchange {} .empty hcategory hquestions hindependent).2 _ _ rfl rfl
  exact ⟨_, _, rfl, rfl, hexchange.1, rfl, rfl⟩

end FormSchema

end Questionnaire
