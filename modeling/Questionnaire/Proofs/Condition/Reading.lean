import Mathlib.Data.List.Forall2
import Questionnaire.Condition.Reader

namespace Questionnaire

theorem mapM_eq_some_iff {α β : Type} {f : α → Option β} {l : List α} {bs : List β} :
    l.mapM f = some bs ↔ List.Forall₂ (fun a b => f a = some b) l bs := by
  induction l generalizing bs with
  | nil =>
    rw [List.mapM_nil, List.forall₂_nil_left_iff]
    exact ⟨fun h => (Option.some.inj h).symm, fun h => congrArg some h.symm⟩
  | cons a rest ih =>
    rw [List.mapM_cons, List.forall₂_cons_left_iff]
    constructor
    · intro h
      obtain ⟨b, hb, h⟩ := Option.bind_eq_some_iff.mp h
      obtain ⟨others, hothers, h⟩ := Option.bind_eq_some_iff.mp h
      exact ⟨b, others, hb, ih.mp hothers, (Option.some.inj h).symm⟩
    · rintro ⟨b, others, hb, hothers, rfl⟩
      rw [hb, ih.mpr hothers]
      rfl

theorem mapM_eq_none_iff {α β : Type} {f : α → Option β} {l : List α} :
    l.mapM f = none ↔ ∃ a ∈ l, f a = none := by
  induction l with
  | nil => exact iff_of_false nofun (fun ⟨_, hmem, _⟩ => List.not_mem_nil hmem)
  | cons a rest ih =>
    rw [List.mapM_cons, List.exists_mem_cons_iff, ← ih]
    cases f a with
    | none => exact iff_of_true rfl (.inl rfl)
    | some b =>
      cases rest.mapM f with
      | none => exact iff_of_true rfl (.inr rfl)
      | some others => exact iff_of_false nofun (by rintro (h | h) <;> cases h)

theorem rel_map {α β : Type} {R : α → α → Prop} {S : β → β → Prop} {f : α → β} {x x' : Option α}
    (h : Option.Rel R x x') (hf : ∀ a a', R a a' → S (f a) (f a')) :
    Option.Rel S (x.map f) (x'.map f) := by
  cases h with
  | none => exact .none
  | some ha => exact .some (hf _ _ ha)

/-- Traversals with related steps fail together, or else have related results. -/
theorem mapM_rel {α β : Type} {R : β → β → Prop} {f : α → Option β} {l l' : List α}
    (h : List.Forall₂ (fun a a' => Option.Rel R (f a) (f a')) l l') :
    Option.Rel (List.Forall₂ R) (l.mapM f) (l'.mapM f) := by
  induction h with
  | nil => exact .some .nil
  | @cons a a' rest rest' hstep _ ih =>
    rw [List.mapM_cons, List.mapM_cons]
    generalize f a = x at *
    generalize f a' = x' at *
    cases hstep with
    | none => exact .none
    | some hb =>
      generalize rest.mapM f = xs at *
      generalize rest'.mapM f = xs' at *
      cases ih with
      | none => exact .none
      | some hbs => exact .some (.cons hb hbs)

theorem exists_mem_of_forall₂ {α β : Type} {R : α → β → Prop} {l : List α} {bs : List β}
    (h : List.Forall₂ R l bs) {b : β} (hb : b ∈ bs) : ∃ a ∈ l, R a b := by
  induction h with
  | nil => cases hb
  | @cons a b' l bs hab _ ih =>
    rcases List.mem_cons.mp hb with rfl | hb
    · exact ⟨a, List.mem_cons_self, hab⟩
    · obtain ⟨a', ha', hab'⟩ := ih hb
      exact ⟨a', List.mem_cons_of_mem a ha', hab'⟩

namespace Condition

/-- Reads a condition that may have the given levels of groups. -/
def ofNode? (levels : Nat) (node : Json) : Option Condition :=
  if isGroupNode node then (Group.ofJsonWithin? levels node).map Group.toCondition
  else some (.comparison (.ofJson node))

variable {levels : Nat} {node : Json}

theorem ofNode?_of_group (h : isGroupNode node = true) :
    ofNode? levels node = (Group.ofJsonWithin? levels node).map Group.toCondition :=
  if_pos h

theorem ofNode?_of_comparison (h : isGroupNode node = false) :
    ofNode? levels node = some (.comparison (.ofJson node)) :=
  if_neg (Bool.eq_false_iff.mp h)

theorem ofNode?_eq_none_iff :
    ofNode? levels node = none ↔
      isGroupNode node = true ∧ Group.ofJsonWithin? levels node = none := by
  cases h : isGroupNode node with
  | true => rw [ofNode?_of_group h, Option.map_eq_none_iff, eq_self, true_and]
  | false =>
    rw [ofNode?_of_comparison h]
    exact iff_of_false nofun nofun

theorem exists_group_of_ofNode? {g : Group} (h : ofNode? levels node = some g.toCondition) :
    isGroupNode node = true ∧ Group.ofJsonWithin? levels node = some g := by
  cases hnode : isGroupNode node with
  | true =>
    rw [ofNode?_of_group hnode] at h
    obtain ⟨⟨operator, conditions⟩, hread, heq⟩ := Option.map_eq_some_iff.mp h
    cases heq
    exact ⟨rfl, hread⟩
  | false =>
    rw [ofNode?_of_comparison hnode] at h
    cases h

end Condition

namespace Group

variable {levels : Nat} {v : Json} {g : Group}

theorem ofJsonWithin?_succ (levels : Nat) (v : Json) :
    ofJsonWithin? (levels + 1) v =
      ((v.getItems "conditions").mapM (Condition.ofNode? levels)).map
        (Group.mk (.ofJson (v.get? "operator"))) := by
  rw [ofJsonWithin?, Option.map_eq_bind]
  rfl

theorem ofJsonWithin?_succ_eq_some_iff :
    ofJsonWithin? (levels + 1) v = some g ↔
      g.operator = .ofJson (v.get? "operator") ∧
      List.Forall₂ (fun node c => Condition.ofNode? levels node = some c)
        (v.getItems "conditions") g.conditions := by
  rw [ofJsonWithin?_succ, Option.map_eq_some_iff]
  simp only [mapM_eq_some_iff]
  constructor
  · rintro ⟨conditions, hconditions, rfl⟩
    exact ⟨rfl, hconditions⟩
  · rintro ⟨hoperator, hconditions⟩
    exact ⟨g.conditions, hconditions, by rw [← hoperator]⟩

/-- Groups of a document that lie within each other, the document itself being the first. Whatever
it is, it counts as a group, as it is read as one. -/
inductive Chain : Nat → Json → Prop
  | root (v : Json) : Chain 1 v
  | inner {count : Nat} {v node : Json} (item : node ∈ v.getItems "conditions")
      (isGroup : Condition.isGroupNode node = true) (chain : Chain count node) :
      Chain (count + 1) v

/-- More groups lie within each other than the given number. -/
def NestsDeeper (levels : Nat) (v : Json) : Prop :=
  ∃ count, levels < count ∧ Chain count v

theorem nestsDeeper_zero (v : Json) : NestsDeeper 0 v := ⟨1, Nat.one_pos, .root v⟩

theorem nestsDeeper_succ_iff :
    NestsDeeper (levels + 1) v ↔ ∃ node ∈ v.getItems "conditions",
      Condition.isGroupNode node = true ∧ NestsDeeper levels node := by
  constructor
  · rintro ⟨count, hlt, hchain⟩
    cases hchain with
    | root => exact absurd hlt (by omega)
    | inner item isGroup chain => exact ⟨_, item, isGroup, _, Nat.lt_of_succ_lt_succ hlt, chain⟩
  · rintro ⟨node, item, isGroup, count, hlt, hchain⟩
    exact ⟨count + 1, Nat.succ_lt_succ hlt, .inner item isGroup hchain⟩

/-- Reading fails exactly if groups nest deeper than they may. -/
theorem ofJsonWithin?_eq_none_iff : ofJsonWithin? levels v = none ↔ NestsDeeper levels v := by
  induction levels generalizing v with
  | zero => exact iff_of_true rfl (nestsDeeper_zero v)
  | succ levels ih =>
    rw [ofJsonWithin?_succ, Option.map_eq_none_iff, mapM_eq_none_iff, nestsDeeper_succ_iff]
    simp only [Condition.ofNode?_eq_none_iff, ih]

theorem ofJson?_eq_none_iff : ofJson? v = none ↔ NestsDeeper maxLevels v :=
  ofJsonWithin?_eq_none_iff

end Group

end Questionnaire
