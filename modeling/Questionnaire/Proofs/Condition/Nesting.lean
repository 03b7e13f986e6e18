import Questionnaire.Proofs.Condition.Reading
import Questionnaire.Proofs.Json.Members

namespace Questionnaire

namespace Condition

/-- A node counts as a group if it is an object with both members of one, also if these are null. -/
theorem isGroupNode_iff {node : Json} :
    isGroupNode node = true ↔ ∃ members, node = .object members ∧
      "operator" ∈ members.map (·.1) ∧ "conditions" ∈ members.map (·.1) := by
  rw [isGroupNode, Bool.and_eq_true, Json.hasMember_iff, Json.hasMember_iff]
  constructor
  · rintro ⟨⟨members, rfl, hoperator⟩, members', heq, hconditions⟩
    cases heq
    exact ⟨members, rfl, hoperator, hconditions⟩
  · rintro ⟨members, rfl, hoperator, hconditions⟩
    exact ⟨⟨members, rfl, hoperator⟩, members, rfl, hconditions⟩

/-- What a condition holds of its node: a group has one condition for each item, in order, and all
that is no group is a comparison. -/
inductive Reads : Json → Condition → Prop
  | comparison {node : Json} (other : isGroupNode node = false) :
      Reads node (.comparison (.ofJson node))
  | group {node : Json} {conditions : List Condition} (isGroup : isGroupNode node = true)
      (items : List.Forall₂ Reads (node.getItems "conditions") conditions) :
      Reads node (.group (.ofJson (node.get? "operator")) conditions)

end Condition

namespace Group

/-- What a group holds of its document, which is read as a group whatever it is. -/
structure Reads (v : Json) (g : Group) : Prop where
  operator : g.operator = .ofJson (v.get? "operator")
  conditions : List.Forall₂ Condition.Reads (v.getItems "conditions") g.conditions

variable {levels : Nat} {v node : Json} {g : Group}

theorem reads_toCondition_iff (h : Condition.isGroupNode node = true) :
    Condition.Reads node g.toCondition ↔ Reads node g := by
  obtain ⟨operator, conditions⟩ := g
  constructor
  · intro hreads
    cases hreads with
    | group _ hconditions => exact ⟨rfl, hconditions⟩
  · rintro ⟨hoperator, hconditions⟩
    cases hoperator
    exact .group h hconditions

theorem ofNode?_eq_some_iff {c : Condition}
    (ih : ∀ g, ofJsonWithin? levels node = some g ↔ ¬ NestsDeeper levels node ∧ Reads node g) :
    Condition.ofNode? levels node = some c ↔
      ¬ (Condition.isGroupNode node = true ∧ NestsDeeper levels node) ∧
        Condition.Reads node c := by
  cases h : Condition.isGroupNode node with
  | true =>
    rw [Condition.ofNode?_of_group h, Option.map_eq_some_iff, eq_self, true_and]
    constructor
    · rintro ⟨g, hread, rfl⟩
      obtain ⟨hnests, hreads⟩ := (ih g).mp hread
      exact ⟨hnests, (reads_toCondition_iff h).mpr hreads⟩
    · rintro ⟨hnests, hreads⟩
      cases hreads with
      | comparison hother => cases hother.symm.trans h
      | @group _ conditions hgroup hconditions =>
        exact ⟨⟨_, conditions⟩, (ih _).mpr ⟨hnests, rfl, hconditions⟩, rfl⟩
  | false =>
    rw [Condition.ofNode?_of_comparison h, Option.some.injEq]
    constructor
    · rintro rfl
      exact ⟨nofun, .comparison h⟩
    · rintro ⟨-, hreads⟩
      cases hreads with
      | comparison => rfl
      | group hgroup => cases h.symm.trans hgroup

theorem ofJsonWithin?_eq_some_iff :
    ofJsonWithin? levels v = some g ↔ ¬ NestsDeeper levels v ∧ Reads v g := by
  induction levels generalizing v g with
  | zero => exact iff_of_false nofun fun h => h.1 (nestsDeeper_zero v)
  | succ levels ih =>
    -- each node answers for itself: none may be a group that nests deeper than is left
    have hnodes : List.Forall₂ (fun node c => Condition.ofNode? levels node = some c)
          (v.getItems "conditions") g.conditions ↔
        (∀ node ∈ v.getItems "conditions",
          ¬ (Condition.isGroupNode node = true ∧ NestsDeeper levels node)) ∧
        List.Forall₂ Condition.Reads (v.getItems "conditions") g.conditions := by
      simp only [ofNode?_eq_some_iff fun _ => ih]
      exact List.forall₂_and_left _ _
    rw [ofJsonWithin?_succ_eq_some_iff, hnodes, nestsDeeper_succ_iff]
    simp only [not_exists, not_and]
    constructor
    · rintro ⟨hoperator, hnests, hconditions⟩
      exact ⟨hnests, hoperator, hconditions⟩
    · rintro ⟨hnests, hoperator, hconditions⟩
      exact ⟨hoperator, hnests, hconditions⟩

/-- Reading fails exactly if more than 128 groups lie within each other, the document being the first
of them and a node counting as one if it is an object with both members. A document without such a
chain is read as what it holds: one condition for each node, in order, groups for groups and
comparisons for all others. -/
theorem ofJson?_nesting (v : Json) :
    (ofJson? v = none ↔ ∃ count, 128 < count ∧ Chain count v) ∧
    (∀ node, Condition.isGroupNode node = true ↔ ∃ members, node = .object members ∧
      "operator" ∈ members.map (·.1) ∧ "conditions" ∈ members.map (·.1)) ∧
    ∀ g, ofJson? v = some g ↔ (∀ count, Chain count v → count ≤ 128) ∧ Reads v g := by
  refine ⟨ofJson?_eq_none_iff, fun _ => Condition.isGroupNode_iff, fun g => ?_⟩
  have hnests : ¬ NestsDeeper 128 v ↔ ∀ count, Chain count v → count ≤ 128 := by
    rw [NestsDeeper, not_exists]
    exact forall_congr' fun count => by rw [not_and', Nat.not_lt]
  rw [ofJson?, maxLevels, ofJsonWithin?_eq_some_iff, hnests]

/-- Groups without an operator around a node that is none, each after a node that is none either. -/
def nested : Nat → Json
  | 0 => .bool true
  | count + 1 => .object [("operator", .null), ("conditions", .array [.null, nested count])]

theorem chain_nested (count : Nat) : Chain (count + 1) (nested (count + 1)) := by
  induction count with
  | zero => exact .root _
  | succ count ih => exact .inner (List.mem_cons_of_mem _ List.mem_cons_self) rfl ih

theorem le_of_chain_nested {count n : Nat} (h : Chain count (nested (n + 1))) :
    count ≤ n + 1 := by
  induction n generalizing count with
  | zero =>
    cases h with
    | root => exact Nat.le_refl 1
    | inner item isGroup chain =>
      have hitems : _ ∈ [Json.null, .bool true] := item
      rcases List.mem_pair.mp hitems with rfl | rfl <;> cases isGroup
  | succ n ih =>
    cases h with
    | root => exact Nat.succ_le_succ (Nat.zero_le _)
    | inner item isGroup chain =>
      have hitems : _ ∈ [Json.null, nested (n + 1)] := item
      rcases List.mem_pair.mp hitems with rfl | rfl
      · cases isGroup
      · exact Nat.succ_le_succ (ih chain)

theorem ofJson?_nesting_nested :
    ofJson? (nested 129) = none ∧
      ∃ g, ofJson? (nested 128) = some g ∧ Reads (nested 128) g := by
  obtain ⟨hnone, -, hsome⟩ := ofJson?_nesting (nested 128)
  refine ⟨(ofJson?_nesting _).1.mpr ⟨129, by decide, chain_nested 128⟩, ?_⟩
  have hread : ofJson? (nested 128) ≠ none := by
    intro h
    obtain ⟨count, hcount, hchain⟩ := hnone.mp h
    exact absurd (le_of_chain_nested hchain) (Nat.not_le_of_lt hcount)
  obtain ⟨g, hg⟩ := Option.ne_none_iff_exists'.mp hread
  exact ⟨g, hg, ((hsome g).mp hg).2⟩

end Group

end Questionnaire
