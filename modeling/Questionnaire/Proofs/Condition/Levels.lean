import Questionnaire.Proofs.Condition.Reading
import Questionnaire.Proofs.Condition.Truth

namespace Questionnaire

namespace Condition

mutual

/-- The levels of groups in a condition. -/
def levels : Condition → Nat
  | .comparison _ => 0
  | .group _ conditions => levelsOf conditions + 1

def levelsOf : List Condition → Nat
  | [] => 0
  | c :: rest => max (levels c) (levelsOf rest)

end

theorem levelsOf_le_iff {cs : List Condition} {n : Nat} :
    levelsOf cs ≤ n ↔ ∀ c ∈ cs, c.levels ≤ n := by
  induction cs with
  | nil => exact iff_of_true (Nat.zero_le n) nofun
  | cons c rest ih => rw [levelsOf, Nat.max_le, ih, List.forall_mem_cons]

theorem length_add_levels_le {c c' : Condition} {path : List Nat} (h : c.at? path = some c') :
    path.length + c'.levels ≤ c.levels := by
  induction path generalizing c with
  | nil =>
    rw [at?_nil] at h
    cases h
    exact Nat.le_of_eq (Nat.zero_add _)
  | cons i path ih =>
    cases c with
    | comparison c => cases h
    | group operator conditions =>
      obtain ⟨inner, hi, hpath⟩ := Option.bind_eq_some_iff.mp h
      have hinner := levelsOf_le_iff.mp (Nat.le_refl _) inner (List.mem_of_getElem? hi)
      have hrest := ih hpath
      rw [List.length_cons, levels]
      omega

/-- A result is kept, unless it says that groups nest too deep. -/
def Keeps (r r' : Except VisibilityError Bool) : Prop :=
  (∃ limit, r = .error (.tooDeep limit)) ∨ r' = r

theorem Keeps.map {r r' : Except VisibilityError Bool} (h : Keeps r r') (f : Bool → Bool) :
    Keeps (r.map f) (r'.map f) := by
  rcases h with ⟨limit, rfl⟩ | rfl
  · exact .inl ⟨limit, rfl⟩
  · exact .inr rfl

variable {f f' : Condition → Except VisibilityError Bool} {cs : List Condition}

/-- A search that is not stopped by the limit goes the same way as before. -/
theorem search_keeps (deciding : Bool) (h : ∀ c ∈ cs, Keeps (f c) (f' c)) :
    Keeps (search deciding (cs.map f)) (search deciding (cs.map f')) := by
  induction cs with
  | nil => exact .inr rfl
  | cons c rest ih =>
    obtain ⟨hc, hrest⟩ := List.forall_mem_cons.mp h
    rw [List.map_cons, List.map_cons]
    rcases hc with ⟨limit, he⟩ | heq
    · rw [he]
      exact .inl ⟨limit, rfl⟩
    · rw [heq]
      cases f c with
      | error e => exact .inr rfl
      | ok b =>
        simp only [search]
        split
        · exact .inr rfl
        · exact ih hrest

theorem settle_keeps (operator : Operator) (h : ∀ c ∈ cs, Keeps (f c) (f' c)) :
    Keeps (operator.settle (cs.map f)) (operator.settle (cs.map f')) := by
  cases operator with
  | and => exact search_keeps false h
  | or => exact search_keeps true h
  | not => exact (search_keeps false h).map _
  | other token => exact .inr rfl

theorem evaluate_keeps {limit limit' : Nat} (hle : limit ≤ limit') (d : Context) (c : Condition)
    (depth : Nat) : Keeps (c.evaluate limit d depth) (c.evaluate limit' d depth) := by
  induction c generalizing depth with
  | comparison c =>
    rw [evaluate, evaluate]
    exact .inr rfl
  | group operator conditions ih =>
    rw [evaluate_group, evaluate_group]
    by_cases hdepth : limit < depth
    · rw [if_pos hdepth]
      exact .inl ⟨limit, rfl⟩
    · rw [if_neg hdepth, if_neg (by omega : ¬ limit' < depth)]
      split
      · exact .inr rfl
      · apply settle_keeps
        intro c hc
        exact ih c hc (depth + 1)

end Condition

namespace Group

/-- The levels of groups in a group, itself included. -/
def levels (g : Group) : Nat :=
  g.toCondition.levels

theorem SubgroupAt.length_lt_levels {g h : Group} {path : List Nat} (hat : g.SubgroupAt path h) :
    path.length < g.levels := by
  have hle : path.length + h.toCondition.levels ≤ g.levels := Condition.length_add_levels_le hat
  rw [toCondition, Condition.levels] at hle
  omega

/-- Evaluation that finds a group too deep names its own limit, which the levels of the root
exceed. -/
theorem levels_of_tooDeep {limit n : Nat} {g : Group} {d : Context}
    (h : g.evaluate limit d = .error (.tooDeep n)) : n = limit ∧ limit + 1 < g.levels := by
  obtain ⟨path, inner, hat, hcause⟩ := refused_of_evaluate h
  rcases hcause with ⟨hlimit, he⟩ | ⟨-, token, -, he⟩
  · cases he
    exact ⟨rfl, Nat.lt_of_le_of_lt hlimit hat.length_lt_levels⟩
  · cases he

theorem levels_le_of_ofJsonWithin? {levels : Nat} {v : Json} {g : Group}
    (h : ofJsonWithin? levels v = some g) : g.levels ≤ levels := by
  induction levels generalizing v g with
  | zero => cases h
  | succ levels ih =>
    obtain ⟨-, hconditions⟩ := ofJsonWithin?_succ_eq_some_iff.mp h
    rw [Group.levels, toCondition, Condition.levels]
    apply Nat.succ_le_succ
    rw [Condition.levelsOf_le_iff]
    intro c hc
    obtain ⟨node, -, hnode⟩ := exists_mem_of_forall₂ hconditions hc
    cases c with
    | comparison c =>
      rw [Condition.levels]
      exact Nat.zero_le levels
    | group operator conditions =>
      exact ih (g := ⟨operator, conditions⟩) (Condition.exists_group_of_ofNode? hnode).2

/-- A larger limit changes no result but that groups nest too deep. That result gives the limit and
comes only for a group with more levels than the limit and the root, so never for a group that was
read if the limit is 127 or more. -/
theorem evaluate_under_limits (g : Group) (d : Context) (limit : Nat) :
    (∀ limit', limit ≤ limit' → (∀ n, g.evaluate limit d ≠ .error (.tooDeep n)) →
      g.evaluate limit' d = g.evaluate limit d) ∧
    (∀ n, g.evaluate limit d = .error (.tooDeep n) → n = limit ∧ ¬ g.levels ≤ limit + 1) ∧
    (∀ v, ofJson? v = some g → 127 ≤ limit → ∀ n, g.evaluate limit d ≠ .error (.tooDeep n)) := by
  refine ⟨?_, ?_, ?_⟩
  · intro limit' hle hwithin
    rcases Condition.evaluate_keeps hle d g.toCondition 0 with ⟨n, hn⟩ | heq
    · exact absurd hn (hwithin n)
    · exact heq
  · intro n hn
    obtain ⟨heq, hlevels⟩ := levels_of_tooDeep hn
    exact ⟨heq, Nat.not_le_of_lt hlevels⟩
  · intro v hread hlimit n hn
    have hlevels : g.levels ≤ 128 := levels_le_of_ofJsonWithin? hread
    have hexceeds := (levels_of_tooDeep hn).2
    omega

/-- Three levels, with an operator in the last that is refused. -/
def threeLevels : Json :=
  .object [("operator", .string "NOT"), ("conditions", .array [
    .object [("field", .string "a"), ("isNull", .null)],
    .object [("operator", .string "AND"), ("conditions", .array [
      .object [("operator", .string "XOR"), ("conditions", .array [.null])]])]])]

theorem evaluate_under_limits_threeLevels : ∃ g, ofJson? threeLevels = some g ∧
    (g.evaluate 2 .empty = .error (.unsupportedOperator "XOR") ∧
      g.evaluate 5 .empty = g.evaluate 2 .empty) ∧
    (g.evaluate 1 .empty = .error (.tooDeep 1) ∧ ¬ g.levels ≤ 2) ∧
    ∀ n, g.evaluate 127 .empty ≠ .error (.tooDeep n) := by
  refine ⟨_, rfl, ⟨rfl, ?_⟩, ⟨rfl, ?_⟩, ?_⟩
  · exact (evaluate_under_limits _ .empty 2).1 5 (by decide) nofun
  · exact ((evaluate_under_limits _ .empty 1).2.1 1 rfl).2
  · exact (evaluate_under_limits _ .empty 127).2.2 threeLevels rfl (by decide)

end Group

end Questionnaire
