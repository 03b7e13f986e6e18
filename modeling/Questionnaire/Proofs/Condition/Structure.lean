import Questionnaire.Condition.Basic

namespace Questionnaire

namespace Condition

/-- What passes from the conditions of a group to the group holds of every condition. -/
@[elab_as_elim, induction_eliminator]
theorem induction {motive : Condition → Prop}
    (comparison : ∀ c, motive (.comparison c))
    (group : ∀ operator conditions, (∀ c ∈ conditions, motive c) →
      motive (.group operator conditions))
    (c : Condition) : motive c := by
  refine Condition.rec (motive_2 := fun cs => ∀ c ∈ cs, motive c) comparison group ?_ ?_ c
  · intro c h
    cases h
  · intro c rest hc hrest c' h
    rcases List.mem_cons.mp h with rfl | h
    · exact hc
    · exact hrest c' h

/-- The condition at the end of a path: each step is a position among the conditions of a
group. -/
def at? : Condition → List Nat → Option Condition
  | c, [] => some c
  | .comparison _, _ :: _ => none
  | .group _ conditions, i :: path => conditions[i]?.bind fun c => at? c path

theorem at?_nil (c : Condition) : c.at? [] = some c := by
  unfold at?
  rfl

variable {c' : Condition} {path : List Nat}

theorem at?_comparison_eq_some_iff {c : Comparison} :
    (comparison c).at? path = some c' ↔ path = [] ∧ comparison c = c' := by
  cases path with
  | nil => rw [at?_nil, Option.some.injEq, eq_self, true_and]
  | cons i path => exact iff_of_false nofun (fun h => nomatch h.1)

theorem at?_cons_eq_some_iff {operator : Operator} {cs : List Condition} {i : Nat} :
    (group operator cs).at? (i :: path) = some c' ↔ ∃ c, cs[i]? = some c ∧ c.at? path = some c' :=
  Option.bind_eq_some_iff

end Condition

/-- The group `h` lies in `g` at the end of a path, as deep as the path is long. -/
def Group.SubgroupAt (g : Group) (path : List Nat) (h : Group) : Prop :=
  g.toCondition.at? path = some h.toCondition

end Questionnaire
