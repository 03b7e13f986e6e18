import Questionnaire.Proofs.Condition.Search
import Questionnaire.Proofs.Condition.Structure

namespace Questionnaire

/-- What a group makes of the truths of its conditions; without conditions it holds. -/
def Operator.combine (operator : Operator) (truths : List Bool) : Bool :=
  truths.isEmpty ||
    match operator with
    | .and => truths.all id
    | .or => truths.any id
    | .not => !truths.all id
    | .other _ => false

/-- A group is refused below more groups than the limit, or if it has conditions and no known way
to combine them. -/
def Group.Refused (limit depth : Nat) (g : Group) : Prop :=
  limit < depth ∨ g.conditions ≠ [] ∧ g.operator.isKnown = false

instance (limit depth : Nat) (g : Group) : Decidable (g.Refused limit depth) :=
  inferInstanceAs (Decidable (_ ∨ ¬ _ = [] ∧ _ = _))

namespace Condition

mutual

/-- The truth of a condition below `depth` groups. A refused group has the truth that is assigned
to its place. -/
def truth (limit : Nat) (d : Context) (depth : Nat) (assigned : List Nat → Bool) :
    Condition → Bool
  | .comparison c => c.holds d
  | .group operator conditions =>
    if (Group.mk operator conditions).Refused limit depth then assigned []
    else operator.combine (truths limit d (depth + 1) assigned 0 conditions)

/-- The truths of conditions in a row, the first at the given position. -/
def truths (limit : Nat) (d : Context) (depth : Nat) (assigned : List Nat → Bool)
    (position : Nat) : List Condition → List Bool
  | [] => []
  | c :: rest =>
    truth limit d depth (fun path => assigned (position :: path)) c ::
      truths limit d depth assigned (position + 1) rest

end

variable {limit depth : Nat} {d : Context}

/-- The search of a group stops at a deciding truth if, and only if, there is one. -/
theorem mem_truths_of_search {deciding b : Bool} {cs : List Condition}
    (ih : ∀ c ∈ cs, ∀ t, c.evaluate limit d depth = .ok t →
      ∀ assigned, c.truth limit d depth assigned = t)
    (h : search deciding (cs.map (evaluate limit d depth)) = .ok b)
    (assigned : List Nat → Bool) (position : Nat) :
    deciding ∈ truths limit d depth assigned position cs ↔ b = deciding := by
  induction cs generalizing position with
  | nil =>
    cases h
    simp [truths]
  | cons c rest ihr =>
    cases hc : c.evaluate limit d depth with
    | error e =>
      rw [List.map_cons, hc] at h
      cases h
    | ok t =>
      rw [List.map_cons, hc, search] at h
      rw [truths, List.mem_cons, ih c List.mem_cons_self t hc]
      split at h
      · rename_i ht
        cases h
        simp only [ht, true_or]
      · rename_i ht
        have hr := ihr (fun c hm => ih c (List.mem_cons_of_mem _ hm)) h (position + 1)
        rw [hr, or_iff_right (Ne.symm ht)]

theorem all_id_eq {truths : List Bool} {b : Bool} (h : false ∈ truths ↔ b = false) :
    truths.all id = b := by
  rw [Bool.eq_iff_iff, List.all_eq_true]
  cases b with
  | true =>
    have hm : false ∉ truths := fun hm => Bool.noConfusion (h.mp hm)
    refine iff_of_true (fun t ht => ?_) rfl
    cases t with
    | true => rfl
    | false => exact absurd ht hm
  | false => exact iff_of_false (fun ha => Bool.noConfusion (ha false (h.mpr rfl))) nofun

theorem any_id_eq {truths : List Bool} {b : Bool} (h : true ∈ truths ↔ b = true) :
    truths.any id = b := by
  rw [Bool.eq_iff_iff, List.any_eq_true, ← h]
  exact ⟨fun ⟨t, ht, he⟩ => by rwa [← show t = true from he], fun ht => ⟨true, ht, rfl⟩⟩

theorem combine_of_settle {operator : Operator} {cs : List Condition} {b : Bool}
    (ih : ∀ c ∈ cs, ∀ t, c.evaluate limit d depth = .ok t →
      ∀ assigned, c.truth limit d depth assigned = t)
    (hcs : cs ≠ []) (h : operator.settle (cs.map (evaluate limit d depth)) = .ok b)
    (assigned : List Nat → Bool) :
    operator.combine (truths limit d depth assigned 0 cs) = b := by
  have hne : (truths limit d depth assigned 0 cs).isEmpty = false := by
    cases cs with
    | nil => exact absurd rfl hcs
    | cons => rfl
  unfold Operator.combine
  rw [hne, Bool.false_or]
  cases operator with
  | and => exact all_id_eq (mem_truths_of_search ih h assigned 0)
  | or => exact any_id_eq (mem_truths_of_search ih h assigned 0)
  | not =>
    simp only [Operator.settle] at h
    cases hs : search false (cs.map (evaluate limit d depth)) with
    | error e =>
      rw [hs] at h
      cases h
    | ok t =>
      rw [hs] at h
      cases h
      exact congrArg not (all_id_eq (mem_truths_of_search ih hs assigned 0))
  | other token => cases h

theorem truth_of_evaluate {c : Condition} {b : Bool} (h : c.evaluate limit d depth = .ok b)
    (assigned : List Nat → Bool) : c.truth limit d depth assigned = b := by
  induction c generalizing depth b assigned with
  | comparison c =>
    cases h
    rfl
  | group operator conditions ih =>
    rw [evaluate_group] at h
    rw [truth]
    split at h
    · cases h
    · rename_i hdepth
      split at h
      · rename_i hempty
        cases h
        subst hempty
        simp [Group.Refused, hdepth, Operator.combine, truths]
      · rename_i hne
        cases operator with
        | other token => cases h
        | and | or | not =>
          -- evaluation went past the limit and the operator, so the group is not refused
          rw [if_neg (by simp [Group.Refused, hdepth, Operator.isKnown])]
          exact combine_of_settle (fun c hc t ht => ih c hc ht) hne h assigned

theorem at?_cons {operator : Operator} {cs : List Condition} {c : Condition} {i : Nat}
    (hi : cs[i]? = some c) (path : List Nat) :
    (group operator cs).at? (i :: path) = c.at? path := by
  simp only [at?, hi, Option.bind_some]

theorem refused_of_evaluate {c : Condition} {e : VisibilityError}
    (h : c.evaluate limit d depth = .error e) :
    ∃ path g, c.at? path = some (Group.toCondition g) ∧
      (limit < depth + path.length ∧ e = .tooDeep limit ∨
        g.conditions ≠ [] ∧ ∃ token, g.operator = .other token ∧ e = .unsupportedOperator token) := by
  induction c generalizing depth with
  | comparison c => cases h
  | group operator conditions ih =>
    rw [evaluate_group] at h
    split at h
    · rename_i hdepth
      cases h
      exact ⟨[], ⟨operator, conditions⟩, at?_nil _, .inl ⟨hdepth, rfl⟩⟩
    · split at h
      · cases h
      · rename_i hne
        rcases Operator.settle_eq_error h with hm | ⟨token, htoken, he⟩
        · obtain ⟨c, hc, he⟩ := List.mem_map.mp hm
          obtain ⟨i, hi⟩ := List.mem_iff_getElem?.mp hc
          obtain ⟨path, g, hg, hcause⟩ := ih c hc he
          refine ⟨i :: path, g, (at?_cons hi path).trans hg, ?_⟩
          -- a step more on the path stands for a group more around the condition
          rwa [List.length_cons, ← Nat.add_assoc, Nat.add_right_comm]
        · exact ⟨[], ⟨operator, conditions⟩, at?_nil _, .inr ⟨hne, token, htoken, he⟩⟩

end Condition

namespace Group

/-- The truth of a group at the root. -/
def truth (limit : Nat) (d : Context) (assigned : List Nat → Bool) (g : Group) : Bool :=
  g.toCondition.truth limit d 0 assigned

theorem refused_of_evaluate {limit : Nat} {g : Group} {d : Context} {e : VisibilityError}
    (h : g.evaluate limit d = .error e) :
    ∃ path h, g.SubgroupAt path h ∧
      (limit < path.length ∧ e = .tooDeep limit ∨
        h.conditions ≠ [] ∧ ∃ token, h.operator = .other token ∧
          e = .unsupportedOperator token) := by
  obtain ⟨path, h, hpath, hcause⟩ := Condition.refused_of_evaluate h
  rw [Nat.zero_add] at hcause
  exact ⟨path, h, hpath, hcause⟩

/-- Stopping early is sound: a result is the truth of the whole tree whatever the refused groups
in it stand for, there is a result if no group is refused, and an error is about a group that
is. -/
theorem evaluate_agrees_with_truth (limit : Nat) (g : Group) (d : Context) :
    (∀ b, g.evaluate limit d = .ok b → ∀ assigned, g.truth limit d assigned = b) ∧
    ((∀ path h, g.SubgroupAt path h → ¬ h.Refused limit path.length) →
      ∃ b, g.evaluate limit d = .ok b) ∧
    (∀ e, g.evaluate limit d = .error e → ∃ path h, g.SubgroupAt path h ∧
      (limit < path.length ∧ e = .tooDeep limit ∨
        h.conditions ≠ [] ∧ ∃ token, h.operator = .other token ∧
          e = .unsupportedOperator token)) := by
  refine ⟨fun b hb => Condition.truth_of_evaluate hb, fun hnone => ?_,
    fun e he => refused_of_evaluate he⟩
  cases hg : g.evaluate limit d with
  | ok b => exact ⟨b, rfl⟩
  | error e =>
    obtain ⟨path, h, hpath, hdeep | ⟨hne, token, htoken, -⟩⟩ := refused_of_evaluate hg
    · exact absurd (.inl hdeep.1) (hnone path h hpath)
    · exact absurd (.inr ⟨hne, by rw [htoken]; rfl⟩) (hnone path h hpath)

/-- A test of a field that is missing, before a group with an unknown operator and one that lies
too deep for the limit 1. -/
def beforeRefused (test : FieldTest) : Group :=
  ⟨.or, [.comparison ⟨some "a", some test⟩,
    .group (.other "XOR") [.comparison ⟨some "a", some .isNull⟩],
    .group .and [.group .not []]]⟩

theorem evaluate_beforeRefused :
    ((beforeRefused .isNull).evaluate 1 .empty = .ok true ∧
      ∀ assigned, (beforeRefused .isNull).truth 1 .empty assigned = true) ∧
    ((∀ path h, (Group.mk .not [.group .and []]).SubgroupAt path h → ¬ h.Refused 1 path.length) ∧
      ∃ b, (Group.mk .not [.group .and []]).evaluate 1 .empty = .ok b) ∧
    ((beforeRefused .isNotNull).evaluate 1 .empty = .error (.unsupportedOperator "XOR") ∧
      ∃ path h, (beforeRefused .isNotNull).SubgroupAt path h ∧
        (1 < path.length ∧ VisibilityError.unsupportedOperator "XOR" = .tooDeep 1 ∨
          h.conditions ≠ [] ∧ ∃ token, h.operator = .other token ∧
            VisibilityError.unsupportedOperator "XOR" = .unsupportedOperator token)) := by
  have hnone : ∀ path h, (Group.mk .not [.group .and []]).SubgroupAt path h →
      ¬ h.Refused 1 path.length := by
    rintro path ⟨operator, conditions⟩ hpath
    match path with
    | [] =>
      cases hpath
      decide
    | [0] =>
      cases hpath
      decide
    | 0 :: _ :: _ => cases hpath
    | (_ + 1) :: _ => cases hpath
  exact ⟨⟨rfl, (evaluate_agrees_with_truth 1 _ .empty).1 true rfl⟩,
    ⟨hnone, (evaluate_agrees_with_truth 1 _ .empty).2.1 hnone⟩,
    ⟨rfl, (evaluate_agrees_with_truth 1 _ .empty).2.2 _ rfl⟩⟩

end Group

end Questionnaire
