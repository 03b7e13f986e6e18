import Questionnaire.Proofs.Condition.Reading
import Questionnaire.Proofs.Condition.Search
import Questionnaire.Proofs.Value.Document

namespace Questionnaire

namespace FieldTest

/-- The tests hold of the same values. -/
def Alike (t t' : FieldTest) : Prop := ∀ v : Value, t.holds v = t'.holds v

/-- Entries of the list of tests that read operands of one value alike, under the same member. -/
def ReadsAlike (e e' : String × (Json → FieldTest)) : Prop :=
  e.1 = e'.1 ∧ ∀ w w', Value.ofJson w = Value.ofJson w' → (e.2 w).Alike (e'.2 w')

variable {node : Json.Document} {node' : Json}

theorem forall₂_readers (h : node.json.Reordered node') :
    List.Forall₂ ReadsAlike (readers node.json) (readers node') := by
  -- the operand that is not the member of its test
  have hlacked : Value.ofJson ((node.json.get? "contains").getD .null) =
      Value.ofJson ((node'.get? "contains").getD .null) := by
    rw [← Option.getD_map Value.ofJson, ← Option.getD_map Value.ofJson, Value.ofJson_get? h]
  unfold readers
  repeat' first
    | exact List.Forall₂.nil
    | apply List.Forall₂.cons
  all_goals
    refine ⟨rfl, ?_⟩
    intro w w' hw v
    simp only [holds, hw, hlacked]

theorem ofJson?_alike (h : node.json.Reordered node') :
    Option.Rel Alike (ofJson? node.json) (ofJson? node') := by
  have hreaders := forall₂_readers h
  rw [ofJson?, ofJson?]
  generalize readers node.json = entries at *
  generalize readers node' = entries' at *
  induction hreaders with
  | nil => exact .none
  | @cons e e' rest rest' he _ ih =>
    obtain ⟨key, read⟩ := e
    obtain ⟨key', read'⟩ := e'
    obtain ⟨hkey, hread⟩ := he
    cases hkey
    have hget := Value.ofJson_get? h key
    simp only [List.findSome?_cons]
    generalize node.json.get? key = x at *
    generalize node'.get? key = x' at *
    cases x with
    | none =>
      cases x' with
      | none => exact ih
      | some w' => cases hget
    | some w =>
      cases x' with
      | none => cases hget
      | some w' => exact .some (hread w w' (Option.some.inj hget))

end FieldTest

theorem Comparison.holds_ofJson {node : Json.Document} {node' : Json}
    (h : node.json.Reordered node') (d : Context) :
    (Comparison.ofJson node.json).holds d = (Comparison.ofJson node').holds d := by
  have htest := FieldTest.ofJson?_alike h
  simp only [Comparison.holds, Comparison.ofJson, h.getString? "field"]
  generalize FieldTest.ofJson? node.json = t at *
  generalize FieldTest.ofJson? node' = t' at *
  cases node'.getString? "field" with
  | none => rfl
  | some field =>
    cases htest with
    | none => rfl
    | some halike => exact halike (d.resolve field)

namespace Condition

/-- The conditions evaluate to the same truth or the same error, wherever they stand. -/
def Alike (c c' : Condition) : Prop :=
  ∀ (limit : Nat) (d : Context) (depth : Nat), c.evaluate limit d depth = c'.evaluate limit d depth

theorem Alike.group {operator : Operator} {cs cs' : List Condition}
    (h : List.Forall₂ Alike cs cs') : (group operator cs).Alike (group operator cs') := by
  intro limit d depth
  have hresults : cs.map (evaluate limit d (depth + 1)) = cs'.map (evaluate limit d (depth + 1)) := by
    rw [← List.forall₂_eq_eq_eq, List.forall₂_map_left_iff, List.forall₂_map_right_iff]
    exact h.imp fun c c' halike => halike limit d (depth + 1)
  have hnil : cs = [] ↔ cs' = [] := by
    rw [← List.length_eq_zero_iff, ← List.length_eq_zero_iff, h.length_eq]
  rw [evaluate_group, evaluate_group, hresults]
  simp only [hnil]

theorem isGroupNode_of_reordered {node node' : Json} (h : node.Reordered node') :
    isGroupNode node = isGroupNode node' := by
  rw [isGroupNode, isGroupNode, h.hasMember, h.hasMember]

end Condition

namespace Group

/-- The documents that are read as groups when the second document is: itself, and the groups among
the conditions of each. -/
inductive IsGroupOf : Json → Json → Prop
  | root (v : Json) : IsGroupOf v v
  | inner {g node v : Json} (item : node ∈ v.getItems "conditions")
      (isGroup : Condition.isGroupNode node = true) (within : IsGroupOf g node) : IsGroupOf g v

/-- No group has an operator that is an array or an object. -/
def PlainOperators (v : Json) : Prop :=
  ∀ g, IsGroupOf g v → ∀ operator, g.get? "operator" = some operator → operator.IsPlain

variable {v w : Json}

theorem plainOperators_iff :
    PlainOperators v ↔
      (∀ operator, v.get? "operator" = some operator → operator.IsPlain) ∧
        ∀ node ∈ v.getItems "conditions", Condition.isGroupNode node = true →
          PlainOperators node := by
  constructor
  · intro h
    constructor
    · exact h v (.root v)
    · intro node hnode hgroup g hg
      exact h g (.inner hnode hgroup hg)
  · rintro ⟨hown, hnodes⟩ g hg
    cases hg with
    | root => exact hown
    | inner item isGroup within => exact hnodes _ item isGroup g within

theorem operator_of_reordered (h : v.Reordered w) (hplain : PlainOperators v) :
    Operator.ofJson (v.get? "operator") = Operator.ofJson (w.get? "operator") := by
  obtain ⟨hown, -⟩ := plainOperators_iff.mp hplain
  rcases h.get?_cases "operator" with ⟨hv, hw⟩ | ⟨operator, operator', hv, hw, hmember⟩
  · rw [hv, hw]
  · rw [hv, hw, hmember.eq_of_isPlain (hown operator hv)]

theorem ofJsonWithin?_alike (levels : Nat) {v : Json.Document} (h : v.json.Reordered w)
    (hplain : PlainOperators v.json) :
    Option.Rel (fun g g' => g.toCondition.Alike g'.toCondition) (ofJsonWithin? levels v.json)
      (ofJsonWithin? levels w) := by
  induction levels generalizing v w with
  | zero => exact .none
  | succ levels ih =>
    have hnodes : List.Forall₂
        (fun node node' => Option.Rel Condition.Alike (Condition.ofNode? levels node)
          (Condition.ofNode? levels node'))
        (v.json.getItems "conditions") (w.getItems "conditions") := by
      have hmem := (List.forall₂_and_left _ _).mpr ⟨fun _ hnode => hnode, h.getItems "conditions"⟩
      apply hmem.imp
      rintro node node' ⟨hnode, hreordered⟩
      cases hgroup : Condition.isGroupNode node with
      | true =>
        have hgroup' := (Condition.isGroupNode_of_reordered hreordered).symm.trans hgroup
        obtain ⟨-, hnodesPlain⟩ := plainOperators_iff.mp hplain
        have hrel := ih (v := v.item hnode) hreordered (hnodesPlain node hnode hgroup)
        rw [Condition.ofNode?_of_group hgroup, Condition.ofNode?_of_group hgroup']
        exact rel_map hrel fun _ _ halike => halike
      | false =>
        have hgroup' := (Condition.isGroupNode_of_reordered hreordered).symm.trans hgroup
        rw [Condition.ofNode?_of_comparison hgroup, Condition.ofNode?_of_comparison hgroup']
        apply Option.Rel.some
        intro limit d depth
        have hholds : (Comparison.ofJson (v.item hnode).json).holds d =
            (Comparison.ofJson node').holds d := Comparison.holds_ofJson hreordered d
        rw [Condition.evaluate, Condition.evaluate]
        exact congrArg Except.ok hholds
    rw [ofJsonWithin?_succ, ofJsonWithin?_succ, operator_of_reordered h hplain]
    exact rel_map (mapM_rel hnodes) fun _ _ halike => .group halike

end Group

theorem displays_of_reordered {v : Json.Document} {w : Json} (h : v.json.Reordered w)
    (hplain : Group.PlainOperators v.json) (d : Context) : displays v.json d = displays w d := by
  have hgroup := Group.ofJsonWithin?_alike Group.maxLevels h hplain
  rw [displays, displays, h.isBlank, Group.ofJson?, Group.ofJson?]
  generalize Group.ofJsonWithin? Group.maxLevels v.json = g at *
  generalize Group.ofJsonWithin? Group.maxLevels w = g' at *
  cases hgroup with
  | none => rfl
  | some halike =>
    simp only [Group.evaluate]
    rw [halike]

/-- Visibility does not depend on the order of members, neither of the dependencies, operands
included, nor of the data: the same truth or the same error. -/
theorem displays_invariant_under_order {dependencies data : Json.Document}
    {dependencies' data' : Json} (h : dependencies.json.Reordered dependencies')
    (hplain : Group.PlainOperators dependencies.json)
    (hobject : ∃ members, data.json = .object members) (hdata : data.json.Reordered data') :
    ∃ d, Context.ofJson? data.json = .ok d ∧ Context.ofJson? data' = .ok d ∧
      displays dependencies.json d = displays dependencies' d := by
  obtain ⟨members, hobject⟩ := hobject
  have hd : Context.ofJson? data.json = .ok (Value.tableOf members) := by
    rw [hobject, Context.ofJson?_object]
  have hd' := (Context.ofJson?_of_reordered hdata).symm.trans hd
  exact ⟨_, hd, hd', displays_of_reordered h hplain _⟩

/-- A field is compared with an object, below a group that is not needed. -/
def Json.objectDependencies : Json.Document where
  json := .object [("operator", .string "OR"), ("conditions", .array [
    .object [("field", .string "place"),
      ("in", .array [.object [("row", .string "4"), ("seat", .string "B")]])],
    .object [("operator", .string "XOR"), ("conditions", .array [.null])]])]
  distinctKeys := by decide

def Json.objectDependenciesTurned : Json.Document where
  json := .object [("conditions", .array [
    .object [("in", .array [.object [("seat", .string "B"), ("row", .string "4")]]),
      ("field", .string "place")],
    .object [("conditions", .array [.null]), ("operator", .string "XOR")]]),
    ("operator", .string "OR")]
  distinctKeys := by decide

def Json.placeData : Json.Document where
  json := .object [("place", .object [("seat", .string "B"), ("row", .string "4")]),
    ("name", .string "")]
  distinctKeys := by decide

def Json.placeDataTurned : Json.Document where
  json := .object [("name", .string ""),
    ("place", .object [("row", .string "4"), ("seat", .string "B")])]
  distinctKeys := by decide

theorem displays_invariant_under_order_place :
    Json.objectDependencies.json.Reordered Json.objectDependenciesTurned.json ∧
      Group.PlainOperators Json.objectDependencies.json ∧
      Json.placeData.json.Reordered Json.placeDataTurned.json ∧
      ∃ d, Context.ofJson? Json.placeData.json = .ok d ∧
        Context.ofJson? Json.placeDataTurned.json = .ok d ∧
        displays Json.objectDependencies.json d = displays Json.objectDependenciesTurned.json d := by
  have h : Json.objectDependencies.json.Reordered Json.objectDependenciesTurned.json := by
    rw [← Value.ofJson_eq_iff (by decide) (by decide)]
    rfl
  have hdata : Json.placeData.json.Reordered Json.placeDataTurned.json := by
    rw [← Value.ofJson_eq_iff (by decide) (by decide)]
    rfl
  have hplain : Group.PlainOperators Json.objectDependencies.json := by
    apply Group.plainOperators_iff.mpr
    constructor
    · rintro operator ⟨⟩
      trivial
    · intro node hnode hgroup
      rcases List.mem_pair.mp hnode with rfl | rfl
      · cases hgroup
      · apply Group.plainOperators_iff.mpr
        constructor
        · rintro operator ⟨⟩
          trivial
        · intro node hnode hgroup
          cases List.mem_singleton.mp hnode
          cases hgroup
  exact ⟨h, hplain, hdata, displays_invariant_under_order h hplain ⟨_, rfl⟩ hdata⟩

end Questionnaire
