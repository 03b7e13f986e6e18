import Questionnaire.Form.Build
import Questionnaire.Proofs.Constraint.Acceptance

namespace Questionnaire

/-- A block of constraints, and the key of the question that has it. -/
structure ConstraintBlock where
  key : String
  entries : List (String × Json)

namespace Registry

def Accepts (r : Registry) (block : ConstraintBlock) : Prop :=
  ∃ descriptors, r.describeAll block.entries = .ok descriptors

/-- The error of a build in which the block is refused. -/
def refusal? (r : Registry) (block : ConstraintBlock) : Option BuildError :=
  match r.describeAll block.entries with
  | .ok _ => none
  | .error e => some (.constraint block.key e)

theorem refusal?_eq_none_iff {r : Registry} {block : ConstraintBlock} :
    r.refusal? block = none ↔ r.Accepts block := by
  rw [refusal?, Accepts]
  cases r.describeAll block.entries with
  | ok descriptors => exact iff_of_true rfl ⟨descriptors, rfl⟩
  | error e => exact iff_of_false nofun nofun

theorem refusal?_eq_some_iff {r : Registry} {block : ConstraintBlock} {e : BuildError} :
    r.refusal? block = some e ↔
      ∃ c, r.describeAll block.entries = .error c ∧ e = .constraint block.key c := by
  rw [refusal?]
  cases r.describeAll block.entries with
  | ok descriptors => exact iff_of_false nofun nofun
  | error c => simp [eq_comm]

end Registry

namespace Question

/-- What passes from the entry fields of a question to the question holds of every question. -/
@[elab_as_elim, induction_eliminator]
theorem induction {motive : Question → Prop}
    (mk : ∀ q : Question, (∀ f ∈ q.fields, motive f) → motive q) (q : Question) : motive q := by
  refine Question.rec (motive_2 := fun qs => ∀ f ∈ qs, motive f) ?_ ?_ ?_ q
  · intro key type label required data constraints dependencies fields options ih
    exact mk ⟨key, type, label, required, data, constraints, dependencies, fields, options⟩ ih
  · intro f h
    cases h
  · intro q rest hq hrest f h
    rcases List.mem_cons.mp h with rfl | h
    · exact hq
    · exact hrest f h

def ownBlock (q : Question) : ConstraintBlock :=
  ⟨q.key, q.constraints.getD []⟩

mutual

/-- The blocks of constraints that the field of a question has to pass, in the order in which they
are checked: its own, then those of the fields of an entry if it is a collection. -/
def blocks : Question → List ConstraintBlock
  | ⟨key, type, _, _, _, constraints, _, fields, _⟩ =>
    ⟨key, constraints.getD []⟩ ::
      if Kind.ofToken type = .collection then entryBlocks fields else []

def entryBlocks : List Question → List ConstraintBlock
  | [] => []
  | q :: rest => q.blocks ++ entryBlocks rest

end

mutual

/-- The field of a question, its constraints taken as they are. -/
def shape (default : Option Value) : Question → FieldDefinition
  | ⟨key, type, label, required, _, constraints, _, fields, options⟩ => {
      name := key
      kind := .ofToken type
      label := label.getD (Text.capitalize key)
      required := required.getD false
      default := default
      constraints := (constraints.getD []).map fun e => ⟨e.1, e.2.object?⟩
      options := options
      entryFields := if Kind.ofToken type = .collection then entryShapes fields else [] }

def entryShapes : List Question → List FieldDefinition
  | [] => []
  | q :: rest => q.shape none :: entryShapes rest

end

theorem blocks_eq (q : Question) :
    q.blocks = q.ownBlock :: if q.kind = .collection then entryBlocks q.fields else [] := by
  cases q
  rfl

@[simp] theorem shape_name (default : Option Value) (q : Question) :
    (q.shape default).name = q.key := by
  cases q
  rfl

@[simp] theorem shape_kind (default : Option Value) (q : Question) :
    (q.shape default).kind = q.kind := by
  cases q
  rfl

theorem entryBlocks_eq_flatMap (qs : List Question) : entryBlocks qs = qs.flatMap blocks := by
  induction qs with
  | nil => rfl
  | cons q rest ih => rw [entryBlocks, ih, List.flatMap_cons]

theorem entryShapes_eq_map (qs : List Question) : entryShapes qs = qs.map (shape none) := by
  induction qs with
  | nil => rfl
  | cons q rest ih => rw [entryShapes, ih, List.map_cons]

theorem shape_eq (default : Option Value) (q : Question) :
    q.shape default = { q.shape none with default := default } := by
  cases q
  rfl

theorem entryFields_shape (default : Option Value) (q : Question) :
    (q.shape default).entryFields =
      if q.kind = .collection then entryShapes q.fields else [] := by
  cases q
  rfl

theorem descriptors_eq_verdict (registry : Registry) (q : Question) :
    q.descriptors registry = verdict (registry.refusal? q.ownBlock)
      ((q.constraints.getD []).map fun e => ⟨e.1, e.2.object?⟩) := by
  rw [descriptors, Registry.refusal?, ownBlock]
  cases h : registry.describeAll (q.constraints.getD []) with
  | ok descriptors =>
    rw [Registry.describeAll_eq_ok h]
    rfl
  | error e => rfl

/-- The fields of an entry that has no values: the shapes of its questions, unless a block of
constraints in them is refused. -/
def template (registry : Registry) (qs : List Question) :
    Except BuildError (List FieldDefinition) :=
  verdict ((entryBlocks qs).findSome? registry.refusal?) (entryShapes qs)

/-- With a value that suits, a question makes the field of its shape and reports nothing, unless a
block of constraints in it is refused. -/
def MakesShape (config : Config) (q : Question) : Prop :=
  ∀ raw default, coerce q.kind raw = .ok default → q.makeField config raw =
    Journal.ofExcept (verdict (q.blocks.findSome? config.registry.refusal?)
      (.field (q.shape default)))

/-- Null suits every kind, so in an entry without values neither the policy nor the log has a
part. -/
theorem entryFields_null_of_makesShape {qs : List Question}
    (ih : ∀ q ∈ qs, q.MakesShape config) :
    entryFields config .null qs = Journal.ofExcept (template config.registry qs) := by
  induction qs with
  | nil => rfl
  | cons q rest ihr =>
    obtain ⟨hq, hrest⟩ := List.forall_mem_cons.mp ih
    rw [entryFields, hq _ none rfl, template, entryBlocks, List.findSome?_append, entryShapes]
    apply Journal.ofExcept_bind
    rw [ihr hrest]
    exact Journal.ofExcept_bind_pure _ _ _

theorem makesShape (config : Config) (q : Question) : q.MakesShape config := by
  induction q with
  | mk q ih =>
    intro raw default hvalue
    obtain ⟨key, type, label, required, data, constraints, dependencies, fields, options⟩ := q
    rw [makeField, blocks_eq, findSome?_cons_or]
    simp only [hvalue, descriptors_eq_verdict]
    apply Journal.ofExcept_bind
    by_cases hk : Kind.ofToken type = .collection
    · simp only [kind, shape, hk, if_true]
      rw [entryFields_null_of_makesShape ih]
      exact Journal.ofExcept_bind_pure _ _ _
    · simp only [kind, shape, hk, if_false]
      rfl

theorem entryFields_null (config : Config) (qs : List Question) :
    entryFields config .null qs = Journal.ofExcept (template config.registry qs) :=
  entryFields_null_of_makesShape fun q _ => makesShape config q

variable {config : Config} {raw : Value} {q : Question} {e : CoercionError}

theorem makeField_of_skip (h : coerce q.kind raw = .error e)
    (hskip : config.onCoercionError = .skip) :
    q.makeField config raw = ⟨[.skipped q.key e], .ok (.skipped e)⟩ := by
  cases q
  rw [makeField]
  simp only [h, hskip]
  rfl

theorem makeField_of_abort (h : coerce q.kind raw = .error e)
    (habort : config.onCoercionError = .abort) :
    q.makeField config raw = Journal.ofExcept (.error (.coercion q.key e)) := by
  cases q
  rw [makeField]
  simp only [h, habort]

end Question

end Questionnaire
