import Questionnaire.Proofs.Condition.Reading
import Questionnaire.Proofs.Form.Policy

namespace Questionnaire

/-- No field has a default, neither this one nor those of its entries, nor those of their entries. -/
inductive FieldDefinition.HasNoDefaults : FieldDefinition → Prop
  | mk {f : FieldDefinition} (own : f.default = none)
      (entries : ∀ e ∈ f.entryFields, HasNoDefaults e) : HasNoDefaults f

namespace Question

/-- The field with the default that an entry has for the question, if its value suits. -/
def filled? (row : Value) (q : Question) (f : FieldDefinition) : Option FieldDefinition :=
  match coerce q.kind (row.entry q.key) with
  | .ok default => some { f with default := default }
  | .error _ => none

/-- Why a question fails an entry. -/
def entryFault? (config : Config) (row : Value) (q : Question) : Option BuildError :=
  match coerce q.kind (row.entry q.key), config.onCoercionError with
  | .ok _, _ => q.blocks.findSome? config.registry.refusal?
  | .error _, .skip => none
  | .error e, .abort => some (.coercion q.key e)

variable {config : Config} {row raw : Value} {q : Question} {qs : List Question}

/-- An entry has the filled shapes of its questions, unless a question fails it. -/
theorem result_entryFields (config : Config) (row : Value) (qs : List Question) :
    (entryFields config row qs).result = verdict (qs.findSome? (entryFault? config row))
      (qs.filterMap fun q => q.filled? row (q.shape none)) := by
  induction qs with
  | nil => rfl
  | cons q rest ih =>
    rw [entryFields, Journal.result_bind, findSome?_cons_or, List.filterMap_cons, entryFault?,
      filled?]
    cases hvalue : coerce q.kind (row.entry q.key) with
    | ok default =>
      rw [makesShape config q _ _ hvalue]
      apply verdict_bind
      rw [Journal.result_bind, ih, shape_eq]
      exact verdict_bind_ok rfl
    | error e =>
      cases hpolicy : config.onCoercionError with
      | skip =>
        rw [makeField_of_skip hvalue hpolicy]
        change (entryFields config row rest >>= fun others => pure ([] ++ others)).result = _
        rw [Journal.result_bind, ih]
        exact verdict_bind_ok rfl
      | abort =>
        rw [makeField_of_abort hvalue hpolicy]
        rfl

theorem result_template (config : Config) (qs : List Question) :
    (entryFields config .null qs).result =
      verdict ((entryBlocks qs).findSome? config.registry.refusal?) (qs.map (shape none)) := by
  rw [entryFields_null, ← entryShapes_eq_map]
  rfl

theorem findSome?_entryBlocks_eq_none_iff {f : ConstraintBlock → Option BuildError} :
    (entryBlocks qs).findSome? f = none ↔ ∀ q ∈ qs, q.blocks.findSome? f = none := by
  simp only [entryBlocks_eq_flatMap, List.findSome?_eq_none_iff, List.mem_flatMap]
  constructor
  · intro h q hq b hb
    exact h b ⟨q, hq, hb⟩
  · rintro h b ⟨q, hq, hb⟩
    exact h q hq b hb

theorem hasNoDefaults_shape (q : Question) : (q.shape none).HasNoDefaults := by
  induction q with
  | mk q ih =>
    apply FieldDefinition.HasNoDefaults.mk
    · rw [shape_eq]
    · rw [entryFields_shape, entryShapes_eq_map]
      split
      · intro e he
        obtain ⟨f, hf, rfl⟩ := List.mem_map.mp he
        exact ih f hf
      · nofun

theorem define_eq_field_iff {f : FieldDefinition} :
    q.define config raw = .ok (.field f) ↔ ∃ default, coerce q.kind raw = .ok default ∧
      q.blocks.findSome? config.registry.refusal? = none ∧ q.shape default = f := by
  rw [define]
  cases hvalue : coerce q.kind raw with
  | ok default =>
    rw [makesShape config q _ _ hvalue]
    simp [Journal.ofExcept, verdict_eq_ok_iff]
  | error e =>
    refine iff_of_false ?_ nofun
    cases hpolicy : config.onCoercionError with
    | skip =>
      rw [makeField_of_skip hvalue hpolicy]
      nofun
    | abort =>
      rw [makeField_of_abort hvalue hpolicy]
      nofun

theorem not_isCoercion_of_template {e : BuildError}
    (h : (entryFields config .null qs).result = .error e) : ¬ e.IsCoercion := by
  rw [result_template, verdict_eq_error_iff] at h
  obtain ⟨block, -, hrefused⟩ := List.exists_of_findSome?_eq_some h
  obtain ⟨c, -, rfl⟩ := Registry.refusal?_eq_some_iff.mp hrefused
  rintro ⟨_, _, hcoercion⟩
  cases hcoercion

theorem fields_of_template {ts : List FieldDefinition}
    (h : (entryFields config .null qs).result = .ok ts) :
    List.Forall₂ (fun q t => q.define config .null = .ok (.field t) ∧ t.name = q.key ∧
      t.kind = q.kind ∧ t.HasNoDefaults) qs ts := by
  rw [result_template, verdict_eq_ok_iff, findSome?_entryBlocks_eq_none_iff] at h
  obtain ⟨haccepted, rfl⟩ := h
  rw [List.forall₂_map_right_iff, List.forall₂_same]
  intro q hq
  have hdefine : q.define config .null = .ok (.field (q.shape none)) :=
    define_eq_field_iff.mpr ⟨none, rfl, haccepted q hq, rfl⟩
  exact ⟨hdefine, shape_name none q, shape_kind none q, hasNoDefaults_shape q⟩

theorem entryFields_of_define {f : FieldDefinition} (h : q.define config raw = .ok (.field f)) :
    if q.kind = .collection then (entryFields config .null q.fields).result = .ok f.entryFields
    else f.entryFields = [] := by
  obtain ⟨default, -, haccepted, rfl⟩ := define_eq_field_iff.mp h
  rw [entryFields_shape]
  split
  · rename_i hkind
    rw [blocks_eq, if_pos hkind, findSome?_cons_or, Option.or_eq_none_iff] at haccepted
    rw [result_template, haccepted.2, entryShapes_eq_map]
    rfl
  · rfl

theorem zip_shapes (qs : List Question) :
    qs.zip (qs.map (shape none)) = qs.map fun q => (q, q.shape none) :=
  List.map_prod_left_eq_zip.symm

theorem forall₂_filterMap {α β : Type} {f : α → Option β} {l : List α}
    (h : ∀ a ∈ l, ∃ b, f a = some b) : List.Forall₂ (fun a b => f a = some b) l (l.filterMap f) := by
  induction l with
  | nil => exact .nil
  | cons a rest ih =>
    obtain ⟨⟨b, hb⟩, hrest⟩ := List.forall_mem_cons.mp h
    rw [List.filterMap_cons_some hb]
    exact .cons hb (ih hrest)

/-- Under the policy to fail, a question that does not fail an entry has a value there that suits. -/
theorem filled?_of_entryFault? (habort : config.onCoercionError = .abort)
    (h : q.entryFault? config row = none) :
    (∃ f, q.filled? row (q.shape none) = some f) ∧
      q.blocks.findSome? config.registry.refusal? = none := by
  rw [entryFault?, habort] at h
  rw [filled?]
  cases hvalue : coerce q.kind (row.entry q.key) with
  | ok default =>
    rw [hvalue] at h
    exact ⟨⟨_, rfl⟩, h⟩
  | error e =>
    rw [hvalue] at h
    cases h

/-- If the template goes through, an entry that does has the filled fields of it. -/
theorem eq_filled_of_template {ts fs : List FieldDefinition}
    (hts : (entryFields config .null qs).result = .ok ts)
    (hfs : (entryFields config row qs).result = .ok fs) :
    fs = (qs.zip ts).filterMap fun p => p.1.filled? row p.2 := by
  rw [result_template, verdict_eq_ok_iff] at hts
  rw [result_entryFields, verdict_eq_ok_iff] at hfs
  rw [← hts.2, ← hfs.2, zip_shapes, List.filterMap_map]
  rfl

theorem exists_template_of_aborting (habort : config.onCoercionError = .abort)
    {fs : List FieldDefinition} (hfs : (entryFields config row qs).result = .ok fs) :
    ∃ ts, (entryFields config .null qs).result = .ok ts ∧
      List.Forall₂ (fun p f => p.1.filled? row p.2 = some f) (qs.zip ts) fs := by
  rw [result_entryFields, verdict_eq_ok_iff, List.findSome?_eq_none_iff] at hfs
  obtain ⟨hpasses, rfl⟩ := hfs
  have hquestion q (hq : q ∈ qs) := filled?_of_entryFault? habort (hpasses q hq)
  refine ⟨qs.map (shape none), ?_, ?_⟩
  · rw [result_template, verdict_eq_ok_iff, findSome?_entryBlocks_eq_none_iff]
    exact ⟨fun q hq => (hquestion q hq).2, rfl⟩
  · rw [zip_shapes, List.forall₂_map_left_iff]
    exact forall₂_filterMap fun q hq => (hquestion q hq).1

/-- The fields of an entry follow the template. A template never fails for a value, and holds one
field for each question, in order, without a default at any level. Under the policy to fail, an entry
that goes through has these fields, each with the value of its question as default; under the other
policy the fields are missing whose values do not suit. The fields of the entries of a collection are
a template themselves, so no value has a part in them. -/
theorem entryFields_follow_template (config : Config) (qs : List Question) (row : Value) :
    (∀ e, (entryFields config .null qs).result = .error e → ¬ e.IsCoercion) ∧
    (∀ ts, (entryFields config .null qs).result = .ok ts →
      List.Forall₂ (fun q t => q.define config .null = .ok (.field t) ∧ t.name = q.key ∧
        t.kind = q.kind ∧ t.HasNoDefaults) qs ts) ∧
    (config.onCoercionError = .abort → ∀ fs, (entryFields config row qs).result = .ok fs →
      ∃ ts, (entryFields config .null qs).result = .ok ts ∧
        List.Forall₂ (fun p f => p.1.filled? row p.2 = some f) (qs.zip ts) fs) ∧
    (∀ ts fs, (entryFields config .null qs).result = .ok ts →
      (entryFields config row qs).result = .ok fs →
      fs = (qs.zip ts).filterMap fun p => p.1.filled? row p.2) ∧
    (∀ (q : Question) (raw : Value) (f : FieldDefinition), q.define config raw = .ok (.field f) →
      if q.kind = .collection then (entryFields config .null q.fields).result = .ok f.entryFields
      else f.entryFields = []) := by
  refine ⟨?_, ?_, ?_, ?_, ?_⟩
  · intro e h
    exact not_isCoercion_of_template h
  · intro ts h
    exact fields_of_template h
  · intro habort fs h
    exact exists_template_of_aborting habort h
  · intro ts fs hts hfs
    exact eq_filled_of_template hts hfs
  · intro q raw f h
    exact entryFields_of_define h

/-- A constraint, a kind that not all values suit, and a collection in the entry. -/
def childQuestions : List Question := [
  ⟨"name", "text", none, none, some (.string "Eve"), some [("NotBlank", .null)], none, [], []⟩,
  ⟨"born", "date", none, none, none, none, none, [], []⟩,
  ⟨"pets", "collection", none, none, none, none, none,
    [⟨"age", "integer", none, none, some (.bool true), none, none, [], []⟩], []⟩]

def childRow (born : Value) : Value :=
  .map [("born", born), ("name", .text "Ada"), ("pets", .list [.null])]

theorem entryFields_follow_template_childQuestions :
    (∃ ts fs, (Config.aborting {}).onCoercionError = .abort ∧
      (entryFields (Config.aborting {}) .null childQuestions).result = .ok ts ∧
      (entryFields (Config.aborting {}) (childRow .null) childQuestions).result = .ok fs ∧
      fs.map (·.name) = ["name", "born", "pets"] ∧ (∀ t ∈ ts, t.HasNoDefaults) ∧
      List.Forall₂ (fun p f => p.1.filled? (childRow .null) p.2 = some f)
        (childQuestions.zip ts) fs) ∧
    (∃ ts fs, (entryFields (Config.skipping {}) .null childQuestions).result = .ok ts ∧
      (entryFields (Config.skipping {}) (childRow (.bool true)) childQuestions).result = .ok fs ∧
      fs.map (·.name) = ["name", "pets"] ∧
      fs = (childQuestions.zip ts).filterMap fun p => p.1.filled? (childRow (.bool true)) p.2) := by
  constructor
  · obtain ⟨-, htemplate, habort, -⟩ :=
      entryFields_follow_template (Config.aborting {}) childQuestions (childRow .null)
    have hrow : (entryFields (Config.aborting {}) (childRow .null) childQuestions).result =
        .ok _ := rfl
    obtain ⟨ts, hts, hfilled⟩ := habort rfl _ hrow
    refine ⟨ts, _, rfl, hts, hrow, rfl, ?_, hfilled⟩
    intro t ht
    obtain ⟨q, -, -, -, -, hdefaults⟩ := exists_mem_of_forall₂ (htemplate ts hts) ht
    exact hdefaults
  · obtain ⟨-, -, -, hfilled, -⟩ :=
      entryFields_follow_template (Config.skipping {}) childQuestions (childRow (.bool true))
    have hts : (entryFields (Config.skipping {}) .null childQuestions).result = .ok _ := rfl
    have hrow : (entryFields (Config.skipping {}) (childRow (.bool true)) childQuestions).result =
        .ok _ := rfl
    exact ⟨_, _, hts, hrow, rfl, hfilled _ _ hts hrow⟩

end Question

end Questionnaire
