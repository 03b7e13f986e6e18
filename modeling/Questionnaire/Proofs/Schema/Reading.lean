import Mathlib.Data.List.Forall2
import Questionnaire.Schema.Reader
import Questionnaire.Proofs.Condition.Nesting

namespace Questionnaire

theorem bind_eq_ok_iff {ε α β : Type} {r : Except ε α} {f : α → Except ε β} {b : β} :
    (r >>= f) = .ok b ↔ ∃ a, r = .ok a ∧ f a = .ok b := by
  constructor
  · intro h
    cases r with
    | error e => cases h
    | ok a => exact ⟨a, rfl, h⟩
  · rintro ⟨a, rfl, h⟩
    exact h

theorem bind_eq_error_iff {ε α β : Type} {r : Except ε α} {f : α → Except ε β} {e : ε} :
    (r >>= f) = .error e ↔ r = .error e ∨ ∃ a, r = .ok a ∧ f a = .error e := by
  constructor
  · intro h
    cases r with
    | error e' =>
      cases h
      exact .inl rfl
    | ok a => exact .inr ⟨a, rfl, h⟩
  · rintro (rfl | ⟨a, rfl, h⟩)
    · rfl
    · exact h

theorem mapError_eq_ok_iff {ε ε' α : Type} {r : Except ε α} {f : ε → ε'} {a : α} :
    r.mapError f = .ok a ↔ r = .ok a := by
  constructor
  · intro h
    cases r with
    | error e => cases h
    | ok a' =>
      cases h
      rfl
  · rintro rfl
    rfl

/-- Reads items in order, each with its position, the first at the given one. -/
def readRow {α : Type} (read : Nat → Json → Except SchemaError α) (index : Nat) :
    List Json → Except SchemaError (List α)
  | [] => .ok []
  | v :: rest => do
    let a ← read index v
    let others ← readRow read (index + 1) rest
    return a :: others

variable {α : Type} {read : Nat → Json → Except SchemaError α} {index : Nat} {items : List Json}

theorem eq_readRow {row : Nat → List Json → Except SchemaError (List α)}
    (nil : ∀ index, row index [] = .ok [])
    (cons : ∀ index v rest, row index (v :: rest) = do
      let a ← read index v
      let others ← row (index + 1) rest
      return a :: others) :
    row index items = readRow read index items := by
  induction items generalizing index with
  | nil => exact nil index
  | cons v rest ih => rw [cons, readRow, ih]

/-- A row is read if each of its items is, and then holds what the items hold. -/
theorem readRow_eq_ok_iff {R : Json → α → Prop} {row : List α}
    (h : ∀ v ∈ items, ∀ index a, read index v = .ok a ↔ R v a) :
    readRow read index items = .ok row ↔ List.Forall₂ R items row := by
  induction items generalizing index row with
  | nil =>
    rw [readRow, List.forall₂_nil_left_iff]
    exact ⟨fun h => by cases h; rfl, fun h => by rw [h]⟩
  | cons v rest ih =>
    obtain ⟨hv, hrest⟩ := List.forall_mem_cons.mp h
    rw [readRow, List.forall₂_cons_left_iff, bind_eq_ok_iff]
    constructor
    · rintro ⟨a, ha, h⟩
      obtain ⟨others, hothers, hrow⟩ := bind_eq_ok_iff.mp h
      cases hrow
      exact ⟨a, others, (hv _ _).mp ha, (ih hrest).mp hothers, rfl⟩
    · rintro ⟨a, others, ha, hothers, rfl⟩
      exact ⟨a, (hv _ _).mpr ha, bind_eq_ok_iff.mpr ⟨others, (ih hrest).mpr hothers, rfl⟩⟩

/-- A row that is not read has an item that is not, and fails with the error of the item at its
place. -/
theorem exists_of_readRow_error {e : SchemaError} (h : readRow read index items = .error e) :
    ∃ i v, items[i]? = some v ∧ read (index + i) v = .error e := by
  induction items generalizing index with
  | nil => cases h
  | cons v rest ih =>
    rw [readRow] at h
    rcases bind_eq_error_iff.mp h with hv | ⟨a, -, h⟩
    · exact ⟨0, v, rfl, hv⟩
    · rcases bind_eq_error_iff.mp h with hrest | ⟨others, -, h⟩
      · obtain ⟨i, w, hi, hw⟩ := ih hrest
        refine ⟨i + 1, w, hi, ?_⟩
        rwa [← Nat.add_assoc, Nat.add_right_comm]
      · cases h

theorem exists_of_readRow_bind_error {β : Type} {make : List α → β} {e : SchemaError}
    (h : (readRow read 0 items >>= fun row => pure (make row)) = .error e) :
    ∃ i v, items[i]? = some v ∧ read i v = .error e := by
  rcases bind_eq_error_iff.mp h with hrow | ⟨row, -, h⟩
  · obtain ⟨i, v, hi, hv⟩ := exists_of_readRow_error hrow
    rw [Nat.zero_add] at hv
    exact ⟨i, v, hi, hv⟩
  · cases h

/-- What a question holds of its block of constraints. -/
inductive ReadsConstraints : Option Json → Option (List (String × Json)) → Prop
  | missing : ReadsConstraints none none
  | null : ReadsConstraints (some .null) none
  | empty : ReadsConstraints (some (.array [])) none
  | object (members : List (String × Json)) :
      ReadsConstraints (some (.object members)) (some members)

theorem constraintsOf?_eq_ok_iff {v : Json} {constraints : Option (List (String × Json))} :
    constraintsOf? v = .ok constraints ↔ ReadsConstraints (v.get? "constraints") constraints := by
  rw [constraintsOf?]
  generalize v.get? "constraints" = block
  constructor
  · intro h
    split at h <;> cases h
    · exact .missing
    · exact .null
    · exact .empty
    · exact .object _
  · intro h
    cases h <;> rfl

theorem Json.isBlank_iff {block : Json} :
    block.isBlank = true ↔ block ∈ [.null, .array [], .object []] := by
  simp only [List.mem_cons, List.not_mem_nil, or_false]
  cases block with
  | null => exact iff_of_true rfl (.inl rfl)
  | array items => cases items <;> simp [isBlank]
  | object members => cases members <;> simp [isBlank]
  | _ => simp [isBlank]

namespace Condition

variable {node : Json}

theorem isGroupNode_eq_true_iff : isGroupNode node = true ↔
    node.hasMember "operator" = true ∧ node.hasMember "conditions" = true := by
  rw [isGroupNode, Bool.and_eq_true]

theorem isGroupNode_eq_false_iff : isGroupNode node = false ↔
    (node.hasMember "operator" = true → node.hasMember "conditions" = false) := by
  rw [← Bool.not_eq_true, isGroupNode_eq_true_iff, not_and, Bool.not_eq_true]

theorem isBlank_of_isGroupNode (h : isGroupNode node = true) : node.isBlank = false := by
  cases node with
  | object members =>
    cases members with
    | nil => cases h
    | cons m rest => rfl
  | _ => cases h

end Condition

namespace Dependencies

variable {block : Json} {dependencies : Option Dependencies}

theorem ofBlock?_of_blank (h : block.isBlank = true) : ofBlock? block = some none := by
  rw [ofBlock?, if_pos h]

theorem ofBlock?_of_group (h : Condition.isGroupNode block = true) :
    ofBlock? block = (Group.ofJson? block).map fun g => some (.rule g) := by
  rw [ofBlock?, Condition.isBlank_of_isGroupNode h, h]
  rfl

theorem ofBlock?_of_not_group (h : Condition.isGroupNode block = false)
    (hblank : block.isBlank = false) : ofBlock? block = some (some (.malformed block)) := by
  rw [ofBlock?, h, hblank]
  rfl

/-- What a question holds of its block of dependencies: no rule if the block says nothing, the rule
if it has both members of a group, and else the block as it is. -/
inductive Reads : Option Json → Option Dependencies → Prop
  | missing : Reads none none
  | blank {block : Json} (blank : block ∈ [.null, .array [], .object []]) : Reads (some block) none
  | rule {block : Json} {g : Group} (operator : block.hasMember "operator" = true)
      (conditions : block.hasMember "conditions" = true)
      (levels : ¬ Group.NestsDeeper 128 block) (group : Group.Reads block g) :
      Reads (some block) (some (.rule g))
  | malformed {block : Json} (notBlank : block ∉ [.null, .array [], .object []])
      (incomplete : block.hasMember "operator" = true → block.hasMember "conditions" = false) :
      Reads (some block) (some (.malformed block))

theorem reads_of_ofBlock? (h : ofBlock? block = some dependencies) :
    Reads (some block) dependencies := by
  cases hblank : block.isBlank with
  | true =>
    rw [ofBlock?_of_blank hblank] at h
    cases h
    exact .blank (Json.isBlank_iff.mp hblank)
  | false =>
    cases hgroup : Condition.isGroupNode block with
    | true =>
      rw [ofBlock?_of_group hgroup] at h
      obtain ⟨g, hg, rfl⟩ := Option.map_eq_some_iff.mp h
      obtain ⟨hlevels, hreads⟩ := Group.ofJsonWithin?_eq_some_iff.mp hg
      obtain ⟨hoperator, hconditions⟩ := Condition.isGroupNode_eq_true_iff.mp hgroup
      exact .rule hoperator hconditions hlevels hreads
    | false =>
      rw [ofBlock?_of_not_group hgroup hblank] at h
      cases h
      apply Reads.malformed _ (Condition.isGroupNode_eq_false_iff.mp hgroup)
      rw [← Json.isBlank_iff, hblank]
      exact Bool.false_ne_true

theorem ofBlock?_of_reads {block : Option Json} (h : Reads block dependencies) :
    ofBlock? (block.getD .null) = some dependencies := by
  cases h with
  | missing => rfl
  | blank hblank => exact ofBlock?_of_blank (Json.isBlank_iff.mpr hblank)
  | rule hoperator hconditions hlevels hreads =>
    have hgroup := Condition.isGroupNode_eq_true_iff.mpr ⟨hoperator, hconditions⟩
    have hread := Group.ofJsonWithin?_eq_some_iff.mpr ⟨hlevels, hreads⟩
    rw [Option.getD_some, ofBlock?_of_group hgroup]
    exact Option.map_eq_some_iff.mpr ⟨_, hread, rfl⟩
  | malformed hblank hincomplete =>
    rw [← Json.isBlank_iff, Bool.not_eq_true] at hblank
    exact ofBlock?_of_not_group (Condition.isGroupNode_eq_false_iff.mpr hincomplete) hblank

theorem ofBlock?_eq_some_iff {block : Option Json} :
    ofBlock? (block.getD .null) = some dependencies ↔ Reads block dependencies := by
  constructor
  · intro h
    cases block with
    | none =>
      cases h
      exact .missing
    | some block => exact reads_of_ofBlock? h
  · exact ofBlock?_of_reads

end Dependencies

namespace Question

variable {scope : String} {v : Json} {q : Question}

theorem listOfJson_eq_readRow (scope : String) (index : Nat) (items : List Json) :
    listOfJson scope index items = readRow (ofJson scope) index items :=
  eq_readRow (fun _ => rfl) (fun _ _ _ => rfl)

theorem entryFieldsOf_eq (scope : String) (members : List (String × Json)) :
    entryFieldsOf scope members =
      listOfJson scope 0 ((Json.object members).getItems "fields") := by
  induction members with
  | nil => rfl
  | cons m rest ih =>
    obtain ⟨key, w⟩ := m
    unfold entryFieldsOf
    rw [Json.getItems, Json.get?, List.lookup_cons]
    cases hkey : "fields" == key with
    | true => cases w <;> rfl
    | false => exact ih

theorem ofJson_eq (scope : String) (index : Nat) (v : Json) :
    ofJson scope index v = do
      let (key, question) ← shellOf scope index v
      let fields ← listOfJson (scope ++ ":" ++ key) 0 (v.getItems "fields")
      return question fields := by
  cases v with
  | object members => simp only [ofJson, entryFieldsOf_eq]
  | _ => rfl

theorem headOf?_eq_ok_iff {key type : String} :
    headOf? v = .ok (key, type) ↔
      v.get? "key" = some (.string key) ∧ v.get? "type" = some (.string type) := by
  rw [headOf?]
  constructor
  · intro h
    split at h
    · split at h
      · rename_i hkey htype
        cases h
        exact ⟨Json.getString?_eq_some_iff.mp hkey, Json.getString?_eq_some_iff.mp htype⟩
      · cases h
    · cases h
  · rintro ⟨hkey, htype⟩
    obtain ⟨members, rfl⟩ := Json.exists_object_of_get? hkey
    rw [Json.getString?_eq_some_iff.mpr hkey, Json.getString?_eq_some_iff.mpr htype]
    rfl

theorem shellOf_eq_ok_iff {key : String} {question : List Question → Question} :
    shellOf scope index v = .ok (key, question) ↔
      ∃ type constraints dependencies, headOf? v = .ok (key, type) ∧
        ReadsConstraints (v.get? "constraints") constraints ∧
        Dependencies.Reads (v.get? "displayDependencies") dependencies ∧
        question = assemble v key type constraints dependencies := by
  rw [shellOf, bind_eq_ok_iff]
  simp only [mapError_eq_ok_iff, ← constraintsOf?_eq_ok_iff, ← Dependencies.ofBlock?_eq_some_iff]
  constructor
  · rintro ⟨⟨key', type⟩, hhead, h⟩
    obtain ⟨constraints, hconstraints, h⟩ := bind_eq_ok_iff.mp h
    split at h
    · cases h
    · rename_i dependencies hdependencies
      cases h
      exact ⟨type, constraints, dependencies, hhead, mapError_eq_ok_iff.mp hconstraints,
        hdependencies, rfl⟩
  · rintro ⟨type, constraints, dependencies, hhead, hconstraints, hdependencies, rfl⟩
    refine ⟨(key, type), hhead, bind_eq_ok_iff.mpr ⟨constraints, ?_, ?_⟩⟩
    · exact mapError_eq_ok_iff.mpr hconstraints
    · rw [hdependencies]
      rfl

/-- With key, type and constraints in order, only the nesting of conditions is left to fail. -/
theorem tooDeep_of_shellOf {key type : String} {constraints : Option (List (String × Json))}
    {e : SchemaError} (hhead : headOf? v = .ok (key, type))
    (hconstraints : constraintsOf? v = .ok constraints)
    (he : shellOf scope index v = .error e) : e = .conditionsTooDeep key := by
  rw [shellOf, hhead, hconstraints] at he
  cases hblock : Dependencies.ofBlock? ((v.get? "displayDependencies").getD .null) with
  | none =>
    rw [hblock] at he
    cases he
    rfl
  | some dependencies =>
    rw [hblock] at he
    cases he

theorem optionsOf_eq (members : List (String × Json)) :
    optionsOf members = members.filter fun m => m.1 ∉ memberKeys := by
  apply List.filter_congr
  intro m _
  rw [decide_not, List.contains_eq_mem]

/-- What a question holds of its document. -/
inductive Reads : Json → Question → Prop
  | intro {v : Json} {q : Question}
      (key : v.get? "key" = some (.string q.key))
      (type : v.get? "type" = some (.string q.type))
      (label : q.label = v.getString? "label")
      (required : q.required = (v.get? "required").bind Json.bool?)
      (data : q.data = v.getNonNull? "data")
      (constraints : ReadsConstraints (v.get? "constraints") q.constraints)
      (dependencies : Dependencies.Reads (v.get? "displayDependencies") q.dependencies)
      (fields : List.Forall₂ Reads (v.getItems "fields") q.fields)
      (options : ∃ members, v = .object members ∧
        q.options = members.filter fun m => m.1 ∉ memberKeys) :
      Reads v q

theorem reads_iff :
    Reads v q ↔ ∃ key type constraints dependencies fields, headOf? v = .ok (key, type) ∧
      ReadsConstraints (v.get? "constraints") constraints ∧
      Dependencies.Reads (v.get? "displayDependencies") dependencies ∧
      List.Forall₂ Reads (v.getItems "fields") fields ∧
      q = assemble v key type constraints dependencies fields := by
  constructor
  · intro h
    cases h with
    | intro key type label required data constraints dependencies fields options =>
      obtain ⟨members, rfl, hoptions⟩ := options
      refine ⟨_, _, _, _, _, headOf?_eq_ok_iff.mpr ⟨key, type⟩, constraints, dependencies,
        fields, ?_⟩
      rw [← optionsOf_eq] at hoptions
      cases q
      simp only [assemble, Json.object?, Option.getD_some, mk.injEq, true_and]
      exact ⟨label, required, data, hoptions⟩
  · rintro ⟨key, type, constraints, dependencies, fields, hhead, hconstraints, hdependencies,
      hfields, rfl⟩
    obtain ⟨hkey, htype⟩ := headOf?_eq_ok_iff.mp hhead
    obtain ⟨members, rfl⟩ := Json.exists_object_of_get? hkey
    exact .intro hkey htype rfl rfl rfl hconstraints hdependencies hfields
      ⟨members, rfl, optionsOf_eq members⟩

theorem ofJson_eq_ok_iff : ofJson scope index v = .ok q ↔ Reads v q := by
  induction v using Json.induction_getItems "fields" generalizing scope index q with
  | step v ih =>
    have hrow : ∀ scope fields, listOfJson scope 0 (v.getItems "fields") = .ok fields ↔
        List.Forall₂ Reads (v.getItems "fields") fields := by
      intro scope fields
      rw [listOfJson_eq_readRow]
      exact readRow_eq_ok_iff fun w hw index q => ih w hw
    rw [ofJson_eq, bind_eq_ok_iff, reads_iff]
    constructor
    · rintro ⟨⟨key, question⟩, hshell, h⟩
      obtain ⟨fields, hfields, hq⟩ := bind_eq_ok_iff.mp h
      obtain ⟨type, constraints, dependencies, hhead, hconstraints, hdependencies, rfl⟩ :=
        shellOf_eq_ok_iff.mp hshell
      cases hq
      exact ⟨key, type, constraints, dependencies, fields, hhead, hconstraints, hdependencies,
        (hrow _ fields).mp hfields, rfl⟩
    · rintro ⟨key, type, constraints, dependencies, fields, hhead, hconstraints, hdependencies,
        hfields, rfl⟩
      refine ⟨(key, _), shellOf_eq_ok_iff.mpr ⟨type, constraints, dependencies, hhead,
        hconstraints, hdependencies, rfl⟩, bind_eq_ok_iff.mpr ⟨fields, ?_, rfl⟩⟩
      exact (hrow _ fields).mpr hfields

theorem listOfJson_eq_ok_iff {qs : List Question} :
    listOfJson scope index items = .ok qs ↔ List.Forall₂ Reads items qs := by
  rw [listOfJson_eq_readRow]
  exact readRow_eq_ok_iff fun _ _ _ _ => ofJson_eq_ok_iff

end Question

theorem slugOf?_eq_some_iff {v : Json} {slug : String} :
    slugOf? v = some slug ↔
      v.get? "slug" = some (.string slug) ∧ ∃ c ∈ slug.toList, Text.isBlank c = false := by
  rw [slugOf?, Option.filter_eq_some_iff, Json.getString?_eq_some_iff, Text.hasInk,
    List.any_eq_true]
  simp only [Bool.not_eq_true']

namespace Category

/-- What a category holds of its document. -/
structure Reads (v : Json) (c : Category) : Prop where
  slug : v.get? "slug" = some (.string c.slug)
  notBlank : ∃ char ∈ c.slug.toList, Text.isBlank char = false
  title : c.title = v.getString? "title"
  questions : List.Forall₂ Question.Reads (v.getItems "questions") c.questions

theorem listOfJson_eq_readRow (sectionSlug : String) (index : Nat) (items : List Json) :
    listOfJson sectionSlug index items = readRow (ofJson sectionSlug) index items :=
  eq_readRow (fun _ => rfl) (fun _ _ _ => rfl)

variable {sectionSlug : String} {v : Json} {c : Category}

theorem ofJson_of_slug {slug : String} (h : slugOf? v = some slug) :
    ofJson sectionSlug index v = do
      let questions ← Question.listOfJson (sectionSlug ++ "/" ++ slug) 0 (v.getItems "questions")
      return ⟨slug, v.getString? "title", questions⟩ := by
  rw [ofJson, h]

theorem ofJson_of_no_slug (h : slugOf? v = none) :
    ofJson sectionSlug index v = .error (.categorySlug sectionSlug index) := by
  rw [ofJson, h]

theorem Reads.slugOf?_eq (h : Reads v c) : slugOf? v = some c.slug :=
  slugOf?_eq_some_iff.mpr ⟨h.slug, h.notBlank⟩

theorem ofJson_eq_ok_iff : ofJson sectionSlug index v = .ok c ↔ Reads v c := by
  cases hslug : slugOf? v with
  | none =>
    rw [ofJson_of_no_slug hslug]
    apply iff_of_false nofun
    intro h
    cases hslug.symm.trans h.slugOf?_eq
  | some slug =>
    rw [ofJson_of_slug hslug, bind_eq_ok_iff]
    simp only [Question.listOfJson_eq_ok_iff]
    constructor
    · rintro ⟨questions, hquestions, hc⟩
      cases hc
      obtain ⟨hget, hink⟩ := slugOf?_eq_some_iff.mp hslug
      exact ⟨hget, hink, rfl, hquestions⟩
    · intro h
      cases hslug.symm.trans h.slugOf?_eq
      exact ⟨c.questions, h.questions, by rw [← h.title]; rfl⟩

theorem listOfJson_eq_ok_iff {cs : List Category} :
    listOfJson sectionSlug index items = .ok cs ↔ List.Forall₂ Reads items cs := by
  rw [listOfJson_eq_readRow]
  exact readRow_eq_ok_iff fun _ _ _ _ => ofJson_eq_ok_iff

end Category

/-- What a section holds of its member `submit`: an object has the settings of a button, an array
stands for one without settings, and anything else for no button. -/
inductive SubmitSpec.Reads : Option Json → Option SubmitSpec → Prop
  | missing : Reads none none
  | object {members : List (String × Json)} {spec : SubmitSpec}
      (label : spec.label = (Json.object members).getString? "label")
      (class? : spec.class? = (Json.object members).getString? "class")
      (attr : spec.attr = .ofList ((Json.object members).getMembers "attr")) :
      Reads (some (.object members)) (some spec)
  | array (items : List Json) : Reads (some (.array items)) (some ⟨none, none, .empty⟩)
  | other {v : Json} (notObject : ∀ members, v ≠ .object members)
      (notArray : ∀ items, v ≠ .array items) : Reads (some v) none

theorem SubmitSpec.reads_iff {v : Option Json} {spec : Option SubmitSpec} :
    Reads v spec ↔ spec = ofJson? v := by
  constructor
  · intro h
    cases h with
    | missing => rfl
    | @object members spec label class? attr =>
      obtain ⟨_, _, _⟩ := spec
      cases label
      cases class?
      cases attr
      rfl
    | array items => rfl
    | @other v notObject notArray =>
      cases v with
      | object members => cases notObject members rfl
      | array items => cases notArray items rfl
      | _ => rfl
  · intro h
    cases h
    cases v with
    | none => exact .missing
    | some v =>
      cases v with
      | object members => exact .object rfl rfl rfl
      | array items => exact .array items
      | _ => exact .other nofun nofun

namespace Section

/-- What a section holds of its document. -/
structure Reads (v : Json) (s : Section) : Prop where
  slug : v.get? "slug" = some (.string s.slug)
  notBlank : ∃ char ∈ s.slug.toList, Text.isBlank char = false
  title : s.title = v.getString? "title"
  categories : List.Forall₂ Category.Reads (v.getItems "categories") s.categories
  submit : SubmitSpec.Reads (v.get? "submit") s.submit

theorem listOfJson_eq_readRow (index : Nat) (items : List Json) :
    listOfJson index items = readRow ofJson index items :=
  eq_readRow (fun _ => rfl) (fun _ _ _ => rfl)

variable {v : Json} {s : Section}

theorem ofJson_of_slug {slug : String} (h : slugOf? v = some slug) :
    ofJson index v = do
      let categories ← Category.listOfJson slug 0 (v.getItems "categories")
      return ⟨slug, v.getString? "title", categories, SubmitSpec.ofJson? (v.get? "submit")⟩ := by
  rw [ofJson, h]

theorem ofJson_of_no_slug (h : slugOf? v = none) :
    ofJson index v = .error (.sectionSlug index) := by
  rw [ofJson, h]

theorem Reads.slugOf?_eq (h : Reads v s) : slugOf? v = some s.slug :=
  slugOf?_eq_some_iff.mpr ⟨h.slug, h.notBlank⟩

theorem ofJson_eq_ok_iff : ofJson index v = .ok s ↔ Reads v s := by
  cases hslug : slugOf? v with
  | none =>
    rw [ofJson_of_no_slug hslug]
    apply iff_of_false nofun
    intro h
    cases hslug.symm.trans h.slugOf?_eq
  | some slug =>
    rw [ofJson_of_slug hslug, bind_eq_ok_iff]
    simp only [Category.listOfJson_eq_ok_iff]
    constructor
    · rintro ⟨categories, hcategories, hs⟩
      cases hs
      obtain ⟨hget, hink⟩ := slugOf?_eq_some_iff.mp hslug
      exact ⟨hget, hink, rfl, hcategories, SubmitSpec.reads_iff.mpr rfl⟩
    · intro h
      cases hslug.symm.trans h.slugOf?_eq
      have hsubmit := SubmitSpec.reads_iff.mp h.submit
      exact ⟨s.categories, h.categories, by rw [← h.title, ← hsubmit]; rfl⟩

theorem listOfJson_eq_ok_iff {ss : List Section} :
    listOfJson index items = .ok ss ↔ List.Forall₂ Reads items ss := by
  rw [listOfJson_eq_readRow]
  exact readRow_eq_ok_iff fun _ _ _ _ => ofJson_eq_ok_iff

end Section

/-- What a form holds of its display options for one sort of groups: attributes that are no object
are none. -/
inductive GroupDisplay.Reads : Option Json → GroupDisplay → Prop
  | missing : Reads none ⟨[], []⟩
  | given (v : Json) : Reads (some v) ⟨v.getMembers "attr", v.getMembers "label_attr"⟩

theorem GroupDisplay.reads_iff {v : Option Json} {d : GroupDisplay} :
    Reads v d ↔ d = ofJson v := by
  constructor
  · intro h
    cases h <;> rfl
  · intro h
    cases h
    cases v with
    | none => exact .missing
    | some v => exact .given v

namespace FormSchema

variable {v : Json} {s : FormSchema}

theorem headOf_eq_ok_iff {slug : String} {items : List Json} :
    headOf v = .ok (slug, items) ↔
      v.get? "slug" = some (.string slug) ∧ v.get? "sections" = some (.array items) := by
  constructor
  · intro h
    rw [headOf] at h
    split at h
    · cases h
    dsimp only at h
    split at h
    · cases h
    rename_i sections hsections
    simp only [pure_bind] at h
    split at h
    · cases h
    · rename_i slug' hslug
      split at h
      · cases h
        exact ⟨(Option.filter_eq_some_iff.mp hslug).1, (Option.filter_eq_some_iff.mp hsections).1⟩
      · cases h
    · cases h
  · rintro ⟨hslug, hsections⟩
    obtain ⟨members, rfl⟩ := Json.exists_object_of_get? hslug
    rw [headOf, Json.getNonNull?, Json.getNonNull?, hslug, hsections]
    rfl

theorem ofJson_of_head {slug : String} {items : List Json} (h : headOf v = .ok (slug, items)) :
    ofJson v = do
      let sections ← Section.listOfJson 0 items
      let display := fun name => GroupDisplay.ofJson ((v.get? "displayOptions").bind (·.get? name))
      return ⟨slug, sections, display "sections", display "categories"⟩ := by
  rw [ofJson, h]
  rfl

/-- What a form holds of its document. -/
structure Reads (v : Json) (s : FormSchema) : Prop where
  slug : v.get? "slug" = some (.string s.slug)
  sections : ∃ items, v.get? "sections" = some (.array items) ∧
    List.Forall₂ Section.Reads items s.sections
  sectionDisplay : GroupDisplay.Reads
    ((v.get? "displayOptions").bind (·.get? "sections")) s.sectionDisplay
  categoryDisplay : GroupDisplay.Reads
    ((v.get? "displayOptions").bind (·.get? "categories")) s.categoryDisplay

theorem ofJson_eq_ok_iff : ofJson v = .ok s ↔ Reads v s := by
  rw [ofJson, bind_eq_ok_iff]
  constructor
  · rintro ⟨⟨slug, items⟩, hhead, h⟩
    obtain ⟨sections, hsections, hs⟩ := bind_eq_ok_iff.mp h
    obtain ⟨hslug, hitems⟩ := headOf_eq_ok_iff.mp hhead
    cases hs
    exact ⟨hslug, ⟨items, hitems, Section.listOfJson_eq_ok_iff.mp hsections⟩,
      GroupDisplay.reads_iff.mpr rfl, GroupDisplay.reads_iff.mpr rfl⟩
  · rintro ⟨hslug, ⟨items, hitems, hsections⟩, hsectionDisplay, hcategoryDisplay⟩
    rw [GroupDisplay.reads_iff] at hsectionDisplay hcategoryDisplay
    refine ⟨(s.slug, items), headOf_eq_ok_iff.mpr ⟨hslug, hitems⟩, bind_eq_ok_iff.mpr
      ⟨s.sections, Section.listOfJson_eq_ok_iff.mpr hsections, ?_⟩⟩
    dsimp only
    rw [← hsectionDisplay, ← hcategoryDisplay]
    rfl

end FormSchema

end Questionnaire
