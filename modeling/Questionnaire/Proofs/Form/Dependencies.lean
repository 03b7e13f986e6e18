import Questionnaire.Proofs.Condition.Levels
import Questionnaire.Proofs.Condition.Nesting
import Questionnaire.Proofs.Form.Agreement
import Questionnaire.Proofs.Form.Checks
import Questionnaire.Proofs.Form.Entry
import Questionnaire.Proofs.Schema.WellFormed

namespace Questionnaire

/-- Blocks that are a rule or stand for none: those without anything, and objects with both members of
a group. -/
inductive Json.IsDependencyBlock : Json → Prop
  | null : IsDependencyBlock .null
  | emptyArray : IsDependencyBlock (.array [])
  | emptyObject : IsDependencyBlock (.object [])
  | group {members : List (String × Json)} (operator : "operator" ∈ members.map (·.1))
      (conditions : "conditions" ∈ members.map (·.1)) : IsDependencyBlock (.object members)

/-- The block of a question, null if there is none. -/
def Question.blockOf (v : Json) : Json :=
  (v.get? "displayDependencies").getD .null

variable {block : Json}

theorem Json.IsDependencyBlock.cases (h : block.IsDependencyBlock) :
    block.isBlank = true ∨ Condition.isGroupNode block = true := by
  cases h with
  | null => exact .inl rfl
  | emptyArray => exact .inl rfl
  | emptyObject => exact .inl rfl
  | group hoperator hconditions =>
    exact .inr (Condition.isGroupNode_iff.mpr ⟨_, rfl, hoperator, hconditions⟩)

theorem displays_of_blank (h : block.isBlank = true) (d : Context) : displays block d = .ok true := by
  rw [displays, if_pos h]

theorem displays_of_group {g : Group} (hgroup : Condition.isGroupNode block = true)
    (hread : Group.ofJson? block = some g) (d : Context) :
    displays block d = g.evaluate Group.defaultLimit d := by
  rw [displays, Condition.isBlank_of_isGroupNode hgroup, hread]
  rfl

theorem displays_of_unread (hgroup : Condition.isGroupNode block = true)
    (hread : Group.ofJson? block = none) (d : Context) :
    displays block d = .error (.tooDeep 128) := by
  rw [displays, Condition.isBlank_of_isGroupNode hgroup, hread]
  rfl

/-- Evaluation has a lower limit than reading, so only a block that is not read is refused with the
limit of reading. -/
theorem ofBlock?_eq_none_iff_displays (h : block.IsDependencyBlock) (d : Context) :
    Dependencies.ofBlock? block = none ↔ displays block d = .error (.tooDeep 128) := by
  rcases h.cases with hblank | hgroup
  · rw [displays_of_blank hblank, Dependencies.ofBlock?, if_pos hblank]
    refine iff_of_false (Option.some_ne_none _) (fun hdeep => ?_)
    cases hdeep
  · rw [Dependencies.ofBlock?_of_group hgroup, Option.map_eq_none_iff]
    cases hread : Group.ofJson? block with
    | none => exact iff_of_true rfl (displays_of_unread hgroup hread d)
    | some g =>
      rw [displays_of_group hgroup hread]
      refine iff_of_false (Option.some_ne_none g) (fun hdeep => ?_)
      -- a group that is read can only run into the limit of evaluation, which is another number
      have hlimit : 128 = Group.defaultLimit := (Group.levels_of_tooDeep hdeep).1
      cases hlimit

theorem isShown_of_ofBlock? {q : Question} (h : block.IsDependencyBlock)
    (hread : Dependencies.ofBlock? block = some q.dependencies) (d : Context) :
    q.isShown {} d = (displays block d).mapError (.visibility q.key) := by
  rcases h.cases with hblank | hgroup
  · rw [Dependencies.ofBlock?, if_pos hblank] at hread
    rw [displays_of_blank hblank, Question.isShown]
    rw [← Option.some.inj hread]
    rfl
  · rw [Dependencies.ofBlock?_of_group hgroup] at hread
    obtain ⟨g, hg, hrule⟩ := Option.map_eq_some_iff.mp hread
    rw [displays_of_group hgroup hg, Question.isShown]
    rw [← hrule]

namespace Question

variable {scope key : String} {index : Nat} {v : Json}

theorem ofJson_of_shellOf_error {e : SchemaError} (h : shellOf scope index v = .error e) :
    ofJson scope index v = .error e := by
  rw [ofJson_eq, h]
  rfl

theorem ofJson_of_deepBlock (hdeep : Dependencies.ofBlock? (blockOf v) = none) :
    (∃ fault, (headOf? v = .error fault ∨ constraintsOf? v = .error fault) ∧
      ofJson scope index v = .error (.question scope index fault)) ∨
    ∃ key, v.getString? "key" = some key ∧
      ofJson scope index v = .error (.conditionsTooDeep key) := by
  rw [blockOf] at hdeep
  -- key and type are checked first, then the constraints, and only then the block
  cases hhead : headOf? v with
  | error fault =>
    refine .inl ⟨fault, .inl rfl, ofJson_of_shellOf_error ?_⟩
    rw [shellOf, hhead]
    rfl
  | ok head =>
    obtain ⟨key, type⟩ := head
    cases hconstraints : constraintsOf? v with
    | error fault =>
      refine .inl ⟨fault, .inr rfl, ofJson_of_shellOf_error ?_⟩
      rw [shellOf, hhead, hconstraints]
      rfl
    | ok constraints =>
      have hkey := Json.getString?_eq_some_iff.mpr (headOf?_eq_ok_iff.mp hhead).1
      refine .inr ⟨key, hkey, ofJson_of_shellOf_error ?_⟩
      rw [shellOf, hhead, hconstraints, hdeep]
      rfl

theorem deepBlock_of_shellOf (h : shellOf scope index v = .error (.conditionsTooDeep key)) :
    v.getString? "key" = some key ∧ Dependencies.ofBlock? (blockOf v) = none := by
  rw [shellOf] at h
  cases hhead : headOf? v with
  | error fault =>
    rw [hhead] at h
    cases h
  | ok head =>
    obtain ⟨key', type⟩ := head
    have hkey := Json.getString?_eq_some_iff.mpr (headOf?_eq_ok_iff.mp hhead).1
    rw [hhead] at h
    cases hconstraints : constraintsOf? v with
    | error fault =>
      rw [hconstraints] at h
      cases h
    | ok constraints =>
      rw [hconstraints] at h
      cases hblock : Dependencies.ofBlock? ((v.get? "displayDependencies").getD .null) with
      | none =>
        rw [hblock] at h
        cases h
        exact ⟨hkey, hblock⟩
      | some dependencies =>
        rw [hblock] at h
        cases h

/-- A question that is refused for nesting has a block that nests too deep, or an entry field that is
refused for nesting. -/
theorem deepBlock_or_entry (h : ofJson scope index v = .error (.conditionsTooDeep key)) :
    (v.getString? "key" = some key ∧ Dependencies.ofBlock? (blockOf v) = none) ∨
    ∃ own i field, v.getString? "key" = some own ∧ (v.getItems "fields")[i]? = some field ∧
      ofJson (scope ++ ":" ++ own) i field = .error (.conditionsTooDeep key) := by
  rw [ofJson_eq] at h
  rcases bind_eq_error_iff.mp h with hshell | ⟨⟨own, question⟩, hshell, hfields⟩
  · exact .inl (deepBlock_of_shellOf hshell)
  · obtain ⟨type, -, -, hhead, -⟩ := shellOf_eq_ok_iff.mp hshell
    have hown := Json.getString?_eq_some_iff.mpr (headOf?_eq_ok_iff.mp hhead).1
    simp only [listOfJson_eq_readRow] at hfields
    obtain ⟨i, field, hi, hfield⟩ := exists_of_readRow_bind_error hfields
    exact .inr ⟨own, i, field, hown, hi, hfield⟩

end Question

namespace FormSchema

variable {s : FormSchema} {d : Context} {i : Nat} {q : Question} {r : Except VisibilityError Bool}

/-- A report and a build decide on the question at a position as given. A Boolean is the decision in
the row of the report, and is what a build keeps or hides the field by. An error is the error of either,
once they come to the question. -/
structure DecidesBy (s : FormSchema) (d : Context) (i : Nat) (q : Question)
    (r : Except VisibilityError Bool) : Prop where
  row : ∀ rows, s.decisions {} d = .ok rows →
    ∃ row, rows[i]? = some row ∧ row.key = q.key ∧ r = .ok row.visible
  reportError : ∀ e, r = .error e →
    (∀ (j : Nat) (p : Question), j < i → s.questions[j]? = some p →
      ∃ b, p.isShown {} (s.dataAt d j) = .ok b) →
    s.decisions {} d = .error (.visibility q.key e)
  assessment : ∀ f, q.define {} ((s.dataAt d i).resolve q.key) = .ok (.field f) →
    (q.assess {} (s.dataAt d i)).result =
      (r.mapError (.visibility q.key)).map fun b => if b then .included f else .hidden
  buildError : ∀ e, r = .error e →
    (∀ (j : Nat) (p : Question), j < i → s.questions[j]? = some p → p.Clears {} (s.dataAt d j)) →
    (∃ f, q.define {} ((s.dataAt d i).resolve q.key) = .ok (.field f)) →
    (s.build {} d).result = .error (.visibility q.key e)

theorem getElem?_stages_of_question (hq : s.questions[i]? = some q) :
    (d.stages s.questions)[i]? = some ⟨q, s.dataAt d i⟩ :=
  getElem?_stages_eq_some_iff.mpr ⟨q, hq, rfl⟩

theorem row_of_decisions {rows : List Decision} (hq : s.questions[i]? = some q)
    (h : s.decisions {} d = .ok rows) :
    ∃ row, rows[i]? = some row ∧ row.key = q.key ∧
      q.isShown {} (s.dataAt d i) = .ok row.visible := by
  rw [decisions_eq_verdict, verdict_eq_ok_iff] at h
  obtain ⟨hfault, rfl⟩ := h
  have hstage := getElem?_stages_of_question (d := d) hq
  have hnone := List.findSome?_eq_none_iff.mp hfault _ (List.mem_of_getElem? hstage)
  rw [questions, ← Section.map_stage_sites, List.getElem?_map, Option.map_eq_some_iff] at hstage
  obtain ⟨x, hx, hxstage⟩ := hstage
  refine ⟨x.decision {}, ?_, ?_, ?_⟩
  · rw [List.getElem?_map, hx]
    rfl
  · rw [Site.decision, hxstage]
  · have hshown := Stage.isShown_eq_verdict {} ⟨q, s.dataAt d i⟩
    rw [hnone] at hshown
    rw [Site.decision, hxstage]
    exact hshown

theorem exists_rule_of_isShown {D : Context} {e : VisibilityError}
    (h : q.isShown {} D = .error (.visibility q.key e)) :
    ∃ g, q.dependencies = some (.rule g) ∧ g.evaluate Group.defaultLimit D = .error e := by
  have hfault : Stage.ruleFault? {} ⟨q, D⟩ = some (.visibility q.key e) := by
    rw [Stage.ruleFault?, h]
  obtain ⟨g, v, hrule, hv, heq⟩ := Stage.ruleFault?_eq_some_iff.mp hfault
  cases heq
  exact ⟨g, hrule, hv⟩

theorem decidesBy_of_isShown (hq : s.questions[i]? = some q)
    (h : q.isShown {} (s.dataAt d i) = r.mapError (.visibility q.key)) : s.DecidesBy d i q r := by
  constructor
  case row =>
    intro rows hrows
    obtain ⟨row, hrow, hkey, hshown⟩ := row_of_decisions hq hrows
    exact ⟨row, hrow, hkey, mapError_eq_ok_iff.mp (h.symm.trans hshown)⟩
  case reportError =>
    rintro e rfl hbefore
    rw [decisions_eq_verdict, verdict_eq_error_iff, Context.ruleFault?,
      findSome?_eq_some_iff_getElem?]
    refine ⟨i, _, getElem?_stages_of_question hq, ?_, fun j p hj hp => ?_⟩
    · rw [Stage.ruleFault?, h]
      rfl
    · obtain ⟨earlier, hearlier, rfl⟩ := getElem?_stages_eq_some_iff.mp hp
      obtain ⟨b, hb⟩ := hbefore j earlier hj hearlier
      rw [Stage.ruleFault?, hb]
  case assessment =>
    intro f hf
    rw [Question.define] at hf
    rw [Question.assess, Journal.result_bind, hf]
    change (q.visible {} (s.dataAt d i) >>= _).result = _
    rw [Journal.result_bind, Question.result_visible, h]
    cases r with
    | error e => rfl
    | ok b => cases b <;> rfl
  case buildError =>
    rintro e rfl hbefore ⟨f, hf⟩
    -- the field is defined, so of all checks on the question only its rule is left to fail
    obtain ⟨default, hsuits, haccepted, -⟩ := Question.define_eq_field_iff.mp hf
    obtain ⟨g, hrule, hg⟩ := exists_rule_of_isShown h
    rw [build_eq_error_iff, fault?_eq_some_iff]
    exact ⟨i, q, hq, .visibility hsuits (Stage.blocks_accepted_iff.mp haccepted) hrule hg, hbefore⟩

/-- A block that stands for no rule or is one decides as it stands just as the question does that is
read from it: in a report and in a build it comes to the same Boolean, or to the same error with the
key. It is refused as too deep exactly if the question is refused for it, unless the question is
refused before that for its key, type or constraints; a question can also be refused for an entry field
that nests too deep. -/
theorem displays_as_question (v : Json) (hblock : (Question.blockOf v).IsDependencyBlock)
    (scope : String) (index : Nat) :
    (∀ d, displays (Question.blockOf v) d = .error (.tooDeep 128) →
      (∃ fault, (Question.headOf? v = .error fault ∨ constraintsOf? v = .error fault) ∧
        Question.ofJson scope index v = .error (.question scope index fault)) ∨
      ∃ key, v.getString? "key" = some key ∧
        Question.ofJson scope index v = .error (.conditionsTooDeep key)) ∧
    (∀ d key, Question.ofJson scope index v = .error (.conditionsTooDeep key) →
      (v.getString? "key" = some key ∧
        displays (Question.blockOf v) d = .error (.tooDeep 128)) ∨
      ∃ own i field, v.getString? "key" = some own ∧ (v.getItems "fields")[i]? = some field ∧
        Question.ofJson (scope ++ ":" ++ own) i field = .error (.conditionsTooDeep key)) ∧
    (∀ q, Question.ofJson scope index v = .ok q →
      ∀ (s : FormSchema) (d : Context) (i : Nat), s.questions[i]? = some q →
        s.DecidesBy d i q (displays (Question.blockOf v) (s.dataAt d i))) := by
  refine ⟨fun d hdeep => ?_, fun d key hrefused => ?_, fun q hread s d i hq => ?_⟩
  · exact Question.ofJson_of_deepBlock ((ofBlock?_eq_none_iff_displays hblock d).mpr hdeep)
  · rw [← ofBlock?_eq_none_iff_displays hblock d]
    exact Question.deepBlock_or_entry hrefused
  · obtain ⟨_, _, _, _, _, _, hdependencies, _, _⟩ := Question.ofJson_eq_ok_iff.mp hread
    have hread := Dependencies.ofBlock?_eq_some_iff.mpr hdependencies
    exact decidesBy_of_isShown hq (isShown_of_ofBlock? hblock hread _)

/-- A question with a block that nests too deep. -/
def deepQuestion (constraints : Json) : Json :=
  .object [("key", .string "rows"), ("type", .string "text"), ("constraints", constraints),
    ("displayDependencies", Group.nested 129)]

variable {constraints : Json}

theorem isDependencyBlock_deepQuestion :
    (Question.blockOf (deepQuestion constraints)).IsDependencyBlock :=
  .group (by decide) (by decide)

theorem ofBlock?_deepQuestion :
    Dependencies.ofBlock? (Question.blockOf (deepQuestion constraints)) = none :=
  Dependencies.ofBlock?_eq_none_iff.mpr ⟨rfl, 129, by decide, Group.chain_nested 128⟩

theorem displays_deepQuestion (d : Context) :
    displays (Question.blockOf (deepQuestion constraints)) d = .error (.tooDeep 128) :=
  (ofBlock?_eq_none_iff_displays isDependencyBlock_deepQuestion d).mp ofBlock?_deepQuestion

theorem ofJson_deepQuestion (scope : String) :
    Question.ofJson scope 0 (deepQuestion .null) = .error (.conditionsTooDeep "rows") := by
  rcases Question.ofJson_of_deepBlock (v := deepQuestion .null) ofBlock?_deepQuestion with
    ⟨fault, hhead | hconstraints, -⟩ | ⟨key, hkey, hread⟩
  · cases hhead
  · cases hconstraints
  · cases hkey
    exact hread

/-- A question without a rule, with the deep question as an entry field. -/
def deepRows : Json :=
  .object [("key", .string "rows"), ("type", .string "collection"),
    ("displayDependencies", .null), ("fields", .array [deepQuestion .null])]

/-- A question can be refused as too deep although its own block shows it, and a question whose block
is too deep can be refused for something else. -/
theorem deepRows_refused_and_shown :
    ((Question.blockOf deepRows).IsDependencyBlock ∧
      Question.ofJson "s/c" 0 deepRows = .error (.conditionsTooDeep "rows") ∧
      displays (Question.blockOf deepRows) .empty ≠ .error (.tooDeep 128)) ∧
    ((Question.blockOf (deepQuestion (.bool true))).IsDependencyBlock ∧
      displays (Question.blockOf (deepQuestion (.bool true))) .empty = .error (.tooDeep 128) ∧
      Question.ofJson "s/c" 0 (deepQuestion (.bool true)) =
        .error (.question "s/c" 0 .constraintsNotObject)) := by
  refine ⟨⟨.null, ?_, nofun⟩,
    ⟨isDependencyBlock_deepQuestion, displays_deepQuestion _, Question.ofJson_of_shellOf_error rfl⟩⟩
  have hshell : ∃ question, Question.shellOf "s/c" 0 deepRows = .ok ("rows", question) := ⟨_, rfl⟩
  obtain ⟨question, hshell⟩ := hshell
  have hfields : Question.listOfJson ("s/c" ++ ":" ++ "rows") 0 [deepQuestion .null] =
      .error (.conditionsTooDeep "rows") := by
    rw [Question.listOfJson]
    exact bind_eq_error_iff.mpr (.inl (ofJson_deepQuestion _))
  have hitems : deepRows.getItems "fields" = [deepQuestion .null] := Json.getItems_of_array rfl
  rw [Question.ofJson_eq, hitems]
  exact bind_eq_error_iff.mpr (.inr ⟨_, hshell, bind_eq_error_iff.mpr (.inl hfields)⟩)

/-- A question that is shown by the given operator over whether it has no value. -/
def selfRuled (operator : String) : Json :=
  .object [("key", .string "a"), ("type", .string "text"), ("displayDependencies", .object [
    ("operator", .string operator), ("conditions", .array [
      .object [("field", .string "a"), ("isNull", .null)]])])]

def onlyQuestion (q : Question) : FormSchema where
  slug := "form"
  sections := [⟨"s", none, [⟨"c", none, [q]⟩], none⟩]
  sectionDisplay := ⟨[], []⟩
  categoryDisplay := ⟨[], []⟩

theorem displays_as_question_selfRuled :
    displays (Question.blockOf (deepQuestion .null)) .empty = .error (.tooDeep 128) ∧
    (∃ q row, Question.ofJson "s/c" 0 (selfRuled "NOT") = .ok q ∧
      (onlyQuestion q).decisions {} .empty = .ok [row] ∧ row.visible = false ∧
      displays (Question.blockOf (selfRuled "NOT")) ((onlyQuestion q).dataAt .empty 0) =
        .ok row.visible) ∧
    (∃ q, Question.ofJson "s/c" 0 (selfRuled "XOR") = .ok q ∧
      displays (Question.blockOf (selfRuled "XOR")) ((onlyQuestion q).dataAt .empty 0) =
        .error (.unsupportedOperator "XOR") ∧
      (onlyQuestion q).decisions {} .empty =
        .error (.visibility "a" (.unsupportedOperator "XOR")) ∧
      ((onlyQuestion q).build {} .empty).result =
        .error (.visibility "a" (.unsupportedOperator "XOR"))) := by
  have hblock : ∀ operator, (Question.blockOf (selfRuled operator)).IsDependencyBlock :=
    fun operator => .group List.mem_cons_self (List.mem_cons_of_mem _ List.mem_cons_self)
  refine ⟨?_, ⟨_, _, rfl, rfl, rfl, ?_⟩, ⟨_, rfl, rfl, ?_, ?_⟩⟩
  · obtain ⟨-, hrefused, -⟩ :=
      displays_as_question (deepQuestion .null) isDependencyBlock_deepQuestion "s/c" 0
    rcases hrefused .empty "rows" (ofJson_deepQuestion _) with ⟨-, hdeep⟩ | ⟨_, _, _, _, hi, _⟩
    · exact hdeep
    · cases hi
  · have hdecides := (displays_as_question (selfRuled "NOT") (hblock _) "s/c" 0).2.2 _ rfl
      (onlyQuestion _) .empty 0 rfl
    obtain ⟨row, hrow, -, hvisible⟩ := hdecides.row _ rfl
    cases hrow
    exact hvisible
  · have hdecides := (displays_as_question (selfRuled "XOR") (hblock _) "s/c" 0).2.2 _ rfl
      (onlyQuestion _) .empty 0 rfl
    exact hdecides.reportError _ rfl fun j _ hj _ => absurd hj (Nat.not_lt_zero j)
  · have hdecides := (displays_as_question (selfRuled "XOR") (hblock _) "s/c" 0).2.2 _ rfl
      (onlyQuestion _) .empty 0 rfl
    exact hdecides.buildError _ rfl (fun j _ hj _ => absurd hj (Nat.not_lt_zero j)) ⟨_, rfl⟩

end FormSchema

end Questionnaire
