import Questionnaire.Proofs.Form.Layout

namespace Questionnaire

theorem findSome?_eq_some_iff_getElem? {α β : Type} {f : α → Option β} {l : List α} {b : β} :
    l.findSome? f = some b ↔ ∃ (i : Nat) (a : α), l[i]? = some a ∧ f a = some b ∧
      ∀ (j : Nat) (a' : α), j < i → l[j]? = some a' → f a' = none := by
  rw [List.findSome?_eq_some_iff]
  constructor
  · rintro ⟨before, a, after, rfl, ha, hbefore⟩
    refine ⟨before.length, a, by simp, ha, fun j a' hj ha' => hbefore a' ?_⟩
    rw [List.getElem?_append_left hj] at ha'
    exact List.mem_of_getElem? ha'
  · rintro ⟨i, a, hi, ha, hbefore⟩
    obtain ⟨hlt, rfl⟩ := List.getElem?_eq_some_iff.mp hi
    refine ⟨l.take i, l[i], l.drop (i + 1), ?_, ha, fun a' ha' => ?_⟩
    · rw [List.getElem_cons_drop, List.take_append_drop]
    · obtain ⟨j, hj⟩ := List.mem_iff_getElem?.mp ha'
      rw [List.getElem?_take] at hj
      split at hj
      · rename_i hji
        exact hbefore j a' hji hj
      · cases hj

namespace Question

variable (config : Config) (d : Context) (q : Question)

/-- All checks of a question against the data seeded up to it. -/
structure Passes : Prop where
  suits : ∃ default, coerce q.kind (d.resolve q.key) = .ok default
  accepted : ∀ block ∈ q.blocks, config.registry.Accepts block
  decided : ∀ g, q.dependencies = some (.rule g) →
    ∃ b, g.evaluate config.maxConditionDepth d = .ok b

/-- The policy leaves out a question whose value does not suit its kind. -/
def LeftOut : Prop :=
  config.onCoercionError = .skip ∧ ∃ e, coerce q.kind (d.resolve q.key) = .error e

/-- A question does not stop a build if it is left out or passes its checks. -/
def Clears : Prop :=
  q.LeftOut config d ∨ q.Passes config d

/-- The first check that a question fails, with the error that the build gets from it. -/
inductive FailsWith : BuildError → Prop
  | coercion {e : CoercionError} (policy : config.onCoercionError = .abort)
      (unsuited : coerce q.kind (d.resolve q.key) = .error e) :
      FailsWith (.coercion q.key e)
  | constraint {default : Option Value} {before after : List ConstraintBlock}
      {block : ConstraintBlock} {e : ConstraintError}
      (suits : coerce q.kind (d.resolve q.key) = .ok default)
      (blocks : q.blocks = before ++ block :: after)
      (accepted : ∀ b ∈ before, config.registry.Accepts b)
      (refused : config.registry.describeAll block.entries = .error e) :
      FailsWith (.constraint block.key e)
  | visibility {default : Option Value} {g : Group} {e : VisibilityError}
      (suits : coerce q.kind (d.resolve q.key) = .ok default)
      (accepted : ∀ block ∈ q.blocks, config.registry.Accepts block)
      (rule : q.dependencies = some (.rule g))
      (undecided : g.evaluate config.maxConditionDepth d = .error e) :
      FailsWith (.visibility q.key e)

end Question

namespace Stage

variable {config : Config} {p : Stage}

theorem ruleFault?_of_rule {g : Group} (h : p.question.dependencies = some (.rule g)) :
    p.ruleFault? config =
      match g.evaluate config.maxConditionDepth p.data with
      | .ok _ => none
      | .error v => some (.visibility p.question.key v) := by
  rw [ruleFault?, Question.isShown]
  rw [h]
  dsimp only
  cases g.evaluate config.maxConditionDepth p.data <;> rfl

theorem ruleFault?_of_no_rule (h : ∀ g, p.question.dependencies ≠ some (.rule g)) :
    p.ruleFault? config = none := by
  rw [ruleFault?, Question.isShown]
  split
  · rfl
  · rename_i hshown
    split at hshown
    · exact absurd ‹_› (h _)
    · cases hshown

theorem ruleFault?_eq_none_iff :
    p.ruleFault? config = none ↔ ∀ g, p.question.dependencies = some (.rule g) →
      ∃ b, g.evaluate config.maxConditionDepth p.data = .ok b := by
  by_cases hrule : ∃ g, p.question.dependencies = some (.rule g)
  · obtain ⟨g, hg⟩ := hrule
    rw [ruleFault?_of_rule hg, hg]
    cases hv : g.evaluate config.maxConditionDepth p.data with
    | ok b => simp [hv]
    | error v => simp [hv]
  · exact ⟨fun _ g hg => absurd ⟨g, hg⟩ hrule,
      fun _ => ruleFault?_of_no_rule fun g hg => hrule ⟨g, hg⟩⟩

theorem ruleFault?_eq_some_iff {e : BuildError} :
    p.ruleFault? config = some e ↔ ∃ g v, p.question.dependencies = some (.rule g) ∧
      g.evaluate config.maxConditionDepth p.data = .error v ∧
      e = .visibility p.question.key v := by
  constructor
  · intro h
    by_cases hrule : ∃ g, p.question.dependencies = some (.rule g)
    · obtain ⟨g, hg⟩ := hrule
      rw [ruleFault?_of_rule hg] at h
      cases hv : g.evaluate config.maxConditionDepth p.data with
      | ok b =>
        rw [hv] at h
        cases h
      | error v =>
        rw [hv] at h
        exact ⟨g, v, hg, hv, (Option.some.inj h).symm⟩
    · rw [ruleFault?_of_no_rule fun g hg => hrule ⟨g, hg⟩] at h
      cases h
  · rintro ⟨g, v, hg, hv, rfl⟩
    rw [ruleFault?_of_rule hg, hv]

theorem blocks_accepted_iff {r : Registry} {blocks : List ConstraintBlock} :
    blocks.findSome? r.refusal? = none ↔ ∀ block ∈ blocks, r.Accepts block := by
  rw [List.findSome?_eq_none_iff]
  exact forall₂_congr fun block _ => Registry.refusal?_eq_none_iff

/-- Only the policy and the checks of the question decide whether a stage has a fault. -/
theorem fault?_eq_none_iff :
    p.fault? config = none ↔ p.question.Clears config p.data := by
  rw [fault?, default?, Question.Clears]
  cases hc : coerce p.question.kind (p.data.resolve p.question.key) with
  | ok default =>
    rw [Option.or_eq_none_iff, blocks_accepted_iff, ruleFault?_eq_none_iff]
    constructor
    · rintro ⟨haccepted, hdecided⟩
      exact .inr ⟨⟨default, hc⟩, haccepted, hdecided⟩
    · rintro (⟨-, e, he⟩ | hpasses)
      · rw [hc] at he
        cases he
      · exact ⟨hpasses.accepted, hpasses.decided⟩
  | error e =>
    have hunsuited : ¬ p.question.Passes config p.data := by
      rintro ⟨⟨default, hd⟩, -, -⟩
      rw [hc] at hd
      cases hd
    cases hpolicy : config.onCoercionError with
    | skip => exact iff_of_true rfl (.inl ⟨hpolicy, e, hc⟩)
    | abort =>
      constructor
      · intro h
        cases h
      · rintro (⟨hskip, -⟩ | hpasses)
        · rw [hpolicy] at hskip
          cases hskip
        · exact absurd hpasses hunsuited

theorem blocks_refused_iff {r : Registry} {blocks : List ConstraintBlock} {e : BuildError} :
    blocks.findSome? r.refusal? = some e ↔
      ∃ before block after c, blocks = before ++ block :: after ∧
        (∀ b ∈ before, r.Accepts b) ∧ r.describeAll block.entries = .error c ∧
        e = .constraint block.key c := by
  rw [List.findSome?_eq_some_iff]
  constructor
  · rintro ⟨before, block, after, hblocks, hrefused, hbefore⟩
    obtain ⟨c, hc, he⟩ := Registry.refusal?_eq_some_iff.mp hrefused
    exact ⟨before, block, after, c, hblocks,
      fun b hb => Registry.refusal?_eq_none_iff.mp (hbefore b hb), hc, he⟩
  · rintro ⟨before, block, after, c, hblocks, hbefore, hc, he⟩
    exact ⟨before, block, after, hblocks, Registry.refusal?_eq_some_iff.mpr ⟨c, hc, he⟩,
      fun b hb => Registry.refusal?_eq_none_iff.mpr (hbefore b hb)⟩

theorem fault?_eq_some_iff {e : BuildError} :
    p.fault? config = some e ↔ p.question.FailsWith config p.data e := by
  rw [fault?, default?]
  cases hc : coerce p.question.kind (p.data.resolve p.question.key) with
  | ok default =>
    rw [Option.or_eq_some_iff, blocks_accepted_iff, blocks_refused_iff, ruleFault?_eq_some_iff]
    constructor
    · rintro (⟨before, block, after, c, hblocks, hbefore, hrefused, rfl⟩ |
        ⟨haccepted, g, v, hrule, hg, rfl⟩)
      · exact .constraint hc hblocks hbefore hrefused
      · exact .visibility hc haccepted hrule hg
    · intro h
      cases h with
      | coercion _ hunsuited =>
        rw [hc] at hunsuited
        cases hunsuited
      | constraint _ hblocks hbefore hrefused =>
        exact .inl ⟨_, _, _, _, hblocks, hbefore, hrefused, rfl⟩
      | visibility _ haccepted hrule hg => exact .inr ⟨haccepted, _, _, hrule, hg, rfl⟩
  | error c =>
    constructor
    · intro h
      cases hpolicy : config.onCoercionError with
      | skip =>
        rw [hpolicy] at h
        cases h
      | abort =>
        rw [hpolicy] at h
        cases h
        exact .coercion hpolicy hc
    · intro h
      cases h with
      | coercion hpolicy hunsuited =>
        rw [hc] at hunsuited
        cases hunsuited
        rw [hpolicy]
      | constraint hsuits | visibility hsuits =>
        rw [hc] at hsuits
        cases hsuits

end Stage

namespace FormSchema

/-- The data as it is seeded with the questions up to a position. -/
def dataAt (s : FormSchema) (d : Context) (i : Nat) : Context :=
  d.seedAll (s.questions.take (i + 1))

variable {config : Config} {s : FormSchema} {d : Context}

theorem getElem?_stages_eq_some_iff {i : Nat} {p : Stage} :
    (d.stages s.questions)[i]? = some p ↔
      ∃ q, s.questions[i]? = some q ∧ p = ⟨q, s.dataAt d i⟩ := by
  rw [Context.getElem?_stages, Option.map_eq_some_iff]
  simp only [dataAt, eq_comm]

theorem fault?_eq_none_iff :
    d.fault? config s.questions = none ↔ ∀ (i : Nat) (q : Question), s.questions[i]? = some q →
      q.Clears config (s.dataAt d i) := by
  rw [Context.fault?, List.findSome?_eq_none_iff]
  constructor
  · intro h i q hq
    have hp := getElem?_stages_eq_some_iff (d := d).mpr ⟨q, hq, rfl⟩
    exact Stage.fault?_eq_none_iff.mp (h _ (List.mem_of_getElem? hp))
  · intro h p hp
    obtain ⟨i, hi⟩ := List.mem_iff_getElem?.mp hp
    obtain ⟨q, hq, rfl⟩ := getElem?_stages_eq_some_iff.mp hi
    exact Stage.fault?_eq_none_iff.mpr (h i q hq)

theorem fault?_eq_some_iff {e : BuildError} :
    d.fault? config s.questions = some e ↔
      ∃ (i : Nat) (q : Question), s.questions[i]? = some q ∧ q.FailsWith config (s.dataAt d i) e ∧
        ∀ (j : Nat) (p : Question), j < i → s.questions[j]? = some p →
          p.Clears config (s.dataAt d j) := by
  rw [Context.fault?, findSome?_eq_some_iff_getElem?]
  constructor
  · rintro ⟨i, p, hp, he, hbefore⟩
    obtain ⟨q, hq, rfl⟩ := getElem?_stages_eq_some_iff.mp hp
    refine ⟨i, q, hq, Stage.fault?_eq_some_iff.mp he, fun j p hj hp => ?_⟩
    have hstage := getElem?_stages_eq_some_iff (d := d).mpr ⟨p, hp, rfl⟩
    exact Stage.fault?_eq_none_iff.mp (hbefore j _ hj hstage)
  · rintro ⟨i, q, hq, he, hbefore⟩
    refine ⟨i, _, getElem?_stages_eq_some_iff.mpr ⟨q, hq, rfl⟩,
      Stage.fault?_eq_some_iff.mpr he, fun j p hj hp => ?_⟩
    obtain ⟨p, hq', rfl⟩ := getElem?_stages_eq_some_iff.mp hp
    exact Stage.fault?_eq_none_iff.mpr (hbefore j p hj hq')

theorem exists_tree_iff :
    (∃ t, (s.build config d).result = .ok t) ↔
      ∀ (i : Nat) (q : Question), s.questions[i]? = some q → q.Clears config (s.dataAt d i) := by
  rw [← fault?_eq_none_iff]
  constructor
  · rintro ⟨t, ht⟩
    exact (build_eq_ok_iff.mp ht).1
  · intro hnone
    exact ⟨_, build_eq_ok_iff.mpr ⟨hnone, rfl⟩⟩

/-- A build goes through exactly if no question stops it, and fails exactly with the first failure
of the first question that does. A question that its rule hides is no exception. -/
theorem build_stops_at_first_failure (config : Config) (s : FormSchema) (d : Context) :
    ((∃ t, (s.build config d).result = .ok t) ↔
      ∀ (i : Nat) (q : Question), s.questions[i]? = some q → q.Clears config (s.dataAt d i)) ∧
    (∀ e, (s.build config d).result = .error e ↔
      ∃ (i : Nat) (q : Question), s.questions[i]? = some q ∧ q.FailsWith config (s.dataAt d i) e ∧
        ∀ (j : Nat) (p : Question), j < i → s.questions[j]? = some p →
          p.Clears config (s.dataAt d j)) ∧
    (∀ (i : Nat) (q : Question) (g : Group), s.questions[i]? = some q →
      q.dependencies = some (.rule g) →
      g.evaluate config.maxConditionDepth (s.dataAt d i) = .ok false →
      ¬ q.Clears config (s.dataAt d i) → ∃ e, (s.build config d).result = .error e) := by
  refine ⟨exists_tree_iff, fun e => by rw [build_eq_error_iff, fault?_eq_some_iff], ?_⟩
  intro i q g hq _ _ hstops
  cases hb : (s.build config d).result with
  | ok t => exact absurd (exists_tree_iff.mp ⟨t, hb⟩ i q hq) hstops
  | error e => exact ⟨e, rfl⟩

/-- A question that hides itself, with an unknown constraint in the entries of its entries. -/
def hiddenRows : Question where
  key := "rows"
  type := "collection"
  label := none
  required := none
  data := none
  constraints := none
  dependencies := some (.rule ⟨.and, [.comparison ⟨some "rows", some .isNotNull⟩]⟩)
  fields := [⟨"inner", "collection", none, none, none, none, none,
    [⟨"cell", "text", none, none, none, some [("Bogus", .null)], none, [], []⟩], []⟩]
  options := []

def hiddenRowsSchema : FormSchema where
  slug := "form"
  sections := [⟨"s", none, [⟨"c", none,
    [⟨"first", "text", none, none, none, none, none, [], []⟩, hiddenRows]⟩], none⟩]
  sectionDisplay := ⟨[], []⟩
  categoryDisplay := ⟨[], []⟩

theorem build_stops_at_first_failure_hiddenRows :
    Group.evaluate Group.defaultLimit (hiddenRowsSchema.dataAt .empty 1)
      ⟨.and, [.comparison ⟨some "rows", some .isNotNull⟩]⟩ = .ok false ∧
    ¬ hiddenRows.Clears {} (hiddenRowsSchema.dataAt .empty 1) ∧
    (∃ e, (hiddenRowsSchema.build {} .empty).result = .error e) ∧
    (hiddenRowsSchema.build {} .empty).result = .error (.constraint "cell" (.unknown "Bogus")) := by
  have hrefused : (Config.registry {}).describeAll [("Bogus", .null)] =
      .error (.unknown "Bogus") := rfl
  have hstops : ¬ hiddenRows.Clears {} (hiddenRowsSchema.dataAt .empty 1) := by
    rintro (⟨hskip, -⟩ | ⟨-, haccepted, -⟩)
    · cases hskip
    · obtain ⟨descriptors, h⟩ := haccepted ⟨"cell", [("Bogus", .null)]⟩
        (List.mem_of_getElem? (i := 2) rfl)
      cases hrefused.symm.trans h
  obtain ⟨-, herror, hhidden⟩ := build_stops_at_first_failure {} hiddenRowsSchema .empty
  refine ⟨rfl, hstops, hhidden 1 hiddenRows _ rfl rfl rfl hstops, (herror _).mpr ?_⟩
  refine ⟨1, hiddenRows, rfl, ?_, fun j p hj hp => ?_⟩
  · have hblocks : hiddenRows.blocks =
        [⟨"rows", []⟩, ⟨"inner", []⟩] ++ ⟨"cell", [("Bogus", .null)]⟩ :: [] := rfl
    refine .constraint rfl hblocks (fun b hb => ?_) hrefused
    rcases List.mem_cons.mp hb with rfl | hb
    · exact ⟨[], rfl⟩
    · cases List.mem_singleton.mp hb
      exact ⟨[], rfl⟩
  · obtain rfl : j = 0 := by omega
    cases hp
    refine .inr ⟨⟨none, rfl⟩, fun b hb => ?_, nofun⟩
    cases List.mem_singleton.mp hb
    exact ⟨[], rfl⟩

end FormSchema

end Questionnaire
