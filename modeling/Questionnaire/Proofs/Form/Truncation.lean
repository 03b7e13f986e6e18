import Questionnaire.Proofs.Form.Arrangement

namespace Questionnaire

/-- Categories in a row with their first `n` questions only. -/
def Category.takeQuestions (n : Nat) : List Category → List Category
  | [] => []
  | c :: rest =>
    { c with questions := c.questions.take n } :: takeQuestions (n - c.questions.length) rest

theorem Category.questions_takeQuestions (n : Nat) (cs : List Category) :
    (takeQuestions n cs).flatMap (·.questions) = (cs.flatMap (·.questions)).take n := by
  induction cs generalizing n with
  | nil => exact List.take_nil.symm
  | cons c rest ih => rw [takeQuestions, List.flatMap_cons, List.flatMap_cons, List.take_append, ih]

def Section.takeQuestions (n : Nat) : List Section → List Section
  | [] => []
  | s :: rest =>
    { s with categories := Category.takeQuestions n s.categories } ::
      takeQuestions (n - s.questions.length) rest

theorem Section.questions_takeQuestions (n : Nat) (ss : List Section) :
    (takeQuestions n ss).flatMap (·.questions) = (ss.flatMap (·.questions)).take n := by
  induction ss generalizing n with
  | nil => exact List.take_nil.symm
  | cons s rest ih =>
    rw [takeQuestions, List.flatMap_cons, List.flatMap_cons, List.take_append, ih]
    exact congrArg (· ++ _) (Category.questions_takeQuestions n s.categories)

/-- A schema with its first `n` questions only; no section or category is dropped. -/
def FormSchema.takeQuestions (n : Nat) (s : FormSchema) : FormSchema :=
  { s with sections := Section.takeQuestions n s.sections }

theorem FormSchema.questions_takeQuestions (n : Nat) (s : FormSchema) :
    (s.takeQuestions n).questions = s.questions.take n :=
  Section.questions_takeQuestions n s.sections

namespace Context

/-- Something is left to take after the questions only if all of them have been taken. -/
theorem take_seedAll_take {β : Type} (f : Context → List β) (d : Context) (qs : List Question)
    (n : Nat) :
    (f (d.seedAll (qs.take n))).take (n - qs.length) =
      (f (d.seedAll qs)).take (n - qs.length) := by
  by_cases h : n ≤ qs.length
  · rw [Nat.sub_eq_zero_of_le h, List.take_zero, List.take_zero]
  · rw [List.take_of_length_le (Nat.le_of_not_le h)]

end Context

theorem Category.length_sites (sectionSlug : String) (d : Context) (cs : List Category) :
    (sites sectionSlug d cs).length = (cs.flatMap (·.questions)).length := by
  have hstages := congrArg List.length (map_stage_sites sectionSlug d cs)
  rwa [List.length_map, Context.length_stages] at hstages

theorem Category.sites_takeQuestions (sectionSlug : String) (d : Context) (n : Nat)
    (cs : List Category) :
    sites sectionSlug d (takeQuestions n cs) = (sites sectionSlug d cs).take n := by
  induction cs generalizing d n with
  | nil => exact List.take_nil.symm
  | cons c rest ih =>
    rw [takeQuestions, sites, sites, ih, List.take_append, List.length_map, Context.length_stages,
      Context.take_seedAll_take (sites sectionSlug · rest), Context.stages_take, List.map_take]

theorem Section.sites_takeQuestions (d : Context) (n : Nat) (ss : List Section) :
    sites d (takeQuestions n ss) = (sites d ss).take n := by
  induction ss generalizing d n with
  | nil => exact List.take_nil.symm
  | cons s rest ih =>
    have hquestions : ({ s with categories := Category.takeQuestions n s.categories } :
        Section).questions = s.questions.take n := Category.questions_takeQuestions n s.categories
    have hlength : (Category.sites s.slug d s.categories).length = s.questions.length :=
      Category.length_sites s.slug d s.categories
    rw [takeQuestions, sites, sites, ih, hquestions, List.take_append, hlength,
      Category.sites_takeQuestions, Context.take_seedAll_take (sites · rest)]

namespace FormSchema

variable (config : Config) (s : FormSchema) (d : Context) (n : Nat)

theorem stages_takeQuestions_isPrefix :
    d.stages (s.takeQuestions n).questions <+: d.stages s.questions := by
  rw [questions_takeQuestions, Context.stages_take]
  exact List.take_prefix n _

/-- The build and the report of a truncated form tell what those of the whole form begin with: an
error stays the same error, and the fields and the rows are the first of all fields and rows. -/
theorem truncated_build_and_decisions :
    (∀ e, ((s.takeQuestions n).build config d).result = .error e →
      (s.build config d).result = .error e) ∧
    (∀ t, (s.build config d).result = .ok t →
      ∃ t', ((s.takeQuestions n).build config d).result = .ok t' ∧ t'.fields <+: t.fields) ∧
    (∀ e, (s.takeQuestions n).decisions config d = .error e →
      s.decisions config d = .error e) ∧
    (∀ rows, s.decisions config d = .ok rows →
      ∃ rows', (s.takeQuestions n).decisions config d = .ok rows' ∧ rows' <+: rows) := by
  have hstages := s.stages_takeQuestions_isPrefix d n
  refine ⟨fun e he => ?_, fun t ht => ?_, fun e he => ?_, fun rows hrows => ?_⟩
  · rw [build_eq_error_iff] at he ⊢
    exact hstages.findSome?_eq_some he
  · obtain ⟨hfault, rfl⟩ := build_eq_ok_iff.mp ht
    refine ⟨_, build_eq_ok_iff.mpr ⟨hstages.findSome?_eq_none hfault, rfl⟩, ?_⟩
    rw [fields_tree, fields_tree]
    exact hstages.filterMap (Stage.field? config)
  · rw [decisions_eq_verdict, verdict_eq_error_iff] at he ⊢
    exact hstages.findSome?_eq_some he
  · rw [decisions_eq_verdict, verdict_eq_ok_iff] at hrows
    obtain ⟨hfault, rfl⟩ := hrows
    have hrule : d.ruleFault? config (s.takeQuestions n).questions = none :=
      hstages.findSome?_eq_none hfault
    refine ⟨_, by rw [decisions_eq_verdict, hrule, verdict_none], ?_⟩
    rw [takeQuestions, Section.sites_takeQuestions]
    exact (List.take_prefix n _).map (Site.decision config)

/-- A question at the start of a form, with two more in two sections. -/
def startingWith (q : Question) : FormSchema where
  slug := "form"
  sections := [
    ⟨"s", none, [⟨"c", none, [q, ⟨"a", "text", none, none, none, none, none, [], []⟩]⟩], none⟩,
    ⟨"t", none, [⟨"c", none, [⟨"b", "text", none, none, none, none, none, [], []⟩]⟩], none⟩]
  sectionDisplay := ⟨[], []⟩
  categoryDisplay := ⟨[], []⟩

/-- A date that can be given a default and a rule that do not suit. -/
def dateQuestion (default : Option Json) (rule : Option Dependencies) : Question :=
  ⟨"date", "date", none, none, default, none, rule, [], []⟩

theorem truncated_build_and_decisions_startingWith :
    (let s := startingWith (dateQuestion (some (.bool true)) none)
      ∃ e, ((s.takeQuestions 1).build {} .empty).result = .error e ∧
        (s.build {} .empty).result = .error e) ∧
    (let s := startingWith (dateQuestion none none)
      ∃ t t', (s.build {} .empty).result = .ok t ∧
        ((s.takeQuestions 2).build {} .empty).result = .ok t' ∧ t'.fields <+: t.fields) ∧
    (let s := startingWith (dateQuestion none (some (.rule ⟨.other "XOR", [.group .and []]⟩)))
      ∃ e, (s.takeQuestions 1).decisions {} .empty = .error e ∧
        s.decisions {} .empty = .error e) ∧
    (let s := startingWith (dateQuestion none none)
      ∃ rows rows', s.decisions {} .empty = .ok rows ∧
        (s.takeQuestions 2).decisions {} .empty = .ok rows' ∧ rows' <+: rows) := by
  refine ⟨⟨_, rfl, ?_⟩, ?_, ⟨_, rfl, ?_⟩, ?_⟩
  · exact (truncated_build_and_decisions {} _ .empty 1).1 _ rfl
  · obtain ⟨t', ht'⟩ := (truncated_build_and_decisions {}
      (startingWith (dateQuestion none none)) .empty 2).2.1 _ rfl
    exact ⟨_, t', rfl, ht'⟩
  · exact (truncated_build_and_decisions {} _ .empty 1).2.2.1 _ rfl
  · obtain ⟨rows', hrows'⟩ := (truncated_build_and_decisions {}
      (startingWith (dateQuestion none none)) .empty 2).2.2.2 _ rfl
    exact ⟨_, rows', rfl, hrows'⟩

end FormSchema

end Questionnaire
