import Questionnaire.Proofs.Form.Arrangement

namespace Questionnaire

section Lists

variable {α β : Type} {l : List α} {i : Nat} {a : α}

theorem flatMap_modify (h : l[i]? = some a) (f : α → α) (g : α → List β) :
    (l.modify i f).flatMap g =
      (l.take i).flatMap g ++ (g (f a) ++ (l.drop (i + 1)).flatMap g) := by
  obtain ⟨hlt, rfl⟩ := List.getElem?_eq_some_iff.mp h
  rw [List.modify_eq_take_cons_drop hlt, List.flatMap_append, List.flatMap_cons]

theorem flatMap_split (h : l[i]? = some a) (g : α → List β) :
    l.flatMap g = (l.take i).flatMap g ++ (g a ++ (l.drop (i + 1)).flatMap g) := by
  have hmodify := flatMap_modify h id g
  rwa [List.modify_id] at hmodify

theorem modify_append_left (h : i < l.length) (f : α → α) (r : List α) :
    (l ++ r).modify i f = l.modify i f ++ r := by
  induction l generalizing i with
  | nil => cases h
  | cons b rest ih =>
    cases i with
    | zero => rfl
    | succ i =>
      rw [List.cons_append, List.modify_succ_cons, List.modify_succ_cons,
        ih (Nat.lt_of_succ_lt_succ h), List.cons_append]

theorem modify_of_fixed (h : l[i]? = some a) {f : α → α} (hf : f a = a) : l.modify i f = l := by
  induction l generalizing i with
  | nil => cases h
  | cons b rest ih =>
    cases i with
    | zero =>
      cases h
      rw [List.modify_zero_cons, hf]
    | succ i => rw [List.modify_succ_cons, ih (by simpa using h)]

theorem any_modify {f : α → α} {p : α → Bool} (h : ∀ a, p (f a) = p a) :
    (l.modify i f).any p = l.any p := by
  induction l generalizing i with
  | nil => rw [List.modify_nil]
  | cons b rest ih =>
    cases i with
    | zero => rw [List.modify_zero_cons, List.any_cons, List.any_cons, h]
    | succ i => rw [List.modify_succ_cons, List.any_cons, List.any_cons, ih]

end Lists

namespace FormNode

def children : FormNode → List FormNode
  | .group _ children => children
  | _ => []

def mapChildren (f : List FormNode → List FormNode) : FormNode → FormNode
  | .group header children => .group header (f children)
  | n => n

end FormNode

namespace FormTree

/-- The group of a category: the one at `j` in the group at `i`. -/
def group? (i j : Nat) (t : FormTree) : Option FormNode :=
  t.children[i]?.bind (·.children[j]?)

/-- The tree with other nodes in the group of a category. -/
def setNodes (i j : Nat) (ns : List FormNode) (t : FormTree) : FormTree :=
  ⟨t.name, t.children.modify i (.mapChildren (·.modify j (.mapChildren fun _ => ns))), t.data⟩

end FormTree

def Category.setQuestions (qs : List Question) (c : Category) : Category :=
  { c with questions := qs }

def Section.setQuestions (j : Nat) (qs : List Question) (s : Section) : Section :=
  { s with categories := s.categories.modify j (Category.setQuestions qs) }

namespace FormSchema

/-- The category at `j` in the section at `i`. -/
def category? (i j : Nat) (s : FormSchema) : Option Category :=
  s.sections[i]?.bind (·.categories[j]?)

/-- The form with other questions in a category. -/
def setQuestions (i j : Nat) (qs : List Question) (s : FormSchema) : FormSchema :=
  { s with sections := s.sections.modify i (Section.setQuestions j qs) }

/-- The questions that come ahead of a category. -/
def questionsAhead (i j : Nat) (s : FormSchema) : List Question :=
  (s.sections.take i).flatMap (·.questions) ++
    (s.sections[i]?.elim [] fun sec => (sec.categories.take j).flatMap (·.questions))

end FormSchema

section Replacement

variable {config : Config} {d : Context} {i j : Nat} {c : Category} {qs : List Question}

namespace Category

variable {display : GroupDisplay} {cs : List Category}

theorem getElem?_layout (config : Config) (display : GroupDisplay) (d : Context)
    (hc : cs[j]? = some c) :
    (layout config display d cs)[j]? = some (.group (display.header c.slug c.title)
      (((d.seedAll ((cs.take j).flatMap (·.questions))).fields config c.questions).map
        .field)) := by
  induction cs generalizing d j with
  | nil => cases hc
  | cons c' rest ih =>
    cases j with
    | zero =>
      cases hc
      rfl
    | succ j =>
      rw [List.getElem?_cons_succ] at hc
      rw [layout, List.getElem?_cons_succ, ih _ hc, List.take_succ_cons, List.flatMap_cons,
        Context.seedAll_append]

/-- Questions that seed the same data in the place of those of a category change its group only. -/
theorem layout_setQuestions (hc : cs[j]? = some c)
    (hseed : ∀ d : Context, d.seedAll qs = d.seedAll c.questions) :
    layout config display d (cs.modify j (setQuestions qs)) =
      (layout config display d cs).modify j (FormNode.mapChildren fun _ =>
        ((d.seedAll ((cs.take j).flatMap (·.questions))).fields config qs).map .field) := by
  induction cs generalizing d j with
  | nil => cases hc
  | cons c' rest ih =>
    cases j with
    | zero =>
      cases hc
      rw [List.modify_zero_cons, layout, layout, setQuestions, hseed]
      rfl
    | succ j =>
      rw [List.getElem?_cons_succ] at hc
      rw [List.modify_succ_cons, layout, layout, List.modify_succ_cons, ih hc, List.take_succ_cons,
        List.flatMap_cons, Context.seedAll_append]

end Category

namespace Section

variable {schema : FormSchema} {s : Section} {ss : List Section}

theorem seedAll_setQuestions (hc : s.categories[j]? = some c)
    (hseed : ∀ d : Context, d.seedAll qs = d.seedAll c.questions) :
    d.seedAll (s.setQuestions j qs).questions = d.seedAll s.questions := by
  rw [questions, questions, setQuestions, flatMap_modify hc, flatMap_split hc,
    Context.seedAll_append, Context.seedAll_append, Context.seedAll_append, Context.seedAll_append,
    Category.setQuestions, hseed]

theorem getElem?_layout (config : Config) (schema : FormSchema) (d : Context)
    (hs : ss[i]? = some s) :
    (layout config schema d ss)[i]? = some (.group (schema.sectionDisplay.header s.slug s.title)
      (Category.layout config schema.categoryDisplay
        (d.seedAll ((ss.take i).flatMap (·.questions))) s.categories ++ s.ending config)) := by
  induction ss generalizing d i with
  | nil => cases hs
  | cons s' rest ih =>
    cases i with
    | zero =>
      cases hs
      rfl
    | succ i =>
      rw [List.getElem?_cons_succ] at hs
      rw [layout, List.getElem?_cons_succ, ih _ hs, List.take_succ_cons, List.flatMap_cons,
        Context.seedAll_append]

theorem layout_setQuestions (hs : ss[i]? = some s) (hc : s.categories[j]? = some c)
    (hseed : ∀ d : Context, d.seedAll qs = d.seedAll c.questions) :
    layout config schema d (ss.modify i (setQuestions j qs)) =
      (layout config schema d ss).modify i (.mapChildren (·.modify j (.mapChildren fun _ =>
        (((d.seedAll ((ss.take i).flatMap (·.questions))).seedAll
          ((s.categories.take j).flatMap (·.questions))).fields config qs).map .field))) := by
  induction ss generalizing d i with
  | nil => cases hs
  | cons s' rest ih =>
    cases i with
    | zero =>
      cases hs
      -- a submit button comes after all groups of categories, so the index is not one of it
      obtain ⟨hlt, -⟩ := List.getElem?_eq_some_iff.mp
        (Category.getElem?_layout config schema.categoryDisplay d hc)
      rw [List.modify_zero_cons, layout, layout, seedAll_setQuestions hc hseed,
        List.modify_zero_cons, FormNode.mapChildren, modify_append_left hlt, setQuestions,
        Category.layout_setQuestions hc hseed]
      rfl
    | succ i =>
      rw [List.getElem?_cons_succ] at hs
      rw [List.modify_succ_cons, layout, layout, List.modify_succ_cons, ih hs, List.take_succ_cons,
        List.flatMap_cons, Context.seedAll_append]

theorem layout_congr {schema' : FormSchema}
    (hsection : schema.sectionDisplay = schema'.sectionDisplay)
    (hcategory : schema.categoryDisplay = schema'.categoryDisplay) :
    layout config schema d ss = layout config schema' d ss := by
  induction ss generalizing d with
  | nil => rfl
  | cons s rest ih => rw [layout, layout, ih, hsection, hcategory]

end Section

namespace FormSchema

variable {s : FormSchema}

theorem exists_section (hc : s.category? i j = some c) :
    ∃ sec, s.sections[i]? = some sec ∧ sec.categories[j]? = some c ∧
      s.questionsAhead i j = (s.sections.take i).flatMap (·.questions) ++
        (sec.categories.take j).flatMap (·.questions) := by
  obtain ⟨sec, hs, hj⟩ := Option.bind_eq_some_iff.mp hc
  refine ⟨sec, hs, hj, ?_⟩
  rw [questionsAhead, hs]
  rfl

theorem questions_setQuestions (hc : s.category? i j = some c) :
    ∃ later, s.questions = s.questionsAhead i j ++ (c.questions ++ later) ∧
      ∀ qs, (s.setQuestions i j qs).questions = s.questionsAhead i j ++ (qs ++ later) := by
  obtain ⟨sec, hs, hj, hahead⟩ := exists_section hc
  refine ⟨(sec.categories.drop (j + 1)).flatMap (·.questions) ++
    (s.sections.drop (i + 1)).flatMap (·.questions), ?_, fun qs => ?_⟩
  · rw [questions, flatMap_split hs, Section.questions, flatMap_split hj, hahead]
    simp only [List.append_assoc]
  · rw [questions, setQuestions, flatMap_modify hs, Section.questions, Section.setQuestions,
      flatMap_modify hj, hahead]
    simp only [List.append_assoc]
    rfl

theorem ending_setQuestions : (s.setQuestions i j qs).ending config = s.ending config := by
  have hany : (s.setQuestions i j qs).sections.any (·.submit.isSome) =
      s.sections.any (·.submit.isSome) := any_modify fun _ => rfl
  rw [ending, ending, hany]

theorem group?_tree (config : Config) (d : Context) (hc : s.category? i j = some c) :
    (s.tree config d).group? i j = some (.group (s.categoryDisplay.header c.slug c.title)
      (((d.seedAll (s.questionsAhead i j)).fields config c.questions).map .field)) := by
  obtain ⟨sec, hs, hj, hahead⟩ := exists_section hc
  have hsection := Section.getElem?_layout config s d hs
  have hcategory := Category.getElem?_layout config s.categoryDisplay
    (d.seedAll ((s.sections.take i).flatMap (·.questions))) hj
  obtain ⟨hi, -⟩ := List.getElem?_eq_some_iff.mp hsection
  obtain ⟨hj, -⟩ := List.getElem?_eq_some_iff.mp hcategory
  rw [tree, FormTree.group?, List.getElem?_append_left hi, hsection, Option.bind_some,
    FormNode.children, List.getElem?_append_left hj, hcategory, hahead, Context.seedAll_append]

theorem tree_setQuestions (config : Config) (d : Context) (hc : s.category? i j = some c)
    (hseed : ∀ d : Context, d.seedAll qs = d.seedAll c.questions) :
    (s.setQuestions i j qs).tree config d = (s.tree config d).setNodes i j
      (((d.seedAll (s.questionsAhead i j)).fields config qs).map .field) := by
  obtain ⟨sec, hs, hj, hahead⟩ := exists_section hc
  obtain ⟨later, hquestions, hreplaced⟩ := questions_setQuestions hc
  have hsection := Section.getElem?_layout config s d hs
  obtain ⟨hi, -⟩ := List.getElem?_eq_some_iff.mp hsection
  have hdata : d.seedAll (s.setQuestions i j qs).questions = d.seedAll s.questions := by
    simp only [hquestions, hreplaced, Context.seedAll_append, hseed]
  have hlayout : Section.layout config (s.setQuestions i j qs) d (s.setQuestions i j qs).sections =
      Section.layout config s d (s.sections.modify i (Section.setQuestions j qs)) :=
    Section.layout_congr rfl rfl
  rw [tree, hdata, ending_setQuestions, hlayout, Section.layout_setQuestions hs hj hseed, tree,
    FormTree.setNodes, modify_append_left hi, hahead, Context.seedAll_append]
  rfl

end FormSchema

end Replacement

theorem FormTree.setNodes_of_group {t : FormTree} {i j : Nat} {header : GroupHeader}
    {ns : List FormNode} (h : t.group? i j = some (.group header ns)) : t.setNodes i j ns = t := by
  obtain ⟨n, hi, hj⟩ := Option.bind_eq_some_iff.mp h
  cases n with
  | group header' children =>
    have hcategories : children.modify j (.mapChildren fun _ => ns) = children :=
      modify_of_fixed hj rfl
    rw [setNodes, modify_of_fixed hi]
    rw [FormNode.mapChildren, hcategories]
  | field | action => cases hj

end Questionnaire
