import Mathlib.Data.List.Forall2
import Questionnaire.Form.Outline

namespace Questionnaire

namespace FormNode

/-- What a node contains: the children of a group, the fields of an entry of a collection. -/
def parts : FormNode → List FormNode
  | .group _ children => children
  | .field f => f.entryFields.map .field
  | .action _ => []

/-- The text of a node itself. -/
def text : FormNode → String
  | .group header _ => header.line
  | .field f => f.line
  | .action a => a.line

/-- What a node puts before the lines of all that it contains. -/
def indent : FormNode → String
  | .group .. => "  "
  | .field _ => "  - "
  | .action _ => ""

/-- A node at an address, in a row of nodes or below it, with the nodes around it, the outermost
first. -/
inductive LiesAt : List FormNode → List Nat → List FormNode → FormNode → Prop
  | here {ns : List FormNode} {i : Nat} {n : FormNode} (h : ns[i]? = some n) : LiesAt ns [i] [] n
  | within {ns above : List FormNode} {i : Nat} {address : List Nat} {m n : FormNode}
      (h : ns[i]? = some m) (rest : LiesAt m.parts address above n) :
      LiesAt ns (i :: address) (m :: above) n

/-- How lines show a row of nodes with all that they contain. -/
structure Outlines (ns : List FormNode) (addresses : List (List Nat)) (lines : List String) :
    Prop where
  ordered : addresses.Pairwise (· < ·)
  complete : ∀ address, address ∈ addresses ↔ ∃ above n, LiesAt ns address above n
  /-- Each line is the text of its node, indented by all nodes around that. -/
  lines : List.Forall₂ (fun address line => ∃ above n, LiesAt ns address above n ∧
    line = String.join (above.map indent) ++ n.text) addresses lines

variable {ns rest above : List FormNode} {n m : FormNode} {address : List Nat}

theorem LiesAt.ne_nil (h : LiesAt ns address above n) : address ≠ [] := by
  cases h with
  | here h | within h rest => exact List.cons_ne_nil _ _

theorem not_liesAt_nil : ¬ LiesAt [] address above n := by
  intro h
  cases h with
  | here h | within h => cases h

/-- With one more node in front, the addresses of all others count one more sibling. -/
theorem liesAt_cons_iff : LiesAt (n :: rest) address above m ↔
    (address = [0] ∧ above = [] ∧ m = n) ∨
    (∃ address' above', address = 0 :: address' ∧ above = n :: above' ∧
      LiesAt n.parts address' above' m) ∨
    ∃ address', address = address'.modifyHead (· + 1) ∧ LiesAt rest address' above m := by
  constructor
  · intro h
    cases h with
    | @here _ i _ h =>
      cases i with
      | zero => exact .inl ⟨rfl, rfl, (Option.some.inj h).symm⟩
      | succ i => exact .inr (.inr ⟨[i], rfl, .here h⟩)
    | @within _ above i address _ _ h hwithin =>
      cases i with
      | zero =>
        cases h
        exact .inr (.inl ⟨address, above, rfl, rfl, hwithin⟩)
      | succ i => exact .inr (.inr ⟨i :: address, rfl, .within h hwithin⟩)
  · rintro (⟨rfl, rfl, rfl⟩ | ⟨address', above', rfl, rfl, h⟩ | ⟨address', rfl, h⟩)
    · exact .here rfl
    · exact .within rfl h
    · cases h with
      | here h => exact .here h
      | within h hwithin => exact .within h hwithin

theorem outlines_nil : Outlines [] [] [] where
  ordered := .nil
  complete address := by
    refine iff_of_false List.not_mem_nil ?_
    rintro ⟨above, n, h⟩
    exact not_liesAt_nil h
  lines := .nil

theorem modifyHead_lt_modifyHead {a b : List Nat} (h : a < b) :
    a.modifyHead (· + 1) < b.modifyHead (· + 1) := by
  cases b with
  | nil => exact absurd h (List.not_lt_nil a)
  | cons j b =>
    cases a with
    | nil => exact List.nil_lt_cons _ _
    | cons i a =>
      rw [List.modifyHead_cons, List.modifyHead_cons, List.cons_lt_cons_iff, Nat.succ_lt_succ_iff,
        Nat.succ_inj]
      exact List.cons_lt_cons_iff.mp h

/-- The addresses in a row with one more node in front: its own, then those below it, and then all
others with one more sibling before them. -/
def addressesCons (below others : List (List Nat)) : List (List Nat) :=
  [0] :: (below.map (0 :: ·) ++ others.map (List.modifyHead (· + 1)))

theorem pairwise_addressesCons {below others : List (List Nat)} (hbelow : below.Pairwise (· < ·))
    (hothers : others.Pairwise (· < ·)) (hne : ∀ a ∈ below, a ≠ []) (hne' : ∀ a ∈ others, a ≠ []) :
    (addressesCons below others).Pairwise (· < ·) := by
  have hlater : ∀ p, ∀ a ∈ others.map (List.modifyHead (· + 1)), 0 :: p < a := by
    intro p a ha
    obtain ⟨b, hb, rfl⟩ := List.mem_map.mp ha
    obtain ⟨i, b, rfl⟩ := List.exists_cons_of_ne_nil (hne' b hb)
    exact List.cons_lt_cons_iff.mpr (.inl i.succ_pos)
  rw [addressesCons, List.pairwise_cons, List.pairwise_append, List.pairwise_map, List.pairwise_map]
  refine ⟨?_, ?_, ?_, ?_⟩
  · intro a ha
    rcases List.mem_append.mp ha with ha | ha
    · obtain ⟨b, hb, rfl⟩ := List.mem_map.mp ha
      obtain ⟨i, b, rfl⟩ := List.exists_cons_of_ne_nil (hne b hb)
      exact List.cons_lt_cons_iff.mpr (.inr ⟨rfl, List.nil_lt_cons _ _⟩)
    · exact hlater [] a ha
  · exact hbelow.imp fun hlt => List.cons_lt_cons_iff.mpr (.inr ⟨rfl, hlt⟩)
  · exact hothers.imp modifyHead_lt_modifyHead
  · intro a ha b hb
    obtain ⟨p, -, rfl⟩ := List.mem_map.mp ha
    exact hlater p b hb

theorem Outlines.ne_nil {addresses : List (List Nat)} {lines : List String}
    (h : Outlines ns addresses lines) : ∀ a ∈ addresses, a ≠ [] := by
  intro a ha
  obtain ⟨above, n, hn⟩ := (h.complete a).mp ha
  exact hn.ne_nil

theorem Outlines.cons {below others : List (List Nat)} {belowLines lines : List String}
    (hparts : Outlines n.parts below belowLines) (hrest : Outlines rest others lines) :
    Outlines (n :: rest) (addressesCons below others)
      (n.text :: (belowLines.map (n.indent ++ ·) ++ lines)) where
  ordered := pairwise_addressesCons hparts.ordered hrest.ordered hparts.ne_nil hrest.ne_nil
  complete address := by
    simp only [addressesCons, List.mem_cons, List.mem_append, List.mem_map, hparts.complete,
      hrest.complete, liesAt_cons_iff]
    constructor
    · rintro (rfl | ⟨a, ⟨above, m, hm⟩, rfl⟩ | ⟨a, ⟨above, m, hm⟩, rfl⟩)
      · exact ⟨[], n, .inl ⟨rfl, rfl, rfl⟩⟩
      · exact ⟨n :: above, m, .inr (.inl ⟨a, above, rfl, rfl, hm⟩)⟩
      · exact ⟨above, m, .inr (.inr ⟨a, rfl, hm⟩)⟩
    · rintro ⟨above, m, ⟨rfl, -, -⟩ | ⟨a, above', rfl, -, hm⟩ | ⟨a, rfl, hm⟩⟩
      · exact .inl rfl
      · exact .inr (.inl ⟨a, ⟨above', m, hm⟩, rfl⟩)
      · exact .inr (.inr ⟨a, ⟨above, m, hm⟩, rfl⟩)
  lines := by
    refine .cons ⟨[], n, .here rfl, ?_⟩ (List.rel_append ?_ ?_)
    · rw [List.map_nil, String.join_nil, String.empty_append]
    · rw [List.forall₂_map_left_iff, List.forall₂_map_right_iff]
      refine hparts.lines.imp ?_
      rintro address line ⟨above, m, hm, rfl⟩
      refine ⟨n :: above, m, .within rfl hm, ?_⟩
      rw [List.map_cons, String.join_cons, String.append_assoc]
    · rw [List.forall₂_map_left_iff]
      refine hrest.lines.imp ?_
      rintro address line ⟨above, m, hm, hline⟩
      exact ⟨above, m, liesAt_cons_iff.mpr (.inr (.inr ⟨address, rfl, hm⟩)), hline⟩

end FormNode

theorem FieldDefinition.outline_eq (f : FieldDefinition) :
    f.outline = f.line :: (outlineAll f.entryFields).map ("  - " ++ ·) := by
  cases f
  rfl

theorem FieldDefinition.outlines_outlineAll (fs : List FieldDefinition) :
    ∃ addresses, FormNode.Outlines (fs.map .field) addresses (outlineAll fs) := by
  -- on fields and rows of fields at once: what holds below a field is what its lines need
  induction fs using FieldDefinition.rec_1 (motive_1 := fun f =>
    ∃ addresses, FormNode.Outlines (f.entryFields.map .field) addresses
      (outlineAll f.entryFields)) with
  | mk name kind label required default constraints options entryFields ih => exact ih
  | nil => exact ⟨[], FormNode.outlines_nil⟩
  | cons f rest ih ihs =>
    obtain ⟨below, hparts⟩ := ih
    obtain ⟨addresses, hrest⟩ := ihs
    rw [outlineAll, outline_eq]
    exact ⟨_, FormNode.Outlines.cons (n := .field f) hparts hrest⟩

theorem FormNode.outlines_bindAllInto (ns : List FormNode) :
    ∃ addresses, Outlines ns addresses (Id.run (bindAllInto outlineSink ns)).flatten := by
  induction ns using FormNode.rec_1 (motive_1 := fun n => ∃ addresses lines,
    Outlines n.parts addresses lines ∧
      Id.run (n.bindInto outlineSink) = n.text :: lines.map (n.indent ++ ·)) with
  | group header children ih =>
    obtain ⟨addresses, h⟩ := ih
    exact ⟨addresses, _, h, rfl⟩
  | field f =>
    obtain ⟨addresses, h⟩ := FieldDefinition.outlines_outlineAll f.entryFields
    exact ⟨addresses, _, h, f.outline_eq⟩
  | action a => exact ⟨[], [], outlines_nil, rfl⟩
  | nil => exact ⟨[], outlines_nil⟩
  | cons n rest ih ihs =>
    obtain ⟨below, belowLines, hparts, hlines⟩ := ih
    obtain ⟨addresses, hrest⟩ := ihs
    have hline : Id.run (bindAllInto outlineSink (n :: rest)) =
        Id.run (n.bindInto outlineSink) :: Id.run (bindAllInto outlineSink rest) := rfl
    rw [hline, List.flatten_cons, hlines]
    exact ⟨_, hparts.cons hrest⟩

/-- An outline has one line for each node and entry field of a tree, at any depth: a node before what
it contains, siblings in their order, each indented by the nodes around it. -/
theorem FormTree.outline_lists_nodes (t : FormTree) :
    ∃ addresses, FormNode.Outlines t.children addresses t.outline :=
  FormNode.outlines_bindAllInto t.children

example :
    FormTree.outline
      ⟨"form", [
        .group ⟨"s", "Step", [], []⟩ [.group ⟨"c", "C", [], []⟩ [
          .field ⟨"rows", .collection, "Rows", false, none, [], [], [
            ⟨"age", .integer, "Age", true, none, [], [], []⟩]⟩]],
        .action ⟨"submit", "Send", .empty⟩], .empty⟩ =
      ["s \"Step\"", "  c \"C\"", "    rows [collection] \"Rows\"",
        "      - age [integer] \"Age\" required", "<submit> submit \"Send\""] := by
  rfl

end Questionnaire
