import Mathlib.Data.List.Forall2
import Questionnaire.Form.Binding

namespace Questionnaire

/-- A call that a host gets for a node, and what it makes of the node. -/
inductive Call (ν : Type) where
  | field (definition : FieldDefinition) (node : ν)
  | action (action : Action) (node : ν)
  | group (header : GroupHeader) (children : List ν) (node : ν)

namespace Call

variable {ν : Type}

def field? : Call ν → Option FieldDefinition
  | .field f _ => some f
  | _ => none

def action? : Call ν → Option Action
  | .action a _ => some a
  | _ => none

/-- A call and the node that it is for. -/
inductive IsFor : Call ν → FormNode → Prop
  | field {f : FieldDefinition} {node : ν} : IsFor (.field f node) (.field f)
  | action {a : Action} {node : ν} : IsFor (.action a node) (.action a)
  | group {header : GroupHeader} {children : List FormNode} {nodes : List ν} {node : ν}
      (h : nodes.length = children.length) :
      IsFor (.group header nodes node) (.group header children)

end Call

/-- An answer whose call goes on record, at the end. -/
def Call.record {m : Type → Type} {ν : Type} [Monad m] (call : ν → Call ν) (answer : m ν) :
    StateT (List (Call ν)) m ν := do
  let node ← answer
  modify (· ++ [call node])
  return node

/-- The host that answers like another one and keeps a record of its calls. -/
def Sink.recording {m : Type → Type} {ν : Type} [Monad m] (sink : Sink m ν) :
    Sink (StateT (List (Call ν)) m) ν where
  field f := Call.record (.field f) (sink.field f)
  action a := Call.record (.action a) (sink.action a)
  group header children := Call.record (.group header children) (sink.group header children)

section

variable {σ ρ α β : Type} {st st' : σ} {a : α}

theorem run_bind_of_run {x : StateM σ α} {f : α → StateM σ β} (h : x.run st = (a, st')) :
    (x >>= f).run st = (f a).run st' := by
  rw [StateT.run_bind, h]
  rfl

theorem run_run_bind {x : StateT ρ (StateM σ) α} {f : α → StateT ρ (StateM σ) β} {r r' : ρ}
    (h : (x.run r).run st = ((a, r'), st')) :
    ((x >>= f).run r).run st = ((f a).run r').run st' := by
  rw [StateT.run_bind]
  exact run_bind_of_run h

theorem Call.run_record {call : α → Call α} {answer : StateM σ α} (h : answer.run st = (a, st'))
    (before : List (Call α)) :
    ((record call answer).run before).run st = ((a, before ++ [call a]), st') := by
  have hlift : ((liftM answer : StateT (List (Call α)) (StateM σ) α).run before).run st =
      ((a, before), st') := run_bind_of_run (f := fun a => pure (a, before)) h
  rw [record, run_run_bind hlift]
  rfl

end

namespace FormNode

mutual

/-- A node and all that it contains, each after its own contents. -/
def postorder : FormNode → List FormNode
  | .group header children => postorderOf children ++ [.group header children]
  | .field f => [.field f]
  | .action a => [.action a]

def postorderOf : List FormNode → List FormNode
  | [] => []
  | n :: rest => n.postorder ++ postorderOf rest

end

variable {σ ν : Type}

mutual

/-- What a host makes of a node, and the calls that it gets for it: first those for the children, if
it is a group, and then one with what they were made into. -/
inductive Bound : FormNode → ν → List (Call ν) → Prop
  | field {f : FieldDefinition} {node : ν} : Bound (.field f) node [.field f node]
  | action {a : Action} {node : ν} : Bound (.action a) node [.action a node]
  | group {header : GroupHeader} {children : List FormNode} {nodes : List ν}
      {calls : List (Call ν)} {node : ν} (h : BoundAll children nodes calls) :
      Bound (.group header children) node (calls ++ [.group header nodes node])

/-- The same for nodes in a row. -/
inductive BoundAll : List FormNode → List ν → List (Call ν) → Prop
  | nil : BoundAll [] [] []
  | cons {n : FormNode} {rest : List FormNode} {node : ν} {nodes : List ν}
      {calls calls' : List (Call ν)} (first : Bound n node calls)
      (others : BoundAll rest nodes calls') :
      BoundAll (n :: rest) (node :: nodes) (calls ++ calls')

end

theorem BoundAll.length_eq {ns : List FormNode} {nodes : List ν} {calls : List (Call ν)}
    (h : BoundAll ns nodes calls) : nodes.length = ns.length := by
  induction ns generalizing nodes calls with
  | nil =>
    cases h
    rfl
  | cons n rest ih =>
    cases h with
    | cons first others => exact congrArg Nat.succ (ih others)

theorem BoundAll.postorder {ns : List FormNode} {nodes : List ν} {calls : List (Call ν)}
    (h : BoundAll ns nodes calls) : List.Forall₂ Call.IsFor calls (postorderOf ns) := by
  induction h using BoundAll.rec
    (motive_1 := fun n _ calls _ => List.Forall₂ Call.IsFor calls n.postorder) with
  | field => exact .cons .field .nil
  | action => exact .cons .action .nil
  | group h ih => exact List.rel_append ih (.cons (.group h.length_eq) .nil)
  | nil => exact .nil
  | cons _ _ ih ih' => exact List.rel_append ih ih'

theorem BoundAll.fields {ns : List FormNode} {nodes : List ν} {calls : List (Call ν)}
    (h : BoundAll ns nodes calls) : calls.filterMap Call.field? = fieldsOf ns := by
  induction h using BoundAll.rec
    (motive_1 := fun n _ calls _ => calls.filterMap Call.field? = n.fields) with
  | field | action | nil => rfl
  | group _ ih =>
    rw [List.filterMap_append, ih]
    exact List.append_nil _
  | cons _ _ ih ih' => rw [List.filterMap_append, ih, ih', fieldsOf]

theorem BoundAll.actions {ns : List FormNode} {nodes : List ν} {calls : List (Call ν)}
    (h : BoundAll ns nodes calls) : calls.filterMap Call.action? = actionsOf ns := by
  induction h using BoundAll.rec
    (motive_1 := fun n _ calls _ => calls.filterMap Call.action? = n.actions) with
  | field | action | nil => rfl
  | group _ ih =>
    rw [List.filterMap_append, ih]
    exact List.append_nil _
  | cons _ _ ih ih' => rw [List.filterMap_append, ih, ih', actionsOf]

/-- The record only grows, by the calls for the nodes, and it does not show in the answers. -/
theorem run_bindAllInto (sink : Sink (StateM σ) ν) (ns : List FormNode) (before : List (Call ν))
    (st : σ) : ∃ nodes calls st',
      ((bindAllInto sink.recording ns).run before).run st = ((nodes, before ++ calls), st') ∧
      (bindAllInto sink ns).run st = (nodes, st') ∧ BoundAll ns nodes calls := by
  -- for any record and state to start with, as the nodes before have left them
  induction ns using FormNode.rec_1 (motive_1 := fun n => ∀ before st, ∃ node calls st',
      ((n.bindInto sink.recording).run before).run st = ((node, before ++ calls), st') ∧
      (n.bindInto sink).run st = (node, st') ∧ Bound n node calls) generalizing before st with
  | group header children ih before st =>
    obtain ⟨nodes, calls, st₁, hrecorded, hplain, hbound⟩ := ih before st
    cases hgroup : (sink.group header nodes).run st₁ with
    | mk node st' =>
      refine ⟨node, calls ++ [.group header nodes node], st', ?_, ?_, .group hbound⟩
      · rw [bindInto, run_run_bind hrecorded, ← List.append_assoc]
        exact Call.run_record hgroup (before ++ calls)
      · rw [bindInto, run_bind_of_run hplain]
        exact hgroup
  | field f before st =>
    cases hfield : (sink.field f).run st with
    | mk node st' =>
      exact ⟨node, _, st', Call.run_record hfield before, hfield, .field⟩
  | action a before st =>
    cases haction : (sink.action a).run st with
    | mk node st' =>
      exact ⟨node, _, st', Call.run_record haction before, haction, .action⟩
  | nil => exact ⟨[], [], st, by rw [List.append_nil]; rfl, rfl, .nil⟩
  | cons n rest ih ihs =>
    obtain ⟨node, calls, st₁, hrecorded, hplain, hbound⟩ := ih before st
    obtain ⟨nodes, calls', st', hrecorded', hplain', hbound'⟩ := ihs (before ++ calls) st₁
    refine ⟨node :: nodes, calls ++ calls', st', ?_, ?_, .cons hbound hbound'⟩
    · rw [bindAllInto, run_run_bind hrecorded, run_run_bind hrecorded', List.append_assoc]
      rfl
    · rw [bindAllInto, run_bind_of_run hplain, run_bind_of_run hplain']
      rfl

end FormNode

/-- A host on record gets one call for each node of a tree, a group after its children. The calls for
fields and for actions are the listings of the tree; each call for a group brings what the host made
of the children of that group, and what it made of the roots is returned. -/
theorem FormTree.bindInto_recording {σ ν : Type} (sink : Sink (StateM σ) ν) (t : FormTree) (st : σ) :
    ∃ roots calls st',
      ((t.bindInto sink.recording).run []).run st = ((roots, calls), st') ∧
      (t.bindInto sink).run st = (roots, st') ∧
      List.Forall₂ Call.IsFor calls (FormNode.postorderOf t.children) ∧
      calls.filterMap Call.field? = t.fields ∧
      calls.filterMap Call.action? = t.actions ∧
      FormNode.BoundAll t.children roots calls := by
  obtain ⟨roots, calls, st', hrecorded, hplain, hbound⟩ :=
    FormNode.run_bindAllInto sink t.children [] st
  exact ⟨roots, calls, st', hrecorded, hplain, hbound.postorder, hbound.fields, hbound.actions,
    hbound⟩

end Questionnaire
