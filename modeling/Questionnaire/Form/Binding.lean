import Questionnaire.Form.Tree

namespace Questionnaire

/-- What a host does with each sort of node. -/
structure Sink (m : Type → Type) (ν : Type) where
  field : FieldDefinition → m ν
  action : Action → m ν
  group : GroupHeader → List ν → m ν

variable {m : Type → Type} {ν : Type} [Monad m]

namespace FormNode

mutual

/-- Hands nodes over depth first, so a group comes after its children and receives what the host
made of them. -/
def bindInto (sink : Sink m ν) : FormNode → m ν
  | .field f => sink.field f
  | .action a => sink.action a
  | .group header children => do
    let nodes ← bindAllInto sink children
    sink.group header nodes

/-- Binds nodes in their order. -/
def bindAllInto (sink : Sink m ν) : List FormNode → m (List ν)
  | [] => pure []
  | n :: rest => do
    let node ← n.bindInto sink
    let others ← bindAllInto sink rest
    return node :: others

end

end FormNode

/-- Binds the nodes of a tree; the host's root nodes are returned. -/
def FormTree.bindInto (sink : Sink m ν) (t : FormTree) : m (List ν) :=
  FormNode.bindAllInto sink t.children

end Questionnaire
