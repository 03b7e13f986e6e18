import Questionnaire.Proofs.Condition.Locality
import Questionnaire.Proofs.Form.Stage

namespace Questionnaire

namespace Question

/-- The fields that the rule of a question tests; a block that is no rule tests none. -/
def ruleFields (q : Question) : List String :=
  match q.dependencies with
  | some (.rule g) => g.fields
  | _ => []

def reads (q : Question) : List String :=
  q.key :: q.ruleFields

variable {config : Config} {d d' : Context} {q : Question}

theorem isShown_congr (h : ∀ k ∈ q.ruleFields, d.resolve k = d'.resolve k) :
    q.isShown config d = q.isShown config d' := by
  rw [isShown, isShown]
  rw [ruleFields] at h
  split
  · rename_i g hrule
    rw [hrule] at h
    rw [Group.evaluate_congr h]
  · rfl

end Question

namespace Stage

variable {config : Config} {d d' : Context} {q : Question}

theorem ruleFault?_congr (h : ∀ k ∈ q.ruleFields, d.resolve k = d'.resolve k) :
    ruleFault? config ⟨q, d⟩ = ruleFault? config ⟨q, d'⟩ := by
  rw [ruleFault?, ruleFault?, Question.isShown_congr h]

theorem shows_congr (h : ∀ k ∈ q.ruleFields, d.resolve k = d'.resolve k) :
    shows config ⟨q, d⟩ = shows config ⟨q, d'⟩ := by
  rw [shows, shows, Question.isShown_congr h]

/-- A function of stages is local if it uses the data only where the question reads them. -/
def IsLocal {β : Type} (f : Stage → β) : Prop :=
  ∀ (q : Question) (d d' : Context), (∀ k ∈ q.reads, d.resolve k = d'.resolve k) →
    f ⟨q, d⟩ = f ⟨q, d'⟩

theorem isLocal_fault? : IsLocal (fault? config) := by
  intro q d d' h
  obtain ⟨hkey, hrule⟩ := List.forall_mem_cons.mp h
  rw [fault?, fault?, default?, default?, ruleFault?_congr hrule, hkey]

theorem isLocal_field? : IsLocal (field? config) := by
  intro q d d' h
  obtain ⟨hkey, hrule⟩ := List.forall_mem_cons.mp h
  rw [field?, field?, assessment, assessment, default?, default?, shows_congr hrule, hkey]

end Stage

end Questionnaire
