import Questionnaire.Form.Journal

namespace Questionnaire

variable {ε α β : Type}

/-- Fails with the fault if there is one. -/
def verdict (fault : Option ε) (a : α) : Except ε α :=
  fault.elim (.ok a) .error

@[simp] theorem verdict_none (a : α) : verdict (none : Option ε) a = .ok a := rfl

@[simp] theorem verdict_some (e : ε) (a : α) : verdict (some e) a = .error e := rfl

theorem verdict_eq_ok_iff {fault : Option ε} {a b : α} :
    verdict fault a = .ok b ↔ fault = none ∧ a = b := by
  cases fault <;> simp

theorem verdict_eq_error_iff {fault : Option ε} {a : α} {e : ε} :
    verdict fault a = .error e ↔ fault = some e := by
  cases fault <;> simp

theorem eq_ok_of_verdict {fault : Option ε} {r : Except ε α} {a : α} (h : r = verdict fault a)
    (hnone : fault = none) : r = .ok a := by
  rw [h, hnone, verdict_none]

theorem verdict_bind {fault fault' : Option ε} {a : α} {b : β} {f : α → Except ε β}
    (h : f a = verdict fault' b) : (verdict fault a >>= f) = verdict (fault.or fault') b := by
  cases fault with
  | none => exact h
  | some e => rfl

theorem verdict_bind_ok {fault : Option ε} {a : α} {b : β} {f : α → Except ε β}
    (h : f a = .ok b) : (verdict fault a >>= f) = verdict fault b := by
  cases fault with
  | none => exact h
  | some e => rfl

theorem verdict_bind_pure (fault : Option ε) (a : α) (f : α → β) :
    (verdict fault a >>= fun x => pure (f x)) = verdict fault (f a) :=
  verdict_bind_ok rfl

theorem verdict_map (fault : Option ε) (a : α) (f : α → β) :
    (verdict fault a).map f = verdict fault (f a) := by
  cases fault <;> rfl

theorem findSome?_cons_or (f : α → Option ε) (a : α) (rest : List α) :
    (a :: rest).findSome? f = (f a).or (rest.findSome? f) := by
  rw [List.findSome?_cons]
  cases f a <;> rfl

namespace Journal

@[simp] theorem result_liftM (r : Except BuildError α) : (liftM r : Journal α).result = r := rfl

/-- Computations that report nothing follow one another as their results do. -/
theorem ofExcept_bind {fault fault' : Option BuildError} {a : α} {b : β} {f : α → Journal β}
    (h : f a = ofExcept (verdict fault' b)) :
    (ofExcept (verdict fault a) >>= f) = ofExcept (verdict (fault.or fault') b) := by
  cases fault with
  | none => exact h
  | some e => rfl

theorem ofExcept_bind_pure (fault : Option BuildError) (a : α) (f : α → β) :
    (ofExcept (verdict fault a) >>= fun x => pure (f x)) = ofExcept (verdict fault (f a)) := by
  cases fault <;> rfl

end Journal

end Questionnaire
