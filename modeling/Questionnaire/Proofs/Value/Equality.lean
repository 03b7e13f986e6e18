import Questionnaire.Value
import Questionnaire.Proofs.Number.Reading

namespace Questionnaire

open Number

theorem Number.Decimal.equal_comm (x y : Decimal) : x.equal y = y.equal x := by
  rw [Decimal.equal, Decimal.equal, ← x.compare_swap y]
  cases x.compare y <;> rfl

theorem Number.Binary64.equal_comm (x y : Binary64) : x.equal y = y.equal x := by
  rw [Binary64.equal, Binary64.equal, ← x.compare?_swap y]
  cases x.compare? y with
  | none => rfl
  | some o => cases o <;> rfl

theorem FileHandle.same_comm (a b : FileHandle) : a.same b = b.same a := by
  rw [same, same, Bool.beq_comm (a := steps a.path), Bool.beq_comm (a := a.sentName),
    Bool.beq_comm (a := a.mimeType), Bool.beq_comm (a := a.size)]

theorem Calendar.Moment.sameInstant_comm (a b : Calendar.Moment) :
    a.sameInstant b = b.sameInstant a :=
  Bool.beq_comm

namespace Value

mutual

theorem equal_comm (v w : Value) : v.equal w = w.equal v := by
  cases v with
  | null => cases w <;> rfl
  | bool a =>
    cases w with
    | bool b => exact Bool.beq_comm
    | _ => rfl
  | int a =>
    cases w with
    | int b => exact Bool.beq_comm
    | _ => rfl
  | decimal a =>
    cases w with
    | decimal b => exact a.equal_comm b
    | _ => rfl
  | float a =>
    cases w with
    | float b => exact a.equal_comm b
    | _ => rfl
  | text a =>
    cases w with
    | text b => exact Bool.beq_comm
    | _ => rfl
  | list as =>
    cases w with
    | list bs => exact equalItems_comm as bs
    | _ => rfl
  | map as =>
    cases w with
    | map bs => exact equalEntries_comm as bs
    | _ => rfl
  | date a =>
    cases w with
    | date b => exact Bool.beq_comm
    | _ => rfl
  | moment a =>
    cases w with
    | moment b => exact a.sameInstant_comm b
    | _ => rfl
  | time a =>
    cases w with
    | time b => exact Bool.beq_comm
    | _ => rfl
  | file a =>
    cases w with
    | file b => exact a.same_comm b
    | _ => rfl

theorem equalItems_comm (vs ws : List Value) : equalItems vs ws = equalItems ws vs := by
  cases vs with
  | nil => cases ws <;> rfl
  | cons v vs =>
    cases ws with
    | nil => rfl
    | cons w ws => rw [equalItems, equalItems, equal_comm v w, equalItems_comm vs ws]

theorem equalEntries_comm (vs ws : List (String × Value)) :
    equalEntries vs ws = equalEntries ws vs := by
  cases vs with
  | nil => cases ws <;> rfl
  | cons e vs =>
    cases ws with
    | nil => rfl
    | cons e' ws =>
      rw [equalEntries, equalEntries, Bool.beq_comm, equal_comm e.2 e'.2, equalEntries_comm vs ws]

end

end Value

end Questionnaire
