import Questionnaire.Number.Numeral

namespace Questionnaire

namespace Json

/-- The integers that a document can hold: what fits a signed or an unsigned 64-bit word. -/
def minInteger : Int := -2 ^ 63

def maxInteger : Int := 2 ^ 64 - 1

/-- A number of a document: an integer of the signed or unsigned 64-bit range, or a finite binary64
number. -/
inductive Number where
  | integer (value : Int) (inRange : minInteger ≤ value ∧ value ≤ maxInteger)
  | real (value : Number.Finite64)
  deriving DecidableEq

def Number.integer? (n : Int) : Option Number :=
  if h : minInteger ≤ n ∧ n ≤ maxInteger then some (.integer n h) else none

end Json

/-- A document. Members of an object keep their order. -/
inductive Json where
  | null
  | bool (value : Bool)
  | number (value : Json.Number)
  | string (value : String)
  | array (items : List Json)
  | object (members : List (String × Json))
  deriving Inhabited

namespace Json

def isNull : Json → Bool
  | .null => true
  | _ => false

def isObject : Json → Bool
  | .object _ => true
  | _ => false

def string? : Json → Option String
  | .string s => some s
  | _ => none

def bool? : Json → Option Bool
  | .bool b => some b
  | _ => none

def array? : Json → Option (List Json)
  | .array items => some items
  | _ => none

def object? : Json → Option (List (String × Json))
  | .object members => some members
  | _ => none

/-- A member of an object by its key; other documents have no members. -/
def get? : Json → String → Option Json
  | .object members, key => members.lookup key
  | _, _ => none

def hasMember (v : Json) (key : String) : Bool :=
  (v.get? key).isSome

/-- A member that is there and not null. -/
def getNonNull? (v : Json) (key : String) : Option Json :=
  (v.get? key).filter (!·.isNull)

def getString? (v : Json) (key : String) : Option String :=
  (v.get? key).bind string?

/-- The items of a member that is an array; no items if it is missing or anything else. -/
def getItems (v : Json) (key : String) : List Json :=
  ((v.get? key).bind array?).getD []

/-- The members of a member that is an object; none if it is missing or anything else. -/
def getMembers (v : Json) (key : String) : List (String × Json) :=
  ((v.get? key).bind object?).getD []

/-- Null, the empty array and the empty object. -/
def isBlank : Json → Bool
  | .null => true
  | .array items => items.isEmpty
  | .object members => members.isEmpty
  | _ => false

/-- The kind of a document, as error messages name it. -/
def typeName : Json → String
  | .null => "null"
  | .bool _ => "boolean"
  | .number _ => "number"
  | .string _ => "string"
  | .array _ => "array"
  | .object _ => "object"

/-- Sets the value of a key: in its place if it is there, else at the end. -/
def setMember {α : Type} (key : String) (value : α) (members : List (String × α)) :
    List (String × α) :=
  if members.any (·.1 == key) then
    members.map fun m => if m.1 == key then (key, value) else m
  else members ++ [(key, value)]

theorem mem_of_lookup {α : Type} {key : String} {value : α} {members : List (String × α)}
    (h : members.lookup key = some value) : (key, value) ∈ members := by
  induction members with
  | nil => simp at h
  | cons m rest ih =>
    obtain ⟨k, v⟩ := m
    rw [List.lookup_cons] at h
    split at h
    · rename_i hk
      simp_all
    · exact List.mem_cons_of_mem _ (ih h)

theorem sizeOf_get? {v w : Json} {key : String} (h : v.get? key = some w) :
    sizeOf w < sizeOf v := by
  cases v with
  | object members =>
    have hm := List.sizeOf_lt_of_mem (mem_of_lookup h)
    simp only [Prod.mk.sizeOf_spec] at hm
    simp only [object.sizeOf_spec]
    omega
  | _ => simp [get?] at h

theorem sizeOf_mem_getItems {v w : Json} {key : String} (h : w ∈ v.getItems key) :
    sizeOf w < sizeOf v := by
  unfold getItems at h
  cases hg : v.get? key with
  | none => simp [hg] at h
  | some u =>
    have hu := sizeOf_get? hg
    cases u with
    | array items =>
      have hw := List.sizeOf_lt_of_mem (by simpa [hg, array?] using h : w ∈ items)
      simp only [array.sizeOf_spec] at hu
      omega
    | _ => simp [hg, array?] at h

end Json

end Questionnaire
