import Questionnaire.Json.Basic

namespace Questionnaire.Json

theorem any_key_iff {α : Type} {key : String} {members : List (String × α)} :
    members.any (·.1 == key) = true ↔ key ∈ members.map (·.1) := by
  simp only [List.any_eq_true, List.mem_map, beq_iff_eq]

theorem setMember_of_new {α : Type} {key : String} {value : α} {members : List (String × α)}
    (h : key ∉ members.map (·.1)) : setMember key value members = members ++ [(key, value)] := by
  rw [setMember, if_neg (mt any_key_iff.mp h)]

theorem setMember_of_mem {α : Type} {key : String} {value : α} {members : List (String × α)}
    (h : key ∈ members.map (·.1)) :
    setMember key value members = members.map fun m => if m.1 == key then (key, value) else m := by
  rw [setMember, if_pos (any_key_iff.mpr h)]

/-- A key that is there keeps its place, and a new one comes last. -/
theorem keys_setMember {α : Type} {key : String} {value : α} {members : List (String × α)} :
    (setMember key value members).map (·.1) =
      if key ∈ members.map (·.1) then members.map (·.1) else members.map (·.1) ++ [key] := by
  split
  · rename_i h
    rw [setMember_of_mem h, List.map_map]
    apply List.map_congr_left
    intro m _
    rw [Function.comp_apply]
    split
    · rename_i hkey
      exact (beq_iff_eq.mp hkey).symm
    · rfl
  · rename_i h
    rw [setMember_of_new h, List.map_append, List.map_singleton]

theorem nodup_setMember {α : Type} (key : String) (value : α) {members : List (String × α)}
    (h : (members.map (·.1)).Nodup) : ((setMember key value members).map (·.1)).Nodup := by
  rw [keys_setMember]
  split
  · exact h
  · rename_i hnew
    rw [List.perm_append_comm.nodup_iff, List.singleton_append, List.nodup_cons]
    exact ⟨hnew, h⟩

/-- The members of an object in their order. No key comes twice. -/
structure Members where
  entries : List (String × Json)
  distinct : (entries.map (·.1)).Nodup

namespace Members

instance : Coe Members (List (String × Json)) := ⟨entries⟩

def empty : Members := ⟨[], List.nodup_nil⟩

def set (key : String) (value : Json) (m : Members) : Members :=
  ⟨setMember key value m.entries, nodup_setMember key value m.distinct⟩

/-- Sets members one after the other. -/
def setAll (entries : List (String × Json)) (m : Members) : Members :=
  entries.foldl (fun m e => m.set e.1 e.2) m

def ofList (entries : List (String × Json)) : Members :=
  empty.setAll entries

@[simp] theorem entries_set (key : String) (value : Json) (m : Members) :
    (m.set key value).entries = setMember key value m.entries := rfl

@[simp] theorem setAll_cons (e : String × Json) (rest : List (String × Json)) (m : Members) :
    m.setAll (e :: rest) = (m.set e.1 e.2).setAll rest := rfl

def lookup (m : Members) (key : String) : Option Json :=
  m.entries.lookup key

end Members

end Questionnaire.Json
