import Mathlib.Data.List.Forall2
import Questionnaire.Proofs.Json.Members

namespace Questionnaire.Json

/-- What passes from the parts of a document to the document holds of every document. -/
@[elab_as_elim]
theorem induction {motive : Json → Prop} (null : motive .null) (bool : ∀ b, motive (.bool b))
    (number : ∀ n, motive (.number n)) (string : ∀ s, motive (.string s))
    (array : ∀ items, (∀ v ∈ items, motive v) → motive (.array items))
    (object : ∀ members, (∀ m ∈ members, motive m.2) → motive (.object members))
    (v : Json) : motive v := by
  refine Json.rec (motive_2 := fun items => ∀ v ∈ items, motive v)
    (motive_3 := fun members => ∀ m ∈ members, motive m.2) (motive_4 := fun m => motive m.2)
    null bool number string array object ?_ ?_ ?_ ?_ ?_ v
  · exact List.forall_mem_nil _
  · intro v rest hv hrest
    exact List.forall_mem_cons.mpr ⟨hv, hrest⟩
  · exact List.forall_mem_nil _
  · intro m rest hm hrest
    exact List.forall_mem_cons.mpr ⟨hm, hrest⟩
  · intro key v hv
    exact hv

mutual

/-- The document itself and all documents within it. -/
def parts : Json → List Json
  | .array items => .array items :: partsOfItems items
  | .object members => .object members :: partsOfMembers members
  | v => [v]

def partsOfItems : List Json → List Json
  | [] => []
  | v :: rest => v.parts ++ partsOfItems rest

def partsOfMembers : List (String × Json) → List Json
  | [] => []
  | (_, v) :: rest => v.parts ++ partsOfMembers rest

end

theorem partsOfItems_eq_flatMap (items : List Json) :
    partsOfItems items = items.flatMap parts := by
  induction items with
  | nil => rfl
  | cons v rest ih => rw [partsOfItems, ih, List.flatMap_cons]

theorem partsOfMembers_eq_flatMap (members : List (String × Json)) :
    partsOfMembers members = members.flatMap fun m => m.2.parts := by
  induction members with
  | nil => rfl
  | cons m rest ih => rw [partsOfMembers, ih, List.flatMap_cons]

theorem forall_parts_array_iff {p : Json → Prop} {items : List Json} :
    (∀ w ∈ (array items).parts, p w) ↔ p (.array items) ∧ ∀ v ∈ items, ∀ w ∈ v.parts, p w := by
  rw [parts, partsOfItems_eq_flatMap, List.forall_mem_cons, List.forall_mem_flatMap]

theorem forall_parts_object_iff {p : Json → Prop} {members : List (String × Json)} :
    (∀ w ∈ (object members).parts, p w) ↔
      p (.object members) ∧ ∀ m ∈ members, ∀ w ∈ m.2.parts, p w := by
  rw [parts, partsOfMembers_eq_flatMap, List.forall_mem_cons, List.forall_mem_flatMap]

/-- An object has no key twice. -/
def OwnKeysDistinct : Json → Prop
  | .object members => (members.map (·.1)).Nodup
  | _ => True

/-- No object in the document has a key twice. -/
def DistinctKeys (v : Json) : Prop := ∀ w ∈ v.parts, w.OwnKeysDistinct

instance : DecidablePred OwnKeysDistinct
  | .object members => inferInstanceAs (Decidable (members.map (·.1)).Nodup)
  | .null | .bool _ | .number _ | .string _ | .array _ => .isTrue trivial

instance : DecidablePred DistinctKeys := fun v =>
  inferInstanceAs (Decidable (∀ w ∈ v.parts, w.OwnKeysDistinct))

theorem distinctKeys_array_iff {items : List Json} :
    (array items).DistinctKeys ↔ ∀ v ∈ items, v.DistinctKeys :=
  forall_parts_array_iff.trans (and_iff_right trivial)

theorem distinctKeys_object_iff {members : List (String × Json)} :
    (object members).DistinctKeys ↔
      (members.map (·.1)).Nodup ∧ ∀ m ∈ members, m.2.DistinctKeys :=
  forall_parts_object_iff

theorem DistinctKeys.of_get? {v w : Json} {key : String} (h : v.DistinctKeys)
    (hw : v.get? key = some w) : w.DistinctKeys := by
  obtain ⟨members, rfl⟩ := exists_object_of_get? hw
  exact (distinctKeys_object_iff.mp h).2 _ (mem_of_lookup hw)

theorem DistinctKeys.of_mem_getItems {v w : Json} {key : String} (h : v.DistinctKeys)
    (hw : w ∈ v.getItems key) : w.DistinctKeys := by
  obtain ⟨items, hitems, hw⟩ := mem_getItems_iff.mp hw
  exact distinctKeys_array_iff.mp (h.of_get? hitems) w hw

/-- A document in which no object has a key twice. -/
structure Document where
  json : Json
  distinctKeys : json.DistinctKeys

namespace Document

/-- A member of an object. -/
def member (v : Document) {key : String} {w : Json} (h : v.json.get? key = some w) : Document :=
  ⟨w, v.distinctKeys.of_get? h⟩

/-- An item of a member that is an array. -/
def item (v : Document) {key : String} {w : Json} (h : w ∈ v.json.getItems key) : Document :=
  ⟨w, v.distinctKeys.of_mem_getItems h⟩

end Document

/-- Neither an array nor an object. -/
def IsPlain : Json → Prop
  | .array _ | .object _ => False
  | _ => True

theorem IsPlain.distinctKeys {v : Json} (h : v.IsPlain) : v.DistinctKeys := by
  cases v with
  | array => exact h.elim
  | object => exact h.elim
  | _ => exact List.forall_mem_singleton.mpr trivial

/-- Documents that are equal up to the order of the members of objects, at every depth: two objects
have the same keys in some order, and under each key documents that are again equal up to order. -/
inductive Reordered : Json → Json → Prop
  | refl (v : Json) : Reordered v v
  | array {items items' : List Json} (each : List.Forall₂ Reordered items items') :
      Reordered (.array items) (.array items')
  | object {members members' : List (String × Json)}
      (keys : (members.map (·.1)).Perm (members'.map (·.1)))
      (each : ∀ key v w, (key, v) ∈ members → (key, w) ∈ members' → Reordered v w) :
      Reordered (.object members) (.object members')

namespace Reordered

variable {u v w : Json}

theorem symm (h : v.Reordered w) : w.Reordered v := by
  induction v using Json.induction generalizing w with
  | array items ih =>
    cases h with
    | refl => exact .refl _
    | array each =>
      have hmem := (List.forall₂_and_left items _).mpr ⟨fun _ hv => hv, each⟩
      apply array
      apply List.Forall₂.flip
      apply hmem.imp
      rintro v w ⟨hv, hvw⟩
      exact ih v hv hvw
  | object members ih =>
    cases h with
    | refl => exact .refl _
    | object keys each =>
      apply object keys.symm
      intro key w v hw hv
      exact ih (key, v) hv (each key v w hv hw)
  | _ =>
    cases h
    exact .refl _

theorem trans_items {items items' items'' : List Json}
    (ih : ∀ u ∈ items, ∀ {v w}, u.Reordered v → v.Reordered w → u.Reordered w)
    (h : List.Forall₂ Reordered items items') (h' : List.Forall₂ Reordered items' items'') :
    List.Forall₂ Reordered items items'' := by
  induction h generalizing items'' with
  | nil => exact h'
  | cons huv _ ihrest =>
    obtain ⟨w, rest, hvw, hrest, rfl⟩ := List.forall₂_cons_left_iff.mp h'
    obtain ⟨ihu, ihothers⟩ := List.forall_mem_cons.mp ih
    exact .cons (ihu huv hvw) (ihrest ihothers hrest)

theorem trans (h : u.Reordered v) (h' : v.Reordered w) : u.Reordered w := by
  induction u using Json.induction generalizing v w with
  | array items ih =>
    cases h with
    | refl => exact h'
    | array each =>
      cases h' with
      | refl => exact .array each
      | array each' => exact .array (trans_items ih each each')
  | object members ih =>
    cases h with
    | refl => exact h'
    | object keys each =>
      cases h' with
      | refl => exact .object keys each
      | object keys' each' =>
        apply object (keys.trans keys')
        intro key u w hu hw
        obtain ⟨m, hm, rfl⟩ := List.mem_map.mp (keys.mem_iff.mp (List.mem_map_of_mem hu))
        exact ih _ hu (each m.1 u m.2 hu hm) (each' m.1 m.2 w hm hw)
  | _ =>
    cases h
    exact h'

theorem eq_of_isPlain (h : v.Reordered w) (hv : v.IsPlain) : v = w := by
  cases h with
  | refl => rfl
  | array => exact hv.elim
  | object => exact hv.elim

/-- A member is missing in both documents, or both have it and the two are equal up to order. -/
theorem get?_cases (h : v.Reordered w) (key : String) :
    (v.get? key = none ∧ w.get? key = none) ∨
      ∃ u u', v.get? key = some u ∧ w.get? key = some u' ∧ u.Reordered u' := by
  cases h with
  | refl =>
    cases hv : v.get? key with
    | none => exact .inl ⟨rfl, rfl⟩
    | some u => exact .inr ⟨u, u, rfl, rfl, .refl u⟩
  | array => exact .inl ⟨rfl, rfl⟩
  | @object members members' keys each =>
    change (members.lookup key = none ∧ members'.lookup key = none) ∨
      ∃ u u', members.lookup key = some u ∧ members'.lookup key = some u' ∧ u.Reordered u'
    have hnone : members.lookup key = none ↔ members'.lookup key = none := by
      rw [lookup_eq_none_iff, lookup_eq_none_iff, keys.mem_iff]
    cases hv : members.lookup key with
    | none => exact .inl ⟨rfl, hnone.mp hv⟩
    | some u =>
      cases hw : members'.lookup key with
      | none =>
        rw [hnone.mpr hw] at hv
        cases hv
      | some u' => exact .inr ⟨u, u', rfl, rfl, each key u u' (mem_of_lookup hv) (mem_of_lookup hw)⟩

/-- What does not depend on the order of a member can be read off either document. -/
theorem map_get? {α : Type} {f : Json → α} (h : v.Reordered w) (key : String)
    (hf : ∀ u u', v.get? key = some u → u.Reordered u' → f u = f u') :
    (v.get? key).map f = (w.get? key).map f := by
  rcases h.get?_cases key with ⟨hv, hw⟩ | ⟨u, u', hv, hw, hmember⟩
  · rw [hv, hw]
  · rw [hv, hw, Option.map_some, Option.map_some, hf u u' hv hmember]

theorem map_items {α : Type} {f : Json → α} {items items' : List Json}
    (h : List.Forall₂ Reordered items items')
    (hf : ∀ u ∈ items, ∀ u', u.Reordered u' → f u = f u') : items.map f = items'.map f := by
  induction h with
  | nil => rfl
  | cons hu _ ih =>
    obtain ⟨hfu, hfrest⟩ := List.forall_mem_cons.mp hf
    rw [List.map_cons, List.map_cons, hfu _ hu, ih hfrest]

theorem hasMember (h : v.Reordered w) (key : String) : v.hasMember key = w.hasMember key := by
  rw [Json.hasMember, Json.hasMember]
  rcases h.get?_cases key with ⟨hv, hw⟩ | ⟨u, u', hv, hw, -⟩
  · rw [hv, hw]
  · rw [hv, hw, Option.isSome_some, Option.isSome_some]

theorem string? (h : v.Reordered w) : v.string? = w.string? := by
  cases h <;> rfl

theorem getString? (h : v.Reordered w) (key : String) : v.getString? key = w.getString? key := by
  rw [Json.getString?, Json.getString?]
  rcases h.get?_cases key with ⟨hv, hw⟩ | ⟨u, u', hv, hw, hmember⟩
  · rw [hv, hw]
  · rw [hv, hw, Option.bind_some, Option.bind_some, hmember.string?]

theorem getItems (h : v.Reordered w) (key : String) :
    List.Forall₂ Reordered (v.getItems key) (w.getItems key) := by
  rw [Json.getItems, Json.getItems]
  rcases h.get?_cases key with ⟨hv, hw⟩ | ⟨u, u', hv, hw, hmember⟩
  · rw [hv, hw]
    exact .nil
  · rw [hv, hw]
    cases hmember with
    | refl => exact List.forall₂_same.mpr fun u _ => .refl u
    | array each => exact each
    | object => exact .nil

theorem isBlank (h : v.Reordered w) : v.isBlank = w.isBlank := by
  cases h with
  | refl => rfl
  | array each => cases each <;> rfl
  | @object members members' keys each =>
    have hlength := keys.length_eq
    rw [List.length_map, List.length_map] at hlength
    change members.isEmpty = members'.isEmpty
    rw [Bool.eq_iff_iff, List.isEmpty_iff, List.isEmpty_iff, ← List.length_eq_zero_iff,
      ← List.length_eq_zero_iff, hlength]

end Reordered

end Questionnaire.Json
