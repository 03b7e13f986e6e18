import Questionnaire.Context
import Questionnaire.Json.Members
import Questionnaire.Proofs.Json.Reordering
import Questionnaire.Proofs.Table.Lookup
import Questionnaire.Proofs.Value.JsonNumber

namespace Questionnaire

namespace Value

theorem itemsOfJson_eq_map (items : List Json) : itemsOfJson items = items.map ofJson := by
  induction items with
  | nil => rfl
  | cons v rest ih => rw [itemsOfJson, ih, List.map_cons]

theorem itemsToJson_eq_map (items : List Value) : itemsToJson items = items.map toJson := by
  induction items with
  | nil => rfl
  | cons v rest ih => rw [itemsToJson, ih, List.map_cons]

theorem entriesToJson_eq_map (entries : List (String × Value)) :
    entriesToJson entries = entries.map fun e => (e.1, e.2.toJson) := by
  induction entries with
  | nil => rfl
  | cons e rest ih => rw [entriesToJson, ih, List.map_cons]

/-- The values of the members of an object. -/
def tableOf (members : List (String × Json)) : Table Value :=
  Table.ofList (members.map fun m => (m.1, ofJson m.2))

theorem entriesOfJson_eq (t : Table Value) (members : List (String × Json)) :
    entriesOfJson t.entries members =
      (t.insertAll (members.map fun m => (m.1, ofJson m.2))).entries := by
  induction members generalizing t with
  | nil => rfl
  | cons m rest ih =>
    rw [entriesOfJson]
    exact ih (t.insert m.1 (ofJson m.2))

theorem ofJson_array (items : List Json) : ofJson (.array items) = .list (items.map ofJson) := by
  rw [ofJson, itemsOfJson_eq_map]

theorem ofJson_object (members : List (String × Json)) :
    ofJson (.object members) = .map (tableOf members).entries := by
  rw [ofJson]
  exact congrArg map (entriesOfJson_eq .empty members)

theorem tableOf_congr {members members' : List (String × Json)}
    (hkeys : (members.map (·.1)).Nodup) (hkeys' : (members'.map (·.1)).Nodup)
    (h : ∀ k, (members.lookup k).map ofJson = (members'.lookup k).map ofJson) :
    tableOf members = tableOf members' := by
  apply Table.ext_get?
  intro k
  rw [tableOf, tableOf, Table.get?_ofList (by rwa [Entries.keys_map]),
    Table.get?_ofList (by rwa [Entries.keys_map]), Entries.lookup_map, Entries.lookup_map, h]

theorem ofJson_of_reordered {v : Json.Document} {w : Json} (h : v.json.Reordered w) :
    ofJson v.json = ofJson w := by
  obtain ⟨v, hv⟩ := v
  change v.Reordered w at h
  change ofJson v = ofJson w
  induction v using Json.induction generalizing w with
  | array items ih =>
    cases h with
    | refl => rfl
    | @array _ items' each =>
      have hitems := Json.distinctKeys_array_iff.mp hv
      have hmap : items.map ofJson = items'.map ofJson := by
        apply Json.Reordered.map_items each
        intro v hmem w hvw
        exact ih v hmem (hitems v hmem) hvw
      rw [ofJson_array, ofJson_array, hmap]
  | object members ih =>
    cases h with
    | refl => rfl
    | @object _ members' keys each =>
      obtain ⟨hkeys, hmembers⟩ := Json.distinctKeys_object_iff.mp hv
      have htable : tableOf members = tableOf members' := by
        apply tableOf_congr hkeys (keys.nodup_iff.mp hkeys)
        intro k
        apply (Json.Reordered.object keys each).map_get? k
        intro v w hlookup hvw
        have hmem := Json.mem_of_lookup hlookup
        exact ih _ hmem (hmembers _ hmem) hvw
      rw [ofJson_object, ofJson_object, htable]
  | _ =>
    cases h
    rfl

theorem ofJson_get? {v : Json.Document} {w : Json} (h : v.json.Reordered w) (key : String) :
    (v.json.get? key).map ofJson = (w.get? key).map ofJson := by
  apply h.map_get? key
  intro u u' hu hreordered
  exact ofJson_of_reordered (v := v.member hu) hreordered

end Value

namespace Json

/-- An integer that a signed 64-bit word holds. -/
def Number.IsInt64 : Number → Prop
  | .integer i _ => -2 ^ 63 ≤ i ∧ i < 2 ^ 63
  | .real _ => False

def OwnNumberIsInt64 : Json → Prop
  | .number n => n.IsInt64
  | _ => True

/-- All numbers in the document are integers that a signed 64-bit word holds. -/
def IntegersOnly (v : Json) : Prop := ∀ w ∈ v.parts, w.OwnNumberIsInt64

instance : DecidablePred Number.IsInt64
  | .integer i _ => inferInstanceAs (Decidable (-2 ^ 63 ≤ i ∧ i < 2 ^ 63))
  | .real _ => .isFalse id

instance : DecidablePred OwnNumberIsInt64
  | .number n => inferInstanceAs (Decidable n.IsInt64)
  | .null | .bool _ | .string _ | .array _ | .object _ => .isTrue trivial

instance : DecidablePred IntegersOnly := fun v =>
  inferInstanceAs (Decidable (∀ w ∈ v.parts, w.OwnNumberIsInt64))

theorem integersOnly_number_iff {n : Json.Number} : (number n).IntegersOnly ↔ n.IsInt64 :=
  List.forall_mem_singleton

theorem integersOnly_array_iff {items : List Json} :
    (array items).IntegersOnly ↔ ∀ v ∈ items, v.IntegersOnly :=
  forall_parts_array_iff.trans (and_iff_right trivial)

theorem integersOnly_object_iff {members : List (String × Json)} :
    (object members).IntegersOnly ↔ ∀ m ∈ members, m.2.IntegersOnly :=
  forall_parts_object_iff.trans (and_iff_right trivial)

end Json

namespace Value

theorem perm_tableOf (members : Json.Members) :
    (tableOf members).entries.Perm (members.entries.map fun m => (m.1, ofJson m.2)) := by
  apply Table.perm_ofList
  rw [Entries.keys_map]
  exact members.distinct

theorem mem_tableOf_iff (members : Json.Members) {e : String × Value} :
    e ∈ (tableOf members).entries ↔ ∃ m ∈ members.entries, (m.1, ofJson m.2) = e := by
  rw [(perm_tableOf members).mem_iff, List.mem_map]

theorem keys_tableOf (members : Json.Members) :
    ((tableOf members).entries.map (·.1)).Perm (members.entries.map (·.1)) := by
  have hperm := (perm_tableOf members).map (·.1)
  rwa [Entries.keys_map] at hperm

theorem toJson_ofNumber_of_isInt64 {n : Json.Number} (h : n.IsInt64) :
    (ofNumber n).toJson = .number n := by
  cases n with
  | integer i hi =>
    have hint : (Int64.ofInt i).toInt = i := Int64.toInt_ofInt_of_le h.1 h.2
    rw [ofNumber_word hi h, toJson, jsonOfInt64]
    simp only [hint]
  | real x => exact h.elim

/-- The document comes back up to the order of members. -/
theorem toJson_ofJson_reordered {v : Json.Document} (hv : v.json.IntegersOnly) :
    (ofJson v.json).toJson.Reordered v.json := by
  obtain ⟨v, hkeys⟩ := v
  change v.IntegersOnly at hv
  change (ofJson v).toJson.Reordered v
  induction v using Json.induction with
  | number n =>
    rw [ofJson, toJson_ofNumber_of_isInt64 (Json.integersOnly_number_iff.mp hv)]
    exact .refl _
  | array items ih =>
    rw [Json.integersOnly_array_iff] at hv
    rw [Json.distinctKeys_array_iff] at hkeys
    rw [ofJson_array, toJson, itemsToJson_eq_map, List.map_map]
    apply Json.Reordered.array
    rw [List.forall₂_map_left_iff, List.forall₂_same]
    intro v hmem
    exact ih v hmem (hkeys v hmem) (hv v hmem)
  | object members ih =>
    rw [Json.integersOnly_object_iff] at hv
    obtain ⟨hown, hmembers⟩ := Json.distinctKeys_object_iff.mp hkeys
    rw [ofJson_object, toJson, entriesToJson_eq_map]
    apply Json.Reordered.object
    · rw [Entries.keys_map]
      exact keys_tableOf ⟨members, hown⟩
    · intro key u v hu hv'
      obtain ⟨e, he, hu⟩ := List.mem_map.mp hu
      obtain ⟨m, hm, rfl⟩ := (mem_tableOf_iff ⟨members, hown⟩).mp he
      cases hu
      -- the key has one member only
      have hmv : some m.2 = some v :=
        (Entries.lookup_of_mem hown hm).symm.trans (Entries.lookup_of_mem hown hv')
      cases hmv
      exact ih m hm (hmembers m hm) (hv m hm)
  | _ => exact .refl _

theorem equalItems_iff {vs : List Value} (h : ∀ v ∈ vs, ∀ w, v.equal w = true ↔ v = w)
    (ws : List Value) : equalItems vs ws = true ↔ vs = ws := by
  induction vs generalizing ws with
  | nil => cases ws <;> simp [equalItems]
  | cons v rest ih =>
    obtain ⟨hv, hrest⟩ := List.forall_mem_cons.mp h
    cases ws with
    | nil => simp [equalItems]
    | cons w ws => rw [equalItems, Bool.and_eq_true, hv, ih hrest, List.cons.injEq]

theorem equalEntries_iff {vs : List (String × Value)}
    (h : ∀ e ∈ vs, ∀ w, e.2.equal w = true ↔ e.2 = w) (ws : List (String × Value)) :
    equalEntries vs ws = true ↔ vs = ws := by
  induction vs generalizing ws with
  | nil => cases ws <;> simp [equalEntries]
  | cons e rest ih =>
    obtain ⟨he, hrest⟩ := List.forall_mem_cons.mp h
    cases ws with
    | nil => simp [equalEntries]
    | cons w ws =>
      rw [equalEntries, Bool.and_eq_true, Bool.and_eq_true, beq_iff_eq, he, ih hrest,
        List.cons.injEq, Prod.ext_iff]

/-- The value of such a document equals no value but itself. -/
theorem equal_ofJson_iff {v : Json.Document} (hv : v.json.IntegersOnly) (w : Value) :
    (ofJson v.json).equal w = true ↔ ofJson v.json = w := by
  obtain ⟨v, hkeys⟩ := v
  change v.IntegersOnly at hv
  change (ofJson v).equal w = true ↔ ofJson v = w
  induction v using Json.induction generalizing w with
  | null => cases w <;> simp [ofJson, equal]
  | bool b => cases w <;> simp [ofJson, equal]
  | number n =>
    cases n with
    | integer i hi =>
      rw [ofJson, ofNumber_word hi (Json.integersOnly_number_iff.mp hv)]
      cases w <;> simp [equal]
    | real x => exact (Json.integersOnly_number_iff.mp hv).elim
  | string s => cases w <;> simp [ofJson, equal]
  | array items ih =>
    rw [Json.integersOnly_array_iff] at hv
    rw [Json.distinctKeys_array_iff] at hkeys
    rw [ofJson_array]
    cases w with
    | list ws =>
      rw [equal, list.injEq]
      apply equalItems_iff
      intro x hx w
      obtain ⟨v, hmem, rfl⟩ := List.mem_map.mp hx
      exact ih v hmem w (hkeys v hmem) (hv v hmem)
    | _ => simp [equal]
  | object members ih =>
    rw [Json.integersOnly_object_iff] at hv
    obtain ⟨hown, hmembers⟩ := Json.distinctKeys_object_iff.mp hkeys
    rw [ofJson_object]
    cases w with
    | map ws =>
      rw [equal, map.injEq]
      apply equalEntries_iff
      intro e he w
      obtain ⟨m, hm, rfl⟩ := (mem_tableOf_iff ⟨members, hown⟩).mp he
      exact ih m hm w (hmembers m hm) (hv m hm)
    | _ => simp [equal]

theorem ofJson_eq_iff {v w : Json.Document} (hv : v.json.IntegersOnly)
    (hw : w.json.IntegersOnly) : ofJson v.json = ofJson w.json ↔ v.json.Reordered w.json := by
  constructor
  · intro h
    have hv' := toJson_ofJson_reordered hv
    have hw' := toJson_ofJson_reordered hw
    rw [h] at hv'
    exact hv'.symm.trans hw'
  · intro h
    exact ofJson_of_reordered h

end Value

namespace Context

theorem toJson_eq (d : Context) : d.toJson = (Value.map d.entries).toJson := by
  rw [toJson, Value.toJson, Value.entriesToJson_eq_map]

theorem ofJson?_object (members : List (String × Json)) :
    ofJson? (.object members) = .ok (Value.tableOf members) := rfl

/-- Objects that are equal up to order hold the same data, and of other documents neither does. -/
theorem ofJson?_of_reordered {v : Json.Document} {w : Json} (h : v.json.Reordered w) :
    ofJson? v.json = ofJson? w := by
  have hvalue := Value.ofJson_of_reordered h
  generalize v.json = v at *
  cases h with
  | refl => rfl
  | array => rfl
  | @object members members' keys each =>
    rw [Value.ofJson_object, Value.ofJson_object, Value.map.injEq] at hvalue
    rw [ofJson?_object, ofJson?_object]
    apply congrArg Except.ok
    apply Table.ext_get?
    intro k
    rw [Table.get?, Table.get?, hvalue]

end Context

/-- Values keep documents of 64-bit integers: each comes back up to the order of members, values
are equal exactly for documents that are equal up to it, and a context gives its object back. -/
theorem Value.document_of_integersOnly {v w : Json.Document} (hv : v.json.IntegersOnly)
    (hw : w.json.IntegersOnly) :
    (ofJson v.json).toJson.Reordered v.json ∧
      ((ofJson v.json).equal (ofJson w.json) = true ↔ v.json.Reordered w.json) ∧
      ∀ members, v.json = .object members →
        ∃ d, Context.ofJson? v.json = .ok d ∧ d.toJson.Reordered v.json := by
  have hback := toJson_ofJson_reordered hv
  refine ⟨hback, ?_, ?_⟩
  · rw [equal_ofJson_iff hv]
    exact ofJson_eq_iff hv hw
  · intro members hobject
    rw [hobject] at hback ⊢
    refine ⟨tableOf members, Context.ofJson?_object members, ?_⟩
    rw [Context.toJson_eq, ← ofJson_object]
    exact hback

/-- An object within an array, its members not in the order of their keys. -/
def Json.nestedDocument : Json.Document where
  json := .object [("b", .array [.number (.integer 1 (by decide)),
    .object [("y", .null), ("x", .string "1")]]), ("a", .number (.integer (-5) (by decide)))]
  distinctKeys := by decide

/-- The same with members in the order of their keys. -/
def Json.nestedDocumentInOrder : Json.Document where
  json := .object [("a", .number (.integer (-5) (by decide))), ("b", .array [
    .number (.integer 1 (by decide)), .object [("x", .string "1"), ("y", .null)]])]
  distinctKeys := by decide

theorem Value.document_of_integersOnly_nested :
    Json.nestedDocument.json.IntegersOnly ∧ Json.nestedDocumentInOrder.json.IntegersOnly ∧
      Json.nestedDocument.json.Reordered Json.nestedDocumentInOrder.json ∧
      ∃ d, Context.ofJson? Json.nestedDocument.json = .ok d ∧
        d.toJson.Reordered Json.nestedDocument.json := by
  have hv : Json.nestedDocument.json.IntegersOnly := by decide
  have hw : Json.nestedDocumentInOrder.json.IntegersOnly := by decide
  have hequal : (ofJson Json.nestedDocument.json).equal (ofJson Json.nestedDocumentInOrder.json) =
      true := by
    decide
  obtain ⟨-, hiff, hcontext⟩ := document_of_integersOnly hv hw
  exact ⟨hv, hw, hiff.mp hequal, hcontext _ rfl⟩

end Questionnaire
