import Mathlib.Data.List.Forall2
import Questionnaire.Proofs.Form.Verdict
import Questionnaire.Proofs.Json.Members
import Questionnaire.Proofs.Table.Lookup

namespace Questionnaire.Registry

/-- Why a constraint is refused, if it is. -/
def objection? (r : Registry) (e : String × Json) : Option ConstraintError :=
  match r.get? e.1 with
  | none => some (.unknown e.1)
  | some required =>
    if required.isEmpty || required.any e.2.hasMember then none
    else some (.missingOption e.1 required)

variable {r : Registry} {block : List (String × Json)} {e : String × Json}

theorem describe_eq_verdict (r : Registry) (e : String × Json) :
    r.describe e.1 e.2 = verdict (r.objection? e) ⟨e.1, e.2.object?⟩ := by
  rw [describe, objection?]
  cases r.get? e.1 with
  | none => rfl
  | some required =>
    dsimp only
    split <;> rfl

theorem describeAll_eq_verdict (r : Registry) (block : List (String × Json)) :
    r.describeAll block =
      verdict (block.findSome? r.objection?) (block.map fun e => ⟨e.1, e.2.object?⟩) := by
  induction block with
  | nil => rfl
  | cons e rest ih =>
    rw [describeAll, describe_eq_verdict, findSome?_cons_or, List.map_cons]
    apply verdict_bind
    rw [ih]
    exact verdict_bind_pure _ _ _

theorem describeAll_eq_ok {cs : List Descriptor} (h : r.describeAll block = .ok cs) :
    cs = block.map fun e => ⟨e.1, e.2.object?⟩ := by
  rw [describeAll_eq_verdict, verdict_eq_ok_iff] at h
  exact h.2.symm

theorem objection?_of_get? {required : List String} (h : r.get? e.1 = some required) :
    r.objection? e =
      if required.isEmpty || required.any e.2.hasMember then none
      else some (.missingOption e.1 required) := by
  rw [objection?, h]

theorem objection?_of_missing (h : r.get? e.1 = none) : r.objection? e = some (.unknown e.1) := by
  rw [objection?, h]

theorem get?_addName (r : Registry) (name k : String) :
    (r.addName name).get? k = (r.get? k).or (if k = name then some [] else none) := by
  rw [addName, Table.contains]
  by_cases hk : k = name
  · subst hk
    rw [if_pos rfl]
    cases h : r.get? k with
    | none =>
      rw [if_neg (by simp), Table.get?_insert, if_pos rfl]
      rfl
    | some required =>
      rw [if_pos (by simp), h]
      rfl
  · rw [if_neg hk, Option.or_none]
    split
    · rfl
    · rw [Table.get?_insert, if_neg hk]

/-- What is found under a name stays; only names that were not known come in. -/
theorem get?_withExtra (r : Registry) (names : List String) (k : String) :
    (r.withExtra names).get? k = (r.get? k).or (if k ∈ names then some [] else none) := by
  induction names generalizing r with
  | nil => exact Option.or_none.symm
  | cons name rest ih =>
    have hadd : (r.withExtra (name :: rest)).get? k = ((r.addName name).withExtra rest).get? k :=
      rfl
    rw [hadd, ih, get?_addName, Option.or_assoc]
    by_cases hk : k = name
    · rw [if_pos hk, if_pos (List.mem_cons.mpr (.inl hk))]
      rfl
    · rw [if_neg hk, Option.none_or]
      simp only [List.mem_cons, hk, false_or]

theorem nodup_builtinEntries : (builtinEntries.map (·.1)).Nodup := by
  decide

theorem mem_builtinEntries_iff {name : String} {required : List String} :
    (name, required) ∈ builtinEntries ↔ builtin.get? name = some required := by
  rw [Entries.mem_iff_lookup nodup_builtinEntries, builtin, Table.get?_ofList nodup_builtinEntries]

/-- An object with at least one of the options. -/
def Offers (options : Json) (required : List String) : Prop :=
  ∃ members, options = .object members ∧ ∃ key ∈ required, key ∈ members.map (·.1)

theorem offers_iff {options : Json} {required : List String} :
    Offers options required ↔ required.any options.hasMember = true := by
  rw [List.any_eq_true]
  simp only [Json.hasMember_iff]
  constructor
  · rintro ⟨members, hobject, key, hkey, hmember⟩
    exact ⟨key, hkey, members, hobject, hmember⟩
  · rintro ⟨key, hkey, members, hobject, hmember⟩
    exact ⟨members, hobject, key, hkey, hmember⟩

/-- The built-in names and those that are added. -/
def IsKnown (extra : List String) (name : String) : Prop :=
  name ∈ builtinEntries.map (·.1) ∨ name ∈ extra

/-- A constraint of a known name. A built-in one that needs options has one of them, whatever names
are added. -/
structure Admits (extra : List String) (e : String × Json) : Prop where
  known : IsKnown extra e.1
  offers : ∀ required, (e.1, required) ∈ builtinEntries → required ≠ [] → Offers e.2 required

/-- The error of a constraint that is not admitted. -/
inductive ObjectsTo (extra : List String) (e : String × Json) : ConstraintError → Prop
  | unknown (unknown : ¬ IsKnown extra e.1) : ObjectsTo extra e (.unknown e.1)
  | missingOption {required : List String} (builtin : (e.1, required) ∈ builtinEntries)
      (needed : required ≠ []) (missing : ¬ Offers e.2 required) :
      ObjectsTo extra e (.missingOption e.1 required)

variable {extra : List String}

theorem get?_withExtra_of_builtin {name : String} {required : List String}
    (h : (name, required) ∈ builtinEntries) :
    (builtin.withExtra extra).get? name = some required := by
  rw [get?_withExtra, mem_builtinEntries_iff.mp h]
  rfl

theorem get?_withExtra_of_not_builtin (extra : List String) {name : String}
    (h : name ∉ builtinEntries.map (·.1)) :
    (builtin.withExtra extra).get? name = if name ∈ extra then some [] else none := by
  have hmissing : builtin.get? name = none := by
    rw [builtin, Table.get?_ofList nodup_builtinEntries]
    exact Json.lookup_eq_none_iff.mpr h
  rw [get?_withExtra, hmissing, Option.none_or]

theorem exists_required {name : String} (h : name ∈ builtinEntries.map (·.1)) :
    ∃ required, (name, required) ∈ builtinEntries := by
  obtain ⟨⟨name', required⟩, hmem, rfl⟩ := List.mem_map.mp h
  exact ⟨required, hmem⟩

theorem required_unique {name : String} {required required' : List String}
    (h : (name, required) ∈ builtinEntries) (h' : (name, required') ∈ builtinEntries) :
    required' = required := by
  rw [mem_builtinEntries_iff] at h h'
  exact Option.some.inj (h'.symm.trans h)

/-- A constraint is refused exactly for one of the two faults that there are. -/
theorem objection?_eq_some_iff {err : ConstraintError} :
    (builtin.withExtra extra).objection? e = some err ↔ ObjectsTo extra e err := by
  by_cases hbuiltin : e.1 ∈ builtinEntries.map (·.1)
  · obtain ⟨required, hrequired⟩ := exists_required hbuiltin
    have hsatisfied : (required.isEmpty || required.any e.2.hasMember) = true ↔
        required = [] ∨ Offers e.2 required := by
      rw [Bool.or_eq_true, List.isEmpty_iff, offers_iff]
    rw [objection?_of_get? (get?_withExtra_of_builtin hrequired)]
    constructor
    · intro h
      split at h
      · cases h
      · rename_i hrefused
        obtain ⟨hneeded, hmissing⟩ := not_or.mp (mt hsatisfied.mpr hrefused)
        cases h
        exact .missingOption hrequired hneeded hmissing
    · intro h
      cases h with
      | unknown hunknown => exact absurd (.inl hbuiltin) hunknown
      | missingOption hrequired' hneeded hmissing =>
        cases required_unique hrequired' hrequired
        rw [if_neg (mt hsatisfied.mp (not_or.mpr ⟨hneeded, hmissing⟩))]
  · have hget := get?_withExtra_of_not_builtin extra hbuiltin
    have hno : ∀ required, (e.1, required) ∉ builtinEntries :=
      fun required hmem => hbuiltin (List.mem_map_of_mem hmem)
    by_cases hextra : e.1 ∈ extra
    · -- an added name needs no options, so nothing is left to object to
      rw [if_pos hextra] at hget
      rw [objection?_of_get? hget]
      refine iff_of_false nofun fun h => ?_
      cases h with
      | unknown hunknown => exact hunknown (.inr hextra)
      | missingOption hrequired => exact hno _ hrequired
    · rw [if_neg hextra] at hget
      rw [objection?_of_missing hget]
      constructor
      · intro h
        cases h
        exact .unknown (not_or.mpr ⟨hbuiltin, hextra⟩)
      · intro h
        cases h with
        | unknown => rfl
        | missingOption hrequired => exact absurd hrequired (hno _)

theorem admits_iff : Admits extra e ↔ ∀ err, ¬ ObjectsTo extra e err := by
  constructor
  · rintro ⟨hknown, hoffers⟩ err h
    cases h with
    | unknown hunknown => exact hunknown hknown
    | missingOption hrequired hneeded hmissing =>
      exact hmissing (hoffers _ hrequired hneeded)
  · intro h
    refine ⟨?_, fun required hrequired hneeded => ?_⟩
    · exact Classical.byContradiction fun hunknown => h _ (.unknown hunknown)
    · exact Classical.byContradiction fun hmissing =>
        h _ (.missingOption hrequired hneeded hmissing)

theorem objection?_eq_none_iff :
    (builtin.withExtra extra).objection? e = none ↔ Admits extra e := by
  rw [Option.eq_none_iff_forall_ne_some, admits_iff]
  exact forall_congr' fun err => not_congr objection?_eq_some_iff

theorem describeAll_congr {r r' : Registry} (h : ∀ e ∈ block, r.objection? e = r'.objection? e) :
    r.describeAll block = r'.describeAll block := by
  rw [describeAll_eq_verdict, describeAll_eq_verdict]
  congr 1
  induction block with
  | nil => rfl
  | cons e rest ih =>
    obtain ⟨he, hrest⟩ := List.forall_mem_cons.mp h
    rw [findSome?_cons_or, findSome?_cons_or, he, ih hrest]

/-- What a descriptor holds of its constraint: the name, and the options if they are an object. -/
def Describes (e : String × Json) (c : Descriptor) : Prop :=
  c.kind = e.1 ∧ ∀ options, c.options = some options ↔ e.2 = .object options

theorem describes_self (e : String × Json) : Describes e ⟨e.1, e.2.object?⟩ := by
  refine ⟨rfl, fun options => ?_⟩
  cases h : e.2 with
  | object members => exact ⟨fun h => congrArg _ (Option.some.inj h), fun h => by cases h; rfl⟩
  | _ => exact iff_of_false nofun nofun

/-- A block is accepted exactly if each of its constraints is admitted, and then has one descriptor
for each, in order. It fails with the error of the first constraint that is not. A built-in
constraint needs the same options whatever names are added, so a block of built-in names comes to
the same with them and without. -/
theorem describeAll_withExtra (extra : List String) (block : List (String × Json)) :
    ((∃ cs, (builtin.withExtra extra).describeAll block = .ok cs) ↔
      ∀ e ∈ block, Admits extra e) ∧
    (∀ cs, (builtin.withExtra extra).describeAll block = .ok cs →
      List.Forall₂ Describes block cs) ∧
    (∀ err, (builtin.withExtra extra).describeAll block = .error err ↔
      ∃ before e after, block = before ++ e :: after ∧ ObjectsTo extra e err ∧
        ∀ b ∈ before, Admits extra b) ∧
    (∀ name required, (name, required) ∈ builtinEntries →
      (builtin.withExtra extra).get? name = some required) ∧
    ((∀ e ∈ block, e.1 ∈ builtinEntries.map (·.1)) →
      (builtin.withExtra extra).describeAll block = builtin.describeAll block) := by
  refine ⟨?_, fun cs h => ?_, fun err => ?_, fun name required => get?_withExtra_of_builtin,
    fun h => describeAll_congr fun e he => ?_⟩
  · rw [describeAll_eq_verdict]
    simp only [verdict_eq_ok_iff, exists_and_left, exists_eq', and_true, List.findSome?_eq_none_iff,
      objection?_eq_none_iff]
  · rw [describeAll_eq_ok h, List.forall₂_map_right_iff, List.forall₂_same]
    exact fun e _ => describes_self e
  · rw [describeAll_eq_verdict, verdict_eq_error_iff, List.findSome?_eq_some_iff]
    simp only [objection?_eq_none_iff, objection?_eq_some_iff]
  · obtain ⟨required, hrequired⟩ := exists_required (h e he)
    rw [objection?_of_get? (get?_withExtra_of_builtin hrequired),
      objection?_of_get? (mem_builtinEntries_iff.mp hrequired)]

theorem describeAll_withExtra_lengthAdded :
    (builtin.withExtra ["Siret", "Length", "Siret"]).describeAll
        [("Siret", .bool true), ("Length", .object [("charset", .null)]), ("Bogus", .null)] =
      .error (.missingOption "Length" ["min", "max", "exactly"]) ∧
    (∃ cs, (builtin.withExtra ["Siret", "Length", "Siret"]).describeAll
        [("Siret", .bool true), ("Length", .object [("max", .null)])] = .ok cs ∧
      List.Forall₂ Describes
        [("Siret", .bool true), ("Length", .object [("max", .null)])] cs) ∧
    (builtin.withExtra ["Siret", "Length", "Siret"]).describeAll [("Length", .null)] =
      builtin.describeAll [("Length", .null)] := by
  have hlength : ("Length", ["min", "max", "exactly"]) ∈ builtinEntries := by decide
  have hnew : "Siret" ∉ builtinEntries.map (·.1) := by decide
  have hsiret : Admits ["Siret", "Length", "Siret"] ("Siret", .bool true) :=
    ⟨.inr (by decide), fun required hmem => absurd (List.mem_map_of_mem hmem) hnew⟩
  refine ⟨?_, ?_, ?_⟩
  · refine ((describeAll_withExtra _ _).2.2.1 _).mpr
      ⟨[("Siret", .bool true)], _, _, rfl, .missingOption hlength (by decide) ?_, ?_⟩
    · rw [offers_iff]
      decide
    · exact fun b hb => List.mem_singleton.mp hb ▸ hsiret
  · obtain ⟨haccepted, hdescribes, -⟩ := describeAll_withExtra ["Siret", "Length", "Siret"]
      [("Siret", .bool true), ("Length", .object [("max", .null)])]
    obtain ⟨cs, hcs⟩ := haccepted.mpr fun e he => by
      rcases List.mem_cons.mp he with rfl | he
      · exact hsiret
      · cases List.mem_singleton.mp he
        refine ⟨.inr (by decide), fun required hmem _ => ?_⟩
        cases required_unique hmem hlength
        exact ⟨_, rfl, "max", by decide, by decide⟩
    exact ⟨cs, hcs, hdescribes cs hcs⟩
  · refine (describeAll_withExtra _ _).2.2.2.2 fun e he => ?_
    cases List.mem_singleton.mp he
    decide

end Questionnaire.Registry
