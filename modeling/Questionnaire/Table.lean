namespace Questionnaire

namespace Entries

variable {α : Type}

def Sorted (m : List (String × α)) : Prop :=
  m.Pairwise fun a b => a.1 < b.1

/-- Puts a value in its place; an entry with the same key is replaced. -/
def insert (key : String) (value : α) : List (String × α) → List (String × α)
  | [] => [(key, value)]
  | (k, v) :: rest =>
    if key < k then (key, value) :: (k, v) :: rest
    else if k < key then (k, v) :: insert key value rest
    else (key, value) :: rest

theorem eq_of_not_lt {a b : String} (h : ¬ a < b) (h' : ¬ b < a) : a = b :=
  String.le_antisymm (String.not_lt.mp h') (String.not_lt.mp h)

theorem mem_insert {key : String} {value : α} {m : List (String × α)} {e : String × α}
    (h : e ∈ insert key value m) : e = (key, value) ∨ e ∈ m := by
  induction m with
  | nil => simpa [insert] using h
  | cons a rest ih =>
    obtain ⟨k, v⟩ := a
    unfold insert at h
    split at h
    · simpa using h
    · split at h
      · rcases List.mem_cons.mp h with h | h
        · simp [h]
        · rcases ih h with h | h <;> simp [h]
      · rcases List.mem_cons.mp h with h | h <;> simp [h]

theorem sorted_insert {key : String} {value : α} {m : List (String × α)} (h : Sorted m) :
    Sorted (insert key value m) := by
  induction m with
  | nil => simp [insert, Sorted]
  | cons a rest ih =>
    obtain ⟨k, v⟩ := a
    obtain ⟨hk, hr⟩ := List.pairwise_cons.mp h
    unfold insert
    split
    · rename_i hlt
      refine List.pairwise_cons.mpr ⟨?_, h⟩
      intro e he
      rcases List.mem_cons.mp he with rfl | he
      · exact hlt
      · exact String.lt_trans hlt (hk e he)
    · rename_i hnlt
      split
      · rename_i hlt
        refine List.pairwise_cons.mpr ⟨?_, ih hr⟩
        intro e he
        rcases mem_insert he with rfl | he
        · exact hlt
        · exact hk e he
      · rename_i hnlt'
        have := eq_of_not_lt hnlt hnlt'
        subst this
        exact List.pairwise_cons.mpr ⟨hk, hr⟩

theorem lookup_insert (key k : String) (value : α) (m : List (String × α)) :
    (insert key value m).lookup k = if k = key then some value else m.lookup k := by
  induction m with
  | nil =>
    simp only [insert, List.lookup_cons, List.lookup_nil]
    split <;> simp_all
  | cons a rest ih =>
    obtain ⟨k', v⟩ := a
    unfold insert
    split
    · rw [List.lookup_cons]
      split <;> simp_all
    · split
      · rename_i hlt
        have hne : k' ≠ key := fun h => String.lt_irrefl key (h ▸ hlt)
        rw [List.lookup_cons, List.lookup_cons, ih]
        split <;> simp_all
      · rename_i hnlt hnlt'
        have := eq_of_not_lt hnlt hnlt'
        subst this
        rw [List.lookup_cons, List.lookup_cons]
        split <;> simp_all

end Entries

/-- A finite map from texts. The order of the keys makes the entries canonical: tables with the same
look-ups are equal. -/
structure Table (α : Type) where
  entries : List (String × α)
  sorted : Entries.Sorted entries

namespace Table

variable {α : Type}

def empty : Table α := ⟨[], List.Pairwise.nil⟩

instance : Inhabited (Table α) := ⟨empty⟩

def get? (t : Table α) (key : String) : Option α :=
  t.entries.lookup key

def contains (t : Table α) (key : String) : Bool :=
  (t.get? key).isSome

def insert (key : String) (value : α) (t : Table α) : Table α :=
  ⟨Entries.insert key value t.entries, Entries.sorted_insert t.sorted⟩

def size (t : Table α) : Nat :=
  t.entries.length

/-- Entries inserted one after the other: of two with the same key the later one counts. -/
def insertAll (entries : List (String × α)) (t : Table α) : Table α :=
  entries.foldl (fun t e => t.insert e.1 e.2) t

def ofList (entries : List (String × α)) : Table α :=
  empty.insertAll entries

/-- The entries of `other` over those of `t`. -/
def overlay (t other : Table α) : Table α :=
  t.insertAll other.entries

@[simp] theorem get?_empty (key : String) : (empty : Table α).get? key = none := rfl

theorem get?_insert (t : Table α) (key k : String) (value : α) :
    (t.insert key value).get? k = if k = key then some value else t.get? k :=
  Entries.lookup_insert key k value t.entries

end Table

end Questionnaire
