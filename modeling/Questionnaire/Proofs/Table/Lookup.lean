import Questionnaire.Table

namespace Questionnaire

namespace Entries

variable {α : Type} {m n : List (String × α)}

theorem Sorted.keys (h : Sorted m) : (m.map (·.1)).Nodup := by
  apply (List.pairwise_map.mpr h).imp
  rintro k l hlt rfl
  exact String.lt_irrefl k hlt

theorem nodup_of_keys (h : (m.map (·.1)).Nodup) : m.Nodup := by
  apply (List.pairwise_map.mp h).imp
  rintro a b hne rfl
  exact hne rfl

theorem lookup_of_mem (h : (m.map (·.1)).Nodup) {e : String × α} (he : e ∈ m) :
    m.lookup e.1 = some e.2 := by
  induction m with
  | nil => cases he
  | cons a rest ih =>
    rw [List.map_cons, List.nodup_cons] at h
    rcases List.mem_cons.mp he with rfl | he
    · exact List.lookup_cons_self
    · have hne : e.1 ≠ a.1 := by
        intro heq
        apply h.1
        rw [← heq]
        exact List.mem_map_of_mem he
      rw [List.lookup_cons, beq_false_of_ne hne]
      exact ih h.2 he

theorem mem_iff_lookup (h : (m.map (·.1)).Nodup) {e : String × α} :
    e ∈ m ↔ m.lookup e.1 = some e.2 := by
  refine ⟨lookup_of_mem h, fun he => ?_⟩
  obtain ⟨before, after, rfl, -⟩ := List.lookup_eq_some_iff.mp he
  exact List.mem_append_right before List.mem_cons_self

theorem Sorted.eq_of_lookup (hm : Sorted m) (hn : Sorted n)
    (h : ∀ k, m.lookup k = n.lookup k) : m = n := by
  have hperm : m.Perm n := by
    rw [List.perm_ext_iff_of_nodup (nodup_of_keys hm.keys) (nodup_of_keys hn.keys)]
    intro e
    rw [mem_iff_lookup hm.keys, mem_iff_lookup hn.keys, h]
  apply hperm.eq_of_pairwise ?_ hm hn
  intro a b _ _ hab hba
  exact absurd (String.lt_trans hab hba) (String.lt_irrefl a.1)

theorem keys_map {β : Type} (f : α → β) (m : List (String × α)) :
    (m.map fun e => (e.1, f e.2)).map (·.1) = m.map (·.1) := by
  rw [List.map_map]
  rfl

theorem lookup_map {β : Type} (f : α → β) (m : List (String × α)) (k : String) :
    (m.map fun e => (e.1, f e.2)).lookup k = (m.lookup k).map f := by
  induction m with
  | nil => rfl
  | cons a rest ih =>
    rw [List.map_cons, List.lookup_cons, List.lookup_cons, ih]
    cases k == a.1 <;> rfl

theorem lookup_filter_ne (key k : String) (m : List (String × α)) :
    (m.filter fun e => e.1 != key).lookup k = if k = key then none else m.lookup k := by
  induction m with
  | nil => simp
  | cons a rest ih =>
    by_cases ha : a.1 = key
    · rw [List.filter_cons_of_neg (by simp [ha]), ih]
      by_cases hk : k = key
      · simp [hk]
      · rw [if_neg hk, if_neg hk, List.lookup_cons, beq_false_of_ne (ha ▸ hk)]
    · rw [List.filter_cons_of_pos (by simp [ha]), List.lookup_cons, ih, List.lookup_cons]
      by_cases hk : k = a.1
      · simp [hk, ha]
      · rw [beq_false_of_ne hk]

end Entries

namespace Table

variable {α : Type}

theorem ext_get? {t u : Table α} (h : ∀ k, t.get? k = u.get? k) : t = u := by
  obtain ⟨entries, sorted⟩ := t
  obtain ⟨entries', sorted'⟩ := u
  cases sorted.eq_of_lookup sorted' h
  rfl

theorem insert_of_get? {t : Table α} {key : String} {value : α} (h : t.get? key = some value) :
    t.insert key value = t := by
  apply ext_get?
  intro k
  rw [get?_insert]
  split
  · rename_i hk
    rw [hk, h]
  · rfl

theorem insert_comm {key key' : String} (h : key ≠ key') (value value' : α) (t : Table α) :
    (t.insert key value).insert key' value' = (t.insert key' value').insert key value := by
  apply ext_get?
  intro k
  rw [get?_insert, get?_insert, get?_insert, get?_insert]
  by_cases hk : k = key'
  · rw [if_pos hk, if_neg (hk ▸ h.symm), if_pos hk]
  · rw [if_neg hk, if_neg hk]

/-- If each key comes once, the entry that is found is the one that counts. -/
theorem get?_insertAll {entries : List (String × α)} (h : (entries.map (·.1)).Nodup) (t : Table α)
    (k : String) : (t.insertAll entries).get? k = (entries.lookup k).or (t.get? k) := by
  induction entries generalizing t with
  | nil => rfl
  | cons e rest ih =>
    rw [List.map_cons, List.nodup_cons] at h
    have hinsert : (t.insertAll (e :: rest)).get? k =
        (rest.lookup k).or ((t.insert e.1 e.2).get? k) := ih h.2 _
    rw [hinsert, get?_insert, List.lookup_cons]
    by_cases hk : k = e.1
    · have hnone : rest.lookup k = none := by
        rw [List.lookup_eq_none_iff]
        intro a ha
        rw [hk, bne_iff_ne]
        intro heq
        apply h.1
        rw [heq]
        exact List.mem_map_of_mem ha
      rw [hnone, if_pos hk, hk, beq_self_eq_true]
      rfl
    · rw [if_neg hk, beq_false_of_ne hk]

theorem get?_ofList {entries : List (String × α)} (h : (entries.map (·.1)).Nodup) (k : String) :
    (ofList entries).get? k = entries.lookup k := by
  rw [ofList, get?_insertAll h, get?_empty, Option.or_none]

theorem perm_ofList {entries : List (String × α)} (h : (entries.map (·.1)).Nodup) :
    (ofList entries).entries.Perm entries := by
  have hkeys := (ofList entries).sorted.keys
  rw [List.perm_ext_iff_of_nodup (Entries.nodup_of_keys hkeys) (Entries.nodup_of_keys h)]
  intro e
  rw [Entries.mem_iff_lookup hkeys, Entries.mem_iff_lookup h, ← get?_ofList h]
  rfl

theorem get?_overlay (t u : Table α) (k : String) :
    (t.overlay u).get? k = (u.get? k).or (t.get? k) :=
  get?_insertAll u.sorted.keys t k

/-- The table without the entry of a key. -/
def erase (key : String) (t : Table α) : Table α :=
  ⟨t.entries.filter fun e => e.1 != key, t.sorted.filter _⟩

theorem get?_erase (t : Table α) (key k : String) :
    (t.erase key).get? k = if k = key then none else t.get? k :=
  Entries.lookup_filter_ne key k t.entries

/-- Tables that differ under one key only. -/
theorem erase_eq_iff {t u : Table α} {key : String} :
    t.erase key = u.erase key ↔ ∀ k, k ≠ key → t.get? k = u.get? k := by
  constructor
  · intro h k hk
    have hget := congrArg (·.get? k) h
    simpa only [get?_erase, if_neg hk] using hget
  · intro h
    apply ext_get?
    intro k
    rw [get?_erase, get?_erase]
    split
    · rfl
    · rename_i hk
      exact h k hk

end Table

end Questionnaire
