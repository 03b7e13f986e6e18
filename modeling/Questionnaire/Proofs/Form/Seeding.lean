import Questionnaire.Proofs.Form.Layout
import Questionnaire.Proofs.Table.Lookup

namespace Questionnaire

theorem Value.isNull_iff {v : Value} : v.isNull = true ↔ v = .null := by
  cases v <;> simp [isNull]

theorem Json.isNull_iff {v : Json} : v.isNull = true ↔ v = .null := by
  cases v <;> simp [isNull]

theorem Value.isNull_ofNumber (n : Json.Number) : (Value.ofNumber n).isNull = false := by
  unfold ofNumber
  repeat' split
  all_goals rfl

theorem Value.isNull_ofJson (v : Json) : (Value.ofJson v).isNull = v.isNull := by
  cases v with
  | number n => exact isNull_ofNumber n
  | null | bool | string | array | object => rfl

/-- A default that is there and not null. -/
def Question.ownDefault? (q : Question) : Option Json :=
  q.data.filter (!·.isNull)

/-- The first default that a question has for a key. -/
def Question.firstDefault? (key : String) (qs : List Question) : Option Json :=
  qs.findSome? fun q => if q.key = key then q.ownDefault? else none

theorem Question.firstDefault?_self (q : Question) (rest : List Question) :
    firstDefault? q.key (q :: rest) = q.ownDefault?.or (firstDefault? q.key rest) := by
  rw [firstDefault?, findSome?_cons_or, if_pos rfl]
  rfl

theorem Question.firstDefault?_of_ne {q : Question} {key : String} (h : q.key ≠ key)
    (rest : List Question) : firstDefault? key (q :: rest) = firstDefault? key rest := by
  rw [firstDefault?, findSome?_cons_or, if_neg h, Option.none_or]
  rfl

theorem Question.isNull_of_ownDefault? {q : Question} {v : Json} (h : q.ownDefault? = some v) :
    v.isNull = false := by
  obtain ⟨-, hv⟩ := Option.filter_eq_some_iff.mp h
  simpa using hv

theorem Question.isNull_of_firstDefault? {key : String} {qs : List Question} {v : Json}
    (h : firstDefault? key qs = some v) : v.isNull = false := by
  obtain ⟨q, -, hq⟩ := List.exists_of_findSome?_eq_some h
  split at hq
  · exact isNull_of_ownDefault? hq
  · cases hq

theorem Question.defaultValue_eq (q : Question) :
    q.defaultValue = (q.ownDefault?.map Value.ofJson).getD .null := by
  rw [defaultValue, ownDefault?]
  cases q.data with
  | none => rfl
  | some v =>
    cases hv : v.isNull with
    | true =>
      cases Json.isNull_iff.mp hv
      rfl
    | false => simp [Option.filter, hv]

namespace Context

theorem get?_eq (d : Context) (k : String) :
    d.get? k = if d.contains k then some (d.resolve k) else none := by
  rw [Table.contains, resolve]
  cases d.get? k <;> rfl

theorem get?_seed (d : Context) (q : Question) (l : String) :
    (d.seed q).get? l =
      if l = q.key ∧ (d.resolve q.key).isNull then some q.defaultValue else d.get? l := by
  rw [seed]
  cases (d.resolve q.key).isNull with
  | true => simp [Table.get?_insert]
  | false => simp

theorem contains_of_value {d : Context} {k : String} (h : (d.resolve k).isNull = false) :
    d.contains k = true := by
  rw [Table.contains]
  rw [resolve] at h
  cases hd : d.get? k with
  | some v => rfl
  | none =>
    rw [hd] at h
    cases h

theorem contains_seed (d : Context) (q : Question) (k : String) :
    (d.seed q).contains k = (d.contains k || q.key == k) := by
  rw [Table.contains, get?_seed]
  by_cases hk : q.key = k
  · subst hk
    cases hgap : (d.resolve q.key).isNull with
    | true => simp
    | false =>
      have hd := contains_of_value hgap
      rw [Table.contains] at hd
      simp [hd]
  · simp [Table.contains, hk, Ne.symm hk]

theorem resolve_seed_of_ne (d : Context) {q : Question} {k : String} (h : q.key ≠ k) :
    (d.seed q).resolve k = d.resolve k := by
  rw [resolve, get?_seed, if_neg fun hk => h hk.1.symm]
  rfl

theorem resolve_seed_of_value {d : Context} {k : String} (h : (d.resolve k).isNull = false)
    (q : Question) : (d.seed q).resolve k = d.resolve k := by
  by_cases hk : q.key = k
  · subst hk
    simp [seed, h]
  · exact resolve_seed_of_ne d hk

theorem resolve_seed_of_gap {d : Context} {q : Question} (h : (d.resolve q.key).isNull = true) :
    (d.seed q).resolve q.key = q.defaultValue := by
  rw [resolve, get?_seed, if_pos ⟨rfl, h⟩, Option.getD_some]

theorem resolve_seedAll_of_ne {d : Context} {qs : List Question} {k : String}
    (h : ∀ q ∈ qs, q.key ≠ k) :
    (d.seedAll qs).resolve k = d.resolve k := by
  induction qs generalizing d with
  | nil => rfl
  | cons q rest ih =>
    rw [seedAll_cons, ih fun r hr => h r (List.mem_cons_of_mem _ hr),
      resolve_seed_of_ne d (h q List.mem_cons_self)]

theorem resolve_seedAll (d : Context) (qs : List Question) (k : String) :
    (d.seedAll qs).resolve k =
      if (d.resolve k).isNull then ((Question.firstDefault? k qs).map .ofJson).getD .null
      else d.resolve k := by
  induction qs generalizing d with
  | nil =>
    rw [seedAll_nil]
    split
    · rename_i hn
      exact Value.isNull_iff.mp hn
    · rfl
  | cons q rest ih =>
    rw [seedAll_cons, ih]
    -- a gap stays a gap until a question with its key and a default comes up
    cases hn : (d.resolve k).isNull with
    | false =>
      rw [resolve_seed_of_value hn q, hn]
      rfl
    | true =>
      by_cases hk : q.key = k
      · subst hk
        rw [resolve_seed_of_gap hn, Question.defaultValue_eq, Question.firstDefault?_self]
        cases ho : q.ownDefault? with
        | none => rfl
        | some v =>
          have hv : (Value.ofJson v).isNull = false :=
            (Value.isNull_ofJson v).trans (Question.isNull_of_ownDefault? ho)
          simp [hv]
      · rw [resolve_seed_of_ne d hk, hn, Question.firstDefault?_of_ne hk]

theorem contains_seedAll (d : Context) (qs : List Question) (k : String) :
    (d.seedAll qs).contains k = (d.contains k || qs.any (·.key == k)) := by
  induction qs generalizing d with
  | nil => simp
  | cons q rest ih => rw [seedAll_cons, ih, contains_seed, List.any_cons, Bool.or_assoc]

theorem get?_seedAll_of_value {d : Context} {k : String} {v : Value} (h : d.get? k = some v)
    (hv : v ≠ .null) (qs : List Question) : (d.seedAll qs).get? k = some v := by
  have hc : d.contains k = true := by rw [Table.contains, h]; rfl
  have hr : d.resolve k = v := by rw [resolve, h]; rfl
  have hn : ¬ v.isNull = true := fun hn => hv (Value.isNull_iff.mp hn)
  rw [get?_eq, contains_seedAll, hc, Bool.true_or, if_pos rfl, resolve_seedAll, hr, if_neg hn]

theorem get?_seedAll_of_gap {d : Context} {k : String}
    (h : d.get? k = none ∨ d.get? k = some .null) (qs : List Question) :
    (d.seedAll qs).get? k =
      if d.contains k || qs.any (·.key == k) then
        some (((Question.firstDefault? k qs).map .ofJson).getD .null)
      else none := by
  have hr : d.resolve k = .null := by
    rw [resolve]
    rcases h with h | h <;> rw [h] <;> rfl
  rw [get?_eq, contains_seedAll, resolve_seedAll, hr]
  rfl

variable {d : Context} {qs : List Question}

/-- A gap is left after seeding only if no question has a default for it. -/
theorem firstDefault?_of_gap {k : String} (h : ((d.seedAll qs).resolve k).isNull = true) :
    Question.firstDefault? k qs = none := by
  rw [resolve_seedAll] at h
  split at h
  · cases hfirst : Question.firstDefault? k qs with
    | none => rfl
    | some v =>
      have hv := Question.isNull_of_firstDefault? hfirst
      rw [hfirst, Option.map_some, Option.getD_some, Value.isNull_ofJson, hv] at h
      cases h
  · contradiction

theorem seed_seedAll_of_mem {q : Question} (hq : q ∈ qs) :
    (d.seedAll qs).seed q = d.seedAll qs := by
  rw [seed]
  split
  · rename_i hgap
    have hown : q.ownDefault? = none := by
      have hnone := List.findSome?_eq_none_iff.mp (firstDefault?_of_gap hgap) q hq
      rwa [if_pos rfl] at hnone
    have hknown : (d.seedAll qs).contains q.key = true := by
      rw [contains_seedAll, List.any_eq_true.mpr ⟨q, hq, beq_self_eq_true q.key⟩, Bool.or_true]
    apply Table.insert_of_get?
    rw [get?_eq, hknown, if_pos rfl, Value.isNull_iff.mp hgap, Question.defaultValue_eq, hown]
    rfl
  · rfl

theorem seedAll_eq_self (h : ∀ q ∈ qs, d.seed q = d) : d.seedAll qs = d := by
  induction qs with
  | nil => rfl
  | cons q rest ih =>
    rw [seedAll_cons, h q List.mem_cons_self]
    exact ih fun r hr => h r (List.mem_cons_of_mem _ hr)

theorem seedAll_seedAll (d : Context) (qs : List Question) :
    (d.seedAll qs).seedAll qs = d.seedAll qs :=
  seedAll_eq_self fun _ => seed_seedAll_of_mem

end Context

namespace Question

theorem firstDefault?_eq_some {before after : List Question} {q : Question} {v : Json}
    (hq : q.ownDefault? = some v) (h : ∀ p ∈ before, p.key = q.key → p.ownDefault? = none) :
    firstDefault? q.key (before ++ q :: after) = some v := by
  induction before with
  | nil => rw [List.nil_append, firstDefault?_self, hq, Option.some_or]
  | cons p rest ih =>
    have hrest := ih fun p hp => h p (List.mem_cons_of_mem _ hp)
    by_cases hk : p.key = q.key
    · have hp := h p List.mem_cons_self hk
      rw [List.cons_append, ← hk, firstDefault?_self, hp, Option.none_or, hk, hrest]
    · rw [List.cons_append, firstDefault?_of_ne hk, hrest]

theorem firstDefault?_eq_none {key : String} {qs : List Question}
    (h : ∀ q ∈ qs, q.key = key → q.ownDefault? = none) : firstDefault? key qs = none := by
  rw [firstDefault?, List.findSome?_eq_none_iff]
  intro q hq
  split
  · rename_i hk
    exact h q hq hk
  · rfl

end Question

namespace FormSchema

/-- The data of a tree, key by key: a value that is given stays, a gap takes the first default
that a question has for its key, and a gap without a default is null if the key is known at
all. -/
theorem get?_data_of_build {config : Config} {s : FormSchema} {d : Context} {t : FormTree}
    (h : (s.build config d).result = .ok t) (k : String) :
    (∀ v, d.get? k = some v → v ≠ .null → t.data.get? k = some v) ∧
    (d.get? k = none ∨ d.get? k = some .null →
      (∀ before q after v, s.questions = before ++ q :: after → q.key = k →
        q.ownDefault? = some v → (∀ p ∈ before, p.key = k → p.ownDefault? = none) →
        t.data.get? k = some (.ofJson v)) ∧
      ((∀ q ∈ s.questions, q.key = k → q.ownDefault? = none) →
        (d.contains k ∨ ∃ q ∈ s.questions, q.key = k) → t.data.get? k = some .null) ∧
      (¬ d.contains k → (∀ q ∈ s.questions, q.key ≠ k) → t.data.get? k = none)) := by
  obtain ⟨-, rfl⟩ := build_eq_ok_iff.mp h
  refine ⟨fun v hd hv => Context.get?_seedAll_of_value hd hv s.questions, fun hgap => ?_⟩
  have hdata := Context.get?_seedAll_of_gap hgap s.questions
  refine ⟨?_, ?_, ?_⟩
  · rintro before q after v hqs rfl hq hbefore
    have hany : s.questions.any (·.key == q.key) = true := by simp [hqs]
    have hfirst : Question.firstDefault? q.key s.questions = some v := by
      rw [hqs]
      exact Question.firstDefault?_eq_some hq hbefore
    rw [hany, Bool.or_true, if_pos rfl, hfirst] at hdata
    exact hdata
  · intro hnone hk
    have hany : (d.contains k || s.questions.any (·.key == k)) = true := by simpa using hk
    rw [hany, if_pos rfl, Question.firstDefault?_eq_none hnone] at hdata
    exact hdata
  · intro hk hne
    have hany : (d.contains k || s.questions.any (·.key == k)) = false := by simpa [hk] using hne
    rw [hany] at hdata
    exact hdata

/-- Three questions with one key, the second of which hides itself by its default, and a collection
whose entries have a default. -/
def gapsSchema : FormSchema where
  slug := "form"
  sections := [
    ⟨"s", none, [⟨"c", none, [
      ⟨"gap", "text", none, none, none, none, none, [], []⟩,
      ⟨"gap", "text", none, none, some (.bool true), none,
        some (.rule ⟨.and, [.comparison ⟨some "gap", some .isNull⟩]⟩), [], []⟩]⟩], none⟩,
    ⟨"t", none, [⟨"c", none, [
      ⟨"gap", "text", none, none, some (.bool false), none, none, [], []⟩,
      ⟨"rows", "collection", none, none, none, none, none,
        [⟨"cell", "text", none, none, some (.bool true), none, none, [], []⟩], []⟩]⟩], none⟩]
  sectionDisplay := ⟨[], []⟩
  categoryDisplay := ⟨[], []⟩

theorem get?_data_of_build_gapsSchema :
    ∃ t, (gapsSchema.build {} (Table.ofList [("given", .bool false), ("gap", .null)])).result =
        .ok t ∧
      t.data.get? "given" = some (.bool false) ∧ t.data.get? "gap" = some (.bool true) ∧
      t.data.get? "rows" = some .null ∧ t.data.get? "cell" = none := by
  obtain ⟨t, h⟩ : ∃ t, (gapsSchema.build {}
      (Table.ofList [("given", .bool false), ("gap", .null)])).result = .ok t := ⟨_, rfl⟩
  have hgiven := (get?_data_of_build h "given").1 _ rfl nofun
  have hgap := ((get?_data_of_build h "gap").2 (.inr rfl)).1
    [⟨"gap", "text", none, none, none, none, none, [], []⟩] _ _ _ rfl rfl rfl (by simp; rfl)
  have hrows := ((get?_data_of_build h "rows").2 (.inl rfl)).2.1 (by decide) (.inr (by decide))
  have hcell := ((get?_data_of_build h "cell").2 (.inl rfl)).2.2 (by decide) (by decide)
  exact ⟨t, h, hgiven, hgap, hrows, hcell⟩

end FormSchema

end Questionnaire
