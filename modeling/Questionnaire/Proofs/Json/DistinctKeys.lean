import Questionnaire.Json.Members
import Questionnaire.Json.Reader
import Questionnaire.Proofs.Json.Reordering

namespace Questionnaire.Json

theorem foldlM_keeps {σ α : Type} {step : σ → α → Option σ} {p : σ → Prop} {l : List α}
    (keeps : ∀ a ∈ l, ∀ s s', p s → step s a = some s' → p s') {s s' : σ} (hs : p s)
    (h : l.foldlM step s = some s') : p s' := by
  induction l generalizing s with
  | nil =>
    cases h
    exact hs
  | cons a rest ih =>
    rw [List.foldlM_cons] at h
    obtain ⟨next, hnext, h⟩ := Option.bind_eq_some_iff.mp h
    obtain ⟨hfirst, hrest⟩ := List.forall_mem_cons.mp keeps
    exact ih hrest (hfirst s next hs hnext) h

namespace Token

/-- A token that is a value is a plain one. -/
def IsPlain : Token → Prop
  | .scalar v => v.IsPlain
  | _ => True

namespace Scanner

def HasPlain (s : Scanner) : Prop := ∀ t ∈ s.tokens, t.IsPlain

theorem HasPlain.push {s : Scanner} {mode : Mode} {t : Token} (h : s.HasPlain) (ht : t.IsPlain) :
    HasPlain ⟨mode, t :: s.tokens⟩ :=
  List.forall_mem_cons.mpr ⟨ht, h⟩

theorem HasPlain.start? {s s' : Scanner} {c : Char} (h : s.HasPlain) (hs : s.start? c = some s') :
    s'.HasPlain := by
  unfold Scanner.start? at hs
  split at hs
  any_goals
    cases hs
    exact h.push trivial
  any_goals
    cases hs
    exact h
  split at hs
  · cases hs
    exact h
  · split at hs
    · cases hs
      exact h
    · cases hs

theorem HasPlain.complete? {s s' : Scanner} (h : s.HasPlain) (hs : s.complete? = some s') :
    s'.HasPlain := by
  unfold Scanner.complete? at hs
  split at hs
  · cases hs
    exact h
  · split at hs
    any_goals
      cases hs
      exact h.push trivial
    cases hs
  · obtain ⟨n, -, rfl⟩ := Option.map_eq_some_iff.mp hs
    exact h.push trivial
  · cases hs

theorem HasPlain.of_map {s s' : Scanner} {mode : Option Mode} (h : s.HasPlain)
    (hs : (mode.map fun m => { s with mode := m }) = some s') : s'.HasPlain := by
  obtain ⟨m, -, rfl⟩ := Option.map_eq_some_iff.mp hs
  exact h

theorem HasPlain.finish? {s s' : Scanner} {c : Char} (h : s.HasPlain)
    (hs : s.complete?.bind (·.start? c) = some s') : s'.HasPlain := by
  obtain ⟨next, hnext, hs⟩ := Option.bind_eq_some_iff.mp hs
  exact (h.complete? hnext).start? hs

theorem HasPlain.step? {s s' : Scanner} {c : Char} (h : s.HasPlain) (hs : s.step? c = some s') :
    s'.HasPlain := by
  unfold Scanner.step? at hs
  dsimp only at hs
  split at hs
  · exact h.start? hs
  · split at hs
    · cases hs
      exact h
    · exact h.finish? hs
  · split at hs
    · cases hs
      exact h
    · exact h.finish? hs
  · split at hs
    · cases hs
      exact h.push trivial
    · split at hs
      · cases hs
        exact h
      · split at hs <;> cases hs
        exact h
  · exact h.of_map hs
  · obtain ⟨x, -, hs⟩ := Option.bind_eq_some_iff.mp hs
    split at hs
    · exact h.of_map hs
    · cases hs
      exact h
  · split at hs
    · split at hs <;> cases hs
      exact h
    · split at hs <;> cases hs
      exact h

end Scanner

theorem isPlain_of_scan? {s : String} {tokens : List Token} (h : scan? s = some tokens) :
    ∀ t ∈ tokens, t.IsPlain := by
  obtain ⟨scanner, hscanner, h⟩ := Option.bind_eq_some_iff.mp h
  obtain ⟨last, hlast, h⟩ := Option.bind_eq_some_iff.mp h
  cases h
  have hstart : Scanner.HasPlain ⟨.between, []⟩ := List.forall_mem_nil _
  have hall := foldlM_keeps (fun c _ s s' hs => hs.step?) hstart hscanner
  intro t ht
  exact hall.complete? hlast t (List.mem_reverse.mp ht)

end Token

theorem mem_setMember {α : Type} {key : String} {value : α} {members : List (String × α)}
    {m : String × α} (h : m ∈ setMember key value members) : m = (key, value) ∨ m ∈ members := by
  unfold setMember at h
  split at h
  · obtain ⟨m', hm', rfl⟩ := List.mem_map.mp h
    split
    · exact .inl rfl
    · exact .inr hm'
  · rcases List.mem_append.mp h with h | h
    · exact .inr h
    · exact .inl (List.mem_singleton.mp h)

theorem DistinctKeys.setMember {members : List (String × Json)} {v : Json}
    (h : (object members).DistinctKeys) (hv : v.DistinctKeys) (key : String) :
    (object (setMember key v members)).DistinctKeys := by
  obtain ⟨hkeys, hmembers⟩ := distinctKeys_object_iff.mp h
  rw [distinctKeys_object_iff]
  refine ⟨nodup_setMember key v hkeys, ?_⟩
  intro m hm
  rcases mem_setMember hm with rfl | hm
  · exact hv
  · exact hmembers m hm

/-- The part of a container that has been read. -/
def Frame.document : Frame → Json
  | .array items => .array items
  | .object members _ => .object members

namespace Reader

/-- The documents that the reader holds. -/
def held : Reader → List Json
  | .value stack | .firstItem stack | .firstMember stack => stack.map Frame.document
  | .memberKey stack members | .colon stack members _ | .afterMember stack members =>
    .object members :: stack.map Frame.document
  | .afterItem stack items => .array items :: stack.map Frame.document
  | .complete v => [v]

def HasDistinct (r : Reader) : Prop := ∀ v ∈ r.held, v.DistinctKeys

variable {stack : List Frame}

theorem hasDistinct_give {v : Json} (hv : v.DistinctKeys)
    (h : ∀ w ∈ stack.map Frame.document, w.DistinctKeys) : (give v stack).HasDistinct := by
  cases stack with
  | nil => exact List.forall_mem_singleton.mpr hv
  | cons frame rest =>
    obtain ⟨hframe, hrest⟩ := List.forall_mem_cons.mp h
    cases frame with
    | array items =>
      rw [Frame.document, distinctKeys_array_iff] at hframe
      have hitems := List.forall_mem_cons.mpr ⟨hv, hframe⟩
      exact List.forall_mem_cons.mpr ⟨distinctKeys_array_iff.mpr hitems, hrest⟩
    | object members key =>
      exact List.forall_mem_cons.mpr ⟨DistinctKeys.setMember hframe hv key, hrest⟩

theorem hasDistinct_begin? {depth : Nat} {t : Token} {r : Reader} (ht : t.IsPlain)
    (h : ∀ w ∈ stack.map Frame.document, w.DistinctKeys) (hr : begin? depth stack t = some r) :
    r.HasDistinct := by
  unfold begin? at hr
  split at hr
  · cases hr
    exact hasDistinct_give ht.distinctKeys h
  · split at hr <;> cases hr
    exact h
  · split at hr <;> cases hr
    exact h
  · cases hr

theorem distinctKeys_emptyArray : (array []).DistinctKeys := by decide

theorem distinctKeys_emptyObject : (object []).DistinctKeys := by decide

theorem HasDistinct.step? {depth : Nat} {t : Token} {r r' : Reader} (ht : t.IsPlain)
    (h : r.HasDistinct) (hr : r.step? depth t = some r') : r'.HasDistinct := by
  unfold Reader.step? at hr
  split at hr
  · exact hasDistinct_begin? ht h hr
  · cases hr
    exact hasDistinct_give distinctKeys_emptyArray h
  · apply hasDistinct_begin? ht _ hr
    exact List.forall_mem_cons.mpr ⟨distinctKeys_emptyArray, h⟩
  · cases hr
    exact hasDistinct_give distinctKeys_emptyObject h
  · cases hr
    exact List.forall_mem_cons.mpr ⟨distinctKeys_emptyObject, h⟩
  · cases hr
    exact h
  · cases hr
    exact h
  · cases hr
    exact h
  · cases hr
    obtain ⟨hitems, hrest⟩ := List.forall_mem_cons.mp h
    rw [distinctKeys_array_iff] at hitems
    apply hasDistinct_give _ hrest
    rw [distinctKeys_array_iff]
    intro v hv
    exact hitems v (List.mem_reverse.mp hv)
  · cases hr
    exact h
  · cases hr
    obtain ⟨hmembers, hrest⟩ := List.forall_mem_cons.mp h
    exact hasDistinct_give hmembers hrest
  · cases hr

end Reader

/-- A document that is read has no key twice. -/
theorem distinctKeys_of_ofText? {depth : Nat} {s : String} {v : Json}
    (h : ofText? depth s = some v) : v.DistinctKeys := by
  obtain ⟨tokens, htokens, h⟩ := Option.bind_eq_some_iff.mp h
  obtain ⟨r, hr, h⟩ := Option.bind_eq_some_iff.mp h
  have hplain := Token.isPlain_of_scan? htokens
  have hstart : Reader.HasDistinct (.value []) := List.forall_mem_nil _
  have hread := foldlM_keeps (fun t ht r r' hr => hr.step? (hplain t ht)) hstart hr
  split at h
  · cases h
    exact List.forall_mem_singleton.mp hread
  · cases h

/-- Reads a document with the proof that it has no key twice. -/
def Document.ofText? (depth : Nat) (s : String) : Option Document :=
  (Json.ofText? depth s).pmap Document.mk fun _ h => distinctKeys_of_ofText? h

theorem Document.map_json_ofText? (depth : Nat) (s : String) :
    (Document.ofText? depth s).map Document.json = Json.ofText? depth s := by
  rw [Document.ofText?, Option.map_pmap, Option.pmap_eq_map, Option.map_id']

end Questionnaire.Json
