import Questionnaire.Proofs.Json.NumberText

namespace Questionnaire

namespace Text

/-- Space, tab, line feed, carriage return, vertical tab and form feed. -/
def asciiBlanks : List Char := [' ', '\t', '\n', '\r', '\x0b', '\x0c']

theorem isAsciiBlank_iff {c : Char} : isAsciiBlank c ↔ c ∈ asciiBlanks := by
  simp only [isAsciiBlank, asciiBlanks, List.mem_cons, List.not_mem_nil, or_false, Bool.or_eq_true,
    Bool.and_eq_true, decide_eq_true_eq, ← Char.toNat_inj, Char.reduceToNat]
  omega

end Text

namespace Number

namespace Numeral

/-- `D+` -/
def IsDigits (ds : List Char) : Prop := ds ≠ [] ∧ ∀ c ∈ ds, isDigit c

/-- `[+-]?`, and whether it is a minus sign. -/
inductive SpellsSign : List Char → Bool → Prop
  | none : SpellsSign [] false
  | plus : SpellsSign ['+'] false
  | minus : SpellsSign ['-'] true

/-- `D+ ( '.' D* )? | '.' D+`, the digits before the point and those after it. -/
inductive SpellsDigits : List Char → List Char → Option (List Char) → Prop
  | whole {ds : List Char} (digits : IsDigits ds) : SpellsDigits ds ds none
  | point {ds fs : List Char} (digits : IsDigits ds) (places : ∀ c ∈ fs, isDigit c) :
      SpellsDigits (ds ++ '.' :: fs) ds (some fs)
  | places {fs : List Char} (places : IsDigits fs) : SpellsDigits ('.' :: fs) [] (some fs)

/-- `( [eE] [+-]? D+ )?`, and the exponent. -/
inductive SpellsExponent : List Char → Option ℤ → Prop
  | none : SpellsExponent [] none
  | some {mark : Char} {sign ds : List Char} {negative : Bool} (isMark : mark = 'e' ∨ mark = 'E')
      (isSign : SpellsSign sign negative) (digits : IsDigits ds) :
      SpellsExponent (mark :: (sign ++ ds))
        (some (if negative then -(natOfDigits ds : ℤ) else natOfDigits ds))

/-- `[+-]? ( D+ ( '.' D* )? | '.' D+ ) ( [eE] [+-]? D+ )?`, and the numeral. -/
def Spells (cs : List Char) (n : Numeral) : Prop :=
  ∃ sign digits exponent, cs = sign ++ (digits ++ exponent) ∧ SpellsSign sign n.negative ∧
    SpellsDigits digits n.whole n.fraction ∧ SpellsExponent exponent n.exponent

/-- The text is the numeral with ASCII blanks around it. -/
def WrittenIn (s : String) (n : Numeral) : Prop :=
  ∃ before core after, s.toList = before ++ core ++ after ∧ (∀ c ∈ before, c ∈ Text.asciiBlanks) ∧
    (∀ c ∈ after, c ∈ Text.asciiBlanks) ∧ Spells core n

theorem exists_takeSign (cs : List Char) :
    ∃ sign, cs = sign ++ (takeSign cs).2 ∧ SpellsSign sign (takeSign cs).1 := by
  unfold takeSign
  split
  · exact ⟨['-'], rfl, .minus⟩
  · exact ⟨['+'], rfl, .plus⟩
  · exact ⟨[], rfl, .none⟩

theorem takeSign_append {sign rest : List Char} {negative : Bool} (h : SpellsSign sign negative)
    (hrest : ∀ c ∈ rest.head?, c ≠ '-' ∧ c ≠ '+') : takeSign (sign ++ rest) = (negative, rest) := by
  cases h with
  | none =>
    rw [List.nil_append]
    unfold takeSign
    split
    · exact absurd rfl (hrest '-' rfl).1
    · exact absurd rfl (hrest '+' rfl).2
    · rfl
  | plus => rfl
  | minus => rfl

theorem not_sign_of_isDigit {c : Char} (h : isDigit c) : c ≠ '-' ∧ c ≠ '+' := by
  constructor
  · rintro rfl
    exact absurd h (by decide)
  · rintro rfl
    exact absurd h (by decide)

theorem spellsDigits_iff {cs whole : List Char} {fraction : Option (List Char)} :
    SpellsDigits cs whole fraction ↔
      cs = whole ++ pointText fraction ∧ ¬(whole = [] ∧ fraction.getD [] = []) ∧
        (∀ c ∈ whole, isDigit c) ∧ ∀ c ∈ fraction.getD [], isDigit c := by
  constructor
  · rintro (digits | ⟨digits, places⟩ | places)
    · exact ⟨(List.append_nil _).symm, fun h => digits.1 h.1, digits.2, List.forall_mem_nil _⟩
    · exact ⟨rfl, fun h => digits.1 h.1, digits.2, places⟩
    · exact ⟨rfl, fun h => places.1 h.2, List.forall_mem_nil _, places.2⟩
  · rintro ⟨rfl, hne, hwhole, hfraction⟩
    cases fraction with
    | none =>
      rw [pointText, List.append_nil]
      exact .whole ⟨fun h => hne ⟨h, rfl⟩, hwhole⟩
    | some fs =>
      by_cases h : whole = []
      · subst h
        exact .places ⟨fun h => hne ⟨rfl, h⟩, hfraction⟩
      · exact .point ⟨h, hwhole⟩ hfraction

theorem SpellsDigits.head {cs whole : List Char} {fraction : Option (List Char)}
    (h : SpellsDigits cs whole fraction) : ∃ c rest, cs = c :: rest ∧ c ≠ '-' ∧ c ≠ '+' := by
  rcases h with ⟨hne, hall⟩ | ⟨⟨hne, hall⟩, -⟩ | -
  · obtain ⟨c, rest, rfl⟩ := List.exists_cons_of_ne_nil hne
    exact ⟨c, rest, rfl, not_sign_of_isDigit (hall c List.mem_cons_self)⟩
  · obtain ⟨c, rest, rfl⟩ := List.exists_cons_of_ne_nil hne
    exact ⟨c, _, rfl, not_sign_of_isDigit (hall c List.mem_cons_self)⟩
  · exact ⟨'.', _, rfl, by decide, by decide⟩

theorem takeFraction_eq (cs : List Char) :
    cs = pointText (takeFraction cs).1 ++ (takeFraction cs).2 ∧
      ∀ c ∈ (takeFraction cs).1.getD [], isDigit c := by
  unfold takeFraction
  split
  · rename_i rest
    constructor
    · exact congrArg (List.cons '.') List.takeWhile_append_dropWhile.symm
    · intro c hc
      exact List.mem_takeWhile_imp hc
  · exact ⟨rfl, List.forall_mem_nil _⟩

theorem exponentOf?_eq_some_iff {cs : List Char} {e : ℤ} :
    exponentOf? cs = some e ↔ ∃ sign ds negative, cs = sign ++ ds ∧ SpellsSign sign negative ∧
      IsDigits ds ∧ e = if negative then -(natOfDigits ds : ℤ) else natOfDigits ds := by
  unfold exponentOf?
  dsimp only
  constructor
  · intro h
    split at h
    · cases h
    · rename_i hdigits
      rw [Bool.or_eq_true, Bool.not_eq_true', not_or, List.isEmpty_iff, Bool.not_eq_false,
        List.all_eq_true] at hdigits
      obtain ⟨sign, hcs, hsign⟩ := exists_takeSign cs
      exact ⟨sign, _, _, hcs, hsign, hdigits, (Option.some.inj h).symm⟩
  · rintro ⟨sign, ds, negative, rfl, hsign, hdigits, rfl⟩
    have hhead : ∀ c ∈ ds.head?, c ≠ '-' ∧ c ≠ '+' := by
      intro c hc
      exact not_sign_of_isDigit (hdigits.2 c (List.mem_of_mem_head? hc))
    rw [takeSign_append hsign hhead, if_neg]
    rw [Bool.or_eq_true, Bool.not_eq_true', not_or, List.isEmpty_iff, Bool.not_eq_false,
      List.all_eq_true]
    exact hdigits

theorem takeExponent?_eq_some_iff {cs : List Char} {e : Option ℤ} :
    takeExponent? cs = some e ↔ SpellsExponent cs e := by
  constructor
  · intro h
    cases cs with
    | nil =>
      cases h
      exact .none
    | cons mark rest =>
      rw [takeExponent?] at h
      split at h
      · rename_i hmark
        obtain ⟨i, hi, rfl⟩ := Option.map_eq_some_iff.mp h
        obtain ⟨sign, ds, negative, rfl, hsign, hdigits, rfl⟩ := exponentOf?_eq_some_iff.mp hi
        exact .some hmark hsign hdigits
      · cases h
  · rintro (_ | ⟨hmark, hsign, hdigits⟩)
    · rfl
    · rw [takeExponent?_cons hmark,
        exponentOf?_eq_some_iff.mpr ⟨_, _, _, rfl, hsign, hdigits, rfl⟩, Option.map_some]

theorem SpellsExponent.head {cs : List Char} {e : Option ℤ} (h : SpellsExponent cs e) :
    ∀ c ∈ cs.head?, ¬isDigit c ∧ c ≠ '.' := by
  cases h with
  | none => exact fun c hc => nomatch hc
  | some hmark =>
    intro c hc
    cases hc
    rcases hmark with rfl | rfl <;> decide

theorem ofChars?_eq_some_iff {cs : List Char} {n : Numeral} :
    ofChars? cs = some n ↔ Spells cs n := by
  constructor
  · intro h
    unfold ofChars? at h
    dsimp only at h
    split at h
    · cases h
    · rename_i hne
      rw [Bool.and_eq_true, List.isEmpty_iff, List.isEmpty_iff] at hne
      obtain ⟨e, he, rfl⟩ := Option.map_eq_some_iff.mp h
      obtain ⟨sign, hcs, hsign⟩ := exists_takeSign cs
      obtain ⟨hfraction, hplaces⟩ := takeFraction_eq ((takeSign cs).2.dropWhile isDigit)
      have hwhole : ∀ c ∈ (takeSign cs).2.takeWhile isDigit, isDigit c := by
        intro c hc
        exact List.mem_takeWhile_imp hc
      refine ⟨sign, _, _, ?_, hsign, spellsDigits_iff.mpr ⟨rfl, hne, hwhole, hplaces⟩,
        takeExponent?_eq_some_iff.mp he⟩
      rw [List.append_assoc, ← hfraction, List.takeWhile_append_dropWhile]
      exact hcs
  · rintro ⟨sign, digits, exponent, rfl, hsign, hdigits, hexponent⟩
    have hhead : ∀ c ∈ (digits ++ exponent).head?, c ≠ '-' ∧ c ≠ '+' := by
      obtain ⟨d, rest, rfl, hd⟩ := hdigits.head
      rintro c ⟨⟩
      exact hd
    have htake := takeSign_append hsign hhead
    obtain ⟨rfl, hne, hwhole, hfraction⟩ := spellsDigits_iff.mp hdigits
    rw [List.append_assoc] at htake ⊢
    rw [ofChars?_of_takeSign htake hne hwhole hfraction hexponent.head,
      takeExponent?_eq_some_iff.mpr hexponent]
    rfl

theorem SpellsSign.ink {cs : List Char} {negative : Bool} (h : SpellsSign cs negative) :
    ∀ c ∈ cs, ¬Text.isAsciiBlank c := by
  cases h with
  | none => exact List.forall_mem_nil _
  | plus => exact Json.not_blank_plus
  | minus => exact Json.not_blank_minus

theorem SpellsDigits.ink {cs whole : List Char} {fraction : Option (List Char)}
    (h : SpellsDigits cs whole fraction) : ∀ c ∈ cs, ¬Text.isAsciiBlank c := by
  obtain ⟨rfl, -, hwhole, hfraction⟩ := spellsDigits_iff.mp h
  rw [List.forall_mem_append]
  refine ⟨Json.not_blank_digits hwhole, ?_⟩
  cases fraction with
  | none => exact List.forall_mem_nil _
  | some fs => exact List.forall_mem_cons.mpr ⟨Json.not_blank_point, Json.not_blank_digits hfraction⟩

theorem SpellsExponent.ink {cs : List Char} {e : Option ℤ} (h : SpellsExponent cs e) :
    ∀ c ∈ cs, ¬Text.isAsciiBlank c := by
  cases h with
  | none => exact List.forall_mem_nil _
  | some hmark hsign hdigits =>
    rw [List.forall_mem_cons, List.forall_mem_append]
    refine ⟨?_, hsign.ink, Json.not_blank_digits hdigits.2⟩
    rcases hmark with rfl | rfl <;> decide

theorem Spells.ink {cs : List Char} {n : Numeral} (h : Spells cs n) :
    ∀ c ∈ cs, ¬Text.isAsciiBlank c := by
  obtain ⟨sign, digits, exponent, rfl, hsign, hdigits, hexponent⟩ := h
  rw [List.forall_mem_append, List.forall_mem_append]
  exact ⟨hsign.ink, hdigits.ink, hexponent.ink⟩

theorem ofText?_eq_some_iff {s : String} {n : Numeral} : ofText? s = some n ↔ n.WrittenIn s := by
  constructor
  · intro h
    obtain ⟨before, after, hs, hbefore, hafter⟩ := Text.exists_strip Text.isAsciiBlank s.toList
    refine ⟨before, _, after, hs, ?_, ?_, ofChars?_eq_some_iff.mp h⟩
    · intro c hc
      exact Text.isAsciiBlank_iff.mp (hbefore c hc)
    · intro c hc
      exact Text.isAsciiBlank_iff.mp (hafter c hc)
  · rintro ⟨before, core, after, hs, hbefore, hafter, hcore⟩
    have hstrip : Text.strip Text.isAsciiBlank s.toList = core := by
      rw [hs]
      apply Text.strip_append _ _ hcore.ink
      · intro c hc
        exact Text.isAsciiBlank_iff.mpr (hbefore c hc)
      · intro c hc
        exact Text.isAsciiBlank_iff.mpr (hafter c hc)
    rw [ofText?, hstrip]
    exact ofChars?_eq_some_iff.mpr hcore

end Numeral

theorem Binary64.two_pow_sub_eq : (2 : ℚ) ^ 1024 - 2 ^ 970 = (2 ^ 54 - 1) * 2 ^ 970 := by
  rw [show 1024 = 54 + 970 from rfl, pow_add, sub_mul, one_mul]

theorem Binary64.two_pow_le_middle : (2 : ℚ) ^ 96 ≤ 2 ^ 1024 - 2 ^ 970 := by
  have hpow : (2 : ℚ) ^ 96 ≤ 2 ^ 970 := pow_le_pow_right₀ (by norm_num) (by norm_num)
  have hmul : (2 : ℚ) ^ 970 ≤ (2 ^ 54 - 1) * 2 ^ 970 :=
    le_mul_of_one_le_left (by positivity) (by norm_num)
  rw [two_pow_sub_eq]
  exact hpow.trans hmul

/-- A magnitude rounds to a finite number exactly if it lies below the middle between the largest
finite number and the next power of two. -/
theorem Binary64.nearestUnits_lt_limit_iff {x : ℚ} (hx : 0 ≤ x) :
    nearestUnits (x * one) < limit ↔ x < 2 ^ 1024 - 2 ^ 970 := by
  have hone := cast_one_pos
  obtain ⟨n, d, hd, hn⟩ := exists_div_eq (mul_nonneg hx hone.le)
  have hd' : (0 : ℚ) < d := by exact_mod_cast hd
  have hmiddle : (2 ^ 54 - 1) * 2 ^ 970 = (2 ^ 54 - 1) * 2 ^ 2044 / (one : ℚ) := by
    rw [eq_div_iff hone.ne', one, Nat.cast_pow, Nat.cast_ofNat, unitExponent, mul_assoc, ← pow_add]
  have hcast : ∀ k : ℕ, (((2 ^ 54 - 1) * 2 ^ k * d : ℕ) : ℚ) = (2 ^ 54 - 1) * 2 ^ k * d := by
    intro k
    push_cast
    norm_num
  have hexponent : unitExponent + topExponent = 54 + 2044 := rfl
  rw [hn, ← snap_eq_nearestUnits n hd, limit_eq, hexponent, snap_lt_two_pow_iff (k := 2044) hd,
    two_pow_sub_eq, hmiddle, lt_div_iff₀ hone, hn, div_lt_iff₀ hd', ← hcast, Nat.cast_lt]

namespace Numeral

variable {n : Numeral}

theorem isFinite_toBinary64_iff (h : ∀ c ∈ n.digits, isDigit c) :
    n.toBinary64.isFinite = true ↔ n.magnitude < 2 ^ 1024 - 2 ^ 970 := by
  rw [toBinary64_eq h, ← Binary64.nearestUnits_lt_limit_iff n.magnitude_nonneg]
  rcases Nat.lt_or_ge (Binary64.nearestUnits (n.magnitude * Binary64.one)) Binary64.limit with hlt | hge
  · rw [Binary64.ofUnits_of_lt (Binary64.onGrid_nearestUnits _) hlt]
    exact iff_of_true rfl hlt
  · rw [Binary64.ofUnits_of_le hge]
    exact iff_of_false nofun (Nat.not_lt.mpr hge)

theorem isSome_reading?_iff (h : ∀ c ∈ n.digits, isDigit c) :
    n.reading?.isSome = true ↔ n.magnitude < 2 ^ 1024 - 2 ^ 970 := by
  rw [← isFinite_toBinary64_iff h]
  unfold reading?
  cases hd : n.decimal? with
  | some d =>
    have hsmall : n.magnitude < 2 ^ 96 := by
      by_contra hge
      rw [decimal?_of_le (not_lt.mp hge)] at hd
      cases hd
    apply iff_of_true rfl
    rw [isFinite_toBinary64_iff h]
    exact hsmall.trans_le Binary64.two_pow_le_middle
  | none =>
    dsimp only
    split
    · rename_i hfinite
      exact iff_of_true rfl hfinite
    · rename_i hfinite
      exact iff_of_false nofun hfinite

end Numeral

/-- A text has a numeric reading exactly if it follows the grammar and the magnitude of its numeral
does not round to infinity. -/
theorem Reading.isSome_ofText?_iff (s : String) :
    (Reading.ofText? s).isSome = true ↔
      ∃ n : Numeral, n.WrittenIn s ∧ n.magnitude < 2 ^ 1024 - 2 ^ 970 := by
  rw [ofText?_eq]
  constructor
  · intro h
    cases hn : Numeral.ofText? s with
    | none =>
      rw [hn] at h
      cases h
    | some n =>
      rw [hn, Option.bind_some, Numeral.isSome_reading?_iff (Numeral.isDigit_of_ofText? hn)] at h
      exact ⟨n, Numeral.ofText?_eq_some_iff.mp hn, h⟩
  · rintro ⟨n, hwritten, hmagnitude⟩
    have hn := Numeral.ofText?_eq_some_iff.mpr hwritten
    rw [hn, Option.bind_some, Numeral.isSome_reading?_iff (Numeral.isDigit_of_ofText? hn)]
    exact hmagnitude

example : ["42", " -3.5 ", ".5", "5.", "1e3"].all fun s => (Reading.ofText? s).isSome := by decide

example : ["", ".", "0x1A", "12abc"].all fun s => (Reading.ofText? s).isNone := by decide

end Number

end Questionnaire
