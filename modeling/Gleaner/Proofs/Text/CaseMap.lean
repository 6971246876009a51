import Gleaner.Proofs.Text.Trimmed
import Gleaner.Text.CaseMap
import Gleaner.Text.IgnoreCase
import Mathlib

/-!
# What upper case leaves alone

Upper case goes through tables of spans and of expansions.  The facts below hold for every
character; each is a check of the tables against a few code points, or against the letters of ASCII.

**Unmoved characters.**  `isUnmoved` checks the tables for one code point: its character is its own
uppercase form (`upperChar_of_isUnmoved`), and no other character becomes it
(`eq_of_mem_upperChar`).

**Blanks.**  All blanks are unmoved.  Hence `Trimmed.upper`: a trimmed text stays trimmed.

**Letters.**  A form of an ASCII letter becomes one form of the same letter
(`sameLetter_upperChar`), the dotless and the dotted `i` included, so a word that stands at the
front in any case still stands there in upper case (`afterFolded?_upper`).
-/

namespace Gleaner.Text

/-! ## Unmoved characters -/

/-- A distance that is found belongs to a span that holds the code point. -/
lemma Shift.exists_of_find? {shifts : List Shift} {n : Nat} {d : Int}
    (h : Shift.find? shifts n = some d) :
    ∃ s ∈ shifts, s.span.holds n = true ∧ s.distance = d := by
  induction shifts with
  | nil => simp [Shift.find?] at h
  | cons s rest ih =>
      simp only [Shift.find?] at h
      split_ifs at h with hlt hs
      · exact ⟨s, by simp, hs, by simpa using h⟩
      · obtain ⟨r, hr, hspan, hd⟩ := ih h
        exact ⟨r, by simp [hr], hspan, hd⟩

/-- Whether the span lies apart from a code point once it is moved. -/
def Shift.clears (s : Shift) (p : Nat) : Bool :=
  decide ((p : Int) < s.span.first + s.distance) || decide (s.span.last + s.distance < (p : Int))

/-- Whether the tables neither move a code point nor lead another one to it. -/
def isUnmoved (p : Nat) : Bool :=
  0 < p && (Char.ofNat p).toUpper == Char.ofNat p &&
    ((List.range 128).all fun n => (Char.ofNat n).toUpper.toNat != p || n == p) &&
    upperShifts.all (fun s => s.clears p) && (upperExpansions.all fun e => !e.2.contains p) &&
    (upperExpansions.lookup p).isNone && (Shift.find? upperShifts p).isNone

/-- An unmoved character is its own uppercase form. -/
lemma upperChar_of_isUnmoved {c : Char} (h : isUnmoved c.toNat = true) : upperChar c = [c] := by
  simp only [isUnmoved, Bool.and_eq_true, Option.isNone_iff_eq_none, beq_iff_eq,
    Char.ofNat_toNat] at h
  obtain ⟨⟨⟨⟨⟨⟨-, hupper⟩, -⟩, -⟩, -⟩, hexpansion⟩, hshift⟩ := h
  unfold upperChar
  split_ifs
  · rw [hupper]
  · rw [hexpansion, hshift]

/-- Where the uppercase form of a character comes from: ASCII, an expansion, a span, or the
character itself. -/
lemma mem_upperChar {c d : Char} (h : d ∈ upperChar c) :
    (c.toNat < 128 ∧ d = c.toUpper) ∨ (∃ e ∈ upperExpansions, ∃ n ∈ e.2, d = Char.ofNat n) ∨
      (∃ s ∈ upperShifts, s.span.holds c.toNat = true ∧ d = shift c s.distance) ∨ d = c := by
  unfold upperChar at h
  split_ifs at h with hc
  · exact Or.inl ⟨hc, by simpa using h⟩
  · right
    split at h
    · rename_i cs hcs
      obtain ⟨n, hn, rfl⟩ := List.mem_map.1 h
      obtain ⟨l₁, l₂, hsplit, -⟩ := List.lookup_eq_some_iff.1 hcs
      exact Or.inl ⟨(c.toNat, cs), by simp [hsplit], n, hn, rfl⟩
    · right
      split at h
      · rename_i d' hd'
        obtain ⟨s, hs, hspan, rfl⟩ := Shift.exists_of_find? hd'
        exact Or.inl ⟨s, hs, hspan, by simpa using h⟩
      · exact Or.inr (by simpa using h)

/-- A code point that is none stands for the first character. -/
lemma toNat_ofNat_of_pos {n : Nat} (h : 0 < (Char.ofNat n).toNat) : (Char.ofNat n).toNat = n := by
  rw [Char.toNat_ofNat] at h ⊢
  split_ifs at h ⊢ with hn
  · rfl
  · exact absurd h (lt_irrefl 0)

/-- **No other character becomes an unmoved one.** -/
lemma eq_of_mem_upperChar {c d : Char} (hd : isUnmoved d.toNat = true) (h : d ∈ upperChar c) :
    c = d := by
  simp only [isUnmoved, Bool.and_eq_true, decide_eq_true_eq, List.all_eq_true, Bool.or_eq_true,
    bne_iff_ne, beq_iff_eq, List.mem_range, Bool.not_eq_true'] at hd
  obtain ⟨⟨⟨⟨⟨⟨hpos, -⟩, hascii⟩, hshifts⟩, hexpansions⟩, -⟩, -⟩ := hd
  rcases mem_upperChar h with ⟨hc, rfl⟩ | ⟨e, he, n, hn, rfl⟩ | ⟨s, hs, hspan, rfl⟩ | rfl
  · have hsame := hascii c.toNat hc
    rw [Char.ofNat_toNat] at hsame
    exact Char.ext (UInt32.toNat_inj.1 (hsame.resolve_left fun hne => hne rfl))
  · have hnot := hexpansions e he
    rw [toNat_ofNat_of_pos hpos, List.contains_iff_mem.2 hn] at hnot
    cases hnot
  · have hclear := hshifts s hs
    rw [shift] at hpos hclear
    have hpoint := toNat_ofNat_of_pos hpos
    rw [hpoint] at hpos hclear
    simp only [Span.holds, Bool.and_eq_true, decide_eq_true_eq, beq_iff_eq] at hspan
    simp only [Shift.clears, Bool.or_eq_true, decide_eq_true_eq] at hclear
    omega
  · rfl

/-! ## Blanks -/

/-- The code points of blanks. -/
def blankPoints : List Nat := [
  0x9, 0xa, 0xb, 0xc, 0xd, 0x1c, 0x1d, 0x1e, 0x1f, 0x20, 0x85, 0xa0, 0x1680, 0x2000, 0x2001,
  0x2002, 0x2003, 0x2004, 0x2005, 0x2006, 0x2007, 0x2008, 0x2009, 0x200a, 0x2028, 0x2029, 0x202f,
  0x205f, 0x3000]

lemma isBlank_iff_mem {c : Char} : isBlank c = true ↔ c.toNat ∈ blankPoints := by
  simp only [isBlank, blankPoints, Bool.or_eq_true, Bool.and_eq_true, decide_eq_true_eq,
    beq_iff_eq, List.mem_cons, List.not_mem_nil, or_false]
  omega

/-- What holds at each code point of a blank holds of every blank. -/
lemma of_isBlank {P : Char → Prop} (hpoints : ∀ n ∈ blankPoints, P (Char.ofNat n)) {c : Char}
    (h : isBlank c = true) : P c := by
  have hpoint := hpoints c.toNat (isBlank_iff_mem.1 h)
  rwa [Char.ofNat_toNat] at hpoint

lemma isUnmoved_of_isBlank {c : Char} (h : isBlank c = true) : isUnmoved c.toNat = true :=
  of_isBlank (P := fun c => isUnmoved c.toNat = true) (by decide +kernel) h

/-- A blank is its own uppercase form. -/
lemma upperChar_of_isBlank {c : Char} (h : isBlank c = true) : upperChar c = [c] :=
  upperChar_of_isUnmoved (isUnmoved_of_isBlank h)

/-- Only a blank becomes a blank. -/
lemma isBlank_of_mem_upperChar {c d : Char} (hd : d ∈ upperChar c) (h : isBlank d = true) :
    isBlank c = true := by
  rw [eq_of_mem_upperChar (isUnmoved_of_isBlank h) hd]
  exact h

/-! ## Texts -/

lemma upperExpansions_ne_nil : upperExpansions.all (fun e => !e.2.isEmpty) = true := by
  decide +kernel

lemma upperChar_ne_nil (c : Char) : upperChar c ≠ [] := by
  unfold upperChar
  split_ifs
  · simp
  · split
    · rename_i cs hcs
      obtain ⟨l₁, l₂, hsplit, -⟩ := List.lookup_eq_some_iff.1 hcs
      have hne := List.all_eq_true.1 upperExpansions_ne_nil (c.toNat, cs) (by simp [hsplit])
      simpa using hne
    · split <;> simp

@[simp] lemma upper_nil : upper [] = [] := rfl

@[simp] lemma upper_cons (c : Char) (t : Text) : upper (c :: t) = upperChar c ++ upper t :=
  List.flatMap_cons

@[simp] lemma upper_append (s t : Text) : upper (s ++ t) = upper s ++ upper t :=
  List.flatMap_append

@[simp] lemma upper_eq_nil {t : Text} : upper t = [] ↔ t = [] := by
  cases t with
  | nil => simp
  | cons c t => simp [upperChar_ne_nil]

/-- Upper case makes no unmoved character. -/
lemma mem_of_mem_upper {d : Char} (hd : isUnmoved d.toNat = true) {t : Text} (h : d ∈ upper t) :
    d ∈ t := by
  obtain ⟨c, hc, hmem⟩ := List.mem_flatMap.1 h
  exact eq_of_mem_upperChar hd hmem ▸ hc

/-- Upper case makes no newlines. -/
lemma newline_not_mem_upper {t : Text} (h : '\n' ∉ t) : '\n' ∉ upper t :=
  fun hmem => h (mem_of_mem_upper (isUnmoved_of_isBlank isBlank_newline) hmem)

/-- **A trimmed text stays trimmed in upper case.** -/
lemma Trimmed.upper {t : Text} (h : Trimmed t) : Trimmed (upper t) := by
  rcases List.eq_nil_or_concat' t with rfl | ⟨s, e, rfl⟩
  · exact trimmed_nil
  · constructor
    · intro d hd
      obtain ⟨c, u, hcu⟩ := List.exists_cons_of_ne_nil (l := s ++ [e]) (by simp)
      have hc : isBlank c = false := h.head c (by simp [hcu])
      rw [hcu, upper_cons, List.head?_append_of_ne_nil _ (upperChar_ne_nil c)] at hd
      by_contra hblank
      rw [isBlank_of_mem_upperChar (List.mem_of_mem_head? hd) (by simpa using hblank)] at hc
      exact absurd hc (by simp)
    · intro d hd
      have he : isBlank e = false := h.last e (by simp)
      have hsplit : Text.upper (s ++ [e]) = Text.upper s ++ upperChar e := by simp
      rw [hsplit, List.getLast?_append_of_ne_nil _ (upperChar_ne_nil e)] at hd
      by_contra hblank
      rw [isBlank_of_mem_upperChar (List.mem_of_mem_getLast? hd) (by simpa using hblank)] at he
      exact absurd he (by simp)

/-! ## Letters -/

/-- What becomes an ASCII character in lower case is one. -/
lemma toNat_lt_of_toLower {c : Char} (h : c.toLower.toNat < 128) : c.toNat < 128 := by
  by_contra hge
  have hupper : ¬ c.isUpper := by
    simp only [Char.isUpper, decide_eq_true_eq, not_and, ge_iff_le, UInt32.le_iff_toNat_le]
    intro _ hle
    exact hge (lt_of_le_of_lt hle (by decide))
  rw [Char.toLower_eq_of_not_isUpper hupper] at h
  exact hge h

/-- A form of an ASCII letter becomes one form of the same letter. -/
lemma sameLetter_upperChar {p c : Char} (hp : p.toNat < 128) (h : sameLetter p c = true) :
    ∃ d, upperChar c = [d] ∧ sameLetter p d = true := by
  simp only [sameLetter, Bool.or_eq_true, Bool.and_eq_true, beq_iff_eq] at h
  rcases h with ((hlower | ⟨rfl, rfl | rfl⟩) | ⟨rfl, rfl⟩) | ⟨rfl, rfl⟩
  · have hc : c.toNat < 128 := toNat_lt_of_toLower (hlower ▸ hp)
    refine ⟨c.toUpper, by simp [upperChar, hc], ?_⟩
    simp [sameLetter, hlower]
  · exact ⟨'I', by decide, by decide⟩
  · exact ⟨'İ', by decide, by decide⟩
  · exact ⟨'S', by decide, by decide⟩
  · exact ⟨'\u212a', by decide, by decide⟩

/-- **A word at the front in any case is still there in upper case.** -/
lemma afterFolded?_upper {w : Text} (hw : ∀ p ∈ w, p.toNat < 128) :
    ∀ {t rest : Text}, afterFolded? w t = some rest →
      afterFolded? w (upper t) = some (upper rest) := by
  induction w with
  | nil =>
      intro t rest h
      simp only [afterFolded?, Option.some.injEq] at h ⊢
      rw [h]
  | cons p w ih =>
      intro t rest h
      cases t with
      | nil => simp [afterFolded?] at h
      | cons c t =>
          simp only [afterFolded?] at h
          split_ifs at h with hc
          obtain ⟨d, hd, hpd⟩ := sameLetter_upperChar (hw p (by simp)) hc
          rw [upper_cons, hd, List.singleton_append, afterFolded?, if_pos hpd]
          exact ih (fun q hq => hw q (by simp [hq])) h

end Gleaner.Text
