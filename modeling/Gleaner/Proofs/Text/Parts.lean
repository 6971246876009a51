import Gleaner.Proofs.Text.Trimmed
import Gleaner.Text.Substitute
import Mathlib.Data.List.Infix

/-!
# Parts of a text

A part of a text is what stands in it without a gap, `p <:+: t`.

**Taking apart.**  The pieces of a text, its lines and what is left of it after stripping are parts
(`infix_of_mem_splitOn`, `infix_of_mem_lines`, `strip_isInfix`).

**Searching.**  A search succeeds exactly for the parts of a text (`indexOf?_eq_none_iff`,
`lastIndexOf?_eq_none_iff`).  A text whose first character does not come again in it cannot overlap
itself.  So it is found first where nothing before holds it (`indexOf?_append`), and last where
nothing behind holds it (`lastIndexOf?_append_part`).

**Substituting.**  `substitute_induction` is the induction along a walk: over what stays as it is
and over what a rule takes.  A walk that only takes away leaves the rest in order
(`erase_sublist`).
-/

namespace Gleaner.Text

/-! ## Taking apart -/

lemma strip_isInfix (t : Text) : strip t <:+: t :=
  (stripRight_isPrefix (stripLeft t)).isInfix.trans (stripLeft_suffix t).isInfix

/-- Pieces are parts of the text. -/
lemma infix_of_mem_splitOn {sep : Char} {t p : Text} (h : p ∈ splitOn sep t) : p <:+: t := by
  induction t generalizing p with
  | nil =>
      rw [splitOn_nil, List.mem_singleton] at h
      exact h ▸ List.infix_refl []
  | cons c t ih =>
      by_cases hc : c = sep
      · subst hc
        rw [splitOn_cons_sep, List.mem_cons] at h
        rcases h with rfl | h
        · exact List.nil_infix
        · exact List.infix_cons (ih h)
      · obtain ⟨q, qs, hq⟩ := List.exists_cons_of_ne_nil (splitOn_ne_nil sep t)
        rw [splitOn_cons_of_ne hc hq, List.mem_cons] at h
        rcases h with rfl | h
        · -- the first piece has grown by `c`, and it stands at the front
          obtain ⟨rest, hrest⟩ : q <+: t := by
            rw [← join_splitOn sep t, hq]
            cases qs with
            | nil => exact List.prefix_refl q
            | cons q' qs => exact ⟨[sep] ++ join [sep] (q' :: qs), by simp [join]⟩
          exact ⟨[], rest, by simp [hrest]⟩
        · exact List.infix_cons (ih (by simp [hq, h]))

/-- The later ones of joined texts are the end of the whole. -/
lemma join_drop_suffix (sep : Text) : ∀ (k : Nat) (ls : List Text),
    join sep (ls.drop k) <:+ join sep ls
  | 0, ls => List.suffix_refl _
  | k + 1, [] => List.suffix_refl _
  | k + 1, [l] => by simp [join]
  | k + 1, l :: m :: ls =>
      (join_drop_suffix sep k (m :: ls)).trans (List.suffix_append _ _)

/-- Lines are parts of the text.  What carries the induction is the line that has been begun: with
the text ahead it is a part too. -/
lemma infix_of_mem_lines {t l : Text} (h : l ∈ lines t) : l <:+: t := by
  have hfrom : ∀ (t line : Text) (b : Bool), ∀ l ∈ linesFrom line b t, l <:+: line.reverse ++ t := by
    intro t
    induction t with
    | nil =>
        intro line b l hl
        rw [linesFrom] at hl
        split_ifs at hl
        · cases hl
        · rw [List.mem_singleton] at hl
          exact ⟨[], [], by simp [hl]⟩
    | cons c t ih =>
        intro line b l hl
        -- a line that begins behind `c`
        have hlater : ∀ b', l ∈ linesFrom [] b' t → l <:+: line.reverse ++ c :: t :=
          fun b' hl => (ih [] b' l hl).trans ⟨line.reverse ++ [c], [], by simp⟩
        rw [linesFrom] at hl
        split_ifs at hl
        · exact hlater false hl
        · rcases List.mem_cons.1 hl with rfl | hl
          · exact (List.prefix_append _ _).isInfix
          · exact hlater _ hl
        · simpa using ih (c :: line) false l hl
  simpa using hfrom t [] false l h

/-! ## Searching -/

lemma startsWith_iff {t p : Text} : startsWith t p = true ↔ p <+: t :=
  List.isPrefixOf_iff_prefix

lemma indexOf?_eq_none_iff {p : Text} : ∀ {t : Text}, indexOf? p t = none ↔ ¬ p <:+: t
  | [] => by simp [indexOf?]
  | c :: t => by
      rw [indexOf?, List.infix_cons_iff, ← startsWith_iff]
      split_ifs with h
      · simp [h]
      · simp [h, indexOf?_eq_none_iff]

lemma lastIndexOf?_eq_none_iff {p : Text} : ∀ {t : Text}, lastIndexOf? p t = none ↔ ¬ p <:+: t
  | [] => by simp [lastIndexOf?]
  | c :: t => by
      have ih := lastIndexOf?_eq_none_iff (p := p) (t := t)
      rw [lastIndexOf?, List.infix_cons_iff, ← startsWith_iff]
      cases h : lastIndexOf? p t with
      | none => simp [ih.1 h]
      | some n =>
          have hpart : p <:+: t := by
            by_contra hnot
            rw [ih.2 hnot] at h
            cases h
          simp [hpart]

lemma contains_iff {t p : Text} : contains t p = true ↔ p <:+: t := by
  rw [contains, Option.isSome_iff_ne_none, ne_eq, indexOf?_eq_none_iff, not_not]

lemma contains_eq_false_iff {t p : Text} : contains t p = false ↔ ¬ p <:+: t := by
  rw [← contains_iff, Bool.not_eq_true]

section

variable {c : Char} {p : Text}

/-- A part begins behind what does not hold its first character. -/
lemma infix_of_infix_append {a b : Text} (ha : c ∉ a) (h : c :: p <:+: a ++ b) : c :: p <:+: b := by
  induction a with
  | nil => exact h
  | cons d a ih =>
      rw [List.mem_cons, not_or] at ha
      rw [List.cons_append, List.infix_cons_iff, List.cons_prefix_cons] at h
      rcases h with ⟨hd, -⟩ | h
      · exact absurd hd ha.1
      · exact ih ha.2 h

/-- **A text that does not overlap itself does not reach over into its own occurrence.** -/
lemma isPrefix_of_isPrefix_append (hp : c ∉ p) {a b : Text} (ha : a ≠ [])
    (h : c :: p <+: a ++ (c :: p ++ b)) : c :: p <+: a := by
  rcases List.prefix_or_prefix_of_prefix h (List.prefix_append a _) with hshort | ⟨past, hpast⟩
  · exact hshort
  · -- what reaches over would begin with `c`, but it lies within `p`
    have hstart : past <+: c :: p ++ b := by
      rwa [← List.prefix_append_right_inj a, hpast]
    cases past with
    | nil => exact ⟨[], by simpa using hpast.symm⟩
    | cons d past =>
        obtain ⟨e, a, rfl⟩ := List.exists_cons_of_ne_nil ha
        obtain rfl : d = c := (List.cons_prefix_cons.1 hstart).1
        have hmem : p = a ++ d :: past := (List.cons.inj hpast).2.symm
        exact absurd (by simp [hmem]) hp

/-- **The first occurrence stands where nothing before it holds the text.** -/
lemma indexOf?_append (hp : c ∉ p) {a : Text} (ha : ¬ c :: p <:+: a) (b : Text) :
    indexOf? (c :: p) (a ++ (c :: p ++ b)) = some a.length := by
  induction a with
  | nil =>
      have hstarts : startsWith (c :: p ++ b) (c :: p) = true :=
        startsWith_iff.2 (List.prefix_append _ _)
      rw [List.cons_append] at hstarts
      rw [List.nil_append, List.cons_append, indexOf?, if_pos hstarts, List.length_nil]
  | cons d a ih =>
      have hstarts : ¬ startsWith (d :: a ++ (c :: p ++ b)) (c :: p) = true := fun h =>
        ha (isPrefix_of_isPrefix_append hp (List.cons_ne_nil d a) (startsWith_iff.1 h)).isInfix
      rw [List.cons_append] at hstarts
      rw [List.cons_append, indexOf?, if_neg hstarts, ih fun h => ha (List.infix_cons h)]
      rfl

/-- **The last occurrence stands where nothing behind it holds the text.** -/
lemma lastIndexOf?_append_part (hp : c ∉ p) (a : Text) {b : Text} (hb : ¬ c :: p <:+: b) :
    lastIndexOf? (c :: p) (a ++ (c :: p ++ b)) = some a.length := by
  induction a with
  | nil =>
      have hrest : lastIndexOf? (c :: p) (p ++ b) = none :=
        lastIndexOf?_eq_none_iff.2 fun h => hb (infix_of_infix_append hp h)
      have hstarts : startsWith (c :: (p ++ b)) (c :: p) = true :=
        startsWith_iff.2 ⟨b, rfl⟩
      rw [List.nil_append, List.cons_append, lastIndexOf?, hrest]
      simp [hstarts]
  | cons d a ih => rw [List.cons_append, lastIndexOf?, ih, List.length_cons]

/-- What follows the last occurrence of a character does not hold it. -/
lemma lastIndexOf?_append {rest : Text} (h : c ∉ rest) (t : Text) :
    lastIndexOf? [c] (t ++ c :: rest) = some t.length :=
  lastIndexOf?_append_part List.not_mem_nil t (mt (List.singleton_infix_iff c rest).1 h)

end

/-! ## Substituting -/

/-- **Induction along a walk.**  A character stays, or a rule takes it and what follows. -/
lemma substitute_induction {rule : Rule} {motive : Text → Text → Prop} (nil : motive [] [])
    (stays : ∀ c rest, rule c rest = none → motive rest (substitute rule rest) →
      motive (c :: rest) (c :: substitute rule rest))
    (taken : ∀ c rest more put, rule c rest = some (more, put) →
      motive (rest.drop more) (substitute rule (rest.drop more)) →
        motive (c :: rest) (put ++ substitute rule (rest.drop more))) :
    ∀ t : Text, motive t (substitute rule t)
  | [] => nil
  | c :: rest => by
      cases hrule : rule c rest with
      | none =>
          rw [substitute_cons_of_none hrule]
          exact stays c rest hrule (substitute_induction nil stays taken rest)
      | some found =>
          obtain ⟨more, put⟩ := found
          rw [substitute_cons_of_some hrule]
          exact taken c rest more put hrule (substitute_induction nil stays taken (rest.drop more))
termination_by t => t.length
decreasing_by
  · simp
  · rw [List.length_drop, List.length_cons]
    omega

section

variable {span : Char → Text → Option Nat} {c : Char} {rest : Text}

lemma erase_cons_of_none (h : span c rest = none) : erase span (c :: rest) = c :: erase span rest :=
  substitute_cons_of_none (Option.map_eq_none_iff.2 h)

lemma erase_cons_of_some {more : Nat} (h : span c rest = some more) :
    erase span (c :: rest) = erase span (rest.drop more) := by
  unfold erase
  rw [← List.nil_append (substitute _ (rest.drop more))]
  exact substitute_cons_of_some (Option.map_eq_some_iff.2 ⟨more, h, rfl⟩)

end

/-- Taking away keeps the rest in order. -/
lemma erase_sublist (span : Char → Text → Option Nat) (t : Text) :
    (erase span t).Sublist t := by
  refine substitute_induction (motive := fun t s => s.Sublist t) List.Sublist.slnil ?_ ?_ t
  · exact fun c rest _ ih => ih.cons_cons c
  · intro c rest more put hrule ih
    obtain ⟨n, -, hn⟩ := Option.map_eq_some_iff.1 hrule
    obtain ⟨rfl, rfl⟩ := Prod.mk.inj hn
    exact (ih.trans (List.drop_sublist _ rest)).cons c

end Gleaner.Text
