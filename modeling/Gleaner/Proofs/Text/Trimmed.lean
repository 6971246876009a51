import Gleaner.Proofs.Text.Pieces

/-!
# Texts without blanks at their ends

A text is *trimmed* when it neither begins nor ends with a blank.

**Stripping.**  `strip` gives a trimmed text (`trimmed_strip`) that holds nothing new
(`mem_of_mem_strip`), and leaves trimmed texts alone (`Trimmed.strip_eq`).

**Stripping many lines at once.**  A newline is a blank, so stripping a text of several lines may
take whole lines away.  When every line is trimmed these are empty lines only
(`splitOn_strip_thinned`): the first character of a full line stops the walk from the front, its
last character the walk from the back.
-/

namespace Gleaner.Text

/-- No blank at the front and none at the end. -/
structure Trimmed (t : Text) : Prop where
  head : ∀ c ∈ t.head?, isBlank c = false
  last : ∀ c ∈ t.getLast?, isBlank c = false

lemma trimmed_nil : Trimmed [] :=
  ⟨by simp, by simp⟩

lemma isBlank_newline : isBlank '\n' = true := rfl

/-! ## Stripping -/

lemma stripLeft_suffix (t : Text) : stripLeft t <:+ t :=
  List.dropWhile_suffix isBlank

lemma stripRight_isPrefix : ∀ t : Text, stripRight t <+: t
  | [] => List.prefix_refl []
  | c :: t => by
      have ih := stripRight_isPrefix t
      rw [stripRight]
      cases h : stripRight t with
      | nil =>
          simp only
          split_ifs
          · exact List.nil_prefix
          · exact ⟨t, rfl⟩
      | cons d ds =>
          rw [h] at ih
          exact (List.prefix_cons_inj c).2 ih

/-- Stripping brings in nothing new. -/
lemma mem_of_mem_strip {c : Char} {t : Text} (h : c ∈ strip t) : c ∈ t :=
  (stripLeft_suffix t).subset ((stripRight_isPrefix (stripLeft t)).subset h)

lemma head?_stripLeft {t : Text} : ∀ c ∈ (stripLeft t).head?, isBlank c = false := by
  intro c hc
  have h := List.head?_dropWhile_not isBlank t
  rw [Option.mem_def] at hc
  rw [stripLeft] at hc
  simp only [hc] at h
  exact h

lemma getLast?_stripRight : ∀ {t : Text}, ∀ c ∈ (stripRight t).getLast?, isBlank c = false
  | [], c, hc => by simp [stripRight] at hc
  | b :: t, c, hc => by
      rw [stripRight] at hc
      cases h : stripRight t with
      | nil =>
          simp only [h] at hc
          split_ifs at hc with hb
          · simp at hc
          · simp only [List.getLast?_singleton, Option.mem_def, Option.some.injEq] at hc
            subst hc
            simpa using hb
      | cons d ds =>
          simp only [h, List.getLast?_cons_cons] at hc
          exact getLast?_stripRight (t := t) c (by rw [h]; exact hc)

/-- A text that is trimmed at the front stays so when its end is stripped. -/
lemma head?_stripRight {t : Text} (h : ∀ c ∈ t.head?, isBlank c = false) :
    ∀ c ∈ (stripRight t).head?, isBlank c = false := by
  obtain ⟨b, hb⟩ := stripRight_isPrefix t
  intro c hc
  apply h c
  rw [← hb]
  cases hs : stripRight t with
  | nil => simp [hs] at hc
  | cons d ds => simpa [hs] using hc

/-- **Stripped texts are trimmed.** -/
lemma trimmed_strip (t : Text) : Trimmed (strip t) :=
  ⟨head?_stripRight head?_stripLeft, getLast?_stripRight⟩

lemma stripLeft_eq_self {t : Text} (h : ∀ c ∈ t.head?, isBlank c = false) : stripLeft t = t := by
  cases t with
  | nil => rfl
  | cons c t =>
      have hc : isBlank c = false := h c (by simp)
      simp [stripLeft, hc]

lemma stripRight_eq_self : ∀ {t : Text}, (∀ c ∈ t.getLast?, isBlank c = false) → stripRight t = t
  | [], _ => rfl
  | [c], h => by
      have hc : isBlank c = false := h c (by simp)
      simp [stripRight, hc]
  | c :: d :: t, h => by
      have ih : stripRight (d :: t) = d :: t :=
        stripRight_eq_self fun e he => h e (by rwa [List.getLast?_cons_cons])
      rw [stripRight, ih]

lemma Trimmed.stripRight_eq {t : Text} (h : Trimmed t) : stripRight t = t :=
  stripRight_eq_self h.last

/-- Trimmed texts are left alone. -/
lemma Trimmed.strip_eq {t : Text} (h : Trimmed t) : strip t = t := by
  rw [strip, stripLeft_eq_self h.head, h.stripRight_eq]

lemma Trimmed.indent_eq {t : Text} (h : Trimmed t) : indent t = 0 := by
  cases t with
  | nil => rfl
  | cons c t =>
      have hc : isBlank c = false := h.head c (by simp)
      simp [indent, hc]

/-- The two ends can be stripped in either order. -/
lemma stripLeft_stripRight : ∀ t : Text, stripLeft (stripRight t) = stripRight (stripLeft t)
  | [] => rfl
  | c :: t => by
      have ih := stripLeft_stripRight t
      by_cases hc : isBlank c = true
      · have hleft : ∀ u : Text, stripLeft (c :: u) = stripLeft u :=
          fun u => List.dropWhile_cons_of_pos hc
        rw [hleft, ← ih, stripRight]
        cases h : stripRight t with
        | nil => simp [hc]
        | cons d ds => exact hleft (d :: ds)
      · have hleft : ∀ u : Text, stripLeft (c :: u) = c :: u :=
          fun u => List.dropWhile_cons_of_neg hc
        rw [hleft, stripRight]
        cases h : stripRight t with
        | nil => simp [hc, hleft]
        | cons d ds => exact hleft (d :: ds)

@[simp] lemma strip_stripRight (t : Text) : strip (stripRight t) = strip t := by
  rw [strip, stripLeft_stripRight, stripRight_eq_self getLast?_stripRight, strip]

/-! ## Stripping many lines at once -/

/-- From the front only empty lines go. -/
lemma splitOn_stripLeft_thinned : ∀ {t : Text},
    (∀ l ∈ splitOn '\n' t, ∀ c ∈ l.head?, isBlank c = false) →
      Thinned (splitOn '\n' (stripLeft t)) (splitOn '\n' t)
  | [], _ => Thinned.refl _
  | c :: t, h => by
      by_cases hc : c = '\n'
      · subst hc
        have hstep : stripLeft ('\n' :: t) = stripLeft t :=
          List.dropWhile_cons_of_pos isBlank_newline
        rw [hstep, splitOn_cons_sep]
        exact .drop (splitOn_stripLeft_thinned fun l hl => h l (by simp [hl]))
      · obtain ⟨p, ps, hp⟩ := List.exists_cons_of_ne_nil (splitOn_ne_nil '\n' t)
        have hblank : isBlank c = false :=
          h (c :: p) (by simp [splitOn_cons_of_ne hc hp]) c (by simp)
        rw [stripLeft_eq_self (t := c :: t) (by simpa using hblank)]
        exact Thinned.refl _

/-- From the back only empty lines go, and never the first line. -/
lemma splitOn_stripRight_thinned : ∀ {t : Text},
    (∀ l ∈ splitOn '\n' t, ∀ c ∈ l.getLast?, isBlank c = false) →
      HeadThinned (splitOn '\n' (stripRight t)) (splitOn '\n' t)
  | [], _ => (Thinned.refl []).head []
  | c :: t, h => by
      obtain ⟨p, ps, hp⟩ := List.exists_cons_of_ne_nil (splitOn_ne_nil '\n' t)
      -- the lines of the rest end without a blank too: `c` made the first of them longer in front
      have hrest : ∀ l ∈ splitOn '\n' t, ∀ d ∈ l.getLast?, isBlank d = false := by
        by_cases hc : c = '\n'
        · subst hc
          exact fun l hl => h l (by simp [hl])
        · intro l hl d hd
          rw [hp] at hl
          rcases List.mem_cons.1 hl with rfl | hl
          · cases l with
            | nil => simp at hd
            | cons e l =>
                exact h (c :: e :: l) (by simp [splitOn_cons_of_ne hc hp]) d
                  (by rwa [List.getLast?_cons_cons])
          · exact h l (by simp [splitOn_cons_of_ne hc hp, hl]) d hd
      have ih := splitOn_stripRight_thinned hrest
      rw [stripRight]
      cases hs : stripRight t with
      | cons d ds =>
          rw [hs] at ih
          exact ih.splitOn_cons c
      | nil =>
          -- nothing but blanks behind `c`: the first line of the rest is empty
          rw [hs] at ih
          obtain ⟨l, short, long, hshort, hlong, ih⟩ := ih
          simp only [splitOn_nil, List.cons.injEq] at hshort
          obtain ⟨rfl, rfl⟩ := hshort
          by_cases hc : c = '\n'
          · subst hc
            simp only [isBlank_newline, if_true, splitOn_cons_sep, splitOn_nil, hlong]
            exact (ih.drop).head []
          · have hsplit := splitOn_cons_of_ne hc hlong
            have hblank : isBlank c = false := h [c] (by simp [hsplit]) c (by simp)
            simp only [hblank, Bool.false_eq_true, if_false, hsplit,
              splitOn_cons_of_ne hc (splitOn_nil '\n')]
            exact ih.head [c]

/-- **Stripping a text of trimmed lines takes empty lines away and nothing else.** -/
lemma splitOn_strip_thinned {t : Text} (h : ∀ l ∈ splitOn '\n' t, Trimmed l) :
    Thinned (splitOn '\n' (strip t)) (splitOn '\n' t) := by
  have hleft := splitOn_stripLeft_thinned fun l hl => (h l hl).head
  have hright := splitOn_stripRight_thinned (t := stripLeft t) fun l hl =>
    (h l (hleft.sublist.subset hl)).last
  exact hright.thinned.trans hleft

end Gleaner.Text
