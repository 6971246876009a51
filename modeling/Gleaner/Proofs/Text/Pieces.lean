import Gleaner.Text.Blank
import Mathlib.Data.List.Basic
import Mathlib.Tactic.Common

/-!
# Pieces between separators

What `splitOn` and `join` do to each other, and what it means that a list of lines lost nothing but
empty lines.

**Splitting and joining.**  A text without the separator is one piece (`splitOn_of_not_mem`), and
`splitOn_join` reads joined pieces back, as long as none of them holds the separator.  The pieces of
any text make up the text (`join_splitOn`).

**Thinning.**  `Thinned short long` says that `short` is `long` without some of its empty lines.
Every such list has the same full lines (`Thinned.full_eq`).  A walk over a text extends its first
line one character at a time, so what an induction over characters carries is `HeadThinned`, where
the first lines are the same.
-/

namespace Gleaner.Text

/-! ## Splitting and joining -/

@[simp] lemma splitOn_nil (sep : Char) : splitOn sep [] = [[]] := rfl

@[simp] lemma splitOn_cons_sep (sep : Char) (t : Text) :
    splitOn sep (sep :: t) = [] :: splitOn sep t := by
  simp [splitOn]

lemma splitOn_ne_nil (sep : Char) : ∀ t : Text, splitOn sep t ≠ []
  | [] => by simp
  | c :: t => by
      unfold splitOn
      split_ifs
      · simp
      · split <;> simp

/-- A character that is no separator goes to the first piece. -/
lemma splitOn_cons_of_ne {sep c : Char} {t p : Text} {ps : List Text} (hc : c ≠ sep)
    (h : splitOn sep t = p :: ps) : splitOn sep (c :: t) = (c :: p) :: ps := by
  rw [splitOn, if_neg hc, h]

/-- A text in front of a separator is a piece of its own. -/
lemma splitOn_append_sep {sep : Char} {a : Text} (ha : sep ∉ a) (b : Text) :
    splitOn sep (a ++ sep :: b) = a :: splitOn sep b := by
  induction a with
  | nil => simp
  | cons c a ih =>
      simp only [List.mem_cons, not_or] at ha
      exact splitOn_cons_of_ne (Ne.symm ha.1) (ih ha.2)

/-- A separator divides the pieces of a text. -/
lemma splitOn_append_cons (sep : Char) (a b : Text) :
    splitOn sep (a ++ sep :: b) = splitOn sep a ++ splitOn sep b := by
  induction a with
  | nil => simp
  | cons c a ih =>
      by_cases hc : c = sep
      · subst hc
        simp [ih]
      · obtain ⟨p, ps, hp⟩ := List.exists_cons_of_ne_nil (splitOn_ne_nil sep a)
        rw [hp, List.cons_append] at ih
        rw [List.cons_append, splitOn_cons_of_ne hc ih, splitOn_cons_of_ne hc hp, List.cons_append]

/-- What stands behind a text goes to its last piece, up to the next separator. -/
lemma exists_splitOn_append (sep : Char) (a b : Text) :
    ∃ front last first rest, splitOn sep a = front ++ [last] ∧ splitOn sep b = first :: rest ∧
      splitOn sep (a ++ b) = front ++ (last ++ first) :: rest := by
  obtain ⟨first, rest, hb⟩ := List.exists_cons_of_ne_nil (splitOn_ne_nil sep b)
  induction a with
  | nil => exact ⟨[], [], first, rest, rfl, hb, hb⟩
  | cons c a ih =>
      obtain ⟨front, last, first', rest', ha, hb', hab⟩ := ih
      by_cases hc : c = sep
      · subst hc
        exact ⟨[] :: front, last, first', rest', by simp [ha], hb', by simp [hab]⟩
      · -- the new character goes to the first piece, which may be the last one
        cases front with
        | nil =>
            exact ⟨[], c :: last, first', rest', splitOn_cons_of_ne hc ha, hb',
              splitOn_cons_of_ne hc hab⟩
        | cons p front =>
            exact ⟨(c :: p) :: front, last, first', rest', splitOn_cons_of_ne hc ha, hb',
              splitOn_cons_of_ne hc hab⟩

/-- A text without the separator is one piece. -/
lemma splitOn_of_not_mem {sep : Char} {a : Text} (ha : sep ∉ a) : splitOn sep a = [a] := by
  induction a with
  | nil => rfl
  | cons c a ih =>
      simp only [List.mem_cons, not_or] at ha
      exact splitOn_cons_of_ne (Ne.symm ha.1) (ih ha.2)

/-- No piece holds the separator. -/
lemma not_mem_of_mem_splitOn {sep : Char} : ∀ {t p : Text}, p ∈ splitOn sep t → sep ∉ p
  | [], p, hp => by simp only [splitOn_nil, List.mem_singleton] at hp; simp [hp]
  | c :: t, p, hp => by
      by_cases hc : c = sep
      · subst hc
        simp only [splitOn_cons_sep, List.mem_cons] at hp
        rcases hp with rfl | hp
        · simp
        · exact not_mem_of_mem_splitOn hp
      · obtain ⟨q, qs, hq⟩ := List.exists_cons_of_ne_nil (splitOn_ne_nil sep t)
        rw [splitOn_cons_of_ne hc hq] at hp
        rcases List.mem_cons.1 hp with rfl | hp
        · have hq' : sep ∉ q := not_mem_of_mem_splitOn (t := t) (by simp [hq])
          simp only [List.mem_cons, not_or]
          exact ⟨Ne.symm hc, hq'⟩
        · exact not_mem_of_mem_splitOn (t := t) (by simp [hq, hp])

lemma join_cons {ls : List Text} (sep l : Text) (h : ls ≠ []) :
    join sep (l :: ls) = l ++ sep ++ join sep ls := by
  obtain ⟨m, ms, rfl⟩ := List.exists_cons_of_ne_nil h
  rfl

/-- **Joined pieces are read back**, if there are any and none of them holds the separator. -/
lemma splitOn_join {sep : Char} {ls : List Text} (hne : ls ≠ []) (h : ∀ l ∈ ls, sep ∉ l) :
    splitOn sep (join [sep] ls) = ls := by
  induction ls with
  | nil => exact absurd rfl hne
  | cons l ls ih =>
      have hl : sep ∉ l := h l (by simp)
      by_cases hls : ls = []
      · subst hls
        exact splitOn_of_not_mem hl
      · rw [join_cons [sep] l hls, List.append_assoc, List.singleton_append,
          splitOn_append_sep hl, ih hls fun m hm => h m (by simp [hm])]

/-- The pieces of a text, joined again, are the text. -/
lemma join_splitOn (sep : Char) : ∀ t : Text, join [sep] (splitOn sep t) = t
  | [] => rfl
  | c :: t => by
      have ih := join_splitOn sep t
      by_cases hc : c = sep
      · subst hc
        rw [splitOn_cons_sep, join_cons [c] [] (splitOn_ne_nil c t), ih]
        rfl
      · obtain ⟨q, qs, hq⟩ := List.exists_cons_of_ne_nil (splitOn_ne_nil sep t)
        rw [hq] at ih
        rw [splitOn_cons_of_ne hc hq, ← ih]
        cases qs with
        | nil => rfl
        | cons q' qs => rfl

/-! ## Thinning -/

/-- The first list is the second without some of its empty lines. -/
inductive Thinned : List Text → List Text → Prop
  | nil : Thinned [] []
  | keep {short long : List Text} (l : Text) : Thinned short long → Thinned (l :: short) (l :: long)
  | drop {short long : List Text} : Thinned short long → Thinned short ([] :: long)

/-- The lines that are not empty. -/
def full (ls : List Text) : List Text :=
  ls.filter fun l => !l.isEmpty

lemma Thinned.refl : ∀ ls : List Text, Thinned ls ls
  | [] => .nil
  | l :: ls => .keep l (Thinned.refl ls)

lemma Thinned.trans {a b c : List Text} (hab : Thinned a b) (hbc : Thinned b c) : Thinned a c := by
  induction hbc generalizing a with
  | nil => exact hab
  | keep l _ ih =>
      cases hab with
      | keep _ hab => exact .keep l (ih hab)
      | drop hab => exact .drop (ih hab)
  | drop _ ih => exact .drop (ih hab)

/-- Empty lines in front may go, all of them or all but some. -/
lemma Thinned.replicate_append {short long : List Text} (h : Thinned short long) (n : Nat) :
    Thinned short (List.replicate n [] ++ long) := by
  induction n with
  | zero => exact h
  | succ n ih => exact .drop ih

/-- Thinning takes lines away and changes none. -/
lemma Thinned.sublist {short long : List Text} (h : Thinned short long) : short.Sublist long := by
  induction h with
  | nil => exact List.Sublist.slnil
  | keep l _ ih => exact ih.cons_cons l
  | drop _ ih => exact ih.cons []

/-- **Thinning keeps every full line**, in its place. -/
lemma Thinned.full_eq {short long : List Text} (h : Thinned short long) :
    full short = full long := by
  induction h with
  | nil => rfl
  | keep l _ ih =>
      simp only [full, List.filter_cons] at ih ⊢
      rw [ih]
  | drop _ ih => simpa [full] using ih

/-- Thinned behind the same first line. -/
def HeadThinned (short long : List Text) : Prop :=
  ∃ l short' long', short = l :: short' ∧ long = l :: long' ∧ Thinned short' long'

lemma HeadThinned.thinned {short long : List Text} (h : HeadThinned short long) :
    Thinned short long := by
  obtain ⟨l, short', long', rfl, rfl, h⟩ := h
  exact .keep l h

/-- A new first line in front of both. -/
lemma Thinned.head {short long : List Text} (h : Thinned short long) (l : Text) :
    HeadThinned (l :: short) (l :: long) :=
  ⟨l, short, long, rfl, rfl, h⟩

/-- A character in front of two texts keeps their lines thinned behind the same first line. -/
lemma HeadThinned.splitOn_cons {s t : Text} (c : Char)
    (h : HeadThinned (splitOn '\n' s) (splitOn '\n' t)) :
    HeadThinned (splitOn '\n' (c :: s)) (splitOn '\n' (c :: t)) := by
  by_cases hc : c = '\n'
  · subst hc
    rw [splitOn_cons_sep, splitOn_cons_sep]
    exact h.thinned.head []
  · obtain ⟨l, short, long, hs, ht, h⟩ := h
    rw [splitOn_cons_of_ne hc hs, splitOn_cons_of_ne hc ht]
    exact h.head (c :: l)

end Gleaner.Text
