import Gleaner.Proofs.Screenplay.TidyLines

/-!
# The form of a converted text

A converted text never has three newlines in a row, and each of its lines is empty or begins and
ends with a character that is no blank; a transcript moreover has no empty line at either end
(`converted_in_normal_form`).

**Gaps.**  The collapse keeps the first character of a text (`head?_collapse`).  So a newline that
it leaves alone stands before one more at most, and the two that it puts in stand before none:
`not_gap_collapse`.

**Ends.**  A text that begins with a character of its first line has a full first line, and likewise
for the end (`full_ends_of_trimmed`).
-/

namespace Gleaner.Screenplay

open Text

/-! ## Gaps -/

/-- Three newlines in a row. -/
def gap : Text := ['\n', '\n', '\n']

/-- The collapse keeps the first character. -/
lemma head?_collapse (t : Text) : (collapseBlankLines t).head? = t.head? := by
  cases t with
  | nil => rfl
  | cons c t =>
      by_cases hrun : c = '\n' ∧ 2 ≤ (t.takeWhile (· == '\n')).length
      · rw [hrun.1, collapse_run hrun.2, List.head?_cons, List.head?_cons]
      · rw [collapse_cons_of_not hrun, List.head?_cons, List.head?_cons]

/-- Two newlines at the front were there before the collapse. -/
lemma two_le_run_of_collapse {t : Text} (h : ['\n', '\n'] <+: collapseBlankLines t) :
    2 ≤ (t.takeWhile (· == '\n')).length := by
  have hfirst := head?_collapse t
  obtain ⟨rest, hrest⟩ := h
  rw [← hrest, List.cons_append, List.head?_cons] at hfirst
  obtain ⟨t, rfl⟩ := List.head?_eq_some_iff.1 hfirst.symm
  by_cases hrun : 2 ≤ (t.takeWhile (· == '\n')).length
  · rw [List.takeWhile_cons_of_pos (by rfl), List.length_cons]
    omega
  · -- the first newline stays, so the second one comes from behind it
    rw [collapse_cons_of_not fun h => hrun h.2, List.cons_append, List.cons.injEq] at hrest
    have hsecond := head?_collapse t
    rw [← hrest.2, List.cons_append, List.head?_cons] at hsecond
    obtain ⟨t, rfl⟩ := List.head?_eq_some_iff.1 hsecond.symm
    rw [List.takeWhile_cons_of_pos (by rfl), List.takeWhile_cons_of_pos (by rfl), List.length_cons,
      List.length_cons]
    omega

lemma head?_drop_run (t : Text) :
    (t.drop (t.takeWhile (· == '\n')).length).head? ≠ some '\n' := by
  intro h
  have hnot := List.head?_dropWhile_not (· == '\n') t
  rw [← drop_run, h] at hnot
  simp at hnot

/-- **The collapse leaves no gap.**  By induction along its walk. -/
lemma not_gap_collapse (t : Text) : ¬ gap <:+: collapseBlankLines t := by
  refine substitute_induction (motive := fun _ s => ¬ gap <:+: s) (by decide) ?_ ?_ t
  · intro c rest hstays ih hgap
    have hshort : ¬ (c = '\n' ∧ 2 ≤ (rest.takeWhile (· == '\n')).length) := by
      simpa using hstays
    rcases List.infix_cons_iff.1 hgap with hfront | hlater
    · obtain ⟨hc, htwo⟩ := List.cons_prefix_cons.1 hfront
      exact hshort ⟨hc.symm, two_le_run_of_collapse htwo⟩
    · exact ih hlater
  · intro c rest more put htaken ih
    simp only [Option.ite_none_right_eq_some, Option.some.injEq, Prod.mk.injEq] at htaken
    obtain ⟨-, rfl, rfl⟩ := htaken
    change ¬ gap <:+: '\n' :: '\n' :: collapseBlankLines _
    have hhead := head?_drop_run rest
    rw [← head?_collapse] at hhead
    rw [List.infix_cons_iff, List.infix_cons_iff, gap, List.cons_prefix_cons, List.cons_prefix_cons,
      List.cons_prefix_cons]
    -- what follows the two newlines begins with another character
    have hthird : ∀ s : Text, ¬ '\n' :: s <+: collapseBlankLines
        (rest.drop (rest.takeWhile (· == '\n')).length) := by
      rintro s ⟨u, hu⟩
      exact hhead (by rw [← hu, List.cons_append, List.head?_cons])
    rintro (⟨-, -, h⟩ | ⟨-, h⟩ | h)
    · exact hthird _ h
    · exact hthird _ h
    · exact ih h

/-! ## Ends -/

/-- A line that begins and ends with a character that is no blank. -/
def IsSolid (l : Text) : Prop :=
  (∃ c, l.head? = some c ∧ isBlank c = false) ∧ ∃ c, l.getLast? = some c ∧ isBlank c = false

lemma TidyLine.isSolid {l : Text} (h : TidyLine l) : IsSolid l := by
  have hfirst := List.head?_eq_some_head h.ne_nil
  have hlast := List.getLast?_eq_some_getLast h.ne_nil
  exact ⟨⟨_, hfirst, h.trimmed.head _ hfirst⟩, _, hlast, h.trimmed.last _ hlast⟩

/-- A text that neither begins nor ends with an empty line. -/
def HasFullEnds (t : Text) : Prop :=
  (splitOn '\n' t).head? ≠ some [] ∧ (splitOn '\n' t).getLast? ≠ some []

/-- **A trimmed text has full lines at its ends**, if it has anything. -/
lemma full_ends_of_trimmed {t : Text} (h : Trimmed t) (hne : t ≠ []) : HasFullEnds t := by
  constructor
  · obtain ⟨c, t, rfl⟩ := List.exists_cons_of_ne_nil hne
    have hc : c ≠ '\n' := by
      rintro rfl
      exact absurd (h.head '\n' (by simp)) (by decide)
    obtain ⟨p, ps, hp⟩ := List.exists_cons_of_ne_nil (splitOn_ne_nil '\n' t)
    simp [splitOn_cons_of_ne hc hp]
  · obtain ⟨t, c, rfl⟩ := (List.eq_nil_or_concat' t).resolve_left hne
    have hc : c ≠ '\n' := by
      rintro rfl
      exact absurd (h.last '\n' (by simp)) (by decide)
    obtain ⟨front, last, first, rest, -, hfirst, hsplit⟩ := exists_splitOn_append '\n' t [c]
    obtain ⟨rfl, rfl⟩ : first = [c] ∧ rest = [] := by
      simpa [splitOn, hc, eq_comm] using hfirst
    simp [hsplit]

/-! ## The result -/

/-- The form of a converted text: no three newlines in a row, and no blank at an end of a line. -/
structure InNormalForm (out : Text) : Prop where
  no_gap : ¬ gap <:+: out
  lines : ∀ l ∈ splitOn '\n' out, l = [] ∨ IsSolid l

/-- **A tidy conversion gives a text in normal form.** -/
lemma Conversion.Tidy.inNormalForm {r : Conversion} (hr : r.Tidy) (page : Text) :
    InNormalForm (r.text page) := by
  cases hpart : r.part? page with
  | none =>
      rw [Conversion.text_of_none hpart]
      exact ⟨by decide, by simp⟩
  | some part =>
      refine ⟨?_, fun l hl => or_iff_not_imp_left.2 fun hne => ?_⟩
      · rw [Conversion.text_eq hpart]
        split_ifs
        · exact fun h => not_gap_collapse _ (h.trans (strip_isInfix _))
        · exact not_gap_collapse _
      · have hfull : l ∈ full (splitOn '\n' (r.text page)) :=
          List.mem_filter.2 ⟨hl, by simpa using hne⟩
        exact (hr.tidyLine_of_mem_text hpart hfull).isSolid

lemma trimmed_transcript (page : Text) : Trimmed (transcript.text page) := by
  cases hpart : transcript.part? page with
  | none =>
      rw [Conversion.text_of_none hpart]
      exact trimmed_nil
  | some part =>
      rw [Conversion.text_eq hpart]
      exact trimmed_strip _

/-- **Every converted text is in normal form**, and a transcript has no empty line at either end
unless it is empty. -/
theorem converted_in_normal_form (page : Text) :
    (∀ out, transcript.apply page = .ok out →
      InNormalForm out ∧ (out ≠ [] → HasFullEnds out)) ∧
    (∀ out, film.apply page = .ok out → InNormalForm out) := by
  constructor
  · intro out hout
    rw [Conversion.ok_of_apply hout]
    exact ⟨transcript_tidy.inNormalForm page, full_ends_of_trimmed (trimmed_transcript page)⟩
  · intro out hout
    rw [Conversion.ok_of_apply hout]
    exact film_tidy.inNormalForm page

/-- A page with blanks of several kinds, a long gap, and blank lines at both ends. -/
def loosePage : Text :=
  "<pre>\n  \n 7 int. straße \n\n\t\n　\nKYLE :   Hey. \n  \n</pre>"

/-- The gap of the page above shrinks to one line in both conversions; the blank lines at the ends
go from the transcript only. -/
theorem converted_in_normal_form_sample :
    transcript.apply loosePage = .ok "7 int. straße\n\nKYLE\nHey.".toList ∧
    InNormalForm "7 int. straße\n\nKYLE\nHey.".toList ∧
    HasFullEnds "7 int. straße\n\nKYLE\nHey.".toList ∧
    film.apply loosePage = .ok "\nINT. STRASSE\n\nKYLE :   Hey.\n".toList ∧
    InNormalForm "\nINT. STRASSE\n\nKYLE :   Hey.\n".toList := by
  have htranscript : transcript.apply loosePage =
      .ok "7 int. straße\n\nKYLE\nHey.".toList := by decide +kernel
  have hfilm : film.apply loosePage =
      .ok "\nINT. STRASSE\n\nKYLE :   Hey.\n".toList := by decide +kernel
  obtain ⟨hform, hends⟩ := (converted_in_normal_form loosePage).1 _ htranscript
  exact ⟨htranscript, hform, hends (by decide), hfilm,
    (converted_in_normal_form loosePage).2 _ hfilm⟩

end Gleaner.Screenplay
