import Gleaner.Proofs.Text.CaseMap
import Gleaner.Proofs.Text.Parts
import Gleaner.Screenplay.Conversion

/-!
# The lines of a converted text

What a conversion writes, seen line by line.

**Collapsing.**  Three newlines or more become two.  In terms of lines, empty lines go and nothing
else does: `splitOn_collapse_thinned`.

**Tidy conversions.**  A conversion is tidy when the rule for a line that is not blank gives lines
that are not empty, trimmed, and without a newline.  For such a conversion the collapse and the
final stripping only take empty lines away (`Conversion.Tidy.text_thinned`), so the full lines of
the text are the images of the lines that are not blank, in order (`Conversion.Tidy.full_text`).

**The two rules.**  `transcriptLine_cases` and `filmLine_cases` say once what each rule can do with
a line; that both conversions are tidy follows from them.
-/

namespace Gleaner.Text

/-- The lines that are not blank. -/
def notBlank (ls : List Text) : List Text :=
  ls.filter fun l => !(strip l).isEmpty

lemma mem_notBlank {l : Text} {ls : List Text} : l ∈ notBlank ls ↔ l ∈ ls ∧ strip l ≠ [] := by
  simp [notBlank]

/-- The parts around the first separator make up the text. -/
lemma append_of_cut? {sep : Char} : ∀ {t a b : Text}, cut? sep t = some (a, b) → t = a ++ sep :: b
  | [], a, b, h => by simp [cut?] at h
  | c :: t, a, b, h => by
      simp only [cut?] at h
      split_ifs at h with hc
      · simp only [Option.some.injEq, Prod.mk.injEq] at h
        obtain ⟨rfl, rfl⟩ := h
        simp [hc]
      · obtain ⟨⟨a', b'⟩, hcut, hab⟩ := Option.map_eq_some_iff.1 h
        simp only [Prod.mk.injEq] at hab
        obtain ⟨rfl, rfl⟩ := hab
        simp [append_of_cut? hcut]

lemma ne_nil_of_isCapitals {t : Text} (h : isCapitals t = true) : t ≠ [] := by
  rintro rfl
  simp [isCapitals] at h

/-- No line of a text holds a newline. -/
lemma newline_not_mem_lines {t l : Text} (h : l ∈ lines t) : '\n' ∉ l := by
  have hfrom : ∀ (t line : Text) (b : Bool), '\n' ∉ line → ∀ l ∈ linesFrom line b t, '\n' ∉ l := by
    intro t
    induction t with
    | nil =>
        intro line b hline l hl
        simp only [linesFrom] at hl
        split_ifs at hl
        · simp at hl
        · simp only [List.mem_singleton] at hl
          simpa [hl] using hline
    | cons c t ih =>
        intro line b hline l hl
        simp only [linesFrom] at hl
        split_ifs at hl with hreturn hend
        · exact ih [] false (by simp) l hl
        · rcases List.mem_cons.1 hl with rfl | hl
          · simpa using hline
          · exact ih [] _ (by simp) l hl
        · have hc : '\n' ≠ c := by
            rintro rfl
            exact hend rfl
          exact ih (c :: line) false (by simp [hc, hline]) l hl
  exact hfrom t [] false (by simp) l h

end Gleaner.Text

namespace Gleaner.Screenplay

open Text

/-! ## Collapsing -/

lemma collapse_cons_of_not {c : Char} {t : Text}
    (h : ¬ (c = '\n' ∧ 2 ≤ (t.takeWhile (· == '\n')).length)) :
    collapseBlankLines (c :: t) = c :: collapseBlankLines t :=
  substitute_cons_of_none (if_neg h)

lemma collapse_run {t : Text} (h : 2 ≤ (t.takeWhile (· == '\n')).length) :
    collapseBlankLines ('\n' :: t)
      = '\n' :: '\n' :: collapseBlankLines (t.drop (t.takeWhile (· == '\n')).length) := by
  unfold collapseBlankLines
  rw [substitute_cons_of_some (if_pos ⟨rfl, h⟩)]
  rfl

lemma splitOn_replicate_append (n : Nat) (t : Text) :
    splitOn '\n' (List.replicate n '\n' ++ t) = List.replicate n [] ++ splitOn '\n' t := by
  induction n with
  | zero => rfl
  | succ n ih => simp [List.replicate_succ, ih]

/-- What stands behind the newlines at the front. -/
lemma drop_run (t : Text) :
    t.drop (t.takeWhile (· == '\n')).length = t.dropWhile (· == '\n') := by
  have hdrop : (t.takeWhile (· == '\n') ++ t.dropWhile (· == '\n')).drop
      (t.takeWhile (· == '\n')).length = t.dropWhile (· == '\n') := List.drop_left
  rwa [List.takeWhile_append_dropWhile] at hdrop

/-- The newlines at the front and what stands behind them. -/
lemma eq_replicate_append_drop (t : Text) :
    t = List.replicate (t.takeWhile (· == '\n')).length '\n'
      ++ t.drop (t.takeWhile (· == '\n')).length := by
  have hrun : t.takeWhile (· == '\n') = List.replicate (t.takeWhile (· == '\n')).length '\n' := by
    rw [List.eq_replicate_iff]
    exact ⟨rfl, fun c hc => by simpa using List.mem_takeWhile_imp hc⟩
  rw [← hrun, drop_run, List.takeWhile_append_dropWhile]

/-- **The collapse takes empty lines away and nothing else.**  By induction along its walk. -/
lemma splitOn_collapse_thinned (t : Text) :
    HeadThinned (splitOn '\n' (collapseBlankLines t)) (splitOn '\n' t) := by
  refine substitute_induction (motive := fun t s => HeadThinned (splitOn '\n' s) (splitOn '\n' t))
    ((Thinned.refl []).head []) (fun c rest _ ih => ih.splitOn_cons c) ?_ t
  intro c rest more put htaken ih
  simp only [Option.ite_none_right_eq_some, Option.some.injEq, Prod.mk.injEq] at htaken
  obtain ⟨⟨rfl, hmore⟩, hlength, rfl⟩ := htaken
  have hrest := eq_replicate_append_drop rest
  rw [hlength] at hmore hrest
  -- of `more` empty lines behind the first one stays
  obtain ⟨m, rfl⟩ : ∃ m, more = m + 1 := ⟨more - 1, by omega⟩
  conv_rhs => rw [hrest]
  rw [List.cons_append, List.singleton_append, splitOn_cons_sep, splitOn_cons_sep,
    splitOn_cons_sep, splitOn_replicate_append, List.replicate_succ, List.cons_append]
  exact ((ih.thinned.replicate_append m).keep []).head []

/-! ## Tidy conversions -/

/-- A line as a converted text holds it. -/
structure TidyLine (l : Text) : Prop where
  ne_nil : l ≠ []
  trimmed : Trimmed l
  one_line : '\n' ∉ l

namespace Conversion

/-- The lines that a conversion writes for a part of a page, before empty ones are taken away. -/
def emitted (r : Conversion) (part : Text) : List Text :=
  (r.bodyLines part).flatMap r.convertLine

/-- The rule of the conversion gives tidy lines, and taking the text apart leaves no newline. -/
structure Tidy (r : Conversion) : Prop where
  lines : ∀ ls, (∀ l ∈ ls, '\n' ∉ l) → ∀ l ∈ r.lines ls, '\n' ∉ l
  line : ∀ l, '\n' ∉ l → strip l ≠ [] → ∀ e ∈ r.line l, TidyLine e

variable {r : Conversion} {page part : Text}

lemma text_of_none (hpart : r.part? page = none) : r.text page = [] := by
  rw [text, hpart]

lemma text_eq (hpart : r.part? page = some part) :
    r.text page = if r.trimmed then strip (collapseBlankLines (join ['\n'] (r.emitted part)))
      else collapseBlankLines (join ['\n'] (r.emitted part)) := by
  simp only [text, hpart, emitted]

lemma ok_of_apply {out : Text} (h : r.apply page = .ok out) : out = r.text page := by
  unfold apply at h
  split at h
  · simp at h
  · simpa using h.symm

namespace Tidy

lemma newline_not_mem_body (hr : r.Tidy) {l : Text} (hl : l ∈ r.bodyLines part) : '\n' ∉ l := by
  refine hr.lines _ (fun m hm => ?_) l hl
  have hsub : m ∈ splitOn '\n' (plain part) := by
    unfold dropHeader at hm
    split at hm
    · split_ifs at hm
      · exact List.mem_of_mem_drop hm
      · exact hm
    · exact hm
  exact not_mem_of_mem_splitOn hsub

/-- A line that is written is empty or tidy. -/
lemma emitted_cases (hr : r.Tidy) {e : Text} (he : e ∈ r.emitted part) : e = [] ∨ TidyLine e := by
  obtain ⟨l, hl, he⟩ := List.mem_flatMap.1 he
  unfold convertLine at he
  split_ifs at he with hblank
  · exact Or.inl (by simpa using he)
  · exact Or.inr (hr.line l (hr.newline_not_mem_body hl) (by simpa using hblank) e he)

lemma trimmed_emitted (hr : r.Tidy) {e : Text} (he : e ∈ r.emitted part) : Trimmed e := by
  rcases hr.emitted_cases he with rfl | he
  · exact trimmed_nil
  · exact he.trimmed

lemma newline_not_mem_emitted (hr : r.Tidy) {e : Text} (he : e ∈ r.emitted part) : '\n' ∉ e := by
  rcases hr.emitted_cases he with rfl | he
  · simp
  · exact he.one_line

/-- The lines that are written are read back; where there are none, one empty line is. -/
lemma splitOn_join_emitted (hr : r.Tidy) (part : Text) :
    splitOn '\n' (join ['\n'] (r.emitted part)) = r.emitted part ∨
      (r.emitted part = [] ∧ splitOn '\n' (join ['\n'] (r.emitted part)) = [[]]) := by
  by_cases hne : r.emitted part = []
  · exact Or.inr ⟨hne, by simp [hne, join]⟩
  · exact Or.inl (splitOn_join hne fun e he => hr.newline_not_mem_emitted he)

/-- **The collapse and the final stripping take empty lines away and nothing else.** -/
lemma text_thinned (hr : r.Tidy) (hpart : r.part? page = some part) :
    Thinned (splitOn '\n' (r.text page)) (splitOn '\n' (join ['\n'] (r.emitted part))) := by
  have hcollapse := (splitOn_collapse_thinned (join ['\n'] (r.emitted part))).thinned
  rw [text_eq hpart]
  split_ifs
  · refine (splitOn_strip_thinned fun l hl => ?_).trans hcollapse
    have hmem := hcollapse.sublist.subset hl
    rcases hr.splitOn_join_emitted part with h | ⟨-, h⟩
    · rw [h] at hmem
      exact hr.trimmed_emitted hmem
    · rw [h, List.mem_singleton] at hmem
      exact hmem ▸ trimmed_nil
  · exact hcollapse

lemma full_emitted (hr : r.Tidy) :
    full (r.emitted part) = (notBlank (r.bodyLines part)).flatMap r.line := by
  have hbody : ∀ ls : List Text, (∀ l ∈ ls, '\n' ∉ l) →
      full (ls.flatMap r.convertLine) = (notBlank ls).flatMap r.line := by
    intro ls
    induction ls with
    | nil => intro _; rfl
    | cons l ls ih =>
        intro h
        have hrest := ih fun m hm => h m (by simp [hm])
        simp only [full, notBlank] at hrest ⊢
        rw [List.flatMap_cons, List.filter_append, hrest, List.filter_cons]
        by_cases hblank : strip l = []
        · simp [convertLine, hblank]
        · have hfull : (r.line l).filter (fun e => !e.isEmpty) = r.line l := by
            rw [List.filter_eq_self]
            intro e he
            have hne := (hr.line l (h l (by simp)) hblank e he).ne_nil
            simpa using hne
          simp [convertLine, hblank, hfull]
  exact hbody _ fun l hl => hr.newline_not_mem_body hl

/-- **The full lines of a converted text are the images of the lines that are not blank**, in
order. -/
lemma full_text (hr : r.Tidy) (hpart : r.part? page = some part) :
    full (splitOn '\n' (r.text page)) = (notBlank (r.bodyLines part)).flatMap r.line := by
  rw [(hr.text_thinned hpart).full_eq, ← hr.full_emitted]
  rcases hr.splitOn_join_emitted part with h | ⟨hnil, h⟩
  · rw [h]
  · rw [h, hnil]
    rfl

/-- Every full line of a converted text is tidy. -/
lemma tidyLine_of_mem_text (hr : r.Tidy) (hpart : r.part? page = some part) {l : Text}
    (hl : l ∈ full (splitOn '\n' (r.text page))) : TidyLine l := by
  rw [hr.full_text hpart] at hl
  obtain ⟨m, hm, hl⟩ := List.mem_flatMap.1 hl
  obtain ⟨hm, hblank⟩ := mem_notBlank.1 hm
  exact hr.line m (hr.newline_not_mem_body hm) hblank l hl

end Tidy

end Conversion

/-! ## The two rules -/

lemma tidyLine_strip {l : Text} (hline : '\n' ∉ l) (hblank : strip l ≠ []) : TidyLine (strip l) :=
  ⟨hblank, trimmed_strip l, fun h => hline (mem_of_mem_strip h)⟩

lemma TidyLine.upper {l : Text} (h : TidyLine l) : TidyLine (upper l) :=
  ⟨by simpa using h.ne_nil, h.trimmed.upper, newline_not_mem_upper h.one_line⟩

/-- A transition mark in front of a tidy line leaves it tidy. -/
lemma TidyLine.marked {l : Text} (h : TidyLine l) : TidyLine ('>' :: ' ' :: l) := by
  refine ⟨by simp, ⟨fun c hc => ?_, fun c hc => h.trimmed.last c ?_⟩, ?_⟩
  · obtain rfl : '>' = c := by simpa using hc
    rfl
  · have hlast := List.getLast?_append_of_ne_nil ['>', ' '] h.ne_nil
    exact hlast ▸ hc
  · simp [h.one_line]

/-- **What the rule for transcripts can do with a line.** -/
lemma transcriptLine_cases (l : Text) :
    (isHeading (strip l) = true ∧ transcriptLine l = [upper (strip l)]) ∨
    (isHeading (strip l) = false ∧ transcriptLine l = [strip l]) ∨
    (isHeading (strip l) = false ∧ ∃ left right, cut? ':' (strip l) = some (left, right) ∧
      isSpeaker (strip left) = true ∧
      transcriptLine l = strip left :: if (strip right).isEmpty then [] else [strip right]) ∨
    (isHeading (strip l) = false ∧ namesTransition (strip l) = true ∧
      transcriptLine l = ['>' :: ' ' :: strip l]) := by
  unfold transcriptLine
  simp only
  by_cases hheading : isHeading (strip l) = true
  · exact Or.inl ⟨hheading, by rw [if_pos hheading]⟩
  · rw [if_neg hheading]
    rw [Bool.not_eq_true] at hheading
    split_ifs with hspeaker htransition
    · exact Or.inr (Or.inl ⟨hheading, rfl⟩)
    all_goals
      cases hspeech : speech? (strip l) with
      | some ls =>
          -- a speech is only found behind a colon and a speaker
          unfold speech? at hspeech
          split at hspeech
          · rename_i left right hcut
            simp only [Option.ite_none_right_eq_some, Option.some.injEq] at hspeech
            obtain ⟨hspeaks, rfl⟩ := hspeech
            refine Or.inr (Or.inr (Or.inl ⟨hheading, left, right, hcut, hspeaks, ?_⟩))
            split_ifs <;> rfl
          · simp at hspeech
      | none => simp [hheading, htransition]

/-- What the rule for films can do with a line. -/
lemma filmLine_cases (l : Text) :
    (isNumberedHeading (strip l) = true ∧ filmLine l = [upper (dropNumber (strip l))]) ∨
    (leadsOver (strip l) = true ∧ filmLine l = ['>' :: ' ' :: strip l]) ∨
    filmLine l = [strip l] := by
  unfold filmLine
  simp only
  split_ifs with hheading hleads
  · exact Or.inl ⟨hheading, rfl⟩
  · exact Or.inr (Or.inl ⟨hleads, rfl⟩)
  · exact Or.inr (Or.inr rfl)

lemma ne_nil_of_isSpeaker {t : Text} (h : isSpeaker t = true) : t ≠ [] := by
  simp only [isSpeaker, Bool.and_eq_true] at h
  exact ne_nil_of_isCapitals h.1

/-- **The conversion of transcripts is tidy.** -/
lemma transcript_tidy : transcript.Tidy where
  lines := fun _ hls l hl => hls l hl
  line := by
    intro l hline hblank e he
    have htidy := tidyLine_strip hline hblank
    have hcases := transcriptLine_cases l
    change e ∈ transcriptLine l at he
    rcases hcases with ⟨-, h⟩ | ⟨-, h⟩ | ⟨-, left, right, hcut, hspeaks, h⟩ | ⟨-, -, h⟩
    · rw [h, List.mem_singleton] at he
      exact he ▸ htidy.upper
    · rw [h, List.mem_singleton] at he
      exact he ▸ htidy
    · have hparts := append_of_cut? hcut
      have hleft : '\n' ∉ left := fun hn => htidy.one_line (by simp [hparts, hn])
      have hright : '\n' ∉ right := fun hn => htidy.one_line (by simp [hparts, hn])
      rw [h] at he
      rcases List.mem_cons.1 he with rfl | he
      · exact tidyLine_strip hleft (ne_nil_of_isSpeaker hspeaks)
      · split_ifs at he with hwords
        · simp at he
        · rw [List.mem_singleton] at he
          exact he ▸ tidyLine_strip hright (by simpa using hwords)
    · rw [h, List.mem_singleton] at he
      exact he ▸ htidy.marked

/-- A tidy line without its scene number is tidy: the number and the blanks behind it do not make up
the whole line, since the line does not end with a blank. -/
lemma TidyLine.dropNumber {l : Text} (h : TidyLine l) : TidyLine (dropNumber l) := by
  unfold Screenplay.dropNumber
  cases hnumber : afterNumber? l with
  | none => simpa using h
  | some u =>
      unfold afterNumber? at hnumber
      simp only [Option.ite_none_left_eq_some, Bool.or_eq_true, not_or, Option.some.injEq,
        Bool.not_eq_true', Bool.not_eq_false] at hnumber
      obtain ⟨⟨-, hhead⟩, rfl⟩ := hnumber
      set rest := l.drop (l.takeWhile isDecimal).length with hrest
      have hne : rest ≠ [] := by
        intro hnil
        simp [hnil] at hhead
      obtain ⟨front, hfront⟩ : rest <:+ l := List.drop_suffix _ l
      have hlast : ∀ c ∈ rest.getLast?, isBlank c = false := by
        intro c hc
        apply h.trimmed.last c
        rwa [← hfront, List.getLast?_append_of_ne_nil _ hne]
      have hstrip : stripLeft rest ≠ [] := by
        intro hnil
        have hall := List.dropWhile_eq_nil_iff.1 hnil (rest.getLast hne) (List.getLast_mem hne)
        rw [hlast _ (by simp [List.getLast?_eq_some_getLast hne])] at hall
        exact absurd hall (by simp)
      obtain ⟨blanks, hblanks⟩ := stripLeft_suffix rest
      simp only [Option.getD_some]
      refine ⟨hstrip, ⟨head?_stripLeft, fun c hc => hlast c ?_⟩, fun hn => h.one_line ?_⟩
      · rwa [← hblanks, List.getLast?_append_of_ne_nil _ hstrip]
      · rw [← hfront, ← hblanks]
        simp [hn]

/-- **The conversion of films is tidy.** -/
lemma film_tidy : film.Tidy where
  lines := fun _ _ _ hl => newline_not_mem_lines hl
  line := by
    intro l hline hblank e he
    have htidy := tidyLine_strip hline hblank
    have hcases := filmLine_cases l
    change e ∈ filmLine l at he
    rcases hcases with ⟨-, h⟩ | ⟨-, h⟩ | h
    · rw [h, List.mem_singleton] at he
      exact he ▸ htidy.dropNumber.upper
    · rw [h, List.mem_singleton] at he
      exact he ▸ htidy.marked
    · rw [h, List.mem_singleton] at he
      exact he ▸ htidy

end Gleaner.Screenplay
