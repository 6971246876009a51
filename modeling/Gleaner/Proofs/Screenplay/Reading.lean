import Gleaner.Proofs.Screenplay.TidyLines
import Gleaner.Screenplay.Element

/-!
# Reading a converted transcript

The conversion and the reader of elements classify lines independently of each other.  This file
relates them.

**Elements are read line by line.**  `elements_eq_classified`: every line that is not blank gives
one element, which hangs on the line and on what stands behind it.  Blank lines only separate,
because the reader looks past them for the next line that is not blank.

**Headings.**  A heading is written in upper case.  It is still a heading then (`isHeading_upper`)
and cannot be taken for a title, since it begins with a form of `i` or `e`
(`isTitleLine_of_isHeading`).

**Transitions.**  A transition is written behind the mark `> `, which neither hides the capitals
nor the word that names it (`namesTransition_marked`).  The reader asks for these before it looks
for the mark, so the mark stays in the text (`classify_marked`).
-/

namespace Gleaner.Screenplay

open Text

/-! ## Elements are read line by line -/

/-- The elements of lines that are not blank. -/
def classified : List Text → List Element
  | [] => []
  | l :: later => classify l later :: classified later

/-- Whether the next line is spoken hangs on the first line that is not blank, and not on the blanks
at its end. -/
lemma spokenNext_notBlank (later : List Text) :
    spokenNext ((notBlank later).map stripRight) = spokenNext later := by
  have hfind : ∀ ls : List Text, (∀ l ∈ ls, strip l ≠ []) →
      (ls.map stripRight).find? (fun l => !(strip l).isEmpty) = ls.head?.map stripRight := by
    intro ls hls
    cases ls with
    | nil => rfl
    | cons l ls =>
        have hl : strip l ≠ [] := hls l (by simp)
        simp [hl]
  have hhead : (notBlank later).head? = later.find? fun l => !(strip l).isEmpty :=
    List.head?_filter
  unfold spokenNext
  rw [hfind _ fun l hl => (mem_notBlank.1 hl).2, hhead]
  cases later.find? fun l => !(strip l).isEmpty with
  | none => rfl
  | some l => simp

lemma classify_congr {later later' : List Text} (line : Text)
    (h : spokenNext later = spokenNext later') : classify line later = classify line later' := by
  unfold classify
  rw [h]

/-- **One element for each line that is not blank, in order.** -/
lemma elementsOfLines_eq_classified (ls : List Text) :
    elementsOfLines ls = classified ((notBlank ls).map stripRight) := by
  induction ls with
  | nil => rfl
  | cons l ls ih =>
      by_cases hblank : strip l = []
      · simpa [elementsOfLines, notBlank, hblank] using ih
      · have hstep : notBlank (l :: ls) = l :: notBlank ls := by simp [notBlank, hblank]
        rw [hstep, List.map_cons, classified, ← ih,
          classify_congr (stripRight l) (spokenNext_notBlank ls)]
        simp [elementsOfLines, hblank]

lemma elements_eq_classified (t : Text) :
    elements t = classified ((notBlank (splitOn '\n' t)).map stripRight) :=
  elementsOfLines_eq_classified _

/-- An element is read off a line, whatever stands behind the line. -/
def ReadAs (line : Text) (e : Element) : Prop :=
  ∃ later, e = classify line later

lemma forall₂_readAs_classified : ∀ ls : List Text, List.Forall₂ ReadAs ls (classified ls)
  | [] => .nil
  | _ :: later => .cons ⟨later, rfl⟩ (forall₂_readAs_classified later)

/-- Where a line is read the same whatever stands behind it, its element is known. -/
lemma eq_of_forall₂_readAs {line : Text} {e : Element} {es : List Element}
    (h : ∀ later, classify line later = e) (hes : List.Forall₂ ReadAs [line] es) : es = [e] := by
  obtain ⟨_, _, ⟨later, rfl⟩, hnil, rfl⟩ := List.forall₂_cons_left_iff.1 hes
  obtain rfl := List.forall₂_nil_left_iff.1 hnil
  rw [h]

lemma exists_readAs_of_mem_classified {ls : List Text} {e : Element} (h : e ∈ classified ls) :
    ∃ l ∈ ls, ReadAs l e := by
  induction ls with
  | nil => simp [classified] at h
  | cons l later ih =>
      rcases List.mem_cons.1 h with rfl | h
      · exact ⟨l, by simp, later, rfl⟩
      · obtain ⟨m, hm, hread⟩ := ih h
        exact ⟨m, by simp [hm], hread⟩

/-- The elements of the lines that a rule gives come in groups, one for each line that the rule was
applied to. -/
lemma exists_groups (rule : Text → List Text) (ls : List Text) :
    ∃ groups, List.Forall₂ (fun l es => List.Forall₂ ReadAs (rule l) es) ls groups ∧
      classified (ls.flatMap rule) = groups.flatten := by
  have happend : ∀ a b : List Text, ∃ es, List.Forall₂ ReadAs a es ∧
      classified (a ++ b) = es ++ classified b := by
    intro a b
    induction a with
    | nil => exact ⟨[], .nil, rfl⟩
    | cons l a ih =>
        obtain ⟨es, hes, heq⟩ := ih
        exact ⟨classify l (a ++ b) :: es, .cons ⟨_, rfl⟩ hes, by simp [classified, heq]⟩
  induction ls with
  | nil => exact ⟨[], .nil, rfl⟩
  | cons l ls ih =>
      obtain ⟨groups, hgroups, heq⟩ := ih
      obtain ⟨es, hes, hcut⟩ := happend (rule l) (ls.flatMap rule)
      exact ⟨es :: groups, .cons hes hgroups, by simp [hcut, heq]⟩

/-! ## Lines that are trimmed -/

/-- **A trimmed line is never dialogue**: it has no indent. -/
lemma classify_not_dialogue {line : Text} (h : Trimmed line) (later : List Text) :
    (classify line later).kind ≠ .dialogue := by
  have hindent : ¬10 ≤ Text.indent line := by
    rw [h.indent_eq]
    omega
  unfold classify
  rw [if_neg hindent]
  split_ifs <;> simp

/-! ## Headings -/

/-- What a mark opens is a heading when a blank follows, with or without a point. -/
lemma isHeading_iff {t : Text} :
    isHeading t = true ↔ ∃ mark ∈ headingMarks, ∃ rest, afterFolded? mark t = some rest ∧
      endsMark rest = true := by
  simp only [isHeading, List.any_eq_true]
  constructor
  · rintro ⟨mark, hmark, h⟩
    cases hafter : afterFolded? mark t with
    | none => simp [hafter] at h
    | some rest => exact ⟨mark, hmark, rest, hafter, by simpa [hafter] using h⟩
  · rintro ⟨mark, hmark, rest, hafter, hends⟩
    exact ⟨mark, hmark, by simpa [hafter] using hends⟩

lemma endsMark_upper {t : Text} (h : endsMark t = true) : endsMark (upper t) = true := by
  have hblank : ∀ u : Text, (u.head?.map isBlank).getD false = true →
      ((upper u).head?.map isBlank).getD false = true := by
    intro u hu
    cases u with
    | nil => simp at hu
    | cons c u =>
        have hc : isBlank c = true := by simpa using hu
        simp [upperChar_of_isBlank hc, hc]
  cases t with
  | nil => simp [endsMark] at h
  | cons c t =>
      by_cases hpoint : c = '.'
      · subst hpoint
        have hdot : upperChar '.' = ['.'] := by decide
        simp only [endsMark, upper_cons, hdot, List.singleton_append, List.head?_cons,
          beq_self_eq_true, if_true, List.drop_succ_cons, List.drop_zero] at h ⊢
        exact hblank t h
      · have hc : isBlank c = true := by simpa [endsMark, hpoint] using h
        simp [endsMark, upperChar_of_isBlank hc, hpoint, hc]

/-- **A heading is a heading in upper case.** -/
lemma isHeading_upper {t : Text} (h : isHeading t = true) : isHeading (upper t) = true := by
  obtain ⟨mark, hmark, rest, hafter, hends⟩ := isHeading_iff.1 h
  have hascii : ∀ mark ∈ headingMarks, ∀ p ∈ mark, p.toNat < 128 := by simp [headingMarks]
  exact isHeading_iff.2 ⟨mark, hmark, upper rest, afterFolded?_upper (hascii mark hmark) hafter,
    endsMark_upper hends⟩

/-- A heading begins with a form of `i` or of `e`. -/
lemma exists_cons_of_isHeading {t : Text} (h : isHeading t = true) :
    ∃ c rest, t = c :: rest ∧ (sameLetter 'i' c = true ∨ sameLetter 'e' c = true) := by
  obtain ⟨mark, hmark, rest, hafter, -⟩ := isHeading_iff.1 h
  have hfirst : ∀ mark ∈ headingMarks, mark.head? = some 'i' ∨ mark.head? = some 'e' := by decide
  cases mark with
  | nil => simpa using hfirst [] hmark
  | cons p ps =>
      cases t with
      | nil => simp [afterFolded?] at hafter
      | cons c t =>
          simp only [afterFolded?] at hafter
          split_ifs at hafter with hc
          refine ⟨c, t, rfl, ?_⟩
          have hp := hfirst (p :: ps) hmark
          simp only [List.head?_cons, Option.some.injEq] at hp
          rcases hp with rfl | rfl
          · exact Or.inl hc
          · exact Or.inr hc

/-- **A heading is no title**: it begins with another letter. -/
lemma isTitleLine_of_isHeading {t : Text} (h : isHeading t = true) : isTitleLine t = false := by
  have hascii : ∀ c : Char, c.toLower = 'i' ∨ c.toLower = 'e' →
      ∃ d ds, lowerChar c = d :: ds ∧ d ≠ 't' ∧ c ≠ 'Σ' := by
    intro c hc
    have hlt : c.toNat < 128 :=
      toNat_lt_of_toLower (by rcases hc with hc | hc <;> rw [hc] <;> decide)
    refine ⟨c.toLower, [], by simp [lowerChar, hlt], ?_, ?_⟩
    · rcases hc with hc | hc <;> rw [hc] <;> decide
    · rintro rfl
      exact absurd hlt (by decide)
  -- besides the letters of ASCII, `i` has the dotless and the dotted form, and `e` has no other
  have hform : ∀ c, sameLetter 'i' c = true ∨ sameLetter 'e' c = true →
      ∃ d ds, lowerChar c = d :: ds ∧ d ≠ 't' ∧ c ≠ 'Σ' := by
    intro c hc
    simp only [sameLetter, Bool.or_eq_true, Bool.and_eq_true, beq_iff_eq] at hc
    rcases hc with (((hc | ⟨-, rfl | rfl⟩) | ⟨hs, -⟩) | ⟨hs, -⟩) |
      (((hc | ⟨hs, -⟩) | ⟨hs, -⟩) | ⟨hs, -⟩)
    · exact hascii c (Or.inl hc)
    · exact ⟨'ı', [], by decide, by decide, by decide⟩
    · exact ⟨'i', ['\u0307'], by decide, by decide, by decide⟩
    · exact absurd hs (by decide)
    · exact absurd hs (by decide)
    · exact hascii c (Or.inr hc)
    all_goals exact absurd hs (by decide)
  obtain ⟨c, rest, rfl, hc⟩ := exists_cons_of_isHeading h
  obtain ⟨d, ds, hlower, hd, hsigma⟩ := hform c hc
  have hfirst : Text.lower (c :: rest) = d :: (ds ++ lowerFrom [c] rest) := by
    simp [Text.lower, lowerFrom, hsigma, hlower]
  have htitle : "title:".toList = ['t', 'i', 't', 'l', 'e', ':'] := rfl
  simp [isTitleLine, hfirst, startsWith, htitle, List.isPrefixOf, Ne.symm hd]

/-- A heading in upper case is read as a heading with this text. -/
lemma classify_heading {t : Text} (h : isHeading t = true) (later : List Text) :
    classify (upper t) later = ⟨.sceneHeading, upper t⟩ := by
  have hupper := isHeading_upper h
  simp [classify, isTitleLine_of_isHeading hupper, hupper]

/-! ## Transitions -/

lemma contains_cons {t w : Text} (c : Char) (h : t.contains w = true) :
    Text.contains (c :: t) w = true := by
  simp only [Text.contains, indexOf?] at h ⊢
  split_ifs
  · rfl
  · simpa using h

lemma isCapitals_marked (t : Text) : isCapitals ('>' :: ' ' :: t) = isCapitals t := by
  have hmark : isUpperChar '>' = false ∧ isLowerChar '>' = false ∧ isTitleChar '>' = false := by
    decide
  have hblank : isUpperChar ' ' = false ∧ isLowerChar ' ' = false ∧ isTitleChar ' ' = false := by
    decide
  simp [isCapitals, hmark, hblank]

/-- The mark hides no transition. -/
lemma namesTransition_marked {t : Text} (h : namesTransition t = true) :
    namesTransition ('>' :: ' ' :: t) = true := by
  simp only [namesTransition, Bool.and_eq_true, List.any_eq_true] at h ⊢
  obtain ⟨hcapitals, w, hw, hcontains⟩ := h
  exact ⟨(isCapitals_marked t).trans hcapitals, w, hw,
    contains_cons '>' (contains_cons ' ' hcontains)⟩

lemma isHeading_marked (t : Text) : isHeading ('>' :: t) = false := rfl

lemma isTitleLine_marked (t : Text) : isTitleLine ('>' :: t) = false := rfl

/-- **The mark stays in the text of a transition.** -/
lemma classify_marked {t : Text} (h : namesTransition t = true) (later : List Text) :
    classify ('>' :: ' ' :: t) later = ⟨.transition, '>' :: ' ' :: t⟩ := by
  simp [classify, isTitleLine_marked, isHeading_marked, namesTransition_marked h]

/-- A line that comes out behind the mark names a transition: a heading begins with a letter, and
all other forms are no longer than the line. -/
lemma namesTransition_of_marked {l : Text} (h : transcriptLine l = ['>' :: ' ' :: strip l]) :
    namesTransition (strip l) = true := by
  rcases transcriptLine_cases l with ⟨hheading, hl⟩ | ⟨-, hl⟩ | ⟨-, left, right, hcut, -, hl⟩ |
    ⟨-, htransition, -⟩
  · rw [hl, List.cons.injEq] at h
    have hupper := isHeading_upper hheading
    rw [h.1, isHeading_marked] at hupper
    exact absurd hupper (by simp)
  · rw [hl, List.cons.injEq] at h
    have hlength := congrArg List.length h.1
    simp only [List.length_cons] at hlength
    omega
  · rw [hl, List.cons.injEq] at h
    have hlength := congrArg List.length h.1
    have hshort : (strip left).length ≤ left.length :=
      ((stripRight_isPrefix _).length_le).trans (stripLeft_suffix left).length_le
    have hparts := congrArg List.length (append_of_cut? hcut)
    simp only [List.length_append, List.length_cons] at hparts hlength
    omega
  · exact htransition

/-! ## Converted transcripts -/

/-- Every full line of a converted transcript is tidy; a page without a preformatted part gives no
lines at all. -/
lemma tidyLine_of_mem_transcript {page l : Text}
    (hl : l ∈ full (splitOn '\n' (transcript.text page))) : TidyLine l := by
  cases hpart : transcript.part? page with
  | none => simp [Conversion.text, hpart, full] at hl
  | some part => exact transcript_tidy.tidyLine_of_mem_text hpart hl

/-- The lines of a converted transcript that are not blank are its full lines, and they end without
blanks. -/
lemma notBlank_transcript (page : Text) :
    (notBlank (splitOn '\n' (transcript.text page))).map stripRight
      = full (splitOn '\n' (transcript.text page)) := by
  have hsame : notBlank (splitOn '\n' (transcript.text page))
      = full (splitOn '\n' (transcript.text page)) := by
    apply List.filter_congr
    intro l hl
    by_cases hempty : l = []
    · simp [hempty, strip, stripLeft, stripRight]
    · have hfull : l ∈ full (splitOn '\n' (transcript.text page)) := by simp [full, hl, hempty]
      simp [(tidyLine_of_mem_transcript hfull).trimmed.strip_eq]
  rw [hsame, List.map_congr_left fun l hl => (tidyLine_of_mem_transcript hl).trimmed.stripRight_eq,
    List.map_id']

lemma elements_transcript (page : Text) :
    elements (transcript.text page) = classified (full (splitOn '\n' (transcript.text page))) := by
  rw [elements_eq_classified, notBlank_transcript]

/-- The elements of a converted transcript come in groups, one for each line that is not blank. -/
lemma exists_groups_transcript {page part : Text} (hpre : preformatted? page = some part) :
    ∃ groups, List.Forall₂ (fun l es => List.Forall₂ ReadAs (transcriptLine l) es)
        (notBlank (transcript.bodyLines part)) groups ∧
      elements (transcript.text page) = groups.flatten := by
  have hpart : transcript.part? page = some part := by simp [Conversion.part?, hpre]
  rw [elements_transcript, transcript_tidy.full_text hpart]
  exact exists_groups transcriptLine _

/-- **A converted transcript is read line by line.**

* Every full line gives one element, in order.
* The lines that are written for one line of the page give a group of elements; what is written as a
  heading is read as a heading with just this text.
* No element is dialogue.
-/
theorem elements_of_converted_transcript (page out : Text)
    (hout : transcript.apply page = .ok out) :
    List.Forall₂ ReadAs (full (splitOn '\n' out)) (elements out) ∧
    (∀ part, preformatted? page = some part →
      ∃ groups, List.Forall₂ (fun l es => List.Forall₂ ReadAs (transcriptLine l) es ∧
          (isHeading (strip l) = true → es = [⟨.sceneHeading, upper (strip l)⟩]))
          (notBlank (transcript.bodyLines part)) groups ∧
        elements out = groups.flatten) ∧
    ∀ e ∈ elements out, e.kind ≠ .dialogue := by
  obtain rfl := Conversion.ok_of_apply hout
  refine ⟨?_, fun part hpre => ?_, fun e he => ?_⟩
  · rw [elements_transcript]
    exact forall₂_readAs_classified _
  · obtain ⟨groups, hgroups, heq⟩ := exists_groups_transcript hpre
    refine ⟨groups, hgroups.imp fun l es hes => ⟨hes, fun hheading => ?_⟩, heq⟩
    have hline : transcriptLine l = [upper (strip l)] := by simp [transcriptLine, hheading]
    rw [hline] at hes
    exact eq_of_forall₂_readAs (classify_heading hheading) hes
  · rw [elements_transcript] at he
    obtain ⟨l, hl, later, rfl⟩ := exists_readAs_of_mem_classified he
    exact classify_not_dialogue (tidyLine_of_mem_transcript hl).trimmed later

/-- A heading behind a dotted capital, a speaker and a speech, read back. -/
theorem elements_of_converted_transcript_sample :
    transcript.apply "<pre>\nİnt. hall\n   KYLE: Hey.</pre>".toList
        = .ok "İNT. HALL\nKYLE\nHey.".toList ∧
      List.Forall₂ ReadAs (full (splitOn '\n' "İNT. HALL\nKYLE\nHey.".toList))
        (elements "İNT. HALL\nKYLE\nHey.".toList) ∧
      (∃ groups, List.Forall₂ (fun l es => List.Forall₂ ReadAs (transcriptLine l) es ∧
          (isHeading (strip l) = true → es = [⟨.sceneHeading, upper (strip l)⟩]))
          (notBlank (transcript.bodyLines "<pre>\nİnt. hall\n   KYLE: Hey.".toList)) groups ∧
        elements "İNT. HALL\nKYLE\nHey.".toList = groups.flatten) ∧
      ∀ e ∈ elements "İNT. HALL\nKYLE\nHey.".toList, e.kind ≠ .dialogue := by
  have hout : transcript.apply "<pre>\nİnt. hall\n   KYLE: Hey.</pre>".toList
      = .ok "İNT. HALL\nKYLE\nHey.".toList := by decide
  have hpre : preformatted? "<pre>\nİnt. hall\n   KYLE: Hey.</pre>".toList
      = some "<pre>\nİnt. hall\n   KYLE: Hey.".toList := by decide
  obtain ⟨hlines, hgroups, hkinds⟩ := elements_of_converted_transcript _ _ hout
  exact ⟨hout, hlines, hgroups _ hpre, hkinds⟩

/-- **A transition is read with its mark.**  What is written behind the mark `> ` is read as a
transition, but its text is the whole line and never the line without the mark. -/
theorem transitions_keep_mark (page part out : Text) (hpre : preformatted? page = some part)
    (hout : transcript.apply page = .ok out) :
    ∃ groups, List.Forall₂ (fun l es => List.Forall₂ ReadAs (transcriptLine l) es ∧
        (transcriptLine l = ['>' :: ' ' :: strip l] →
          es = [⟨.transition, '>' :: ' ' :: strip l⟩] ∧ es ≠ [⟨.transition, strip l⟩]))
        (notBlank (transcript.bodyLines part)) groups ∧
      elements out = groups.flatten := by
  obtain rfl := Conversion.ok_of_apply hout
  obtain ⟨groups, hgroups, heq⟩ := exists_groups_transcript hpre
  refine ⟨groups, hgroups.imp fun l es hes => ⟨hes, fun hmarked => ?_⟩, heq⟩
  rw [hmarked] at hes
  obtain rfl := eq_of_forall₂_readAs (classify_marked (namesTransition_of_marked hmarked)) hes
  refine ⟨rfl, fun hsame => ?_⟩
  have htext : '>' :: ' ' :: strip l = strip l := by simpa using hsame
  have hlength := congrArg List.length htext
  simp only [List.length_cons] at hlength
  omega

/-- A page whose only line is a transition. -/
theorem transitions_keep_mark_sample :
    transcript.apply "<pre>FADE OUT</pre>".toList = .ok "> FADE OUT".toList ∧
      ∃ groups, List.Forall₂ (fun l es => List.Forall₂ ReadAs (transcriptLine l) es ∧
          (transcriptLine l = ['>' :: ' ' :: strip l] →
            es = [⟨.transition, '>' :: ' ' :: strip l⟩] ∧ es ≠ [⟨.transition, strip l⟩]))
          (notBlank (transcript.bodyLines "<pre>FADE OUT".toList)) groups ∧
        elements "> FADE OUT".toList = groups.flatten :=
  have hout : transcript.apply "<pre>FADE OUT</pre>".toList = .ok "> FADE OUT".toList := by decide
  ⟨hout, transitions_keep_mark _ _ _ (by decide) hout⟩

/-- The transition `FADE OUT` is not read back as `FADE OUT`. -/
theorem elements_fade_out :
    transcriptLine "FADE OUT".toList = ["> FADE OUT".toList] ∧
      transcript.apply "<pre>FADE OUT</pre>".toList = .ok "> FADE OUT".toList ∧
      elements "> FADE OUT".toList = [⟨.transition, "> FADE OUT".toList⟩] ∧
      elements "> FADE OUT".toList ≠ [⟨.transition, "FADE OUT".toList⟩] := by
  decide

end Gleaner.Screenplay
