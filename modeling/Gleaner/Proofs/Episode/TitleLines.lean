import Gleaner.Episode.Printing
import Gleaner.Proofs.Text.CaseMap

/-!
# Title lines on the printed page

The title in the header of a page is taken from a line of the transcript, and this line should not
stand in the body of the page again; all other lines should.  Whether they do hangs on the title
lines alone (`shown_once_iff`).

**Two readers.**  A title line is looked for twice.  For the header a line may be indented, for the
body it may not: `isTitleLine_stripRight`.

**The body.**  Each line has a block of its own or none, and the blocks stand in the order of the
lines (`filterMap_block?`).  A line has none if it is blank or names a title without an indent
(`isSome_lineBlock?_iff`).

**The header.**  `titleSource?` is the line that the title comes from (`shownTitle_eq`).
-/

namespace Gleaner.Text

/-! ## Blanks -/

/-- A blank is its own lowercase form. -/
lemma lowerChar_of_isBlank {c : Char} (h : isBlank c = true) : lowerChar c = [c] :=
  of_isBlank (P := fun c => lowerChar c = [c]) (by decide +kernel) h

lemma stripRight_cons {c : Char} {t : Text} (h : isBlank c = true → stripRight t ≠ []) :
    stripRight (c :: t) = c :: stripRight t := by
  rw [stripRight]
  cases ht : stripRight t with
  | nil => rw [if_neg fun hc => h hc ht]
  | cons d ds => rfl

end Gleaner.Text

namespace Gleaner.Screenplay

open Text

/-! ## Two readers -/

/-- No title begins with a blank. -/
lemma isTitleLine_blank_cons {c : Char} (hc : isBlank c = true) (t : Text) :
    isTitleLine (c :: t) = false := by
  have hsigma : c ≠ 'Σ' := by
    rintro rfl
    exact absurd hc (by decide)
  have ht : c ≠ 't' := by
    rintro rfl
    exact absurd hc (by decide)
  have hlower : Text.lower (c :: t) = c :: lowerFrom [c] t := by
    simp [Text.lower, lowerFrom, hsigma, lowerChar_of_isBlank hc]
  have htitle : "title:".toList = ['t', 'i', 't', 'l', 'e', ':'] := rfl
  simp [isTitleLine, hlower, startsWith, htitle, List.isPrefixOf, Ne.symm ht]

/-- **For the body a title line may not be indented.** -/
lemma isTitleLine_stripRight (l : Text) :
    isTitleLine (stripRight l) = true ↔ isTitleLine (strip l) = true ∧ indent l = 0 := by
  cases l with
  | nil => decide
  | cons c t =>
      by_cases hc : isBlank c = true
      · have hfront : isTitleLine (stripRight (c :: t)) = false := by
          rw [stripRight]
          cases stripRight t with
          | nil => rw [if_pos hc]; rfl
          | cons d ds => exact isTitleLine_blank_cons hc _
        simp [hfront, indent, hc]
      · have hstrip : strip (c :: t) = stripRight (c :: t) := by
          simp [strip, stripLeft, hc]
        simp [hstrip, indent, hc]

lemma strip_ne_nil_of_isTitleLine {l : Text} (h : isTitleLine (strip l) = true) :
    strip l ≠ [] := by
  intro hnil
  rw [hnil] at h
  exact absurd h (by decide)

lemma kind_classify_eq_title_iff (line : Text) (later : List Text) :
    (classify line later).kind = .title ↔ isTitleLine line = true := by
  unfold classify
  split_ifs <;> simp_all

/-! ## The body -/

/-- The block of the line at a position, if it has one. -/
def lineBlock? (ls : List Text) (i : Nat) : Option Text :=
  match ls.drop i with
  | [] => none
  | l :: later => if (strip l).isEmpty then none else block? (classify (stripRight l) later)

/-- **The blocks stand in the order of their lines.** -/
lemma filterMap_block? (ls : List Text) :
    (elementsOfLines ls).filterMap block? = (List.range ls.length).filterMap (lineBlock? ls) := by
  induction ls with
  | nil => rfl
  | cons l ls ih =>
      have hlater : (lineBlock? (l :: ls) ∘ Nat.succ) = lineBlock? ls := rfl
      rw [List.length_cons, List.range_succ_eq_map, List.filterMap_cons, List.filterMap_map, hlater,
        ← ih, elementsOfLines, lineBlock?]
      simp only [List.drop_zero, strip_stripRight]
      by_cases hblank : (strip l).isEmpty = true
      · rw [if_pos hblank, if_pos hblank]
      · rw [if_neg hblank, if_neg hblank, List.filterMap_cons]

/-- **A line has no block if it is blank or names a title without an indent.** -/
lemma isSome_lineBlock?_iff {ls : List Text} {i : Nat} {l : Text} (h : ls[i]? = some l) :
    (lineBlock? ls i).isSome = true ↔
      strip l ≠ [] ∧ ¬(isTitleLine (strip l) = true ∧ indent l = 0) := by
  obtain ⟨hi, rfl⟩ := List.getElem?_eq_some_iff.1 h
  rw [lineBlock?, List.drop_eq_getElem_cons hi, ← isTitleLine_stripRight,
    ← kind_classify_eq_title_iff _ (ls.drop (i + 1))]
  dsimp only
  generalize classify (stripRight ls[i]) (ls.drop (i + 1)) = e
  by_cases hblank : strip ls[i] = []
  · simp [hblank]
  · rw [if_neg (by simpa using hblank), block?]
    cases e.kind <;> simp [hblank, blockName?]

/-! ## Titles -/

lemma cut?_stripRight : ∀ t : Text,
    (cut? ':' (stripRight t)).map (fun parts => strip parts.2) =
      (cut? ':' t).map fun parts => strip parts.2
  | [] => rfl
  | c :: t => by
      have ih := cut?_stripRight t
      by_cases hc : c = ':'
      · subst hc
        rw [stripRight_cons fun h => absurd h (by decide)]
        simp [cut?]
      · by_cases hblank : isBlank c = true → stripRight t ≠ []
        · rw [stripRight_cons hblank]
          simpa [cut?, hc, Function.comp_def] using ih
        · -- nothing but blanks is left, so there is no colon
          rw [Classical.not_imp, not_not] at hblank
          rw [hblank.2] at ih
          rw [stripRight, hblank.2]
          simpa [cut?, hc, hblank.1] using ih

/-- Blanks at the end of a line do not matter for what stands behind its colon. -/
lemma afterColon_stripRight (l : Text) : afterColon (stripRight l) = afterColon l := by
  have hcolon : ∀ t, afterColon t = ((cut? ':' t).map fun parts => strip parts.2).getD [] := by
    intro t
    rw [afterColon]
    cases cut? ':' t <;> rfl
  rw [hcolon, hcolon, cut?_stripRight]

/-- The title that the elements name is that of the first title line without an indent. -/
lemma namedTitle_elementsOfLines (ls : List Text) : namedTitle (elementsOfLines ls) =
    ((ls.find? fun l => isTitleLine (stripRight l)).map afterColon).getD [] := by
  induction ls with
  | nil => rfl
  | cons l ls ih =>
      rw [elementsOfLines]
      by_cases htitle : isTitleLine (stripRight l) = true
      · have hfull : strip l ≠ [] :=
          strip_ne_nil_of_isTitleLine ((isTitleLine_stripRight l).1 htitle).1
        simp [namedTitle, hfull, classify, htitle, afterColon_stripRight]
      · have hnext : (l :: ls).find? (fun l => isTitleLine (stripRight l)) =
            ls.find? fun l => isTitleLine (stripRight l) := List.find?_cons_of_neg htitle
        have hkind := (kind_classify_eq_title_iff (stripRight l) ls).not.2 htitle
        rw [hnext, ← ih]
        split_ifs
        · rfl
        · simp [namedTitle, hkind]

end Gleaner.Screenplay

namespace Gleaner.Episode

open Text Screenplay

/-! ## The header -/

section

variable (path content : Text)

/-- The title that the header of a page shows. -/
def shownTitle : Text :=
  if (givenTitle path content).isEmpty then namedTitle (elements content)
  else givenTitle path content

/-- The position of the line that the title in the header is taken from.  It is the first title
line, indented or not, if there is anything behind its colon.  Else the file suggests a title; where
it does not, the first title line without an indent is taken, if there is anything behind its
colon. -/
def titleSource? : Option Nat :=
  if lineTitle content ≠ [] then
    (splitOn '\n' content).findIdx? fun l => isTitleLine (strip l)
  else if pathTitle path = [] ∧ namedTitle (elements content) ≠ [] then
    (splitOn '\n' content).findIdx? fun l => isTitleLine (stripRight l)
  else none

/-- **The title in the header is that of its line**, or the one that the file suggests. -/
lemma shownTitle_eq : shownTitle path content =
    (((titleSource? path content).bind fun i => (splitOn '\n' content)[i]?).map afterColon).getD
      (pathTitle path) := by
  by_cases hnamed : lineTitle content = []
  · have hgiven : givenTitle path content = pathTitle path := by simp [givenTitle, hnamed]
    rw [shownTitle, hgiven, titleSource?, if_neg (not_not.2 hnamed)]
    by_cases hsource : pathTitle path = [] ∧ namedTitle (elements content) ≠ []
    · rw [if_pos hsource, ← List.find?_eq_bind_findIdx?_getElem?, hsource.1]
      exact namedTitle_elementsOfLines _
    · rw [if_neg hsource]
      by_cases hpath : pathTitle path = []
      · have hnone : namedTitle (elements content) = [] := not_not.1 fun h => hsource ⟨hpath, h⟩
        simp [hpath, hnone]
      · simp [hpath]
  · have hgiven : givenTitle path content = lineTitle content := by simp [givenTitle, hnamed]
    rw [shownTitle, hgiven, if_neg (by simpa using hnamed), titleSource?, if_pos hnamed,
      ← List.find?_eq_bind_findIdx?_getElem?]
    rw [lineTitle] at hnamed ⊢
    cases hfind : (splitOn '\n' content).find? fun l => isTitleLine (strip l) with
    | none => simp [hfind] at hnamed
    | some l => rfl

/-! ## The result -/

/-- Every line is shown once: the line that the title is taken from has no block in the body, and
every other line that is not blank has one. -/
structure ShowsOnce : Prop where
  source : ∀ i, titleSource? path content = some i → lineBlock? (splitOn '\n' content) i = none
  others : ∀ i l, (splitOn '\n' content)[i]? = some l → strip l ≠ [] →
    titleSource? path content ≠ some i → (lineBlock? (splitOn '\n' content) i).isSome = true

end

/-- The title in the header comes from a title line. -/
lemma exists_of_titleSource? {path content : Text} {i : Nat}
    (h : titleSource? path content = some i) :
    ∃ l, (splitOn '\n' content)[i]? = some l ∧ isTitleLine (strip l) = true := by
  unfold titleSource? at h
  split_ifs at h
  · obtain ⟨hi, htitle, -⟩ := List.findIdx?_eq_some_iff_getElem.1 h
    exact ⟨_, List.getElem?_eq_getElem hi, htitle⟩
  · obtain ⟨hi, htitle, -⟩ := List.findIdx?_eq_some_iff_getElem.1 h
    exact ⟨_, List.getElem?_eq_getElem hi, ((isTitleLine_stripRight _).1 htitle).1⟩

/-- **Every line is shown once exactly if the title line of the header is the one title line without
an indent.**  A page has the title in its header and then the blocks of the lines, in order.  A line
from which the title is taken although it is indented is shown twice.  A title line without an
indent from which the title is not taken is not shown at all; there are such lines behind the first
title line, and where nothing stands behind its colon. -/
theorem shown_once_iff (path content : Text) :
    pageOf path content = join ['\n'] (pageTop :: (header (shownTitle path content) ++
      (List.range (splitOn '\n' content).length).filterMap (lineBlock? (splitOn '\n' content)) ++
      [pageBottom])) ∧
    shownTitle path content = (((titleSource? path content).bind fun i =>
      (splitOn '\n' content)[i]?).map afterColon).getD (pathTitle path) ∧
    (ShowsOnce path content ↔ ∀ i l, (splitOn '\n' content)[i]? = some l →
      (titleSource? path content = some i ↔ isTitleLine (strip l) = true ∧ indent l = 0)) := by
  refine ⟨?_, shownTitle_eq path content, fun h i l hl => ⟨fun hi => ?_, fun htitle => ?_⟩,
    fun h => ⟨fun i hi => ?_, fun i l hl hblank hi => ?_⟩⟩
  · rw [← filterMap_block?]
    rfl
  · obtain ⟨_, hl', htitle⟩ := exists_of_titleSource? hi
    obtain rfl := Option.some.inj (hl.symm.trans hl')
    have hblock := (isSome_lineBlock?_iff hl).not.1 (by simp [h.source i hi])
    exact not_not.1 fun hflush => hblock ⟨strip_ne_nil_of_isTitleLine htitle, hflush⟩
  · by_contra hi
    have hblock := h.others i l hl (strip_ne_nil_of_isTitleLine htitle.1) hi
    exact ((isSome_lineBlock?_iff hl).1 hblock).2 htitle
  · obtain ⟨l, hl, -⟩ := exists_of_titleSource? hi
    have hflush := (h i l hl).1 hi
    have hblock := (isSome_lineBlock?_iff hl).not.2 fun hshown => hshown.2 hflush
    simpa using hblock
  · exact (isSome_lineBlock?_iff hl).2 ⟨hblank, fun hflush => hi ((h i l hl).2 hflush)⟩

/-- A second title line, which no title is taken from. -/
def secondTitle : Text := "Title: Pilot\nTitle: Damien\nSnow falls."

/-- An indented title line. -/
def indentedTitle : Text := "  Title: Pilot\nSnow falls."

/-- **The second title line is lost, and the indented one is shown twice.** -/
theorem title_line_lost_or_doubled :
    pageOf "S01E01_Pilot.fountain" secondTitle = join ['\n'] [pageTop,
      "<div class=\"title-header\"><h1>Pilot</h1></div>".toList,
      "<div class=\"action\">Snow falls.</div>".toList, pageBottom] ∧
    pageOf "S01E01_Pilot.fountain" indentedTitle = join ['\n'] [pageTop,
      "<div class=\"title-header\"><h1>Pilot</h1></div>".toList,
      "<div class=\"action\">Title: Pilot</div>".toList,
      "<div class=\"action\">Snow falls.</div>".toList, pageBottom] ∧
    ¬ShowsOnce "S01E01_Pilot.fountain" secondTitle ∧
    ¬ShowsOnce "S01E01_Pilot.fountain" indentedTitle := by
  refine ⟨by decide +kernel, by decide +kernel, fun h => ?_, fun h => ?_⟩
  · have hblock := h.others 1 "Title: Damien".toList (by decide) (by decide) (by decide +kernel)
    exact absurd hblock (by decide +kernel)
  · have hblock := h.source 0 (by decide +kernel)
    exact absurd hblock (by decide +kernel)

end Gleaner.Episode
