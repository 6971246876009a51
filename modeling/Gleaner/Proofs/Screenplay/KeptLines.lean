import Gleaner.Proofs.Screenplay.TidyLines

/-!
# No line is lost

A conversion cuts a header off, gives every line that is not blank one of a few forms, and takes
empty lines away.  `full_lines_kept` puts this together for both kinds of pages: behind at most
eighteen (transcripts) or twenty-eight (films) lines of header, the full lines of the converted text
are the forms of the lines that are not blank, one after the other and in order.

The header is where an off-by-one could hide: `dropHeader` keeps one line before the first line of
content, so what it drops are lines *before* that line (`dropHeader_eq_drop`), and none of them is a
line of content.
-/

namespace Gleaner.Screenplay

open Text

/-! ## Headers -/

/-- A line that a header may hold: blank, or a remnant of markup or script. -/
def IsHeaderLine (l : Text) : Prop :=
  strip l = [] ∨ (strip l).startsWith "<" = true ∨ (strip l).startsWith "//" = true ∨
    (strip l).startsWith "if " = true

lemma isHeaderLine_of_not_content {l : Text} (h : isContent l = false) : IsHeaderLine l := by
  simp only [isContent, Bool.and_eq_false_iff, Bool.not_eq_false', List.isEmpty_iff,
    Bool.or_eq_true] at h
  rcases h with h | (h | h) | h
  · exact Or.inl h
  · exact Or.inr (Or.inl h)
  · exact Or.inr (Or.inr (Or.inl h))
  · exact Or.inr (Or.inr (Or.inr h))

/-- **What a header may be.**  The lines that are dropped are the first ones, two fewer than the
limit at most, and none of them is a line of content. -/
lemma dropHeader_eq_drop (limit : Nat) (ls : List Text) :
    ∃ k ≤ limit - 2, dropHeader limit ls = ls.drop k ∧ ∀ l ∈ ls.take k, IsHeaderLine l := by
  unfold dropHeader
  cases hfind : ls.findIdx? isContent with
  | none => exact ⟨0, by omega, by simp, by simp⟩
  | some i =>
      by_cases hi : i < limit
      · -- one line before the first line of content is kept, if there is one
        refine ⟨i - 1, by omega, by simp [hi], fun l hl => ?_⟩
        obtain ⟨_, _, hbefore⟩ := List.findIdx?_eq_some_iff_getElem.1 hfind
        obtain ⟨j, hj, rfl⟩ := List.mem_take_iff_getElem.1 hl
        apply isHeaderLine_of_not_content
        simpa using hbefore j (by omega)
      · exact ⟨0, by omega, by simp [hi], by simp⟩

/-! ## Forms of lines -/

/-- The forms that a line of a transcript may have in the converted text: itself, in upper case,
marked as a transition, or taken apart at its first colon. -/
inductive TranscriptForm (s : Text) : List Text → Prop
  | same : TranscriptForm s [s]
  | heading : TranscriptForm s [upper s]
  | transition : TranscriptForm s ['>' :: ' ' :: s]
  | speech {left right : Text} (hcut : cut? ':' s = some (left, right)) :
      TranscriptForm s (strip left :: if (strip right).isEmpty then [] else [strip right])

/-- The forms that a line of a film may have in the converted text: itself, marked as a transition,
or in upper case without its scene number. -/
inductive FilmForm (s : Text) : List Text → Prop
  | same : FilmForm s [s]
  | transition : FilmForm s ['>' :: ' ' :: s]
  | heading : FilmForm s [upper (dropNumber s)]

lemma transcriptForm_line (l : Text) : TranscriptForm (strip l) (transcriptLine l) := by
  rcases transcriptLine_cases l with ⟨-, h⟩ | ⟨-, h⟩ | ⟨-, left, right, hcut, -, h⟩ | ⟨-, -, h⟩
  · exact h ▸ .heading
  · exact h ▸ .same
  · exact h ▸ .speech hcut
  · exact h ▸ .transition

lemma filmForm_line (l : Text) : FilmForm (strip l) (filmLine l) := by
  rcases filmLine_cases l with ⟨-, h⟩ | ⟨-, h⟩ | h
  · exact h ▸ .heading
  · exact h ▸ .transition
  · exact h ▸ .same

/-- The lines of `out` are the forms of the lines in `ls` that are not blank, in order. -/
def InForm (form : Text → List Text → Prop) (ls out : List Text) : Prop :=
  ∃ images, List.Forall₂ (fun l image => form (strip l) image) (notBlank ls) images ∧
    out = images.flatten

lemma inForm_flatMap {form : Text → List Text → Prop} {rule : Text → List Text}
    (h : ∀ l, form (strip l) (rule l)) (ls : List Text) :
    InForm form ls ((notBlank ls).flatMap rule) := by
  refine ⟨(notBlank ls).map rule, ?_, List.flatMap_def⟩
  rw [List.forall₂_map_right_iff, List.forall₂_same]
  exact fun l _ => h l

/-! ## The result -/

/-- The lines of the plain text of a part of a page. -/
def plainLines (part : Text) : List Text :=
  splitOn '\n' (plain part)

/-- `out` keeps the lines of a part of a page, up to a header of at most `most` lines.

* The header holds no line of content.
* The full lines of `out` are the forms of the lines behind the header that are not blank; these
  lines are taken as the conversion `r` takes them apart.
* Between the lines that are written and those of `out` only empty ones are taken away.
-/
def KeepsLines (r : Conversion) (form : Text → List Text → Prop) (most : Nat) (part out : Text) :
    Prop :=
  ∃ k ≤ most, (∀ l ∈ (plainLines part).take k, IsHeaderLine l) ∧
    InForm form (r.lines ((plainLines part).drop k)) (full (splitOn '\n' out)) ∧
    Thinned (splitOn '\n' out) (splitOn '\n' (join ['\n'] (r.emitted part)))

/-- A tidy conversion keeps the lines in the forms of its rule. -/
lemma Conversion.Tidy.keepsLines {r : Conversion} {form : Text → List Text → Prop}
    {page part out : Text} (hr : r.Tidy) (hform : ∀ l, form (strip l) (r.line l))
    (hpart : r.part? page = some part) (hout : r.apply page = .ok out) :
    KeepsLines r form (r.headerLines - 2) part out := by
  obtain ⟨k, hk, hdrop, hheader⟩ := dropHeader_eq_drop r.headerLines (plainLines part)
  have hbody : r.bodyLines part = r.lines ((plainLines part).drop k) := congrArg r.lines hdrop
  rw [Conversion.ok_of_apply hout]
  refine ⟨k, hk, hheader, ?_, hr.text_thinned hpart⟩
  rw [hr.full_text hpart, hbody]
  exact inForm_flatMap hform _

/-- **No line is lost, doubled or moved.**  A transcript is read from the preformatted part of its
page, and a page without one gives no text.  The screenplay of a film is read from that part too, or
from the whole page, and its lines are taken apart once more at every kind of line end. -/
theorem full_lines_kept (page : Text) :
    (∀ part out, preformatted? page = some part → transcript.apply page = .ok out →
      KeepsLines transcript TranscriptForm 18 part out) ∧
    (∀ out, film.apply page = .ok out →
      KeepsLines film FilmForm 28 ((preformatted? page).getD page) out) := by
  constructor
  · intro part out hpre hout
    have hpart : transcript.part? page = some part := by simp [Conversion.part?, hpre]
    exact transcript_tidy.keepsLines transcriptForm_line hpart hout
  · intro out hout
    have hpart : film.part? page = some ((preformatted? page).getD page) := by
      cases h : preformatted? page with
      | none => simp [Conversion.part?, h, film]
      | some p => simp [Conversion.part?, h]
    exact film_tidy.keepsLines filmForm_line hpart hout

/-- A part of a page with a header, a numbered heading, empty lines, a speech and a transition. -/
def samplePart : Text :=
  "<pre>\n// remnant\n\n12 int. hall\n\n\n\nKYLE: Hey.\nFADE OUT:\n"

/-- The lines of the part above are kept by both conversions. -/
theorem full_lines_kept_sample :
    transcript.apply (samplePart ++ "</pre>".toList)
        = .ok "12 int. hall\n\nKYLE\nHey.\nFADE OUT".toList ∧
      KeepsLines transcript TranscriptForm 18 samplePart
        "12 int. hall\n\nKYLE\nHey.\nFADE OUT".toList ∧
      film.apply (samplePart ++ "</pre>".toList)
        = .ok "\nINT. HALL\n\nKYLE: Hey.\n> FADE OUT:".toList ∧
      KeepsLines film FilmForm 28 samplePart
        "\nINT. HALL\n\nKYLE: Hey.\n> FADE OUT:".toList := by
  have hpre : preformatted? (samplePart ++ "</pre>".toList) = some samplePart := by decide
  have htranscript : transcript.apply (samplePart ++ "</pre>".toList)
      = .ok "12 int. hall\n\nKYLE\nHey.\nFADE OUT".toList := by decide
  have hfilm : film.apply (samplePart ++ "</pre>".toList)
      = .ok "\nINT. HALL\n\nKYLE: Hey.\n> FADE OUT:".toList := by decide
  have hkept := (full_lines_kept (samplePart ++ "</pre>".toList)).2 _ hfilm
  rw [hpre, Option.getD_some] at hkept
  exact ⟨htranscript, (full_lines_kept _).1 _ _ hpre htranscript, hfilm, hkept⟩

end Gleaner.Screenplay
