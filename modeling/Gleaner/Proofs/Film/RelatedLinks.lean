import Gleaner.Proofs.Film.FirstBest

/-!
# Links that have nothing to do with the title

The search follows a link if it agrees with the title.  A link that agrees should be related to the
title: it has a text, and one of the two holds the other, or at least a word of the title stands in
the text (`Related`).  Not every link that is followed is (`followed_unrelated_iff`).

**Agreement.**  `agreement_pos_iff` says what it takes to agree.  Two of its conditions can be met
by nothing at all: an empty text is part of every title (`agreement_pos_of_empty`), and where a
title has no word of more than two characters, all of its longer words stand in any text
(`agreement_pos_of_no_longWord`).

**Relation.**  Apart from these two cases what agrees is related (`related_of_agreement`).
-/

namespace Gleaner.Film

open Text

/-! ## Agreement -/

/-- The text of a link is related to a title, both in the form in which they are compared. -/
def Related (title text : Text) : Prop :=
  text ≠ [] ∧ (title <:+: text ∨ text <:+: title ∨ ∃ w ∈ words title, w <:+: text)

/-- A title has a word that is looked for in the texts of links. -/
def HasLongWord (title : Text) : Prop :=
  ∃ w ∈ words title, 2 < w.length

/-- A title and a text have nothing in common. -/
structure Foreign (title text : Text) : Prop where
  title_not_infix : ¬ title <:+: text
  text_not_infix : ¬ text <:+: title
  word_not_infix : ∀ w ∈ words title, ¬ w <:+: text

lemma related_iff {title text : Text} : Related title text ↔ text ≠ [] ∧ ¬Foreign title text := by
  refine and_congr_right fun _ => ⟨?_, fun h => ?_⟩
  · rintro (htitle | htext | ⟨w, hw, hword⟩) hforeign
    · exact hforeign.title_not_infix htitle
    · exact hforeign.text_not_infix htext
    · exact hforeign.word_not_infix w hw hword
  · by_contra hnone
    simp only [not_or, not_exists, not_and] at hnone
    exact h ⟨hnone.1, hnone.2.1, hnone.2.2⟩

/-- **What it takes to agree**: one holds the other, or the text holds all longer words. -/
lemma score_pos_iff {title text : Text} : 0 < score title text ↔
    title <:+: text ∨ text <:+: title ∨ ∀ w ∈ words title, 2 < w.length → w <:+: text := by
  have hwords : (((words title).filter fun w => 2 < w.length).all fun w => contains text w) = true ↔
      ∀ w ∈ words title, 2 < w.length → w <:+: text := by
    simp only [List.all_eq_true, List.mem_filter, decide_eq_true_eq, contains_iff, and_imp]
  rw [← hwords, ← or_assoc, ← contains_iff, ← contains_iff, ← Bool.or_eq_true]
  unfold score
  split_ifs with heq hpart hall
  · have hpart : (contains text title || contains title text) = true := by
      rw [heq, contains_iff.2 (List.infix_refl text), Bool.true_or]
    simp [hpart]
  · simp [hpart]
  · simp [hall]
  · simp [hpart, hall]

section

variable {title : Text} {r : Result}

/-- **A link without a text agrees with every title.** -/
lemma agreement_pos_of_empty (h : comparedText r.text = []) : 0 < agreement title r := by
  rw [agreement, h]
  exact score_pos_iff.2 (.inr (.inl List.nil_infix))

/-- **Every link agrees with a title that has no long word.** -/
lemma agreement_pos_of_no_longWord (h : ¬HasLongWord title) : 0 < agreement title r :=
  score_pos_iff.2 (.inr (.inr fun w hw hlong => absurd ⟨w, hw, hlong⟩ h))

/-- **What agrees is related**, if the title has a long word and the link a text. -/
lemma related_of_agreement (h : 0 < agreement title r) (hlong : HasLongWord title)
    (htext : comparedText r.text ≠ []) : Related title (comparedText r.text) := by
  refine ⟨htext, (score_pos_iff.1 h).imp_right (Or.imp_right fun hwords => ?_)⟩
  obtain ⟨w, hw, hlength⟩ := hlong
  exact ⟨w, hw, hwords w hw hlength⟩

/-- A link that agrees is unrelated in two cases only. -/
lemma not_related_iff (h : 0 < agreement title r) : ¬Related title (comparedText r.text) ↔
    comparedText r.text = [] ∨ ¬HasLongWord title ∧ Foreign title (comparedText r.text) := by
  constructor
  · intro hnot
    by_cases htext : comparedText r.text = []
    · exact .inl htext
    · refine .inr ⟨fun hlong => hnot (related_of_agreement h hlong htext), ?_⟩
      by_contra hforeign
      exact hnot (related_iff.2 ⟨htext, hforeign⟩)
  · rintro (htext | ⟨-, hforeign⟩) hrelated
    · exact hrelated.1 htext
    · exact (related_iff.1 hrelated).2 hforeign

end

/-! ## The result -/

/-- **The search follows unrelated links in two cases, and only in these.**  Whatever the site
answers, a search asks for the results and visits the pages of some links among them; each of these
links is the first of those that agree best.

* A link that is followed is unrelated to the title exactly if it has no text, or if the title has
  no word of more than two characters and nothing in common with the text.
* In both cases there is nothing to stop it: if some result has no text, or if the title has no long
  word and there is any result, then a page is visited. -/
theorem followed_unrelated_iff (title : Text) (w : World) : ∃ found w' visits,
    Ends (search (.str title)) w found w' ∧
    w'.requests = w.requests ++ searchRequest title :: visits ∧
    (∀ q ∈ visits, ∃ rs r, Shows (w.answer (searchRequest title)) rs ∧
      IsFirstBest (comparedTitle title) rs r ∧ q = introRequest r.target ∧
      (¬Related (comparedTitle title) (comparedText r.text) ↔
        comparedText r.text = [] ∨ ¬HasLongWord (comparedTitle title) ∧
          Foreign (comparedTitle title) (comparedText r.text))) ∧
    ∀ rs r, Shows (w.answer (searchRequest title)) rs → r ∈ rs →
      comparedText r.text = [] ∨ ¬HasLongWord (comparedTitle title) → visits ≠ [] := by
  obtain ⟨w', hends, hheard⟩ := ends_search title w
  refine ⟨_, w', _, hends, hheard.requests, fun q hq => ?_, fun rs r hshows hr hcase => ?_⟩
  · obtain ⟨r, hr, rfl⟩ := exists_of_visit? (Option.mem_toList.1 hq)
    exact ⟨_, r, shows_resultsIn hr.mem, hr, rfl, not_related_iff hr.agrees⟩
  · have hagrees : 0 < agreement (comparedTitle title) r :=
      hcase.elim agreement_pos_of_empty agreement_pos_of_no_longWord
    rw [ne_eq, Option.toList_eq_nil_iff, visit?_eq_none_iff]
    intro hnone
    exact hagrees.ne' (hnone r (hshows.resultsIn_eq ▸ hr))

/-- A world in which a search is answered by a page with one result. -/
def oneResult (text : Text) : World where
  pages := [("POST https://imsdb.com/search.php", [.reply ⟨200, "OK", Text.cat
    ["<table><td valign=top></td><td valign=top><a href=/movie/1>", text, "</a></td></table>"]⟩])]
  fallback := .failure .connection "no answer"
  files := ⟨[], []⟩
  now := ⟨2026, 4, 11, 8, 53, 12⟩
  display := none
  screen := ⟨[], [], none, none, none⟩
  index := none
  out := []
  err := []
  deeds := []
  calls := []

/-- **Two links are followed that have nothing to do with the title**: any link for the title `Up`,
and a link without a text for the title `Heat`. -/
theorem unrelated_links_followed :
    ((outcome (search (.str "Up")) (oneResult "Jaws")).2.requests.map Request.address? =
      [some "POST https://imsdb.com/search.php".toList, some "https://imsdb.com/movie/1".toList]) ∧
    ¬Related (comparedTitle "Up") (comparedText "Jaws") ∧
    ((outcome (search (.str "Heat")) (oneResult "")).2.requests.map Request.address? =
      [some "POST https://imsdb.com/search.php".toList, some "https://imsdb.com/movie/1".toList]) ∧
    ¬Related (comparedTitle "Heat") (comparedText "") := by
  refine ⟨by decide +kernel, ?_, by decide +kernel, ?_⟩
  · have htitle : comparedTitle "Up" = "up".toList := by decide +kernel
    have htext : comparedText "Jaws" = "jaws".toList := by decide +kernel
    rw [htitle, htext, related_iff, not_and_not_right]
    exact fun _ => ⟨by decide, by decide, by decide⟩
  · exact fun h => h.1 (by decide +kernel)

end Gleaner.Film
