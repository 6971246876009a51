import Gleaner.Proofs.Screenplay.KeptLines

/-!
# No tag is left

Tags are removed before references are replaced and once more after that, because a reference may
stand for an angle bracket.  The lines are then cut, put in upper case and marked.  None of this
leaves or makes a tag: `no_tag_in_converted`.

**Tags.**  Whether a text is free of tags can be told from its first character and the rest
(`tagFree_opening`, `tagFree_cons_of_ne`): an angle bracket opens no tag if it is closed at once or
never.

**The walk.**  `tagFree_dropTags`.  What is removed always reaches to the next closing bracket, so
the ends that come together never make a tag: an opening bracket that stays is closed at once or
never in the whole text, and hence in what is left of it.

**Lines.**  A part of a text without tags has none (`TagFree.of_isInfix`).  The two rules for lines
take parts of a line, put it in upper case, which moves no bracket (`TagFree.upper`), or set a mark
in front, which closes nothing because nothing is open there.
-/

namespace Gleaner.Text

lemma cut?_eq_none_iff {sep : Char} : ∀ {t : Text}, cut? sep t = none ↔ sep ∉ t
  | [] => by simp [cut?]
  | c :: t => by
      rw [cut?, List.mem_cons, not_or]
      split_ifs with hc
      · simp [hc]
      · simp [cut?_eq_none_iff, Ne.symm hc]

end Gleaner.Text

namespace Gleaner.Screenplay

open Text

/-! ## Tags -/

/-- A tag: an angle bracket, one or more characters that do not close it, and a closing one. -/
def IsTag (s : Text) : Prop :=
  ∃ inside, inside ≠ [] ∧ '>' ∉ inside ∧ s = '<' :: inside ++ ['>']

/-- No part of a text is a tag. -/
def TagFree (t : Text) : Prop :=
  ∀ s, IsTag s → ¬ s <:+: t

lemma TagFree.of_isInfix {s t : Text} (h : TagFree t) (hst : s <:+: t) : TagFree s :=
  fun u hu hus => h u hu (hus.trans hst)

lemma tagFree_nil : TagFree [] := by
  rintro s ⟨inside, -, -, rfl⟩ h
  simp at h

/-- Only an angle bracket opens a tag. -/
lemma tagFree_cons_of_ne {c : Char} (hc : c ≠ '<') (t : Text) : TagFree (c :: t) ↔ TagFree t := by
  refine ⟨fun h => h.of_isInfix (List.suffix_cons c t).isInfix, fun h s hs hst => ?_⟩
  rcases List.infix_cons_iff.1 hst with hfront | hrest
  · obtain ⟨inside, -, -, rfl⟩ := hs
    exact hc (List.cons_prefix_cons.1 hfront).1.symm
  · exact h s hs hrest

/-- **An angle bracket opens no tag if it is closed at once or never.** -/
lemma tagFree_opening {t : Text} :
    TagFree ('<' :: t) ↔ TagFree t ∧ (t.head? = some '>' ∨ '>' ∉ t) := by
  constructor
  · intro h
    refine ⟨h.of_isInfix (List.suffix_cons '<' t).isInfix, or_iff_not_imp_right.2 fun hclosed => ?_⟩
    obtain ⟨inside, rest, rfl, hinside⟩ := List.eq_append_cons_of_mem (not_not.1 hclosed)
    -- up to the first closing bracket there would be a tag
    cases inside with
    | nil => rfl
    | cons d ds =>
        refine absurd ?_ (h ('<' :: (d :: ds) ++ ['>']) ⟨d :: ds, by simp, hinside, rfl⟩)
        exact ⟨[], rest, by simp⟩
  · rintro ⟨hrest, hfirst⟩ s hs hst
    rcases List.infix_cons_iff.1 hst with hfront | hlater
    · obtain ⟨inside, hne, hinside, rfl⟩ := hs
      obtain ⟨d, ds, rfl⟩ := List.exists_cons_of_ne_nil hne
      obtain ⟨rest, rfl⟩ := (List.cons_prefix_cons.1 hfront).2
      rcases hfirst with hd | hnever
      · obtain rfl : d = '>' := by simpa using hd
        exact hinside List.mem_cons_self
      · exact hnever (by simp)
    · exact hrest s hs hlater

/-- What holds no angle bracket may stand in front. -/
lemma TagFree.append {s t : Text} (h : TagFree t) (hs : '<' ∉ s) : TagFree (s ++ t) := by
  induction s with
  | nil => exact h
  | cons c s ih =>
      rw [List.mem_cons, not_or] at hs
      exact (tagFree_cons_of_ne (Ne.symm hs.1) _).2 (ih hs.2)

/-! ## The walk -/

/-- Where no tag is removed the character is no angle bracket, or it is closed at once or never. -/
lemma tag?_eq_none_iff {c : Char} {rest : Text} :
    tag? c rest = none ↔ (c = '<' → rest.head? = some '>' ∨ '>' ∉ rest) := by
  rw [tag?, toTagEnd?]
  by_cases hc : c = '<'
  · by_cases hclosed : rest.head? = some '>'
    · simp [hc, hclosed]
    · simp [hc, hclosed, cut?_eq_none_iff]
  · simp [hc]

lemma dropTags_closing (rest : Text) : dropTags ('>' :: rest) = '>' :: dropTags rest :=
  erase_cons_of_none rfl

/-- **No tag is left after tags are removed.**  By induction along the walk. -/
lemma tagFree_dropTags (t : Text) : TagFree (dropTags t) := by
  refine substitute_induction (motive := fun _ s => TagFree s) tagFree_nil ?_ ?_ t
  · intro c rest hstays ih
    have hnone : tag? c rest = none := Option.map_eq_none_iff.1 hstays
    change TagFree (c :: dropTags rest)
    by_cases hc : c = '<'
    · subst hc
      refine tagFree_opening.2 ⟨ih, ?_⟩
      rcases tag?_eq_none_iff.1 hnone rfl with hclosed | hnever
      · obtain ⟨rest, rfl⟩ := List.head?_eq_some_iff.1 hclosed
        exact .inl (by rw [dropTags_closing, List.head?_cons])
      · exact .inr fun hmem => hnever ((erase_sublist tag? rest).subset hmem)
    · exact (tagFree_cons_of_ne hc _).2 ih
  · intro c rest more put htaken ih
    obtain ⟨n, -, hn⟩ := Option.map_eq_some_iff.1 htaken
    obtain ⟨rfl, rfl⟩ := Prod.mk.inj hn
    exact ih

/-! ## Lines -/

lemma isUnmoved_brackets : isUnmoved '<'.toNat = true ∧ isUnmoved '>'.toNat = true := by
  decide +kernel

/-- Upper case moves no angle bracket, so it makes no tag. -/
lemma TagFree.upper {t : Text} (h : TagFree t) : TagFree (upper t) := by
  obtain ⟨hopening, hclosing⟩ := isUnmoved_brackets
  induction t with
  | nil => exact tagFree_nil
  | cons c t ih =>
      rw [upper_cons]
      by_cases hc : c = '<'
      · subst hc
        obtain ⟨hrest, hfirst⟩ := tagFree_opening.1 h
        rw [upperChar_of_isUnmoved hopening, List.singleton_append]
        refine tagFree_opening.2 ⟨ih hrest, hfirst.imp (fun hclosed => ?_) fun hnever hmem => ?_⟩
        · obtain ⟨rest, rfl⟩ := List.head?_eq_some_iff.1 hclosed
          rw [upper_cons, upperChar_of_isUnmoved hclosing, List.singleton_append, List.head?_cons]
        · exact hnever (mem_of_mem_upper hclosing hmem)
      · refine (ih ((tagFree_cons_of_ne hc t).1 h)).append fun hmem => hc ?_
        exact eq_of_mem_upperChar hopening hmem

lemma TagFree.strip {l : Text} (h : TagFree l) : TagFree (strip l) :=
  h.of_isInfix (strip_isInfix l)

/-- A transition mark closes nothing, because it stands in front. -/
lemma TagFree.marked {l : Text} (h : TagFree l) : TagFree ('>' :: ' ' :: l) :=
  h.append (s := ['>', ' ']) (by decide)

lemma dropNumber_suffix (l : Text) : dropNumber l <:+ l := by
  unfold dropNumber
  cases hnumber : afterNumber? l with
  | none => exact List.suffix_refl l
  | some u =>
      unfold afterNumber? at hnumber
      simp only [Option.ite_none_left_eq_some, Option.some.injEq] at hnumber
      rw [Option.getD_some, ← hnumber.2]
      exact (stripLeft_suffix _).trans (List.drop_suffix _ l)

/-- A conversion that makes no tags: it takes a text apart into parts of it, and its rule gives
lines without a tag for a line without one. -/
structure Conversion.MakesNoTags (r : Conversion) : Prop where
  lines : ∀ t k, ∀ l ∈ r.lines ((splitOn '\n' t).drop k), l <:+: t
  line : ∀ l, TagFree l → ∀ e ∈ r.line l, TagFree e

lemma transcript_makesNoTags : transcript.MakesNoTags where
  lines := fun _ _ _ hl => infix_of_mem_splitOn (List.mem_of_mem_drop hl)
  line := by
    intro l hl e he
    change e ∈ transcriptLine l at he
    rcases transcriptLine_cases l with ⟨-, h⟩ | ⟨-, h⟩ | ⟨-, left, right, hcut, -, h⟩ | ⟨-, -, h⟩
    · rw [h, List.mem_singleton] at he
      exact he ▸ hl.strip.upper
    · rw [h, List.mem_singleton] at he
      exact he ▸ hl.strip
    · -- both sides of the colon are parts of the line
      have hparts := append_of_cut? hcut
      have hleft : TagFree left := hl.strip.of_isInfix ⟨[], ':' :: right, by simp [hparts]⟩
      have hright : TagFree right := hl.strip.of_isInfix ⟨left ++ [':'], [], by simp [hparts]⟩
      rw [h] at he
      rcases List.mem_cons.1 he with rfl | he
      · exact hleft.strip
      · split_ifs at he
        · cases he
        · rw [List.mem_singleton] at he
          exact he ▸ hright.strip
    · rw [h, List.mem_singleton] at he
      exact he ▸ hl.strip.marked

lemma film_makesNoTags : film.MakesNoTags where
  lines := by
    intro t k l hl
    have hrest : join ['\n'] ((splitOn '\n' t).drop k) <:+ join ['\n'] (splitOn '\n' t) :=
      join_drop_suffix ['\n'] k _
    rw [join_splitOn] at hrest
    exact (infix_of_mem_lines hl).trans hrest.isInfix
  line := by
    intro l hl e he
    change e ∈ filmLine l at he
    rcases filmLine_cases l with ⟨-, h⟩ | ⟨-, h⟩ | h
    · rw [h, List.mem_singleton] at he
      exact he ▸ (hl.strip.of_isInfix (dropNumber_suffix _).isInfix).upper
    · rw [h, List.mem_singleton] at he
      exact he ▸ hl.strip.marked
    · rw [h, List.mem_singleton] at he
      exact he ▸ hl.strip

/-! ## The result -/

section

variable {r : Conversion} {page part : Text}

/-- The lines that are converted are parts of the plain text. -/
lemma Conversion.MakesNoTags.infix_of_mem_body (h : r.MakesNoTags) {l : Text}
    (hl : l ∈ r.bodyLines part) : l <:+: plain part := by
  obtain ⟨k, -, hdrop, -⟩ := dropHeader_eq_drop r.headerLines (splitOn '\n' (plain part))
  rw [Conversion.bodyLines, hdrop] at hl
  exact h.lines _ k l hl

lemma Conversion.MakesNoTags.tagFree_of_mem_emitted (h : r.MakesNoTags) {e : Text}
    (he : e ∈ r.emitted part) : TagFree e := by
  obtain ⟨l, hl, he⟩ := List.mem_flatMap.1 he
  unfold Conversion.convertLine at he
  split_ifs at he
  · rw [List.mem_singleton] at he
    exact he ▸ tagFree_nil
  · exact h.line l ((tagFree_dropTags _).of_isInfix (h.infix_of_mem_body hl)) e he

/-- **No line of a converted text has a tag.** -/
lemma Conversion.MakesNoTags.tagFree_of_mem_text (h : r.MakesNoTags) (hr : r.Tidy) {l : Text}
    (hl : l ∈ splitOn '\n' (r.text page)) : TagFree l := by
  cases hpart : r.part? page with
  | none =>
      rw [Conversion.text_of_none hpart, splitOn_nil, List.mem_singleton] at hl
      exact hl ▸ tagFree_nil
  | some part =>
      have hmem := (hr.text_thinned hpart).sublist.subset hl
      rcases hr.splitOn_join_emitted part with hread | ⟨-, hread⟩
      · rw [hread] at hmem
        exact h.tagFree_of_mem_emitted hmem
      · rw [hread, List.mem_singleton] at hmem
        exact hmem ▸ tagFree_nil

end

/-- **No tag survives a conversion.**  Whatever a page holds, and however its brackets and
references stand, no line of the text that it is converted to has a tag. -/
theorem no_tag_in_converted (page : Text) :
    (∀ out, transcript.apply page = .ok out → ∀ l ∈ splitOn '\n' out, TagFree l) ∧
    (∀ out, film.apply page = .ok out → ∀ l ∈ splitOn '\n' out, TagFree l) := by
  constructor
  · intro out hout l hl
    rw [Conversion.ok_of_apply hout] at hl
    exact transcript_makesNoTags.tagFree_of_mem_text transcript_tidy hl
  · intro out hout l hl
    rw [Conversion.ok_of_apply hout] at hl
    exact film_makesNoTags.tagFree_of_mem_text film_tidy hl

/-- A page with a tag that references stand for, a tag that is left when another one goes, and
brackets that are closed at once or never. -/
def bracketPage : Text :=
  "<pre>&lt;i&gt;int. hall<<b>i>\nKYLE: 1 <> 2\nCUT TO: 3 < 4</pre>"

/-- Both tags of the page above go, and the other brackets stay. -/
theorem no_tag_in_converted_sample :
    transcript.apply bracketPage = .ok "INT. HALL\nKYLE\n1 <> 2\nCUT TO\n3 < 4".toList ∧
    (∀ l ∈ splitOn '\n' "INT. HALL\nKYLE\n1 <> 2\nCUT TO\n3 < 4".toList, TagFree l) ∧
    film.apply bracketPage = .ok "INT. HALL\nKYLE: 1 <> 2\n> CUT TO: 3 < 4".toList ∧
    ∀ l ∈ splitOn '\n' "INT. HALL\nKYLE: 1 <> 2\n> CUT TO: 3 < 4".toList, TagFree l := by
  have htranscript : transcript.apply bracketPage =
      .ok "INT. HALL\nKYLE\n1 <> 2\nCUT TO\n3 < 4".toList := by decide +kernel
  have hfilm : film.apply bracketPage =
      .ok "INT. HALL\nKYLE: 1 <> 2\n> CUT TO: 3 < 4".toList := by decide +kernel
  exact ⟨htranscript, (no_tag_in_converted bracketPage).1 _ htranscript, hfilm,
    (no_tag_in_converted bracketPage).2 _ hfilm⟩

end Gleaner.Screenplay
