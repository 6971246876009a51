import Gleaner.Proofs.Screenplay.Surroundings
import Gleaner.Proofs.Screenplay.TagFree
import Gleaner.Text.Alphanumeric

/-!
# Escaped text

The author of a page writes the characters that mean something in markup as references.  What is
written so is text, and its letters and digits should be found in the converted text.  They are, up
to two losses: `escaped_letters_kept`.

**Reading what was escaped.**  `escape` writes a text in markup.  It leaves no angle bracket, so no
tag is removed from it, and replacing the references gives the text back (`resolve_escape`).

**Two losses.**  The references are replaced before tags are removed once more, so a pair of
brackets that was escaped goes with what stands in it (`dropTags`).  And the rule for films takes
the scene number from a heading (`withoutNumber`).  Nothing else is lost: the rules for lines cut a
line at blanks and at a colon, put it in upper case, and set a mark in front.

**Letters in order.**  `Spells s out` says that the characters of `s` stand in `out` in their order,
each as it is or in upper case, which may be more than one character.
-/

namespace Gleaner.Text

/-! ## Letters and digits -/

/-- The letters and digits of a text. -/
def letters (t : Text) : Text :=
  t.filter isAlphanumeric

@[simp] lemma letters_append (s t : Text) : letters (s ++ t) = letters s ++ letters t :=
  List.filter_append s t

lemma letters_sublist (t : Text) : (letters t).Sublist t :=
  List.filter_sublist

/-- A blank is neither a letter nor a digit. -/
lemma isAlphanumeric_of_isBlank {c : Char} (h : isBlank c = true) : isAlphanumeric c = false :=
  of_isBlank (P := fun c => isAlphanumeric c = false) (by decide +kernel) h

lemma letters_cons_blank {c : Char} (h : isBlank c = true) (t : Text) :
    letters (c :: t) = letters t :=
  List.filter_cons_of_neg (by simp [isAlphanumeric_of_isBlank h])

lemma letters_stripLeft : ∀ t : Text, letters (stripLeft t) = letters t
  | [] => rfl
  | c :: t => by
      by_cases hc : isBlank c = true
      · have hstrip : stripLeft (c :: t) = stripLeft t := List.dropWhile_cons_of_pos hc
        rw [hstrip, letters_stripLeft t, letters_cons_blank hc]
      · have hstrip : stripLeft (c :: t) = c :: t := List.dropWhile_cons_of_neg hc
        rw [hstrip]

lemma letters_stripRight : ∀ t : Text, letters (stripRight t) = letters t
  | [] => rfl
  | c :: t => by
      have ih := letters_stripRight t
      have hcons : ∀ u, letters (c :: u) = letters [c] ++ letters u := letters_append [c]
      rw [stripRight, hcons t, ← ih]
      cases stripRight t with
      | nil =>
          by_cases hc : isBlank c = true
          · rw [if_pos hc, letters_cons_blank hc]
            rfl
          · rw [if_neg hc, ← letters_append, List.append_nil]
      | cons d ds => exact hcons (d :: ds)

/-- **Stripping a text loses none of its letters.** -/
@[simp] lemma letters_strip (t : Text) : letters (strip t) = letters t := by
  rw [strip, letters_stripRight, letters_stripLeft]

lemma letters_eq_nil {t : Text} (h : strip t = []) : letters t = [] := by
  rw [← letters_strip, h]
  rfl

/-- A line end is a blank. -/
lemma isBlank_of_isLineEnd {c : Char} (h : isLineEnd c = true) : isBlank c = true := by
  simp only [isLineEnd, isBlank, Bool.or_eq_true, Bool.and_eq_true, decide_eq_true_eq,
    beq_iff_eq] at h ⊢
  omega

/-- Taking a text apart into lines loses none of its letters. -/
lemma letters_lines (t : Text) : letters (lines t).flatten = letters t := by
  -- behind a carriage return the next line has just begun
  have hfrom : ∀ (t line : Text) (b : Bool), (b = true → line = []) →
      letters (linesFrom line b t).flatten = letters (line.reverse ++ t) := by
    intro t
    induction t with
    | nil =>
        intro line b _
        rw [linesFrom, List.append_nil]
        split_ifs with hline
        · rw [List.isEmpty_iff.1 hline]
          rfl
        · rw [List.flatten_singleton]
    | cons c t ih =>
        intro line b hb
        rw [linesFrom]
        split_ifs with hreturn hend
        · rw [Bool.and_eq_true, beq_iff_eq] at hreturn
          obtain ⟨hafter, rfl⟩ := hreturn
          rw [ih [] false (by simp), hb hafter]
          exact (letters_cons_blank isBlank_newline t).symm
        · rw [List.flatten_cons, letters_append, ih [] _ (by simp), letters_append line.reverse,
            letters_cons_blank (isBlank_of_isLineEnd hend)]
          rfl
        · rw [ih (c :: line) false (by simp), List.reverse_cons, List.append_assoc,
            List.singleton_append]
  exact hfrom t [] false (by simp)

lemma letters_flatMap {f : Text → Text} {ls : List Text} (h : ∀ l ∈ ls, letters (f l) = letters l) :
    letters (ls.flatMap f) = letters ls.flatten := by
  induction ls with
  | nil => rfl
  | cons l ls ih =>
      rw [List.flatMap_cons, letters_append, h l List.mem_cons_self,
        ih fun m hm => h m (List.mem_cons_of_mem l hm), List.flatten_cons, letters_append]

/-! ## Letters in order -/

/-- The characters of a text stand in another one in their order, each as it is or in upper
case. -/
def Spells (s out : Text) : Prop :=
  ∃ forms, List.Forall₂ (fun c form => form = [c] ∨ form = upperChar c) s forms ∧
    forms.flatten.Sublist out

lemma Spells.mono {s out out' : Text} (h : Spells s out) (hout : out.Sublist out') :
    Spells s out' := by
  obtain ⟨forms, hforms, hsub⟩ := h
  exact ⟨forms, hforms, hsub.trans hout⟩

lemma Spells.append {s s' out out' : Text} (h : Spells s out) (h' : Spells s' out') :
    Spells (s ++ s') (out ++ out') := by
  obtain ⟨forms, hforms, hsub⟩ := h
  obtain ⟨forms', hforms', hsub'⟩ := h'
  refine ⟨forms ++ forms', List.rel_append hforms hforms', ?_⟩
  rw [List.flatten_append]
  exact hsub.append hsub'

lemma Spells.length_le {s out : Text} (h : Spells s out) : s.length ≤ out.length := by
  obtain ⟨forms, hforms, hsub⟩ := h
  refine le_trans ?_ hsub.length_le
  clear hsub
  induction hforms with
  | nil => exact Nat.zero_le _
  | @cons c form s forms hform _ ih =>
      have hpos : 0 < form.length := by
        rcases hform with rfl | rfl
        · exact Nat.one_pos
        · exact List.length_pos_iff.2 (upperChar_ne_nil c)
      rw [List.length_cons, List.flatten_cons, List.length_append]
      omega

lemma spells_of_sublist {s out : Text} (h : s.Sublist out) : Spells s out := by
  refine ⟨s.map fun c => [c], ?_, ?_⟩
  · rw [List.forall₂_map_right_iff, List.forall₂_same]
    exact fun c _ => .inl rfl
  · simpa [← List.flatMap_def] using h

lemma spells_upper {s t : Text} (h : s.Sublist t) : Spells s (upper t) := by
  refine ⟨s.map upperChar, ?_, ?_⟩
  · rw [List.forall₂_map_right_iff, List.forall₂_same]
    exact fun c _ => .inr rfl
  · rw [← List.flatMap_def]
    exact h.flatMap upperChar

/-- The pieces of a text stand in it in their order. -/
lemma flatten_splitOn_sublist (sep : Char) : ∀ t : Text, (splitOn sep t).flatten.Sublist t
  | [] => by simp
  | c :: t => by
      have ih := flatten_splitOn_sublist sep t
      by_cases hc : c = sep
      · subst hc
        rw [splitOn_cons_sep]
        exact ih.cons c
      · obtain ⟨p, ps, hps⟩ := List.exists_cons_of_ne_nil (splitOn_ne_nil sep t)
        rw [splitOn_cons_of_ne hc hps]
        rw [hps] at ih
        exact ih.cons_cons c

lemma flatten_full (ls : List Text) : (full ls).flatten = ls.flatten :=
  List.flatten_filter_not_isEmpty

/-- Where nothing is taken away the text stays. -/
lemma erase_eq_self {span : Char → Text → Option Nat} {t : Text}
    (h : ∀ c ∈ t, ∀ rest, span c rest = none) : erase span t = t := by
  induction t with
  | nil => rfl
  | cons c t ih =>
      rw [erase_cons_of_none (h c List.mem_cons_self t),
        ih fun d hd => h d (List.mem_cons_of_mem c hd)]

end Gleaner.Text

namespace Gleaner.Markup.CharRef

open Text

/-! ## Escaping -/

/-- The characters that are escaped, with what is written for them behind an ampersand. -/
def escapes : List (Char × Text) := [
  ('&', "amp;"), ('<', "lt;"), ('>', "gt;"), ('"', "quot;"), ('\'', "#x27;")]

/-- A character as it is written in markup. -/
def escapeChar (c : Char) : Text :=
  match escapes.lookup c with
  | some body => '&' :: body
  | none => [c]

/-- A text as it is written in markup. -/
def escape (t : Text) : Text :=
  t.flatMap escapeChar

/-- What can be written for a character. -/
lemma escapeChar_cases (c : Char) :
    (∃ body, (c, body) ∈ escapes ∧ escapeChar c = '&' :: body) ∨
      (c ≠ '&' ∧ c ≠ '<' ∧ escapeChar c = [c]) := by
  unfold escapeChar
  cases hbody : escapes.lookup c with
  | some body =>
      obtain ⟨l₁, l₂, hsplit, -⟩ := List.lookup_eq_some_iff.1 hbody
      exact .inl ⟨body, by simp [hsplit], rfl⟩
  | none =>
      rw [List.lookup_eq_none_iff] at hbody
      refine .inr ⟨?_, ?_, rfl⟩
      · rintro rfl
        exact absurd (hbody ('&', "amp;") (by decide)) (by decide)
      · rintro rfl
        exact absurd (hbody ('<', "lt;") (by decide)) (by decide)

/-- The names that are written for a character. -/
lemma ofWord_escape : ofWord "amp;" = ['&'] ∧ ofWord "lt;" = ['<'] ∧ ofWord "gt;" = ['>'] ∧
    ofWord "quot;" = ['"'] := by
  decide +kernel

/-- **An escape is read as its character**, whatever follows. -/
lemma reference?_escape {c : Char} {body : Text} (h : (c, body) ∈ escapes) (rest : Text) :
    reference? (body ++ rest) = some (body.length, [c]) := by
  obtain ⟨hamp, hlt, hgt, hquot⟩ := ofWord_escape
  simp only [escapes, List.mem_cons, Prod.mk.injEq, List.not_mem_nil, or_false] at h
  rcases h with ⟨rfl, rfl⟩ | ⟨rfl, rfl⟩ | ⟨rfl, rfl⟩ | ⟨rfl, rfl⟩ | ⟨rfl, rfl⟩
  · rw [← hamp]
    rfl
  · rw [← hlt]
    rfl
  · rw [← hgt]
    rfl
  · rw [← hquot]
    rfl
  · rfl

/-- **Replacing the references of an escaped text gives the text back.** -/
lemma resolve_escape (t : Text) : resolve (escape t) = t := by
  induction t with
  | nil => rfl
  | cons c t ih =>
      rw [escape, List.flatMap_cons]
      rcases escapeChar_cases c with ⟨body, hbody, h⟩ | ⟨hamp, -, h⟩
      · have href : (if '&' = '&' then reference? (body ++ escape t) else none) =
            some (body.length, [c]) := (if_pos rfl).trans (reference?_escape hbody _)
        rw [h, List.cons_append]
        refine (substitute_cons_of_some href).trans ?_
        rw [List.drop_left]
        exact congrArg (c :: ·) ih
      · rw [h, List.singleton_append]
        refine (substitute_cons_of_none (if_neg hamp)).trans ?_
        exact congrArg (c :: ·) ih

/-- An escaped text opens no tag. -/
lemma bracket_not_mem_escape (t : Text) : '<' ∉ escape t := by
  intro h
  obtain ⟨c, -, hc⟩ := List.mem_flatMap.1 h
  rcases escapeChar_cases c with ⟨body, hbody, h⟩ | ⟨-, hne, h⟩
  · have hclean : ∀ e ∈ escapes, '<' ∉ '&' :: e.2 := by decide
    rw [h] at hc
    exact hclean (c, body) hbody hc
  · rw [h, List.mem_singleton] at hc
    exact hne hc.symm

/-- Digits are only counted behind an ampersand. -/
lemma oversized?_append {s : Text} (h : '&' ∉ s) (rest : Text) :
    oversized? (s ++ rest) = oversized? rest := by
  induction s with
  | nil => rfl
  | cons c s ih =>
      rw [List.mem_cons, not_or] at h
      rw [List.cons_append, ← ih h.2]
      conv_lhs => unfold oversized?
      refine if_neg fun hlt => ?_
      split at hlt <;> simp [Ne.symm h.1] at hlt

/-- No number of an escaped text has too many digits. -/
lemma oversized?_escape (t : Text) : oversized? (escape t) = none := by
  induction t with
  | nil => rfl
  | cons c t ih =>
      rw [escape, List.flatMap_cons]
      rcases escapeChar_cases c with ⟨body, hbody, h⟩ | ⟨hamp, -, h⟩
      · have hclean : ∀ e ∈ escapes, '&' ∉ e.2 := by decide
        have hfirst : oversized? ('&' :: (body ++ escape t)) = oversized? (body ++ escape t) := by
          simp only [escapes, List.mem_cons, Prod.mk.injEq, List.not_mem_nil, or_false] at hbody
          rcases hbody with ⟨-, rfl⟩ | ⟨-, rfl⟩ | ⟨-, rfl⟩ | ⟨-, rfl⟩ | ⟨-, rfl⟩ <;> rfl
        rw [h, List.cons_append]
        refine hfirst.trans ?_
        rw [oversized?_append (hclean (c, body) hbody), ih]
      · rw [h, oversized?_append (by simpa using Ne.symm hamp)]
        exact ih

end Gleaner.Markup.CharRef

namespace Gleaner.Screenplay

open Text Markup.CharRef

/-! ## The part -/

/-- A text without tags stays as it is when tags are removed. -/
lemma dropTags_eq_self {t : Text} (h : TagFree t) : dropTags t = t := by
  induction t with
  | nil => rfl
  | cons c t ih =>
      have hnone : tag? c t = none := by
        rw [tag?_eq_none_iff]
        rintro rfl
        exact (tagFree_opening.1 h).2
      have hrest : TagFree t := h.of_isInfix (List.suffix_cons c t).isInfix
      exact (erase_cons_of_none hnone).trans (congrArg (c :: ·) (ih hrest))

/-- No tag is removed from an escaped text. -/
lemma untagged_escape (t : Text) : untagged (escape t) = escape t := by
  have hclean : ∀ c ∈ escape t, c ≠ '<' := by
    rintro c hc rfl
    exact bracket_not_mem_escape t hc
  have hpre : dropPreTags (escape t) = escape t :=
    erase_eq_self fun c hc rest => if_neg (hclean c hc)
  rw [untagged, hpre]
  exact erase_eq_self fun c hc rest => if_neg (hclean c hc)

/-- The plain text of an escaped part is what is left of the text without pairs of brackets. -/
lemma plain_escape (t : Text) : plain (openingTag ++ escape t) = dropTags t := by
  have huntagged : untagged (openingTag ++ escape t) = escape t :=
    (untagged_openingTag _).trans (untagged_escape t)
  rw [plain, huntagged, resolve_escape]

lemma dropHeader_singleton (limit : Nat) (l : Text) : dropHeader limit [l] = [l] := by
  rw [dropHeader, List.findIdx?_singleton]
  cases isContent l <;> simp

section

variable {r : Conversion} {t : Text}

lemma part?_escaped : r.part? (inPage [] (escape t) []) = some (openingTag ++ escape t) :=
  Conversion.part?_of_preformatted? (preformatted?_inPage (by decide) _ (by decide))

/-- A page with an escaped text is not refused. -/
lemma apply_escaped :
    r.apply (inPage [] (escape t) []) = .ok (r.text (inPage [] (escape t) [])) := by
  have huntagged : untagged (openingTag ++ escape t) = escape t :=
    (untagged_openingTag _).trans (untagged_escape t)
  rw [Conversion.apply, part?_escaped, Option.bind_some, huntagged, oversized?_escape]

/-- A text of one line is one line without pairs of brackets. -/
lemma bodyLines_escaped (h : '\n' ∉ t) :
    r.bodyLines (openingTag ++ escape t) = r.lines [dropTags t] := by
  have hline : '\n' ∉ dropTags t := fun hmem => h ((erase_sublist tag? t).subset hmem)
  rw [Conversion.bodyLines, plain_escape, splitOn_of_not_mem hline, dropHeader_singleton]

/-- **If a rule for lines keeps letters, so does the conversion.**  Here `kept` is what the rule
keeps of a line. -/
lemma Conversion.Tidy.spells_text (hr : r.Tidy) (kept : Text → Text)
    (hline : ∀ l, Spells (letters (kept l)) (r.line l).flatten)
    (hblank : ∀ l, strip l = [] → letters (kept l) = []) (h : '\n' ∉ t) :
    Spells (letters ((r.lines [dropTags t]).flatMap kept)) (r.text (inPage [] (escape t) [])) := by
  have hlines : ∀ ls : List Text,
      Spells (letters (ls.flatMap kept)) ((notBlank ls).flatMap r.line).flatten := by
    intro ls
    induction ls with
    | nil => exact spells_of_sublist (List.Sublist.refl [])
    | cons l ls ih =>
        rw [List.flatMap_cons, letters_append]
        by_cases hl : strip l = []
        · rw [hblank l hl, notBlank, List.filter_cons_of_neg (by simp [hl])]
          exact ih
        · rw [notBlank, List.filter_cons_of_pos (by simp [hl]), List.flatMap_cons,
            List.flatten_append]
          exact (hline l).append ih
  have hfull := hr.full_text (part?_escaped (t := t))
  rw [bodyLines_escaped h] at hfull
  have hall := hlines (r.lines [dropTags t])
  rw [← hfull, flatten_full] at hall
  exact hall.mono (flatten_splitOn_sublist '\n' _)

end

/-! ## The two rules -/

/-- The rule for transcripts keeps the letters of a line. -/
lemma spells_transcriptLine (l : Text) : Spells (letters l) (transcriptLine l).flatten := by
  have hstrip : (letters l).Sublist (strip l) := letters_strip l ▸ letters_sublist (strip l)
  rcases transcriptLine_cases l with ⟨-, h⟩ | ⟨-, h⟩ | ⟨-, left, right, hcut, -, h⟩ | ⟨-, -, h⟩
  · rw [h, List.flatten_singleton]
    exact spells_upper hstrip
  · rw [h, List.flatten_singleton]
    exact spells_of_sublist hstrip
  · -- only blanks and the colon are lost
    have hparts : letters l = letters (strip left) ++ letters (strip right) := by
      have hcolon : letters (':' :: right) = letters right := rfl
      rw [← letters_strip l, append_of_cut? hcut, letters_append, hcolon, letters_strip,
        letters_strip]
    have hright : (if (strip right).isEmpty then [] else [strip right]).flatten = strip right := by
      cases strip right <;> simp
    rw [h, List.flatten_cons, hright, hparts]
    exact spells_of_sublist ((letters_sublist _).append (letters_sublist _))
  · rw [h, List.flatten_singleton]
    exact spells_of_sublist ((hstrip.cons ' ').cons '>')

/-- A line without the scene number in front of its heading, if it has one. -/
def withoutNumber (l : Text) : Text :=
  if isNumberedHeading (strip l) then dropNumber (strip l) else l

/-- Only a scene number is lost. -/
lemma letters_withoutNumber {l : Text}
    (h : isNumberedHeading (strip l) = true → afterNumber? (strip l) = none) :
    letters (withoutNumber l) = letters l := by
  rw [withoutNumber]
  split_ifs with hheading
  · rw [dropNumber, h hheading, Option.getD_none, letters_strip]
  · rfl

/-- The rule for films keeps the letters of a line but for a scene number. -/
lemma spells_filmLine (l : Text) : Spells (letters (withoutNumber l)) (filmLine l).flatten := by
  have hsub : (letters (withoutNumber l)).Sublist (strip l) := by
    rw [withoutNumber]
    split_ifs
    · exact (letters_sublist _).trans (dropNumber_suffix _).sublist
    · exact letters_strip l ▸ letters_sublist (strip l)
  rcases filmLine_cases l with ⟨hheading, h⟩ | ⟨-, h⟩ | h
  · rw [h, List.flatten_singleton, withoutNumber, if_pos hheading]
    exact spells_upper (letters_sublist _)
  · rw [h, List.flatten_singleton]
    exact spells_of_sublist ((hsub.cons ' ').cons '>')
  · rw [h, List.flatten_singleton]
    exact spells_of_sublist hsub

/-! ## The result -/

/-- **Escaped text is kept up to brackets and scene numbers.**  A page whose part is an escaped text
of one line is converted, not refused.

* The letters and digits of a transcript are spelt in the result, except those between a pair of
  angle brackets.
* So are those of a film, except for the scene number in front of a heading.
* Without such a pair nothing is lost to brackets, and without such a number nothing else is. -/
theorem escaped_letters_kept {t : Text} (h : '\n' ∉ t) :
    (∃ out, transcript.apply (inPage [] (escape t) []) = .ok out ∧
      Spells (letters (dropTags t)) out) ∧
    (∃ out, film.apply (inPage [] (escape t) []) = .ok out ∧
      Spells (letters ((lines (dropTags t)).flatMap withoutNumber)) out) ∧
    (TagFree t → dropTags t = t) ∧
    ((∀ l ∈ lines (dropTags t), isNumberedHeading (strip l) = true →
        afterNumber? (strip l) = none) →
      letters ((lines (dropTags t)).flatMap withoutNumber) = letters (dropTags t)) := by
  refine ⟨⟨_, apply_escaped, ?_⟩, ⟨_, apply_escaped, ?_⟩, dropTags_eq_self, fun hnumber => ?_⟩
  · have hall := transcript_tidy.spells_text id spells_transcriptLine
      (fun l hl => by rw [id, letters_eq_nil hl]) h
    have hone : (transcript.lines [dropTags t]).flatten = dropTags t := List.flatten_singleton
    rwa [List.flatMap_id, hone] at hall
  · refine film_tidy.spells_text withoutNumber spells_filmLine (fun l hl => ?_) h
    rw [letters_withoutNumber fun _ => by rw [hl]; rfl, letters_eq_nil hl]
  · rw [letters_flatMap fun l hl => letters_withoutNumber (hnumber l hl), letters_lines]

/-- A numbered heading with all five characters that are escaped, and one pair of brackets. -/
def numberedText : Text := "12 int. Tom's <\"big\"> hall & 3 < 4"

/-- The two losses, and what is kept. -/
theorem escaped_letters_kept_sample :
    '\n' ∉ numberedText ∧
    escape numberedText =
      "12 int. Tom&#x27;s &lt;&quot;big&quot;&gt; hall &amp; 3 &lt; 4".toList ∧
    (∃ out, transcript.apply (inPage [] (escape numberedText) []) = .ok out ∧
      Spells "12intTomshall34".toList out) ∧
    ∃ out, film.apply (inPage [] (escape numberedText) []) = .ok out ∧
      Spells "intTomshall34".toList out := by
  have hline : '\n' ∉ numberedText := by decide
  have hletters : letters (dropTags numberedText) = "12intTomshall34".toList := by decide +kernel
  have hfilm : letters ((lines (dropTags numberedText)).flatMap withoutNumber) =
      "intTomshall34".toList := by decide +kernel
  obtain ⟨htranscript, hlines, -, -⟩ := escaped_letters_kept hline
  rw [hletters] at htranscript
  rw [hfilm] at hlines
  exact ⟨hline, by decide +kernel, htranscript, hlines⟩

/-- **Not every letter and digit of a line of content is kept.**  A word between brackets is lost by
both conversions, and a scene number by the one for films. -/
theorem escaped_letters_lost :
    isContent "Say <nothing> now".toList = true ∧
    transcript.apply (inPage [] (escape "Say <nothing> now") []) = .ok "Say  now".toList ∧
    film.apply (inPage [] (escape "Say <nothing> now") []) = .ok "Say  now".toList ∧
    ¬ Spells (letters "Say <nothing> now") "Say  now".toList ∧
    isContent "1234 INT. HALL".toList = true ∧
    film.apply (inPage [] (escape "1234 INT. HALL") []) = .ok "INT. HALL".toList ∧
    ¬ Spells (letters "1234 INT. HALL") "INT. HALL".toList := by
  refine ⟨by decide, by decide +kernel, by decide +kernel, fun h => ?_, by decide,
    by decide +kernel, fun h => ?_⟩
  · exact absurd h.length_le (by decide +kernel)
  · exact absurd h.length_le (by decide +kernel)

end Gleaner.Screenplay
