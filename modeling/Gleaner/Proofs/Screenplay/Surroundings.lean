import Gleaner.Proofs.Screenplay.TidyLines

/-!
# What stands around the part

A page has more on it than the preformatted part: menus, scripts, advertisements, other tags.  None
of this reaches the converted text, and none of it decides whether the page is refused
(`surroundings_left_out`).

**The part.**  Both tags are texts that cannot overlap themselves.  So the opening tag is found
where nothing before holds it and the closing tag where nothing behind holds it, whatever the text
around them begins or ends with: `preformatted?_inPage`.

**After that** a conversion only looks at the part (`Conversion.apply_congr`), and of the part only
at what is left without its tags.

**Pages without a part.**  `preformatted?_eq_none`.  A page that is taken whole is converted like
one on which all of it stands between the tags (`apply_eq_apply_inPage`).
-/

namespace Gleaner.Screenplay

open Text

/-- The tag that opens the preformatted part. -/
def openingTag : Text := "<pre>"

/-- The tag that opens the preformatted part, up to its first attribute. -/
def attributedTag : Text := "<pre "

/-- The tag that closes the preformatted part. -/
def closingTag : Text := "</pre>"

/-- A page with a preformatted part, and what stands before and behind it. -/
def inPage (before part behind : Text) : Text :=
  before ++ openingTag ++ part ++ closingTag ++ behind

/-! ## The part -/

/-- **The part is cut out at its own tags**, whatever stands around them. -/
lemma preformatted?_inPage {before behind : Text} (hbefore : ¬ openingTag <:+: before)
    (part : Text) (hbehind : ¬ closingTag <:+: behind) :
    preformatted? (inPage before part behind) = some (openingTag ++ part) := by
  have hfirst : indexOf? "<pre>" (inPage before part behind) = some before.length := by
    have hshape : inPage before part behind =
        before ++ (openingTag ++ (part ++ closingTag ++ behind)) := by
      simp only [inPage, List.append_assoc]
    rw [hshape]
    exact indexOf?_append (p := "pre>".toList) (by decide) hbefore _
  have hlast : lastIndexOf? "</pre>" (inPage before part behind) =
      some (before ++ openingTag ++ part).length := by
    have hshape : inPage before part behind =
        before ++ openingTag ++ part ++ (closingTag ++ behind) := by
      simp only [inPage, List.append_assoc]
    rw [hshape]
    exact lastIndexOf?_append_part (p := "/pre>".toList) (by decide) _ hbehind
  have hlt : before.length < (before ++ openingTag ++ part).length := by
    have htag : List.length openingTag = 5 := rfl
    rw [List.length_append, List.length_append]
    omega
  have hslice : slice (inPage before part behind) before.length
      (before ++ openingTag ++ part).length = openingTag ++ part := by
    rw [slice, inPage, List.append_assoc _ closingTag, List.take_left, List.append_assoc,
      List.drop_left]
  rw [preformatted?, hfirst, hlast]
  dsimp only
  rw [if_pos hlt, hslice]

/-- A page on which no part is opened has none. -/
lemma preformatted?_eq_none {page : Text} (hopening : ¬ openingTag <:+: page)
    (hattributed : ¬ attributedTag <:+: page) : preformatted? page = none := by
  have hfirst : indexOf? "<pre>" page = none := indexOf?_eq_none_iff.2 hopening
  have hsecond : indexOf? "<pre " page = none := indexOf?_eq_none_iff.2 hattributed
  have hpart : attributedPart? page = none := by
    rw [attributedPart?, hsecond, Option.map_none]
  rw [preformatted?, hfirst, hpart]

/-! ## What a conversion looks at -/

section

variable {r : Conversion} {page page' part part' : Text}

/-- **A conversion looks at nothing but the part without its tags.** -/
lemma Conversion.apply_congr (hpart : r.part? page = some part) (hpart' : r.part? page' = some part')
    (h : untagged part = untagged part') : r.apply page = r.apply page' := by
  have hplain : plain part = plain part' := congrArg (fun t => dropTags (Markup.CharRef.resolve t)) h
  have hbody : r.bodyLines part = r.bodyLines part' := by
    rw [Conversion.bodyLines, hplain, Conversion.bodyLines]
  have htext : r.text page = r.text page' := by
    rw [Conversion.text_eq hpart, Conversion.text_eq hpart', Conversion.emitted, hbody,
      Conversion.emitted]
  simp only [Conversion.apply, hpart, hpart', Option.bind_some, h, htext]

lemma Conversion.part?_of_preformatted? (h : preformatted? page = some part) :
    r.part? page = some part := by
  rw [Conversion.part?, h]

/-- The opening tag is removed from the part. -/
lemma untagged_openingTag (part : Text) : untagged (openingTag ++ part) = untagged part := by
  have htag : preTag? '<' ("pre>".toList ++ part) = some 4 := rfl
  have hdrop : dropPreTags (openingTag ++ part) = dropPreTags part := erase_cons_of_some htag
  rw [untagged, hdrop, untagged]

/-- **A page that is taken whole is converted as if all of it were the part.** -/
lemma apply_eq_apply_inPage (hwhole : r.wholePages = true) (hnone : preformatted? page = none) :
    r.apply page = r.apply (inPage [] page []) := by
  have hpart : r.part? page = some page := by
    rw [Conversion.part?, hnone]
    exact if_pos hwhole
  have hinside : preformatted? (inPage [] page []) = some (openingTag ++ page) :=
    preformatted?_inPage (by decide) page (by decide)
  exact Conversion.apply_congr hpart (Conversion.part?_of_preformatted? hinside)
    (untagged_openingTag page).symm

end

/-! ## The result -/

/-- **What stands around the part never reaches the text.**  Two pages with the same preformatted
part are converted to the same text, or refused with the same fault.  Before the part anything may
stand that does not hold the opening tag, and behind it anything that does not hold the closing
one; what is converted is the part itself. -/
theorem surroundings_left_out (r : Conversion) (part : Text) {before before' behind behind' : Text}
    (hbefore : ¬ openingTag <:+: before) (hbefore' : ¬ openingTag <:+: before')
    (hbehind : ¬ closingTag <:+: behind) (hbehind' : ¬ closingTag <:+: behind') :
    r.apply (inPage before part behind) = r.apply (inPage before' part behind') ∧
      r.part? (inPage before part behind) = some (openingTag ++ part) := by
  have hpart : r.part? (inPage before part behind) = some (openingTag ++ part) :=
    Conversion.part?_of_preformatted? (preformatted?_inPage hbefore part hbehind)
  have hpart' : r.part? (inPage before' part behind') = some (openingTag ++ part) :=
    Conversion.part?_of_preformatted? (preformatted?_inPage hbefore' part hbehind')
  exact ⟨Conversion.apply_congr hpart hpart' rfl, hpart⟩

/-- Text before a part that ends like the beginning of its tag, behind a tag with an attribute. -/
def chromeBefore : Text := "<pre class=ad>KYLE: Buy!</pre> &lt; <pre"

/-- Text behind a part that opens another one and does not close it. -/
def chromeBehind : Text := "pre> <pre>FADE OUT</pre >"

/-- The same part among such text and by itself. -/
theorem surroundings_left_out_sample :
    (¬ openingTag <:+: chromeBefore ∧ ¬ closingTag <:+: chromeBehind) ∧
    transcript.apply (inPage [] "KYLE: Hey.</pre>\nint. hall <pre>" []) =
      .ok "KYLE\nHey.\nINT. HALL".toList ∧
    transcript.apply (inPage chromeBefore "KYLE: Hey.</pre>\nint. hall <pre>" chromeBehind) =
      transcript.apply (inPage [] "KYLE: Hey.</pre>\nint. hall <pre>" []) ∧
    film.apply (inPage chromeBefore "KYLE: Hey.</pre>\nint. hall <pre>" chromeBehind) =
      film.apply (inPage [] "KYLE: Hey.</pre>\nint. hall <pre>" []) := by
  have hbefore : ¬ openingTag <:+: chromeBefore := by decide
  have hbehind : ¬ closingTag <:+: chromeBehind := by decide
  refine ⟨⟨hbefore, hbehind⟩, by decide +kernel, ?_, ?_⟩
  · exact (surroundings_left_out transcript _ hbefore (by decide) hbehind (by decide)).1
  · exact (surroundings_left_out film _ hbefore (by decide) hbehind (by decide)).1

end Gleaner.Screenplay
