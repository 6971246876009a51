import Gleaner.Proofs.Screenplay.Reading

/-!
# An element hangs on two lines

The reader of elements goes through the lines of a text and looks ahead past blank lines.  Here it
is put as a function of two arguments: `elementOf` of a line and of the next line that counts
(`elements_local`).  The lines that count are those that are not blank, without the blanks at their
ends (`solidLines`).

**Lines that count.**  A newline divides them (`solidLines_append_newline`), and blanks before it or
at the end of the text add nothing to them (`solidLines_append_blank`).  So blank lines may come and
go, and so may carriage returns (`solidLines_withReturns`).

**What is written later.**  New lines behind a text give a next line to its last line, and leave all
other elements as they were (`dropLast_prefix_classified`).  What is added to the last line itself
changes that line, so the element before it may change as well, and no other
(`exists_solidLines_append`).
-/

namespace Gleaner.Text

/-! ## Lines that count -/

/-- The lines of a text that count: those that are not blank, without the blanks at their ends. -/
def solidLines (t : Text) : List Text :=
  (notBlank (splitOn '\n' t)).map stripRight

/-- A text with a carriage return before every newline. -/
def withReturns (t : Text) : Text :=
  t.flatMap fun c => if c = '\n' then ['\r', '\n'] else [c]

/-- A blank at the end is stripped. -/
lemma stripRight_append_blank {c : Char} (hc : isBlank c = true) (t : Text) :
    stripRight (t ++ [c]) = stripRight t := by
  induction t with
  | nil => simp [stripRight, hc]
  | cons d t ih => rw [List.cons_append, stripRight, ih, stripRight]

lemma strip_append_blank {c : Char} (hc : isBlank c = true) (t : Text) :
    strip (t ++ [c]) = strip t := by
  rw [← strip_stripRight, stripRight_append_blank hc, strip_stripRight]

lemma notBlank_append (ls ms : List Text) : notBlank (ls ++ ms) = notBlank ls ++ notBlank ms :=
  List.filter_append ..

/-- **A newline divides the lines that count.** -/
lemma solidLines_append_newline (a b : Text) :
    solidLines (a ++ '\n' :: b) = solidLines a ++ solidLines b := by
  simp only [solidLines, splitOn_append_cons, notBlank_append, List.map_append]

lemma solidLines_nil : solidLines [] = [] := rfl

lemma solidLines_append_blankChar {c : Char} (hc : isBlank c = true) (a : Text) :
    solidLines (a ++ [c]) = solidLines a := by
  by_cases hnewline : c = '\n'
  · subst hnewline
    rw [solidLines_append_newline, solidLines_nil, List.append_nil]
  · obtain ⟨front, last, first, rest, ha, hb, hab⟩ := exists_splitOn_append '\n' a [c]
    obtain ⟨rfl, rfl⟩ : first = [c] ∧ rest = [] := by
      simpa [splitOn, hnewline, eq_comm] using hb
    have hlast : (notBlank [last ++ [c]]).map stripRight = (notBlank [last]).map stripRight := by
      simp only [notBlank, List.filter_singleton, strip_append_blank hc]
      cases (strip last).isEmpty <;> simp [stripRight_append_blank hc]
    simp only [solidLines, ha, hab, notBlank_append, List.map_append, hlast]

/-- **Blanks behind a text add no line that counts.** -/
lemma solidLines_append_blank {blank : Text} (h : isBlankText blank = true) (a : Text) :
    solidLines (a ++ blank) = solidLines a := by
  induction blank generalizing a with
  | nil => rw [List.append_nil]
  | cons c blank ih =>
      simp only [isBlankText, List.all_cons, Bool.and_eq_true] at h
      rw [← List.singleton_append, ← List.append_assoc, ih h.2,
        solidLines_append_blankChar h.1]

/-- **Carriage returns before newlines do not count.**  The induction goes along the text, behind a
part of it that is done. -/
lemma solidLines_withReturns (t : Text) : solidLines (withReturns t) = solidLines t := by
  suffices h : ∀ a, solidLines (a ++ withReturns t) = solidLines (a ++ t) from h []
  induction t with
  | nil => exact fun a => rfl
  | cons c t ih =>
      intro a
      by_cases hc : c = '\n'
      · subst hc
        have hreturn : a ++ withReturns ('\n' :: t) = (a ++ ['\r']) ++ '\n' :: withReturns t := by
          simp [withReturns]
        have hrest : solidLines (withReturns t) = solidLines t := ih []
        rw [hreturn, solidLines_append_newline, solidLines_append_newline, hrest,
          solidLines_append_blankChar (by decide)]
      · have hkept : a ++ withReturns (c :: t) = (a ++ [c]) ++ withReturns t := by
          simp [withReturns, hc]
        rw [hkept, ih, List.append_assoc, List.singleton_append]

/-- What is added to a text leaves its lines that count as they were, the last of them apart. -/
lemma exists_solidLines_append (t u : Text) :
    ∃ kept last more, solidLines t = kept ++ last ∧ last.length ≤ 1 ∧
      solidLines (t ++ u) = kept ++ more := by
  obtain ⟨front, last, first, rest, ht, -, htu⟩ := exists_splitOn_append '\n' t u
  refine ⟨(notBlank front).map stripRight, (notBlank [last]).map stripRight,
    (notBlank ((last ++ first) :: rest)).map stripRight, ?_, ?_, ?_⟩
  · rw [solidLines, ht, notBlank_append, List.map_append]
  · rw [List.length_map]
    exact List.length_filter_le _ _
  · rw [solidLines, htu, notBlank_append, List.map_append]

lemma strip_ne_nil_of_mem_solidLines {t l : Text} (h : l ∈ solidLines t) : strip l ≠ [] := by
  obtain ⟨m, hm, rfl⟩ := List.mem_map.1 h
  rw [strip_stripRight]
  exact (mem_notBlank.1 hm).2

end Gleaner.Text

namespace Gleaner.Screenplay

open Text

/-! ## Elements of adjacent lines -/

/-- The element of a line, given the next line that counts, if there is one. -/
def elementOf (line : Text) (next : Option Text) : Element :=
  classify line next.toList

section

variable {ls ms : List Text} (hls : ∀ l ∈ ls, strip l ≠ [])

include hls

/-- The reader does not look past a line that is not blank. -/
lemma classify_eq_elementOf (line : Text) : classify line ls = elementOf line ls.head? := by
  refine classify_congr line ?_
  cases ls with
  | nil => rfl
  | cons l ls =>
      have hl : strip l ≠ [] := hls l List.mem_cons_self
      simp [spokenNext, hl]

/-- **Every element is that of a line and its next one.** -/
lemma getElem?_classified (i : Nat) :
    (classified ls)[i]? = ls[i]?.map fun l => elementOf l ls[i + 1]? := by
  induction ls generalizing i with
  | nil => rfl
  | cons l ls ih =>
      rw [List.forall_mem_cons] at hls
      rw [classified]
      cases i with
      | zero => simp [classify_eq_elementOf hls.2, List.head?_eq_getElem?]
      | succ i => simpa using ih hls.2 i

/-- **Lines behind others give a next line to the last of them**, and all elements before stay. -/
lemma dropLast_prefix_classified : (classified ls).dropLast <+: classified (ls ++ ms) := by
  induction ls with
  | nil => exact List.nil_prefix
  | cons l ls ih =>
      rw [List.forall_mem_cons] at hls
      cases ls with
      | nil => exact List.nil_prefix
      | cons m ls =>
          have hm : strip m ≠ [] := hls.2 m List.mem_cons_self
          have hsame : classify l (m :: (ls ++ ms)) = classify l (m :: ls) :=
            classify_congr l (by simp [spokenNext, hm])
          have hrest := ih hls.2
          simp only [classified, List.cons_append, List.dropLast_cons_cons, hsame] at hrest ⊢
          exact (List.prefix_cons_inj _).2 hrest

end

lemma length_classified (ls : List Text) : (classified ls).length = ls.length := by
  induction ls with
  | nil => rfl
  | cons l ls ih => rw [classified, List.length_cons, ih, List.length_cons]

/-- The reader only sees the lines that count. -/
lemma elements_eq (t : Text) : elements t = classified (solidLines t) :=
  elements_eq_classified t

lemma elements_congr {t u : Text} (h : solidLines t = solidLines u) : elements t = elements u := by
  rw [elements_eq, elements_eq, h]

/-- What is added to the last line changes its element and the one before it at most. -/
lemma dropLast_dropLast_prefix_append (t u : Text) :
    (elements t).dropLast.dropLast <+: elements (t ++ u) := by
  obtain ⟨kept, last, more, ht, hlast, htu⟩ := exists_solidLines_append t u
  have hkept : ∀ l ∈ kept, strip l ≠ [] := fun l hl =>
    strip_ne_nil_of_mem_solidLines (t := t) (by simp [ht, hl])
  rw [elements_eq, elements_eq, ht, htu]
  -- both lists go on from the elements of the lines before the last one
  have hold : (classified kept).dropLast <+: classified (kept ++ last) :=
    dropLast_prefix_classified hkept
  have hnew : (classified kept).dropLast <+: classified (kept ++ more) :=
    dropLast_prefix_classified hkept
  refine List.IsPrefix.trans ?_ hnew
  refine List.prefix_of_prefix_length_le
    (((List.dropLast_prefix _).trans (List.dropLast_prefix _))) hold ?_
  simp only [List.length_dropLast, length_classified, List.length_append]
  omega

/-- **An element hangs on its line and the next one that counts.**

* A text has one element for every line that counts, in order, and it is `elementOf` of the line
  and of the next one that counts, if there is one.
* Blanks before a newline or at the end of a text, with or without newlines among them, change
  nothing, nor do blank lines in front; so blank lines may be put in and taken out, and lines may
  have blanks at their ends.
* Carriage returns before the newlines change nothing.
* New lines behind a text change its last element at most; what is added to its last line changes
  its last two at most. -/
theorem elements_local :
    (∀ t, (elements t).length = (solidLines t).length ∧ ∀ i,
      (elements t)[i]? = (solidLines t)[i]?.map fun l => elementOf l (solidLines t)[i + 1]?) ∧
    (∀ a blank b, isBlankText blank = true →
      elements (a ++ blank ++ '\n' :: b) = elements (a ++ '\n' :: b) ∧
      elements (a ++ blank) = elements a ∧ elements (blank ++ '\n' :: b) = elements b) ∧
    (∀ t, elements (withReturns t) = elements t) ∧
    ∀ t u, (elements t).dropLast <+: elements (t ++ '\n' :: u) ∧
      (elements t).dropLast.dropLast <+: elements (t ++ u) := by
  refine ⟨fun t => ⟨?_, fun i => ?_⟩, fun a blank b hblank => ⟨?_, ?_, ?_⟩, fun t => ?_,
    fun t u => ⟨?_, dropLast_dropLast_prefix_append t u⟩⟩
  · rw [elements_eq, length_classified]
  · rw [elements_eq]
    exact getElem?_classified (fun l hl => strip_ne_nil_of_mem_solidLines hl) i
  · refine elements_congr ?_
    rw [solidLines_append_newline, solidLines_append_newline, solidLines_append_blank hblank]
  · exact elements_congr (solidLines_append_blank hblank a)
  · refine elements_congr ?_
    have hnone : solidLines blank = [] := solidLines_append_blank hblank []
    rw [solidLines_append_newline, hnone, List.nil_append]
  · exact elements_congr (solidLines_withReturns t)
  · rw [elements_eq, elements_eq, solidLines_append_newline]
    exact dropLast_prefix_classified fun l hl => strip_ne_nil_of_mem_solidLines hl

/-- A speaker stays one before blanks, blank lines and carriage returns. -/
theorem elements_local_sample :
    isBlankText "\t \n\u3000".toList = true ∧
    elements ("BOB".toList ++ "\t \n\u3000".toList ++ '\n' :: "Hello.".toList) =
      elements ("BOB".toList ++ '\n' :: "Hello.".toList) ∧
    elements (withReturns ("BOB".toList ++ '\n' :: "Hello.".toList)) =
      elements ("BOB".toList ++ '\n' :: "Hello.".toList) ∧
    elements ("BOB".toList ++ '\n' :: "Hello.".toList) =
      [⟨.character, "BOB".toList⟩, ⟨.action, "Hello.".toList⟩] := by
  have hblank : isBlankText "\t \n\u3000".toList = true := by decide
  obtain ⟨-, hblanks, hreturns, -⟩ := elements_local
  exact ⟨hblank, (hblanks _ _ _ hblank).1, hreturns _, by decide⟩

/-- A letter that is added to the last line makes a speaker of the line before it. -/
theorem earlier_element_changed :
    elements "BOB\nHELLO".toList = [⟨.action, "BOB".toList⟩, ⟨.action, "HELLO".toList⟩] ∧
    elements ("BOB\nHELLO".toList ++ "x".toList) =
      [⟨.character, "BOB".toList⟩, ⟨.action, "HELLOx".toList⟩] ∧
    ¬(elements "BOB\nHELLO".toList).dropLast <+:
      elements ("BOB\nHELLO".toList ++ "x".toList) := by
  decide

end Gleaner.Screenplay
