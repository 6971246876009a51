import Gleaner.Markup.Token
import Gleaner.Proofs.Text.Parts
import Mathlib.Data.List.TakeWhile

/-!
# Text between tags

What the scanner makes of a text in front of a tag.

**Scanning with fuel enough.**  `Scans t ts` says that the scanner takes a text apart into these
tokens and does not settle on the way.  There is one lemma for each construct, and the tokens of the
text behind it are given.

**Tagless texts.**  A text is tagless if no angle bracket in it opens a piece of markup and every
number behind `&#` can be read.  In front of a tag it only gives text tokens, which make up the text
with its references replaced: `reads_of_isTagless`.

**References.**  Names and numbers do not end where `CharRef.resolve` ends them.  A tag ends both,
so what they are can be told from the text alone (`numberedReference?_append`,
`namedReference?_append`).
-/

namespace Gleaner.Text

lemma takeWhile_append_stop {p : Char → Bool} {m : Char} (hm : p m = false) (t rest : Text) :
    (t ++ m :: rest).takeWhile p = t.takeWhile p := by
  induction t with
  | nil => simp [hm]
  | cons c t ih => by_cases hc : p c = true <;> simp [hc, ih]

lemma drop_takeWhile_append (p : Char → Bool) (t s : Text) :
    (t ++ s).drop (t.takeWhile p).length = t.drop (t.takeWhile p).length ++ s :=
  List.drop_append_of_le_length (List.takeWhile_prefix p).length_le

end Gleaner.Text

namespace Gleaner.Markup.Token

open Text

/-! ## Scanning with fuel enough -/

/-- With fuel enough the scanner gives these tokens, and it does not settle. -/
def Scans (t : Text) (ts : List Token) : Prop :=
  ∀ fuel, t.length < fuel → scanFrom false none fuel t = .ok ts

lemma Scans.scan {t : Text} {ts : List Token} (h : Scans t ts) : scan t = .ok ts :=
  h _ (by omega)

lemma scans_nil : Scans [] []
  | 0, h => absurd h (Nat.not_lt_zero _)
  | _ + 1, _ => rfl

section

variable {t ahead rest run : Text} {ts more : List Token}

/-- A step of the scanner that takes characters. -/
lemma Scans.of_step (h : Scans rest more) (hlength : rest.length < t.length)
    (hstep : ∀ fuel, scanFrom false none fuel rest = .ok more →
      scanFrom false none (fuel + 1) t = .ok (ts ++ more)) : Scans t (ts ++ more) := by
  intro fuel hfuel
  obtain ⟨n, rfl⟩ : ∃ n, fuel = n + 1 := ⟨fuel - 1, by omega⟩
  exact hstep n (h n (by omega))

/-- A piece of markup that opens no raw element. -/
lemma Scans.piece (h : Scans rest more) (hpiece : piece? ahead = .ok (some (.tokens ts rest)))
    (hraw : rawOpened ts = none) (hlength : rest.length ≤ ahead.length) :
    Scans ('<' :: ahead) (ts ++ more) := by
  refine h.of_step (Nat.lt_succ_of_le hlength) fun fuel hmore => ?_
  simp [scanFrom, hpiece, hraw, hmore, bind, Except.bind, pure, Except.pure, Except.map, ofText]

/-- A tag that opens no raw element. -/
lemma Scans.tag (h : Scans rest more) (tag : Text) (token : Token)
    (htag : piece? (tag ++ rest) = .ok (some (.tokens [token] rest)))
    (hraw : rawOpened [token] = none) : Scans ('<' :: (tag ++ rest)) (token :: more) :=
  h.piece htag hraw (by rw [List.length_append]; omega)

/-- An angle bracket that opens nothing. -/
lemma Scans.bracket (h : Scans ahead more) (hpiece : piece? ahead = .ok none)
    (hahead : ahead ≠ []) : Scans ('<' :: ahead) (ofText ['<'] ++ more) := by
  refine h.of_step (Nat.lt_succ_self _) fun fuel hmore => ?_
  simp [scanFrom, hpiece, hahead, hmore, bind, Except.bind, pure, Except.pure, Except.map, ofText]

/-- A number that can be read. -/
lemma Scans.number {chars : Text} (h : Scans rest more)
    (hnumber : numberedReference? ahead = some (.ok chars, rest))
    (hlength : rest.length ≤ ahead.length) :
    Scans ('&' :: '#' :: ahead) (ofText chars ++ more) := by
  refine h.of_step (by simp; omega) fun fuel hmore => ?_
  simp [scanFrom, hnumber, hmore, bind, Except.bind, pure, Except.pure, Except.map, ofText]

/-- A name, known or not. -/
lemma Scans.name {name : Text} (h : Scans rest more)
    (hname : namedReference? ahead = some (name, rest)) (hlength : rest.length ≤ ahead.length) :
    Scans ('&' :: ahead) (ofText (namedText name) ++ more) := by
  refine h.of_step (Nat.lt_succ_of_le hlength) fun fuel hmore => ?_
  cases ahead with
  | nil => cases hname
  | cons c ahead =>
      have hhash : c ≠ '#' := by
        rintro rfl
        cases hname
      simp [scanFrom, hhash, hname, hmore, bind, Except.bind, pure, Except.pure, Except.map, ofText]

/-- An ampersand in front of anything else. -/
lemma Scans.ampersand {c : Char} (h : Scans (c :: ahead) more) (hc : c.isAlpha = false)
    (hhash : c ≠ '#') : Scans ('&' :: c :: ahead) (ofText ['&'] ++ more) := by
  refine h.of_step (Nat.lt_succ_self _) fun fuel hmore => ?_
  simp [scanFrom, namedReference?, hc, hhash, hmore, bind, Except.bind, pure, Except.pure,
    Except.map, ofText]

/-- A character at which running text ends. -/
def isMark (c : Char) : Bool :=
  c == '<' || c == '&'

lemma map_ofText {found : Except Fault (List Token)}
    (h : (found.map fun more => ofText [] ++ more) = .ok more) (run : Text) :
    (found.map fun more => ofText run ++ more) = .ok (ofText run ++ more) := by
  cases found with
  | error fault => cases h
  | ok ts =>
      cases h
      rfl

/-- Running text in front of a mark. -/
lemma Scans.running {m : Char} (h : Scans (m :: rest) more) (hm : isMark m = true)
    (hrun : ∀ c ∈ run, isMark c = false) : Scans (run ++ m :: rest) (ofText run ++ more) := by
  have hmark : ∀ c, (c != '<' && c != '&') = !isMark c := fun c => by simp [isMark, bne]
  have hstart : (m :: rest).takeWhile (fun c => c != '<' && c != '&') = [] :=
    List.takeWhile_cons_of_neg (by simp [hmark, hm])
  have hbefore : (run ++ m :: rest).takeWhile (fun c => c != '<' && c != '&') = run := by
    rw [List.takeWhile_append_of_pos fun c hc => by rw [hmark, hrun c hc]; rfl, hstart,
      List.append_nil]
  intro fuel hfuel
  obtain ⟨n, rfl⟩ : ∃ n, fuel = n + 1 := ⟨fuel - 1, by omega⟩
  have hrest := h (n + 1) (by rw [List.length_append] at hfuel; omega)
  rw [scanFrom] at hrest ⊢
  simp only [hbefore, hstart, List.drop_left, List.length_nil, List.drop_zero] at hrest ⊢
  -- both go on in the same way behind the running text
  exact map_ofText hrest run

end

/-! ## Tagless texts -/

/-- The number behind `&#` in a text in front of a tag: how many characters it takes and what it
stands for.  Decimal digits may not be followed by a hexadecimal one. -/
def pageNumber? (t : Text) : Option (Nat × Text) :=
  let digits := t.takeWhile Char.isDigit
  let after := t.drop digits.length
  let hexDigits := (t.drop 1).takeWhile CharRef.isHexDigit
  if digits ≠ [] then
    if (after.head?.map CharRef.isHexDigit).getD false || maxDigits < digits.length then none
    else some (digits.length + CharRef.closing after, numbered (digitsValue digits))
  else if (t.head? = some 'x' ∨ t.head? = some 'X') ∧ hexDigits ≠ [] then
    some (1 + hexDigits.length + CharRef.closing ((t.drop 1).drop hexDigits.length),
      numbered (CharRef.hexValue hexDigits))
  else none

/-- The reference behind an ampersand in a text in front of a tag: how many characters it takes and
what it stands for. -/
def pageReference? : Text → Option (Nat × Text)
  | [] => none
  | c :: rest =>
      if c = '#' then (pageNumber? rest).map fun (n, chars) => (n + 1, chars)
      else if c.isAlpha then
        let name := (c :: rest).takeWhile isReferenceChar
        some (name.length + CharRef.closing ((c :: rest).drop name.length), namedText name)
      else none

/-- A text in front of a tag with its references replaced. -/
def reread (t : Text) : Text :=
  substitute (fun c rest => if c = '&' then pageReference? rest else none) t

/-- Whether a piece of markup opens with this behind its angle bracket. -/
def opensMarkup (t : Text) : Bool :=
  (t.head?.map fun c => c.isAlpha || c == '/' || c == '!' || c == '?').getD false

/-- No angle bracket opens a piece of markup, and every number behind `&#` can be read. -/
def isTagless : Text → Bool
  | [] => true
  | c :: rest =>
      !(c == '<' && opensMarkup rest) &&
        !(c == '&' && rest.head? == some '#' && (pageReference? rest).isNone) && isTagless rest

lemma isTagless_drop {t : Text} (h : isTagless t = true) : ∀ n, isTagless (t.drop n) = true := by
  induction t with
  | nil => simpa using h
  | cons c t ih =>
      intro n
      cases n with
      | zero => exact h
      | succ n =>
          rw [isTagless, Bool.and_eq_true] at h
          exact ih h.2 n

section

variable {t rest : Text}

/-- What follows a number, if the number ends there. -/
def numberEnd? (t : Text) : Option Text :=
  match t with
  | [] => none
  | ';' :: after => some after
  | c :: _ => if CharRef.isHexDigit c then none else some t

lemma numberedReference?_of_digits (h : t.takeWhile Char.isDigit ≠ [])
    (hfew : (t.takeWhile Char.isDigit).length ≤ maxDigits) :
    numberedReference? t = (numberEnd? (t.drop (t.takeWhile Char.isDigit).length)).map fun after =>
      (.ok (numbered (digitsValue (t.takeWhile Char.isDigit))), after) := by
  unfold numberedReference?
  rw [if_pos (by simpa using h), if_neg (Nat.not_lt.2 hfew)]
  rfl

lemma numberedReference?_of_hexDigits {x : Char} {body : Text} (hx : x = 'x' ∨ x = 'X')
    (h : body.takeWhile CharRef.isHexDigit ≠ []) : numberedReference? (x :: body) =
      (numberEnd? (body.drop (body.takeWhile CharRef.isHexDigit).length)).map fun after =>
        (.ok (numbered (CharRef.hexValue (body.takeWhile CharRef.isHexDigit))), after) := by
  have hdigits : (x :: body).takeWhile Char.isDigit = [] := by
    rcases hx with rfl | rfl <;> rfl
  have hform : ((x == 'x' || x == 'X') && !(body.takeWhile CharRef.isHexDigit).isEmpty) = true := by
    simp [hx, h]
  unfold numberedReference?
  simp only [hdigits, List.isEmpty_nil, Bool.not_true, Bool.false_eq_true, if_false, hform, if_true]
  rfl

/-- In front of a tag a number ends, unless one more hexadecimal digit follows. -/
lemma numberEnd?_append {after : Text}
    (h : (after.head?.map CharRef.isHexDigit).getD false = false) :
    numberEnd? (after ++ '<' :: rest) =
      some (after.drop (CharRef.closing after) ++ '<' :: rest) := by
  cases after with
  | nil => rfl
  | cons c after =>
      by_cases hc : c = ';'
      · subst hc
        rfl
      · have hhex : CharRef.isHexDigit c = false := h
        simp [numberEnd?, CharRef.closing, hc, hhex]

lemma head?_drop_takeWhile (p : Char → Bool) (t : Text) :
    ((t.drop (t.takeWhile p).length).head?.map p).getD false = false := by
  induction t with
  | nil => rfl
  | cons c t ih =>
      by_cases hc : p c = true
      · simpa [hc] using ih
      · simp [hc]

/-- **A number is read as if the text ended behind it.** -/
lemma numberedReference?_append {n : Nat} {chars : Text} (h : pageNumber? t = some (n, chars)) :
    numberedReference? (t ++ '<' :: rest) = some (.ok chars, t.drop n ++ '<' :: rest) := by
  have htake := takeWhile_append_stop (p := Char.isDigit) (m := '<') (by decide) t rest
  have hdrop := drop_takeWhile_append Char.isDigit t ('<' :: rest)
  unfold pageNumber? at h
  by_cases hdigits : t.takeWhile Char.isDigit = []
  · simp only [hdigits, ne_eq, not_true, if_false, Option.ite_none_right_eq_some] at h
    obtain ⟨⟨hx, hhex⟩, h⟩ := h
    obtain ⟨rfl, rfl⟩ := Prod.mk.inj (Option.some.inj h)
    cases t with
    | nil => simp at hx
    | cons x body =>
        rw [List.drop_one, List.tail_cons] at hhex ⊢
        have htake' :=
          takeWhile_append_stop (p := CharRef.isHexDigit) (m := '<') (by decide) body rest
        rw [List.cons_append, numberedReference?_of_hexDigits (by simpa using hx) (by rwa [htake']),
          htake', drop_takeWhile_append, numberEnd?_append (head?_drop_takeWhile _ body),
          Option.map_some, List.drop_drop, Nat.add_assoc, Nat.add_comm 1, List.drop_succ_cons]
  · simp only [hdigits, ne_eq, not_false_eq_true, if_true, Option.ite_none_left_eq_some,
      Bool.or_eq_true, not_or, decide_eq_true_eq, Nat.not_lt, Bool.not_eq_true] at h
    obtain ⟨⟨hend, hfew⟩, h⟩ := h
    obtain ⟨rfl, rfl⟩ := Prod.mk.inj (Option.some.inj h)
    rw [numberedReference?_of_digits (by rwa [htake]) (by rwa [htake]), htake, hdrop,
      numberEnd?_append hend, Option.map_some, List.drop_drop]

/-- **A name is read as if the text ended behind it.** -/
lemma namedReference?_append {c : Char} (hc : c.isAlpha = true) (t rest : Text) :
    ∃ name n, pageReference? (c :: t) = some (n, namedText name) ∧
      namedReference? (c :: t ++ '<' :: rest) = some (name, (c :: t).drop n ++ '<' :: rest) := by
  have hhash : c ≠ '#' := by
    rintro rfl
    exact absurd hc (by decide)
  have htake := takeWhile_append_stop (p := isReferenceChar) (m := '<') (by decide) (c :: t) rest
  have hdrop := drop_takeWhile_append isReferenceChar (c :: t) ('<' :: rest)
  refine ⟨(c :: t).takeWhile isReferenceChar, _,
    by rw [pageReference?, if_neg hhash, if_pos hc], ?_⟩
  rw [← List.drop_drop]
  unfold namedReference?
  rw [List.cons_append] at htake hdrop ⊢
  simp only [hc, htake, hdrop, Bool.not_true, Bool.false_eq_true, if_false]
  generalize (c :: t).drop ((c :: t).takeWhile isReferenceChar).length = after
  cases after with
  | nil => rfl
  | cons d after =>
      by_cases hd : d = ';'
      · subst hd
        rfl
      · simp [CharRef.closing, hd]

end

/-- A bracket that opens no markup in a text opens none in front of a tag. -/
lemma piece?_eq_none {t : Text} (h : opensMarkup t = false) (rest : Text) :
    piece? (t ++ '<' :: rest) = .ok none := by
  cases t with
  | nil => rfl
  | cons c t =>
      simp only [opensMarkup, List.head?_cons, Option.map_some, Option.getD_some,
        Bool.or_eq_false_iff, beq_eq_false_iff_ne] at h
      obtain ⟨⟨⟨halpha, hslash⟩, hbang⟩, hquestion⟩ := h
      unfold piece?
      split <;> simp_all

/-! ### References replaced -/

lemma reread_cons_of_ne {c : Char} (hc : c ≠ '&') (t : Text) : reread (c :: t) = c :: reread t :=
  substitute_cons_of_none (if_neg hc)

lemma reread_ampersand {t : Text} (h : pageReference? t = none) :
    reread ('&' :: t) = '&' :: reread t :=
  substitute_cons_of_none ((if_pos rfl).trans h)

lemma reread_reference {t chars : Text} {n : Nat} (h : pageReference? t = some (n, chars)) :
    reread ('&' :: t) = chars ++ reread (t.drop n) :=
  substitute_cons_of_some ((if_pos rfl).trans h)

lemma reread_append {run : Text} (h : ∀ c ∈ run, isMark c = false) (t : Text) :
    reread (run ++ t) = run ++ reread t := by
  induction run with
  | nil => rfl
  | cons c run ih =>
      have hc : c ≠ '&' := by
        rintro rfl
        exact absurd (h '&' List.mem_cons_self) (by decide)
      rw [List.cons_append, reread_cons_of_ne hc, ih fun d hd => h d (List.mem_cons_of_mem c hd),
        List.cons_append]

section

variable {rest : Text} {more : List Token}

/-- In front of a tag the text gives text tokens, which make up the text with its references
replaced. -/
def Reads (rest : Text) (more : List Token) (t : Text) : Prop :=
  ∃ texts : List Text, texts.flatten = reread t ∧
    Scans (t ++ '<' :: rest) (texts.flatMap ofText ++ more)

/-- One more text token in front. -/
lemma Reads.step {s t : Text} (h : Reads rest more s) (chars : Text)
    (hreread : reread t = chars ++ reread s)
    (hscans : ∀ {ts}, Scans (s ++ '<' :: rest) ts → Scans (t ++ '<' :: rest) (ofText chars ++ ts)) :
    Reads rest more t := by
  obtain ⟨texts, htexts, hs⟩ := h
  refine ⟨chars :: texts, ?_, ?_⟩
  · rw [List.flatten_cons, htexts, hreread]
  · rw [List.flatMap_cons, List.append_assoc]
    exact hscans hs

/-- Running text up to a mark, or to the end. -/
lemma Reads.running {run t : Text} (h : Reads rest more t) (hrun : ∀ c ∈ run, isMark c = false)
    (ht : ∀ c ∈ t.head?, isMark c = true) : Reads rest more (run ++ t) := by
  refine h.step run (reread_append hrun t) fun hs => ?_
  rw [List.append_assoc]
  cases t with
  | nil => exact hs.running rfl hrun
  | cons m t => exact hs.running (ht m rfl) hrun

/-- A bracket that opens nothing. -/
lemma Reads.bracket {t : Text} (h : Reads rest more t) (hopens : opensMarkup t = false) :
    Reads rest more ('<' :: t) :=
  h.step ['<'] (reread_cons_of_ne (by decide) t) fun hs =>
    hs.bracket (piece?_eq_none hopens rest) (by simp)

/-- An ampersand with a number, a name or anything else behind it. -/
lemma Reads.ampersand {t : Text} (h : ∀ n, Reads rest more (t.drop n))
    (hnumber : t.head? = some '#' → pageReference? t ≠ none) : Reads rest more ('&' :: t) := by
  have hlength : ∀ (s : Text) n, (s.drop n ++ '<' :: rest).length ≤ (s ++ '<' :: rest).length := by
    intro s n
    simp
  cases t with
  | nil =>
      exact (h 0).step ['&'] (reread_ampersand rfl) fun hs => hs.ampersand (by decide) (by decide)
  | cons c t =>
      by_cases hhash : c = '#'
      · subst hhash
        obtain ⟨⟨n, chars⟩, hfound⟩ := Option.ne_none_iff_exists'.1 (hnumber rfl)
        have hread := hfound
        rw [pageReference?, if_pos rfl] at hread
        obtain ⟨⟨k, _⟩, hk, hpair⟩ := Option.map_eq_some_iff.1 hread
        obtain ⟨rfl, rfl⟩ := Prod.mk.inj hpair
        refine (h (k + 1)).step _ (reread_reference hfound) fun hs => ?_
        exact hs.number (numberedReference?_append hk) (hlength t k)
      · by_cases halpha : c.isAlpha = true
        · obtain ⟨name, n, hfound, hname⟩ := namedReference?_append halpha t rest
          refine (h n).step _ (reread_reference hfound) fun hs => ?_
          exact hs.name hname (hlength (c :: t) n)
        · have hnone : pageReference? (c :: t) = none := by
            rw [pageReference?, if_neg hhash, if_neg halpha]
          refine (h 0).step ['&'] (reread_ampersand hnone) fun hs => ?_
          exact hs.ampersand (by simpa using halpha) hhash

end

/-- **A tagless text gives text tokens, which make up the text with its references replaced.**  By
induction on its length: running text or one construct, and then the rest. -/
lemma reads_of_isTagless {rest : Text} {more : List Token} (h : Scans ('<' :: rest) more) :
    ∀ {t : Text}, isTagless t = true → Reads rest more t
  | [], _ => ⟨[], rfl, h⟩
  | c :: t, ht => by
      have hdrop : ∀ n, Reads rest more (t.drop n) := fun n =>
        reads_of_isTagless h (isTagless_drop ht (n + 1))
      by_cases hmark : isMark c = true
      · simp only [isMark, Bool.or_eq_true, beq_iff_eq] at hmark
        rcases hmark with rfl | rfl
        · have hopens : opensMarkup t = false ∧ isTagless t = true := by simpa [isTagless] using ht
          exact (hdrop 0).bracket hopens.1
        · refine Reads.ampersand hdrop fun hhash hnone => ?_
          simp [isTagless, hhash, hnone] at ht
      · -- the text up to the next mark
        have hrun : ∀ d ∈ c :: t.takeWhile (fun d => !isMark d), isMark d = false := by
          intro d hd
          rcases List.mem_cons.1 hd with rfl | hd
          · simpa using hmark
          · simpa using List.mem_takeWhile_imp hd
        have hnext : ∀ d ∈ (t.drop (t.takeWhile fun d => !isMark d).length).head?,
            isMark d = true := by
          intro d hd
          have hstop := head?_drop_takeWhile (fun d => !isMark d) t
          rw [Option.mem_def.1 hd] at hstop
          simpa using hstop
        have hreads := (hdrop _).running hrun hnext
        rwa [List.cons_append, List.prefix_iff_eq_append.1 (List.takeWhile_prefix _)] at hreads
termination_by t => t.length
decreasing_by
  rw [List.length_drop, List.length_cons]
  omega

end Gleaner.Markup.Token
