import Gleaner.Proofs.Film.ChartData
import Gleaner.Proofs.Text.Parts

/-!
# The links of the chart

Where the data of the chart's page give nothing, its links are read.  The page has an entry for each
film, and every entry with a link to a film should be listed, `Charts`.  But an entry is only looked
at if it has exactly two parts, and only in the second of them (`linked_listings_chart_iff`).

**Numbers.**  The number of a film stands behind `/title/` in the address of its page; the first
place counts, with all digits there are (`filmId?_eq_some_iff`).

**Entries.**  `secondPart?` is where an entry is looked at.  One entry without such a part leaves
nothing of the whole list (`entryListings?_of_unpaired`).  The links of the second part are the last
ones of the entry, so that what is listed is in the chart, under this or another number
(`isSome_of_secondPart?`).
-/

namespace Gleaner.Text

lemma afterFront?_eq_some_iff {p t rest : Text} : afterFront? p t = some rest ↔ t = p ++ rest := by
  fun_induction afterFront? p t with
  | case1 t => simp [eq_comm]
  | case2 c p => simp
  | case3 c p t ih => simp [ih]
  | case4 c p d t hne => simp [Ne.symm hne]

end Gleaner.Text

namespace Gleaner.Film

open Text

/-! ## Numbers -/

/-- What stands in front of the digits of a film's number. -/
def titleMark : Text := "/title/tt"

/-- A text names a film: its number stands behind the mark, with all its digits, and no digit stands
behind a mark before. -/
structure NamesFilmAt (t id before digits after : Text) : Prop where
  eq : t = before ++ (titleMark ++ (digits ++ after))
  digits_ne_nil : digits ≠ []
  digits_decimal : ∀ d ∈ digits, isDecimal d = true
  after_not_decimal : ∀ c ∈ after.head?, isDecimal c = false
  first : ∀ d, isDecimal d = true → ¬ titleMark ++ [d] <:+: before
  id_eq : id = 't' :: 't' :: digits

/-- A text names a film by its number. -/
def NamesFilm (t id : Text) : Prop :=
  ∃ before digits after, NamesFilmAt t id before digits after

lemma leadingDigits?_eq_some_iff {t digits after : Text} :
    leadingDigits? t = some (digits, after) ↔ t = digits ++ after ∧ digits ≠ [] ∧
      (∀ d ∈ digits, isDecimal d = true) ∧ ∀ c ∈ after.head?, isDecimal c = false := by
  have hdrop : t.drop (t.takeWhile isDecimal).length = t.dropWhile isDecimal := by
    have hwhole : (t.takeWhile isDecimal ++ t.dropWhile isDecimal).drop
        (t.takeWhile isDecimal).length = t.dropWhile isDecimal := List.drop_left
    rwa [List.takeWhile_append_dropWhile] at hwhole
  rw [leadingDigits?, hdrop, Option.ite_none_left_eq_some, Option.some.injEq, Prod.mk.injEq,
    List.isEmpty_iff]
  constructor
  · rintro ⟨hne, rfl, rfl⟩
    refine ⟨List.takeWhile_append_dropWhile.symm, hne, fun d hd => List.mem_takeWhile_imp hd, ?_⟩
    intro c hc
    have hstop := List.head?_dropWhile_not isDecimal t
    rw [Option.mem_def.1 hc] at hstop
    exact hstop
  · rintro ⟨rfl, hne, hdigits, hafter⟩
    have hstop : after.takeWhile isDecimal = [] ∧ after.dropWhile isDecimal = after := by
      cases after with
      | nil => exact ⟨rfl, rfl⟩
      | cons c after => simp [hafter c rfl]
    rw [List.takeWhile_append_of_pos hdigits, List.dropWhile_append_of_pos hdigits, hstop.1,
      hstop.2, List.append_nil]
    exact ⟨hne, rfl, rfl⟩

/-- A mark with a digit does not reach over into another mark. -/
lemma isPrefix_of_isPrefix_append_mark {d : Char} (hd : isDecimal d = true) {u rest : Text}
    (hu : u ≠ []) (h : titleMark ++ [d] <+: u ++ (titleMark ++ rest)) : titleMark ++ [d] <+: u := by
  rcases List.prefix_or_prefix_of_prefix h (List.prefix_append u _) with hshort | ⟨past, hpast⟩
  · exact hshort
  · have hstart : past <+: titleMark ++ rest := by
      rwa [← List.prefix_append_right_inj u, hpast]
    have hdrop : past = (titleMark ++ [d]).drop u.length := by rw [← hpast, List.drop_left]
    have hpos := List.length_pos_iff.2 hu
    have hmark : titleMark = ['/', 't', 'i', 't', 'l', 'e', '/', 't', 't'] := rfl
    have hslash : d ≠ '/' := by
      rintro rfl
      exact absurd hd (by decide)
    by_cases hlength : u.length ≤ 9
    · rw [hmark] at hdrop hstart
      generalize u.length = k at hdrop hpos hlength
      interval_cases k <;> simp_all [List.cons_prefix_cons]
    · have hnil : past = [] := by
        rw [hdrop, List.drop_eq_nil_iff, hmark]
        simp only [List.length_append, List.length_cons, List.length_nil]
        omega
      rw [← hpast, hnil, List.append_nil]

/-- The digits of a number that stands at the front of a text, and what follows. -/
def numberAhead? (t : Text) : Option (Text × Text) :=
  (afterFront? titleMark t).bind leadingDigits?

lemma numberAhead?_eq_some_iff {t digits after : Text} :
    numberAhead? t = some (digits, after) ↔ t = titleMark ++ (digits ++ after) ∧ digits ≠ [] ∧
      (∀ d ∈ digits, isDecimal d = true) ∧ ∀ c ∈ after.head?, isDecimal c = false := by
  rw [numberAhead?, Option.bind_eq_some_iff]
  constructor
  · rintro ⟨rest, hrest, hdigits⟩
    obtain ⟨rfl, h⟩ := leadingDigits?_eq_some_iff.1 hdigits
    exact ⟨afterFront?_eq_some_iff.1 hrest, h⟩
  · rintro ⟨rfl, h⟩
    exact ⟨_, afterFront?_eq_some_iff.2 rfl, leadingDigits?_eq_some_iff.2 ⟨rfl, h⟩⟩

/-- A number stands at the front exactly if a digit follows the mark. -/
lemma numberAhead?_eq_none_iff {t : Text} :
    numberAhead? t = none ↔ ∀ d, isDecimal d = true → ¬ titleMark ++ [d] <+: t := by
  constructor
  · rintro hnone d hd ⟨rest, hrest⟩
    have hahead : numberAhead? t = leadingDigits? (d :: rest) := by
      have hfront : afterFront? titleMark t = some (d :: rest) :=
        afterFront?_eq_some_iff.2 (by simpa using hrest.symm)
      rw [numberAhead?, hfront, Option.bind_some]
    rw [hahead, leadingDigits?] at hnone
    simp [hd] at hnone
  · intro h
    cases hahead : numberAhead? t with
    | none => rfl
    | some found =>
        obtain ⟨digits, after⟩ := found
        obtain ⟨rfl, hne, hdigits, -⟩ := numberAhead?_eq_some_iff.1 hahead
        obtain ⟨d, digits, rfl⟩ := List.exists_cons_of_ne_nil hne
        exact absurd ⟨digits ++ after, by simp⟩ (h d (hdigits d (by simp)))

lemma filmId?_cons (c : Char) (t : Text) : filmId? false (c :: t) =
    match numberAhead? (c :: t) with
    | some (digits, _) => some ('t' :: 't' :: digits)
    | none => filmId? false t := by
  rw [filmId?]
  rfl

lemma namesFilm_of_filmId? {t id : Text} (h : filmId? false t = some id) : NamesFilm t id := by
  induction t with
  | nil => cases h
  | cons c t ih =>
      rw [filmId?_cons] at h
      cases hahead : numberAhead? (c :: t) with
      | some found =>
          obtain ⟨digits, after⟩ := found
          rw [hahead] at h
          obtain ⟨heq, hne, hdigits, hafter⟩ := numberAhead?_eq_some_iff.1 hahead
          exact ⟨[], digits, after, ⟨heq, hne, hdigits, hafter, by simp, (Option.some.inj h).symm⟩⟩
      | none =>
          rw [hahead] at h
          obtain ⟨before, digits, after, hnames⟩ := ih h
          refine ⟨c :: before, digits, after, ⟨by rw [hnames.eq]; rfl, hnames.digits_ne_nil,
            hnames.digits_decimal, hnames.after_not_decimal, fun d hd hpart => ?_, hnames.id_eq⟩⟩
          rcases List.infix_cons_iff.1 hpart with hfront | hpart
          · refine numberAhead?_eq_none_iff.1 hahead d hd (hfront.trans ?_)
            rw [hnames.eq]
            exact List.prefix_append (c :: before) _
          · exact hnames.first d hd hpart

lemma filmId?_of_namesFilmAt {id digits after : Text} : ∀ {before t : Text},
    NamesFilmAt t id before digits after → filmId? false t = some id
  | [], t, h => by
      have hahead : numberAhead? t = some (digits, after) :=
        numberAhead?_eq_some_iff.2 ⟨h.eq, h.digits_ne_nil, h.digits_decimal, h.after_not_decimal⟩
      obtain ⟨c, t, rfl⟩ : ∃ c t', t = c :: t' := ⟨'/', _, h.eq⟩
      rw [filmId?_cons, hahead, h.id_eq]
  | c :: before, t, h => by
      obtain rfl := h.eq
      have hrest :
          NamesFilmAt (before ++ (titleMark ++ (digits ++ after))) id before digits after :=
        { h with eq := rfl, first := fun d hd hpart => h.first d hd (List.infix_cons hpart) }
      have hahead : numberAhead? (c :: before ++ (titleMark ++ (digits ++ after))) = none :=
        numberAhead?_eq_none_iff.2 fun d hd hfront => h.first d hd
          (isPrefix_of_isPrefix_append_mark hd (List.cons_ne_nil c before) hfront).isInfix
      rw [List.cons_append] at hahead ⊢
      rw [filmId?_cons, hahead]
      exact filmId?_of_namesFilmAt hrest

/-- **The number in an address is the first one behind a mark.** -/
lemma filmId?_eq_some_iff {t id : Text} : filmId? false t = some id ↔ NamesFilm t id :=
  ⟨namesFilm_of_filmId?, fun ⟨_, _, _, h⟩ => filmId?_of_namesFilmAt h⟩

/-! ## Entries -/

/-- The first link below a node that names a film names it by this number. -/
def LeadsTo (n : Markup.Node) (id : Text) : Prop :=
  Ahead (fun link => NamesFilm link.2 id) (fun link => ∃ other, NamesFilm link.2 other) n.links

lemma linkedListing?_eq_some_iff {n : Markup.Node} {l : Listing} :
    linkedListing? n = some l ↔ ∃ id, LeadsTo n id ∧ l = ⟨id, [], some 0⟩ := by
  have hlink : ∀ id, (n.links.findSome? fun link => filmId? false link.2) = some id ↔
      LeadsTo n id := by
    intro id
    rw [List.findSome?_eq_some_iff]
    constructor
    · rintro ⟨before, link, after, hlinks, hid, hnone⟩
      refine ⟨before, link, after, hlinks, filmId?_eq_some_iff.1 hid, ?_⟩
      rintro other hother ⟨id', hid'⟩
      cases (hnone other hother).symm.trans (filmId?_eq_some_iff.2 hid')
    · rintro ⟨before, link, after, hlinks, hid, hnone⟩
      refine ⟨before, link, after, hlinks, filmId?_eq_some_iff.2 hid, fun other hother => ?_⟩
      refine Option.eq_none_iff_forall_ne_some.2 fun id' hid' => ?_
      exact hnone other hother ⟨id', filmId?_eq_some_iff.1 hid'⟩
  rw [linkedListing?, Option.map_eq_some_iff]
  simp only [hlink, eq_comm]

lemma leadsTo_iff {n : Markup.Node} {id : Text} :
    LeadsTo n id ↔ linkedListing? n = some ⟨id, [], some 0⟩ := by
  simp [linkedListing?_eq_some_iff]

/-- Two nodes are listed alike exactly if they lead to the same film, or both to none. -/
lemma linkedListing?_eq_iff {n m : Markup.Node} :
    linkedListing? n = linkedListing? m ↔ ∀ id, LeadsTo n id ↔ LeadsTo m id := by
  constructor
  · intro h id
    rw [leadsTo_iff, leadsTo_iff, h]
  · intro h
    ext l
    simp only [linkedListing?_eq_some_iff, h]

/-- The listings of the chart: one for each entry that leads to a film, in the order of the
entries. -/
inductive Charts : List Markup.Node → List Listing → Prop
  | nil : Charts [] []
  | listed {entry : Markup.Node} {id : Text} {entries : List Markup.Node} {ls : List Listing} :
      LeadsTo entry id → Charts entries ls → Charts (entry :: entries) (⟨id, [], some 0⟩ :: ls)
  | unlisted {entry : Markup.Node} {entries : List Markup.Node} {ls : List Listing} :
      (∀ id, ¬LeadsTo entry id) → Charts entries ls → Charts (entry :: entries) ls

lemma linkedListing?_eq_none_iff {n : Markup.Node} :
    linkedListing? n = none ↔ ∀ id, ¬LeadsTo n id := by
  rw [Option.eq_none_iff_forall_ne_some]
  refine ⟨fun h id hid => h _ (leadsTo_iff.1 hid), fun h l hl => ?_⟩
  obtain ⟨id, hid, -⟩ := linkedListing?_eq_some_iff.1 hl
  exact h id hid

lemma charts_filterMap (entries : List Markup.Node) :
    Charts entries (entries.filterMap linkedListing?) := by
  induction entries with
  | nil => exact .nil
  | cons entry entries ih =>
      cases hentry : linkedListing? entry with
      | none =>
          rw [List.filterMap_cons_none hentry]
          exact .unlisted (linkedListing?_eq_none_iff.1 hentry) ih
      | some l =>
          obtain ⟨id, hid, rfl⟩ := linkedListing?_eq_some_iff.1 hentry
          rw [List.filterMap_cons_some hentry]
          exact .listed hid ih

/-- **There is one chart.** -/
lemma charts_iff {entries : List Markup.Node} {ls : List Listing} :
    Charts entries ls ↔ ls = entries.filterMap linkedListing? := by
  refine ⟨fun h => ?_, fun h => h ▸ charts_filterMap entries⟩
  induction h with
  | nil => rfl
  | listed hid _ ih => rw [List.filterMap_cons_some (leadsTo_iff.1 hid), ih]
  | unlisted hnone _ ih => rw [List.filterMap_cons_none (linkedListing?_eq_none_iff.2 hnone), ih]

/-! ## Parts -/

/-- The part of an entry that is looked at: the second of exactly two, if it is an element. -/
def secondPart? (entry : Markup.Node) : Option Markup.Node :=
  match entry.children with
  | [_, .element name attributes children] => some (.element name attributes children)
  | _ => none

/-- An entry has two parts, and this element is the second. -/
def IsSecondPart (entry second : Markup.Node) : Prop :=
  ∃ first, entry.children = [first, second] ∧ second.name?.isSome = true

lemma secondPart?_eq_some_iff {entry second : Markup.Node} :
    secondPart? entry = some second ↔ IsSecondPart entry second := by
  unfold secondPart? IsSecondPart
  rcases entry.children with _ | ⟨first, _ | ⟨part, _ | ⟨third, more⟩⟩⟩
  · simp
  · simp
  · cases part with
    | element name attributes children =>
        simp only [Option.some.injEq, List.cons.injEq, and_true]
        constructor
        · rintro rfl
          exact ⟨first, ⟨rfl, rfl⟩, rfl⟩
        · rintro ⟨_, ⟨rfl, h⟩, -⟩
          exact h
    | text kind t =>
        refine iff_of_false (by simp) ?_
        rintro ⟨_, h, hname⟩
        cases h
        cases hname
  · simp

lemma entryListings?_cons (entry : Markup.Node) (rest : List Markup.Node) :
    entryListings? (entry :: rest) = (secondPart? entry).bind fun second =>
      (entryListings? rest).map fun more => (linkedListing? second).toList ++ more := by
  rw [entryListings?, secondPart?]
  rcases entry.children with _ | ⟨first, _ | ⟨part, _ | ⟨third, more⟩⟩⟩
  · rfl
  · rfl
  · cases part with
    | element name attributes children => cases entryListings? rest <;> rfl
    | text kind t => rfl
  · cases part <;> rfl

/-- Entries that all have a second part are listed by these. -/
lemma entryListings?_of_paired {entries : List Markup.Node}
    (h : ∀ entry ∈ entries, ∃ second, IsSecondPart entry second) :
    entryListings? entries =
      some (entries.filterMap fun entry => (secondPart? entry).bind linkedListing?) := by
  induction entries with
  | nil => rfl
  | cons entry rest ih =>
      obtain ⟨second, hsecond⟩ := h entry (by simp)
      rw [entryListings?_cons, secondPart?_eq_some_iff.2 hsecond, ih fun e he => h e (by simp [he]),
        Option.bind_some, Option.map_some, List.filterMap_cons, secondPart?_eq_some_iff.2 hsecond,
        Option.bind_some]
      cases linkedListing? second <;> rfl

/-- **One entry without a second part leaves nothing of the list.** -/
lemma entryListings?_of_unpaired {entries : List Markup.Node} {entry : Markup.Node}
    (hentry : entry ∈ entries) (h : ∀ second, ¬IsSecondPart entry second) :
    entryListings? entries = none := by
  have hnone : secondPart? entry = none :=
    Option.eq_none_iff_forall_ne_some.2 fun second hsecond =>
      h second (secondPart?_eq_some_iff.1 hsecond)
  induction entries with
  | nil => cases hentry
  | cons other rest ih =>
      rw [entryListings?_cons]
      rcases List.mem_cons.1 hentry with rfl | hrest
      · rw [hnone, Option.bind_none]
      · rw [ih hrest]
        cases secondPart? other <;> rfl

/-- The links of the second part are the last ones of the entry. -/
lemma links_suffix {entry second : Markup.Node} (h : IsSecondPart entry second) :
    second.links <:+ entry.links := by
  obtain ⟨first, hchildren, -⟩ := h
  cases entry with
  | text kind t => cases hchildren
  | element name attributes children =>
      obtain rfl : children = [first, second] := hchildren
      have hdescendants : second.descendants <:+
          (Markup.Node.element name attributes [first, second]).descendants := by
        refine ⟨first :: first.descendants ++ [second], ?_⟩
        simp [Markup.Node.descendants, Markup.Node.descendantsOf]
      exact (hdescendants.filter _).filterMap _

/-- What a second part is listed for is in the chart, under this or another number. -/
lemma isSome_of_secondPart? {entry second : Markup.Node} (h : IsSecondPart entry second)
    (hsome : (linkedListing? second).isSome = true) : (linkedListing? entry).isSome = true := by
  obtain ⟨l, hl⟩ := Option.isSome_iff_exists.1 hsome
  obtain ⟨id, hid, -⟩ := linkedListing?_eq_some_iff.1 hl
  obtain ⟨link, hlink, hnames⟩ := hid.exists_mem
  by_contra hnone
  rw [Option.not_isSome_iff_eq_none, linkedListing?, Option.map_eq_none_iff,
    List.findSome?_eq_none_iff] at hnone
  have hid' : filmId? false link.2 = none := hnone link ((links_suffix h).mem hlink)
  rw [filmId?_eq_some_iff.2 hnames] at hid'
  cases hid'

/-- Two selections of which one has a value wherever the other has are equal only if they agree
everywhere. -/
lemma filterMap_eq_filterMap_iff {α β : Type} {f g : α → Option β} {l : List α}
    (h : ∀ x ∈ l, (f x).isSome = true → (g x).isSome = true) :
    l.filterMap f = l.filterMap g ↔ ∀ x ∈ l, f x = g x := by
  refine ⟨fun heq => ?_, List.filterMap_congr⟩
  induction l with
  | nil => simp
  | cons x l ih =>
      have hrest := List.forall_mem_cons.1 h
      have hlength : (l.filterMap f).length ≤ (l.filterMap g).length := by
        rw [List.length_filterMap_eq_countP, List.length_filterMap_eq_countP]
        exact List.countP_mono_left hrest.2
      rw [List.filterMap_cons, List.filterMap_cons] at heq
      cases hf : f x with
      | none =>
          cases hg : g x with
          | none =>
              rw [hf, hg] at heq
              exact List.forall_mem_cons.2 ⟨by rw [hf, hg], ih hrest.2 heq⟩
          | some b =>
              -- the shorter selection would be the longer one
              rw [hf, hg] at heq
              have := congrArg List.length heq
              simp only [List.length_cons] at this
              omega
      | some a =>
          obtain ⟨b, hg⟩ := Option.isSome_iff_exists.1 (hrest.1 (by rw [hf]; rfl))
          rw [hf, hg] at heq
          obtain ⟨hab, htail⟩ := List.cons.inj heq
          exact List.forall_mem_cons.2 ⟨by rw [hf, hg, hab], ih hrest.2 htail⟩

/-- **The entries are listed as in the chart exactly if each one leads to its film in its second
part**, or none to any. -/
lemma charts_entryListings?_iff {entries : List Markup.Node} :
    Charts entries ((entryListings? entries).getD []) ↔
      (∀ entry ∈ entries, ∀ id, ¬LeadsTo entry id) ∨
      ∀ entry ∈ entries, ∃ second, IsSecondPart entry second ∧
        ∀ id, LeadsTo second id ↔ LeadsTo entry id := by
  simp only [charts_iff, ← linkedListing?_eq_none_iff, ← linkedListing?_eq_iff]
  by_cases hpaired : ∀ entry ∈ entries, ∃ second, IsSecondPart entry second
  · have hsome : ∀ entry ∈ entries, ((secondPart? entry).bind linkedListing?).isSome = true →
        (linkedListing? entry).isSome = true := by
      intro entry hentry h
      obtain ⟨second, hsecond⟩ := hpaired entry hentry
      rw [secondPart?_eq_some_iff.2 hsecond, Option.bind_some] at h
      exact isSome_of_secondPart? hsecond h
    rw [entryListings?_of_paired hpaired, Option.getD_some, filterMap_eq_filterMap_iff hsome]
    constructor
    · refine fun h => .inr fun entry hentry => ?_
      obtain ⟨second, hsecond⟩ := hpaired entry hentry
      have hlisted := h entry hentry
      rw [secondPart?_eq_some_iff.2 hsecond, Option.bind_some] at hlisted
      exact ⟨second, hsecond, hlisted⟩
    · rintro (hnone | hsame) entry hentry
      · rw [hnone entry hentry, ← Option.not_isSome_iff_eq_none]
        exact fun h => by simpa [hnone entry hentry] using hsome entry hentry h
      · obtain ⟨second, hsecond, hlisted⟩ := hsame entry hentry
        rw [secondPart?_eq_some_iff.2 hsecond, Option.bind_some, hlisted]
  · obtain ⟨entry, hentry, hnone⟩ : ∃ entry ∈ entries, ∀ second, ¬IsSecondPart entry second := by
      simpa using hpaired
    rw [entryListings?_of_unpaired hentry hnone, Option.getD_none, eq_comm,
      List.filterMap_eq_nil_iff, or_iff_left]
    intro hsame
    obtain ⟨second, hsecond, -⟩ := hsame entry hentry
    exact hnone second hsecond

/-! ## The result -/

/-- The entries of the chart on a page. -/
def chartEntries (page : Markup.Node) : List Markup.Node :=
  page.findAll isChartEntry

/-- **The links give the chart exactly if every entry leads to its film in its second part.**  Let
the chart be answered by a page, and not by an error.

* The second reading ends, and its list is the chart exactly if no entry leads to a film, or if
  every entry has exactly two parts, the second an element, and the film that the entry leads to is
  the one that this part leads to.
* A single entry that is not so made leaves the list empty. -/
theorem linked_listings_chart_iff {w : World} {reply : Reply} {page : Markup.Node}
    (hanswer : w.answer chartRequest = .reply reply)
    (hstatus : ¬(400 ≤ reply.status ∧ reply.status < 600))
    (hpage : Markup.parse reply.text = .ok page) :
    ∃ ls w', Ends linkedListings w ls w' ∧ w'.requests = w.requests ++ [chartRequest] ∧
      (Charts (chartEntries page) ls ↔
        (∀ entry ∈ chartEntries page, ∀ id, ¬LeadsTo entry id) ∨
        ∀ entry ∈ chartEntries page, ∃ second, IsSecondPart entry second ∧
          ∀ id, LeadsTo second id ↔ LeadsTo entry id) ∧
      ((∃ entry ∈ chartEntries page, ∀ second, ¬IsSecondPart entry second) → ls = []) := by
  obtain ⟨w', hheard, hends⟩ := ends_linkedListings w
  have hlinked : linkedIn (w.answer chartRequest) =
      (entryListings? (chartEntries page)).getD [] := by
    rw [hanswer, linkedIn, chartIn_of_success hstatus, hpage]
    rfl
  rw [hlinked] at hends
  refine ⟨_, w', hends, hheard.requests, charts_entryListings?_iff, ?_⟩
  rintro ⟨entry, hentry, hnone⟩
  rw [entryListings?_of_unpaired hentry hnone]
  rfl

/-- The text of an entry with some parts. -/
def entryText (parts : Text) : Text :=
  Text.cat ["<ul><li class=\"ipc-metadata-list-summary-item\">", parts, "</li></ul>"]

/-- An entry with some parts, as it is read. -/
def entryNode (parts : List Markup.Node) : Markup.Node :=
  .element "li" [("class", "ipc-metadata-list-summary-item")] parts

/-- A part with a link to a film. -/
def linkPart : Markup.Node :=
  .element "p" [] [.element "a" [("href", "/title/tt7/")] [.text .running "A"]]

/-- An entry of a rank and a part with the link is listed. -/
theorem linked_listings_chart_iff_sample :
    let text := entryText "<b>1</b><p><a href=\"/title/tt7/\">A</a></p>"
    let w := servedChart text
    let entry := entryNode [.element "b" [] [.text .running "1"], linkPart]
    let page := Markup.Node.element "[document]" [] [.element "ul" [] [entry]]
    w.answer chartRequest = .reply ⟨200, "OK", text⟩ ∧ Markup.parse text = .ok page ∧
    (∃ w', Ends linkedListings w [⟨"tt7", [], some 0⟩] w') ∧
    Charts (chartEntries page) [⟨"tt7", [], some 0⟩] := by
  intro text w entry page
  have hanswer : w.answer chartRequest = .reply ⟨200, "OK", text⟩ := rfl
  have hpage : Markup.parse text = .ok page := rfl
  have hentries : chartEntries page = [entry] := rfl
  obtain ⟨v, hv, -⟩ := exists_ends_of_toOption
    (show (outcome linkedListings w).1.toOption = some [⟨"tt7", [], some 0⟩] by decide +kernel)
  obtain ⟨ls, w', hends, -, hcharts, -⟩ := linked_listings_chart_iff hanswer (by decide) hpage
  obtain ⟨rfl, -⟩ := hends.unique hv
  refine ⟨hanswer, hpage, ⟨v, hv⟩, hcharts.2 (.inr fun other hother => ?_)⟩
  rw [hentries, List.mem_singleton] at hother
  rw [hother]
  exact ⟨linkPart, ⟨_, rfl, rfl⟩, linkedListing?_eq_iff.1 (by decide +kernel)⟩

/-- An entry with some parts leads to a film, and the list is empty. -/
def Misses (parts id : Text) : Prop :=
  (outcome linkedListings (servedChart (entryText parts))).1.toOption = some [] ∧
    ∃ page, Markup.parse (entryText parts) = .ok page ∧
      Charts (chartEntries page) [⟨id, [], some 0⟩]

lemma misses_of_filterMap {parts id : Text}
    (hlist : (outcome linkedListings (servedChart (entryText parts))).1.toOption = some [])
    (hchart : ((Markup.parse (entryText parts)).toOption.map fun page =>
      (chartEntries page).filterMap linkedListing?) = some [⟨id, [], some 0⟩]) :
    Misses parts id := by
  refine ⟨hlist, ?_⟩
  cases hpage : Markup.parse (entryText parts) with
  | error f =>
      rw [hpage] at hchart
      cases hchart
  | ok page =>
      rw [hpage] at hchart
      exact ⟨page, rfl, charts_iff.2 (Option.some.inj hchart).symm⟩

/-- **An entry with a link to a film can be missing**: if the link is its only part, and if the link
itself is the second part. -/
theorem film_missing_from_list :
    Misses "<a href=\"/title/tt0111161/\">1. Heat</a>" "tt0111161" ∧
      Misses "<b>1.</b><a href=\"/title/tt0111161/\">Heat</a>" "tt0111161" :=
  ⟨misses_of_filterMap (by decide +kernel) (by decide +kernel),
    misses_of_filterMap (by decide +kernel) (by decide +kernel)⟩

end Gleaner.Film
