import Gleaner.Proofs.Film.Additive
import Gleaner.Proofs.World.LastLines
import Gleaner.Proofs.World.StoredLists

/-!
# The list of films that is made

The maker of the list reads a chart, the page of every film on it, and looks for the script of each
film.  A list that it has saved, and that is not empty, has all that a later run looks for
(`listComplete_of_generateList`).

**Years.**  A year comes from four digits of a page, or from four characters of a date, so it has at
most four digits (`isYear_of_details`), and the reader of stored lists takes them all.

**Films.**  A film of the list was read from the chart and from its own page, and it has an address
(`Located`).  So the list is read as it was stored, and no entry lacks an address.
-/

namespace Gleaner

/-! ## Numbers with few digits -/

namespace Text

lemma digitValue?_lt {c : Char} {n : Nat} (h : digitValue? c = some n) : n < 10 := by
  unfold digitValue? at h
  split_ifs at h with hascii hdigit
  · cases h
    simp only [Char.isDigit, ge_iff_le, decide_eq_true_eq, UInt32.le_iff_toNat_le,
      Bool.and_eq_true] at hdigit
    have h9 : c.toNat ≤ 57 := hdigit.2
    omega
  · obtain ⟨z, hz, rfl⟩ := Option.map_eq_some_iff.1 h
    have hrange := List.find?_some hz
    simp only [Bool.and_eq_true, decide_eq_true_eq] at hrange
    omega

/-- A run of digits writes a number with at most as many digits. -/
lemma digitsValue_lt (t : Text) : digitsValue t < 10 ^ t.length := by
  induction t using List.reverseRecOn with
  | nil => simp [digitsValue]
  | append_singleton t c ih =>
      have hc : (digitValue? c).getD 0 < 10 := by
        cases h : digitValue? c with
        | none => simp
        | some n => exact digitValue?_lt h
      rw [digitsValue, List.foldl_append, ← digitsValue, List.length_append, List.length_singleton,
        pow_succ, List.foldl_cons, List.foldl_nil]
      omega

lemma length_le_of_numeral? {t ds : Text} (h : numeral? t = some ds) : ds.length ≤ t.length := by
  fun_induction numeral? t generalizing ds with
  | case1 => cases h
  | case2 c hc =>
      cases h
      rfl
  | case3 c hc => cases h
  | case4 c rest hc ih =>
      obtain ⟨ds', hds, rfl⟩ := Option.map_eq_some_iff.1 h
      have := ih hds
      simp only [List.length_cons]
      omega
  | case5 c rest hc => cases h
  | case6 c d rest hd hc ih =>
      obtain ⟨ds', hds, rfl⟩ := Option.map_eq_some_iff.1 h
      have := ih hds
      simp only [List.length_cons] at this ⊢
      omega
  | case7 c d rest hd hc => cases h

lemma length_withoutMargins_le (t : Text) : (withoutMargins t).length ≤ t.length := by
  have hdrop : ∀ u : Text, (u.dropWhile isMargin).length ≤ u.length := fun u =>
    (List.dropWhile_suffix _).length_le
  rw [withoutMargins, List.length_reverse]
  refine (hdrop _).trans ?_
  rw [List.length_reverse]
  exact hdrop t

/-- A text writes an integer with at most as many digits as it has characters. -/
lemma natAbs_lt_of_integer? {t : Text} {n : Int} (h : integer? t = some n) :
    n.natAbs < 10 ^ t.length := by
  have hvalue : ∀ {u ds : Text}, numeral? u = some ds → u.length ≤ (withoutMargins t).length →
      digitsValue ds < 10 ^ t.length := by
    intro u ds hds hu
    refine (digitsValue_lt ds).trans_le (Nat.pow_le_pow_right (by decide) ?_)
    exact (length_le_of_numeral? hds).trans (hu.trans (length_withoutMargins_le t))
  unfold integer? at h
  split at h
  case h_1 rest hrest =>
    obtain ⟨ds, hds, rfl⟩ := Option.map_eq_some_iff.1 h
    simpa using hvalue hds (by simp [hrest])
  case h_2 rest hrest =>
    obtain ⟨ds, hds, rfl⟩ := Option.map_eq_some_iff.1 h
    simpa using hvalue hds (by simp [hrest])
  case h_3 =>
    obtain ⟨ds, hds, rfl⟩ := Option.map_eq_some_iff.1 h
    simpa using hvalue hds le_rfl

end Text

namespace Film

/-! ## The years of the chart -/

/-- A year of at most four digits. -/
def IsYear (n : Int) : Prop :=
  n.natAbs < 10 ^ 4

lemma isYear_zero : IsYear 0 := by
  simp [IsYear]

lemma isYear_of_dateYear? {date : Json} {n : Int} (h : dateYear? date = some n) : IsYear n := by
  unfold dateYear? at h
  split at h
  case h_1 t =>
    refine (Text.natAbs_lt_of_integer? h).trans_le (Nat.pow_le_pow_right (by decide) ?_)
    exact List.length_take_le 4 t
  case h_2 => cases h

lemma isYear_of_fourDigits? {t digits rest : Text} (h : fourDigits? t = some (digits, rest)) :
    IsYear (Text.digitsValue digits) := by
  simp only [fourDigits?] at h
  split_ifs at h with hfour
  cases h
  simp only [Bool.and_eq_true, decide_eq_true_eq] at hfour
  have hvalue := Text.digitsValue_lt (t.take 4)
  rw [hfour.1] at hvalue
  exact hvalue

lemma isYear_of_bracketYear? {t : Text} {n : Nat} (h : bracketYear? t = some n) : IsYear n := by
  induction t with
  | nil => cases h
  | cons c rest ih =>
      unfold bracketYear? at h
      dsimp only at h
      split at h
      case h_1 digits _ hfour =>
        cases h
        split_ifs at hfour
        exact isYear_of_fourDigits? hfour
      case h_2 => exact ih h

lemma isYear_of_anyYear? {t : Text} {n : Nat} (h : anyYear? t = some n) : IsYear n := by
  induction t with
  | nil => cases h
  | cons c rest ih =>
      unfold anyYear? at h
      split at h
      case h_1 digits _ hfour =>
        cases h
        exact isYear_of_fourDigits? hfour
      case h_2 => exact ih h

lemma isYear_firstYear {data : Int} {others : List (Option Nat)} (hdata : IsYear data)
    (hothers : ∀ n : Nat, some n ∈ others → IsYear n) : IsYear (firstYear data others) := by
  unfold firstYear
  split
  case isTrue => exact hdata
  case isFalse =>
    cases h : (others.filterMap id).find? (· ≠ 0) with
    | none => exact isYear_zero
    | some n =>
        refine hothers n ?_
        simpa using List.mem_of_find?_eq_some h

section

variable {w w' : World}

/-- A listing does not know the year of its film. -/
def Listing.Undated (l : Listing) : Prop :=
  l.year.getD 0 = 0

lemma undated_of_listing? {item : Json} {l : Listing} (h : listing? item = .ok (some l)) :
    l.Undated := by
  obtain ⟨film, -, h⟩ := bind_eq_ok h
  obtain ⟨url, -, h⟩ := bind_eq_ok h
  split at h
  case h_1 url =>
    split at h
    case h_1 => cases h
    case h_2 id hid =>
      obtain ⟨name, -, h⟩ := bind_eq_ok h
      obtain ⟨title, -, h⟩ := bind_eq_ok h
      cases h
      rfl
  case h_2 => cases h

lemma undated_of_listingsOf? {v : Json} {ls : List Listing} (h : listingsOf? v = .ok (some ls)) :
    ∀ l ∈ ls, l.Undated := by
  unfold listingsOf? at h
  split_ifs at h
  · obtain ⟨value, -, h⟩ := bind_eq_ok h
    obtain ⟨items, -, h⟩ := bind_eq_ok h
    obtain ⟨found, hfound, h⟩ := bind_eq_ok h
    cases h
    intro l hl
    obtain ⟨item, -, hitem⟩ := exists_mem_of_mapM_eq_ok hfound (some l) (by simpa using hl)
    exact undated_of_listing? hitem
  · cases h

lemma undated_of_entryListings? {entries : List Markup.Node} {ls : List Listing}
    (h : entryListings? entries = some ls) : ∀ l ∈ ls, l.Undated := by
  induction entries generalizing ls with
  | nil =>
      cases h
      simp
  | cons entry rest ih =>
      unfold entryListings? at h
      split at h
      case h_1 =>
        obtain ⟨more, hmore, h⟩ := Option.bind_eq_some_iff.1 h
        cases h
        intro l hl
        rcases List.mem_append.1 hl with hl | hl
        · obtain ⟨id, -, rfl⟩ := Option.map_eq_some_iff.1 (Option.mem_toList.1 hl)
          rfl
        · exact ih hmore l hl
      case h_2 => cases h

lemma undated_of_linkedListings {ls : List Listing} (h : Ends linkedListings w ls w') :
    ∀ l ∈ ls, l.Undated := by
  obtain ⟨page, v, -, h⟩ := ends_bind.1 h
  rw [← (ends_pure.1 h).1]
  cases hentries : (page.toOption.map fun p => p.findAll fun n =>
      n.isElement "li" && n.withClass "ipc-metadata-list-summary-item").bind entryListings? with
  | none => simp
  | some ls' =>
      obtain ⟨entries, -, hls⟩ := Option.bind_eq_some_iff.1 hentries
      exact undated_of_entryListings? hls

section

variable [Platform]

lemma isYear_dataDetails (title : Json) (elements : List Markup.Node) :
    IsYear (dataDetails title elements).year := by
  fun_induction dataDetails title elements with
  | case1 => exact isYear_zero
  | case2 _ _ _ _ _ ih => exact ih
  | case3 _ _ _ _ _ _ _ _ _ year hyear => exact isYear_of_dateYear? hyear
  | case4 _ _ _ _ _ _ _ _ _ _ ih => exact ih
  | case5 => exact isYear_zero
  | case6 _ _ _ _ _ _ ih => exact ih

lemma isYear_of_pageDetails? {page : Markup.Node} {d : Details}
    (h : pageDetails? page = some d) : IsYear d.year := by
  simp only [pageDetails?] at h
  obtain ⟨-, h⟩ := Option.ite_none_right_eq_some.1 h
  cases h
  refine isYear_firstYear (isYear_dataDetails _ _) fun n hn => ?_
  rcases List.mem_cons.1 hn with hheading | hkeywords
  · obtain ⟨t, -, ht⟩ := Option.bind_eq_some_iff.1 hheading.symm
    exact isYear_of_bracketYear? ht
  · obtain ⟨t, -, ht⟩ := Option.bind_eq_some_iff.1 (List.mem_singleton.1 hkeywords).symm
    exact isYear_of_anyYear? ht

lemma isYear_of_details {id : Text} {d : Details} (h : Ends (details id) w (some d) w') :
    IsYear d.year := by
  obtain ⟨found, v, hfound, h⟩ := ends_bind.1 h
  rcases found with f | found
  · dsimp only at h
    split at h
    · cases (ends_pure.1 h).1
    · exact absurd h not_ends_fail
  · cases (ends_pure.1 h).1
    obtain ⟨reply, v₁, -, hpage⟩ := ends_bind.1 hfound.of_attempt
    split at hpage
    · cases (ends_pure.1 hpage).1
    · obtain ⟨page, v₂, -, hpage⟩ := ends_bind.1 hpage
      exact isYear_of_pageDetails? (ends_pure.1 hpage).1

lemma undated_of_firstListings {elements : List Markup.Node} {ls : List Listing}
    (h : firstListings elements = .ok ls) : ∀ l ∈ ls, l.Undated := by
  induction elements with
  | nil =>
      cases h
      simp
  | cons e rest ih =>
      unfold firstListings at h
      split at h
      case h_1 ls' hls =>
        cases h
        obtain ⟨v, -, hv⟩ := bind_eq_ok hls
        exact undated_of_listingsOf? hv
      case h_2 => exact ih h
      case h_3 =>
        split_ifs at h
        exact ih h

lemma undated_of_listings {ls : List Listing} (h : Ends listings w ls w') :
    ∀ l ∈ ls, l.Undated := by
  obtain ⟨found, v, hfound, h⟩ := ends_bind.1 h
  rcases found with f | found
  · dsimp only at h
    split at h
    · obtain ⟨_, v, -, h⟩ := ends_bind.1 h
      rw [← (ends_pure.1 h).1]
      simp
    · exact absurd h not_ends_fail
  · cases (ends_pure.1 h).1
    obtain ⟨page, v₁, -, hpage⟩ := ends_bind.1 hfound.of_attempt
    exact undated_of_firstListings (ends_lift.1 hpage).1

/-! ## The films of the list -/

/-- A film as the chart gives it: with texts, a year of at most four digits, and the address that
is given. -/
def Charted (script : Json) (m : Movie) : Prop :=
  ∃ title year id page, m = ⟨.str title, .int year, .str id, .str page, script⟩ ∧ IsYear year

lemma charted_of_moviesFrom (total : Nat) {ls : List Listing} (hls : ∀ l ∈ ls, l.Undated) :
    ∀ {i w ms w'}, Ends (moviesFrom total i ls) w ms w' → ∀ m ∈ ms, Charted .null m := by
  induction ls with
  | nil =>
      intro i w ms w' h
      cases (ends_pure.1 h).1
      simp
  | cons l rest ih =>
      intro i w ms w' h
      -- whatever the page of the film says, the year is short
      have hnext : ∀ (year : Int) {v : World}, IsYear year → Ends (do
          pause chartDelay
          let more ← moviesFrom total (i + 1) rest
          return ⟨.str l.title, .int year, .str l.id, .str (Site.film l.id), .null⟩ :: more)
          v ms w' →
          ∀ m ∈ ms, Charted .null m := by
        intro year v hyear h
        obtain ⟨_, v, -, h⟩ := ends_bind.1 h
        obtain ⟨more, v, hmore, h⟩ := ends_bind.1 h
        rw [← (ends_pure.1 h).1]
        exact List.forall_mem_cons.2 ⟨⟨_, _, _, _, rfl, hyear⟩,
          ih (fun l hl => hls l (by simp [hl])) hmore⟩
      unfold moviesFrom at h
      obtain ⟨_, v, -, h⟩ := ends_bind.1 h
      obtain ⟨d, v, hd, h⟩ := ends_bind.1 h
      rcases d with _ | d
      · obtain ⟨_, v, -, h⟩ := ends_bind.1 h
        refine hnext (l.year.getD 0 : Nat) ?_ h
        rw [hls l (by simp)]
        exact isYear_zero
      · obtain ⟨_, v, -, h⟩ := ends_bind.1 h
        exact hnext d.year (isYear_of_details hd) h

lemma charted_of_chart {ms : List Movie} (h : Ends chart w ms w') : ∀ m ∈ ms, Charted .null m := by
  unfold chart at h
  obtain ⟨_, v, -, h⟩ := ends_bind.1 h
  obtain ⟨first, v, hfirst, h⟩ := ends_bind.1 h
  have hnext : ∀ {ls : List Listing} {v : World}, (∀ l ∈ ls, l.Undated) → Ends (do
      say ["Found ", Text.ofNat ls.length, " movies, fetching details..."]
      moviesFrom ls.length 0 ls) v ms w' → ∀ m ∈ ms, Charted .null m := by
    intro ls v hls h
    obtain ⟨_, v, -, h⟩ := ends_bind.1 h
    exact charted_of_moviesFrom ls.length hls h
  dsimp only at h
  split at h
  case isTrue =>
    obtain ⟨_, v, -, h⟩ := ends_bind.1 h
    obtain ⟨ls, v, hls, h⟩ := ends_bind.1 h
    exact hnext (undated_of_linkedListings hls) h
  case isFalse => exact hnext (undated_of_listings hfirst) h

end

/-! ## Addresses -/

lemma scripts_ne_nil : Site.scripts ≠ [] := by
  decide

lemma ne_nil_of_guess {title : Json} {url : Text} (h : Ends (guess title) w (some url) w') :
    url ≠ [] := by
  obtain ⟨t, v, -, h⟩ := ends_bind.1 h
  obtain ⟨found, v, -, h⟩ := ends_bind.1 h
  cases found with
  | true =>
      obtain rfl := Option.some.inj (ends_pure.1 h).1
      exact List.append_ne_nil_of_left_ne_nil scripts_ne_nil _
  | false => cases (ends_pure.1 h).1

lemma ne_nil_of_scriptOnPage {page : Json} {url : Text}
    (h : Ends (scriptOnPage page) w (some url) w') : url ≠ [] := by
  obtain ⟨found, v, hfound, h⟩ := ends_bind.1 h
  rcases found with f | found
  · cases (ends_pure.1 h).1
  · have hurl : found = some url := (ends_pure.1 h).1
    rw [hurl] at hfound
    obtain ⟨reply, v₁, -, hpage⟩ := ends_bind.1 hfound.of_attempt
    split at hpage
    · cases (ends_pure.1 hpage).1
    · obtain ⟨page, v₂, -, hpage⟩ := ends_bind.1 hpage
      obtain ⟨t, -, ht⟩ := Option.map_eq_some_iff.1 (ends_pure.1 hpage).1
      rw [← ht]
      exact List.append_ne_nil_of_left_ne_nil scripts_ne_nil t

lemma ne_nil_of_searchFor {title url : Text} (h : Ends (searchFor title) w (some url) w') :
    url ≠ [] := by
  unfold searchFor at h
  obtain ⟨reply, v, -, h⟩ := ends_bind.1 h
  dsimp only at h
  split at h
  case isTrue => cases (ends_pure.1 h).1
  case isFalse =>
    obtain ⟨page, v, -, h⟩ := ends_bind.1 h
    split at h
    case h_1 => cases (ends_pure.1 h).1
    case h_2 => cases (ends_pure.1 h).1
    case h_3 rs hrs =>
      obtain ⟨_, v, -, h⟩ := ends_bind.1 h
      split at h
      case h_1 => cases (ends_pure.1 h).1
      case h_2 => exact ne_nil_of_scriptOnPage h

/-- An address that is found is not empty. -/
lemma ne_nil_of_findScript {title : Json} {url : Text}
    (h : Ends (findScript title) w (some url) w') : url ≠ [] := by
  obtain ⟨guessed, v, hguess, h⟩ := ends_bind.1 h
  rcases guessed with _ | guessed
  · obtain ⟨t, v, -, h⟩ := ends_bind.1 h
    obtain ⟨found, v, hfound, h⟩ := ends_bind.1 h
    rcases found with f | found
    · obtain ⟨_, v, -, h⟩ := ends_bind.1 h
      cases (ends_pure.1 h).1
    · cases (ends_pure.1 h).1
      exact ne_nil_of_searchFor hfound.of_attempt
  · cases (ends_pure.1 h).1
    exact ne_nil_of_guess hguess

/-- A film of the chart whose script was found. -/
def Located (m : Movie) : Prop :=
  ∃ url : Text, url ≠ [] ∧ Charted (.str url) m

lemma located_of_withScripts (total : Nat) {ms : List Movie} (hms : ∀ m ∈ ms, Charted .null m) :
    ∀ {i w found w'}, Ends (withScripts total i ms) w found w' → ∀ m ∈ found, Located m := by
  induction ms with
  | nil =>
      intro i w found w' h
      cases (ends_pure.1 h).1
      simp
  | cons m rest ih =>
      intro i w found w' h
      unfold withScripts at h
      obtain ⟨_, v, -, h⟩ := ends_bind.1 h
      obtain ⟨_, v, -, h⟩ := ends_bind.1 h
      obtain ⟨script, v, hscript, h⟩ := ends_bind.1 h
      obtain ⟨_, v, -, h⟩ := ends_bind.1 h
      obtain ⟨_, v, -, h⟩ := ends_bind.1 h
      obtain ⟨more, v, hmore, h⟩ := ends_bind.1 h
      rw [← (ends_pure.1 h).1]
      intro m' hm'
      rcases List.mem_append.1 hm' with hm' | hm'
      · obtain ⟨url, rfl, rfl⟩ := Option.map_eq_some_iff.1 (Option.mem_toList.1 hm')
        obtain ⟨title, year, id, page, rfl, hyear⟩ := hms m (by simp)
        exact ⟨url, ne_nil_of_findScript hscript, title, year, id, page, rfl, hyear⟩
      · exact ih (fun m hm => hms m (by simp [hm])) hmore m' hm'

/-! ## The list that is stored -/

lemma Located.exact {m : Movie} (h : Located m) : Json.Exact m.toJson := by
  obtain ⟨url, -, title, year, id, page, rfl, -⟩ := h
  refine .obj ?_
  simp only [List.map_cons, List.map_nil, List.forall_mem_cons, List.not_mem_nil, false_imp_iff,
    implies_true, and_true]
  exact ⟨.str _, .int _, .str _, .str _, .str _⟩

lemma lacksAddress_of_located {ms : List Movie} (h : ∀ m ∈ ms, Located m) :
    lacksAddress (ms.map Movie.toJson) = .ok false := by
  induction ms with
  | nil => rfl
  | cons m rest ih =>
      obtain ⟨url, hurl, title, year, id, page, rfl, -⟩ := h m (by simp)
      rw [List.map_cons, lacksAddress, ih fun m hm => h m (by simp [hm])]
      have haddress : (Movie.toJson ⟨.str title, .int year, .str id, .str page, .str url⟩).getD
          "imsdb_url" "" = .ok (.str url) := rfl
      rw [haddress]
      simp [bind, Except.bind, Json.isText, hurl]

/-- The lines that a run prints last when it has saved a list of `n` films. -/
def listSummary (n : Nat) : List (List Text) :=
  [["  Movies with screenplays: ", Text.ofNat n], ["  Saved to: ", listFile], [ruler]]

lemma getLast?_of_listSummary {n : Nat} (h : w.EndsWith (listSummary n)) :
    w.out.dropLast.getLast? = some '=' :=
  getLast?_of_endsWith [_, _] (List.replicate 59 '=') '=' h (by decide)

variable [Platform]

lemma IsYear.hasDigits {n : Int} (h : IsYear n) : Json.HasDigitsFor Json.lenient n := by
  intro most hmost
  cases hmost
  refine le_trans ?_ (show 4 ≤ 4300 by decide)
  rw [Text.ofNat, Nat.length_toDigits_le_iff (by decide) (by decide)]
  exact h

lemma Located.readable {m : Movie} (h : Located m) : Json.Readable Json.lenient 1 m.toJson := by
  obtain ⟨url, -, title, year, id, page, rfl, hyear⟩ := h
  refine .obj (Json.hasRoom_lenient (by decide)) (by simp) ?_
  simp only [List.map_cons, List.map_nil, List.forall_mem_cons, List.not_mem_nil, false_imp_iff,
    implies_true, and_true]
  exact ⟨.str _, .int hyear.hasDigits, .str _, .str _, .str _⟩

/-- A list of such films is read as it was. -/
lemma parse_write_located {ms : List Movie} (h : ∀ m ∈ ms, Located m) :
    Json.parse (Json.write Json.stored (.arr (ms.map Movie.toJson))) =
      .ok (.arr (ms.map Movie.toJson)) := by
  refine Json.parse_write_of_exact (.arr (Json.hasRoom_lenient (by decide)) ?_) (.arr ?_)
  · exact List.forall_mem_map.2 fun m hm => (h m hm).readable
  · exact List.forall_mem_map.2 fun m hm => (h m hm).exact

lemma read_of_saveList {list : Json} (h : Ends (saveList list) w () w') :
    w'.files.read listFile = .ok (Json.write Json.stored list) := by
  obtain ⟨-, fs, hwrite, rfl⟩ := ends_storeValue.1 h
  rw [← Episode.readLines_write]
  exact Files.read_of_write hwrite

/-- The list on disk has entries, and all of them have an address. -/
def ListComplete (fs : Files) : Prop :=
  ∃ t list entries, fs.read listFile = .ok t ∧ Json.parse t = .ok list ∧ list.isTruthy = true ∧
    list.items = .ok entries ∧ lacksAddress entries = .ok false

lemma listComplete_of_saveList {ms : List Movie} (hms : ∀ m ∈ ms, Located m) (hne : ms ≠ [])
    (h : Ends (saveList (.arr (ms.map Movie.toJson))) w () w') : ListComplete w'.files := by
  refine ⟨_, .arr (ms.map Movie.toJson), _, read_of_saveList h, parse_write_located hms, ?_, rfl,
    lacksAddress_of_located hms⟩
  cases ms with
  | nil => exact absurd rfl hne
  | cons m rest => rfl

/-! ## Runs of the maker of the list -/

/-- **A list that was saved and is not empty is complete.** -/
lemma listComplete_of_buildList {n : Nat} (h : Ends buildList w () w') (hn : n ≠ 0)
    (hend : w'.EndsWith (listSummary n)) : ListComplete w'.files := by
  unfold buildList at h
  obtain ⟨_, v, -, h⟩ := ends_bind.1 h
  obtain ⟨movies, v, hmovies, h⟩ := ends_bind.1 h
  obtain ⟨_, v, -, h⟩ := ends_bind.1 h
  split at h
  case isTrue =>
    have hother := getLast?_of_endsWith [] "No movies found. Check network/proxy configuration" '.'
      (endsWith_of_say (endsWith_nil v) h) (by decide)
    rw [getLast?_of_listSummary hend] at hother
    cases hother
  case isFalse =>
    obtain ⟨_, v, -, h⟩ := ends_bind.1 h
    obtain ⟨found, v, hfound, h⟩ := ends_bind.1 h
    obtain ⟨_, v, -, h⟩ := ends_bind.1 h
    obtain ⟨_, w₁, hsave, h⟩ := ends_bind.1 h
    obtain ⟨v, hv, h⟩ := exists_of_say_bind rfl h
    obtain ⟨v, hv, h⟩ := exists_of_say_bind hv h
    obtain ⟨v, hv, h⟩ := exists_of_say_bind hv h
    obtain ⟨v, hv, h⟩ := exists_of_say_bind hv h
    obtain ⟨v₁, hv₁, hlines, h⟩ := exists_of_say_endsWith (endsWith_nil v) h
    obtain ⟨v₂, hv₂, hlines, h⟩ := exists_of_say_endsWith hlines h
    have hcount : n = found.length :=
      eq_of_endsWith_count (t := "  Movies with screenplays:") (by decide) hend
        (endsWith_of_say hlines h)
    rw [(sameFiles_say _).of_ends h, hv₂, hv₁, hv]
    have hlocated := located_of_withScripts movies.length (charted_of_chart hmovies) hfound
    refine listComplete_of_saveList hlocated ?_ hsave
    rintro rfl
    exact hn hcount

lemma listComplete_of_generateList {n : Nat} (h : Ends generateList w () w') (hn : n ≠ 0)
    (hend : w'.EndsWith (listSummary n)) : ListComplete w'.files := by
  unfold generateList at h
  obtain ⟨_, v, -, h⟩ := ends_bind.1 h
  obtain ⟨_, v, -, h⟩ := ends_bind.1 h
  obtain ⟨_, v, -, h⟩ := ends_bind.1 h
  obtain ⟨_, v, -, h⟩ := ends_bind.1 h
  obtain ⟨stored, v, -, h⟩ := ends_bind.1 h
  dsimp only at h
  split at h
  case isTrue =>
    obtain ⟨entries, v, -, h⟩ := ends_bind.1 h
    obtain ⟨lacking, v, -, h⟩ := ends_bind.1 h
    cases lacking with
    | true =>
        obtain ⟨_, v, -, h⟩ := ends_bind.1 h
        obtain ⟨_, v, -, h⟩ := ends_bind.1 h
        exact listComplete_of_buildList h hn hend
    | false =>
        -- nothing was saved, and the last line is another one
        obtain ⟨_, v, -, h⟩ := ends_bind.1 h
        have hother := getLast?_of_endsWith []
          ("Found " ++ Text.ofNat entries.length ++ " movies with screenplay") 's'
          (endsWith_of_say (endsWith_nil v) h) (by simp)
        rw [getLast?_of_listSummary hend] at hother
        cases hother
  case isFalse => exact listComplete_of_buildList h hn hend

end

end Film

end Gleaner
