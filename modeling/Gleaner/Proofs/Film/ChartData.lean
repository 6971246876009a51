import Gleaner.Proofs.Film.Inquiries

/-!
# The data of the chart

The chart is first read from the data elements of its page, and the links of the page are read only
if this gives nothing.  A data element that cannot be used should never be the end of it, but some
are: not every fault is one after which the next element is tried (`data_stage_ends_iff`).

**Faults.**  Where computations are made one after the other, the first one that fails decides how
the whole fails (`fails_mapM_iff`).  `Ahead P Q l` is the form in which this is said: something with
`P` stands in `l`, and nothing with `Q` before it.

**Items.**  An item of a list is read, or it is `Misshapen` and the list is passed over, or it is
`Misled` and the reading stops (`listing?_cases`).

**Elements.**  In the same way a data element `Lists` films, or is `Stopping`, or is passed over
(`exists_dataListings_iff`, `escapes_dataListings_iff`).

**The page.**  `outcome_chartPage` and `outcome_listings` say what is done with an answer.
-/

namespace Gleaner

/-! ## Faults -/

section

variable {α β : Type} {P Q : α → Prop}

/-- Something with `P` stands in a list, and nothing with `Q` before it. -/
def Ahead (P Q : α → Prop) (l : List α) : Prop :=
  ∃ before x after, l = before ++ x :: after ∧ P x ∧ ∀ y ∈ before, ¬Q y

lemma not_ahead_nil : ¬Ahead P Q [] := by
  rintro ⟨before, x, after, hnil, -⟩
  simp at hnil

lemma ahead_cons_iff {x : α} {l : List α} :
    Ahead P Q (x :: l) ↔ P x ∨ ¬Q x ∧ Ahead P Q l := by
  constructor
  · rintro ⟨before, y, after, hl, hy, hbefore⟩
    cases before with
    | nil =>
        cases hl
        exact .inl hy
    | cons z before =>
        cases hl
        obtain ⟨hz, hbefore⟩ := List.forall_mem_cons.1 hbefore
        exact .inr ⟨hz, before, y, after, rfl, hy, hbefore⟩
  · rintro (hx | ⟨hx, before, y, after, rfl, hy, hbefore⟩)
    · exact ⟨[], x, l, rfl, hx, by simp⟩
    · exact ⟨x :: before, y, after, rfl, hy, List.forall_mem_cons.2 ⟨hx, hbefore⟩⟩

lemma Ahead.exists_mem {l : List α} (h : Ahead P Q l) : ∃ x ∈ l, P x := by
  obtain ⟨before, x, after, rfl, hx, -⟩ := h
  exact ⟨x, by simp, hx⟩

/-- A computation fails with a fault of some kind. -/
def Fails (K : Fault → Prop) (r : Except Fault α) : Prop :=
  ∃ f, r = .error f ∧ K f

variable {K : Fault → Prop}

lemma fails_error_iff {f : Fault} : Fails K (.error f : Except Fault α) ↔ K f := by
  simp [Fails]

lemma not_fails_ok (a : α) : ¬Fails K (.ok a) := by
  simp [Fails]

lemma fails_bind_iff {r : Except Fault α} {g : α → Except Fault β} :
    Fails K (r >>= g) ↔ Fails K r ∨ ∃ a, r = .ok a ∧ Fails K (g a) := by
  cases r with
  | error f =>
      have hbind : (Except.error f >>= g) = .error f := rfl
      simp [hbind, fails_error_iff]
  | ok a =>
      have hbind : (Except.ok a >>= g) = g a := rfl
      simp [hbind, not_fails_ok]

lemma fails_map_iff {r : Except Fault α} {g : α → β} : Fails K (r.map g) ↔ Fails K r := by
  cases r with
  | error f => exact fails_error_iff.trans fails_error_iff.symm
  | ok a => exact iff_of_false (not_fails_ok _) (not_fails_ok a)

lemma exists_ok_iff {r : Except Fault α} : (∃ a, r = .ok a) ↔ ¬Fails (fun _ => True) r := by
  cases r with
  | error f => exact iff_of_false (by simp) (not_not.2 (fails_error_iff.2 trivial))
  | ok a => exact iff_of_true ⟨a, rfl⟩ (not_fails_ok a)

/-- **The first computation that fails decides** how a list of them fails. -/
lemma fails_mapM_iff {g : α → Except Fault β} {l : List α} :
    Fails K (l.mapM g) ↔
      Ahead (fun x => Fails K (g x)) (fun x => Fails (fun f => ¬K f) (g x)) l := by
  induction l with
  | nil => exact iff_of_false (not_fails_ok []) not_ahead_nil
  | cons x l ih =>
      rw [List.mapM_cons, fails_bind_iff, ahead_cons_iff, ← ih]
      cases hx : g x with
      | error f =>
          simp only [fails_error_iff, reduceCtorEq, false_and, exists_false, or_false, not_not]
          exact ⟨.inl, fun h => h.elim id And.left⟩
      | ok b =>
          simp only [not_fails_ok, Except.ok.injEq, exists_eq_left', false_or, not_false_eq_true,
            true_and]
          exact fails_map_iff

/-- A list of computations succeeds if each of them does. -/
lemma exists_mapM_ok_iff {g : α → Except Fault β} {l : List α} :
    (∃ bs, l.mapM g = .ok bs) ↔ ∀ x ∈ l, ∃ b, g x = .ok b := by
  simp only [exists_ok_iff, fails_mapM_iff]
  constructor
  · intro h x hx hfails
    obtain ⟨before, after, rfl⟩ := List.append_of_mem hx
    exact h ⟨before, x, after, rfl, hfails, by simp [Fails]⟩
  · intro h hahead
    obtain ⟨x, hx, hfails⟩ := hahead.exists_mem
    exact h x hx hfails

end

namespace Film

/-! ## Items -/

/-- The film that an item is about, if both are objects.  An item that does not name a film is about
one without members. -/
def filmOf? : Json → Option (List (Text × Json))
  | .obj item =>
      match (Json.find? "item" item).getD (.obj []) with
      | .obj film => some film
      | _ => none
  | _ => none

/-- A film whose address is no text. -/
def Unaddressed (film : List (Text × Json)) : Prop :=
  ∃ url, Json.find? "url" film = some url ∧ ∀ t, url ≠ .str t

/-- A film that has a number in its address but a name that is no text. -/
def Misnamed (film : List (Text × Json)) : Prop :=
  ∃ url name, Json.find? "url" film = some (.str url) ∧ (filmId? true url).isSome = true ∧
    Json.find? "name" film = some name ∧ ∀ t, name ≠ .str t

/-- An item of the wrong shape: it is about no film, or about one whose name is no text. -/
def Misshapen (item : Json) : Prop :=
  filmOf? item = none ∨ ∃ film, filmOf? item = some film ∧ Misnamed film

/-- An item about a film whose address is no text. -/
def Misled (item : Json) : Prop :=
  ∃ film, filmOf? item = some film ∧ Unaddressed film

/-- What is made of the name of a film with a number. -/
def withName (id : Text) (name : Json) : Except Fault (Option Listing) := do
  let title ← name.asText "replace"
  return some ⟨id, Text.replace "&apos;" ['\''] title, none⟩

/-- What is made of the address of a film. -/
def withAddress (film : List (Text × Json)) : Json → Except Fault (Option Listing)
  | .str url =>
      match filmId? true url with
      | none => .ok none
      | some id => withName id ((Json.find? "name" film).getD "")
  | v => .error (.notText v.kind)

/-- An item is read through the address of its film. -/
lemma listing?_eq (item : Json) :
    (∃ film, filmOf? item = some film ∧
      listing? item = withAddress film ((Json.find? "url" film).getD "")) ∨
    (filmOf? item = none ∧ ∃ kind member, listing? item = .error (.noMember kind member)) := by
  cases item with
  | obj item =>
      unfold listing? filmOf?
      dsimp only [Json.getD, bind, Except.bind]
      generalize (Json.find? "item".toList item).getD (.obj []) = film
      cases film with
      | obj film => exact .inl ⟨film, rfl, rfl⟩
      | _ => exact .inr ⟨rfl, _, _, rfl⟩
  | _ => exact .inr ⟨rfl, _, _, rfl⟩

/-- A film is listed, or its name is no text, or its address is none. -/
lemma withAddress_cases (film : List (Text × Json)) :
    let result := withAddress film ((Json.find? "url" film).getD "")
    ((∃ l, result = .ok l) ∧ ¬Misnamed film ∧ ¬Unaddressed film) ∨
    ((∃ kind member, result = .error (.noMember kind member)) ∧ Misnamed film ∧
      ¬Unaddressed film) ∨
    ((∃ kind, result = .error (.notText kind)) ∧ ¬Misnamed film ∧ Unaddressed film) := by
  unfold Misnamed Unaddressed
  cases Json.find? "url" film with
  | none => exact .inl ⟨⟨none, rfl⟩, by simp, by simp⟩
  | some url =>
      cases url with
      | str url =>
          dsimp only [Option.getD_some, withAddress]
          cases hid : filmId? true url with
          | none => exact .inl ⟨⟨none, rfl⟩, by simp [hid], by simp⟩
          | some id =>
              cases Json.find? "name" film with
              | none => exact .inl ⟨⟨_, rfl⟩, by simp, by simp⟩
              | some name =>
                  cases name with
                  | str name => exact .inl ⟨⟨_, rfl⟩, by simp, by simp⟩
                  | _ => exact .inr (.inl ⟨⟨_, _, rfl⟩, by simp [hid], by simp⟩)
      | _ => exact .inr (.inr ⟨⟨_, rfl⟩, by simp, by simp⟩)

/-- **An item is read, or it has the wrong shape, or its address is no text.** -/
lemma listing?_cases (item : Json) :
    ((∃ l, listing? item = .ok l) ∧ ¬Misshapen item ∧ ¬Misled item) ∨
    ((∃ kind member, listing? item = .error (.noMember kind member)) ∧ Misshapen item ∧
      ¬Misled item) ∨
    ((∃ kind, listing? item = .error (.notText kind)) ∧ ¬Misshapen item ∧ Misled item) := by
  rcases listing?_eq item with ⟨film, hfilm, hlisting⟩ | ⟨hfilm, hlisting⟩
  · have hmisshapen : Misshapen item ↔ Misnamed film := by simp [Misshapen, hfilm]
    have hmisled : Misled item ↔ Unaddressed film := by simp [Misled, hfilm]
    rw [hlisting, hmisshapen, hmisled]
    exact withAddress_cases film
  · exact .inr (.inl ⟨hlisting, .inl hfilm, by simp [Misled, hfilm]⟩)

/-- A fault after which the next data element is not tried. -/
def Escapes (f : Fault) : Prop :=
  isDataFault f = false

lemma escapes_listing?_iff {item : Json} : Fails Escapes (listing? item) ↔ Misled item := by
  rcases listing?_cases item with
    ⟨⟨l, h⟩, -, hnot⟩ | ⟨⟨kind, member, h⟩, -, hnot⟩ | ⟨⟨kind, h⟩, -, hyes⟩ <;> rw [h]
  · exact iff_of_false (not_fails_ok l) hnot
  · exact iff_of_false (by simp [fails_error_iff, Escapes, isDataFault]) hnot
  · exact iff_of_true (fails_error_iff.2 rfl) hyes

lemma passes_listing?_iff {item : Json} :
    Fails (fun f => ¬Escapes f) (listing? item) ↔ Misshapen item := by
  rcases listing?_cases item with
    ⟨⟨l, h⟩, hnot, -⟩ | ⟨⟨kind, member, h⟩, hyes, -⟩ | ⟨⟨kind, h⟩, hnot, -⟩ <;> rw [h]
  · exact iff_of_false (not_fails_ok l) hnot
  · exact iff_of_true (by simp [fails_error_iff, Escapes, isDataFault]) hyes
  · exact iff_of_false (by simp [fails_error_iff, Escapes, isDataFault]) hnot

lemma exists_listing?_iff {item : Json} :
    (∃ l, listing? item = .ok l) ↔ ¬Misshapen item ∧ ¬Misled item := by
  rcases listing?_cases item with ⟨h, hnot⟩ | ⟨⟨kind, member, h⟩, hyes, -⟩ | ⟨⟨kind, h⟩, -, hyes⟩
  · exact iff_of_true h hnot
  · exact iff_of_false (by simp [h]) fun hnot => hnot.1 hyes
  · exact iff_of_false (by simp [h]) fun hnot => hnot.2 hyes

/-! ## Elements -/

/-- The list that a value of listings holds. -/
def listIn (v : Json) : Json :=
  (v.member? "itemListElement").getD (.arr [])

/-- A value of listings all of whose items can be read. -/
def ListsFilms (v : Json) : Prop :=
  isOfType v "ItemList" = true ∧ ∃ items, (listIn v).items = .ok items ∧
    ∀ item ∈ items, ¬Misshapen item ∧ ¬Misled item

/-- A value of listings that stops the reading: it has no list to go through, or an item in it
misleads and no item before has the wrong shape. -/
def StopsReading (v : Json) : Prop :=
  isOfType v "ItemList" = true ∧ ((∃ kind, (listIn v).items = .error (.notIterable kind)) ∨
    ∃ items, (listIn v).items = .ok items ∧ Ahead Misled Misshapen items)

lemma items_cases (v : Json) :
    (∃ items, v.items = .ok items) ∨ ∃ kind, v.items = .error (.notIterable kind) := by
  cases v with
  | arr items => exact .inl ⟨items, rfl⟩
  | obj members => exact .inl ⟨_, rfl⟩
  | str t => exact .inl ⟨_, rfl⟩
  | _ => exact .inr ⟨_, rfl⟩

/-- What is made of the items of a list. -/
def listingsAmong (items : List Json) : Except Fault (Option (List Listing)) :=
  (items.mapM listing?).map fun found => some (found.filterMap id)

lemma listingsOf?_of_isOfType {v : Json} (h : isOfType v "ItemList" = true) :
    listingsOf? v = (listIn v).items >>= listingsAmong := by
  have hamong : listingsAmong = fun items =>
      items.mapM listing? >>= fun found => pure (some (found.filterMap id)) := by
    funext items
    rw [listingsAmong]
    cases items.mapM listing? <;> rfl
  rw [listingsOf?, if_pos h, hamong]
  cases v with
  | obj members => rfl
  | _ => cases h

lemma listingsOf?_of_not_isOfType {v : Json} (h : ¬isOfType v "ItemList" = true) :
    listingsOf? v = .ok none := by
  rw [listingsOf?, if_neg h]
  rfl

lemma escapes_listingsOf?_iff {v : Json} : Fails Escapes (listingsOf? v) ↔ StopsReading v := by
  unfold StopsReading
  by_cases hlist : isOfType v "ItemList" = true
  · rw [listingsOf?_of_isOfType hlist, fails_bind_iff, and_iff_right hlist]
    rcases items_cases (listIn v) with ⟨items, hitems⟩ | ⟨kind, hitems⟩
    · simp only [hitems, not_fails_ok, listingsAmong, fails_map_iff, fails_mapM_iff,
        escapes_listing?_iff, passes_listing?_iff, reduceCtorEq, exists_false]
    · simp [hitems, fails_error_iff, Escapes, isDataFault]
  · rw [listingsOf?_of_not_isOfType hlist]
    exact iff_of_false (not_fails_ok _) fun h => hlist h.1

lemma exists_listingsOf?_iff {v : Json} :
    (∃ ls, listingsOf? v = .ok (some ls)) ↔ ListsFilms v := by
  unfold ListsFilms
  by_cases hlist : isOfType v "ItemList" = true
  · rw [listingsOf?_of_isOfType hlist, and_iff_right hlist]
    rcases items_cases (listIn v) with ⟨items, hitems⟩ | ⟨kind, hitems⟩
    · have hbind : (Except.ok items >>= listingsAmong) = listingsAmong items := rfl
      have hsome : (∃ ls, listingsAmong items = .ok (some ls)) ↔
          ∃ found, items.mapM listing? = .ok found := by
        rw [listingsAmong]
        cases items.mapM listing? with
        | error f => simp [Except.map]
        | ok found => simp [Except.map]
      simp only [hitems, hbind, hsome, exists_mapM_ok_iff, exists_listing?_iff, Except.ok.injEq,
        exists_eq_left']
    · have hbind : (Except.error (.notIterable kind) >>= listingsAmong) =
          .error (.notIterable kind) := rfl
      simp [hitems, hbind]
  · rw [listingsOf?_of_not_isOfType hlist]
    exact iff_of_false (by simp) fun h => hlist h.1

lemma not_request_listingsOf? (v : Json) :
    ¬Fails (fun f => f.isRequest = true) (listingsOf? v) := by
  by_cases hlist : isOfType v "ItemList" = true
  · rw [listingsOf?_of_isOfType hlist, fails_bind_iff]
    rintro (hlist | ⟨items, -, hitems⟩)
    · rcases items_cases (listIn v) with ⟨items, h⟩ | ⟨kind, h⟩
      · exact not_fails_ok items (h ▸ hlist)
      · rw [h, fails_error_iff] at hlist
        cases hlist
    · rw [listingsAmong, fails_map_iff, fails_mapM_iff] at hitems
      obtain ⟨item, -, hitem⟩ := hitems.exists_mem
      rcases listing?_cases item with ⟨⟨l, h⟩, -⟩ | ⟨⟨kind, member, h⟩, -⟩ | ⟨⟨kind, h⟩, -⟩
      · exact not_fails_ok l (h ▸ hitem)
      all_goals
        rw [h, fails_error_iff] at hitem
        cases hitem
  · rw [listingsOf?_of_not_isOfType hlist]
    exact not_fails_ok none

section

variable [Platform]

/-- A data element that lists films. -/
def Lists (e : Markup.Node) : Prop :=
  ∃ t v, e.string? = some t ∧ Json.read Json.lenient t = .ok v ∧ ListsFilms v

/-- A data element that stops the reading.  It has no text; or an integer in its text is too long,
or the values in it lie too deep; or the value of its text stops the reading. -/
def Stopping (e : Markup.Node) : Prop :=
  e.string? = none ∨ ∃ t, e.string? = some t ∧
    ((∃ digits, Json.read Json.lenient t = .error (.longInteger digits)) ∨
      (∃ nest, Json.read Json.lenient t = .error (.tooDeep nest)) ∨
      ∃ v, Json.read Json.lenient t = .ok v ∧ StopsReading v)

/-- What is made of a data element. -/
def dataListings (e : Markup.Node) : Except Fault (Option (List Listing)) :=
  (dataValue e).bind listingsOf?

/-- A data element fails as its text does, or as the value of its text. -/
lemma dataListings_eq (e : Markup.Node) :
    (e.string? = none ∧ dataListings e = .error (.notJsonText .null)) ∨
    ∃ t, e.string? = some t ∧
      ((∃ v, Json.read Json.lenient t = .ok v ∧ dataListings e = listingsOf? v) ∨
        ∃ refusal, Json.read Json.lenient t = .error refusal ∧
          dataListings e = .error (Fault.ofRefusal t refusal)) := by
  unfold dataListings dataValue
  cases e.string? with
  | none => exact .inl ⟨rfl, rfl⟩
  | some t =>
      refine .inr ⟨t, rfl, ?_⟩
      dsimp only [Json.parse]
      cases Json.read Json.lenient t with
      | error refusal => exact .inr ⟨refusal, rfl, rfl⟩
      | ok v => exact .inl ⟨v, rfl, rfl⟩

/-- **A data element stops the reading** exactly if it is a stopping one. -/
lemma escapes_dataListings_iff {e : Markup.Node} : Fails Escapes (dataListings e) ↔ Stopping e := by
  unfold Stopping
  rcases dataListings_eq e with ⟨hnone, h⟩ | ⟨t, ht, ⟨v, hv, h⟩ | ⟨refusal, hrefusal, h⟩⟩ <;> rw [h]
  · exact iff_of_true (fails_error_iff.2 rfl) (.inl hnone)
  · simp [ht, hv, escapes_listingsOf?_iff]
  · cases refusal <;> simp [ht, hrefusal, fails_error_iff, Escapes, isDataFault, Fault.ofRefusal]

/-- **A data element gives a list** exactly if it lists films. -/
lemma exists_dataListings_iff {e : Markup.Node} :
    (∃ ls, dataListings e = .ok (some ls)) ↔ Lists e := by
  unfold Lists
  rcases dataListings_eq e with ⟨hnone, h⟩ | ⟨t, ht, ⟨v, hv, h⟩ | ⟨refusal, hrefusal, h⟩⟩
  · simp [h, hnone]
  · simp [h, ht, hv, exists_listingsOf?_iff]
  · simp [h, ht, hrefusal]

/-- A fault of the data is none of the request. -/
lemma not_request_dataListings (e : Markup.Node) :
    ¬Fails (fun f => f.isRequest = true) (dataListings e) := by
  rcases dataListings_eq e with ⟨-, h⟩ | ⟨t, -, ⟨v, -, h⟩ | ⟨refusal, -, h⟩⟩ <;> rw [h]
  · simp [fails_error_iff, Fault.isRequest]
  · exact not_request_listingsOf? v
  · cases refusal <;> simp [fails_error_iff, Fault.isRequest, Fault.ofRefusal]

lemma firstListings_cons (e : Markup.Node) (rest : List Markup.Node) :
    firstListings (e :: rest) =
      match dataListings e with
      | .ok (some ls) => .ok ls
      | .ok none => firstListings rest
      | .error f => if isDataFault f then firstListings rest else .error f :=
  rfl

/-- **The data give a list unless a stopping element comes before all that list films.** -/
lemma firstListings_cases (es : List Markup.Node) :
    ((∃ ls, firstListings es = .ok ls) ∧ ¬Ahead Stopping Lists es) ∨
    (Fails (fun f => f.isRequest = false) (firstListings es) ∧ Ahead Stopping Lists es) := by
  induction es with
  | nil => exact .inl ⟨⟨[], rfl⟩, not_ahead_nil⟩
  | cons e rest ih =>
      have hrequest := not_request_dataListings e
      rw [firstListings_cons, ahead_cons_iff, ← escapes_dataListings_iff, ← exists_dataListings_iff]
      cases hdata : dataListings e with
      | ok found =>
          cases found with
          | none => simpa [not_fails_ok] using ih
          | some ls => exact .inl ⟨⟨ls, rfl⟩, by simp [not_fails_ok]⟩
      | error f =>
          rw [hdata, fails_error_iff, Bool.not_eq_true] at hrequest
          cases hfault : isDataFault f with
          | true => simpa [fails_error_iff, Escapes, hfault] using ih
          | false => exact .inr ⟨⟨f, by simp [hfault], hrequest⟩, .inl ⟨f, rfl, hfault⟩⟩

end

/-! ## The page -/

/-- The request for the chart. -/
def chartRequest : Request :=
  .get (.str Site.chart) Site.timeout

/-- The page of the chart in an answer. -/
def chartIn : Page → Except Fault Markup.Node
  | .reply reply =>
      if 400 ≤ reply.status ∧ reply.status < 600 then
        .error (.badStatus reply.status reply.reason Site.chart)
      else Markup.parse reply.text
  | .failure cause message => .error (.transport cause message)

lemma chartIn_of_success {reply : Reply} (h : ¬(400 ≤ reply.status ∧ reply.status < 600)) :
    chartIn (.reply reply) = Markup.parse reply.text :=
  if_neg h

/-- **The page of the chart is asked for once, and its answer decides what comes of it.** -/
lemma outcome_chartPage (w : World) : ∃ w', Heard w [chartRequest] w' ∧
    outcome chartPage w = ((chartIn (w.answer chartRequest)).mapError Stop.fault, w') := by
  have hheard := ((Heard.refl w).ask chartRequest).1
  refine ⟨_, hheard, ?_⟩
  unfold chartPage
  rw [fetch_eq_ask, ← chartRequest, outcome_bind, outcome_ask, World.answer]
  rcases (nextPage w chartRequest.address?).1 with reply | ⟨cause, message⟩
  · dsimp only [chartIn]
    unfold requireSuccess
    split_ifs with hbad
    · rfl
    · cases Markup.parse reply.text <;> rfl
  · rfl

/-- Whether an element is an entry of the chart. -/
def isChartEntry (n : Markup.Node) : Bool :=
  n.isElement "li" && n.withClass "ipc-metadata-list-summary-item"

/-- The listings in the links of an answer. -/
def linkedIn (answer : Page) : List Listing :=
  (((chartIn answer).toOption.map fun page => page.findAll isChartEntry).bind
    entryListings?).getD []

/-- The second reading asks for the page once more, and never stops. -/
lemma ends_linkedListings (w : World) : ∃ w', Heard w [chartRequest] w' ∧
    Ends linkedListings w (linkedIn (w.answer chartRequest)) w' := by
  obtain ⟨w', hheard, hpage⟩ := outcome_chartPage w
  refine ⟨w', hheard, ?_⟩
  unfold Ends linkedListings linkedIn
  rw [outcome_bind, outcome_attempt, hpage]
  cases chartIn (w.answer chartRequest) <;> rfl

section

variable [Platform]

/-- The listings in the data of an answer. -/
def dataIn (answer : Page) : Except Fault (List Listing) :=
  chartIn answer >>= fun page => firstListings (dataElements page)

/-- What is made of the data: a fault of the request is reported, any other stops the run. -/
def reportData : Except Fault (List Listing) → Program (List Listing)
  | .ok ls => return ls
  | .error f =>
      if f.isRequest then do
        say ["Error fetching IMDb: ", f.message]
        return []
      else Program.fail f

/-- The data are read from one answer. -/
lemma outcome_listings (w : World) : ∃ v, Heard w [chartRequest] v ∧
    outcome listings w = outcome (reportData (dataIn (w.answer chartRequest))) v := by
  obtain ⟨v, hheard, hpage⟩ := outcome_chartPage w
  have hlistings : listings = Program.attempt (chartPage >>= fun page =>
      Program.lift (firstListings (dataElements page))) >>= reportData := rfl
  refine ⟨v, hheard, ?_⟩
  rw [hlistings, outcome_bind, outcome_attempt, outcome_bind, hpage, dataIn]
  cases chartIn (w.answer chartRequest) with
  | error f => rfl
  | ok page =>
      have hbind : (Except.ok page >>= fun page => firstListings (dataElements page)) =
          firstListings (dataElements page) := rfl
      rw [hbind]
      dsimp only [Except.mapError]
      cases firstListings (dataElements page) <;> rfl

/-- **The first reading stops exactly if the data fail otherwise than the request.** -/
lemma listings_cases (w : World) :
    (∃ ls w', Ends listings w ls w' ∧ Heard w [chartRequest] w' ∧
      ¬Fails (fun f => f.isRequest = false) (dataIn (w.answer chartRequest))) ∨
    ∃ f w', outcome listings w = (.error (.fault f), w') ∧ Heard w [chartRequest] w' ∧
      Fails (fun f => f.isRequest = false) (dataIn (w.answer chartRequest)) := by
  obtain ⟨v, hheard, houtcome⟩ := outcome_listings w
  unfold Ends
  rw [houtcome]
  cases dataIn (w.answer chartRequest) with
  | ok ls => exact .inl ⟨ls, v, rfl, hheard, not_fails_ok ls⟩
  | error f =>
      rw [reportData]
      cases hrequest : f.isRequest with
      | true =>
          refine .inl ⟨[], _, rfl, hheard.unasked (unasked_say _ v), ?_⟩
          rw [fails_error_iff, hrequest]
          decide
      | false => exact .inr ⟨f, v, rfl, hheard, fails_error_iff.2 hrequest⟩

/-! ## The chart -/

/-- The films of the listings that were found. -/
def listFilms (ls : List Listing) : Program (List Movie) := do
  say ["Found ", Text.ofNat ls.length, " movies, fetching details..."]
  moviesFrom ls.length 0 ls

/-- What follows the first reading. -/
def afterData (first : List Listing) : Program (List Movie) :=
  if first.isEmpty then do
    say ["JSON-LD failed, trying HTML parsing..."]
    let ls ← linkedListings
    listFilms ls
  else listFilms first

/-- The first reading is made from a world like the one in which the chart is asked for. -/
lemma exists_outcome_chart (w : World) : ∃ v, Unasked w v ∧
    (outcome listings v).1 = (outcome listings w).1 ∧
    outcome chart w = outcome (listings >>= afterData) v := by
  have hchart : chart = say ["Fetching IMDb Top 250 page..."] >>= fun _ =>
      listings >>= afterData := rfl
  obtain ⟨v, hprinted, houtcome⟩ := exists_outcome_say_bind ["Fetching IMDb Top 250 page..."]
    (fun _ => listings >>= afterData) w
  have hunasked : Unasked w v := by
    rw [hprinted]
    exact ⟨by simp [World.requests], rfl, rfl⟩
  exact ⟨v, hunasked, (remote_listings.alike (alike_of_printed hprinted)).1,
    by rw [hchart, houtcome]⟩

/-- **Where the first reading stops, nothing follows.** -/
lemma outcome_chart_of_stop {w w' : World} {f : Fault}
    (h : outcome listings w = (.error (.fault f), w')) : ∃ v, Heard w [chartRequest] v ∧
      outcome chart w = (.error (.fault f), v) := by
  obtain ⟨v, hunasked, hsame, hchart⟩ := exists_outcome_chart w
  rw [h] at hsame
  rw [hchart, outcome_bind]
  rcases listings_cases v with ⟨ls, v', hends, -⟩ | ⟨f', v', hstop, hheard, -⟩
  · rw [hends] at hsame
    cases hsame
  · rw [hstop] at hsame ⊢
    cases hsame
    exact ⟨v', hunasked.trans hheard, rfl⟩

/-- **Where the first reading gives nothing, the second is made.** -/
lemma requests_chart_of_nil {w w' : World} (h : Ends listings w [] w') :
    ∃ more, (outcome chart w).2.requests = w.requests ++ chartRequest :: chartRequest :: more := by
  obtain ⟨v, hunasked, hsame, hchart⟩ := exists_outcome_chart w
  rw [h] at hsame
  rcases listings_cases v with ⟨ls, v', hends, hheard, -⟩ | ⟨f, v', hstop, -⟩
  · rw [hends] at hsame
    cases hsame
    obtain ⟨u, hprinted, hsay⟩ := exists_outcome_say_bind ["JSON-LD failed, trying HTML parsing..."]
      (fun _ => linkedListings >>= listFilms) v'
    obtain ⟨u', hheard', hlinked⟩ := ends_linkedListings u
    have hafter : outcome (afterData []) v' = outcome (listFilms _) u' :=
      hsay.trans (hlinked.outcome_bind _)
    have hremote : Remote (listFilms (linkedIn (u.answer chartRequest))) :=
      .bind (.say _) fun _ => remote_moviesFrom _ _ 0
    obtain ⟨more, hmore⟩ := Remote.asksMore hremote u'
    refine ⟨more, ?_⟩
    rw [hchart, hends.outcome_bind, hafter, ← hmore, hheard'.requests, World.requests,
      hprinted.deeds, ← World.requests, (hunasked.trans hheard).requests]
    simp
  · rw [hstop] at hsame
    cases hsame

/-! ## The result -/

/-- The data of a page stop the reading exactly if a stopping element comes first. -/
lemma fails_dataIn_iff {reply : Reply} {page : Markup.Node}
    (hpage : Markup.parse reply.text = .ok page) :
    Fails (fun f => f.isRequest = false) (dataIn (.reply reply)) ↔
      ¬(400 ≤ reply.status ∧ reply.status < 600) ∧ Ahead Stopping Lists (dataElements page) := by
  by_cases hbad : 400 ≤ reply.status ∧ reply.status < 600
  · have hchart : chartIn (.reply reply) =
        .error (.badStatus reply.status reply.reason Site.chart) := if_pos hbad
    rw [dataIn, hchart, fails_bind_iff, fails_error_iff]
    exact iff_of_false (by simp [Fault.isRequest]) fun h => h.1 hbad
  · have hdata : dataIn (.reply reply) = firstListings (dataElements page) := by
      rw [dataIn, chartIn_of_success hbad, hpage]
      rfl
    rw [hdata, and_iff_right hbad]
    rcases firstListings_cases (dataElements page) with ⟨⟨ls, hls⟩, hnot⟩ | ⟨hfails, hahead⟩
    · rw [hls]
      exact iff_of_false (not_fails_ok ls) hnot
    · exact iff_of_true hfails hahead

/-- **The first reading of the chart ends unless a stopping element comes first.**  Let the chart be
answered by a page that is not refused.

* The first reading ends with a list exactly if the status of the answer stands for an error, or no
  data element is a stopping one with none before it that lists films.
* If it does not end, then it stops the whole run: the links of the page are not read.
* If it ends with nothing, then the page is asked for once more, for its links. -/
theorem data_stage_ends_iff {w : World} {reply : Reply} {page : Markup.Node}
    (hanswer : w.answer chartRequest = .reply reply)
    (hpage : Markup.parse reply.text = .ok page) :
    ((∃ ls w', Ends listings w ls w') ↔
      (400 ≤ reply.status ∧ reply.status < 600) ∨ ¬Ahead Stopping Lists (dataElements page)) ∧
    ((¬∃ ls w', Ends listings w ls w') → ∃ f w', outcome chart w = (.error (.fault f), w') ∧
      w'.requests = w.requests ++ [chartRequest]) ∧
    ∀ w', Ends listings w [] w' → ∃ more,
      (outcome chart w).2.requests = w.requests ++ chartRequest :: chartRequest :: more := by
  refine ⟨?_, fun hnot => ?_, fun w' h => requests_chart_of_nil h⟩
  · rw [or_iff_not_imp_left, ← not_and, ← fails_dataIn_iff hpage, ← hanswer]
    rcases listings_cases w with ⟨ls, w', hends, -, hfails⟩ | ⟨f, w', hstop, -, hfails⟩
    · exact iff_of_true ⟨ls, w', hends⟩ hfails
    · refine iff_of_false ?_ (not_not.2 hfails)
      rintro ⟨ls, v, hends⟩
      cases hstop.symm.trans hends
  · rcases listings_cases w with ⟨ls, w', hends, -⟩ | ⟨f, w', hstop, -⟩
    · exact absurd ⟨ls, w', hends⟩ hnot
    · obtain ⟨v, hheard, hchart⟩ := outcome_chart_of_stop hstop
      exact ⟨f, v, hchart, hheard.requests⟩

end

/-- A world in which the chart is answered by a page. -/
def servedChart (page : Text) : World where
  pages := [(Site.chart, [.reply ⟨200, "OK", page⟩])]
  fallback := .failure .connection "no answer"
  files := ⟨[], []⟩
  now := ⟨2026, 4, 11, 8, 53, 12⟩
  display := none
  screen := ⟨[], [], none, none, none⟩
  index := none
  out := []
  err := []
  deeds := []
  calls := []

/-- A page with one data element. -/
def dataPage (text : Text) : Text :=
  Text.cat ["<script type=\"application/ld+json\">", text, "</script>"]

/-- A list of items that are no objects is passed over, and then the page is asked for once more. -/
theorem data_stage_ends_iff_sample :
    let text := dataPage "\x7b\"@type\":\"ItemList\",\"itemListElement\":[7]\x7d"
    let w := servedChart text
    w.answer chartRequest = .reply ⟨200, "OK", text⟩ ∧
    (∃ page, Markup.parse text = .ok page ∧ ¬Ahead Stopping Lists (dataElements page)) ∧
    ∃ more, (outcome chart w).2.requests = chartRequest :: chartRequest :: more := by
  intro text w
  have hanswer : w.answer chartRequest = .reply ⟨200, "OK", text⟩ := rfl
  have hparse : (Markup.parse text).toOption.isSome = true := by decide +kernel
  obtain ⟨w', hends, -⟩ := exists_ends_of_toOption
    (show (outcome listings w).1.toOption = some [] by decide +kernel)
  cases hpage : Markup.parse text with
  | error f =>
      rw [hpage] at hparse
      cases hparse
  | ok page =>
      obtain ⟨hiff, -, hnil⟩ := data_stage_ends_iff hanswer hpage
      have hunstopped := (hiff.1 ⟨[], w', hends⟩).resolve_left (by decide)
      exact ⟨hanswer, ⟨page, rfl, hunstopped⟩, hnil w' hends⟩

/-- The page with a data element can be parsed, and yet the first reading stops, and with it the
run. -/
def StopsAt (text : Text) : Prop :=
  (Markup.parse (dataPage text)).toOption.isSome = true ∧
    (outcome listings (servedChart (dataPage text))).1.toOption = none ∧
    (outcome chart (servedChart (dataPage text))).1.toOption.isNone = true

/-- **The first reading can stop**: at a data element without a text, at a list that is null, and at
an address that is null. -/
theorem data_stage_stopped :
    StopsAt "" ∧ StopsAt "\x7b\"@type\":\"ItemList\",\"itemListElement\":null\x7d" ∧
      StopsAt (Text.cat ["\x7b\"@type\":\"ItemList\",\"itemListElement\":",
        "[\x7b\"item\":\x7b\"url\":null\x7d\x7d]\x7d"]) := by
  unfold StopsAt
  decide +kernel

end Film

end Gleaner
