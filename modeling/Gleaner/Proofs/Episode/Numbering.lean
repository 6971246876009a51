import Gleaner.Proofs.Episode.Resuming
import Gleaner.Proofs.World.Exchanges

/-!
# The numbers of episodes

A transcript is stored under the season and the number of its episode, so no two episodes of a list
should share them.  The second reading of an index page numbers every list without fault; the first
one does so only if no season is taken up again, and that is exactly when it fails
(`numbered_iff_not_resumed`).

**Numbered lists.**  `Numbered list` says that the episodes of each season have the numbers from one
on, in the order of the list.  Then no two of them share a slot (`Numbered.nodup_slots`).

**The second reading.**  It counts the known episodes of a season before it adds to them, so each
step keeps the list numbered (`Numbered.append_entries`).

**The first reading.**  It begins to count at every heading.  What it gives is made from the
sections of the body, each numbered by itself (`eq_ofSections_of_ofBody`), and two sections of one
season that both have links share the slot of their first episodes.
-/

namespace Gleaner.Episode

/-! ## Numbered lists -/

/-- The numbers of the episodes of a season, in the order of the list. -/
def numbersOf (season : Nat) (list : List Entry) : List Nat :=
  (list.filter fun e => e.season == season).map (·.number)

/-- In each season the episodes have the numbers from one on, in the order of the list. -/
def Numbered (list : List Entry) : Prop :=
  ∀ season, ∃ k, numbersOf season list = List.range' 1 k

/-- The season and the number of an episode, which its transcript is stored under. -/
def Entry.slot (e : Entry) : Nat × Nat :=
  (e.season, e.number)

@[simp] lemma numbersOf_nil (season : Nat) : numbersOf season [] = [] := rfl

@[simp] lemma numbersOf_append (season : Nat) (list more : List Entry) :
    numbersOf season (list ++ more) = numbersOf season list ++ numbersOf season more := by
  simp [numbersOf]

lemma length_numbersOf (season : Nat) (list : List Entry) :
    (numbersOf season list).length = list.countP fun e => e.season == season := by
  simp [numbersOf, List.countP_eq_length_filter]

@[simp] lemma entries_nil (season first : Nat) : entries season first [] = [] := rfl

lemma entries_cons (season first : Nat) (link : Text × Text) (links : List (Text × Text)) :
    entries season first (link :: links) =
      ⟨linkTitle link.1, season, first, Site.scripts ++ link.2, []⟩ ::
        entries season (first + 1) links := by
  simp only [entries, List.mapIdx_cons, Nat.add_zero]
  congr 2
  funext i l
  rw [Nat.add_assoc, Nat.add_comm 1 i]

/-- More links of a season go on where the numbers have stopped. -/
lemma entries_append (season first : Nat) (links more : List (Text × Text)) :
    entries season first (links ++ more) =
      entries season first links ++ entries season (first + links.length) more := by
  induction links generalizing first with
  | nil => simp
  | cons link links ih =>
      rw [List.cons_append, entries_cons, ih, entries_cons, List.cons_append, List.length_cons,
        Nat.add_assoc, Nat.add_comm 1]

lemma season_of_mem_entries {season first : Nat} {links : List (Text × Text)} {e : Entry}
    (h : e ∈ entries season first links) : e.season = season := by
  induction links generalizing first with
  | nil => simp at h
  | cons link links ih =>
      rw [entries_cons, List.mem_cons] at h
      rcases h with rfl | h
      · rfl
      · exact ih h

lemma numbersOf_entries (season first : Nat) (links : List (Text × Text)) :
    numbersOf season (entries season first links) = List.range' first links.length := by
  induction links generalizing first with
  | nil => rfl
  | cons link links ih =>
      rw [entries_cons, List.length_cons, List.range'_succ, ← ih]
      simp [numbersOf]

lemma numbersOf_entries_of_ne {season other : Nat} (h : season ≠ other) (first : Nat)
    (links : List (Text × Text)) : numbersOf other (entries season first links) = [] := by
  have hnone : ∀ e ∈ entries season first links, ¬(e.season == other) = true := by
    intro e he
    rw [season_of_mem_entries he]
    simpa using h
  rw [numbersOf, List.filter_eq_nil_iff.2 hnone, List.map_nil]

lemma mem_numbersOf {list : List Entry} {e : Entry} (h : e ∈ list) :
    e.number ∈ numbersOf e.season list := by
  simp only [numbersOf, List.mem_map, List.mem_filter]
  exact ⟨e, ⟨h, beq_self_eq_true _⟩, rfl⟩

/-- Slots are different if the numbers of each season are. -/
lemma nodup_slots {list : List Entry} (h : ∀ season, (numbersOf season list).Nodup) :
    (list.map Entry.slot).Nodup := by
  induction list with
  | nil => simp
  | cons e rest ih =>
      have hrest : ∀ season, (numbersOf season rest).Nodup := by
        intro season
        have hseason := h season
        rw [← List.singleton_append, numbersOf_append] at hseason
        exact (List.nodup_append.1 hseason).2.1
      rw [List.map_cons, List.nodup_cons]
      refine ⟨fun hmem => ?_, ih hrest⟩
      obtain ⟨e', he', hslot⟩ := List.mem_map.1 hmem
      obtain ⟨hseason, hnumber⟩ := Prod.mk.inj hslot
      have hsame := h e.season
      have hcons : numbersOf e.season (e :: rest) = e.number :: numbersOf e.season rest := by
        simp [numbersOf]
      rw [hcons, List.nodup_cons, ← hnumber, ← hseason] at hsame
      exact hsame.1 (mem_numbersOf he')

/-- **No two episodes of a numbered list share a slot.** -/
lemma Numbered.nodup_slots {list : List Entry} (h : Numbered list) :
    (list.map Entry.slot).Nodup := by
  refine Episode.nodup_slots fun season => ?_
  obtain ⟨k, hk⟩ := h season
  rw [hk]
  exact List.nodup_range'

/-! ## The second reading -/

/-- **A list stays numbered if the known episodes are counted first.** -/
lemma Numbered.append_entries {known : List Entry} (h : Numbered known) (season : Nat)
    (links : List (Text × Text)) :
    Numbered (known ++
      entries season ((known.countP fun e => e.season == season) + 1) links) := by
  intro other
  obtain ⟨k, hk⟩ := h other
  by_cases hseason : season = other
  · subst hseason
    refine ⟨k + links.length, ?_⟩
    rw [numbersOf_append, numbersOf_entries, ← length_numbersOf, hk, List.length_range',
      Nat.add_comm k 1, List.range'_append_1]
  · refine ⟨k, ?_⟩
    rw [numbersOf_append, numbersOf_entries_of_ne hseason, List.append_nil, hk]

lemma numbered_behindHeadings (hs : List (Markup.Node × List Markup.Node)) :
    ∀ {known list : List Entry}, Numbered known → Entry.behindHeadings known hs = .ok list →
      Numbered list := by
  induction hs with
  | nil =>
      intro known list hknown h
      cases h
      exact hknown
  | cons head rest ih =>
      obtain ⟨heading, following⟩ := head
      intro known list hknown h
      rw [Entry.behindHeadings] at h
      obtain ⟨named, -, h⟩ := bind_eq_ok h
      cases named with
      | none => exact ih hknown h
      | some season => exact ih (hknown.append_entries season _) h

/-- **The second reading always gives a numbered list.** -/
lemma numbered_ofHeadings {page : Markup.Node} {list : List Entry}
    (h : Entry.ofHeadings page = .ok list) : Numbered list :=
  numbered_behindHeadings _ (fun _ => ⟨0, rfl⟩) h

/-! ## The first reading -/

/-- A section of a body: the season that its heading names, and the links up to the next heading. -/
abbrev Section := Nat × List (Text × Text)

/-- The sections of the parts of a body, the first of which has the given season and begins with the
given links. -/
def sectionsFrom (season : Nat) (links : List (Text × Text)) : List Markup.Node → List Section
  | [] => [(season, links)]
  | part :: rest =>
      match seasonNumber? part.strippedText with
      | .ok (some next) => (season, links) :: sectionsFrom next [] rest
      | _ => sectionsFrom season (links ++ if holdsLinks part then episodeLinks part else []) rest

/-- The sections of the body of a page; what stands before the first heading belongs to the first
season. -/
def sections (page : Markup.Node) : List Section :=
  match page.find? (Markup.Node.isElement "body") with
  | some body => sectionsFrom 1 [] body.children
  | none => []

/-- The entries of sections, each numbered by itself. -/
def ofSections (secs : List Section) : List Entry :=
  secs.flatMap fun s => entries s.1 1 s.2

/-- The seasons of the sections that have links, in order. -/
def seasonsWithLinks (secs : List Section) : List Nat :=
  (secs.filter fun s => !s.2.isEmpty).map (·.1)

/-- A season is taken up again: two sections that have links name it. -/
def Resumed (page : Markup.Node) : Prop :=
  ¬(seasonsWithLinks (sections page)).Nodup

instance (page : Markup.Node) : Decidable (Resumed page) :=
  inferInstanceAs (Decidable (¬_))

@[simp] lemma ofSections_cons (s : Section) (secs : List Section) :
    ofSections (s :: secs) = entries s.1 1 s.2 ++ ofSections secs := by
  simp [ofSections]

@[simp] lemma seasonsWithLinks_cons_nil (season : Nat) (secs : List Section) :
    seasonsWithLinks ((season, []) :: secs) = seasonsWithLinks secs := by
  simp [seasonsWithLinks]

@[simp] lemma seasonsWithLinks_cons_cons (season : Nat) (link : Text × Text)
    (links : List (Text × Text)) (secs : List Section) :
    seasonsWithLinks ((season, link :: links) :: secs) = season :: seasonsWithLinks secs := by
  simp [seasonsWithLinks]

/-- The numbers go on inside a section, so what is found there so far can be put in front. -/
lemma eq_ofSections_of_ofParts (parts : List Markup.Node) :
    ∀ {season count : Nat} {links : List (Text × Text)} {list : List Entry},
      links.length = count → Entry.ofParts season count parts = .ok list →
        entries season 1 links ++ list = ofSections (sectionsFrom season links parts) := by
  induction parts with
  | nil =>
      intro season count links list _ h
      cases h
      simp [sectionsFrom, ofSections]
  | cons part rest ih =>
      intro season count links list hcount h
      rw [Entry.ofParts] at h
      obtain ⟨named, hnamed, h⟩ := bind_eq_ok h
      rw [sectionsFrom, hnamed]
      cases named with
      | some next =>
          have hnext := ih (show ([] : List (Text × Text)).length = 0 from rfl) h
          rw [entries_nil, List.nil_append] at hnext
          rw [hnext]
          simp
      | none =>
          obtain ⟨more, hmore, h⟩ := bind_eq_ok h
          cases h
          dsimp only
          rw [← ih (by rw [List.length_append, hcount]) hmore, entries_append, hcount,
            Nat.add_comm 1 count, List.append_assoc]

/-- **The first reading numbers each section by itself.** -/
lemma eq_ofSections_of_ofBody {page : Markup.Node} {list : List Entry}
    (h : Entry.ofBody page = .ok list) : list = ofSections (sections page) := by
  rw [Entry.ofBody] at h
  rw [sections]
  cases hbody : page.find? (Markup.Node.isElement "body") with
  | none =>
      rw [hbody] at h
      cases h
      rfl
  | some body =>
      rw [hbody] at h
      have hparts := eq_ofSections_of_ofParts body.children
        (show ([] : List (Text × Text)).length = 0 from rfl) h
      rwa [entries_nil, List.nil_append] at hparts

lemma numbersOf_ofSections_of_notMem {season : Nat} {secs : List Section}
    (h : season ∉ seasonsWithLinks secs) : numbersOf season (ofSections secs) = [] := by
  induction secs with
  | nil => rfl
  | cons s secs ih =>
      obtain ⟨named, _ | ⟨link, links⟩⟩ := s
      · rw [seasonsWithLinks_cons_nil] at h
        simpa using ih h
      · rw [seasonsWithLinks_cons_cons, List.mem_cons, not_or] at h
        rw [ofSections_cons, numbersOf_append, ih h.2, numbersOf_entries_of_ne (Ne.symm h.1)]
        rfl

/-- Sections of different seasons give a numbered list. -/
lemma numbered_ofSections {secs : List Section} (h : (seasonsWithLinks secs).Nodup) :
    Numbered (ofSections secs) := by
  induction secs with
  | nil => exact fun _ => ⟨0, rfl⟩
  | cons s secs ih =>
      obtain ⟨named, _ | ⟨link, links⟩⟩ := s
      · rw [seasonsWithLinks_cons_nil] at h
        simpa using ih h
      · rw [seasonsWithLinks_cons_cons, List.nodup_cons] at h
        intro season
        rw [ofSections_cons, numbersOf_append]
        by_cases hseason : named = season
        · subst hseason
          refine ⟨(link :: links).length, ?_⟩
          rw [numbersOf_entries, numbersOf_ofSections_of_notMem h.1, List.append_nil]
        · obtain ⟨k, hk⟩ := ih h.2 season
          refine ⟨k, ?_⟩
          rw [numbersOf_entries_of_ne hseason, List.nil_append, hk]

/-- A season with links has a first episode. -/
lemma first_mem_slots {season : Nat} {secs : List Section} (h : season ∈ seasonsWithLinks secs) :
    (season, 1) ∈ (ofSections secs).map Entry.slot := by
  induction secs with
  | nil => simp [seasonsWithLinks] at h
  | cons s secs ih =>
      rw [ofSections_cons, List.map_append, List.mem_append]
      obtain ⟨named, _ | ⟨link, links⟩⟩ := s
      · rw [seasonsWithLinks_cons_nil] at h
        exact .inr (ih h)
      · rw [seasonsWithLinks_cons_cons, List.mem_cons] at h
        rcases h with rfl | h
        · exact .inl (by simp [entries_cons, Entry.slot])
        · exact .inr (ih h)

/-- **Two sections of one season share a slot.** -/
lemma nodup_seasonsWithLinks {secs : List Section} (h : ((ofSections secs).map Entry.slot).Nodup) :
    (seasonsWithLinks secs).Nodup := by
  induction secs with
  | nil => simp [seasonsWithLinks]
  | cons s secs ih =>
      rw [ofSections_cons, List.map_append, List.nodup_append] at h
      obtain ⟨-, hrest, hapart⟩ := h
      obtain ⟨named, _ | ⟨link, links⟩⟩ := s
      · rw [seasonsWithLinks_cons_nil]
        exact ih hrest
      · rw [seasonsWithLinks_cons_cons, List.nodup_cons]
        refine ⟨fun hmem => ?_, ih hrest⟩
        have hfirst : (named, 1) ∈ (entries named 1 (link :: links)).map Entry.slot := by
          simp [entries_cons, Entry.slot]
        exact hapart _ hfirst _ (first_mem_slots hmem) rfl

/-! ## The list of a page -/

/-- The two readings between which the list of a page is chosen. -/
lemma readings_of_readIndex {url : Json} {w w' : World} {list : List Entry}
    (h : Ends (readIndex url) w list w') :
    ∃ reply page first, w.answer (.get url Site.timeout) = .reply reply ∧
      Markup.parse reply.text = .ok page ∧ Entry.ofBody page = .ok first ∧
      if first.length < enough then Entry.ofHeadings page = .ok list else first = list := by
  unfold readIndex at h
  obtain ⟨_, v, hsay, h⟩ := ends_bind.1 h
  obtain ⟨reply, v₁, hreply, h⟩ := ends_bind.1 h
  obtain ⟨_, v₂, -, h⟩ := ends_bind.1 h
  obtain ⟨page, hpage, h⟩ := exists_of_lift_bind h
  obtain ⟨_, -, h⟩ := exists_of_lift_bind h
  obtain ⟨_, v₃, -, h⟩ := ends_bind.1 h
  obtain ⟨_, v₄, -, h⟩ := ends_bind.1 h
  obtain ⟨first, hfirst, h⟩ := exists_of_lift_bind h
  have hanswer : w.answer (.get url Site.timeout) = .reply reply := by
    rw [fetch_eq_ask] at hreply
    have hasked := answer_of_ends_ask hreply
    rw [← ends_say.1 hsay] at hasked
    exact hasked
  refine ⟨reply, page, first, hanswer, hpage, hfirst, ?_⟩
  dsimp only at h
  split at h
  case isTrue hfew =>
    obtain ⟨_, v₅, -, h⟩ := ends_bind.1 h
    obtain ⟨found, hfound, h⟩ := exists_of_lift_bind h
    obtain ⟨_, v₆, -, h⟩ := ends_bind.1 h
    rw [if_pos hfew, ← (ends_pure.1 h).1]
    exact hfound
  case isFalse hmany =>
    obtain ⟨_, v₅, hsame, h⟩ := ends_bind.1 h
    obtain ⟨_, v₆, -, h⟩ := ends_bind.1 h
    rw [if_neg hmany, ← (ends_pure.1 h).1]
    exact (ends_pure.1 hsame).1

/-- **A list is numbered unless the first reading has taken up a season again.**  Let the reading of
an index page end.  The episodes of every season have the numbers 1, 2, … in the order of the list,
except when the first reading has found enough and two sections of the body that have links name one
season. In the same cases, and only in these, two episodes share a slot. -/
theorem numbered_iff_not_resumed {url : Json} {w w' : World} {list : List Entry}
    (h : Ends (readIndex url) w list w') :
    ∃ reply page first, w.answer (.get url Site.timeout) = .reply reply ∧
      Markup.parse reply.text = .ok page ∧ Entry.ofBody page = .ok first ∧
      (Numbered list ↔ ¬(enough ≤ first.length ∧ Resumed page)) ∧
      ((list.map Entry.slot).Nodup ↔ ¬(enough ≤ first.length ∧ Resumed page)) := by
  obtain ⟨reply, page, first, hreply, hpage, hfirst, hlist⟩ := readings_of_readIndex h
  refine ⟨reply, page, first, hreply, hpage, hfirst, ?_⟩
  suffices hall : (¬(enough ≤ first.length ∧ Resumed page) → Numbered list) ∧
      ((list.map Entry.slot).Nodup → ¬(enough ≤ first.length ∧ Resumed page)) from
    ⟨⟨fun hn => hall.2 hn.nodup_slots, hall.1⟩, ⟨hall.2, fun hr => (hall.1 hr).nodup_slots⟩⟩
  split at hlist
  case isTrue hfew =>
    exact ⟨fun _ => numbered_ofHeadings hlist, fun _ hresumed => absurd hresumed.1 (by omega)⟩
  case isFalse hmany =>
    subst hlist
    rw [eq_ofSections_of_ofBody hfirst] at hmany ⊢
    constructor
    · intro hresumed
      refine numbered_ofSections (not_not.1 fun hdup => hresumed ⟨by omega, hdup⟩)
    · intro hslots hresumed
      exact hresumed.2 (nodup_seasonsWithLinks hslots)

/-- A link to an episode. -/
def linkTo (name : Text) : Text :=
  Text.cat ["<a href=\"/TV Transcripts/", name, ".html\">", name, "</a>"]

/-- A world with an index page. -/
def indexWorld (page : Text) : World :=
  { sampleWorld with pages := [(indexUrl, [.reply ⟨200, "OK", page⟩])] }

/-- An index page with four episodes, three of which belong to a season that is taken up again. -/
def shortIndex : Text :=
  Text.cat ["<body><h2>Series 2</h2><p>", linkTo "A", linkTo "B", "</p><h2>Series 1</h2><p>",
    linkTo "C", "</p><h2>Series 2</h2><p>", linkTo "D", "</p></body>"]

/-- The season is taken up again, but there are few episodes: the second reading numbers them. -/
theorem numbered_iff_not_resumed_sample :
    ((Markup.parse shortIndex).toOption.map fun page => decide (Resumed page)) = some true ∧
    ∃ list w', Ends (readIndex (.str indexUrl)) (indexWorld shortIndex) list w' ∧
      list.map Entry.slot = [(2, 1), (2, 2), (1, 1), (2, 3)] ∧ Numbered list := by
  have hslots : (outcome (readIndex (.str indexUrl)) (indexWorld shortIndex)).1.toOption.map
      (List.map Entry.slot) = some [(2, 1), (2, 2), (1, 1), (2, 3)] := by
    decide +kernel
  have hfew : ((Markup.parse shortIndex).bind Entry.ofBody).toOption.map List.length = some 4 := by
    decide +kernel
  obtain ⟨list, hlist, hslots⟩ := Option.map_eq_some_iff.1 hslots
  obtain ⟨w', hends, -⟩ := exists_ends_of_toOption hlist
  refine ⟨by decide +kernel, list, w', hends, hslots, ?_⟩
  obtain ⟨reply, page, first, hreply, hpage, hfirst, hnumbered, -⟩ :=
    numbered_iff_not_resumed hends
  obtain rfl : ⟨200, "OK", shortIndex⟩ = reply := Page.reply.inj hreply
  rw [hpage] at hfew
  have hlength : first.length = 4 := by
    rw [show (Except.ok page).bind Entry.ofBody = Entry.ofBody page from rfl, hfirst] at hfew
    exact Option.some.inj hfew
  exact hnumbered.2 fun hmany => absurd hmany.1 (by rw [hlength]; decide)

/-- An index page with a hundred episodes of a season, and one more under a second heading. -/
def longIndex : Text :=
  Text.cat ["<body><h2>Series 1</h2><p>", (List.replicate 100 (linkTo "A")).flatten,
    "</p><h2>Series 1</h2><p>", linkTo "B", "</p></body>"]

/-- The last of a hundred and one episodes has the number of the first. -/
theorem slot_shared_after_second_heading :
    ∃ list w', Ends (readIndex (.str indexUrl)) (indexWorld longIndex) list w' ∧
      numbersOf 1 list = List.range' 1 100 ++ [1] ∧ ¬Numbered list ∧
      ¬(list.map Entry.slot).Nodup := by
  have hnumbers : (outcome (readIndex (.str indexUrl)) (indexWorld longIndex)).1.toOption.map
      (fun list => (numbersOf 1 list, decide (list.map Entry.slot).Nodup)) =
        some (List.range' 1 100 ++ [1], false) := by
    decide +kernel
  obtain ⟨list, hlist, hpair⟩ := Option.map_eq_some_iff.1 hnumbers
  obtain ⟨hnumbers, hshared⟩ := Prod.mk.inj hpair
  obtain ⟨w', hends, -⟩ := exists_ends_of_toOption hlist
  have hshared := of_decide_eq_false hshared
  exact ⟨list, w', hends, hnumbers, fun hnumbered => hshared hnumbered.nodup_slots, hshared⟩

end Gleaner.Episode
