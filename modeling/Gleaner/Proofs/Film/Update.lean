import Gleaner.Proofs.Film.Completed

/-!
# A list that is brought up to date

When an entry of the stored list has no address, the maker of the list says that it will update what
is missing.  What it does is to make the whole list anew.  `searchChart` is the part of the run that
looks for films; it asks the sites and does not look at the stored list (`remote_searchChart`).

**What stays.**  A list in which no address is missing stays as it is, and so does every list if the
search comes to nothing (`files_eq_of_not_remakes`).

**What is remade.**  Otherwise the stored list is the list of the films that the search has found
(`storedEntries_of_remakes`).  So a film that had an address keeps its place exactly if it was found
again (`listed_iff_found_again`), and one day without an answer from the site of scripts is enough
to lose it (`address_lost_in_update`).
-/

namespace Gleaner.Film

/-! ## The films that the stored list tells of -/

/-- Whether an entry has an address that is not empty. -/
def hasAddress (entry : Json) : Bool :=
  (entry.member? "imsdb_url").any Json.isTruthy

lemma hasAddress_of_located {m : Movie} (h : Located m) : hasAddress m.toJson = true := by
  obtain ⟨url, hurl, title, year, id, page, rfl, -⟩ := h
  have haddress : hasAddress (Movie.toJson ⟨.str title, .int year, .str id, .str page, .str url⟩) =
      Json.isTruthy (.str url) := rfl
  rw [haddress]
  simpa [Json.isTruthy] using hurl

lemma isTruthy_of_items {list : Json} {entries : List Json} (h : list.items = .ok entries)
    (hne : entries ≠ []) : list.isTruthy = true := by
  cases list with
  | arr vs =>
      cases h
      simpa [Json.isTruthy] using hne
  | obj ms =>
      cases h
      simpa [Json.isTruthy] using hne
  | str t =>
      cases h
      simpa [Json.isTruthy] using hne
  | null => cases h
  | bool b => cases h
  | int n => cases h
  | real x => cases h

lemma ne_nil_of_lacksAddress {entries : List Json} (h : lacksAddress entries = .ok true) :
    entries ≠ [] := by
  rintro rfl
  cases h

section

variable [Platform]

/-- The entries of the list on disk. -/
def storedEntries (fs : Files) : Except Fault (List Json) := do
  let t ← fs.read listFile
  let list ← Json.parse t
  list.items

/-- Whether a film is on the list on disk with its address.  How the film is told from others, by
its number, its title or all that is known of it, is left open. -/
def listed (isFilm : Json → Bool) (fs : Files) : Bool :=
  (storedEntries fs).toOption.any fun entries => entries.any fun e => isFilm e && hasAddress e

section

variable {isFilm : Json → Bool} {fs : Files} {entries : List Json}

lemma exists_read_of_storedEntries (h : storedEntries fs = .ok entries) :
    ∃ t list, fs.read listFile = .ok t ∧ Json.parse t = .ok list ∧ list.items = .ok entries := by
  obtain ⟨t, hread, h⟩ := bind_eq_ok h
  obtain ⟨list, hparse, hitems⟩ := bind_eq_ok h
  exact ⟨t, list, hread, hparse, hitems⟩

lemma storedEntries_eq {t : Text} {list : Json} (hread : fs.read listFile = .ok t)
    (hparse : Json.parse t = .ok list) : storedEntries fs = list.items := by
  simp only [storedEntries, hread, hparse, bind, Except.bind]

lemma listed_eq (h : storedEntries fs = .ok entries) :
    listed isFilm fs = entries.any fun e => isFilm e && hasAddress e := by
  rw [listed, h]
  rfl

lemma exists_of_listed (h : listed isFilm fs = true) :
    ∃ entries, storedEntries fs = .ok entries ∧ entries ≠ [] := by
  cases hstored : storedEntries fs with
  | error f =>
      rw [listed, hstored] at h
      cases h
  | ok entries =>
      refine ⟨entries, rfl, ?_⟩
      rintro rfl
      rw [listed_eq hstored] at h
      cases h

end

/-! ## The search -/

/-- Looks for the films of the chart that have a script; nothing is given if the chart is empty. -/
def searchChart : Program (Option (List Movie)) := do
  say ["\n[1/2] Scraping IMDb Top 250 movies..."]
  let movies ← chart
  say ["Found ", Text.ofNat movies.length, " movies"]
  if movies.isEmpty then
    say ["No movies found. Check network/proxy configuration."]
    return none
  else do
    say ["\n[2/2] Searching for screenplays on IMSDb..."]
    let found ← withScripts movies.length 0 movies
    return some found

/-- Sums up a list of films that was stored. -/
def sumUp (found : List Movie) : Program Unit := do
  say ["Saved movie list to ", listFile]
  say ["\n", ruler]
  say ["Summary"]
  say ["  Total movies scraped: ", Text.ofNat found.length]
  say ["  Movies with screenplays: ", Text.ofNat found.length]
  say ["  Saved to: ", listFile]
  say [ruler]

/-- Stores the films that were found. -/
def storeFound (found : List Movie) : Program Unit := do
  say ["\nFound ", Text.ofNat found.length, " screenplays on IMSDb"]
  saveList (.arr (found.map Movie.toJson))
  sumUp found

/-- **A list is made by a search and a store.** -/
lemma buildList_eq :
    buildList = searchChart >>= fun found => found.elim (pure ()) storeFound := by
  unfold buildList searchChart
  simp only [bind_assoc]
  congr 1
  funext _
  congr 1
  funext movies
  congr 1
  funext _
  split
  · simp only [bind_assoc, pure_bind, Option.elim_none]
    exact (bind_pure _).symm
  · simp only [bind_assoc, pure_bind, Option.elim_some]
    rfl

lemma remote_searchChart : Remote searchChart := by
  refine .bind (.say _) fun _ => .bind remote_chart fun movies => .bind (.say _) fun _ => .ite ?_ ?_
  · exact .bind (.say _) fun _ => .pure _
  · exact .bind (.say _) fun _ => .bind (remote_withScripts _ _ _) fun _ => .pure _

omit [Platform] in
lemma remote_sumUp (found : List Movie) : Remote (sumUp found) :=
  .bind (.say _) fun _ => .bind (.say _) fun _ => .bind (.say _) fun _ => .bind (.say _) fun _ =>
    .bind (.say _) fun _ => .bind (.say _) fun _ => .say _

lemma located_of_searchChart {w w' : World} {found : List Movie}
    (h : Ends searchChart w (some found) w') : ∀ m ∈ found, Located m := by
  unfold searchChart at h
  obtain ⟨_, v, -, h⟩ := ends_bind.1 h
  obtain ⟨movies, v, hmovies, h⟩ := ends_bind.1 h
  obtain ⟨_, v, -, h⟩ := ends_bind.1 h
  split at h
  case isTrue =>
    obtain ⟨_, v, -, h⟩ := ends_bind.1 h
    cases (ends_pure.1 h).1
  case isFalse =>
    obtain ⟨_, v, -, h⟩ := ends_bind.1 h
    obtain ⟨films, v, hfilms, h⟩ := ends_bind.1 h
    cases (ends_pure.1 h).1
    exact located_of_withScripts movies.length (charted_of_chart hmovies) hfilms

/-! ## The store -/

/-- A list that has room can be written over one that can be read. -/
lemma exists_saveList {w : World} {t : Text} (h : w.files.read listFile = .ok t) {list : Json}
    (hroom : list.nesting ≤ Platform.writeRoom) : ∃ w', Ends (saveList list) w () w' := by
  obtain ⟨hnull, name, content, hres, -⟩ := Files.read_eq_ok_iff.1 h
  obtain ⟨fs, hwrite⟩ := Files.exists_write hnull hres rfl (Json.write Json.stored list)
  exact ⟨_, ends_storeValue.2 ⟨hroom, fs, hwrite, rfl⟩⟩

lemma storedEntries_of_storeFound {w : World} {found : List Movie} {t : Text}
    (hfound : ∀ m ∈ found, Located m) (hread : w.files.read listFile = .ok t) :
    storedEntries (outcome (storeFound found) w).2.files = .ok (found.map Movie.toJson) := by
  unfold storeFound
  obtain ⟨v, hv, hrun⟩ := exists_outcome_say_bind
    ["\nFound ", Text.ofNat found.length, " screenplays on IMSDb"] _ w
  have hparse := parse_write_located hfound
  obtain ⟨w₁, hsave⟩ := exists_saveList (hv.files ▸ hread)
    ((Json.nesting_le_of_parse hparse).trans Platform.readRoom_le_writeRoom)
  rw [hrun, hsave.outcome_bind, (remote_sumUp found).sameFiles w₁,
    storedEntries_eq (read_of_saveList hsave) hparse]
  rfl

/-! ## Runs of the maker of the list -/

section

variable {w : World} {old : List Json}

/-- A run goes on with the entries of a list that has some. -/
lemma exists_reviewList_of_entries (h : storedEntries w.files = .ok old) (hne : old ≠ []) :
    ∃ v, Printed w v ∧ outcome generateList w = outcome (reviewList old) v := by
  obtain ⟨t, list, hread, hparse, hitems⟩ := exists_read_of_storedEntries h
  exact exists_reviewList hread hparse (isTruthy_of_items hitems hne) hitems

/-- The run makes the list anew: an address is missing, and the search finds these films. -/
def Remakes (w : World) (found : List Movie) : Prop :=
  ∃ old, storedEntries w.files = .ok old ∧ lacksAddress old = .ok true ∧
    (outcome searchChart w).1 = .ok (some found)

/-- A run with an address missing is a search in a world with the same sites, and a store. -/
lemma exists_buildList (h : storedEntries w.files = .ok old)
    (hlacks : lacksAddress old = .ok true) :
    ∃ v, Printed w v ∧ outcome generateList w = outcome buildList v := by
  obtain ⟨v, hv, hrun⟩ := exists_reviewList_of_entries h (ne_nil_of_lacksAddress hlacks)
  obtain ⟨v₁, hv₁, hrun₁⟩ := exists_outcome_say_bind
    ["\nFound existing movie list, but some entries missing IMSDb URLs"] _ v
  obtain ⟨v₂, hv₂, hrun₂⟩ := exists_outcome_say_bind ["Will update missing URLs..."] _ v₁
  refine ⟨v₂, trans_of Printed (trans_of Printed hv hv₁) hv₂, ?_⟩
  rw [hrun, reviewList, lift_bind_eq hlacks, if_pos rfl, hrun₁, hrun₂]

/-- **A list that is remade holds what the search has found**, and nothing else. -/
lemma storedEntries_of_remakes {found : List Movie} (h : Remakes w found) :
    (∀ m ∈ found, Located m) ∧
      storedEntries (outcome generateList w).2.files = .ok (found.map Movie.toJson) := by
  obtain ⟨old, hold, hlacks, hfound⟩ := h
  obtain ⟨t, list, hread, -, -⟩ := exists_read_of_storedEntries hold
  obtain ⟨v, hv, hrun⟩ := exists_buildList hold hlacks
  -- the lines printed so far do not change what is found
  rw [← (remote_searchChart.alike (alike_of_printed hv)).1] at hfound
  obtain ⟨v₁, hsearch, -⟩ := exists_ends_of_toOption (p := searchChart) (w := v)
    (by rw [hfound]; rfl)
  have hlocated := located_of_searchChart hsearch
  refine ⟨hlocated, ?_⟩
  rw [hrun, buildList_eq, hsearch.outcome_bind]
  refine storedEntries_of_storeFound hlocated (t := t) ?_
  rw [remote_searchChart.sameFiles.of_ends hsearch, hv.files]
  exact hread

/-- A search that comes to nothing leaves the files as they are. -/
lemma files_of_buildList (h : ∀ found, (outcome searchChart w).1 ≠ .ok (some found)) :
    (outcome buildList w).2.files = w.files := by
  rw [buildList_eq]
  refine after_bind (Q := fun v => v.files = w.files) (remote_searchChart.sameFiles w)
    fun found v hends => ?_
  cases found with
  | none => exact remote_searchChart.sameFiles.of_ends hends
  | some found => exact absurd (congrArg Prod.fst hends) (h found)

/-- **A list that is not remade stays as it is.** -/
lemma files_eq_of_not_remakes (h : storedEntries w.files = .ok old) (hne : old ≠ [])
    (hnot : ∀ found, ¬Remakes w found) : (outcome generateList w).2.files = w.files := by
  by_cases hlacks : lacksAddress old = .ok true
  · obtain ⟨v, hv, hrun⟩ := exists_buildList h hlacks
    rw [hrun, ← hv.files]
    refine files_of_buildList fun found hfound => hnot found ⟨old, h, hlacks, ?_⟩
    rw [← (remote_searchChart.alike (alike_of_printed hv)).1, hfound]
  · obtain ⟨v, hv, hrun⟩ := exists_reviewList_of_entries h hne
    rw [hrun, ← hv.files, reviewList]
    rcases hcheck : lacksAddress old with f | lacks
    · rfl
    · cases lacks with
      | false => rfl
      | true => exact absurd hcheck hlacks

end

/-- **A film keeps its place on the list exactly if a remade list finds it again.**  Let a film be
on the stored list with its address.  After a run of the maker of the list, whatever the sites
answer, it is still there with an address if and only if the run does not remake the list, or it is
among the films that the search has found. -/
theorem listed_iff_found_again {w : World} {isFilm : Json → Bool}
    (h : listed isFilm w.files = true) :
    listed isFilm (outcome generateList w).2.files = true ↔
      ∀ found, Remakes w found → ∃ m ∈ found, isFilm m.toJson = true := by
  constructor
  · intro hafter found hremakes
    obtain ⟨-, hentries⟩ := storedEntries_of_remakes hremakes
    rw [listed_eq hentries, List.any_map, List.any_eq_true] at hafter
    obtain ⟨m, hm, hfilm⟩ := hafter
    exact ⟨m, hm, (Bool.and_eq_true_iff.1 hfilm).1⟩
  · intro hfound
    by_cases hremakes : ∃ found, Remakes w found
    · obtain ⟨found, hremakes⟩ := hremakes
      obtain ⟨hlocated, hentries⟩ := storedEntries_of_remakes hremakes
      obtain ⟨m, hm, hfilm⟩ := hfound found hremakes
      rw [listed_eq hentries, List.any_map, List.any_eq_true]
      exact ⟨m, hm, Bool.and_eq_true_iff.2 ⟨hfilm, hasAddress_of_located (hlocated m hm)⟩⟩
    · obtain ⟨old, hold, hne⟩ := exists_of_listed h
      rw [files_eq_of_not_remakes hold hne (not_exists.1 hremakes)]
      exact h

end

/-- The film with a number of the chart. -/
def hasId (id : Text) (entry : Json) : Bool :=
  (entry.member? "imdb_id").any fun v => v.isText id

/-- A stored list of two films, the second without an address, beside the sites of a chart that has
the first. -/
def outdatedWorld : World :=
  { chartWorld with
    files := ⟨["screenplays"], [("screenplays/movie_list.json", Text.cat [
      "[\x7b\"title\": \"Rain\", \"imdb_id\": \"tt7\", ",
      "\"imsdb_url\": \"https://imsdb.com/r\"\x7d, ",
      "\x7b\"title\": \"Snow\", \"imdb_id\": \"tt8\", \"imsdb_url\": \"\"\x7d]"])]⟩ }

/-- The first film is found again and stays. -/
theorem listed_iff_found_again_sample :
    listed (hasId "tt7") outdatedWorld.files = true ∧
      listed (hasId "tt7") (outcome generateList outdatedWorld).2.files = true := by
  have hlisted : listed (hasId "tt7") outdatedWorld.files = true := by decide +kernel
  have hsearch : ((outcome searchChart outdatedWorld).1.toOption.map fun found =>
      found.map fun ms => ms.any fun m => hasId "tt7" m.toJson) = some (some true) := by
    decide +kernel
  refine ⟨hlisted, (listed_iff_found_again hlisted).2 ?_⟩
  rintro found ⟨old, -, -, hfound⟩
  rw [hfound] at hsearch
  exact List.any_eq_true.1 (Option.some.inj (Option.some.inj hsearch))

/-- **An address is lost in an update.**  One entry of the list has no address, so the list is made
anew.  The site of scripts does not answer that day, and the film whose address was known is gone
although the chart still has it. -/
theorem address_lost_in_update :
    let w := { outdatedWorld with pages := chartWorld.pages.take 2 }
    listed (hasId "tt7") w.files = true ∧ (outcome generateList w).1.toOption = some () ∧
      listed (hasId "tt7") (outcome generateList w).2.files = false := by
  decide +kernel

end Gleaner.Film
