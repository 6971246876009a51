import Gleaner.Proofs.Film.Completed

/-!
# Rounds of the collector of screenplays

The collector of screenplays first finds out which films are missing and then goes through them in
one round.  Which files it writes and which films it takes for saved is known from the world in
which it starts.

**The program.**  It is taken apart into what it does before it downloads (`survey`) and the round
over the films that are missing; `savedFrom` is this round with the films in place of their number
(`collectFrom_eq`, `collect_eq`).

**One film.**  What is kept of the answer to its request and the folders decide what is written for
a film (`writtenText?`).  It is saved if its file can hold this; if not, the file is made and stays
empty (`collectOne_spec`).

**A round.**  A step asks for its own page only (`heard_collectOne`), so the pages of the world
before the round decide the answers to all films, and with them what is written (`ends_savedFrom`).

**A run.**  Before the round nothing is asked and no file changes (`prepared_survey`).  So the new
screenplays of a run are those of the films that are written (`newScreenplays_collect`).
-/

namespace Gleaner.Film

open Screenplay

/-! ## What is kept of an answer -/

/-- The request for the script of a film. -/
def scriptRequest (m : Movie) : Request :=
  .get m.script Site.timeout

/-- The text of an answer that is taken for a script. -/
def scriptText? : Page → Option Text
  | .reply reply => if 400 ≤ reply.status ∧ reply.status < 600 then none else some reply.text
  | .failure _ _ => none

/-- What a page is converted to, if this is kept as a screenplay. -/
def screenplay? (page : Text) : Option Text :=
  (film.apply page).toOption.filter fun t => 50 < (Text.strip t).length

lemma isSome_screenplay?_iff {page : Text} :
    (screenplay? page).isSome = true ↔
      ∃ t, film.apply page = .ok t ∧ 50 < (Text.strip t).length := by
  rw [screenplay?]
  cases film.apply page with
  | error f => simp [Except.toOption]
  | ok t => simp [Except.toOption, Option.isSome_filter]

/-- Nothing is made of an empty page. -/
lemma screenplay?_nil : screenplay? [] = none := by decide

/-- **The text of a script is that of the answer.** -/
lemma outcome_download (url : Json) (w : World) (t : Text) :
    (outcome (download url) w).1 = .ok (some t) ↔
      scriptText? (w.answer (.get url Site.timeout)) = some t := by
  unfold download
  rw [fetch_eq_ask, outcome_bind, outcome_attempt, outcome_bind, outcome_ask, World.answer]
  rcases (nextPage w (Request.get url Site.timeout).address?).1 with reply | ⟨cause, message⟩
  · dsimp only
    rw [requireSuccess, scriptText?]
    split_ifs with hstatus
    · exact iff_of_false (by rintro ⟨⟩) (by rintro ⟨⟩)
    · constructor
      · rintro ⟨⟩
        rfl
      · rintro ⟨⟩
        rfl
  · dsimp only [scriptText?]
    cases (Fault.transport cause message).isRequest
    · exact iff_of_false (by rintro ⟨⟩) (by rintro ⟨⟩)
    · exact iff_of_false (by rintro ⟨⟩) (by rintro ⟨⟩)

/-! ## New screenplays -/

/-- The screenplays that a run has added: files in the folder of screenplays that were not there. -/
def newScreenplays (w w' : World) : Finset Text :=
  ((w'.files.contents.map Prod.fst).filter fun path =>
    Path.parent path == folder && Text.endsWith (Path.name path) ".fountain" &&
      (w.files.content? path).isNone).toFinset

lemma mem_newScreenplays {w w' : World} {path : Text} :
    path ∈ newScreenplays w w' ↔ (w'.files.content? path).isSome = true ∧
      w.files.content? path = none ∧ Path.parent path = folder ∧
      Text.endsWith (Path.name path) ".fountain" = true := by
  rw [newScreenplays, List.mem_toFinset, List.mem_filter, Files.isSome_content?_iff]
  simp only [Bool.and_eq_true, beq_iff_eq, Option.isNone_iff_eq_none]
  tauto

lemma newScreenplays_of_contents_eq {w w' : World} (h : w'.files.contents = w.files.contents) :
    newScreenplays w w' = ∅ := by
  ext path
  rw [mem_newScreenplays, Files.content?, h, Files.content?]
  cases w.files.contents.lookup path <;> simp

/-- The path of a screenplay has the form of a new one. -/
lemma screenplayPath_parts (m : Movie) : Path.parent (screenplayPath m) = folder ∧
    Text.endsWith (Path.name (screenplayPath m)) ".fountain" = true := by
  constructor
  · exact Path.parent_join isName_folder (noStroke_fileName m)
  · rw [screenplayPath, Path.name_join isName_folder (noStroke_fileName m)]
    exact List.isSuffixOf_iff_suffix.2 (List.suffix_append _ _)

/-! ## Before and after a round -/

/-- Nothing was asked, and no file has changed; there may be more folders. -/
structure Prepared (w w' : World) : Prop where
  unasked : Unasked w w'
  contents : w'.files.contents = w.files.contents

instance : IsPreorder World Prepared where
  refl w := ⟨refl_of Unasked w, rfl⟩
  trans _ _ _ h h' := ⟨trans_of Unasked h.unasked h'.unasked, h'.contents.trans h.contents⟩

lemma prepared_of_quiet (w w' : World) (h : Quiet w w') : Prepared w w' :=
  ⟨unasked_of_quiet w w' h, by rw [h.files]⟩

lemma prepared_ensureFolder (path : Text) : Keeps Prepared (ensureFolder path) := by
  refine fun w => ⟨unasked_ensureFolder path w, ?_⟩
  rw [outcome_ensureFolder]
  cases hmake : w.files.makeFolder path with
  | error f => rfl
  | ok fs => exact (Files.isFolder_of_makeFolder hmake).2

/-- The lines that a run prints last after a round. -/
def roundReport (converted failed : Nat) : List (List Text) :=
  ["  Successfully converted: ", Text.ofNat converted] :: collectSummary failed

/-- Sums up a round. -/
def sumUpRound (total wanted converted : Nat) : Program Unit := do
  say ["\n", ruler]
  say ["Summary"]
  say ["  Total movies with screenplays: ", Text.ofNat total]
  (roundReport converted (wanted - converted)).forM say

lemma quiet_sumUpRound (total wanted converted : Nat) :
    Keeps Quiet (sumUpRound total wanted converted) := by
  refine keeps_bind (quiet_say _) fun _ => keeps_bind (quiet_say _) fun _ =>
    keeps_bind (quiet_say _) fun _ => ?_
  exact keeps_bind (quiet_say _) fun _ => keeps_bind (quiet_say _) fun _ =>
    keeps_bind (quiet_say _) fun _ => keeps_bind (quiet_say _) fun _ => keeps_pure _

/-- A line changes nothing that counts; `w` is the world before the first of several lines. -/
lemma exists_quiet_of_say_bind {α : Type} {w v v' : World} {parts : List Text}
    {f : Unit → Program α} {a : α} (hquiet : Quiet w v) (h : Ends (say parts >>= f) v a v') :
    ∃ v₁, Quiet w v₁ ∧ Ends (f ()) v₁ a v' := by
  obtain ⟨_, v₁, hsay, h⟩ := ends_bind.1 h
  exact ⟨v₁, trans_of Quiet hquiet ((quiet_say parts).of_ends hsay), h⟩

variable [Platform]

/-! ## The program taken apart -/

/-- What a run does before it downloads; gives how many films of the list have an address, and those
of them whose screenplay is missing. -/
def survey : Program (Nat × List Movie) := do
  say [ruler]
  say ["IMDb Top 250 - Screenplay Scraper"]
  say [ruler]
  ensureFolder folder
  say ["\nLoading movie list from ", listFile, "..."]
  let list ← loadList
  let total ← Program.lift list.size
  say ["Loaded ", Text.ofNat total, " movies"]
  let entries ← Program.lift list.items
  let all ← Program.lift (entries.mapM Movie.ofJson)
  let movies := all.filter fun m => m.script.isTruthy
  say ["Movies with screenplay URLs: ", Text.ofNat movies.length]
  let wanted ← missing movies
  say ["Already downloaded: ", Text.ofNat (movies.length - wanted.length)]
  say ["Need to download: ", Text.ofNat wanted.length]
  return (movies.length, wanted)

/-- The turn of one film; gives whether its screenplay was saved. -/
def tryOne (total i : Nat) (m : Movie) : Program Bool := do
  print ["  "]
  announce i total m
  let success ←
    match ← Program.attempt (collectOne m) with
    | .ok success => pure success
    | .error f => do
        say ["✗ Error: ", f.message]
        pure false
  pause delay
  return success

/-- Downloads the screenplays of a list, from the `i`-th on; gives the films that were saved. -/
def savedFrom (total : Nat) : Nat → List Movie → Program (List Movie)
  | _, [] => pure []
  | i, m :: rest => do
      let success ← tryOne total i m
      let more ← savedFrom total (i + 1) rest
      return if success then m :: more else more

/-- A whole round over the films that are missing. -/
def round (wanted : List Movie) : Program (List Movie) := do
  say ["\nDownloading ", Text.ofNat wanted.length, " screenplays..."]
  savedFrom wanted.length 0 wanted

/-- **The loop counts the films that were saved.** -/
lemma collectFrom_eq (total : Nat) (ms : List Movie) : ∀ i,
    collectFrom total i ms = savedFrom total i ms >>= fun saved => pure saved.length := by
  induction ms with
  | nil => exact fun i => rfl
  | cons m rest ih =>
      intro i
      have hlength : ∀ (success : Bool) (more : List Movie),
          (if success = true then m :: more else more).length =
            more.length + (if success = true then 1 else 0) := by
        intro success more
        cases success <;> rfl
      unfold collectFrom savedFrom tryOne
      simp only [bind_assoc, pure_bind, ih, hlength]
      refine bind_congr fun _ => bind_congr fun _ => bind_congr fun result => ?_
      cases result <;> simp only [bind_assoc, pure_bind]

/-- **A run is a survey and, if something is missing, a round.** -/
lemma collect_eq :
    collect = survey >>= fun found =>
      if found.2.isEmpty then nothingLeft.forM say
      else round found.2 >>= fun saved => sumUpRound found.1 found.2.length saved.length := by
  unfold collect survey round
  simp only [bind_assoc, pure_bind, collectFrom_eq]
  rfl

/-! ## What is written -/

/-- What is written for a film: what is kept of the answer, if its file can be made. -/
def writtenText? (fs : Files) (m : Movie) (answer : Page) : Option Text :=
  if (Platform.refusal (screenplayPath m)).isNone && fs.isWritable (screenplayPath m) then
    (scriptText? answer).bind screenplay?
  else none

/-- Whether a film is saved: its file can hold what is written for it. -/
def isSaved (fs : Files) (m : Movie) (answer : Page) : Bool :=
  (writtenText? fs m answer).any fun t => (Platform.refusal t).isNone

/-- The films of a list for which something is written, by the answers to their requests. -/
def writtenBy (fs : Files) (ms : List Movie) (answers : List (Request × Page)) :
    List (Movie × Text) :=
  (ms.zip answers).filterMap fun (m, _, answer) => (writtenText? fs m answer).map (m, ·)

/-- The films whose files hold what was written for them. -/
def savedOf (written : List (Movie × Text)) : List Movie :=
  (written.filter fun (_, t) => (Platform.refusal t).isNone).map Prod.fst

/-- The films whose files were made but cannot hold what was written for them. -/
def emptiedOf (written : List (Movie × Text)) : List Movie :=
  (written.filter fun (_, t) => (Platform.refusal t).isSome).map Prod.fst

/-- Every film for which something is written is saved or has an empty file. -/
lemma length_savedOf_add_emptiedOf (written : List (Movie × Text)) :
    (savedOf written).length + (emptiedOf written).length = written.length := by
  have hsplit := List.length_eq_length_filter_add (l := written)
    fun p => (Platform.refusal p.2).isNone
  simp only [Option.not_isNone] at hsplit
  rw [savedOf, emptiedOf, List.length_map, List.length_map]
  exact hsplit.symm

/-- Where every text can be held, all films are saved. -/
lemma savedOf_of_held {written : List (Movie × Text)}
    (h : ∀ p ∈ written, Platform.refusal p.2 = none) : savedOf written = written.map Prod.fst := by
  rw [savedOf, List.filter_eq_self.2 fun p hp => Option.isNone_iff_eq_none.2 (h p hp)]

/-- What files hold does not matter. -/
lemma writtenBy_congr {fs fs' : Files} (h : fs'.folders = fs.folders) (ms : List Movie)
    (answers : List (Request × Page)) : writtenBy fs' ms answers = writtenBy fs ms answers := by
  simp only [writtenBy, writtenText?, Files.isWritable_congr h]

lemma writtenBy_cons (fs : Files) (m : Movie) (ms : List Movie) (r : Request) (answer : Page)
    (answers : List (Request × Page)) :
    writtenBy fs (m :: ms) ((r, answer) :: answers) =
      ((writtenText? fs m answer).map (m, ·)).toList ++ writtenBy fs ms answers := by
  rw [writtenBy, List.zip_cons_cons, List.filterMap_cons]
  dsimp only
  cases writtenText? fs m answer <;> rfl

/-- A film for which something is written is one of the list, and its path can lead to a file. -/
lemma of_mem_writtenBy {fs : Files} {ms : List Movie} {answers : List (Request × Page)}
    {p : Movie × Text} (h : p ∈ writtenBy fs ms answers) :
    p.1 ∈ ms ∧ List.contains (screenplayPath p.1) '\x00' = false := by
  obtain ⟨⟨m, r, answer⟩, hmem, hp⟩ := List.mem_filterMap.1 h
  obtain ⟨t, ht, rfl⟩ := Option.map_eq_some_iff.1 hp
  refine ⟨(List.of_mem_zip hmem).1, ?_⟩
  obtain ⟨hmade, -⟩ := Option.ite_none_right_eq_some.1 ht
  exact (Files.isOk_write_iff.1 (Bool.and_eq_true_iff.1 hmade).2).1

/-! ## One film -/

/-- The files after a turn in which a text was written for a film, or none. -/
def Writes (fs : Files) (m : Movie) (text : Option Text) (fs' : Files) : Prop :=
  match text with
  | some t => fs.write (screenplayPath m) (Platform.held t) = .ok fs'
  | none => fs' = fs

lemma Writes.folders {fs fs' : Files} {m : Movie} {text : Option Text}
    (h : Writes fs m text fs') : fs'.folders = fs.folders := by
  cases text with
  | none => exact congrArg Files.folders h
  | some t => exact (Files.Grows.of_write h).folders

/-- A turn makes a file under the name of its film if something is written. -/
lemma Writes.isSome_content? {fs fs' : Files} {m : Movie} {text : Option Text}
    (h : Writes fs m text fs') (path : Text) :
    (fs'.content? path).isSome = true ↔
      (fs.content? path).isSome = true ∨ text.isSome = true ∧ path = screenplayPath m := by
  cases text with
  | none =>
      have hfs : fs' = fs := h
      simp [hfs]
  | some t =>
      rw [Files.content?_of_write_join isName_folder byteLength_folder_le (isName_fileName m) h,
        screenplayPath]
      split_ifs with hpath
      · simp [hpath]
      · simp [hpath]

/-- Stores what is kept of an answer. -/
def storeScreenplay (m : Movie) (t : Text) : Program Bool := do
  writeFile (screenplayPath m) t
  say ["✓ Saved to ", m.fileName]
  return true

/-- A screenplay is written if its file can be made, and saved if this file can hold it. -/
lemma storeScreenplay_spec (m : Movie) (t : Text) (w : World) :
    let written := if (Platform.refusal (screenplayPath m)).isNone &&
      w.files.isWritable (screenplayPath m) then some t else none
    ((outcome (storeScreenplay m t) w).1 = .ok true ↔
      written.any (fun t => (Platform.refusal t).isNone) = true) ∧
    Writes w.files m written (outcome (storeScreenplay m t) w).2.files := by
  unfold storeScreenplay
  rw [outcome_bind, outcome_writeFile, ← Files.isOk_write _ _ (Platform.held t), Platform.judged,
    Platform.judged]
  cases Platform.refusal (screenplayPath m) with
  | some notice => exact ⟨iff_of_false (by rintro ⟨⟩) (by rintro ⟨⟩), rfl⟩
  | none =>
      cases hwrite : w.files.write (screenplayPath m) (Platform.held t) with
      | error f => exact ⟨iff_of_false (by rintro ⟨⟩) (by rintro ⟨⟩), rfl⟩
      | ok fs =>
          cases hrefusal : Platform.refusal t with
          | none =>
              refine ⟨iff_of_true rfl ?_, hwrite⟩
              simp [hrefusal, Except.isOk, Except.toBool]
          | some notice =>
              refine ⟨iff_of_false (by rintro ⟨⟩) ?_, hwrite⟩
              simp [hrefusal, Except.isOk, Except.toBool]

/-- **One film.**  It is saved exactly if something is kept of the answer that its file can hold;
whatever is kept is written. -/
lemma collectOne_spec (m : Movie) (w : World) :
    ((outcome (collectOne m) w).1 = .ok true ↔
      isSaved w.files m (w.answer (scriptRequest m)) = true) ∧
    Writes w.files m (writtenText? w.files m (w.answer (scriptRequest m)))
      (outcome (collectOne m) w).2.files := by
  have htext := outcome_download m.script w
  have hsame : (outcome (download m.script) w).2.files = w.files :=
    (remote_download m.script).sameFiles w
  unfold collectOne isSaved writtenText?
  rw [outcome_bind]
  rw [← scriptRequest] at htext
  generalize scriptText? (w.answer (scriptRequest m)) = answer at htext ⊢
  generalize outcome (download m.script) w = downloaded at htext hsame ⊢
  have hnone : (∀ t, downloaded.1 ≠ .ok (some t)) → answer = none := by
    intro h
    cases answer with
    | none => rfl
    | some t => exact absurd ((htext t).2 rfl) (h t)
  rcases downloaded with ⟨stop | got, v⟩
  · rw [hnone (by simp), Option.bind_none, ite_self]
    exact ⟨iff_of_false (by rintro ⟨⟩) (by rintro ⟨⟩), hsame⟩
  · rcases got with _ | _ | ⟨c, page⟩
    · rw [hnone (by simp), Option.bind_none, ite_self]
      exact ⟨iff_of_false (by rintro ⟨⟩) (by rintro ⟨⟩), hsame⟩
    · rw [(htext []).1 rfl, Option.bind_some, screenplay?_nil, ite_self]
      exact ⟨iff_of_false (by rintro ⟨⟩) (by rintro ⟨⟩), hsame⟩
    · rw [(htext (c :: page)).1 rfl, Option.bind_some, screenplay?]
      dsimp only at hsame ⊢
      cases film.apply (c :: page) with
      | error f =>
          rw [Except.toOption, Option.filter_none, ite_self]
          exact ⟨iff_of_false (by rintro ⟨⟩) (by rintro ⟨⟩), hsame⟩
      | ok fountain =>
          rw [lift_bind_eq rfl, Except.toOption]
          by_cases hlong : 50 < (Text.strip fountain).length
          · have hkept : (some fountain).filter (fun t => 50 < (Text.strip t).length) =
                some fountain := by simpa using hlong
            rw [if_pos hlong, hkept, ← hsame]
            exact storeScreenplay_spec m fountain v
          · rw [if_neg hlong, Option.filter_eq_none_iff.2 (by simpa using hlong), ite_self]
            exact ⟨iff_of_false (by rintro ⟨⟩) (by rintro ⟨⟩), hsame⟩

/-- **A step asks for the script of its film, once.** -/
lemma heard_collectOne (m : Movie) (w : World) :
    Heard w [scriptRequest m] (outcome (collectOne m) w).2 := by
  have hsay : ∀ (parts : List Text) (done : Bool), Keeps Unasked (do say parts; return done) :=
    fun parts done => keeps_bind (unasked_say parts) fun _ => keeps_pure _
  have hstep : ∀ v v', Unasked v v' → Heard w [scriptRequest m] v → Heard w [scriptRequest m] v' :=
    fun _ _ h hv => hv.unasked h
  have hfetch : Heard w [scriptRequest m] (outcome (fetch m.script Site.timeout) w).2 := by
    rw [fetch_eq_ask]
    exact ((Heard.refl w).ask (scriptRequest m)).1
  have htext : Heard w [scriptRequest m] (outcome (Program.attempt do
      let reply ← fetch m.script Site.timeout
      requireSuccess m.script.display reply
      pure reply.text) w).2 := by
    rw [snd_outcome_attempt]
    exact after_then hstep hfetch fun reply =>
      keeps_bind (keeps_ite (keeps_fail _) (keeps_pure _)) fun _ => keeps_pure _
  have hdownload : Heard w [scriptRequest m] (outcome (download m.script) w).2 := by
    refine after_then hstep htext fun got => ?_
    cases got with
    | ok t => exact keeps_pure _
    | error f =>
        exact keeps_ite (keeps_bind (unasked_say _) fun _ => keeps_pure _) (keeps_fail f)
  refine after_then hstep hdownload fun got => ?_
  rcases got with _ | _ | ⟨c, page⟩
  · exact hsay _ _
  · exact hsay _ _
  · exact keeps_bind (keeps_lift _) fun fountain => keeps_ite
      (keeps_bind (unasked_writeFile _ _) fun _ => hsay _ _) (hsay _ _)

lemma orderly_collectOne (m : Movie) : Orderly (collectOne m) := by
  have hsay : ∀ (parts : List Text) (done : Bool), Orderly (do say parts; return done) :=
    fun parts done => (returns_bind (returns_say parts) fun _ => returns_pure _).orderly
  have hdownload : Orderly (download m.script) := by
    refine orderly_bind (returns_attempt ?_).orderly fun got => ?_
    · exact orderly_bind (orderly_fetch _ _) fun reply =>
        orderly_bind (orderly_ite (orderly_fail _) (returns_pure _).orderly) fun _ =>
          (returns_pure _).orderly
    · cases got with
      | ok t => exact (returns_pure _).orderly
      | error f =>
          exact orderly_ite (returns_bind (returns_say _) fun _ => returns_pure _).orderly
            (orderly_fail f)
  refine orderly_bind hdownload fun got => ?_
  rcases got with _ | _ | ⟨c, page⟩
  · exact hsay _ _
  · exact hsay _ _
  · exact orderly_bind (orderly_lift _) fun fountain => orderly_ite
      (orderly_bind (orderly_writeFile _ _) fun _ => hsay _ _) (hsay _ _)

lemma returns_tryOne (total i : Nat) (m : Movie) : Returns (tryOne total i m) := by
  have hend : ∀ success : Bool, Returns (do pause delay; return success) := fun success =>
    returns_bind (returns_pause delay) fun _ => returns_pure _
  refine returns_bind (returns_print _) fun _ => returns_bind (returns_print _) fun _ =>
    returns_bind (returns_attempt (orderly_collectOne m)) fun result => ?_
  cases result with
  | ok success => exact returns_bind (returns_pure success) hend
  | error f =>
      exact returns_bind (returns_say _) fun _ => returns_bind (returns_pure false) hend

/-! ## A round -/

/-- The turn of a film is its download between lines that are printed; it is a success if the
screenplay was saved. -/
lemma exists_of_ends_tryOne {total i : Nat} {m : Movie} {w w' : World} {success : Bool}
    (h : Ends (tryOne total i m) w success w') :
    ∃ v, Quiet w v ∧ (success = true ↔ (outcome (collectOne m) v).1 = .ok true) ∧
      Quiet (outcome (collectOne m) v).2 w' := by
  obtain ⟨_, v, hprint, h⟩ := ends_bind.1 h
  obtain ⟨_, v₁, hannounce, h⟩ := ends_bind.1 h
  have hv₁ : Quiet w v₁ :=
    trans_of Quiet ((quiet_print _).of_ends hprint) ((quiet_print _).of_ends hannounce)
  obtain ⟨result, v₂, hresult, h⟩ := ends_bind.1 h
  -- what follows the download is quiet
  have hnext : ∀ {success' : Bool} {v : World},
      Ends (do pause delay; return success') v success w' → success = success' ∧ Quiet v w' := by
    intro success' v h
    obtain ⟨_, v', hpause, h⟩ := ends_bind.1 h
    obtain ⟨rfl, rfl⟩ := ends_pure.1 h
    exact ⟨rfl, (quiet_pause delay).of_ends hpause⟩
  refine ⟨v₁, hv₁, ?_⟩
  rcases ends_attempt.1 hresult with ⟨success', rfl, hone⟩ | ⟨f, rfl, hone⟩
  · obtain ⟨rfl, hquiet⟩ := hnext h
    rw [hone]
    exact ⟨by simp, hquiet⟩
  · obtain ⟨_, v, hsay, h⟩ := ends_bind.1 h
    obtain ⟨rfl, hquiet⟩ := hnext h
    rw [hone]
    exact ⟨by simp, trans_of Quiet ((quiet_say _).of_ends hsay) hquiet⟩

/-- The turn of a film ends, with one request; the answer decides whether it is saved, and what is
written. -/
lemma ends_tryOne (total i : Nat) (m : Movie) (w : World) :
    ∃ w', Ends (tryOne total i m) w (isSaved w.files m (w.answer (scriptRequest m))) w' ∧
      Heard w [scriptRequest m] w' ∧
      Writes w.files m (writtenText? w.files m (w.answer (scriptRequest m))) w'.files := by
  obtain ⟨success, w', hends⟩ := returns_tryOne total i m w
  obtain ⟨v, hbefore, hsuccess, hafter⟩ := exists_of_ends_tryOne hends
  obtain ⟨hsaved, hwrites⟩ := collectOne_spec m v
  have hanswer : v.answer (scriptRequest m) = w.answer (scriptRequest m) :=
    congrArg Prod.fst (nextPage_congr hbefore.pages hbefore.fallback _)
  rw [hanswer, hbefore.files] at hsaved hwrites
  rw [hsaved, ← Bool.eq_iff_iff] at hsuccess
  refine ⟨w', hsuccess ▸ hends, ?_, hafter.files ▸ hwrites⟩
  have hheard := (unasked_of_quiet w v hbefore).trans (heard_collectOne m v)
  exact hheard.quiet hafter

/-- **A round asks for one page after the other, and the answers decide what is written.**  After it
there is a file where there was one, and under the names of the films that were written.  By
induction on the list; the answers to the later films are those after the first request. -/
lemma ends_savedFrom (total : Nat) (ms : List Movie) : ∀ i w, ∃ w',
    Ends (savedFrom total i ms) w
      (savedOf (writtenBy w.files ms (w.exchanges (ms.map scriptRequest)))) w' ∧
    Heard w (ms.map scriptRequest) w' ∧
    ∀ path, (w'.files.content? path).isSome = true ↔ (w.files.content? path).isSome = true ∨
      ∃ p ∈ writtenBy w.files ms (w.exchanges (ms.map scriptRequest)),
        path = screenplayPath p.1 := by
  induction ms with
  | nil => exact fun i w => ⟨w, rfl, Heard.refl w, by simp [writtenBy]⟩
  | cons m rest ih =>
      intro i w
      obtain ⟨v, hone, hheard, hwrites⟩ := ends_tryOne total i m w
      obtain ⟨w', hrest, hheard', hthere⟩ := ih (i + 1) v
      rw [writtenBy_congr hwrites.folders, hheard.exchanges_eq] at hrest hthere
      rw [List.map_cons, World.exchanges, writtenBy_cons]
      refine ⟨w', ?_, hheard.trans hheard', fun path => ?_⟩
      · refine ends_bind.2 ⟨_, v, hone, ends_bind.2 ⟨_, w', hrest, ends_pure.2 ⟨?_, rfl⟩⟩⟩
        rw [isSaved]
        cases writtenText? w.files m (w.answer (scriptRequest m)) with
        | none => rfl
        | some t => cases h : Platform.refusal t <;> simp [savedOf, h]
      · rw [hthere, hwrites.isSome_content?]
        cases writtenText? w.files m (w.answer (scriptRequest m)) <;> simp [or_assoc]

/-! ## A whole run -/

/-- The films that a run finds missing, in the order of the list. -/
def wantedFilms (w : World) : List Movie :=
  ((outcome survey w).1.toOption.map Prod.snd).getD []

/-- The films for which a run writes something, each with what is written. -/
def writtenFilms (w : World) : List (Movie × Text) :=
  writtenBy (outcome survey w).2.files (wantedFilms w)
    (w.exchanges ((wantedFilms w).map scriptRequest))

/-- Before a run downloads it only prepares for it, be it that it finds a list or stops. -/
lemma prepared_survey : Keeps Prepared survey := by
  have hsay : ∀ parts, Keeps Prepared (say parts) := fun parts =>
    (quiet_say parts).mono prepared_of_quiet
  refine keeps_bind (hsay _) fun _ => keeps_bind (hsay _) fun _ => keeps_bind (hsay _) fun _ =>
    keeps_bind (prepared_ensureFolder _) fun _ => keeps_bind (hsay _) fun _ =>
    keeps_bind (quiet_loadList.mono prepared_of_quiet) fun list =>
    keeps_bind (keeps_lift _) fun total => keeps_bind (hsay _) fun _ =>
    keeps_bind (keeps_lift _) fun entries => keeps_bind (keeps_lift _) fun all =>
    keeps_bind (hsay _) fun _ => keeps_bind ((quiet_missing _).mono prepared_of_quiet) fun wanted =>
    keeps_bind (hsay _) fun _ => keeps_bind (hsay _) fun _ => keeps_pure _

/-- Before a run downloads, no file has changed, and what it finds missing is wanted. -/
lemma wanted_of_survey {w w' : World} {total : Nat} {wanted : List Movie}
    (h : Ends survey w (total, wanted) w') :
    w'.files.contents = w.files.contents ∧ ∀ m ∈ wanted, Wanted w m := by
  obtain ⟨v, hv, h⟩ := exists_quiet_of_say_bind (refl_of Quiet w) h
  obtain ⟨v, hv, h⟩ := exists_quiet_of_say_bind hv h
  obtain ⟨v, hv, h⟩ := exists_quiet_of_say_bind hv h
  obtain ⟨_, v₀, hfolder, h⟩ := ends_bind.1 h
  have hready := (ready_of_ensureFolder hv).2 _ _ hfolder
  obtain ⟨v, hv, h⟩ := exists_quiet_of_say_bind (refl_of Quiet v₀) h
  obtain ⟨list, v₁, hload, h⟩ := ends_bind.1 h
  -- the folder may be new, but the list was there before
  have hlist := exists_of_ends_loadList hload
  simp only [(hready.quiet hv).content?] at hlist
  have hv := trans_of Quiet hv (quiet_loadList.of_ends hload)
  obtain ⟨_, -, h⟩ := exists_of_lift_bind h
  obtain ⟨v, hv, h⟩ := exists_quiet_of_say_bind hv h
  obtain ⟨entries, hentries, h⟩ := exists_of_lift_bind h
  obtain ⟨all, hall, h⟩ := exists_of_lift_bind h
  obtain ⟨v, hv, h⟩ := exists_quiet_of_say_bind hv h
  obtain ⟨missed, v₂, hmissing, h⟩ := ends_bind.1 h
  have hwanted := wanted_of_missing (hready.quiet hv) hlist hentries hall hmissing
  have hv := trans_of Quiet hv ((quiet_missing _).of_ends hmissing)
  obtain ⟨v, hv, h⟩ := exists_quiet_of_say_bind hv h
  obtain ⟨v, hv, h⟩ := exists_quiet_of_say_bind hv h
  obtain ⟨heq, rfl⟩ := ends_pure.1 h
  cases heq
  exact ⟨(hready.quiet hv).contents, hwanted⟩

section

variable {w v : World} {total : Nat} {wanted : List Movie}

lemma wantedFilms_eq (h : Ends survey w (total, wanted) v) : wantedFilms w = wanted := by
  rw [wantedFilms, h]
  rfl

lemma writtenFilms_eq (h : Ends survey w (total, wanted) v) :
    writtenFilms w = writtenBy v.files wanted (w.exchanges (wanted.map scriptRequest)) := by
  rw [writtenFilms, wantedFilms_eq h, h]

/-- The films for which something is written were wanted. -/
lemma wanted_of_mem_writtenFilms (h : Ends survey w (total, wanted) v) {p : Movie × Text}
    (hp : p ∈ writtenFilms w) : Wanted w p.1 := by
  rw [writtenFilms_eq h] at hp
  exact (wanted_of_survey h).2 p.1 (of_mem_writtenBy hp).1

/-- **What is new after a round are the files of the films that were written.**  All of these paths
were free. -/
lemma newScreenplays_of_isSome {w' : World} (h : Ends survey w (total, wanted) v)
    (hthere : ∀ path, (w'.files.content? path).isSome = true ↔
      (v.files.content? path).isSome = true ∨ ∃ p ∈ writtenFilms w, path = screenplayPath p.1) :
    newScreenplays w w' = ((writtenFilms w).map fun p => screenplayPath p.1).toFinset := by
  have hbefore : ∀ path, v.files.content? path = w.files.content? path := by
    intro path
    rw [Files.content?, (wanted_of_survey h).1, Files.content?]
  ext path
  rw [mem_newScreenplays, hthere, hbefore, List.mem_toFinset, List.mem_map]
  constructor
  · rintro ⟨hold | ⟨p, hp, hpath⟩, hfree, -⟩
    · rw [hfree] at hold
      cases hold
    · exact ⟨p, hp, hpath.symm⟩
  · rintro ⟨p, hp, rfl⟩
    have hnull : List.contains (screenplayPath p.1) '\x00' = false := by
      rw [writtenFilms_eq h] at hp
      exact (of_mem_writtenBy hp).2
    exact ⟨.inr ⟨p, hp, rfl⟩, (wanted_of_mem_writtenFilms h hp).free hnull,
      screenplayPath_parts p.1⟩

/-- A round after a survey. -/
lemma ends_round (h : Ends survey w (total, wanted) v) : ∃ w',
    Ends (round wanted) v (savedOf (writtenFilms w)) w' ∧
    Heard w (wanted.map scriptRequest) w' ∧
    newScreenplays w w' = ((writtenFilms w).map fun p => screenplayPath p.1).toFinset := by
  obtain ⟨_, v₁, hsay⟩ :=
    returns_say ["\nDownloading ", Text.ofNat wanted.length, " screenplays..."] v
  have hquiet := (quiet_say _).of_ends hsay
  have hbefore : Unasked w v₁ :=
    trans_of Unasked (prepared_survey.of_ends h).unasked (unasked_of_quiet v v₁ hquiet)
  obtain ⟨w', hsaved, hheard, hthere⟩ := ends_savedFrom wanted.length wanted 0 v₁
  have hanswers : v₁.exchanges (wanted.map scriptRequest) =
      w.exchanges (wanted.map scriptRequest) := hbefore.exchanges_eq _
  rw [hquiet.files, hanswers, ← writtenFilms_eq h] at hsaved hthere
  exact ⟨w', ends_bind.2 ⟨_, v₁, hsay, hsaved⟩, hbefore.trans hheard,
    newScreenplays_of_isSome h hthere⟩

end

/-- **A run asks for the scripts of the films that are missing, and what is new are the files of the
films that are written.** -/
lemma newScreenplays_collect (w : World) :
    Heard w ((wantedFilms w).map scriptRequest) (outcome collect w).2 ∧
      newScreenplays w (outcome collect w).2 =
        ((writtenFilms w).map fun p => screenplayPath p.1).toFinset := by
  have hprepared := prepared_survey w
  rw [collect_eq]
  cases hsurvey : outcome survey w with
  | mk result v =>
      rw [hsurvey] at hprepared
      cases result with
      | error stop =>
          have hnone : wantedFilms w = [] := by rw [wantedFilms, hsurvey]; rfl
          rw [outcome_bind, hsurvey, writtenFilms, hnone]
          exact ⟨hprepared.unasked, newScreenplays_of_contents_eq hprepared.contents⟩
      | ok found =>
          obtain ⟨total, wanted⟩ := found
          have hends : Ends survey w (total, wanted) v := hsurvey
          rw [hends.outcome_bind, wantedFilms_eq hends]
          dsimp only
          split
          case isTrue hempty =>
            obtain rfl : wanted = [] := List.isEmpty_iff.1 hempty
            have hquiet : Quiet v (outcome (nothingLeft.forM say) v).2 :=
              keeps_bind (quiet_say _) (fun _ => keeps_pure _) v
            have hdone := trans_of Prepared hprepared (prepared_of_quiet _ _ hquiet)
            rw [writtenFilms_eq hends]
            exact ⟨hdone.unasked, newScreenplays_of_contents_eq hdone.contents⟩
          case isFalse =>
            obtain ⟨v₁, hround, hheard, hnew⟩ := ends_round hends
            rw [hround.outcome_bind]
            have hquiet := quiet_sumUpRound total wanted.length (savedOf (writtenFilms w)).length v₁
            refine ⟨hheard.quiet hquiet, ?_⟩
            rw [newScreenplays, hquiet.files, ← newScreenplays, hnew]

end Gleaner.Film
