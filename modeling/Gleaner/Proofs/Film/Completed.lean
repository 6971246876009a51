import Gleaner.Proofs.Film.Inquiries
import Gleaner.Proofs.Film.ListMade

/-!
# Programs about films that have nothing left to do

The maker of the list and the collector of screenplays look at the files before they ask for a page.
Once one of them has done all its work, another run of it only prints (`runs_idle_once_complete`).

**The list.**  A list that is complete is not made again (`prints_generateList_of_complete`).

**The screenplays.**  A step that succeeds has written a file (`present_of_collectOne`), and no step
removes one or writes over the list (`onward_collectFrom`).  So after as many successes as there
were films to collect, none of them is missing (`allCollected_of_collect`).
-/

namespace Gleaner.Film

section

variable {w w' : World}

/-! ## Runs that find all done -/

/-- A list that can be read lies in the folder. -/
lemma isFolder_of_read {fs : Files} {t : Text} (h : fs.read listFile = .ok t) :
    fs.isFolder folder = true := by
  obtain ⟨-, name, content, hres, -⟩ := Files.read_eq_ok_iff.1 h
  have hname : Path.IsName "movie_list.json" := by decide
  exact Files.isFolder_of_resolve_join isName_folder hname hres

lemma ends_ensureFolder_of_read {fs : Files} {t : Text} (hw : w.files = fs)
    (h : fs.read listFile = .ok t) : Ends (ensureFolder folder) w () w := by
  unfold Ends
  rw [outcome_ensureFolder, hw, Files.makeFolder, if_pos (isFolder_of_read h)]
  dsimp only
  rw [← hw]

/-- What is done about a list that is stored. -/
def reviewList [Platform] (entries : List Json) : Program Unit := do
  if ← Program.lift (lacksAddress entries) then
    say ["\nFound existing movie list, but some entries missing IMSDb URLs"]
    say ["Will update missing URLs..."]
    buildList
  else
    say ["\nMovie list already exists: ", listFile]
    say ["Found ", Text.ofNat entries.length, " movies with screenplays"]

/-- A run prints three lines and goes on with the entries of the stored list. -/
lemma exists_reviewList [Platform] {t : Text} {list : Json} {entries : List Json}
    (hread : w.files.read listFile = .ok t) (hparse : Json.parse t = .ok list)
    (htruthy : list.isTruthy = true) (hitems : list.items = .ok entries) :
    ∃ v, Printed w v ∧ outcome generateList w = outcome (reviewList entries) v := by
  unfold generateList
  obtain ⟨v₁, hv₁, hrun₁⟩ := exists_outcome_say_bind [ruler] _ w
  obtain ⟨v₂, hv₂, hrun₂⟩ := exists_outcome_say_bind ["IMDb Top 250 - Movie List Generator"] _ v₁
  obtain ⟨v₃, hv₃, hrun₃⟩ := exists_outcome_say_bind [ruler] _ v₂
  have hv : Printed w v₃ := trans_of Printed (trans_of Printed hv₁ hv₂) hv₃
  have hlist : Ends storedList? v₃ (some list) v₃ := ends_storedList? (hv.files ▸ hread) hparse
  refine ⟨v₃, hv, ?_⟩
  rw [hrun₁, hrun₂, hrun₃, (ends_ensureFolder_of_read hv.files hread).outcome_bind,
    hlist.outcome_bind]
  dsimp only [Option.getD_some]
  rw [if_pos htruthy, lift_bind_eq hitems]
  rfl

lemma prints_generateList_of_complete [Platform] {fs : Files} (hw : w.files = fs)
    (h : ListComplete fs) :
    Prints generateList w () := by
  subst hw
  obtain ⟨t, list, entries, hread, hparse, htruthy, hitems, hcomplete⟩ := h
  obtain ⟨v, hv, hrun⟩ := exists_reviewList hread hparse htruthy hitems
  have hreview : Prints (reviewList entries) v () := by
    refine prints_bind (ends_lift.2 ⟨hcomplete, rfl⟩) ?_
    rw [if_neg (by decide)]
    exact prints_say_bind rfl fun v _ => ⟨_, ends_say.2 rfl, rfl⟩
  obtain ⟨w', hends, hprinted⟩ := hreview
  exact ⟨w', hrun.trans hends, trans_of Printed hv hprinted⟩

/-! ## The screenplays -/

/-- The list on disk can be read, and the screenplays of all its films with an address are there. -/
def AllCollected [Platform] (fs : Files) : Prop :=
  ∃ t list total entries all, fs.read listFile = .ok t ∧ Json.parse t = .ok list ∧
    list.size = .ok total ∧ list.items = .ok entries ∧ entries.mapM Movie.ofJson = .ok all ∧
    ∀ m ∈ all.filter (fun m => m.script.isTruthy), fs.present (screenplayPath m) = .ok true

/-- Files were added or written over, but the list is the same. -/
structure Onward (w w' : World) : Prop where
  grows : Files.Grows w.files w'.files
  list : ∀ t, w.files.read listFile = .ok t → w'.files.read listFile = .ok t

instance : IsPreorder World Onward where
  refl w := ⟨.refl w.files, fun _ ht => ht⟩
  trans _ _ _ h h' := ⟨h.grows.trans h'.grows, fun t ht => h'.list t (h.list t ht)⟩

lemma onward_of_sameFiles (w w' : World) (h : SameFiles w w') : Onward w w' := by
  rw [SameFiles] at h
  constructor
  · rw [h]
    exact .refl w.files
  · rw [h]
    exact fun _ ht => ht

lemma listName_ne_fileName (m : Movie) : ("movie_list.json" : Text) ≠ m.fileName := by
  intro h
  have hsuffix : ".fountain".toList <:+ m.fileName := List.suffix_append _ _
  rw [← h] at hsuffix
  revert hsuffix
  decide

lemma onward_say (parts : List Text) : Keeps Onward (say parts) :=
  (sameFiles_say parts).mono onward_of_sameFiles

/-- A film that is not left has its screenplay. -/
lemma present_of_missing {movies : List Movie} :
    ∀ {wanted w'}, Ends (missing movies) w wanted w' → ∀ m ∈ movies,
      m ∈ wanted ∨ w.files.present (screenplayPath m) = .ok true := by
  induction movies with
  | nil => simp
  | cons m rest ih =>
      intro wanted w' h
      obtain ⟨there, v, hthere, h⟩ := ends_bind.1 h
      obtain ⟨hpresent, rfl⟩ := ends_fileExists.1 hthere
      obtain ⟨more, v, hmore, h⟩ := ends_bind.1 h
      have hwanted := (ends_pure.1 h).1
      have hrest := ih hmore
      cases there with
      | true =>
          rw [← hwanted]
          exact List.forall_mem_cons.2 ⟨.inr hpresent, hrest⟩
      | false =>
          rw [← hwanted]
          refine List.forall_mem_cons.2 ⟨.inl (by simp), fun m' hm' => ?_⟩
          exact (hrest m' hm').imp_left fun hmem => by simp [hmem]

lemma ends_missing_of_present {movies : List Movie}
    (h : ∀ m ∈ movies, w.files.present (screenplayPath m) = .ok true) :
    Ends (missing movies) w [] w := by
  induction movies with
  | nil => exact ends_pure.2 ⟨rfl, rfl⟩
  | cons m rest ih =>
      rw [List.forall_mem_cons] at h
      exact ends_bind.2 ⟨true, w, ends_fileExists.2 ⟨h.1, rfl⟩,
        ends_bind.2 ⟨[], w, ih h.2, ends_pure.2 ⟨rfl, rfl⟩⟩⟩

variable [Platform]

/-- **A screenplay is not written over the list.** -/
lemma onward_writeFile (m : Movie) (content : Text) :
    Keeps Onward (writeFile (screenplayPath m) content) := by
  refine keeps_writeFile fun w => ?_
  rw [outcome_writeDocument]
  cases hwrite : w.files.write (screenplayPath m) (Platform.held content) with
  | error f => exact refl_of Onward w
  | ok fs =>
      refine ⟨.of_write hwrite, fun t ht => ?_⟩
      exact Files.read_of_write_ne isName_folder byteLength_folder_le (isName_fileName m)
        (by decide) (listName_ne_fileName m) hwrite ht

lemma onward_collectOne (m : Movie) : Keeps Onward (collectOne m) := by
  refine keeps_bind ((remote_download m.script).sameFiles.mono onward_of_sameFiles) fun got => ?_
  have hfailed : Keeps Onward (do say ["✗ Download failed"]; return false) :=
    keeps_bind (onward_say _) fun _ => keeps_pure _
  rcases got with _ | _ | ⟨c, page⟩
  · exact hfailed
  · exact hfailed
  · refine keeps_bind (keeps_lift _) fun fountain => keeps_ite ?_ ?_
    · exact keeps_bind (onward_writeFile m fountain) fun _ => keeps_bind (onward_say _) fun _ =>
        keeps_pure _
    · exact keeps_bind (onward_say _) fun _ => keeps_pure _

lemma onward_collectFrom (total : Nat) (ms : List Movie) :
    ∀ i, Keeps Onward (collectFrom total i ms) := by
  induction ms with
  | nil => exact fun i => keeps_pure _
  | cons m rest ih =>
      intro i
      have hprint : ∀ parts, Keeps Onward (print parts) := fun parts =>
        (sameFiles_print parts).mono onward_of_sameFiles
      have hnext : ∀ success : Bool, Keeps Onward (do
          pause delay
          let more ← collectFrom total (i + 1) rest
          return more + (if success = true then 1 else 0)) := fun success =>
        keeps_bind ((sameFiles_pause delay).mono onward_of_sameFiles) fun _ =>
          keeps_bind (ih (i + 1)) fun _ => keeps_pure _
      unfold collectFrom
      refine keeps_bind (hprint _) fun _ => keeps_bind (hprint _) fun _ =>
        keeps_bind (keeps_attempt (onward_collectOne m)) fun result => ?_
      rcases result with f | success
      · exact keeps_bind (onward_say _) fun _ => keeps_bind (keeps_pure false) hnext
      · exact keeps_bind (keeps_pure success) hnext

/-- A success has written the screenplay. -/
lemma present_of_collectOne {m : Movie} (h : Ends (collectOne m) w true w') :
    w'.files.present (screenplayPath m) = .ok true := by
  obtain ⟨got, v, -, h⟩ := ends_bind.1 h
  have hfailed : ∀ {v : World}, ¬Ends (do say ["✗ Download failed"]; return false) v true w' := by
    intro v h
    obtain ⟨_, v, -, h⟩ := ends_bind.1 h
    cases (ends_pure.1 h).1
  rcases got with _ | _ | ⟨c, page⟩
  · exact absurd h hfailed
  · exact absurd h hfailed
  · obtain ⟨fountain, v, -, h⟩ := ends_bind.1 h
    split at h
    case isTrue =>
      obtain ⟨_, v, hsave, h⟩ := ends_bind.1 h
      obtain ⟨-, -, fs, hwrite, rfl⟩ := ends_writeFile.1 hsave
      obtain ⟨v, hv, h⟩ := exists_of_say_bind rfl h
      obtain ⟨-, rfl⟩ := ends_pure.1 h
      rw [hv]
      exact Files.present_of_write hwrite
    case isFalse =>
      obtain ⟨_, v, -, h⟩ := ends_bind.1 h
      cases (ends_pure.1 h).1

/-- **The loop counts successes.**  There are at most as many as films, and if there are as many
then all screenplays are there. -/
lemma collectFrom_spec (total : Nat) {ms : List Movie} :
    ∀ {i w n w'}, Ends (collectFrom total i ms) w n w' → n ≤ ms.length ∧
      (n = ms.length → ∀ m ∈ ms, w'.files.present (screenplayPath m) = .ok true) := by
  induction ms with
  | nil =>
      intro i w n w' h
      cases (ends_pure.1 h).1
      simp
  | cons m rest ih =>
      intro i w n w' h
      -- what follows the download; after a success the screenplay is there and stays
      have hnext : ∀ (success : Bool) {v : World},
          (success = true → v.files.present (screenplayPath m) = .ok true) → Ends (do
            pause delay
            let more ← collectFrom total (i + 1) rest
            return more + (if success = true then 1 else 0)) v n w' →
          n ≤ (m :: rest).length ∧ (n = (m :: rest).length →
            ∀ m' ∈ m :: rest, w'.files.present (screenplayPath m') = .ok true) := by
        intro success v hpresent h
        obtain ⟨_, v₁, hpause, h⟩ := ends_bind.1 h
        obtain ⟨more, v₂, hmore, h⟩ := ends_bind.1 h
        obtain ⟨rfl, rfl⟩ := ends_pure.1 h
        obtain ⟨hle, hall⟩ := ih hmore
        rw [List.length_cons]
        cases success with
        | false => exact ⟨by simp; omega, fun heq => by simp at heq; omega⟩
        | true =>
            refine ⟨by simpa using hle, fun heq => List.forall_mem_cons.2 ⟨?_, ?_⟩⟩
            · refine ((onward_collectFrom total rest (i + 1)).of_ends hmore).grows.present ?_
              rw [(sameFiles_pause delay).of_ends hpause]
              exact hpresent rfl
            · exact hall (by simpa using heq)
      unfold collectFrom at h
      obtain ⟨_, v, -, h⟩ := ends_bind.1 h
      obtain ⟨_, v, -, h⟩ := ends_bind.1 h
      obtain ⟨result, v, hresult, h⟩ := ends_bind.1 h
      rcases result with f | success
      · obtain ⟨_, v, -, h⟩ := ends_bind.1 h
        exact hnext false (by simp) h
      · refine hnext success ?_ h
        rintro rfl
        exact present_of_collectOne hresult.of_attempt

/-! ## Runs of the collector -/

/-- The lines that a run prints last when it has tried to collect screenplays. -/
def collectSummary (failed : Nat) : List (List Text) :=
  [["  Failed: ", Text.ofNat failed], ["\nScreenplays saved to: ", folder, "/"], [ruler]]

/-- The line that a run prints last when there was nothing to collect. -/
def nothingLeft : List (List Text) :=
  [["\nAll screenplays already downloaded!"]]

/-- **After a run without failures no screenplay is missing.** -/
lemma allCollected_of_collect (h : Ends collect w () w')
    (hend : w'.EndsWith (collectSummary 0) ∨ w'.EndsWith nothingLeft) : AllCollected w'.files := by
  unfold collect at h
  obtain ⟨_, v, -, h⟩ := ends_bind.1 h
  obtain ⟨_, v, -, h⟩ := ends_bind.1 h
  obtain ⟨_, v, -, h⟩ := ends_bind.1 h
  obtain ⟨_, v, -, h⟩ := ends_bind.1 h
  obtain ⟨_, w₁, -, h⟩ := ends_bind.1 h
  obtain ⟨list, v, hlist, h⟩ := ends_bind.1 h
  obtain ⟨hv, t, hread, hparse⟩ := read_of_ends_loadList hlist
  rw [hv] at h
  obtain ⟨total, hsize, h⟩ := exists_of_lift_bind h
  obtain ⟨v₁, hv₁, h⟩ := exists_of_say_bind rfl h
  obtain ⟨entries, hentries, h⟩ := exists_of_lift_bind h
  obtain ⟨all, hall, h⟩ := exists_of_lift_bind h
  obtain ⟨v₁, hv₁, h⟩ := exists_of_say_bind hv₁ h
  obtain ⟨wanted, v, hmissing, h⟩ := ends_bind.1 h
  have hpresent := present_of_missing hmissing
  rw [hv₁] at hpresent
  rw [(missing_spec hmissing).1] at h
  -- it is enough that the files were kept and what was left is there now
  suffices hdone : Onward w₁ w' ∧ ∀ m ∈ wanted, w'.files.present (screenplayPath m) = .ok true by
    obtain ⟨honward, hwanted⟩ := hdone
    refine ⟨t, list, total, entries, all, honward.list t hread, hparse, hsize, hentries, hall,
      fun m hm => ?_⟩
    rcases hpresent m hm with hm | hm
    · exact hwanted m hm
    · exact honward.grows.present hm
  obtain ⟨v₁, hv₁, h⟩ := exists_of_say_bind hv₁ h
  obtain ⟨v₁, hv₁, h⟩ := exists_of_say_bind hv₁ h
  split at h
  case isTrue hempty =>
    rw [List.isEmpty_iff.1 hempty]
    refine ⟨onward_of_sameFiles _ _ ?_, by simp⟩
    rw [SameFiles, (sameFiles_say _).of_ends h, hv₁]
  case isFalse =>
    obtain ⟨v₁, hv₁, h⟩ := exists_of_say_bind hv₁ h
    obtain ⟨successful, v₂, hround, h⟩ := ends_bind.1 h
    obtain ⟨v, hv, h⟩ := exists_of_say_bind rfl h
    obtain ⟨v, hv, h⟩ := exists_of_say_bind hv h
    obtain ⟨v, hv, h⟩ := exists_of_say_bind hv h
    obtain ⟨v, hv, h⟩ := exists_of_say_bind hv h
    obtain ⟨v₃, hv₃, hlines, h⟩ := exists_of_say_endsWith (endsWith_nil v) h
    obtain ⟨v₄, hv₄, hlines, h⟩ := exists_of_say_endsWith hlines h
    have hsummary : w'.EndsWith (collectSummary (wanted.length - successful)) :=
      endsWith_of_say hlines h
    have hfailed : 0 = wanted.length - successful := by
      rcases hend with hend | hend
      · exact eq_of_endsWith_count (t := "  Failed:") (by decide) hend hsummary
      · have hlast := getLast?_of_endsWith [] "\nAll screenplays already downloaded" '!' hend
          (by decide)
        have hruler := getLast?_of_endsWith [_, _] (List.replicate 59 '=') '=' hsummary (by decide)
        rw [hruler] at hlast
        cases hlast
    have hfiles : w'.files = v₂.files := by
      rw [(sameFiles_say _).of_ends h, hv₄, hv₃, hv]
    obtain ⟨hle, hpresent⟩ := collectFrom_spec wanted.length hround
    constructor
    · have honward := (onward_collectFrom wanted.length wanted 0).of_ends hround
      refine trans_of Onward (onward_of_sameFiles w₁ v₁ hv₁) ?_
      exact trans_of Onward honward (onward_of_sameFiles v₂ w' hfiles)
    · rw [hfiles]
      exact hpresent (by omega)

lemma prints_collect_of_allCollected {fs : Files} (hw : w.files = fs) (h : AllCollected fs) :
    Prints collect w () := by
  obtain ⟨t, list, total, entries, all, hread, hparse, hsize, hitems, hall, hpresent⟩ := h
  unfold collect
  refine prints_say_bind hw fun v hv => prints_say_bind hv fun v hv => prints_say_bind hv
    fun v hv => prints_bind (ends_ensureFolder_of_read hv hread) ?_
  refine prints_say_bind hv fun v hv => prints_bind (ends_loadList (hv ▸ hread) hparse) ?_
  refine prints_bind (ends_lift.2 ⟨hsize, rfl⟩) (prints_say_bind hv fun v hv => ?_)
  refine prints_bind (ends_lift.2 ⟨hitems, rfl⟩) (prints_bind (ends_lift.2 ⟨hall, rfl⟩) ?_)
  refine prints_say_bind hv fun v hv => ?_
  refine prints_bind (ends_missing_of_present fun m hm => hv ▸ hpresent m hm) ?_
  refine prints_say_bind hv fun v hv => prints_say_bind hv fun v hv => ?_
  exact ⟨_, ends_say.2 rfl, rfl⟩

/-- A run that ends, makes no request and no pause, and leaves the files as they are. -/
def Idle (p : Program Unit) (w : World) : Prop :=
  ∃ w', Ends p w () w' ∧ w'.requests = w.requests ∧ w'.pauses = w.pauses ∧ w'.files = w.files

omit [Platform] in
lemma idle_of_prints {p : Program Unit} (h : Prints p w ()) : Idle p w := by
  obtain ⟨w', hends, hprinted⟩ := h
  refine ⟨w', hends, ?_, ?_, hprinted.files⟩
  · rw [World.requests, hprinted.deeds, World.requests]
  · rw [World.pauses, hprinted.deeds, World.pauses]

end

/-- **Both programs are idle once their work is done.**  Let a run of the maker of the list end with
the summary of a list that it has saved, and let the list not be empty; or let a run of the
collector end with the summary of a round without failures, or with the line that says that there
was nothing to collect.  Then every run of the same program from the files that it leaves, whatever
the addresses answer by then, ends as well; it makes no request and no pause, and changes no
file. -/
theorem runs_idle_once_complete [Platform] {w w₁ w₂ : World} (hfiles : w₂.files = w₁.files) :
    (Ends generateList w () w₁ → ∀ n ≠ 0, w₁.EndsWith (listSummary n) → Idle generateList w₂) ∧
    (Ends collect w () w₁ → w₁.EndsWith (collectSummary 0) ∨ w₁.EndsWith nothingLeft →
      Idle collect w₂) := by
  constructor
  · intro hrun n hn hend
    exact idle_of_prints (prints_generateList_of_complete hfiles
      (listComplete_of_generateList hrun hn hend))
  · intro hrun hend
    exact idle_of_prints (prints_collect_of_allCollected hfiles (allCollected_of_collect hrun hend))

/-- A world with a chart of one film, the page of the film and its script, and no files. -/
def chartWorld : World :=
  { Episode.sampleWorld with
    pages := [
      (Site.chart, [.reply ⟨200, "OK", Text.cat ["<script type=\"application/ld+json\">",
        "\x7b\"@type\":\"ItemList\",\"itemListElement\":[\x7b\"item\":\x7b\"url\":\"/title/tt7/\",",
        "\"name\":\"Rain\"\x7d\x7d]\x7d</script>"]⟩]),
      (Site.film "tt7", [.reply ⟨200, "OK", "<title>Rain (1932) - A film</title>"⟩]),
      (guessedUrl "Rain", [.reply ⟨200, "OK", samplePage "RAIN ON A HARBOUR"⟩])]
    files := ⟨[], []⟩ }

/-- A list of one film is made and its screenplay collected; without any page, both programs are
idle afterwards. -/
theorem runs_idle_once_complete_sample :
    ∃ w₁ w₂, Ends generateList chartWorld () w₁ ∧ w₁.EndsWith (listSummary 1) ∧
      Idle generateList { w₁ with pages := [] } ∧ Ends collect w₁ () w₂ ∧
      w₂.EndsWith (collectSummary 0) ∧ Idle collect { w₂ with pages := [] } := by
  have hruns : (outcome generateList chartWorld).1.toOption = some () ∧
      (outcome generateList chartWorld).2.EndsWith (listSummary 1) ∧
      (outcome collect (outcome generateList chartWorld).2).1.toOption = some () ∧
      (outcome collect (outcome generateList chartWorld).2).2.EndsWith (collectSummary 0) := by
    unfold World.EndsWith
    decide +kernel
  obtain ⟨hmade, hlist, hcollected, hnone⟩ := hruns
  obtain ⟨w₁, hrun₁, heq⟩ := exists_ends_of_toOption hmade
  rw [heq] at hlist hcollected hnone
  obtain ⟨w₂, hrun₂, heq⟩ := exists_ends_of_toOption hcollected
  rw [heq] at hnone
  have hpages : ∀ w : World, ({ w with pages := [] } : World).files = w.files := fun _ => rfl
  exact ⟨w₁, w₂, hrun₁, hlist,
    (runs_idle_once_complete (hpages w₁)).1 hrun₁ 1 (by decide) hlist, hrun₂, hnone,
    (runs_idle_once_complete (hpages w₂)).2 hrun₂ (.inl hnone)⟩

end Gleaner.Film
