import Gleaner.Film.Programs
import Gleaner.Proofs.Episode.Resuming
import Gleaner.Proofs.World.Exchanges
import Gleaner.Proofs.World.Paths

/-!
# The collector of screenplays only adds files

Which screenplays are missing is found out before the first one is written, films may share a name,
and each download may fail in many ways.  Still no file that was there is touched, and what is added
is a screenplay of a listed film (`collect_additive`).

**Names.**  A stroke in a title does not lead out of the folder (`isName_fileName`).

**Files.**  `Added w₀ w` is the invariant of a run from `w₀`: old files are as they were, and a new
one holds what the page of a listed film was converted to (`IsCollected`), or is empty if no file
can hold that.  A step can break it only by writing; `Added.write` shows that it does not, because a
name for which nothing was there has no old file (`Wanted`).  If two films share it, the later one
is written over the earlier one, which is new as well.
-/

namespace Gleaner

/-! ## Names -/

/-- To replace a character by another is to go through the characters. -/
lemma Text.replace_singleton (c d : Char) (t : Text) :
    Text.replace [c] [d] t = t.map fun x => if x = c then d else x := by
  induction t with
  | nil => rfl
  | cons x t ih =>
      rw [List.map_cons, ← ih]
      unfold Text.replace Text.substitute
      rw [Text.substituteFrom]
      by_cases hx : x = c
      · simp [Text.startsWith, hx]
      · simp [Text.startsWith, hx, Ne.symm hx]

namespace Film

lemma isName_folder : Path.IsName folder := by decide

lemma byteLength_folder_le : Path.byteLength folder ≤ Path.maxPart := by decide

lemma noStroke_safeName (m : Movie) : '/' ∉ m.safeName := by
  simp only [Movie.safeName, Text.replace_singleton, List.map_map, List.mem_map, not_exists,
    not_and]
  intro x _ hx
  simp only [Function.comp] at hx
  split_ifs at hx <;> simp_all

lemma noStroke_fileName (m : Movie) : '/' ∉ m.fileName := by
  rw [Movie.fileName, List.mem_append, not_or]
  exact ⟨noStroke_safeName m, by decide⟩

/-- **The name of a screenplay is one name**, whatever the title is. -/
lemma isName_fileName (m : Movie) : Path.IsName m.fileName := by
  refine Path.isName_of_length ?_ (noStroke_fileName m)
  have : ".fountain".toList.length = 9 := rfl
  rw [Movie.fileName, List.length_append]
  omega

/-! ## Files that may be added -/

section

variable [Platform]

/-- A film of the stored list. -/
def Listed (fs : Files) (m : Movie) : Prop :=
  ∃ t list entries, fs.content? listFile = some t ∧ Json.parse (Files.readLines t) = .ok list ∧
    list.items = .ok entries ∧ ∃ e ∈ entries, Movie.ofJson e = .ok m

/-- What a run from `w` to `w'` may add: the screenplay of a listed film with an address, under the
name of the film in the folder of screenplays.  It was made from a page that the address has
answered during the run, and it has more than fifty characters. -/
def IsCollected (w w' : World) (path content : Text) : Prop :=
  ∃ m reply, Listed w.files m ∧ m.script.isTruthy = true ∧
    path = Path.join folder m.fileName ∧ '/' ∉ m.fileName ∧
    Answered w w' (.get m.script Site.timeout) (.reply reply) ∧
    Screenplay.film.apply reply.text = .ok content ∧ 50 < (Text.strip content).length

/-- A run from `w₀` to `w` has left all files as they were, and has added screenplays only, each as
far as its file can hold it. -/
structure Added (w₀ w : World) : Prop where
  heard : ∃ rs, Heard w₀ rs w
  kept : ∀ path c, w₀.files.content? path = some c → w.files.content? path = some c
  new : ∀ path c, w.files.content? path = some c → w₀.files.content? path = none →
    ∃ t, IsCollected w₀ w path t ∧ c = Platform.held t

/-- A listed film with an address whose screenplay is not there. -/
structure Wanted (w₀ : World) (m : Movie) : Prop where
  listed : Listed w₀.files m
  script : m.script.isTruthy = true
  free : List.contains (screenplayPath m) '\x00' = false →
    w₀.files.content? (screenplayPath m) = none

section

variable {w₀ w w₁ : World}

lemma IsCollected.mono {path content : Text} (h : IsCollected w₀ w path content)
    (hanswered : ∀ r page, Answered w₀ w r page → Answered w₀ w₁ r page) :
    IsCollected w₀ w₁ path content := by
  obtain ⟨m, reply, hlisted, hscript, hpath, hstroke, hreply, hcontent⟩ := h
  exact ⟨m, reply, hlisted, hscript, hpath, hstroke, hanswered _ _ hreply, hcontent⟩

/-- Without writing the invariant only depends on the requests. -/
lemma Added.mono (h : Added w₀ w) (hfiles : w₁.files = w.files) (hheard : ∃ rs, Heard w₀ rs w₁)
    (hanswered : ∀ r page, Answered w₀ w r page → Answered w₀ w₁ r page) : Added w₀ w₁ := by
  refine ⟨hheard, fun path c hc => ?_, fun path c hc hfree => ?_⟩
  · rw [hfiles]
    exact h.kept path c hc
  · rw [hfiles] at hc
    obtain ⟨t, hcollected, hheld⟩ := h.new path c hc hfree
    exact ⟨t, hcollected.mono hanswered, hheld⟩

lemma Added.quiet (h : Added w₀ w) (hquiet : Quiet w w₁) : Added w₀ w₁ := by
  obtain ⟨rs, hheard⟩ := h.heard
  exact h.mono hquiet.files ⟨rs, hheard.quiet hquiet⟩ fun _ _ hr => hr.quiet hquiet

/-! ## What a step does -/

/-- Quiet programs may come before others. -/
lemma added_bind {α β : Type} {p : Program α} {f : α → Program β} (h : Added w₀ w)
    (hp : Keeps Quiet p) (hf : ∀ a v, Ends p w a v → Added w₀ v → Added w₀ (outcome (f a) v).2) :
    Added w₀ (outcome (p >>= f) w).2 :=
  after_bind_of_keeps (fun _ _ hquiet hv => hv.quiet hquiet) h hp hf

/-- Quiet programs may follow others. -/
lemma added_then {α β : Type} {p : Program α} {f : α → Program β} (h : Added w₀ (outcome p w).2)
    (hf : ∀ a, Keeps Quiet (f a)) : Added w₀ (outcome (p >>= f) w).2 :=
  after_then (fun _ _ hquiet hv => hv.quiet hquiet) h hf

/-- A request leaves the files alone, and its reply is an answer. -/
lemma Added.fetch (h : Added w₀ w) (url : Json) (timeout : Nat) :
    Added w₀ (outcome (fetch url timeout) w).2 ∧
      ∀ reply v, Ends (fetch url timeout) w reply v →
        Answered w₀ v (.get url timeout) (.reply reply) := by
  obtain ⟨rs, hheard⟩ := h.heard
  have hfiles := sameFiles_fetch url timeout w
  rw [fetch_eq_ask] at hfiles ⊢
  obtain ⟨hheard', -⟩ := hheard.ask (.get url timeout)
  exact ⟨h.mono hfiles ⟨_, hheard'⟩ fun _ _ hr => hr.later hheard hheard',
    fun reply v hends => hheard.answered hends⟩

/-- **A screenplay is not written over an old file.** -/
lemma Added.write (h : Added w₀ w) {m : Movie} (hm : Wanted w₀ m) {content : Text} {fs : Files}
    (hcollected : IsCollected w₀ w (screenplayPath m) content)
    (hwrite : w.files.write (screenplayPath m) (Platform.held content) = .ok fs) :
    Added w₀ { w with files := fs } := by
  have hfree := hm.free (Files.exists_of_write hwrite).1
  have hcontent := Files.content?_of_write_join isName_folder byteLength_folder_le
    (isName_fileName m) hwrite
  obtain ⟨rs, hheard⟩ := h.heard
  refine ⟨⟨rs, hheard.requests, hheard.pages, hheard.fallback⟩, fun path c hc => ?_,
    fun path c hc hnone => ?_⟩
  · show fs.content? path = some c
    rw [hcontent, if_neg]
    · exact h.kept path c hc
    · -- an old file under this path would have been found
      rintro rfl
      rw [screenplayPath] at hfree
      rw [hfree] at hc
      cases hc
  · have hc : fs.content? path = some c := hc
    rw [hcontent] at hc
    split_ifs at hc with hpath
    · cases hc
      rw [hpath]
      exact ⟨content, hcollected, rfl⟩
    · exact h.new path c hc hnone

/-- A request that must succeed leaves the files alone, and its text is that of an answer. -/
lemma Added.fetchText (h : Added w₀ w) (url : Json) {p : Program Text}
    (hp : p = do
      let reply ← Gleaner.fetch url Site.timeout
      requireSuccess url.display reply
      pure reply.text) :
    Added w₀ (outcome p w).2 ∧ ∀ t v, Ends p w t v → ∃ reply : Reply,
      reply.text = t ∧ Answered w₀ v (.get url Site.timeout) (.reply reply) := by
  subst hp
  obtain ⟨hadded, hanswered⟩ := h.fetch url Site.timeout
  have hquiet : ∀ reply, Keeps Quiet (requireSuccess url.display reply) := fun reply =>
    keeps_ite (keeps_fail _) (keeps_pure _)
  constructor
  · exact added_then hadded fun reply => keeps_bind (hquiet reply) fun _ => keeps_pure _
  · intro t v hends
    obtain ⟨reply, w₁, hreply, hends⟩ := ends_bind.1 hends
    obtain ⟨_, w₂, hsuccess, hends⟩ := ends_bind.1 hends
    obtain ⟨rfl, rfl⟩ := ends_pure.1 hends
    exact ⟨reply, rfl, (hanswered reply w₁ hreply).quiet ((hquiet reply).of_ends hsuccess)⟩

/-- A download leaves the files alone, and its text is that of an answer. -/
lemma Added.download (h : Added w₀ w) (url : Json) :
    Added w₀ (outcome (download url) w).2 ∧ ∀ t v, Ends (download url) w (some t) v →
      ∃ reply : Reply, reply.text = t ∧
        Answered w₀ v (.get url Site.timeout) (.reply reply) := by
  obtain ⟨hadded, hanswered⟩ := h.fetchText url rfl
  constructor
  · refine added_then (by rwa [snd_outcome_attempt]) fun got => ?_
    rcases got with f | t
    · exact keeps_ite (keeps_bind (quiet_say _) fun _ => keeps_pure _) (keeps_fail f)
    · exact keeps_pure _
  · intro t v hends
    obtain ⟨got, w₁, hgot, hends⟩ := ends_bind.1 hends
    rcases got with f | t'
    · dsimp only at hends
      split at hends
      · obtain ⟨_, w₂, -, hends⟩ := ends_bind.1 hends
        cases (ends_pure.1 hends).1
      · exact absurd hends not_ends_fail
    · obtain ⟨heq, rfl⟩ := ends_pure.1 hends
      cases heq
      exact hanswered t w₁ hgot.of_attempt

/-- **A step adds the screenplay of its film or nothing.** -/
lemma Added.collectOne (h : Added w₀ w) {m : Movie} (hm : Wanted w₀ m) :
    Added w₀ (outcome (collectOne m) w).2 := by
  obtain ⟨hadded, hanswered⟩ := h.download m.script
  refine after_bind hadded fun got v hends => ?_
  rw [hends] at hadded
  have hfailed : Keeps Quiet (do say ["✗ Download failed"]; return false) :=
    keeps_bind (quiet_say _) fun _ => keeps_pure _
  rcases got with _ | _ | ⟨c, page⟩
  · exact hadded.quiet (hfailed v)
  · exact hadded.quiet (hfailed v)
  · obtain ⟨reply, htext, hreply⟩ := hanswered _ v hends
    refine added_bind hadded (keeps_lift _) fun fountain v₁ hlift hv₁ => ?_
    obtain ⟨hfountain, rfl⟩ := ends_lift.1 hlift
    rw [← htext] at hfountain
    split
    case isTrue hlength =>
      have hcollected : IsCollected w₀ v (screenplayPath m) fountain :=
        ⟨m, reply, hm.listed, hm.script, rfl, noStroke_fileName m, hreply, hfountain, hlength⟩
      have hwrite : Added w₀ (outcome (writeFile (screenplayPath m) fountain) v).2 := by
        rcases snd_outcome_writeFile (screenplayPath m) fountain v with hsame | hsame
        · rwa [hsame]
        · rw [hsame, outcome_writeDocument]
          cases hfs : v.files.write (screenplayPath m) (Platform.held fountain) with
          | error f => exact hv₁
          | ok fs => exact hv₁.write hm hcollected hfs
      exact added_then hwrite fun _ => keeps_bind (quiet_say _) fun _ => keeps_pure _
    case isFalse =>
      exact hv₁.quiet (keeps_bind (quiet_say _) (fun _ => keeps_pure _) v)

omit [Platform] in
/-- The films that are left are films of the list whose screenplay is not there. -/
lemma missing_spec {movies : List Movie} :
    ∀ {wanted : List Movie}, Ends (missing movies) w wanted w₁ → w₁ = w ∧ ∀ m ∈ wanted,
      m ∈ movies ∧ w.files.present (screenplayPath m) = .ok false := by
  induction movies with
  | nil =>
      intro wanted h
      obtain ⟨rfl, rfl⟩ := ends_pure.1 h
      exact ⟨rfl, by simp⟩
  | cons m rest ih =>
      intro wanted h
      obtain ⟨there, v, hthere, h⟩ := ends_bind.1 h
      obtain ⟨hpresent, rfl⟩ := ends_fileExists.1 hthere
      obtain ⟨more, v, hmore, h⟩ := ends_bind.1 h
      obtain ⟨hwanted, rfl⟩ := ends_pure.1 h
      obtain ⟨rfl, hall⟩ := ih hmore
      have hrest : ∀ m' ∈ more, m' ∈ m :: rest ∧
          v.files.present (screenplayPath m') = .ok false := fun m' hm' =>
        ⟨List.mem_cons_of_mem m (hall m' hm').1, (hall m' hm').2⟩
      refine ⟨rfl, ?_⟩
      cases there with
      | true =>
          rw [← hwanted]
          exact hrest
      | false =>
          rw [← hwanted]
          exact List.forall_mem_cons.2 ⟨⟨List.mem_cons_self, hpresent⟩, hrest⟩

omit [Platform] in
lemma quiet_missing (movies : List Movie) : Keeps Quiet (missing movies) := by
  induction movies with
  | nil => exact keeps_pure _
  | cons m rest ih =>
      exact keeps_bind (keeps_fileExists _) fun _ => keeps_bind ih fun _ => keeps_pure _

lemma quiet_loadList : Keeps Quiet loadList := by
  refine keeps_bind (keeps_bind (keeps_fileExists listFile) fun there =>
    keeps_ite ?_ (keeps_pure _)) fun list => ?_
  · exact keeps_bind (keeps_readFile listFile) fun t => keeps_bind (keeps_lift _) fun v =>
      keeps_pure _
  · cases list with
    | some v => exact keeps_pure _
    | none => exact keeps_fail _

/-- A list that is loaded was read from its file. -/
lemma read_of_ends_loadList {list : Json} (h : Ends loadList w list w₁) :
    w₁ = w ∧ ∃ t, w.files.read listFile = .ok t ∧ Json.parse t = .ok list := by
  obtain ⟨stored, v, hstored, h⟩ := ends_bind.1 h
  rcases stored with _ | list'
  · exact absurd h not_ends_fail
  · obtain ⟨rfl, rfl⟩ := ends_pure.1 h
    obtain ⟨there, v₁, hthere, h⟩ := ends_bind.1 hstored
    obtain ⟨-, rfl⟩ := ends_fileExists.1 hthere
    cases there with
    | false => cases (ends_pure.1 h).1
    | true =>
        obtain ⟨t, v₁, htext, h⟩ := ends_bind.1 h
        obtain ⟨hread, rfl⟩ := ends_readFile.1 htext
        obtain ⟨value, v₁, hvalue, h⟩ := ends_bind.1 h
        obtain ⟨hparse, rfl⟩ := ends_lift.1 hvalue
        obtain ⟨heq, rfl⟩ := ends_pure.1 h
        cases heq
        exact ⟨rfl, t, hread, hparse⟩

/-- The list that is loaded is the one in its file. -/
lemma exists_of_ends_loadList {list : Json} (h : Ends loadList w list w₁) :
    ∃ t, w.files.content? listFile = some t ∧ Json.parse (Files.readLines t) = .ok list := by
  obtain ⟨-, t, hread, hparse⟩ := read_of_ends_loadList h
  have hname : Path.IsName "movie_list.json" := by decide
  obtain ⟨content, hcontent, rfl⟩ :=
    Files.content?_of_read_join isName_folder byteLength_folder_le hname hread
  exact ⟨content, hcontent, hparse⟩

lemma added_start (w : World) : Added w w where
  heard := ⟨[], Heard.refl w⟩
  kept _ _ hc := hc
  new path c hc hnone := by
    rw [hc] at hnone
    cases hnone

/-- The folder is there, and no file has changed. -/
structure Ready (w₀ w : World) : Prop where
  folder : w.files.isFolder folder = true
  contents : w.files.contents = w₀.files.contents

omit [Platform] in
lemma Ready.content? (h : Ready w₀ w) (path : Text) :
    w.files.content? path = w₀.files.content? path := by
  rw [Files.content?, h.contents, Files.content?]

/-- What a run finds missing is wanted. -/
lemma wanted_of_missing (hready : Ready w₀ w) {list : Json} {entries : List Json}
    {all wanted : List Movie} (hlist : ∃ t, w₀.files.content? listFile = some t ∧
      Json.parse (Files.readLines t) = .ok list) (hitems : list.items = .ok entries)
    (hall : entries.mapM Movie.ofJson = .ok all)
    (hmissing : Ends (missing (all.filter fun m => m.script.isTruthy)) w wanted w₁) :
    ∀ m ∈ wanted, Wanted w₀ m := by
  intro m hm
  obtain ⟨hmem, hpresent⟩ := (missing_spec hmissing).2 m hm
  obtain ⟨hmem, hscript⟩ := List.mem_filter.1 hmem
  obtain ⟨e, he, hmovie⟩ := exists_mem_of_mapM_eq_ok hall m hmem
  obtain ⟨t, ht, hparse⟩ := hlist
  refine ⟨⟨t, list, entries, ht, hparse, hitems, e, he, hmovie⟩, hscript, fun hnull => ?_⟩
  rw [← hready.content?]
  exact Files.content?_of_present_join isName_folder byteLength_folder_le (isName_fileName m)
    hready.folder hnull hpresent

omit [Platform] in
lemma Ready.quiet (h : Ready w₀ w) (hquiet : Quiet w w₁) : Ready w₀ w₁ := by
  refine ⟨?_, ?_⟩
  · rw [hquiet.files, h.folder]
  · rw [hquiet.files, h.contents]

/-- To make the folder changes no file. -/
lemma ready_of_ensureFolder (hquiet : Quiet w₀ w) :
    Added w₀ (outcome (ensureFolder folder) w).2 ∧
      ∀ u v, Ends (ensureFolder folder) w u v → Ready w₀ v := by
  have hw := (added_start w₀).quiet hquiet
  unfold Ends
  rw [outcome_ensureFolder]
  cases hmake : w.files.makeFolder folder with
  | error f => exact ⟨hw, fun u v h => by cases h⟩
  | ok fs =>
      obtain ⟨hthere, hcontents⟩ := Files.isFolder_of_makeFolder hmake
      have hcontent : ∀ path, fs.content? path = w.files.content? path := by
        intro path
        rw [Files.content?, hcontents, Files.content?]
      obtain ⟨rs, hheard⟩ := hw.heard
      refine ⟨⟨⟨rs, hheard.requests, hheard.pages, hheard.fallback⟩, fun path c hc => ?_,
        fun path c hc hnone => ?_⟩, fun u v h => ?_⟩
      · exact (hcontent path).trans (hw.kept path c hc)
      · exact hw.new path c ((hcontent path).symm.trans hc) hnone
      · cases h
        exact ⟨hthere, hcontents.trans (by rw [hquiet.files])⟩

end

end

/-- A page with a scene. -/
def samplePage (place : Text) : Text :=
  Text.cat ["<pre>EXT. ", place, " - NIGHT\n\nTwo men wait in the rain and do not speak. ",
    "A car stops, and its lights go out.\n\nFADE OUT.</pre>"]

/-- A world with a list of two films that share a name, and no screenplay yet. -/
def twinWorld : World :=
  { Episode.sampleWorld with
    pages := [("one", [.reply ⟨200, "OK", samplePage "HARBOUR"⟩]),
      ("two", [.reply ⟨200, "OK", samplePage "STATION"⟩])]
    files := ⟨["screenplays"], [(listFile, Json.write Json.stored (.arr [
      Json.object [("title", "Us/Them"), ("year", .int 1999), ("imsdb_url", "one")],
      Json.object [("title", "Us:Them"), ("year", .int 1999), ("imsdb_url", "two")]]))]⟩ }

end Film

end Gleaner
