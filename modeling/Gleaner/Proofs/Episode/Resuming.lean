import Gleaner.Proofs.Episode.Rounds

/-!
# Collecting transcripts can be resumed

A run of the collector that leaves nothing undone leaves files in which the next run finds nothing
to do.  The link between the two runs is the list on disk: the first run changes its entries and
stores it, and the second run reads the stored text.

* `Stores` — the list that is on disk.
* `Settled` — the list on disk has complete entries only.  `settled_of_collectStored` says that a
  run without failures leaves such files, and `prints_collect_of_settled` that a run from them does
  nothing but print.
* `second_run_idle` puts the two together.
-/

namespace Gleaner.Episode

/-! ## What a run finds -/

section

variable {w w' : World} {entries : List Json}

lemma hasAddress_eq {entry : Json} {f : Fields} (hf : Holds entry f) :
    hasAddress entry = .ok (!f.address.isEmpty) := by
  rw [hasAddress, getD_of_item hf.address]
  rfl

lemma ends_isDownloaded {entry : Json} {f : Fields} (hf : Holds entry f) {b : Bool} :
    Ends (isDownloaded entry) w b w' ↔ w.files.present f.path = .ok b ∧ w = w' := by
  unfold isDownloaded
  rw [ends_lift_bind hf.season, ends_lift_bind hf.number, ends_lift_bind hf.title,
    ends_lift_bind (show (Json.str f.title).asText "replace" = .ok f.title from rfl),
    ends_lift_bind f.code_eq]
  exact ends_fileExists

lemma still_isDownloaded (entry : Json) : Keeps Eq (isDownloaded entry) :=
  keeps_bind (keeps_lift _) fun _ => keeps_bind (keeps_lift _) fun _ =>
    keeps_bind (keeps_lift _) fun _ => keeps_bind (keeps_lift _) fun _ =>
    keeps_bind (keeps_lift _) fun _ => keeps_fileExists _

lemma mapM_hasAddress_of_complete {fs : Files} (h : ∀ e ∈ entries, Complete fs e) :
    entries.mapM hasAddress = .ok (List.replicate entries.length true) := by
  induction entries with
  | nil => rfl
  | cons entry entries ih =>
      obtain ⟨f, hf, haddress, -⟩ := h entry (by simp)
      have hentry : hasAddress entry = .ok true := by
        rw [hasAddress_eq hf]
        simpa using haddress
      rw [List.mapM_cons, hentry, ih fun e he => h e (by simp [he])]
      rfl

/-- Where as many answers are yes as there are questions, all of them are. -/
lemma forall_true_of_countP {α : Type} {R : α → Bool → Prop} {as : List α} {bs : List Bool}
    (h : List.Forall₂ R as bs) (hcount : bs.countP id = as.length) : ∀ a ∈ as, R a true := by
  have hall : ∀ b ∈ bs, b = true := List.countP_eq_length.1 (hcount.trans h.length_eq)
  clear hcount
  induction h with
  | nil => simp
  | @cons a b as bs hab _ ih =>
      have hb : b = true := hall b (by simp)
      rw [List.forall_mem_cons]
      exact ⟨hb ▸ hab, ih fun c hc => hall c (by simp [hc])⟩

lemma Survey.isComplete_iff {s : Survey} :
    s.isComplete = true ↔ s.total - s.addressed = 0 ∧ s.downloaded = s.total := by
  rw [Survey.isComplete, Bool.and_eq_true, decide_eq_true_iff, decide_eq_true_iff, Survey.missing]

lemma readLines_write (v : Json) :
    Files.readLines (Json.write Json.stored v) = Json.write Json.stored v := by
  refine Files.readLines_of_notMem fun hr => ?_
  exact absurd (List.all_eq_true.1 (Json.all_isPlain_write v) _ hr) (by decide)

/-- What updates of all entries keep. -/
lemma forall_mem_of_updated {P : Json → Prop} (hP : ∀ {e e'}, Updated e e' → P e → P e')
    {entries entries' : List Json} (h : List.Forall₂ Updated entries entries')
    (he : ∀ e ∈ entries, P e) : ∀ e ∈ entries', P e := by
  induction h with
  | nil => exact he
  | cons hupdated _ ih =>
      rw [List.forall_mem_cons] at he ⊢
      exact ⟨hP hupdated he.1, ih he.2⟩

variable [Platform]

/-- The list that is stored in some files. -/
def Stores (fs : Files) (list : Json) : Prop :=
  ∃ t, fs.read listFile = .ok t ∧ Json.parse t = .ok list

lemma ends_loadList {list : Json} (h : Stores w.files list) : Ends loadList w list w := by
  obtain ⟨t, hread, hparse⟩ := h
  exact ends_bind.2 ⟨true, w, ends_fileExists.2 ⟨Files.present_of_read hread, rfl⟩,
    ends_bind.2 ⟨t, w, ends_readFile.2 ⟨hread, rfl⟩, ends_lift.2 ⟨hparse, rfl⟩⟩⟩

/-- A survey whose questions are all answered only prints. -/
lemma prints_survey {fs : Files} (hw : w.files = fs) (hstores : Stores fs (.arr entries))
    {addressed downloaded : List Bool} (haddressed : entries.mapM hasAddress = .ok addressed)
    (hdownloaded : ∀ v : World, v.files = fs →
      Ends (entries.mapM isDownloaded) v downloaded v) :
    Prints survey w ⟨.arr entries, entries, entries.length, addressed.countP id,
      downloaded.countP id⟩ := by
  unfold survey
  refine prints_say_bind hw fun v hv => prints_say_bind hv fun v hv => ?_
  refine prints_say_bind hv fun v hv => prints_say_bind hv fun v hv => ?_
  refine prints_bind (ends_loadList (by rw [hv]; exact hstores)) ?_
  refine prints_bind (ends_lift.2 ⟨rfl, rfl⟩) (prints_say_bind hv fun v hv => ?_)
  refine prints_bind (ends_lift.2 ⟨rfl, rfl⟩) ?_
  refine prints_bind (ends_lift.2 ⟨haddressed, rfl⟩) (prints_say_bind hv fun v hv => ?_)
  refine prints_bind (hdownloaded v hv) ?_
  refine prints_say_bind hv fun v hv => prints_say_bind hv fun v hv => ?_
  exact prints_pure _ _

/-- A run that finds complete entries sees that they are complete. -/
lemma prints_survey_of_complete {fs : Files} (hw : w.files = fs)
    (hstores : Stores fs (.arr entries)) (h : ∀ e ∈ entries, Complete fs e) :
    Prints survey w ⟨.arr entries, entries, entries.length, entries.length, entries.length⟩ := by
  have hcount : (List.replicate entries.length true).countP id = entries.length := by
    rw [List.countP_replicate]
    rfl
  have hdownloaded : ∀ v : World, v.files = fs →
      Ends (entries.mapM isDownloaded) v (List.replicate entries.length true) v := by
    intro v hv
    refine ends_mapM_of_forall fun e he => ?_
    obtain ⟨f, hf, -, hpresent⟩ := h e he
    exact (ends_isDownloaded hf).2 ⟨by rw [hv]; exact hpresent, rfl⟩
  have hprints := prints_survey hw hstores (mapM_hasAddress_of_complete h) hdownloaded
  rwa [hcount] at hprints

/-- What a run finds is what is stored. -/
lemma survey_spec {fs : Files} (hw : w.files = fs) (hstores : Stores fs (.arr entries))
    {s : Survey} (h : Ends survey w s w') :
    w'.files = fs ∧ s.list = .arr entries ∧ s.entries = entries ∧
      ((∀ e ∈ entries, IsEpisode e) → s.isComplete = true → ∀ e ∈ entries, Complete fs e) := by
  unfold survey at h
  obtain ⟨v, hv, h⟩ := exists_of_say_bind hw h
  obtain ⟨v, hv, h⟩ := exists_of_say_bind hv h
  obtain ⟨v, hv, h⟩ := exists_of_say_bind hv h
  obtain ⟨v, hv, h⟩ := exists_of_say_bind hv h
  obtain ⟨list, v₁, hload, h⟩ := ends_bind.1 h
  obtain ⟨rfl, rfl⟩ := (ends_loadList (by rw [hv]; exact hstores)).unique hload
  rw [ends_lift_bind (show (Json.arr entries).size = .ok entries.length from rfl)] at h
  obtain ⟨v, hv, h⟩ := exists_of_say_bind hv h
  rw [ends_lift_bind (show (Json.arr entries).items = .ok entries from rfl)] at h
  obtain ⟨addressed, v₂, hlift, h⟩ := ends_bind.1 h
  obtain ⟨hanswers, hv₂⟩ := ends_lift.1 hlift
  obtain ⟨v, hv, h⟩ := exists_of_say_bind (hv₂ ▸ hv) h
  obtain ⟨downloaded, v₃, hmap, h⟩ := ends_bind.1 h
  obtain ⟨hv₃, hdownloaded⟩ := forall₂_of_ends_mapM
    (fun e _ _ hb => ((still_isDownloaded e).of_ends hb).symm) hmap
  obtain ⟨v', hv', h⟩ := exists_of_say_bind (hv₃ ▸ hv) h
  obtain ⟨v', hv', h⟩ := exists_of_say_bind hv' h
  obtain ⟨rfl, rfl⟩ := ends_pure.1 h
  refine ⟨hv', rfl, rfl, fun he hcomplete e hmem => ?_⟩
  obtain ⟨hmissing, hpresent⟩ : entries.length - addressed.countP id = 0 ∧
      downloaded.countP id = entries.length :=
    Survey.isComplete_iff.1 hcomplete
  have haddressed := forall₂_of_mapM_eq_ok hanswers
  -- that no address is missing says `≤` only; there are no more answers than entries
  have hall : addressed.countP id = entries.length := by
    have hle : addressed.countP id ≤ addressed.length := List.countP_le_length
    rw [← haddressed.length_eq] at hle
    omega
  obtain ⟨f, hf⟩ := he e hmem
  refine ⟨f, hf, ?_, ?_⟩
  · have hknown := forall_true_of_countP haddressed hall e hmem
    rw [hasAddress_eq hf] at hknown
    simpa using hknown
  · have hthere := forall_true_of_countP hdownloaded hpresent e hmem
    rw [← hv]
    exact ((ends_isDownloaded hf).1 hthere).1

/-! ## From one run to the next -/

/-- The list on disk has complete entries only. -/
def Settled (fs : Files) : Prop :=
  ∃ entries, Stores fs (.arr entries) ∧ ∀ e ∈ entries, Complete fs e

/-- **A run from settled files does nothing but print.** -/
lemma prints_collect_of_settled {fs : Files} (hw : w.files = fs) (h : Settled fs) :
    Prints collect w () := by
  obtain ⟨entries, hstores, hcomplete⟩ := h
  obtain ⟨w₁, hsurvey, hprinted⟩ := prints_survey_of_complete hw hstores hcomplete
  obtain ⟨w₂, hsay, hprinted'⟩ : Prints (do
      say ["\nAll episodes already have transcripts!"]
      return (none : Option Round)) w₁ none :=
    prints_say_bind (hprinted.files.trans hw) fun _ _ => prints_pure _ _
  refine ⟨w₂, ends_discard.2 ⟨none, ends_bind.2 ⟨_, w₁, hsurvey, ?_⟩⟩,
    trans_of Printed hprinted hprinted'⟩
  rw [if_pos (Survey.isComplete_iff.2 ⟨Nat.sub_self _, rfl⟩)]
  exact hsay

/-- A list that is stored is the list that the next run reads, its numbers reread. -/
lemma stores_of_saveList {list : List Json} (hreadable : ∀ e ∈ list, Json.Readable Json.lenient 1 e)
    {u : Unit} (h : Ends (saveList (.arr list)) w u w') :
    Stores w'.files (.arr (list.map Json.reread)) := by
  obtain ⟨-, files, hfiles, rfl⟩ := ends_storeValue.1 h
  refine ⟨Json.write Json.stored (.arr list), ?_, ?_⟩
  · rw [← readLines_write]
    exact Files.read_of_write hfiles
  · rw [Json.parse_write (.arr (Json.hasRoom_lenient (by decide)) hreadable), Json.reread,
      Json.rereadItems_eq_map]

lemma settled_of_saveList {list : List Json}
    (hreadable : ∀ e ∈ list, Json.Readable Json.lenient 1 e)
    (hcomplete : ∀ e ∈ list, Complete w.files e) {u : Unit}
    (h : Ends (saveList (.arr list)) w u w') : Settled w'.files := by
  refine ⟨_, stores_of_saveList hreadable h, fun e he => ?_⟩
  obtain ⟨e, hmem, rfl⟩ := List.mem_map.1 he
  obtain ⟨f, hf, haddress, hpresent⟩ :=
    (hcomplete e hmem).mono ((growing_storeValue listFile _).of_ends h)
  exact ⟨f, hf.reread, haddress, hpresent⟩

lemma completeList_spec {s : Survey} (hlist : s.list = .arr entries)
    (hentries : s.entries = entries) {list : Json} (h : Ends (completeList s) w list w') :
    ∃ entries', list = .arr entries' ∧ List.Forall₂ Updated entries entries' := by
  unfold completeList at h
  split at h
  case isTrue =>
    obtain ⟨rfl, -⟩ := ends_pure.1 h
    exact ⟨entries, hlist, List.forall₂_same.2 fun e _ => .inl rfl⟩
  case isFalse =>
    obtain ⟨_, w₁, -, h⟩ := ends_bind.1 h
    obtain ⟨entries', w₂, hlook, h⟩ := ends_bind.1 h
    obtain ⟨_, w₃, -, h⟩ := ends_bind.1 h
    obtain ⟨rfl, -⟩ := ends_pure.1 h
    rw [hentries] at hlook
    exact ⟨entries', rfl, (lookUpAll_spec hlook).1⟩

/-- A round without failures leaves settled files. -/
lemma settled_of_collectMissing {s : Survey} (hlist : s.list = .arr entries)
    (hentries : s.entries = entries) (he : ∀ e ∈ entries, IsEpisode e)
    (hreadable : ∀ e ∈ entries, Json.Readable Json.lenient 1 e) {r : Round}
    (h : Ends (collectMissing s) w r w') (hfailed : r.failed = 0) : Settled w'.files := by
  unfold collectMissing at h
  obtain ⟨list, w₁, hcomplete, h⟩ := ends_bind.1 h
  obtain ⟨known, rfl, hknown⟩ := completeList_spec hlist hentries hcomplete
  rw [ends_bind] at h
  obtain ⟨_, w₂, -, h⟩ := h
  obtain ⟨r', w₃, hround, h⟩ := ends_bind.1 h
  cases hstopped : r'.stopped with
  | some f =>
      -- such a run ends with the fault, after the round
      rw [hstopped] at h
      exact absurd h not_ends_fail
  | none =>
      rw [hstopped] at h
      obtain ⟨_, w₄, hsave, h⟩ := ends_bind.1 h
      obtain ⟨v, hv, h⟩ := exists_of_say_bind rfl h
      obtain ⟨v, hv, h⟩ := exists_of_say_bind hv h
      obtain ⟨v, hv, h⟩ := exists_of_say_bind hv h
      obtain ⟨v, hv, h⟩ := exists_of_say_bind hv h
      obtain ⟨v, hv, h⟩ := exists_of_say_bind hv h
      obtain ⟨v, hv, h⟩ := exists_of_say_bind hv h
      obtain ⟨v, hv, h⟩ := exists_of_say_bind hv h
      obtain ⟨rfl, rfl⟩ := ends_pure.1 h
      obtain ⟨hupdated, hall⟩ := collectFrom_spec
        (forall_mem_of_updated Updated.isEpisode hknown he) hround hstopped
      rw [hv]
      refine settled_of_saveList (forall_mem_of_updated (fun h => h.readable) hupdated
        (forall_mem_of_updated (fun h => h.readable) hknown hreadable)) (hall hfailed) hsave

/-- **A run without failures leaves settled files**, be it that there was nothing to do. -/
lemma settled_of_collectStored (hstores : Stores w.files (.arr entries))
    (he : ∀ e ∈ entries, IsEpisode e) {report : Option Round}
    (h : Ends collectStored w report w') (hfailed : ∀ r ∈ report, r.failed = 0) :
    Settled w'.files := by
  unfold collectStored at h
  obtain ⟨s, w₁, hsurvey, h⟩ := ends_bind.1 h
  obtain ⟨hfiles, hlist, hentries, hcomplete⟩ := survey_spec rfl hstores hsurvey
  split at h
  case isTrue hdone =>
    obtain ⟨v, hv, h⟩ := exists_of_say_bind hfiles h
    obtain ⟨-, rfl⟩ := ends_pure.1 h
    rw [hv]
    exact ⟨entries, hstores, hcomplete he hdone⟩
  case isFalse =>
    obtain ⟨r, w₂, hround, h⟩ := ends_bind.1 h
    obtain ⟨rfl, rfl⟩ := ends_pure.1 h
    have hreadable : ∀ e ∈ entries, Json.Readable Json.lenient 1 e := by
      obtain ⟨t, -, hparse⟩ := hstores
      cases Json.readable_of_parse hparse with
      | arr room items => exact items
    exact settled_of_collectMissing hlist hentries he hreadable hround (hfailed r rfl)

end

/-- **The collector can be resumed.**  Let the list on disk have well-formed entries.  If a run of
the collector ends, whatever the addresses answer, and no download of its round failed (or there was
nothing to do), then any later run from the files that it leaves ends too; it makes no request and
no pause, and leaves the files as they are. -/
theorem second_run_idle [Platform] {w w₁ w₂ : World} {entries : List Json} {report : Option Round}
    (hstores : Stores w.files (.arr entries)) (hentries : ∀ e ∈ entries, IsEpisode e)
    (hrun : Ends collectStored w report w₁) (hfailed : ∀ r ∈ report, r.failed = 0)
    (hfiles : w₂.files = w₁.files) :
    ∃ w₃, Ends collect w₂ () w₃ ∧ w₃.requests = w₂.requests ∧ w₃.pauses = w₂.pauses ∧
      w₃.files = w₂.files := by
  have hsettled := settled_of_collectStored hstores hentries hrun hfailed
  obtain ⟨w₃, hends, hprinted⟩ := prints_collect_of_settled hfiles hsettled
  refine ⟨w₃, hends, ?_, ?_, hprinted.files⟩
  · rw [World.requests, hprinted.deeds, World.requests]
  · rw [World.pauses, hprinted.deeds, World.pauses]

/-- An entry without an address, and with a member that the collector does not know. -/
def sampleEntry : Json :=
  Json.object [("title", "Pilot, part 1"), ("season", .int 1), ("episode_num", .int 2),
    ("imsdb_url", "page"), ("transcript_url", ""), ("seen", .arr [.bool true, .null])]

/-- A world in which the page of the entry is its own transcript. -/
def sampleWorld : World where
  pages := [("page", [.reply ⟨200, "OK",
    "<pre>THE BUS STOP\n\nFour friends wait in the snow. [They look up]\n\nIt snows on.</pre>"⟩])]
  fallback := .failure .connection "no answer"
  files := ⟨["transcripts"], [(listFile, Json.write Json.stored (.arr [sampleEntry]))]⟩
  now := ⟨2024, 1, 1, 0, 0, 0⟩
  display := none
  screen := ⟨[], [], none, none, none⟩
  index := none
  out := []
  err := []
  deeds := []
  calls := []

/-- The first run makes four requests and stores a transcript; the second one, with no address that
answers, makes none. -/
theorem second_run_idle_sample :
    ∃ w₁, (∃ r, Ends collectStored sampleWorld (some r) w₁ ∧ r.failed = 0 ∧ r.successful = 1) ∧
      w₁.requests.length = 4 ∧
      ∃ w₃, Ends collect { w₁ with pages := [] } () w₃ ∧ w₃.requests = w₁.requests ∧
        w₃.pauses = w₁.pauses ∧ w₃.files = w₁.files := by
  have hreadable : Json.Readable Json.lenient 0 (.arr [sampleEntry]) := by
    refine .arr (by decide) (List.forall_mem_singleton.2 (.obj (by decide) (by decide) ?_))
    intro m hm
    simp only [List.map_cons, List.map_nil, List.mem_cons, List.not_mem_nil, or_false] at hm
    rcases hm with rfl | rfl | rfl | rfl | rfl | rfl
    · exact .str _
    · exact .int (by decide)
    · exact .int (by decide)
    · exact .str _
    · exact .str _
    · exact .arr (by decide)
        (List.forall_mem_cons.2 ⟨.bool true, List.forall_mem_singleton.2 .null⟩)
  have hstores : Stores sampleWorld.files (.arr [Json.reread sampleEntry]) := by
    refine ⟨Json.write Json.stored (.arr [sampleEntry]), ?_, Json.parse_write hreadable⟩
    rw [← readLines_write]
    rfl
  have hentry : IsEpisode (Json.reread sampleEntry) :=
    ⟨⟨1, 2, "Pilot, part 1", "page", []⟩, rfl, rfl, rfl, rfl, rfl⟩
  have hreport : (outcome collectStored sampleWorld).1.toOption.map
      (Option.map fun r => (r.failed, r.successful)) = some (some (0, 1)) := by
    decide +kernel
  have hrequests : (outcome collectStored sampleWorld).2.requests.length = 4 := by
    decide +kernel
  obtain ⟨report, hok, hmap⟩ := Option.map_eq_some_iff.1 hreport
  obtain ⟨r, rfl, hcounts⟩ := Option.map_eq_some_iff.1 hmap
  obtain ⟨hfailed, hsuccessful⟩ := Prod.mk.inj hcounts
  obtain ⟨w₁, hrun, hworld⟩ := exists_ends_of_toOption hok
  rw [hworld] at hrequests
  exact ⟨w₁, ⟨r, hrun, hfailed, hsuccessful⟩, hrequests,
    second_run_idle hstores (List.forall_mem_singleton.2 hentry) hrun
      (fun _ h => Option.some.inj h ▸ hfailed) rfl⟩

end Gleaner.Episode
