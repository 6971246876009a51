import Gleaner.Episode.Collector
import Gleaner.Proofs.Json.Stored
import Gleaner.Proofs.World.Files

/-!
# What a round of downloads does

The collector takes the entries of its list one by one, and each of them may fail in many ways.
What the rest of the theory needs from such a round is said in three facts.

**Entries.**  A step updates its entry: it leaves it as it is, or sets its address (`Updated`).

**Files.**  Nothing is ever removed, whether a step ends or fails (`growing_collectFrom`).

**Successes.**  An entry is complete if its address is known and its transcript is there
(`Complete`).  A step that succeeds makes its entry complete (`collectOne_spec`); later steps keep
it so because files are not removed (`Complete.mono`).  Hence a round without failures makes the
whole list complete (`collectFrom_spec`).
-/

namespace Gleaner.Episode

/-! ## Entries -/

/-- The members of an episode that the collector reads. -/
structure Fields where
  season : Int
  number : Int
  title : Text
  page : Text
  address : Text

/-- The season and the number as they stand in a file name. -/
def Fields.code (f : Fields) : Text :=
  Text.cat ["S", Json.padded f.season, "E", Json.padded f.number]

/-- The path of the transcript of an episode. -/
def Fields.path (f : Fields) : Text :=
  Path.join folder (fileName f.code f.title)

/-- An entry with integers for season and number, and texts for title and addresses.  It may have
other members. -/
structure Holds (entry : Json) (f : Fields) : Prop where
  season : entry.item "season" = .ok (.int f.season)
  number : entry.item "episode_num" = .ok (.int f.number)
  title : entry.item "title" = .ok (.str f.title)
  page : entry.item "imsdb_url" = .ok (.str f.page)
  address : entry.item "transcript_url" = .ok (.str f.address)

/-- A well-formed entry. -/
def IsEpisode (entry : Json) : Prop :=
  ∃ f, Holds entry f

/-- What the collector does to an entry: nothing, or it sets the address. -/
def Updated (entry entry' : Json) : Prop :=
  entry' = entry ∨ ∃ t : Text, entry' = entry.put "transcript_url" (.str t)

lemma getD_of_item {entry v : Json} {name : Text} (h : entry.item name = .ok v) (default : Json) :
    entry.getD name default = .ok v := by
  obtain ⟨ms, rfl, hm⟩ := Json.item_eq_ok_iff.1 h
  simp [Json.getD, hm]

lemma Holds.put {entry : Json} {f : Fields} (h : Holds entry f) (t : Text) :
    Holds (entry.put "transcript_url" (.str t)) { f with address := t } where
  season := Json.item_put h.season (.str t)
  number := Json.item_put h.number (.str t)
  title := Json.item_put h.title (.str t)
  page := Json.item_put h.page (.str t)
  address := Json.item_put h.address (.str t)

lemma Updated.isEpisode {entry entry' : Json} (h : Updated entry entry') (he : IsEpisode entry) :
    IsEpisode entry' := by
  rcases h with rfl | ⟨t, rfl⟩
  · exact he
  · obtain ⟨f, hf⟩ := he
    exact ⟨_, hf.put t⟩

lemma Updated.readable {entry entry' : Json} (h : Updated entry entry') {depth : Nat}
    {dialect : Json.Dialect} (he : Json.Readable dialect depth entry) :
    Json.Readable dialect depth entry' := by
  rcases h with rfl | ⟨t, rfl⟩
  · exact he
  · exact he.put _ (.str t)

lemma Holds.reread {entry : Json} {f : Fields} (h : Holds entry f) :
    Holds (Json.reread entry) f where
  season := Json.item_reread h.season
  number := Json.item_reread h.number
  title := Json.item_reread h.title
  page := Json.item_reread h.page
  address := Json.item_reread h.address

/-! ## One episode -/

lemma ne_nil_of_linkOnPage? {page : Json} {url : Text} (h : linkOnPage? page = .ok (some url)) :
    url ≠ [] := by
  obtain ⟨node, -, hlink⟩ := exists_of_map_eq_ok h
  obtain ⟨target, -, rfl⟩ := Option.map_eq_some_iff.1 hlink
  exact List.append_ne_nil_of_left_ne_nil (by decide) target

lemma isTruthy_str (t : Text) : (Json.str t).isTruthy = true ↔ t ≠ [] := by
  simp [Json.isTruthy]

/-- A search finds the address that was known, or a new one; it is never empty. -/
lemma found_of_searchAddress {p k : Text} (hp : p ≠ []) {w w' : World} {url : Json} {isNew : Bool}
    (h : Ends (searchAddress (.str p) (.str k)) w (.found url isNew) w') :
    ∃ t : Text, t ≠ [] ∧ url = .str t ∧ (isNew = false → t = k) := by
  unfold searchAddress at h
  split at h
  case isTrue hk =>
    obtain ⟨hfound, -⟩ := ends_pure.1 h
    cases hfound
    exact ⟨k, (isTruthy_str k).1 hk, rfl, fun _ => rfl⟩
  case isFalse =>
    obtain ⟨reply, w₁, -, h⟩ := ends_bind.1 h
    split at h
    case isTrue =>
      obtain ⟨u, w₂, -, h⟩ := ends_bind.1 h
      cases (ends_pure.1 h).1
    case isFalse =>
      obtain ⟨link, w₂, hlink, h⟩ := ends_bind.1 h
      cases link with
      | some t =>
          cases (ends_pure.1 h).1
          exact ⟨t, ne_nil_of_linkOnPage? (ends_lift.1 hlink).1, rfl, by simp⟩
      | none =>
          obtain ⟨own, w₃, -, h⟩ := ends_bind.1 h
          cases own with
          | some text =>
              cases (ends_pure.1 h).1
              exact ⟨p, hp, rfl, by simp⟩
          | none =>
              obtain ⟨u, w₄, -, h⟩ := ends_bind.1 h
              cases (ends_pure.1 h).1

/-- The entry of an episode that was searched for: with a new address, or as it was. -/
lemma found_entry {entry : Json} {f : Fields} (hf : Holds entry f) (hp : f.page ≠ []) {w w' : World}
    {url : Json} {isNew : Bool}
    (h : Ends (searchAddress (.str f.page) (.str f.address)) w (.found url isNew) w')
    {entry' : Json} (hentry : entry' = if isNew then entry.put "transcript_url" url else entry) :
    Updated entry entry' ∧ ∃ t, t ≠ [] ∧ Holds entry' { f with address := t } := by
  subst hentry
  obtain ⟨t, ht, rfl, hknown⟩ := found_of_searchAddress hp h
  cases isNew with
  | true => exact ⟨.inr ⟨t, rfl⟩, t, ht, hf.put t⟩
  | false =>
      obtain rfl := hknown rfl
      exact ⟨.inl rfl, f.address, ht, hf⟩

/-- An entry whose address is known and whose transcript is there. -/
def Complete (fs : Files) (entry : Json) : Prop :=
  ∃ f, Holds entry f ∧ f.address ≠ [] ∧ fs.present f.path = .ok true

/-- More files do not make an entry incomplete. -/
lemma Complete.mono {fs fs' : Files} {entry : Json} (h : Complete fs entry)
    (hgrows : Files.Grows fs fs') : Complete fs' entry := by
  obtain ⟨f, hf, haddress, hpresent⟩ := h
  exact ⟨f, hf, haddress, hgrows.present hpresent⟩

lemma Fields.code_eq (f : Fields) : Episode.code (.int f.season) (.int f.number) = .ok f.code := rfl

lemma Fields.transcriptPath_eq (f : Fields) :
    transcriptPath f.code (.str f.title) = .ok f.path := rfl

section

variable [Platform]

/-- A transcript that was stored is there. -/
lemma present_of_download {url title : Json} {code : Text} {w w' : World} {due : Bool}
    (h : Ends (download url code title) w (true, due) w') :
    ∃ path, transcriptPath code title = .ok path ∧ w'.files.present path = .ok true := by
  unfold download at h
  obtain ⟨reply, w₁, -, h⟩ := ends_bind.1 h
  split at h
  case isTrue =>
    obtain ⟨u, w₂, -, h⟩ := ends_bind.1 h
    cases (ends_pure.1 h).1
  case isFalse =>
    obtain ⟨fountain, w₂, -, h⟩ := ends_bind.1 h
    split at h
    case isTrue =>
      obtain ⟨path, w₃, hpath, h⟩ := ends_bind.1 h
      obtain ⟨u, w₄, hwrite, h⟩ := ends_bind.1 h
      obtain ⟨u', w₅, hsay, h⟩ := ends_bind.1 h
      obtain ⟨-, -, files, hfiles, hw₄⟩ := ends_writeFile.1 hwrite
      have hsame : w'.files = files := by
        rw [← (ends_pure.1 h).2, (sameFiles_say _).of_ends hsay, ← hw₄]
      refine ⟨path, (ends_lift.1 hpath).1, ?_⟩
      rw [hsame]
      exact Files.present_of_write hfiles
    case isFalse =>
      obtain ⟨u, w₃, -, h⟩ := ends_bind.1 h
      cases (ends_pure.1 h).1

/-- What one episode that is not there yet can come to. -/
lemma collectNew_spec {entry : Json} {f : Fields} (hf : Holds entry f) (hp : f.page ≠ [])
    {code : Text} {title : Json} {w w' : World} {entry' : Json} {success : Bool}
    (h : Ends (collectNew entry (.str f.page) (.str f.address) code title) w (entry', success) w') :
    Updated entry entry' ∧ (success = true →
      (∃ t, t ≠ [] ∧ Holds entry' { f with address := t }) ∧
        ∃ path, transcriptPath code title = .ok path ∧ w'.files.present path = .ok true) := by
  unfold collectNew at h
  obtain ⟨found, w₁, hfound, h⟩ := ends_bind.1 h
  rcases found with fault | ⟨url, isNew⟩ | _
  · obtain ⟨u, w₂, -, h⟩ := ends_bind.1 h
    obtain ⟨u', w₃, -, h⟩ := ends_bind.1 h
    cases (ends_pure.1 h).1
    exact ⟨.inl rfl, nofun⟩
  · obtain ⟨e, hentry⟩ : ∃ e, e = if isNew then entry.put "transcript_url" url else entry :=
      ⟨_, rfl⟩
    obtain ⟨hupdated, haddress⟩ := found_entry hf hp hfound.of_attempt hentry
    dsimp only at h
    rw [← hentry] at h
    obtain ⟨result, w₂, hresult, h⟩ := ends_bind.1 h
    rcases result with fault | ⟨stored, due⟩
    · obtain ⟨u, w₃, -, h⟩ := ends_bind.1 h
      obtain ⟨u', w₄, -, h⟩ := ends_bind.1 h
      cases (ends_pure.1 h).1
      exact ⟨hupdated, nofun⟩
    · -- a pause may be due; it changes neither the entry nor the files
      have hend : (entry', success) = (e, stored) ∧ SameFiles w₂ w' := by
        dsimp only at h
        split at h
        · obtain ⟨u, w₃, hpause, h⟩ := ends_bind.1 h
          obtain ⟨hvalue, rfl⟩ := ends_pure.1 h
          exact ⟨hvalue.symm, (sameFiles_pause delay).of_ends hpause⟩
        · obtain ⟨hvalue, rfl⟩ := ends_pure.1 h
          exact ⟨hvalue.symm, refl_of SameFiles w₂⟩
      obtain ⟨rfl, rfl⟩ := Prod.mk.inj hend.1
      refine ⟨hupdated, fun hstored => ⟨haddress, ?_⟩⟩
      subst hstored
      rw [show w'.files = w₂.files from hend.2]
      exact present_of_download hresult.of_attempt
  · cases (ends_pure.1 h).1
    exact ⟨.inl rfl, nofun⟩

/-- **What one step can do**: it updates the entry, and the entry is complete after a success. -/
lemma collectOne_spec {entry : Json} (he : IsEpisode entry) {i total : Nat} {w w' : World}
    {entry' : Json} {success : Bool}
    (h : Ends (collectOne i total entry) w (entry', success) w') :
    Updated entry entry' ∧ (success = true → Complete w'.files entry') := by
  obtain ⟨f, hf⟩ := he
  unfold collectOne at h
  rw [ends_lift_bind hf.season, ends_lift_bind hf.number, ends_lift_bind hf.title,
    ends_lift_bind (getD_of_item hf.page _), ends_lift_bind (getD_of_item hf.address _),
    ends_lift_bind f.code_eq] at h
  obtain ⟨u, w₁, -, h⟩ := ends_bind.1 h
  split at h
  case isTrue =>
    obtain ⟨u, w₂, -, h⟩ := ends_bind.1 h
    cases (ends_pure.1 h).1
    exact ⟨.inl rfl, nofun⟩
  case isFalse hpage =>
    have hp : f.page ≠ [] := by simpa [isTruthy_str] using hpage
    -- both ways into `collectNew` end the same: the file is missing, or the address is not known
    have hnew : ∀ {v : World}, Ends (collectNew entry (.str f.page) (.str f.address) f.code
        (.str f.title)) v (entry', success) w' →
        Updated entry entry' ∧ (success = true → Complete w'.files entry') := by
      intro v hv
      obtain ⟨hupdated, hsuccess⟩ := collectNew_spec hf hp hv
      refine ⟨hupdated, fun hs => ?_⟩
      obtain ⟨⟨t, ht, hholds⟩, path, hpath, hpresent⟩ := hsuccess hs
      cases hpath
      exact ⟨_, hholds, ht, hpresent⟩
    dsimp only at h
    split at h
    case isTrue hknown =>
      rw [ends_lift_bind f.transcriptPath_eq] at h
      obtain ⟨b, w₂, hexists, h⟩ := ends_bind.1 h
      obtain ⟨hpresent, hw₂⟩ := ends_fileExists.1 hexists
      cases b with
      | true =>
          obtain ⟨u, w₃, hsay, h⟩ := ends_bind.1 h
          obtain ⟨hvalue, hw'⟩ := ends_pure.1 h
          cases hvalue
          refine ⟨.inl rfl, fun _ => ⟨f, hf, (isTruthy_str _).1 hknown, ?_⟩⟩
          rw [← hw', (sameFiles_say _).of_ends hsay, ← hw₂]
          exact hpresent
      | false => exact hnew h
    case isFalse => exact hnew h

end

/-! ## What a round keeps

Besides downloads, a round prints, waits and asks for pages.  So a relation that these keep is kept
by a whole round, whether its steps end or fail, if a download keeps it
(`keeps_collectFrom_of_entries`).  A download changes the files by writing a transcript only; for a
relation that looks at the files alone it is enough that writing one keeps it
(`keeps_collectFrom`). -/

/-- A relation that printing, waiting and asking keep. -/
structure KeptByEffects (R : World → World → Prop) : Prop where
  print : ∀ parts, Keeps R (print parts)
  pause : ∀ milliseconds, Keeps R (pause milliseconds)
  fetch : ∀ url timeout, Keeps R (fetch url timeout)

lemma KeptByEffects.say {R : World → World → Prop} (h : KeptByEffects R) (parts : List Text) :
    Keeps R (say parts) :=
  h.print _

lemma keptByEffects_of_sameFiles {R : World → World → Prop}
    (hfiles : ∀ w w', SameFiles w w' → R w w') : KeptByEffects R where
  print parts := (sameFiles_print parts).mono hfiles
  pause ms := (sameFiles_pause ms).mono hfiles
  fetch url timeout := (sameFiles_fetch url timeout).mono hfiles

section

variable {R : World → World → Prop} [IsPreorder World R] (heffects : KeptByEffects R)

include heffects

lemma keeps_transcriptPage? (url : Json) : Keeps R (transcriptPage? url) := by
  refine keeps_bind (keeps_attempt (heffects.fetch url Site.timeout)) fun r => ?_
  cases r with
  | ok reply => exact keeps_pure _
  | error f => exact keeps_pure _

lemma keeps_searchAddress (page known : Json) : Keeps R (searchAddress page known) := by
  refine keeps_ite (keeps_pure _) (keeps_bind (heffects.fetch page Site.timeout) fun reply => ?_)
  refine keeps_ite (keeps_bind (heffects.say _) fun _ => keeps_pure _)
    (keeps_bind (keeps_lift _) fun link => ?_)
  cases link with
  | some url => exact keeps_pure _
  | none =>
      refine keeps_bind (keeps_transcriptPage? heffects page) fun own => ?_
      cases own with
      | some text => exact keeps_pure _
      | none => exact keeps_bind (heffects.say _) fun _ => keeps_pure _

variable [Platform]

lemma keeps_download {code : Text} {title : Json}
    (hwrite : ∀ path, transcriptPath code title = .ok path → ∀ t, Keeps R (writeFile path t))
    (url : Json) : Keeps R (download url code title) := by
  refine keeps_bind (heffects.fetch url Site.timeout) fun reply => ?_
  refine keeps_ite (keeps_bind (heffects.say _) fun _ => keeps_pure _)
    (keeps_bind (keeps_lift _) fun fountain => ?_)
  refine keeps_ite (keeps_lift_bind fun path hpath => ?_)
    (keeps_bind (heffects.say _) fun _ => keeps_pure _)
  exact keeps_bind (hwrite path hpath fountain) fun _ =>
    keeps_bind (heffects.say _) fun _ => keeps_pure _

lemma keeps_collectNew {code : Text} {title : Json}
    (hdownload : ∀ url, Keeps R (download url code title)) (entry page known : Json) :
    Keeps R (collectNew entry page known code title) := by
  have hgiveUp : ∀ (f : Fault) (e : Json),
      Keeps R (do report f; pause delay; return (e, false)) := fun f e =>
    keeps_bind (heffects.say _) fun _ => keeps_bind (heffects.pause _) fun _ => keeps_pure _
  refine keeps_bind (keeps_attempt (keeps_searchAddress heffects page known)) fun found => ?_
  rcases found with f | ⟨url, isNew⟩ | _
  · exact hgiveUp f entry
  · refine keeps_bind (keeps_attempt (hdownload url)) fun result => ?_
    rcases result with f | ⟨stored, due⟩
    · exact hgiveUp f _
    · exact keeps_ite (keeps_bind (heffects.pause _) fun _ => keeps_pure _) (keeps_pure _)
  · exact keeps_pure _

/-- A step keeps what its effects keep and what a download under its own season and number keeps. -/
lemma keeps_collectOne {entry : Json}
    (hdownload : ∀ season number code title url, entry.item "season" = .ok season →
      entry.item "episode_num" = .ok number → Episode.code season number = .ok code →
      Keeps R (download url code title)) (i total : Nat) : Keeps R (collectOne i total entry) := by
  refine keeps_lift_bind fun season hseason => keeps_lift_bind fun number hnumber =>
    keeps_bind (keeps_lift _) fun title => keeps_bind (keeps_lift _) fun page =>
    keeps_bind (keeps_lift _) fun known => keeps_lift_bind fun code hcode =>
    keeps_bind (heffects.print _) fun _ => ?_
  have hnew : Keeps R (collectNew entry page known code title) :=
    keeps_collectNew heffects
      (fun url => hdownload season number code title url hseason hnumber hcode) entry page known
  refine keeps_ite (keeps_bind (heffects.say _) fun _ => keeps_pure _) (keeps_ite ?_ hnew)
  refine keeps_bind (keeps_lift _) fun path => keeps_bind (keeps_fileExists path) fun there => ?_
  exact keeps_ite (keeps_bind (heffects.say _) fun _ => keeps_pure _) hnew

/-- **A round keeps what its effects and its downloads keep.**  Only downloads under the season and
the number of an entry have to be looked at. -/
lemma keeps_collectFrom_of_entries (total : Nat) {entries : List Json}
    (hdownload : ∀ entry ∈ entries, ∀ season number code title url,
      entry.item "season" = .ok season → entry.item "episode_num" = .ok number →
      Episode.code season number = .ok code → Keeps R (download url code title)) :
    ∀ i, Keeps R (collectFrom total i entries) := by
  induction entries with
  | nil => exact fun i => keeps_pure _
  | cons entry rest ih =>
      intro i
      refine keeps_bind (keeps_attempt (keeps_collectOne heffects (hdownload entry (by simp)) i
        total)) fun result => ?_
      rcases result with f | ⟨entry', success⟩
      · exact keeps_pure _
      · exact keeps_bind (ih (fun e he => hdownload e (by simp [he])) (i + 1)) fun r => keeps_pure _

lemma keeps_collectFrom_of_download
    (hdownload : ∀ season number code title url, Episode.code season number = .ok code →
      Keeps R (download url code title)) (total : Nat) (entries : List Json) :
    ∀ i, Keeps R (collectFrom total i entries) :=
  keeps_collectFrom_of_entries heffects total fun _ _ season number code title url _ _ =>
    hdownload season number code title url

end

/-- A round keeps of the files what writing a transcript keeps. -/
lemma keeps_collectFrom [Platform] {R : World → World → Prop} [IsPreorder World R]
    (hfiles : ∀ w w', SameFiles w w' → R w w')
    (hwrite : ∀ season number code title path, Episode.code season number = .ok code →
      transcriptPath code title = .ok path → ∀ t, Keeps R (writeFile path t))
    (total : Nat) (entries : List Json) : ∀ i, Keeps R (collectFrom total i entries) :=
  have heffects := keptByEffects_of_sameFiles hfiles
  keeps_collectFrom_of_download heffects (fun season number code title url hcode =>
    keeps_download heffects (fun path => hwrite season number code title path hcode) url)
    total entries

/-- Nothing is removed. -/
lemma growing_collectFrom [Platform] (total : Nat) (entries : List Json) :
    ∀ i, Keeps Growing (collectFrom total i entries) :=
  keeps_collectFrom growing_of_sameFiles (fun _ _ _ _ path _ _ t => growing_writeFile path t)
    total entries

/-! ## A round of downloads -/

/-- **What a round that goes through can do**: it updates the entries, and all of them are complete
if none failed.  By induction on the list; what the first step has stored is still there at the end
because the later steps remove nothing. -/
lemma collectFrom_spec [Platform] {total : Nat} {entries : List Json}
    (he : ∀ e ∈ entries, IsEpisode e) :
    ∀ {i : Nat} {w w' : World} {r : Round}, Ends (collectFrom total i entries) w r w' →
      r.stopped = none →
      List.Forall₂ Updated entries r.list ∧
        (r.failed = 0 → ∀ e ∈ r.list, Complete w'.files e) := by
  induction entries with
  | nil =>
      intro i w w' r h _
      obtain ⟨rfl, -⟩ := ends_pure.1 h
      exact ⟨.nil, by simp⟩
  | cons entry rest ih =>
      intro i w w' r h hstopped
      rw [collectFrom] at h
      obtain ⟨result, w₁, hone, h⟩ := ends_bind.1 h
      rcases result with f | ⟨entry', success⟩
      · -- a fault of a step stops the round, which then did not go through
        obtain ⟨rfl, -⟩ := ends_pure.1 h
        cases hstopped
      · obtain ⟨r', w₂, hrest, h⟩ := ends_bind.1 h
        obtain ⟨rfl, rfl⟩ := ends_pure.1 h
        obtain ⟨hupdated, hcomplete⟩ := collectOne_spec (he entry (by simp)) hone.of_attempt
        obtain ⟨hupdates, hcompletes⟩ := ih (fun e h => he e (by simp [h])) hrest hstopped
        refine ⟨.cons hupdated hupdates, fun hfailed => ?_⟩
        have hparts : r'.failed = 0 ∧ success = true := by
          simp only [Round.cons] at hfailed
          cases success
          · simp at hfailed
          · exact ⟨by simpa using hfailed, rfl⟩
        intro e hmem
        rcases List.mem_cons.1 hmem with rfl | hmem
        · exact (hcomplete hparts.2).mono ((growing_collectFrom total rest (i + 1)).of_ends hrest)
        · exact hcompletes hparts.1 e hmem

/-! ## Missing addresses -/

lemma eq_of_ends_pause {entry entry' : Json} {w w' : World}
    (h : Ends (pure entry >>= fun entry => do pause delay; return entry) w entry' w') :
    entry' = entry := by
  obtain ⟨e, w₁, he, h⟩ := ends_bind.1 h
  obtain ⟨u, w₂, -, h⟩ := ends_bind.1 h
  exact (ends_pure.1 h).1.symm.trans (ends_pure.1 he).1.symm

/-- Looking for an address updates the entry. -/
lemma updated_of_lookUp {i total : Nat} {entry entry' : Json} {w w' : World}
    (h : Ends (lookUp i total entry) w entry' w') : Updated entry entry' := by
  unfold lookUp at h
  obtain ⟨season, w₁, -, h⟩ := ends_bind.1 h
  obtain ⟨number, w₂, -, h⟩ := ends_bind.1 h
  obtain ⟨title, w₃, -, h⟩ := ends_bind.1 h
  obtain ⟨code, w₄, -, h⟩ := ends_bind.1 h
  obtain ⟨u, w₅, -, h⟩ := ends_bind.1 h
  obtain ⟨found, w₆, -, h⟩ := ends_bind.1 h
  rcases found with f | _ | url
  · obtain ⟨u', w₇, -, h⟩ := ends_bind.1 h
    exact .inl (eq_of_ends_pause h)
  · exact .inl (eq_of_ends_pause h)
  · exact .inr ⟨url, eq_of_ends_pause h⟩

lemma sameFiles_fetchLink (entry : Json) : Keeps SameFiles (fetchLink entry) := by
  refine keeps_bind (keeps_lift _) fun page =>
    keeps_bind (sameFiles_fetch page Site.timeout) fun reply => keeps_ite ?_ ?_
  · exact keeps_bind (keeps_lift _) fun link => keeps_bind (sameFiles_say _) fun _ => keeps_pure _
  · exact keeps_bind (sameFiles_say _) fun _ => keeps_pure _

lemma sameFiles_lookUp (i total : Nat) (entry : Json) : Keeps SameFiles (lookUp i total entry) := by
  refine keeps_bind (keeps_lift _) fun season => keeps_bind (keeps_lift _) fun number =>
    keeps_bind (keeps_lift _) fun title => keeps_bind (keeps_lift _) fun code =>
    keeps_bind (sameFiles_print _) fun _ =>
    keeps_bind (keeps_attempt (sameFiles_fetchLink entry)) fun found => ?_
  have hend : ∀ e : Json,
      Keeps SameFiles (pure e >>= fun entry => do pause delay; return entry) := fun e =>
    keeps_bind (keeps_pure e) fun _ => keeps_bind (sameFiles_pause delay) fun _ => keeps_pure _
  rcases found with f | _ | url
  · exact keeps_bind (sameFiles_say _) fun _ => hend entry
  · exact hend entry
  · exact hend _

/-- Looking for the missing addresses of a list updates its entries and changes no file. -/
lemma lookUpAll_spec {total : Nat} {entries : List Json} :
    ∀ {i : Nat} {entries' : List Json} {w w' : World},
      Ends (lookUpAll total i entries) w entries' w' →
      List.Forall₂ Updated entries entries' ∧ SameFiles w w' := by
  induction entries with
  | nil =>
      intro i entries' w w' h
      obtain ⟨rfl, rfl⟩ := ends_pure.1 h
      exact ⟨.nil, rfl⟩
  | cons entry rest ih =>
      intro i entries' w w' h
      rw [lookUpAll] at h
      obtain ⟨known, w₁, hknown, h⟩ := ends_bind.1 h
      obtain ⟨-, rfl⟩ := ends_lift.1 hknown
      cases known with
      | true =>
          obtain ⟨more, w₂, hmore, h⟩ := ends_bind.1 h
          obtain ⟨rfl, rfl⟩ := ends_pure.1 h
          obtain ⟨hupdates, hsame⟩ := ih hmore
          exact ⟨.cons (.inl rfl) hupdates, hsame⟩
      | false =>
          obtain ⟨entry', w₂, hentry, h⟩ := ends_bind.1 h
          obtain ⟨more, w₃, hmore, h⟩ := ends_bind.1 h
          obtain ⟨rfl, rfl⟩ := ends_pure.1 h
          obtain ⟨hupdates, hsame⟩ := ih hmore
          exact ⟨.cons (updated_of_lookUp hentry) hupdates,
            trans_of SameFiles ((sameFiles_lookUp i total entry).of_ends hentry) hsame⟩

end Gleaner.Episode
