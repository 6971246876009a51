import Gleaner.Proofs.Episode.Resuming
import Gleaner.Proofs.World.Paths

/-!
# The stored list is never damaged

A run of the collector changes entries in two loops, stores the list twice and can stop at many
places in between.  Whatever happens, the list on disk afterwards is the one before, up to addresses
that were missing (`stored_list_kept`).

**Entries.**  `Kept` says what may happen to an entry.  It is transitive because an address that was
set counts as known from then on.

**Lists.**  Between two savings the list file is left alone: transcripts are written under other
names (`sameList_collectFrom`).  What a saving stores is read back as it is, because the values that
were read from a file are written in the form in which they are read (`stores_of_saveList_exact`).
-/

namespace Gleaner.Episode

/-! ## Entries -/

/-- No address is known for an entry. -/
def LacksAddress (entry : Json) : Prop :=
  ∀ v, entry.item "transcript_url" = .ok v → v.isTruthy = false

/-- An address on the site of transcripts, from a link of a page. -/
def IsLinked (url : Json) : Prop :=
  ∃ href : Text, url = .str ("https://imsdb.com".toList ++ href) ∧ "/transcripts".toList <+: href

/-- What may happen to an entry.

* Every member but the address is as it was, be it known or not.
* The entry is as it was, or it had no address and has one now: one that a page links to, or the
  page of the episode itself.
-/
structure Kept (entry entry' : Json) : Prop where
  others : ∀ name : Text, name ≠ "transcript_url".toList → entry'.item name = entry.item name
  address : entry' = entry ∨ LacksAddress entry ∧ ∃ url, url.isTruthy = true ∧
    entry' = entry.put "transcript_url" url ∧ (IsLinked url ∨ entry.item "imsdb_url" = .ok url)

lemma Kept.refl (entry : Json) : Kept entry entry :=
  ⟨fun _ _ => rfl, .inl rfl⟩

lemma Kept.of_put {entry url : Json} (hlacks : LacksAddress entry) (htruthy : url.isTruthy = true)
    (hurl : IsLinked url ∨ entry.item "imsdb_url" = .ok url) :
    Kept entry (entry.put "transcript_url" url) :=
  ⟨fun _ hname => Json.item_put_of_ne entry url hname, .inr ⟨hlacks, url, htruthy, rfl, hurl⟩⟩

lemma IsLinked.isTruthy {url : Json} (h : IsLinked url) : url.isTruthy = true := by
  obtain ⟨href, rfl, -⟩ := h
  rfl

/-- An address that was set is known. -/
lemma eq_or_not_lacksAddress_put (entry : Json) {url : Json} (htruthy : url.isTruthy = true) :
    entry.put "transcript_url" url = entry ∨
      ¬LacksAddress (entry.put "transcript_url" url) := by
  cases entry with
  | obj ms =>
      refine .inr fun hlacks => ?_
      have hitem : (Json.put (.obj ms) "transcript_url" url).item "transcript_url" = .ok url := by
        simp only [Json.put, Json.item, Json.find?_insert, if_true]
      rw [hlacks url hitem] at htruthy
      cases htruthy
  | _ => exact .inl rfl

lemma Kept.trans {e₁ e₂ e₃ : Json} (h : Kept e₁ e₂) (h' : Kept e₂ e₃) : Kept e₁ e₃ := by
  rcases h.address with rfl | ⟨-, url, htruthy, rfl, -⟩
  · exact h'
  · rcases h'.address with rfl | ⟨hlacks, -⟩
    · exact h
    · rcases eq_or_not_lacksAddress_put e₁ htruthy with heq | hknown
      · rwa [heq] at h'
      · exact absurd hlacks hknown

lemma forall₂_kept_trans {l₁ l₂ l₃ : List Json} (h : List.Forall₂ Kept l₁ l₂) :
    List.Forall₂ Kept l₂ l₃ → List.Forall₂ Kept l₁ l₃ := by
  induction h generalizing l₃ with
  | nil => exact id
  | cons hkept _ ih =>
      rintro (_ | ⟨hkept', hrest⟩)
      exact .cons (hkept.trans hkept') (ih hrest)

/-- A value that can be stored in a list and is read back as it is. -/
def Storable [Platform] (entry : Json) : Prop :=
  Json.Readable Json.lenient 1 entry ∧ Json.Exact entry

/-- An entry stays storable: a new address is a text, or a member that it already had. -/
lemma Kept.storable [Platform] {entry entry' : Json} (h : Kept entry entry') (he : Storable entry) :
    Storable entry' := by
  rcases h.address with rfl | ⟨-, url, -, rfl, hurl⟩
  · exact he
  · have hvalue : Json.Readable Json.lenient 2 url ∧ Json.Exact url := by
      rcases hurl with ⟨href, rfl, -⟩ | hpage
      · exact ⟨.str _, .str _⟩
      · obtain ⟨ms, rfl, hfind⟩ := Json.item_eq_ok_iff.1 hpage
        have hmem := Json.mem_of_find?_eq_some hfind
        obtain ⟨hreadable, hexact⟩ := he
        cases hreadable with
        | obj room nodup values =>
            cases hexact with
            | obj exacts => exact ⟨values _ hmem, exacts _ hmem⟩
    exact ⟨he.1.put _ hvalue.1, he.2.put _ hvalue.2⟩

lemma storable_of_forall₂ [Platform] {entries entries' : List Json}
    (h : List.Forall₂ Kept entries entries') (he : ∀ e ∈ entries, Storable e) :
    ∀ e ∈ entries', Storable e := by
  induction h with
  | nil => exact he
  | cons hkept _ ih =>
      rw [List.forall_mem_cons] at he ⊢
      exact ⟨hkept.storable he.1, ih he.2⟩

/-! ## What the loops do to entries -/

lemma isLinked_of_linkOnPage? {page : Json} {url : Text} (h : linkOnPage? page = .ok (some url)) :
    IsLinked (.str url) := by
  obtain ⟨node, -, hlink⟩ := exists_of_map_eq_ok h
  obtain ⟨target, htarget, rfl⟩ := Option.map_eq_some_iff.1 hlink
  refine ⟨target, rfl, ?_⟩
  unfold Markup.Node.linkBelow? at htarget
  split at htarget
  case h_2 => cases htarget
  case h_1 part _ =>
    obtain ⟨link, hfind, rfl⟩ := Option.map_eq_some_iff.1 htarget
    have hfront := List.find?_some hfind
    exact List.isPrefixOf_iff_prefix.1 hfront

lemma lacksAddress_of_getD {entry known default : Json}
    (h : entry.getD "transcript_url" default = .ok known) (hknown : known.isTruthy = false) :
    LacksAddress entry := by
  intro v hv
  rw [getD_of_item hv] at h
  cases h
  exact hknown

/-- A truthy member that has a falsy default is there. -/
lemma item_of_getD {entry v default : Json} {name : Text} (h : entry.getD name default = .ok v)
    (hv : v.isTruthy = true) (hdefault : default.isTruthy = false) : entry.item name = .ok v := by
  cases entry with
  | obj ms =>
      simp only [Json.getD, Except.ok.injEq] at h
      cases hfind : Json.find? name ms with
      | none =>
          rw [hfind, Option.getD_none] at h
          rw [h, hv] at hdefault
          cases hdefault
      | some u =>
          rw [hfind, Option.getD_some] at h
          simp only [Json.item, hfind, h]
  | _ => cases h

/-- What an entry becomes once its address was searched for. -/
lemma kept_of_searchAddress {entry page known : Json} {w w' : World} {url : Json} {isNew : Bool}
    (hpage : entry.item "imsdb_url" = .ok page) (htruthy : page.isTruthy = true)
    (hknown : known.isTruthy = false → LacksAddress entry)
    (h : Ends (searchAddress page known) w (.found url isNew) w') :
    Kept entry (if isNew then entry.put "transcript_url" url else entry) := by
  unfold searchAddress at h
  split at h
  case isTrue =>
    cases (ends_pure.1 h).1
    exact Kept.refl entry
  case isFalse hfalsy =>
    have hlacks := hknown (by simpa using hfalsy)
    obtain ⟨reply, w₁, -, h⟩ := ends_bind.1 h
    split at h
    case isTrue =>
      obtain ⟨u, w₂, -, h⟩ := ends_bind.1 h
      cases (ends_pure.1 h).1
    case isFalse =>
      obtain ⟨link, w₂, hlink, h⟩ := ends_bind.1 h
      cases link with
      | some t =>
          cases (ends_pure.1 h).1
          have hlinked := isLinked_of_linkOnPage? (ends_lift.1 hlink).1
          exact Kept.of_put hlacks hlinked.isTruthy (.inl hlinked)
      | none =>
          obtain ⟨own, w₃, -, h⟩ := ends_bind.1 h
          cases own with
          | some text =>
              cases (ends_pure.1 h).1
              exact Kept.of_put hlacks htruthy (.inr hpage)
          | none =>
              obtain ⟨u, w₄, -, h⟩ := ends_bind.1 h
              cases (ends_pure.1 h).1

lemma kept_of_collectNew [Platform] {entry page known title : Json} {code : Text} {w w' : World}
    {entry' : Json} {success : Bool} (hpage : entry.item "imsdb_url" = .ok page)
    (htruthy : page.isTruthy = true) (hknown : known.isTruthy = false → LacksAddress entry)
    (h : Ends (collectNew entry page known code title) w (entry', success) w') :
    Kept entry entry' := by
  unfold collectNew at h
  obtain ⟨found, w₁, hfound, h⟩ := ends_bind.1 h
  rcases found with fault | ⟨url, isNew⟩ | _
  · obtain ⟨u, w₂, -, h⟩ := ends_bind.1 h
    obtain ⟨u', w₃, -, h⟩ := ends_bind.1 h
    cases (ends_pure.1 h).1
    exact Kept.refl entry
  · have hkept := kept_of_searchAddress hpage htruthy hknown hfound.of_attempt
    dsimp only at h
    obtain ⟨result, w₂, -, h⟩ := ends_bind.1 h
    rcases result with fault | ⟨stored, due⟩
    · obtain ⟨u, w₃, -, h⟩ := ends_bind.1 h
      obtain ⟨u', w₄, -, h⟩ := ends_bind.1 h
      cases (ends_pure.1 h).1
      exact hkept
    · dsimp only at h
      split at h
      · obtain ⟨u, w₃, -, h⟩ := ends_bind.1 h
        cases (ends_pure.1 h).1
        exact hkept
      · cases (ends_pure.1 h).1
        exact hkept
  · cases (ends_pure.1 h).1
    exact Kept.refl entry

/-- **What a step of the downloads does to its entry.** -/
lemma kept_of_collectOne [Platform] {i total : Nat} {entry entry' : Json} {success : Bool}
    {w w' : World} (h : Ends (collectOne i total entry) w (entry', success) w') :
    Kept entry entry' := by
  unfold collectOne at h
  obtain ⟨season, w₁, -, h⟩ := ends_bind.1 h
  obtain ⟨number, w₂, -, h⟩ := ends_bind.1 h
  obtain ⟨title, w₃, -, h⟩ := ends_bind.1 h
  obtain ⟨page, w₄, hpage, h⟩ := ends_bind.1 h
  obtain ⟨known, w₅, hknown, h⟩ := ends_bind.1 h
  obtain ⟨code, w₆, -, h⟩ := ends_bind.1 h
  obtain ⟨u, w₇, -, h⟩ := ends_bind.1 h
  split at h
  case isTrue =>
    obtain ⟨u', w₈, -, h⟩ := ends_bind.1 h
    cases (ends_pure.1 h).1
    exact Kept.refl entry
  case isFalse htruthy =>
    have htruthy : page.isTruthy = true := by simpa using htruthy
    have hitem := item_of_getD (ends_lift.1 hpage).1 htruthy rfl
    have hlacks := lacksAddress_of_getD (ends_lift.1 hknown).1
    dsimp only at h
    split at h
    case isTrue =>
      obtain ⟨path, w₈, -, h⟩ := ends_bind.1 h
      obtain ⟨there, w₉, -, h⟩ := ends_bind.1 h
      cases there with
      | true =>
          obtain ⟨u', w₁₀, -, h⟩ := ends_bind.1 h
          cases (ends_pure.1 h).1
          exact Kept.refl entry
      | false => exact kept_of_collectNew hitem htruthy hlacks h
    case isFalse => exact kept_of_collectNew hitem htruthy hlacks h

/-- A round that goes through keeps its entries. -/
lemma kept_of_collectFrom [Platform] {total : Nat} {entries : List Json} :
    ∀ {i : Nat} {w w' : World} {r : Round}, Ends (collectFrom total i entries) w r w' →
      r.stopped = none → List.Forall₂ Kept entries r.list := by
  induction entries with
  | nil =>
      intro i w w' r h _
      obtain ⟨rfl, -⟩ := ends_pure.1 h
      exact .nil
  | cons entry rest ih =>
      intro i w w' r h hstopped
      rw [collectFrom] at h
      obtain ⟨result, w₁, hone, h⟩ := ends_bind.1 h
      rcases result with f | ⟨entry', success⟩
      · obtain ⟨rfl, -⟩ := ends_pure.1 h
        cases hstopped
      · obtain ⟨r', w₂, hrest, h⟩ := ends_bind.1 h
        obtain ⟨rfl, rfl⟩ := ends_pure.1 h
        exact .cons (kept_of_collectOne hone.of_attempt) (ih hrest hstopped)

lemma isLinked_of_fetchLink {entry : Json} {url : Text} {w w' : World}
    (h : Ends (fetchLink entry) w (some url) w') : IsLinked (.str url) := by
  unfold fetchLink at h
  obtain ⟨page, w₁, -, h⟩ := ends_bind.1 h
  obtain ⟨reply, w₂, -, h⟩ := ends_bind.1 h
  split at h
  case isTrue =>
    obtain ⟨link, w₃, hlink, h⟩ := ends_bind.1 h
    obtain ⟨u, w₄, -, h⟩ := ends_bind.1 h
    obtain ⟨rfl, -⟩ := ends_pure.1 h
    exact isLinked_of_linkOnPage? (ends_lift.1 hlink).1
  case isFalse =>
    obtain ⟨u, w₃, -, h⟩ := ends_bind.1 h
    cases (ends_pure.1 h).1

lemma kept_of_lookUp {i total : Nat} {entry entry' : Json} {w w' : World}
    (hlacks : LacksAddress entry) (h : Ends (lookUp i total entry) w entry' w') :
    Kept entry entry' := by
  unfold lookUp at h
  obtain ⟨season, w₁, -, h⟩ := ends_bind.1 h
  obtain ⟨number, w₂, -, h⟩ := ends_bind.1 h
  obtain ⟨title, w₃, -, h⟩ := ends_bind.1 h
  obtain ⟨code, w₄, -, h⟩ := ends_bind.1 h
  obtain ⟨u, w₅, -, h⟩ := ends_bind.1 h
  obtain ⟨found, w₆, hfound, h⟩ := ends_bind.1 h
  rcases found with f | _ | url
  · obtain ⟨u', w₇, -, h⟩ := ends_bind.1 h
    rw [eq_of_ends_pause h]
    exact Kept.refl entry
  · rw [eq_of_ends_pause h]
    exact Kept.refl entry
  · rw [eq_of_ends_pause h]
    have hlinked := isLinked_of_fetchLink hfound.of_attempt
    exact Kept.of_put hlacks hlinked.isTruthy (.inl hlinked)

/-- The first loop keeps the entries of its list. -/
lemma kept_of_lookUpAll {total : Nat} {entries : List Json} :
    ∀ {i : Nat} {entries' : List Json} {w w' : World},
      Ends (lookUpAll total i entries) w entries' w' → List.Forall₂ Kept entries entries' := by
  induction entries with
  | nil =>
      intro i entries' w w' h
      obtain ⟨rfl, rfl⟩ := ends_pure.1 h
      exact .nil
  | cons entry rest ih =>
      intro i entries' w w' h
      rw [lookUpAll] at h
      obtain ⟨known, w₁, hknown, h⟩ := ends_bind.1 h
      cases known with
      | true =>
          obtain ⟨more, w₂, hmore, h⟩ := ends_bind.1 h
          obtain ⟨rfl, -⟩ := ends_pure.1 h
          exact .cons (Kept.refl entry) (ih hmore)
      | false =>
          obtain ⟨entry', w₂, hentry, h⟩ := ends_bind.1 h
          obtain ⟨more, w₃, hmore, h⟩ := ends_bind.1 h
          obtain ⟨rfl, -⟩ := ends_pure.1 h
          obtain ⟨v, hv, hfalsy⟩ := exists_of_map_eq_ok (ends_lift.1 hknown).1
          exact .cons (kept_of_lookUp (lacksAddress_of_getD hv hfalsy) hentry) (ih hmore)

/-! ## Names of transcripts -/

lemma isName_folder : Path.IsName folder := by decide

lemma byteLength_folder_le : Path.byteLength folder ≤ Path.maxPart := by decide

/-- A character that can stand in a name of a file. -/
def IsNameChar (c : Char) : Prop :=
  c ≠ '/' ∧ c ≠ '\x00'

/-- An integer is written with digits and a minus sign. -/
lemma isDigit_or_eq_of_mem_padded {n : Int} {c : Char} (h : c ∈ Json.padded n) :
    c.isDigit = true ∨ c = '-' := by
  have hofInt : ∀ d ∈ Text.ofInt n, d.isDigit = true ∨ d = '-' := by
    intro d hd
    unfold Text.ofInt at hd
    split_ifs at hd
    · rcases List.mem_cons.1 hd with rfl | hd
      · exact .inr rfl
      · exact .inl (Text.allDigits_ofNat _ d hd)
    · exact .inl (Text.allDigits_ofNat _ d hd)
  simp only [Json.padded] at h
  split_ifs at h
  · rcases List.mem_cons.1 h with rfl | h
    · exact .inl rfl
    · exact hofInt c h
  · exact hofInt c h

lemma isNameChar_of_mem_padded {n : Int} {c : Char} (h : c ∈ Json.padded n) : IsNameChar c := by
  rcases isDigit_or_eq_of_mem_padded h with hdigit | rfl
  · constructor <;> rintro rfl <;> cases hdigit
  · exact ⟨by decide, by decide⟩

lemma exists_padded_of_twoDigits {v : Json} {t : Text} (h : v.twoDigits = .ok t) :
    ∃ n, t = Json.padded n := by
  cases v with
  | int n => exact ⟨n, (Except.ok.inj h).symm⟩
  | bool b => exact ⟨_, (Except.ok.inj h).symm⟩
  | _ => cases h

/-- Season and number do not make another path of a name. -/
lemma isNameChar_of_mem_code {season number : Json} {t : Text} (h : code season number = .ok t) :
    ∀ c ∈ t, IsNameChar c := by
  obtain ⟨s, hs, h⟩ := bind_eq_ok h
  obtain ⟨n, hn, h⟩ := bind_eq_ok h
  cases h
  obtain ⟨s, rfl⟩ := exists_padded_of_twoDigits hs
  obtain ⟨n, rfl⟩ := exists_padded_of_twoDigits hn
  intro c hc
  simp only [List.flatten_cons, List.flatten_nil, List.append_nil, List.mem_append] at hc
  rcases hc with hc | hc | hc | hc
  · rw [List.mem_singleton.1 hc]
    exact ⟨by decide, by decide⟩
  · exact isNameChar_of_mem_padded hc
  · rw [List.mem_singleton.1 hc]
    exact ⟨by decide, by decide⟩
  · exact isNameChar_of_mem_padded hc

lemma isNameChar_of_mem_fileTitle {title : Text} {c : Char} (h : c ∈ fileTitle title) :
    IsNameChar c := by
  have hkept := (List.mem_filter.1 h).2
  constructor <;> rintro rfl <;> revert hkept <;> decide

section

variable {code : Text} (hcode : ∀ c ∈ code, IsNameChar c) (title : Text)

include hcode

lemma isNameChar_of_mem_fileName : ∀ c ∈ fileName code title, IsNameChar c := by
  intro c hc
  simp only [fileName, List.flatten_cons, List.flatten_nil, List.append_nil, List.mem_append] at hc
  rcases hc with hc | hc | hc | hc
  · exact hcode c hc
  · rw [List.mem_singleton.1 hc]
    exact ⟨by decide, by decide⟩
  · exact isNameChar_of_mem_fileTitle hc
  · exact ⟨fun h => absurd (h ▸ hc) (by decide), fun h => absurd (h ▸ hc) (by decide)⟩

lemma isName_fileName : Path.IsName (fileName code title) := by
  refine Path.isName_of_length ?_ fun h => (isNameChar_of_mem_fileName hcode title _ h).1 rfl
  simp only [fileName, List.flatten_cons, List.flatten_nil, List.append_nil, List.length_append]
  have : ".fountain".toList.length = 9 := rfl
  omega

end

/-- The list is not stored under the name of a transcript. -/
lemma listName_ne_fileName (code title : Text) :
    "episode_list.json".toList ≠ fileName code title := by
  intro h
  have hsuffix : ".fountain".toList <:+ "episode_list.json".toList :=
    ⟨code ++ "_".toList ++ fileTitle title, by rw [h]; simp [fileName]⟩
  exact absurd hsuffix (by decide)

/-! ## The list file between two savings -/

/-- What is read from the list file is the same in two worlds. -/
def SameList (w w' : World) : Prop :=
  ∀ t, w.files.read listFile = .ok t → w'.files.read listFile = .ok t

instance : IsPreorder World SameList where
  refl _ _ ht := ht
  trans _ _ _ h h' t ht := h' t (h t ht)

lemma sameList_of_sameFiles (w w' : World) (h : SameFiles w w') : SameList w w' := by
  intro t ht
  rw [SameFiles] at h
  rw [h]
  exact ht

lemma sameList_say (parts : List Text) : Keeps SameList (say parts) :=
  (sameFiles_say parts).mono sameList_of_sameFiles

lemma sameFiles_lookUpAll (total : Nat) (entries : List Json) :
    ∀ i, Keeps SameFiles (lookUpAll total i entries) := by
  induction entries with
  | nil => exact fun i => keeps_pure _
  | cons entry rest ih =>
      intro i
      refine keeps_bind (keeps_lift _) fun known => keeps_ite ?_ ?_
      · exact keeps_bind (ih i) fun more => keeps_pure _
      · exact keeps_bind (sameFiles_lookUp i total entry) fun entry' =>
          keeps_bind (ih (i + 1)) fun more => keeps_pure _

section

variable [Platform]

/-- **A transcript is not written over the list.** -/
lemma sameList_writeFile (season number : Json) (code : Text) (title : Json) (path : Text)
    (hcode : Episode.code season number = .ok code) (hpath : transcriptPath code title = .ok path)
    (content : Text) : Keeps SameList (writeFile path content) := by
  obtain ⟨t, -, hpath⟩ := bind_eq_ok hpath
  cases hpath
  refine keeps_writeFile fun w => ?_
  rw [outcome_writeDocument]
  cases hwrite : w.files.write (Path.join folder (fileName code t)) (Platform.held content) with
  | error f => exact fun _ ht => ht
  | ok files =>
      intro old hold
      exact Files.read_of_write_ne isName_folder byteLength_folder_le
        (isName_fileName (isNameChar_of_mem_code hcode) t) (by decide) (listName_ne_fileName code t)
        hwrite hold

/-- **The second loop leaves the list file alone**, whatever happens. -/
lemma sameList_collectFrom (total : Nat) (entries : List Json) :
    ∀ i, Keeps SameList (collectFrom total i entries) :=
  keeps_collectFrom sameList_of_sameFiles sameList_writeFile total entries

/-! ## The list on disk -/

lemma sameFiles_loadList : Keeps SameFiles loadList := by
  refine keeps_bind (keeps_fileExists listFile) fun there => keeps_ite ?_ (keeps_fail _)
  exact keeps_bind (keeps_readFile listFile) fun t => keeps_lift _

lemma sameFiles_survey : Keeps SameFiles survey := by
  have hdownloaded : ∀ entries : List Json, Keeps SameFiles (entries.mapM isDownloaded) :=
    keeps_mapM fun entry => (still_isDownloaded entry).mono fun w w' hw => by rw [hw]; rfl
  refine keeps_bind (sameFiles_say _) fun _ => keeps_bind (sameFiles_say _) fun _ =>
    keeps_bind (sameFiles_say _) fun _ => keeps_bind (sameFiles_say _) fun _ =>
    keeps_bind sameFiles_loadList fun list => keeps_bind (keeps_lift _) fun total =>
    keeps_bind (sameFiles_say _) fun _ => keeps_bind (keeps_lift _) fun entries =>
    keeps_bind (keeps_lift _) fun addressed => keeps_bind (sameFiles_say _) fun _ =>
    keeps_bind (hdownloaded entries) fun downloaded => ?_
  exact keeps_bind (sameFiles_say _) fun _ => keeps_bind (sameFiles_say _) fun _ => keeps_pure _

/-- A list is on disk whose entries came from these. -/
def ListKept (entries : List Json) (w : World) : Prop :=
  ∃ entries', Stores w.files (.arr entries') ∧ List.Forall₂ Kept entries entries'

section

variable {entries list : List Json} {w w' : World}

lemma ListKept.mono (h : ListKept entries w) (hsame : SameList w w') : ListKept entries w' := by
  obtain ⟨entries', ⟨t, hread, hparse⟩, hkept⟩ := h
  exact ⟨entries', ⟨t, hsame t hread, hparse⟩, hkept⟩

lemma readable_of_storable (h : ∀ e ∈ list, Storable e) :
    Json.Readable Json.lenient 0 (.arr list) :=
  .arr (Json.hasRoom_lenient (by decide)) fun e he => (h e he).1

lemma parse_write_of_storable (h : ∀ e ∈ list, Storable e) :
    Json.parse (Json.write Json.stored (.arr list)) = .ok (.arr list) :=
  Json.parse_write_of_exact (readable_of_storable h) (.arr fun e he => (h e he).2)

/-- A text that was stored holds its list. -/
lemma stores_of_content {fs : Files} (h : ∀ e ∈ list, Storable e)
    (hread : fs.read listFile = .ok (Files.readLines (Json.write Json.stored (.arr list)))) :
    Stores fs (.arr list) :=
  ⟨_, hread, by rw [readLines_write, parse_write_of_storable h]⟩

/-- A list whose entries can be stored is the list that is read afterwards. -/
lemma stores_of_saveList_exact (h : ∀ e ∈ list, Storable e) {u : Unit}
    (hsave : Ends (saveList (.arr list)) w u w') : Stores w'.files (.arr list) := by
  obtain ⟨-, files, hwrite, rfl⟩ := ends_storeValue.1 hsave
  exact stores_of_content h (Files.read_of_write hwrite)

/-- **Saving keeps the list**, also if it fails. -/
lemma listKept_saveList (hw : ListKept entries w) (hentries : ∀ e ∈ entries, Storable e)
    (hlist : List.Forall₂ Kept entries list) :
    ListKept entries (outcome (saveList (.arr list)) w).2 := by
  have hstorable := storable_of_forall₂ hlist hentries
  cases hr : outcome (saveList (.arr list)) w with
  | mk r w₁ =>
      cases r with
      | ok u => exact ⟨list, stores_of_saveList_exact hstorable hr, hlist⟩
      | error e =>
          -- there is room for what was read, so only the file can have been the reason
          unfold saveList at hr
          have hroom := (readable_of_storable hstorable).nesting_le_writeRoom
          rw [outcome_storeValue_of_nesting_le hroom, outcome_writeDocument] at hr
          split at hr
          · cases hr
          · cases hr
            exact hw

/-- What leaves the list file alone may come first. -/
lemma listKept_bind {α β : Type} {p : Program α} {f : α → Program β} (hw : ListKept entries w)
    (hp : Keeps SameList p)
    (hf : ∀ a v, Ends p w a v → ListKept entries v → ListKept entries (outcome (f a) v).2) :
    ListKept entries (outcome (p >>= f) w).2 :=
  after_bind_of_keeps (fun _ _ hsame hv => hv.mono hsame) hw hp hf

/-- What leaves the list file alone may follow. -/
lemma listKept_then {α β : Type} {p : Program α} {f : α → Program β}
    (hp : ListKept entries (outcome p w).2) (hf : ∀ a, Keeps SameList (f a)) :
    ListKept entries (outcome (p >>= f) w).2 :=
  after_then (fun _ _ hsame hv => hv.mono hsame) hp hf

/-- The list that the first loop gives, and the one that it leaves on disk. -/
lemma listKept_completeList {s : Survey} (hlist : s.list = .arr entries)
    (hentries : s.entries = entries) (hstorable : ∀ e ∈ entries, Storable e)
    (hw : ListKept entries w) :
    ListKept entries (outcome (completeList s) w).2 ∧
      ∀ v w₁, Ends (completeList s) w v w₁ →
        ∃ entries', v = .arr entries' ∧ List.Forall₂ Kept entries entries' := by
  unfold completeList
  split
  case isTrue =>
    refine ⟨hw, fun v w₁ h => ?_⟩
    obtain ⟨rfl, -⟩ := ends_pure.1 h
    exact ⟨entries, hlist, List.forall₂_same.2 fun e _ => Kept.refl e⟩
  case isFalse =>
    refine ⟨?_, fun v w₁ h => ?_⟩
    · refine listKept_bind hw (sameList_say _) fun _ w₁ _ hw₁ => ?_
      have hlook := (sameFiles_lookUpAll s.missing s.entries 0).mono sameList_of_sameFiles
      refine listKept_bind hw₁ hlook fun entries' w₂ hall hw₂ => ?_
      rw [hentries] at hall
      exact listKept_then (listKept_saveList hw₂ hstorable (kept_of_lookUpAll hall)) fun _ =>
        keeps_pure _
    · obtain ⟨_, w₂, -, h⟩ := ends_bind.1 h
      obtain ⟨entries', w₃, hlook, h⟩ := ends_bind.1 h
      obtain ⟨_, w₄, -, h⟩ := ends_bind.1 h
      obtain ⟨rfl, -⟩ := ends_pure.1 h
      rw [hentries] at hlook
      exact ⟨entries', rfl, kept_of_lookUpAll hlook⟩

lemma listKept_collectMissing {s : Survey} (hlist : s.list = .arr entries)
    (hentries : s.entries = entries) (hstorable : ∀ e ∈ entries, Storable e)
    (hw : ListKept entries w) : ListKept entries (outcome (collectMissing s) w).2 := by
  obtain ⟨hafter, hgiven⟩ := listKept_completeList hlist hentries hstorable hw
  refine after_bind hafter fun v w₁ hcomplete => ?_
  obtain ⟨known, rfl, hknown⟩ := hgiven v w₁ hcomplete
  rw [hcomplete] at hafter
  refine listKept_bind hafter (sameList_say _) fun _ w₂ _ hw₂ => ?_
  have hround : Keeps SameList (collectRound (.arr known)) :=
    sameList_collectFrom known.length known 0
  refine listKept_bind hw₂ hround fun r w₃ hends hw₃ => ?_
  cases hstopped : r.stopped with
  | some f => exact hw₃
  | none =>
      -- the second saving, and lines about the round
      have hkept := forall₂_kept_trans hknown (kept_of_collectFrom hends hstopped)
      exact listKept_then (listKept_saveList hw₃ hstorable hkept) fun _ =>
        keeps_bind (sameList_say _) fun _ => keeps_bind (sameList_say _) fun _ =>
        keeps_bind (sameList_say _) fun _ => keeps_bind (sameList_say _) fun _ =>
        keeps_bind (sameList_say _) fun _ => keeps_bind (sameList_say _) fun _ =>
        keeps_bind (sameList_say _) fun _ => keeps_pure _

lemma storable_of_stores (h : Stores w.files (.arr entries)) : ∀ e ∈ entries, Storable e := by
  obtain ⟨t, -, hparse⟩ := h
  intro e he
  constructor
  · cases Json.readable_of_parse hparse with
    | arr room items => exact items e he
  · cases Json.exact_of_parse hparse with
    | arr items => exact items e he

end

/-- **The stored list is never damaged.**  Let a list be on disk, with entries of any kind.  However
a run of the collector goes, be it that it ends or that it stops with a fault, there is a list on
disk afterwards with as many entries in the same order; of each entry every member but the address
is as it was, and so is an address that was known.  An address that was missing or empty is as it
was, or it leads to where a page links to, or it is the page of the episode itself. -/
theorem stored_list_kept {w : World} {entries : List Json}
    (hstores : Stores w.files (.arr entries)) :
    ∃ entries', Stores (outcome collect w).2.files (.arr entries') ∧
      List.Forall₂ Kept entries entries' := by
  have hw : ListKept entries w :=
    ⟨entries, hstores, List.forall₂_same.2 fun e _ => Kept.refl e⟩
  show ListKept entries (outcome collect w).2
  refine listKept_then ?_ fun _ => keeps_pure _
  refine listKept_bind hw (sameFiles_survey.mono sameList_of_sameFiles) fun s w₁ hsurvey hw₁ => ?_
  obtain ⟨hfiles, hlist, hentries, -⟩ := survey_spec rfl hstores hsurvey
  split
  case isTrue => exact hw₁.mono (keeps_bind (sameList_say _) (fun _ => keeps_pure _) w₁)
  case isFalse =>
    exact listKept_then (listKept_collectMissing hlist hentries (storable_of_stores hstores) hw₁)
      fun _ => keeps_pure _

end

lemma storable_sampleEntry : Storable sampleEntry := by
  constructor
  · refine .obj (by decide) (by decide) ?_
    simp only [List.map_cons, List.map_nil, List.forall_mem_cons, List.not_mem_nil, false_imp_iff,
      implies_true, and_true]
    refine ⟨.str _, .int (by decide), .int (by decide), .str _, .str _, .arr (by decide) ?_⟩
    exact List.forall_mem_cons.2 ⟨.bool true, List.forall_mem_singleton.2 .null⟩
  · refine .obj ?_
    simp only [List.map_cons, List.map_nil, List.forall_mem_cons, List.not_mem_nil, false_imp_iff,
      implies_true, and_true]
    refine ⟨.str _, .int _, .int _, .str _, .str _, .arr ?_⟩
    exact List.forall_mem_cons.2 ⟨.bool true, List.forall_mem_singleton.2 .null⟩

/-- The address of the sample is set, and the member that the collector does not know is kept. -/
theorem stored_list_kept_sample :
    (outcome collect sampleWorld).2.files ≠ sampleWorld.files ∧
    ∃ entries', Stores (outcome collect sampleWorld).2.files (.arr entries') ∧
      List.Forall₂ Kept [sampleEntry] entries' := by
  have hstores := stores_of_content (List.forall_mem_singleton.2 storable_sampleEntry)
    (show sampleWorld.files.read listFile = _ from rfl)
  exact ⟨by decide +kernel, stored_list_kept hstores⟩

end Gleaner.Episode
