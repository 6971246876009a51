import Gleaner.Proofs.Episode.ListKept

/-!
# Names of transcripts tell episodes apart

The name of a transcript begins with the season and the number of its episode and goes on with what
is left of the title, which may hold digits and the letter between season and number itself.  Still
the name belongs to one season and one number (`transcripts_told_apart`).

**Names.**  An integer can be read back from its digits (`ofPadded_padded`).  Its digits and its
sign are neither `E` nor a low line, so that the first `E` and the first low line end the season and
the number, whatever follows (`slot_of_fileName`).

**Rounds.**  A transcript is written under the season and the number of an entry.  Hence a round
leaves the files of all other seasons and numbers alone (`sameTranscripts_collectFrom`).
-/

namespace Gleaner.Json

open Text

/-! ## Integers with two digits -/

/-- The integer that is written with at least two digits. -/
def ofPadded : Text → Int
  | '-' :: t => -(digitsValue t : Int)
  | t => digitsValue t

lemma ofPadded_of_allDigits {t : Text} (h : AllDigits t) : ofPadded t = digitsValue t := by
  unfold ofPadded
  split
  case h_1 t =>
    have hminus := h '-' (by simp)
    cases hminus
  case h_2 => rfl

lemma digitsValue_zero_cons (t : Text) : digitsValue ('0' :: t) = digitsValue t := rfl

lemma ofPadded_ofInt (n : Int) : ofPadded (ofInt n) = n := by
  unfold ofInt
  split_ifs with hneg
  · rw [ofPadded, digitsValue_ofNat]
    omega
  · rw [ofPadded_of_allDigits (allDigits_ofNat _), digitsValue_ofNat]
    omega

lemma ofPadded_padded (n : Int) : ofPadded (padded n) = n := by
  simp only [padded]
  split_ifs with hshort
  · -- a minus sign has a digit behind it, so that what is too short has none
    have hdigits : AllDigits (ofInt n) := by
      unfold ofInt at hshort ⊢
      split_ifs at hshort ⊢
      · have := List.length_pos_iff.2 (ofNat_ne_nil n.natAbs)
        rw [List.length_cons] at hshort
        omega
      · exact allDigits_ofNat _
    have hzero : AllDigits ('0' :: ofInt n) := List.forall_mem_cons.2 ⟨rfl, hdigits⟩
    rw [ofPadded_of_allDigits hzero, digitsValue_zero_cons, ← ofPadded_of_allDigits hdigits,
      ofPadded_ofInt]
  · exact ofPadded_ofInt n

lemma padded_injective : Function.Injective padded :=
  Function.LeftInverse.injective ofPadded_padded

/-- The integer that a value is taken for where it is written with two digits. -/
def integer? : Json → Option Int
  | .int n => some n
  | .bool b => some (if b then 1 else 0)
  | _ => none

lemma twoDigits_eq_ok_iff {v : Json} {t : Text} :
    v.twoDigits = .ok t ↔ ∃ n, v.integer? = some n ∧ t = padded n := by
  cases v <;> simp [twoDigits, integer?, eq_comm]

end Gleaner.Json

namespace Gleaner.Episode

/-! ## Names -/

/-- Season and number as they begin the name of a transcript. -/
def slotCode (season number : Int) : Text :=
  Text.cat ["S", Json.padded season, "E", Json.padded number]

lemma fileName_slotCode (season number : Int) (title : Text) :
    fileName (slotCode season number) title = 'S' :: (Json.padded season ++ 'E' ::
      (Json.padded number ++ '_' :: (fileTitle title ++ ".fountain".toList))) := by
  simp [fileName, slotCode]

/-- The first separator divides a text in one way. -/
lemma append_sep_inj {sep : Char} {a a' b b' : Text} (ha : sep ∉ a) (ha' : sep ∉ a')
    (h : a ++ sep :: b = a' ++ sep :: b') : a = a' ∧ b = b' := by
  have hpieces := congrArg (Text.splitOn sep) h
  rw [Text.splitOn_append_sep ha, Text.splitOn_append_sep ha'] at hpieces
  obtain rfl := (List.cons.inj hpieces).1
  exact ⟨rfl, (List.cons.inj (List.append_cancel_left h)).2⟩

/-- A character that does not stand in an integer. -/
lemma notMem_padded {c : Char} (hdigit : c.isDigit = false) (hminus : c ≠ '-') (n : Int) :
    c ∉ Json.padded n := by
  intro h
  rcases isDigit_or_eq_of_mem_padded h with hc | hc
  · rw [hdigit] at hc
    cases hc
  · exact hminus hc

/-- **A name has one season and one number**, whatever the titles are. -/
lemma slot_of_fileName {season number season' number' : Int} {title title' : Text}
    (h : fileName (slotCode season number) title = fileName (slotCode season' number') title') :
    season = season' ∧ number = number' := by
  have hletter := notMem_padded (c := 'E') rfl (by decide)
  have hline := notMem_padded (c := '_') rfl (by decide)
  rw [fileName_slotCode, fileName_slotCode] at h
  obtain ⟨hseason, h⟩ := append_sep_inj (hletter _) (hletter _) (List.cons.inj h).2
  obtain ⟨hnumber, -⟩ := append_sep_inj (hline _) (hline _) h
  exact ⟨Json.padded_injective hseason, Json.padded_injective hnumber⟩

/-- The path of a transcript. -/
def pathOf (season number : Int) (title : Text) : Text :=
  Path.join folder (fileName (slotCode season number) title)

section

variable (season number : Int)

lemma isNameChar_of_mem_slotCode : ∀ c ∈ slotCode season number, IsNameChar c :=
  isNameChar_of_mem_code (show Episode.code (.int season) (.int number) = .ok _ from rfl)

lemma isName_slotted (title : Text) : Path.IsName (fileName (slotCode season number) title) :=
  isName_fileName (isNameChar_of_mem_slotCode season number) title

end

/-! ## Rounds -/

/-- An entry for an episode of a season and a number. -/
structure HasSlot (entry : Json) (season number : Int) : Prop where
  season : ∃ v, entry.item "season" = .ok v ∧ v.integer? = some season
  number : ∃ v, entry.item "episode_num" = .ok v ∧ v.integer? = some number

lemma exists_slotCode {season number : Json} {code : Text}
    (h : Episode.code season number = .ok code) :
    ∃ s n, season.integer? = some s ∧ number.integer? = some n ∧ code = slotCode s n := by
  obtain ⟨s, hs, h⟩ := bind_eq_ok h
  obtain ⟨n, hn, h⟩ := bind_eq_ok h
  obtain ⟨s, hseason, rfl⟩ := Json.twoDigits_eq_ok_iff.1 hs
  obtain ⟨n, hnumber, rfl⟩ := Json.twoDigits_eq_ok_iff.1 hn
  exact ⟨s, n, hseason, hnumber, (Except.ok.inj h).symm⟩

/-- The transcripts of a season and a number are the same in two worlds, under every title. -/
def SameTranscripts (season number : Int) (w w' : World) : Prop :=
  ∀ title, w'.files.content? (pathOf season number title) =
    w.files.content? (pathOf season number title)

instance (season number : Int) : IsPreorder World (SameTranscripts season number) where
  refl _ _ := rfl
  trans _ _ _ h h' title := (h' title).trans (h title)

section

variable {season number : Int}

lemma sameTranscripts_of_sameFiles (w w' : World) (h : SameFiles w w') :
    SameTranscripts season number w w' := by
  intro title
  rw [SameFiles] at h
  rw [h]

variable [Platform]

/-- **A transcript is not written over one of another season or number.** -/
lemma sameTranscripts_writeFile {season' number' : Int}
    (hother : ¬(season' = season ∧ number' = number)) (title content : Text) :
    Keeps (SameTranscripts season number) (writeFile (pathOf season' number' title) content) := by
  refine keeps_writeFile fun w => ?_
  rw [outcome_writeDocument]
  cases hwrite : w.files.write (pathOf season' number' title) (Platform.held content) with
  | error f => exact refl_of (SameTranscripts season number) w
  | ok files =>
      intro title'
      have hne : pathOf season number title' ≠ pathOf season' number' title := by
        intro hpath
        obtain ⟨rfl, rfl⟩ := slot_of_fileName (Path.join_injective isName_folder.ne_nil hpath)
        exact hother ⟨rfl, rfl⟩
      exact (Files.content?_of_write_join isName_folder byteLength_folder_le
        (isName_slotted season' number' title) hwrite _).trans (if_neg hne)

/-- **A round leaves the transcripts of other seasons and numbers alone.** -/
lemma sameTranscripts_collectFrom (total : Nat) {entries : List Json}
    (hentries : ∀ e ∈ entries, ¬HasSlot e season number) :
    ∀ i, Keeps (SameTranscripts season number) (collectFrom total i entries) := by
  have heffects := keptByEffects_of_sameFiles (R := SameTranscripts season number)
    sameTranscripts_of_sameFiles
  refine keeps_collectFrom_of_entries heffects total
    fun entry hentry seasonValue numberValue code title url hseason hnumber hcode => ?_
  obtain ⟨s, n, hs, hn, rfl⟩ := exists_slotCode hcode
  refine keeps_download heffects (fun path hpath content => ?_) url
  obtain ⟨t, -, hpath⟩ := bind_eq_ok hpath
  cases hpath
  refine sameTranscripts_writeFile ?_ t content
  rintro ⟨rfl, rfl⟩
  exact hentries entry hentry ⟨⟨_, hseason, hs⟩, ⟨_, hnumber, hn⟩⟩

end

/-- **The name of a transcript belongs to one season and one number.**  For all integers and for
every title,

* the name is that of a file directly in the folder of transcripts: it has neither a stroke nor a
  zero character;
* a name that is made for another title can only be the same for the same season and the same
  number;
* a round of downloads over any list without an entry of this season and number leaves the file of
  this name as it is, whatever the addresses answer and however the round ends. -/
theorem transcripts_told_apart [Platform] (season number : Int) (title : Text) :
    let code := slotCode season number
    let name := fileName code title
    let path := Path.join folder name
    (Episode.code (.int season) (.int number) = .ok code ∧
      transcriptPath code (.str title) = .ok path) ∧
    ('/' ∉ name ∧ '\x00' ∉ name ∧ Path.parent path = folder ∧ Path.name path = name) ∧
    (∀ season' number' title', fileName (slotCode season' number') title' = name →
      season' = season ∧ number' = number) ∧
    ∀ list w, (∀ entries, list.items = .ok entries → ∀ e ∈ entries, ¬HasSlot e season number) →
      (outcome (collectRound list) w).2.files.content? path = w.files.content? path := by
  have hchar := isNameChar_of_mem_fileName (isNameChar_of_mem_slotCode season number) title
  have hstroke : '/' ∉ fileName (slotCode season number) title := fun h => (hchar _ h).1 rfl
  refine ⟨⟨rfl, rfl⟩, ⟨hstroke, fun h => (hchar _ h).2 rfl, Path.parent_join isName_folder hstroke,
    Path.name_join isName_folder hstroke⟩, fun _ _ _ h => slot_of_fileName h,
    fun list w hlist => ?_⟩
  have hround : Keeps (SameTranscripts season number) (collectRound list) :=
    keeps_lift_bind fun entries hentries =>
      sameTranscripts_collectFrom entries.length (hlist entries hentries) 0
  exact hround w title

/-- The title of the twentieth episode begins with a digit.  Its transcript has no other path, and
is not written by a round over the second episode. -/
theorem transcripts_told_apart_sample :
    let path := Path.join folder (fileName "S01E20" "2. Pilot/part 1")
    path = "transcripts/S01E20_2_Pilotpart_1.fountain".toList ∧ Path.parent path = folder ∧
    (∀ title, fileName "S01E20" "2. Pilot/part 1" ≠ fileName "S01E02" title) ∧
    (outcome (collectRound (.arr [sampleEntry])) sampleWorld).2.files.content? path = none := by
  obtain ⟨-, ⟨-, -, hparent, -⟩, hnames, hround⟩ := transcripts_told_apart 1 20 "2. Pilot/part 1"
  refine ⟨by decide +kernel, hparent, fun title hname => ?_, ?_⟩
  · obtain ⟨-, hnumber⟩ := hnames 1 2 title hname.symm
    cases hnumber
  · refine (hround _ _ fun entries hentries e he => ?_).trans (by decide +kernel)
    cases hentries
    obtain rfl := List.mem_singleton.1 he
    rintro ⟨-, v, hv, hnumber⟩
    cases hv
    cases hnumber

end Gleaner.Episode
