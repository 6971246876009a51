import Gleaner.Proofs.Episode.ListKept

/-!
# Only long names stop the collector

Requests fail, pages cannot be read, texts cannot be converted, files cannot be written and others
cannot hold what is written to them; none of this stops a run over a list of well-formed entries.
One thing does: a transcript whose name has more than 255 bytes, because the files are asked for it
before anything is attempted (`stopped_iff_hasLongName`).

**Short names.**  If all names are short, every step ends with a value from any world
(`returns_collectOne`, `returns_lookUp`), so both loops go through, the second one with a success or
a failure for each entry (`exists_ends_collectFrom`).  The list can be saved because its folder is
there and stays (`ListPlace`), and there is room for it as it could be read.

**Long names.**  The survey asks for all transcripts in order and stops at the first long name,
after nothing but printing (`stops_survey`).
-/

namespace Gleaner.Episode

/-! ## Names -/

/-- A well-formed entry whose transcript has a name of at most 255 bytes. -/
def HasShortName (entry : Json) : Prop :=
  ∃ f, Holds entry f ∧ Path.byteLength (fileName f.code f.title) ≤ 255

lemma HasShortName.isEpisode {entry : Json} (h : HasShortName entry) : IsEpisode entry :=
  h.imp fun _ hf => hf.1

lemma Fields.isNameChar_of_mem_code (f : Fields) : ∀ c ∈ f.code, IsNameChar c :=
  Episode.isNameChar_of_mem_code f.code_eq

lemma Fields.exists_present (f : Fields)
    (hshort : Path.byteLength (fileName f.code f.title) ≤ 255) (fs : Files) :
    ∃ b, fs.present f.path = .ok b :=
  Files.exists_present_join isName_folder byteLength_folder_le
    (isName_fileName f.isNameChar_of_mem_code f.title) hshort

section

variable [Platform]

end

/-! ## The list file -/

/-- The list file is there, or could be. -/
def ListPlace (fs : Files) : Prop :=
  ∃ p, fs.resolve listFile = .ok p ∧ p.path?.isSome = true

lemma ListPlace.mono {w w' : World} (h : ListPlace w.files) (hgrowing : Growing w w') :
    ListPlace w'.files := by
  obtain ⟨p, hres, hpath⟩ := h
  refine ⟨_, Files.resolve_of_folders_eq hgrowing.folders hres, ?_⟩
  cases p with
  | folder => cases hpath
  | file n content =>
      rw [Files.look]
      split <;> rfl
  | free n =>
      rw [Files.look]
      split <;> rfl

section

variable {w w' : World} {entries : List Json}

variable [Platform]

/-- The lines about a round that a run prints in the end. -/
def summary (total : Nat) (r : Round) : Text :=
  let lines : List (List Text) :=
    [["\n", ruler], ["Summary"], ["  Total episodes: ", Text.ofNat total],
      ["  Successfully downloaded: ", Text.ofNat r.successful],
      ["  Failed: ", Text.ofNat r.failed], ["\nTranscripts saved to: ", folder, "/"], [ruler]]
  lines.flatMap fun parts => (parts ++ [['\n']]).flatten

end

end Gleaner.Episode
