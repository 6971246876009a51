import Gleaner.Film.Programs
import Gleaner.Proofs.Episode.Resuming
import Gleaner.Proofs.World.Paths

/-!
# Stored lists are loaded again

Both collectors keep a list in a file of their folder, and every run starts from what the run before
it has stored.  `Reloaded` says what this takes: saving succeeds, loading gives the value that was
saved and changes nothing, and the file holds ASCII only.

`lists_reloaded_iff` shows that it is a question of room.  A value that the reader could take at any
depth is loaded again exactly if it lies no deeper than the reader goes (`parse_write_iff`).  Behind
that it can still be written for some levels and is not read, and then it is not even written:
saving stops with a part of the text in the file (`stops_storeValue`).
-/

namespace Gleaner

/-- The files have a place for a list: its folder, and no folder under its own path. -/
structure Files.HasPlaceFor (fs : Files) (folder file : Text) : Prop where
  folder : fs.isFolder folder = true
  free : fs.isFolder file = false

/-- What is saved is loaded again with the value `a`, from a file that holds ASCII only. -/
def Reloaded {α : Type} (save : Program Unit) (load : Program α) (a : α) (file : Text)
    (w : World) : Prop :=
  ∃ w₁ t, Ends save w () w₁ ∧ Ends load w₁ a w₁ ∧ w₁.files.content? file = some t ∧
    ∀ c ∈ t, c.toNat < 128

section

variable [Platform]

/-- **A value is read from its stored text as it was exactly if it lies no deeper than the reader
goes**, provided that its depth is all that could be wrong with it. -/
lemma Json.parse_write_iff {v : Json} (hvalue : Readable { lenient with maxDepth := none } 0 v)
    (hexact : Exact v) :
    parse (write stored v) = .ok v ↔ v.nesting ≤ Platform.readRoom :=
  ⟨nesting_le_of_parse, fun hroom =>
    parse_write_of_exact (readable_lenient_iff.2 ⟨hvalue, hroom⟩) hexact⟩

section

variable {folder name : Text} {v : Json} {w : World} (hfolder : Path.IsName folder)
  (hshort : Path.byteLength folder ≤ Path.maxPart) (hname : Path.IsName name)
  (hlength : Path.byteLength name ≤ Path.maxPart)
  (hnull : List.contains (Path.join folder name) '\x00' = false)
  (hplace : w.files.HasPlaceFor folder (Path.join folder name))

include hfolder hshort hname hlength hnull hplace

/-- A value that has room is written under a name in a folder, and can be read there. -/
lemma exists_stored (hroom : v.nesting ≤ Platform.writeRoom) :
    ∃ w₁, Ends (storeValue (Path.join folder name) v) w () w₁ ∧
      w₁.files.read (Path.join folder name) = .ok (Json.write Json.stored v) ∧
      w₁.files.content? (Path.join folder name) = some (Json.write Json.stored v) := by
  obtain ⟨fs, hwrite⟩ := Files.exists_write_join hfolder hshort hname hlength hnull hplace.folder
    hplace.free (Json.write Json.stored v)
  refine ⟨{ w with files := fs }, ends_storeValue.2 ⟨hroom, fs, hwrite, rfl⟩, ?_, ?_⟩
  · rw [← Episode.readLines_write]
    exact Files.read_of_write hwrite
  · rw [Files.content?_of_write_join hfolder hshort hname hwrite, if_pos rfl]

/-- **A value that has no room is not written**, but for the beginning of its text. -/
lemma stops_storeValue (hdeep : Platform.writeRoom < v.nesting) :
    ∃ w₁ t, outcome (storeValue (Path.join folder name) v) w = (.error (.fault .deepValue), w₁) ∧
      w₁.files.content? (Path.join folder name) = some t ∧ t <+: Json.write Json.stored v := by
  obtain ⟨fs, hwrite⟩ := Files.exists_write_join hfolder hshort hname hlength hnull hplace.folder
    hplace.free (Json.draft Json.stored Platform.writeRoom v).text
  refine ⟨{ w with files := fs }, _, ?_, ?_,
    (Json.draftOf_draft Json.stored Platform.writeRoom v).begins⟩
  · rw [outcome_storeValue, hwrite, if_neg (Nat.not_le.2 hdeep)]
  · rw [Files.content?_of_write_join hfolder hshort hname hwrite, if_pos rfl]

/-- What is stored in a place is loaded again exactly if it lies no deeper than the reader goes, by
every program that gives what it reads there. -/
lemma reloaded_iff {α : Type} {load : Program α} {a : α}
    (hvalue : Json.Readable { Json.lenient with maxDepth := none } 0 v) (hexact : Json.Exact v)
    (hload : ∀ (v' : World) (t : Text), v'.files.read (Path.join folder name) = .ok t →
      (Ends load v' a v' ↔ Json.parse t = .ok v)) :
    Reloaded (storeValue (Path.join folder name) v) load a (Path.join folder name) w ↔
      v.nesting ≤ Platform.readRoom := by
  rw [← Json.parse_write_iff hvalue hexact]
  constructor
  · rintro ⟨w₁, t, hsave, hends, -⟩
    obtain ⟨w₂, hsave', hread, -⟩ := exists_stored hfolder hshort hname hlength hnull hplace
      (ends_storeValue.1 hsave).1
    obtain ⟨-, rfl⟩ := hsave.unique hsave'
    exact (hload _ _ hread).1 hends
  · intro hparse
    have hroom : v.nesting ≤ Platform.writeRoom :=
      (Json.nesting_le_of_parse hparse).trans Platform.readRoom_le_writeRoom
    obtain ⟨w₁, hsave, hread, hcontent⟩ :=
      exists_stored hfolder hshort hname hlength hnull hplace hroom
    exact ⟨w₁, _, hsave, (hload _ _ hread).2 hparse, hcontent, Json.toNat_lt_of_mem_write⟩

end

/-! ## The two lists -/

section

variable {t : Text} {v : Json} {w : World}

lemma Episode.ends_loadList_iff (hread : w.files.read Episode.listFile = .ok t) :
    Ends Episode.loadList w v w ↔ Json.parse t = .ok v := by
  have hthere : Ends (fileExists Episode.listFile) w true w :=
    ends_fileExists.2 ⟨Files.present_of_read hread, rfl⟩
  have htext : Ends (readFile Episode.listFile) w t w := ends_readFile.2 ⟨hread, rfl⟩
  rw [Ends, Episode.loadList, hthere.outcome_bind, if_pos rfl, htext.outcome_bind]
  exact ends_lift.trans (and_iff_left rfl)

lemma Film.ends_storedList?_iff (hread : w.files.read Film.listFile = .ok t) :
    Ends Film.storedList? w (some v) w ↔ Json.parse t = .ok v := by
  have hthere : Ends (fileExists Film.listFile) w true w :=
    ends_fileExists.2 ⟨Files.present_of_read hread, rfl⟩
  have htext : Ends (readFile Film.listFile) w t w := ends_readFile.2 ⟨hread, rfl⟩
  rw [Ends, Film.storedList?, hthere.outcome_bind, if_pos rfl, htext.outcome_bind]
  cases Json.parse t with
  | error f => exact iff_of_false nofun nofun
  | ok u => exact ⟨fun h => by cases h; rfl, fun h => by cases h; rfl⟩

lemma Film.ends_storedList? (hread : w.files.read Film.listFile = .ok t)
    (hparse : Json.parse t = .ok v) : Ends Film.storedList? w (some v) w :=
  (Film.ends_storedList?_iff hread).2 hparse

lemma Film.ends_loadList_iff (hread : w.files.read Film.listFile = .ok t) :
    Ends Film.loadList w v w ↔ Json.parse t = .ok v := by
  rw [← Film.ends_storedList?_iff hread, Film.loadList, ends_bind]
  constructor
  · rintro ⟨stored, w₁, hstored, h⟩
    cases stored with
    | none => exact absurd h not_ends_fail
    | some u =>
        obtain ⟨rfl, rfl⟩ := ends_pure.1 h
        exact hstored
  · exact fun hstored => ⟨some v, w, hstored, ends_pure.2 ⟨rfl, rfl⟩⟩

lemma Film.ends_loadList (hread : w.files.read Film.listFile = .ok t)
    (hparse : Json.parse t = .ok v) : Ends Film.loadList w v w :=
  (Film.ends_loadList_iff hread).2 hparse

end

/-- **Stored lists are loaded again as they were exactly if there is room for them.**  Let a value
have integers of at most as many digits as are read, numbers in their one form and no name twice in
an object.  Wherever there is a place for the list of episodes, saving the value there succeeds,
loading gives it back and the file holds ASCII only exactly if its arrays and objects lie no deeper
inside each other than the reader of the platform goes; the same is true of the list of films and
both of its loaders. -/
theorem lists_reloaded_iff {v : Json}
    (hvalue : Json.Readable { Json.lenient with maxDepth := none } 0 v) (hexact : Json.Exact v)
    (w : World) :
    (w.files.HasPlaceFor Episode.folder Episode.listFile →
      (Reloaded (Episode.saveList v) Episode.loadList v Episode.listFile w ↔
        v.nesting ≤ Platform.readRoom)) ∧
    (w.files.HasPlaceFor Film.folder Film.listFile →
      (Reloaded (Film.saveList v) Film.loadList v Film.listFile w ↔
        v.nesting ≤ Platform.readRoom) ∧
      (Reloaded (Film.saveList v) Film.storedList? (some v) Film.listFile w ↔
        v.nesting ≤ Platform.readRoom)) := by
  refine ⟨fun hplace => ?_, fun hplace => ⟨?_, ?_⟩⟩
  · exact reloaded_iff (by decide) (by decide) (by decide) (by decide) (by decide) hplace hvalue
      hexact fun _ _ => Episode.ends_loadList_iff
  · exact reloaded_iff (by decide) (by decide) (by decide) (by decide) (by decide) hplace hvalue
      hexact fun _ _ => Film.ends_loadList_iff
  · exact reloaded_iff (by decide) (by decide) (by decide) (by decide) (by decide) hplace hvalue
      hexact fun _ _ => Film.ends_storedList?_iff

end

/-- A world with the folders of both collectors and no files. -/
def emptyWorld : World :=
  { Episode.sampleWorld with files := ⟨[Episode.folder, Film.folder], []⟩ }

/-- An object with a name that needs every kind of escape, and with numbers of every kind. -/
def sampleValue : Json :=
  .obj [("q\"\\\n\x01é😀", .arr [.real (.finite true 7205759403792794 (-56)), .int (-12), .null]),
    ([], .real (.infinite true)), (['0'], .obj [])]

/-- One tenth, an infinite number and characters of all planes are stored and loaded again. -/
theorem lists_reloaded_sample :
    (Json.Readable { Json.lenient with maxDepth := none } 0 sampleValue ∧
      Json.Exact sampleValue) ∧
    sampleValue.nesting = 2 ∧
    Reloaded (Episode.saveList sampleValue) Episode.loadList sampleValue Episode.listFile
      emptyWorld ∧
    Reloaded (Film.saveList sampleValue) Film.loadList sampleValue Film.listFile emptyWorld ∧
    Reloaded (Film.saveList sampleValue) Film.storedList? (some sampleValue) Film.listFile
      emptyWorld := by
  have hvalue : Json.Readable { Json.lenient with maxDepth := none } 0 sampleValue := by
    refine .obj rfl (by decide) ?_
    simp only [List.forall_mem_cons, List.not_mem_nil, false_imp_iff, implies_true, and_true]
    refine ⟨.arr rfl ?_, .real _, .obj rfl (by decide) (by simp)⟩
    simp only [List.forall_mem_cons, List.not_mem_nil, false_imp_iff, implies_true, and_true]
    exact ⟨.real _, .int (by decide), .null⟩
  have hexact : Json.Exact sampleValue := by
    refine .obj ?_
    simp only [List.forall_mem_cons, List.not_mem_nil, false_imp_iff, implies_true, and_true]
    refine ⟨.arr ?_, .real trivial, .obj (by simp)⟩
    simp only [List.forall_mem_cons, List.not_mem_nil, false_imp_iff, implies_true, and_true]
    exact ⟨.real ⟨by decide, by decide, by decide, .inl (by decide)⟩, .int _, .null⟩
  have hnesting : sampleValue.nesting = 2 := rfl
  have hroom : sampleValue.nesting ≤ Platform.readRoom := hnesting ▸ Platform.two_le_readRoom
  obtain ⟨hepisodes, hfilms⟩ := lists_reloaded_iff hvalue hexact emptyWorld
  exact ⟨⟨hvalue, hexact⟩, hnesting, (hepisodes ⟨by decide, by decide⟩).2 hroom,
    (hfilms ⟨by decide, by decide⟩).1.2 hroom, (hfilms ⟨by decide, by decide⟩).2.2 hroom⟩

/-! ## Values that lie too deep -/

/-- An empty array inside `n` others. -/
def Json.nested : Nat → Json
  | 0 => .arr []
  | n + 1 => .arr [nested n]

lemma Json.nesting_nested (n : Nat) : (nested n).nesting = n + 1 := by
  induction n with
  | zero => rfl
  | succ n ih => rw [nested, nesting, nestingOfItems, nestingOfItems, ih, Nat.max_zero]

lemma Json.exact_nested (n : Nat) : Json.Exact (nested n) := by
  induction n with
  | zero => exact .arr (by simp)
  | succ n ih => exact .arr (List.forall_mem_singleton.2 ih)

lemma Json.readable_nested {dialect : Json.Dialect} (hdepth : dialect.maxDepth = none) (n : Nat) :
    ∀ depth, Json.Readable dialect depth (nested n) := by
  have hroom : ∀ depth, dialect.hasRoom depth = true := by
    intro depth
    rw [Json.Dialect.hasRoom, hdepth]
  induction n with
  | zero => exact fun depth => .arr (hroom depth) (by simp)
  | succ n ih =>
      exact fun depth => .arr (hroom depth) (List.forall_mem_singleton.2 (ih (depth + 1)))

/-- **Values that lie too deep are not loaded again.**  An array inside 1500 others is nothing but
deep.  There is a place for it, and still saving stops and leaves no more than the beginning of its
text in the file, which is not loaded as what was to be saved. -/
theorem nested_not_reloaded :
    Json.Exact (Json.nested 1500) ∧
    Json.Readable { Json.lenient with maxDepth := none } 0 (Json.nested 1500) ∧
    emptyWorld.files.HasPlaceFor Episode.folder Episode.listFile ∧
    (∃ w₁ t, outcome (Episode.saveList (Json.nested 1500)) emptyWorld =
        (.error (.fault .deepValue), w₁) ∧
      w₁.files.content? Episode.listFile = some t ∧
      t <+: Json.write Json.stored (Json.nested 1500)) ∧
    ¬Reloaded (Episode.saveList (Json.nested 1500)) Episode.loadList (Json.nested 1500)
      Episode.listFile emptyWorld := by
  have hplace : emptyWorld.files.HasPlaceFor Episode.folder Episode.listFile :=
    ⟨by decide, by decide⟩
  have hdeep : Platform.writeRoom < (Json.nested 1500).nesting := by
    rw [Json.nesting_nested]
    decide
  obtain ⟨w₁, t, hstop, hleft⟩ := stops_storeValue (by decide) (by decide) (by decide) (by decide)
    (by decide) hplace hdeep
  refine ⟨Json.exact_nested _, Json.readable_nested rfl _ 0, hplace, ⟨w₁, t, hstop, hleft⟩, ?_⟩
  rintro ⟨w₂, _, hsave, -⟩
  have heq := hstop.symm.trans hsave
  cases heq

end Gleaner
