import Gleaner.Proofs.Article.Saving

/-!
# Which articles get a file

A file name holds 255 bytes at most.  The collector cuts a title after a hundred characters, and a
character has up to four bytes; so the cut keeps the names of some titles short enough and not those
of others.  Which ones is known to the byte (`stored_iff_name_fits`).

**Bytes.**  The characters that are replaced in a title and the one that replaces them have one byte
each, and so have digits.  Hence the stamp counts with its digits and the title with the bytes of
its first hundred characters (`byteLength_fileName`).

**Files.**  Once the folder of the collection is made, the file of an article can be written exactly
if its name is short enough, has no null character and is not that of a folder
(`isOk_write_article_iff`).  A run then stores the text or drops it
(`stored_or_dropped`); a text that no file can hold leaves an empty file.
-/

namespace Gleaner.Article

/-! ## Bytes of a name -/

lemma utf8Size_of_isDigit {c : Char} (h : c.isDigit = true) : c.utf8Size = 1 := by
  rw [Char.isDigit, Bool.and_eq_true, decide_eq_true_eq, decide_eq_true_eq] at h
  exact Char.utf8Size_eq_one_iff.2 (UInt32.le_trans h.2 (by decide))

lemma utf8Size_of_isForbidden {c : Char} (h : isForbidden c = true) : c.utf8Size = 1 := by
  simp only [isForbidden, List.contains_iff_mem, List.mem_cons, List.not_mem_nil, or_false] at h
  rcases h with rfl | rfl | rfl | rfl | rfl | rfl | rfl | rfl | rfl <;> rfl

/-- A replaced character has as many bytes as the one that replaces it. -/
lemma byteLength_safeName (title : Text) :
    Path.byteLength (safeName title) = Path.byteLength title := by
  refine Path.byteLength_map (fun c => ?_) title
  split_ifs with hforbidden
  · rw [utf8Size_of_isForbidden hforbidden]
    rfl
  · rfl

lemma take_safeName (n : Nat) (title : Text) : (safeName title).take n = safeName (title.take n) :=
  List.map_take.symm

/-- **The bytes of a name** are the digits of the stamp, those of the title up to its hundredth
character, and four more. -/
lemma byteLength_fileName (m : Moment) (title : Text) :
    Path.byteLength (fileName m title) =
      (stamp m).length + Path.byteLength (title.take 100) + 4 := by
  have hstamp : Path.byteLength (stamp m) = (stamp m).length :=
    Path.byteLength_eq_length fun c hc => utf8Size_of_isDigit (allDigits_stamp m c hc)
  have hline : Path.byteLength "_".toList = 1 := by decide
  have hending : Path.byteLength ".md".toList = 3 := by decide
  simp only [fileName, Text.cat, List.flatten_cons, List.flatten_nil, List.append_nil,
    Path.byteLength_append, hstamp, hline, hending, take_safeName, byteLength_safeName]
  omega

lemma length_stamp_le {m : Moment} (h : OnClock m) (hyear : m.year ≤ 9999) :
    (stamp m).length ≤ 14 := by
  have hfour : (Text.ofNat m.year).length ≤ 4 :=
    (Nat.length_toDigits_le_iff (by decide) (by decide)).2 (by omega)
  rw [length_stamp h]
  omega

/-- Only the title can bring a null character into the path. -/
lemma null_mem_path_iff (m : Moment) (title : Text) :
    '\x00' ∈ Path.join folder (fileName m title) ↔ '\x00' ∈ title.take 100 := by
  have hfolder : '\x00' ∉ folder ++ ['/'] := by decide
  have hstamp : '\x00' ∉ stamp m := by
    intro hmem
    have hdigit := allDigits_stamp m _ hmem
    revert hdigit
    decide
  have hline : '\x00' ∉ "_".toList := by decide
  have hending : '\x00' ∉ ".md".toList := by decide
  have hsafe : ∀ t : Text, '\x00' ∈ safeName t ↔ '\x00' ∈ t := by
    intro t
    rw [safeName, List.mem_map]
    refine ⟨?_, fun hmem => ⟨_, hmem, rfl⟩⟩
    rintro ⟨c, hc, heq⟩
    split_ifs at heq
    · cases heq
    · exact heq ▸ hc
  rw [Path.join_eq folder_ne_nil, List.append_cons, List.mem_append, or_iff_right hfolder]
  simp only [fileName, Text.cat, List.flatten_cons, List.flatten_nil, List.append_nil,
    List.mem_append, hstamp, hline, hending, take_safeName, hsafe, false_or, or_false]

/-! ## Files of the collection -/

/-- The path of an article is longer than those of the folders on its way. -/
lemma path_ne_of_mem_above (m : Moment) (title : Text) {p : Text}
    (hp : p ∈ Path.above folder ∨ p = folder) : Path.join folder (fileName m title) ≠ p := by
  have hshort : ∀ q ∈ Path.above folder, q.length ≤ folder.length := by decide
  have hle : p.length ≤ folder.length := by
    rcases hp with hp | rfl
    · exact hshort p hp
    · exact le_rfl
  rintro rfl
  rw [Path.join_eq folder_ne_nil, List.length_append, List.length_cons] at hle
  omega

/-- **The file of an article can be written exactly if its name is short enough**, has no null
character and is not that of a folder. -/
lemma isOk_write_article_iff {fs made : Files} (hfs : fs.Nested)
    (hmake : fs.makeFolder folder = .ok made) (m : Moment) (title content : Text) :
    (made.write (Path.join folder (fileName m title)) content).isOk = true ↔
      '\x00' ∉ title.take 100 ∧ Path.byteLength (fileName m title) ≤ Path.maxPart ∧
        fs.isFolder (Path.join folder (fileName m title)) = false := by
  have hmade := Files.isFolder_makeFolder hfs hmake
  have hsame : made.isFolder (Path.join folder (fileName m title)) =
      fs.isFolder (Path.join folder (fileName m title)) := by
    rw [Bool.eq_iff_iff, hmade,
      or_iff_left fun hp => path_ne_of_mem_above m title hp rfl]
  rw [Files.isOk_write_root_iff folder_ne_nil parts_folder isName_folderNames (by decide)
    (isName_fileName m title) fun p hp => (hmade p).2 (.inr hp), hsame, ← null_mem_path_iff m,
    ← Bool.not_eq_true, List.contains_iff_mem]

/-! ## What is stored -/

section

variable [Platform]

section

variable (w : World) (content title : Text)

/-- A run that saves a text under a title. -/
def saving : Except Stop (Option Text) × World :=
  outcome (save (.str content) (.value (.str title))) w

/-- The run tells the path of the article.  The file there holds exactly the text, and no other one
has changed. -/
def Stored : Prop :=
  (saving w content title).1 = .ok (some (Path.join folder (fileName w.now title))) ∧
    ∀ p, (saving w content title).2.files.content? p =
      if p = Path.join folder (fileName w.now title) then some content else w.files.content? p

/-- The name of the article has few enough bytes. -/
def NameFits : Prop :=
  Path.byteLength (fileName w.now title) ≤ Path.maxPart

/-- What a title needs to become the name of a file. -/
def Placeable : Prop :=
  '\x00' ∉ title.take 100 ∧ NameFits w title ∧
    w.files.isFolder (Path.join folder (fileName w.now title)) = false ∧
    Platform.refusal (Path.join folder (fileName w.now title)) = none

/-- There is a place for the text, and a file can hold it. -/
def Storable : Prop :=
  Placeable w title ∧ Platform.refusal content = none

/-- The run tells no path.  Either there is no place for the text and no file has changed, or its
file is empty and no other one has changed. -/
def Dropped : Prop :=
  (saving w content title).1 = .ok none ∧
    (¬Placeable w title → (saving w content title).2.files.contents = w.files.contents) ∧
    (Placeable w title → ∀ p, (saving w content title).2.files.content? p =
      if p = Path.join folder (fileName w.now title) then some [] else w.files.content? p)

variable {w content title}

lemma Stored.not_dropped (h : Stored w content title) : ¬Dropped w content title := by
  intro hdropped
  have heq := h.1.symm.trans hdropped.1
  cases heq

/-- There is a place for a text exactly if its name is not refused and its file can be written. -/
lemma placeable_iff {made : Files} (hfiles : w.files.Nested)
    (hmake : w.files.makeFolder folder = .ok made) (text : Text) :
    Placeable w title ↔ Platform.refusal (Path.join folder (fileName w.now title)) = none ∧
      (made.write (Path.join folder (fileName w.now title)) text).isOk = true := by
  rw [isOk_write_article_iff hfiles hmake, Placeable, NameFits]
  tauto

/-- In a folder that is there a text is stored if it can be, and dropped if not. -/
lemma stored_or_dropped (content title : Text) (hfiles : w.files.Nested)
    (hfolder : ¬FolderBlocked w.files) :
    Stored w content title ∧ Storable w content title ∨
      Dropped w content title ∧ ¬Storable w content title := by
  rcases makeFolder_cases w.files with ⟨made, hmake, hmade, -⟩ | ⟨-, hblocked⟩
  · obtain ⟨w', hends, hattempted⟩ := exists_ends_save hmake title content
    have hiff : Placeable w title ↔ _ := placeable_iff hfiles hmake (Platform.held content)
    unfold Stored Dropped saving
    rw [hends]
    by_cases hplace : Placeable w title
    · obtain ⟨hpath, hok⟩ := hiff.1 hplace
      have hfile : ∀ p, w'.files.content? p =
          if p = Path.join folder (fileName w.now title) then some (Platform.held content)
          else w.files.content? p := by
        intro p
        rw [hattempted.content? hpath hok, Files.content?, hmade, Files.content?]
      by_cases hrefusal : Platform.refusal content = none
      · rw [held_of_refusal_eq_none hrefusal] at hfile
        exact .inl ⟨⟨congrArg Except.ok (if_pos ⟨hpath, hok, hrefusal⟩), hfile⟩, hplace, hrefusal⟩
      · have hheld : Platform.held content = [] := by
          rw [Platform.held, if_neg (by simpa using hrefusal)]
        rw [hheld] at hfile
        exact .inr ⟨⟨congrArg Except.ok (if_neg fun h => hrefusal h.2.2),
          fun h => absurd hplace h, fun _ => hfile⟩, fun h => hrefusal h.2⟩
    · have hnot := mt hiff.2 hplace
      refine .inr ⟨⟨congrArg Except.ok (if_neg fun h => hnot ⟨h.1, h.2.1⟩), fun _ => ?_,
        fun h => absurd h hplace⟩, fun h => hplace h.1⟩
      rw [hattempted.files_eq hnot, hmade]
  · exact absurd hblocked hfolder

/-- A folder that cannot be made stops the run. -/
lemma stops_of_folderBlocked (h : FolderBlocked w.files) :
    (∃ stop, (saving w content title).1 = .error stop) ∧
      (saving w content title).2.files = w.files := by
  rcases makeFolder_cases w.files with ⟨made, -, -, hfree⟩ | ⟨⟨f, hmake⟩, -⟩
  · exact absurd h hfree
  · unfold saving save
    rw [outcome_bind, outcome_ensureFolder, hmake]
    exact ⟨⟨_, rfl⟩, rfl⟩

omit [Platform] in
/-- On a clock whose year has four digits the title may have 237 bytes up to its hundredth
character. -/
lemma nameFits_iff (hclock : OnClock w.now) (hyear : 1000 ≤ w.now.year ∧ w.now.year ≤ 9999) :
    NameFits w title ↔ Path.byteLength (title.take 100) ≤ 237 := by
  have hstamp := (length_stamp_eq_iff hclock).2 hyear
  rw [NameFits, byteLength_fileName, hstamp, Path.maxPart]
  omega

omit [Platform] in
/-- A hundred characters of two bytes each always fit. -/
lemma nameFits_of_utf8Size_le (hclock : OnClock w.now) (hyear : w.now.year ≤ 9999)
    (htitle : ∀ c ∈ title, c.utf8Size ≤ 2) : NameFits w title := by
  have hstamp := length_stamp_le hclock hyear
  have hbytes : Path.byteLength (title.take 100) ≤ (title.take 100).length * 2 :=
    Path.byteLength_le_mul_length fun c hc => htitle c (List.mem_of_mem_take hc)
  have hlength := List.length_take_le 100 title
  rw [NameFits, byteLength_fileName, Path.maxPart]
  omega

end

/-- **A text is stored exactly if its name fits**, where nothing else stands in the way: no null
character in the part of the title that is used, no folder under the path, and no refusal of the
name or the text by the platform.  Otherwise it is dropped, and all that can be left of it is an
empty file.  Only a file in the place of the folder, or of one on the way to it, stops a run, and
then no file has changed.

A hundred characters of the title are used, however many bytes they have.  So on every clock up to
the year 9999 the names of titles whose characters have two bytes at most fit.  Others fit in a year
of four digits exactly if the part that is used has 237 bytes at most. -/
theorem stored_iff_name_fits (content title : Text) (w : World) (hfiles : w.files.Nested) :
    (FolderBlocked w.files → (∃ stop, (saving w content title).1 = .error stop) ∧
      (saving w content title).2.files = w.files) ∧
    (¬FolderBlocked w.files →
      (Stored w content title ↔ Storable w content title) ∧
      (Dropped w content title ↔ ¬Storable w content title)) ∧
    (OnClock w.now → w.now.year ≤ 9999 →
      ((∀ c ∈ title, c.utf8Size ≤ 2) → NameFits w title) ∧
      (1000 ≤ w.now.year →
        (NameFits w title ↔ Path.byteLength (title.take 100) ≤ 237))) := by
  refine ⟨stops_of_folderBlocked, fun hfolder => ?_, fun hclock hyear =>
    ⟨nameFits_of_utf8Size_le hclock hyear, fun hfour => nameFits_iff hclock ⟨hfour, hyear⟩⟩⟩
  rcases stored_or_dropped content title hfiles hfolder with
    ⟨hstored, hstorable⟩ | ⟨hdropped, hstorable⟩
  · exact ⟨iff_of_true hstored hstorable, iff_of_false hstored.not_dropped (not_not.2 hstorable)⟩
  · exact ⟨iff_of_false (fun hstored => hstored.not_dropped hdropped) hstorable,
      iff_of_true hdropped hstorable⟩

end

/-- A title of characters that have three bytes each. -/
def wideTitle (n : Nat) : Text :=
  List.replicate n '张'

section

variable (now : Moment)

lemma nested_sampleWorld : (sampleWorld now []).files.Nested := by
  intro path hpath
  have hnil : path = [] := by simpa [Files.isFolder, sampleWorld] using hpath
  subst hnil
  simp [Path.above, Path.parts, Text.splitOn]

lemma not_folderBlocked_sampleWorld : ¬FolderBlocked (sampleWorld now []).files := by
  rintro ⟨-, p, -, hfile⟩
  cases hfile

end

/-- A text under a title of 79 such characters is stored: its name has 255 bytes. -/
theorem stored_iff_name_fits_sample :
    let w := sampleWorld ⟨2026, 4, 11, 8, 53, 12⟩ []
    w.files.Nested ∧ ¬FolderBlocked w.files ∧ OnClock w.now ∧ Storable w "text" (wideTitle 79) ∧
      Path.byteLength (fileName w.now (wideTitle 79)) = 255 ∧ Stored w "text" (wideTitle 79) := by
  intro w
  have hnested : w.files.Nested := nested_sampleWorld _
  have hfolder : ¬FolderBlocked w.files := not_folderBlocked_sampleWorld _
  have hclock : OnClock w.now := by
    unfold OnClock
    decide
  obtain ⟨-, hstored, hyears⟩ := stored_iff_name_fits "text" (wideTitle 79) w hnested
  have hfits : NameFits w (wideTitle 79) :=
    ((hyears hclock (by decide)).2 (by decide)).2 (by decide +kernel)
  have hstorable : Storable w "text" (wideTitle 79) :=
    ⟨⟨by decide, hfits, by decide +kernel, rfl⟩, rfl⟩
  exact ⟨hnested, hfolder, hclock, hstorable, by decide +kernel, (hstored hfolder).1.2 hstorable⟩

/-- **Under a title of eighty such characters the text is dropped**, although the title has no null
character and nothing stands in the way: the name has 258 bytes. -/
theorem wide_title_dropped :
    let w := sampleWorld ⟨2026, 4, 11, 8, 53, 12⟩ []
    ¬FolderBlocked w.files ∧ '\x00' ∉ wideTitle 80 ∧
      w.files.isFolder (Path.join folder (fileName w.now (wideTitle 80))) = false ∧
      Path.byteLength (fileName w.now (wideTitle 80)) = 258 ∧
      Dropped w "text" (wideTitle 80) ∧
      (saving w "text" (wideTitle 80)).2.files.contents = w.files.contents := by
  intro w
  have hnested : w.files.Nested := nested_sampleWorld _
  have hfolder : ¬FolderBlocked w.files := not_folderBlocked_sampleWorld _
  have hbytes : Path.byteLength (fileName w.now (wideTitle 80)) = 258 := by decide +kernel
  have hlong : ¬Placeable w (wideTitle 80) := by
    rintro ⟨-, hfits, -⟩
    rw [NameFits, hbytes] at hfits
    revert hfits
    decide
  obtain ⟨-, hstorable⟩ | ⟨hdropped, -⟩ := stored_or_dropped "text" (wideTitle 80) hnested hfolder
  · exact absurd hstorable.1 hlong
  · exact ⟨hfolder, by decide, by decide +kernel, hbytes, hdropped, hdropped.2.1 hlong⟩

end Gleaner.Article
