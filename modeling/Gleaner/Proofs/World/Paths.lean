import Gleaner.Proofs.Text.Parts
import Gleaner.Proofs.World.Files

/-!
# Names in a folder

The programs keep their files in one folder each, so the paths they use have two parts: the name of
the folder and a name in it (`Path.join`).  For such paths the walk over the files is known.

**Where they lead.**  If the folder is there and the name is not too long, the path leads to a
folder, a file or a free name under exactly this path (`resolve_join`).  Whoever follows such a path
to its end has found the folder (`isFolder_of_resolve_join`).

**Whether something is there.**  A name of at most 255 bytes can be asked for in any files
(`exists_present_join`).  A longer one is a fault as soon as the folder is there
(`present_join_of_long`).

**Writing.**  A file that is written under such a path is the only one that changes
(`content?_of_write_join`), so that every other path leads where it led (`read_of_write_ne`).

**From the root.**  A path of any number of names that begins at the root leads to itself too
(`path?_of_resolve_root`).  If the folders on its way are there, then it is known where it leads
(`resolve_root`) and whether a file can be written there (`isOk_write_root_iff`).  Where every
folder lies in folders, making the last one is all that is needed for this (`isFolder_makeFolder`).

**Parts.**  The folder and the name are read off such a path again (`parent_join`, `name_join`), and
the name can be given another suffix (`withSuffix_join`).
-/

namespace Gleaner.Path

/-- A part of a path that leads one step down. -/
structure IsName (t : Text) : Prop where
  ne_nil : t ≠ []
  noStroke : '/' ∉ t
  ne_dot : t ≠ ['.']
  ne_up : t ≠ ['.', '.']

instance (t : Text) : Decidable (IsName t) :=
  decidable_of_iff (t ≠ [] ∧ '/' ∉ t ∧ t ≠ ['.'] ∧ t ≠ ['.', '.'])
    ⟨fun ⟨h₁, h₂, h₃, h₄⟩ => ⟨h₁, h₂, h₃, h₄⟩, fun ⟨h₁, h₂, h₃, h₄⟩ => ⟨h₁, h₂, h₃, h₄⟩⟩

/-- A text with a long ending is a name if it has no stroke. -/
lemma isName_of_length {t : Text} (hlength : 2 < t.length) (hstroke : '/' ∉ t) : IsName t where
  ne_nil := by
    rintro rfl
    simp at hlength
  noStroke := hstroke
  ne_dot := by
    rintro rfl
    simp at hlength
  ne_up := by
    rintro rfl
    simp at hlength

lemma byteLength_eq_sum (t : Text) : byteLength t = (t.map Char.utf8Size).sum := by
  have hfoldl : ∀ n, t.foldl (fun n c => n + c.utf8Size) n = n + (t.map Char.utf8Size).sum := by
    induction t with
    | nil => simp
    | cons c t ih =>
        intro n
        rw [List.foldl_cons, ih, List.map_cons, List.sum_cons, Nat.add_assoc]
  rw [byteLength, hfoldl, Nat.zero_add]

lemma byteLength_append (s t : Text) : byteLength (s ++ t) = byteLength s + byteLength t := by
  simp only [byteLength_eq_sum, List.map_append, List.sum_append]

lemma byteLength_map {f : Char → Char} (hf : ∀ c, (f c).utf8Size = c.utf8Size) (t : Text) :
    byteLength (t.map f) = byteLength t := by
  have hsize : Char.utf8Size ∘ f = Char.utf8Size := funext hf
  rw [byteLength_eq_sum, byteLength_eq_sum, List.map_map, hsize]

/-- A text has as many bytes as characters if each of them has one. -/
lemma byteLength_eq_length {t : Text} (h : ∀ c ∈ t, c.utf8Size = 1) : byteLength t = t.length := by
  rw [byteLength_eq_sum, List.map_congr_left h, List.map_const', List.sum_replicate, smul_eq_mul,
    Nat.mul_one]

lemma byteLength_le_mul_length {t : Text} {k : Nat} (h : ∀ c ∈ t, c.utf8Size ≤ k) :
    byteLength t ≤ t.length * k := by
  rw [byteLength_eq_sum]
  have hsum := List.sum_le_card_nsmul (t.map Char.utf8Size) k (by simpa using h)
  rwa [List.length_map, smul_eq_mul] at hsum

section

variable {folder name : Text}

lemma join_eq (hfolder : folder ≠ []) : join folder name = folder ++ '/' :: name := by
  rw [join, if_neg (by simpa using hfolder)]

lemma join_ne_nil (hfolder : folder ≠ []) : join folder name ≠ [] := by
  rw [join_eq hfolder]
  simp

lemma join_injective (hfolder : folder ≠ []) : Function.Injective (join folder) := by
  intro a b h
  rw [join_eq hfolder, join_eq hfolder] at h
  exact (List.cons.inj (List.append_cancel_left h)).2

lemma parts_join_of_notMem (hfolder : IsName folder) (hname : '/' ∉ name) :
    parts (join folder name) = [folder, name] := by
  rw [parts, join_eq hfolder.ne_nil, Text.splitOn_append_sep hfolder.noStroke,
    Text.splitOn_of_not_mem hname]

lemma parts_join (hfolder : IsName folder) (hname : IsName name) :
    parts (join folder name) = [folder, name] :=
  parts_join_of_notMem hfolder hname.noStroke

lemma byteLength_join (hfolder : folder ≠ []) :
    byteLength (join folder name) = byteLength folder + 1 + byteLength name := by
  have hstroke : byteLength ('/' :: name) = 1 + byteLength name := by
    rw [← List.singleton_append, byteLength_append]
    rfl
  rw [join_eq hfolder, byteLength_append, hstroke, Nat.add_assoc]

lemma name_join (hfolder : IsName folder) (hname : '/' ∉ name) :
    Path.name (join folder name) = name := by
  have hdot : join folder name ≠ ['.'] := by
    intro h
    have hmem : '/' ∈ join folder name := by simp [join_eq hfolder.ne_nil]
    rw [h] at hmem
    simp at hmem
  rw [Path.name, parts_join_of_notMem hfolder hname, if_neg hdot]
  rfl

/-- A name in a folder is the last part. -/
lemma parts_join_eq_append (hfolder : folder ≠ []) (hname : '/' ∉ name) :
    parts (join folder name) = parts folder ++ [name] := by
  rw [parts, join_eq hfolder, Text.splitOn_append_cons, Text.splitOn_of_not_mem hname, parts]

lemma parent_join_of_ne_nil (hfolder : folder ≠ []) (hname : '/' ∉ name) :
    parent (join folder name) = folder := by
  rw [parent, parts_join_eq_append hfolder hname, List.dropLast_concat, parts, Text.join_splitOn]

lemma parent_join (hfolder : IsName folder) (hname : '/' ∉ name) :
    parent (join folder name) = folder :=
  parent_join_of_ne_nil hfolder.ne_nil hname

/-- The folders on the way to a path, and the path itself, are joined from its first parts. -/
lemma join_take_mem_above {path : Text} {k : Nat} (hpos : 0 < k) (hle : k ≤ (parts path).length) :
    Text.join ['/'] ((parts path).take k) ∈ above path ∨
      Text.join ['/'] ((parts path).take k) = path := by
  rcases hle.lt_or_eq with hlt | rfl
  · refine .inl (List.mem_map.2 ⟨k - 1, ?_, ?_⟩)
    · rw [List.mem_range, List.length_dropLast]
      omega
    · rw [Nat.sub_add_cancel hpos, List.dropLast_eq_take, List.take_take,
        Nat.min_eq_left (by omega)]
  · rw [List.take_length, parts, Text.join_splitOn]
    exact .inr rfl

/-- A path whose folder has one name is a name in this folder. -/
lemma exists_join_of_parent (hfolder : IsName folder) {path : Text} (h : parent path = folder) :
    ∃ name, '/' ∉ name ∧ path = join folder name := by
  obtain ⟨front, name, hparts⟩ := (List.eq_nil_or_concat' (parts path)).resolve_left
    (Text.splitOn_ne_nil '/' path)
  have hpiece : ∀ p ∈ parts path, '/' ∉ p := fun p hp => Text.not_mem_of_mem_splitOn hp
  rw [parent, hparts, List.dropLast_concat] at h
  have hfront : front = [folder] := by
    rw [← Text.splitOn_of_not_mem hfolder.noStroke, ← h]
    refine (Text.splitOn_join ?_ fun p hp => hpiece p (by simp [hparts, hp])).symm
    rintro rfl
    exact hfolder.ne_nil h.symm
  refine ⟨name, hpiece name (by simp [hparts]), ?_⟩
  rw [← Text.join_splitOn '/' path, ← parts, hparts, hfront, join_eq hfolder.ne_nil]
  simp [Text.join]

/-- A name is split at its last point, if something stands before and after it. -/
lemma splitSuffix_append {t ending : Text} (ht : t ≠ []) (hne : ending ≠ [])
    (hending : '.' ∉ ending) :
    splitSuffix (t ++ '.' :: ending) = (t, '.' :: ending) := by
  rw [splitSuffix, Text.lastIndexOf?_append hending]
  have hlength : 0 < t.length ∧ t.length + 1 < (t ++ '.' :: ending).length := by
    have := List.length_pos_iff.2 ht
    have := List.length_pos_iff.2 hne
    simp only [List.length_append, List.length_cons]
    omega
  simp only [if_pos hlength, List.take_left, List.drop_left]

/-- A name that begins with its last point has no suffix. -/
lemma splitSuffix_dot {ending : Text} (hending : '.' ∉ ending) :
    splitSuffix ('.' :: ending) = ('.' :: ending, []) := by
  have h := Text.lastIndexOf?_append hending []
  rw [List.nil_append] at h
  rw [splitSuffix, h]
  rfl

/-- A name in a folder gets another suffix. -/
lemma withSuffix_join (hfolder : IsName folder) (hname : '/' ∉ name) (suffix : Text) :
    withSuffix (join folder name) suffix = join folder ((splitSuffix name).1 ++ suffix) := by
  rw [withSuffix, parent_join hfolder hname, stem, name_join hfolder hname]

end

end Gleaner.Path

namespace Gleaner.Files

open Gleaner.Path

/-! ## Where a name in a folder leads -/

section

variable {fs fs' : Files} {folder name : Text}

lemma isFolderAt_singleton (hfolder : IsName folder) :
    fs.isFolderAt [folder] = fs.isFolder folder := by
  simp [isFolderAt, hfolder.ne_up, hfolder.ne_nil, Text.join]

lemma isFolderAt_pair (hfolder : IsName folder) :
    fs.isFolderAt [folder, name] = fs.isFolder (join folder name) := by
  simp [isFolderAt, hfolder.ne_up, Text.join, join_eq hfolder.ne_nil]

lemma resolve_join_eq_walk (hfolder : IsName folder) (hname : IsName name)
    (hlength : byteLength (join folder name) ≤ maxPath) :
    fs.resolve (join folder name) = fs.walk (join folder name) [] [folder, name] := by
  unfold resolve
  rw [if_neg (by simpa using join_ne_nil hfolder.ne_nil), if_neg (by omega),
    parts_join hfolder hname]
  split
  case h_1 rest hrest => exact absurd (List.cons.inj hrest).1 hfolder.ne_nil
  case h_2 => rfl

/-- The step into the folder. -/
lemma walk_join (hfolder : IsName folder) (hshort : byteLength folder ≤ maxPart) (path : Text)
    (rest : List Text) (hthere : fs.isFolder folder = true) :
    fs.walk path [] (folder :: rest) = fs.walk path [folder] rest := by
  rw [walk, if_neg (by simp [hfolder.ne_nil, hfolder.ne_dot]), if_neg hfolder.ne_up,
    if_neg (by omega), List.nil_append, if_pos (by rw [isFolderAt_singleton hfolder, hthere])]

/-- The step to the name. -/
lemma walk_name (hfolder : IsName folder) (hname : IsName name) (path : Text) :
    fs.walk path [folder] [name] =
      if maxPart < byteLength name then .error (.longName path)
      else .ok (if fs.isFolder (join folder name) then .folder
        else fs.look (.free (join folder name))) := by
  have hplace : Text.join ['/'] [folder, name] = join folder name := by
    simp [Text.join, join_eq hfolder.ne_nil]
  rw [walk, if_neg (by simp [hname.ne_nil, hname.ne_dot]), if_neg hname.ne_up,
    List.singleton_append, isFolderAt_pair hfolder, hplace]
  split_ifs with hlong hthere
  · rfl
  · rfl
  · dsimp only [look]
    cases fs.content? (join folder name) <;> rfl

/-- **A name in a folder that is there leads to what stands under its path**, unless it is too
long. -/
lemma resolve_join (hfolder : IsName folder) (hshort : byteLength folder ≤ maxPart)
    (hname : IsName name) (hthere : fs.isFolder folder = true) :
    fs.resolve (join folder name) =
      if maxPart < byteLength name then .error (.longName (join folder name))
      else .ok (if fs.isFolder (join folder name) then .folder
        else fs.look (.free (join folder name))) := by
  by_cases hlength : byteLength (join folder name) ≤ maxPath
  · rw [resolve_join_eq_walk hfolder hname hlength, walk_join hfolder hshort _ _ hthere,
      walk_name hfolder hname]
  · have hlong : maxPart < byteLength name := by
      rw [byteLength_join hfolder.ne_nil] at hlength
      simp only [maxPath, maxPart] at hlength hshort ⊢
      omega
    unfold resolve
    rw [if_neg (by simpa using join_ne_nil hfolder.ne_nil), if_pos (by omega), if_pos hlong]

/-- Whoever comes to the end of the path has found the folder. -/
lemma isFolder_of_resolve_join (hfolder : IsName folder) (hname : IsName name) {p : Place}
    (h : fs.resolve (join folder name) = .ok p) : fs.isFolder folder = true := by
  have hlength : byteLength (join folder name) ≤ maxPath := by
    by_contra hlong
    unfold resolve at h
    rw [if_neg (by simpa using join_ne_nil hfolder.ne_nil), if_pos (by omega)] at h
    cases h
  rw [resolve_join_eq_walk hfolder hname hlength, walk,
    if_neg (by simp [hfolder.ne_nil, hfolder.ne_dot]), if_neg hfolder.ne_up, List.nil_append,
    isFolderAt_singleton hfolder] at h
  split_ifs at h with hlong hthere
  · exact hthere
  · dsimp only at h
    split at h <;> simp_all

/-- The file that a name in a folder leads to has this path. -/
lemma path?_of_resolve_join (hfolder : IsName folder) (hshort : byteLength folder ≤ maxPart)
    (hname : IsName name) {p : Place} (h : fs.resolve (join folder name) = .ok p) {path : Text}
    (hpath : p.path? = some path) : path = join folder name := by
  rw [resolve_join hfolder hshort hname (isFolder_of_resolve_join hfolder hname h)] at h
  split_ifs at h with hlong hthere
  · cases h
    cases hpath
  · cases h
    rw [look] at hpath
    split at hpath <;> exact (Option.some.inj hpath).symm

/-- What is read under a name in a folder is the file with this path. -/
lemma content?_of_read_join (hfolder : IsName folder) (hshort : byteLength folder ≤ maxPart)
    (hname : IsName name) {t : Text} (h : fs.read (join folder name) = .ok t) :
    ∃ content, fs.content? (join folder name) = some content ∧ t = readLines content := by
  obtain ⟨-, path, content, hres, rfl⟩ := read_eq_ok_iff.1 h
  obtain rfl := path?_of_resolve_join hfolder hshort hname hres rfl
  exact ⟨content, content?_of_resolve hres, rfl⟩

/-! ## Whether something is there -/

/-- A walk over short parts does not find one of them too long. -/
lemma walk_ne_longName (fs : Files) (path : Text) {parts : List Text}
    (hparts : ∀ q ∈ parts, byteLength q ≤ maxPart) :
    ∀ place p, fs.walk path place parts ≠ .error (.longName p) := by
  induction parts with
  | nil =>
      intro place p h
      cases h
  | cons part rest ih =>
      have hrest := ih fun q hq => hparts q (by simp [hq])
      have hpart := hparts part (by simp)
      intro place p h
      rw [walk] at h
      split_ifs at h with hdot hup hlong hfolder
      · exact hrest _ p h
      · exact hrest _ p h
      · omega
      · exact hrest _ p h
      · dsimp only at h
        split at h <;> cases h

/-- **A short name can be asked for**, whatever the files are. -/
lemma exists_present_join (hfolder : IsName folder) (hshort : byteLength folder ≤ maxPart)
    (hname : IsName name) (hlength : byteLength name ≤ maxPart) :
    ∃ b, fs.present (join folder name) = .ok b := by
  have hpath : byteLength (join folder name) ≤ maxPath := by
    rw [byteLength_join hfolder.ne_nil]
    simp only [maxPath, maxPart] at hshort hlength ⊢
    omega
  have hparts : ∀ q ∈ [folder, name], byteLength q ≤ maxPart := by simp [hshort, hlength]
  have hwalk := walk_ne_longName fs (join folder name) hparts []
  rw [← resolve_join_eq_walk hfolder hname hpath] at hwalk
  unfold present
  split_ifs
  · exact ⟨false, rfl⟩
  · split
    · exact ⟨false, rfl⟩
    · exact ⟨true, rfl⟩
    · exact absurd ‹_› (hwalk _)
    · exact ⟨false, rfl⟩

/-- No file has the path of a name that is not there. -/
lemma content?_of_present_join (hfolder : IsName folder) (hshort : byteLength folder ≤ maxPart)
    (hname : IsName name) (hthere : fs.isFolder folder = true)
    (hnull : List.contains (join folder name) '\x00' = false)
    (h : fs.present (join folder name) = .ok false) : fs.content? (join folder name) = none := by
  unfold present at h
  rw [hnull, if_neg (by decide), resolve_join hfolder hshort hname hthere, look] at h
  cases hcontent : fs.content? (join folder name) with
  | none => rfl
  | some content =>
      rw [hcontent] at h
      split_ifs at h <;> cases h

/-! ## Writing -/

/-- A file can be written where a path leads to a file or a free name. -/
lemma exists_write {path : Text} (hnull : List.contains path '\x00' = false) {p : Place}
    (hres : fs.resolve path = .ok p) (hpath : p.path?.isSome = true) (content : Text) :
    ∃ fs', fs.write path content = .ok fs' := by
  unfold write
  rw [hnull, if_neg (by decide), hres]
  cases p with
  | folder => cases hpath
  | file n old => exact ⟨_, rfl⟩
  | free n => exact ⟨_, rfl⟩

/-- A file under a short name can be written in a folder that is there. -/
lemma exists_write_join (hfolder : IsName folder) (hshort : byteLength folder ≤ maxPart)
    (hname : IsName name) (hlength : byteLength name ≤ maxPart)
    (hnull : List.contains (join folder name) '\x00' = false)
    (hthere : fs.isFolder folder = true) (hfree : fs.isFolder (join folder name) = false)
    (content : Text) : ∃ fs', fs.write (join folder name) content = .ok fs' := by
  have hres := resolve_join hfolder hshort hname hthere
  rw [if_neg (by omega), hfree, if_neg (by decide)] at hres
  refine exists_write hnull hres ?_ content
  rw [look]
  split <;> rfl

/-- A file can be written in a folder that is there, under a short name that is not. -/
lemma exists_write_of_absent (hfolder : IsName folder) (hshort : byteLength folder ≤ maxPart)
    (hname : IsName name) (hlength : byteLength name ≤ maxPart)
    (hnull : List.contains (join folder name) '\x00' = false)
    (hthere : fs.isFolder folder = true) (h : fs.present (join folder name) = .ok false)
    (content : Text) : ∃ fs', fs.write (join folder name) content = .ok fs' := by
  refine exists_write_join hfolder hshort hname hlength hnull hthere ?_ content
  by_contra hisFolder
  rw [Bool.not_eq_false] at hisFolder
  unfold present at h
  rw [hnull, if_neg (by decide), resolve_join hfolder hshort hname hthere, if_neg (by omega),
    if_pos hisFolder] at h
  cases h

/-- A file under a name in a folder is written under its path. -/
lemma eq_of_write_join (hfolder : IsName folder) (hshort : byteLength folder ≤ maxPart)
    (hname : IsName name) {content : Text} (h : fs.write (join folder name) content = .ok fs') :
    fs' = { fs with contents := set (join folder name) content fs.contents } := by
  obtain ⟨-, p, path, hres, hpath, rfl⟩ := exists_of_write h
  rw [path?_of_resolve_join hfolder hshort hname hres hpath]

/-- **Writing changes one file.** -/
lemma content?_of_write_join (hfolder : IsName folder) (hshort : byteLength folder ≤ maxPart)
    (hname : IsName name) {content : Text} (h : fs.write (join folder name) content = .ok fs')
    (path : Text) :
    fs'.content? path = if path = join folder name then some content else fs.content? path := by
  rw [eq_of_write_join hfolder hshort hname h, content?, lookup_set]
  rfl

/-- A path leads where it led if the file at its end did not change. -/
lemma resolve_of_content?_eq (hfolders : fs'.folders = fs.folders) {path : Text} {p : Place}
    (hp : fs.resolve path = .ok p) (h : ∀ n ∈ p.path?, fs'.content? n = fs.content? n) :
    fs'.resolve path = .ok p := by
  have hlook := look_of_resolve hp
  rw [resolve_of_folders_eq hfolders hp]
  cases p with
  | folder => rfl
  | file n content =>
      rw [look, h n rfl]
      rw [look] at hlook
      rw [hlook]
  | free n =>
      rw [look, h n rfl]
      rw [look] at hlook
      rw [hlook]

/-- A file is read as before if neither it nor a folder has changed. -/
lemma read_of_content?_eq (hfolder : IsName folder) (hshort : byteLength folder ≤ maxPart)
    (hname : IsName name) (hfolders : fs'.folders = fs.folders)
    (hcontent : fs'.content? (join folder name) = fs.content? (join folder name)) {t : Text}
    (h : fs.read (join folder name) = .ok t) : fs'.read (join folder name) = .ok t := by
  obtain ⟨hnull, path, content, hres, rfl⟩ := read_eq_ok_iff.1 h
  refine read_eq_ok_iff.2 ⟨hnull, path, content, ?_, rfl⟩
  refine resolve_of_content?_eq hfolders hres fun n hn => ?_
  obtain rfl := path?_of_resolve_join hfolder hshort hname hres hn
  exact hcontent

/-- A file is read as before when another one in the folder was written. -/
lemma read_of_write_ne (hfolder : IsName folder) (hshort : byteLength folder ≤ maxPart)
    {name' : Text} (hname : IsName name) (hname' : IsName name') (hne : name' ≠ name)
    {content t : Text} (h : fs.write (join folder name) content = .ok fs')
    (ht : fs.read (join folder name') = .ok t) : fs'.read (join folder name') = .ok t := by
  refine read_of_content?_eq hfolder hshort hname' (Grows.of_write h).folders ?_ ht
  rw [content?_of_write_join hfolder hshort hname h,
    if_neg fun heq => hne (join_injective hfolder.ne_nil heq)]

/-! ## Names from the root -/

/-- A walk along names that ends at a file or a free name has gone all the way. -/
lemma path?_of_walk (path : Text) {parts : List Text} (hparts : ∀ q ∈ parts, IsName q) :
    ∀ {place : List Text} {p : Place} {n : Text}, fs.walk path place parts = .ok p →
      p.path? = some n → n = Text.join ['/'] (place ++ parts) := by
  induction parts with
  | nil =>
      intro place p n h hn
      cases h
      cases hn
  | cons q rest ih =>
      have hq := hparts q (by simp)
      have hrest := @ih fun q' hq' => hparts q' (by simp [hq'])
      intro place p n h hn
      rw [walk, if_neg (by simp [hq.ne_nil, hq.ne_dot]), if_neg hq.ne_up] at h
      split_ifs at h with hlong hfolder
      · rw [hrest h hn, List.append_assoc, List.singleton_append]
      · dsimp only at h
        split at h <;> cases h <;> exact (Option.some.inj hn).symm

/-- The file that a path of names from the root leads to has this path. -/
lemma path?_of_resolve_root {path : Text} {names : List Text} (hpath : parts path = [] :: names)
    (hnames : ∀ q ∈ names, IsName q) {p : Place} (h : fs.resolve path = .ok p) {n : Text}
    (hn : p.path? = some n) : n = path := by
  unfold resolve at h
  split_ifs at h
  rw [hpath] at h
  rw [path?_of_walk path hnames h hn, List.singleton_append, ← hpath, parts, Text.join_splitOn]

/-- A file under a path of names from the root is written under this path. -/
lemma content?_of_write_root {path : Text} {names : List Text} (hpath : parts path = [] :: names)
    (hnames : ∀ q ∈ names, IsName q) {content : Text} (h : fs.write path content = .ok fs')
    (p : Text) : fs'.content? p = if p = path then some content else fs.content? p := by
  obtain ⟨-, place, n, hres, hn, rfl⟩ := exists_of_write h
  rw [path?_of_resolve_root hpath hnames hres hn, content?, lookup_set]
  rfl

/-! ## Folders below the root -/

/-- Every folder lies in folders. -/
def Nested (fs : Files) : Prop :=
  ∀ path, fs.isFolder path = true → ∀ p ∈ above path, fs.isFolder p = true

/-- **Making a folder adds it and the folders on the way to it**, and no other folder. -/
lemma isFolder_makeFolder (hfs : fs.Nested) (h : fs.makeFolder folder = .ok fs') (p : Text) :
    fs'.isFolder p = true ↔ fs.isFolder p = true ∨ p ∈ above folder ∨ p = folder := by
  unfold makeFolder at h
  split_ifs at h with hthere
  · cases h
    refine ⟨.inl, ?_⟩
    rintro (hp | hp | rfl)
    · exact hp
    · exact hfs folder hthere p hp
    · exact hthere
  · split at h
    · cases h
    · cases h
      simp [isFolder, or_assoc]

/-- Along folders a walk comes to the end of them. -/
lemma walk_append (path : Text) (rest : List Text) :
    ∀ {names place : List Text}, (∀ q ∈ names, IsName q ∧ byteLength q ≤ maxPart) →
      (∀ i < names.length, fs.isFolderAt (place ++ names.take (i + 1)) = true) →
      fs.walk path place (names ++ rest) = fs.walk path (place ++ names) rest := by
  intro names
  induction names with
  | nil =>
      intro place _ _
      simp
  | cons q names ih =>
      intro place hnames hthere
      obtain ⟨hq, hshort⟩ := hnames q (by simp)
      have hfirst : fs.isFolderAt (place ++ [q]) = true := by simpa using hthere 0 (by simp)
      rw [List.cons_append, walk, if_neg (by simp [hq.ne_nil, hq.ne_dot]), if_neg hq.ne_up,
        if_neg (by omega), if_pos hfirst,
        ih (fun q' hq' => hnames q' (by simp [hq'])) fun i hi => ?_]
      · simp
      · simpa using hthere (i + 1) (by simpa using hi)

/-- Whether there is a folder at a place below the root depends on its path. -/
lemma isFolderAt_root {names : List Text} (hnames : names ≠ []) :
    fs.isFolderAt ([] :: names) = fs.isFolder (Text.join ['/'] ([] :: names)) := by
  simp [isFolderAt, hnames]

/-- The last step of a walk from the root. -/
lemma walk_last (hname : IsName name) (path : Text) (names : List Text) :
    fs.walk path ([] :: names) [name] =
      if maxPart < byteLength name then .error (.longName path)
      else .ok (if fs.isFolder (Text.join ['/'] ([] :: (names ++ [name]))) then .folder
        else fs.look (.free (Text.join ['/'] ([] :: (names ++ [name]))))) := by
  rw [walk, if_neg (by simp [hname.ne_nil, hname.ne_dot]), if_neg hname.ne_up, List.cons_append,
    isFolderAt_root (by simp)]
  generalize Text.join ['/'] ([] :: (names ++ [name])) = last
  split_ifs
  · rfl
  · rfl
  · dsimp only [look]
    cases fs.content? last <;> rfl

/-- **A name in a folder below the root leads to what stands under its path**, unless it is too
long. -/
lemma resolve_root {names : List Text} (hne : folder ≠ []) (hfolder : parts folder = [] :: names)
    (hnames : ∀ q ∈ names, IsName q ∧ byteLength q ≤ maxPart)
    (hlength : byteLength folder + 1 + maxPart ≤ maxPath) (hname : IsName name)
    (hway : ∀ p, p ∈ above folder ∨ p = folder → fs.isFolder p = true) :
    fs.resolve (join folder name) =
      if maxPart < byteLength name then .error (.longName (join folder name))
      else .ok (if fs.isFolder (join folder name) then .folder
        else fs.look (.free (join folder name))) := by
  have hparts : parts (join folder name) = [] :: (names ++ [name]) := by
    rw [parts_join_eq_append hne hname.noStroke, hfolder, List.cons_append]
  have hjoin : Text.join ['/'] ([] :: (names ++ [name])) = join folder name := by
    rw [← hparts, parts, Text.join_splitOn]
  have hthere : ∀ i < names.length, fs.isFolderAt ([[]] ++ names.take (i + 1)) = true := by
    intro i hi
    have hfound := hway _ (join_take_mem_above (k := i + 2) (by omega)
      (by rw [hfolder, List.length_cons]; omega))
    rw [hfolder, List.take_succ_cons] at hfound
    have htake : names.take (i + 1) ≠ [] := by simpa using List.ne_nil_of_length_pos (by omega)
    rw [List.singleton_append, isFolderAt_root htake, hfound]
  unfold resolve
  rw [if_neg (by simpa using join_ne_nil hne), byteLength_join hne, hparts]
  by_cases hlong : maxPath < byteLength folder + 1 + byteLength name
  · rw [if_pos hlong, if_pos (by omega)]
  · rw [if_neg hlong]
    dsimp only
    rw [walk_append _ _ hnames hthere, List.singleton_append, walk_last hname, hjoin]

/-- A file can be written under a short name that no folder has. -/
lemma isOk_write_root_iff {names : List Text} (hne : folder ≠ [])
    (hfolder : parts folder = [] :: names)
    (hnames : ∀ q ∈ names, IsName q ∧ byteLength q ≤ maxPart)
    (hlength : byteLength folder + 1 + maxPart ≤ maxPath) (hname : IsName name)
    (hway : ∀ p, p ∈ above folder ∨ p = folder → fs.isFolder p = true) {content : Text} :
    (fs.write (join folder name) content).isOk = true ↔
      List.contains (join folder name) '\x00' = false ∧ byteLength name ≤ maxPart ∧
        fs.isFolder (join folder name) = false := by
  rw [isOk_write_iff, resolve_root hne hfolder hnames hlength hname hway]
  refine and_congr_right fun _ => ?_
  by_cases hlong : maxPart < byteLength name
  · simp [if_pos hlong, Nat.not_le.2 hlong]
  · cases hthere : fs.isFolder (join folder name) with
    | true => simp [if_neg hlong, Place.path?]
    | false =>
        cases hcontent : fs.content? (join folder name) <;>
          simp [if_neg hlong, Nat.not_lt.1 hlong, look, hcontent, Place.path?]

end

end Gleaner.Files
