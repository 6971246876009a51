import Gleaner.Proofs.World.Runs

/-!
# What writing a file does to the files

**Writing.**  A file that was written is there and holds what was written (`present_of_write`,
`read_of_write`), and nothing disappears (`Grows.of_write`).  Whether it can be written does not
depend on what files hold (`isWritable_congr`).

**Growing.**  `Grows fs fs'` says that `fs'` has the folders of `fs` and at least its files, their
contents apart.  What is present stays present (`Grows.present`).  `Growing` is the same of two
worlds; it is a preorder, so it holds of whole programs that write files and never remove one.

**Adding.**  Where every path that is written was free, the new files stand behind the old ones
(`adding`), and what is known of the old ones stays known (`content?_adding_of_notMem`,
`list_adding`).
-/

namespace Gleaner.Files

/-! ## Places -/

lemma lookup_cons_eq_ite (p q content : Text) (contents : List (Text × Text)) :
    ((q, content) :: contents).lookup p =
      if p = q then some content else contents.lookup p := by
  by_cases hp : p = q
  · simp [hp]
  · have hbeq : (p == q) = false := beq_eq_false_iff_ne.2 hp
    simp [List.lookup_cons, hbeq, hp]

lemma lookup_set (path content : Text) (contents : List (Text × Text)) (p : Text) :
    (set path content contents).lookup p =
      if p = path then some content else contents.lookup p := by
  induction contents with
  | nil => rw [set, lookup_cons_eq_ite]
  | cons f contents ih =>
      obtain ⟨q, old⟩ := f
      rw [set]
      by_cases hq : q = path
      · rw [if_pos hq, lookup_cons_eq_ite, lookup_cons_eq_ite, hq]
        split_ifs <;> rfl
      · rw [if_neg hq, lookup_cons_eq_ite, lookup_cons_eq_ite, ih]
        by_cases hp : p = q
        · rw [if_pos hp, if_pos hp, if_neg (fun h => hq (hp.symm.trans h))]
        · rw [if_neg hp, if_neg hp]

lemma lookup_filter (kept : Text → Bool) (contents : List (Text × Text)) (p : Text) :
    (contents.filter fun f => kept f.1).lookup p =
      if kept p = true then contents.lookup p else none := by
  induction contents with
  | nil => simp
  | cons f contents ih =>
      obtain ⟨q, content⟩ := f
      rw [List.filter_cons, lookup_cons_eq_ite]
      by_cases hp : p = q
      · subst hp
        by_cases hkept : kept p = true <;> simp [hkept, ih]
      · by_cases hq : kept q = true
        · rw [if_pos hq, lookup_cons_eq_ite, if_neg hp, if_neg hp, ih]
        · rw [if_neg hq, if_neg hp, ih]

/-- A file is there if its path is among those that have a content. -/
lemma isSome_content?_iff {fs : Files} {path : Text} :
    (fs.content? path).isSome = true ↔ path ∈ fs.contents.map Prod.fst := by
  rw [content?]
  induction fs.contents with
  | nil => simp
  | cons f contents ih =>
      obtain ⟨q, content⟩ := f
      rw [lookup_cons_eq_ite, List.map_cons, List.mem_cons, ← ih]
      split_ifs with hpath <;> simp [hpath]

/-- Whether there is something at a place. -/
def Place.isThere : Place → Bool
  | .free _ => false
  | _ => true

/-- The path of a file that is or could be at a place. -/
def Place.path? : Place → Option Text
  | .folder => none
  | .file path _ | .free path => some path

/-- Something is present where a path leads to a folder or a file. -/
lemma present_eq_true_iff {fs : Files} {path : Text} :
    fs.present path = .ok true ↔
      List.contains path '\x00' = false ∧ ∃ p, fs.resolve path = .ok p ∧ p.isThere = true := by
  unfold present
  by_cases hnull : List.contains path '\x00' = true
  · rw [if_pos hnull, hnull]
    simp
  · rw [if_neg hnull, Bool.eq_false_iff.2 hnull]
    rcases fs.resolve path with f | p
    · cases f <;> simp
    · cases p <;> simp [Place.isThere]

/-- A file is written where a path leads to a file or a free name. -/
lemma exists_of_write {fs fs' : Files} {path content : Text}
    (h : fs.write path content = .ok fs') :
    List.contains path '\x00' = false ∧ ∃ p name, fs.resolve path = .ok p ∧ p.path? = some name ∧
      fs' = { fs with contents := set name content fs.contents } := by
  unfold write at h
  by_cases hnull : List.contains path '\x00' = true
  · rw [if_pos hnull] at h
    cases h
  · rw [if_neg hnull] at h
    refine ⟨Bool.eq_false_iff.2 hnull, ?_⟩
    rcases hp : fs.resolve path with f | p
    · rw [hp] at h
      cases h
    · rw [hp] at h
      cases p with
      | folder => cases h
      | file name old =>
          cases h
          exact ⟨_, name, rfl, rfl, rfl⟩
      | free name =>
          cases h
          exact ⟨_, name, rfl, rfl, rfl⟩

/-- A file is read where a path leads to it. -/
lemma read_eq_ok_iff {fs : Files} {path t : Text} :
    fs.read path = .ok t ↔ List.contains path '\x00' = false ∧
      ∃ name content, fs.resolve path = .ok (.file name content) ∧ t = readLines content := by
  unfold read
  by_cases hnull : List.contains path '\x00' = true
  · rw [if_pos hnull, hnull]
    simp [bind, Except.bind, throw, throwThe, MonadExceptOf.throw]
  · rw [if_neg hnull, Bool.eq_false_iff.2 hnull]
    rcases fs.resolve path with f | p
    · simp [bind, Except.bind]
    · cases p <;> simp [bind, Except.bind, throw, throwThe, MonadExceptOf.throw, pure, Except.pure,
        eq_comm]

/-- A file that can be read is present. -/
lemma present_of_read {fs : Files} {path t : Text} (h : fs.read path = .ok t) :
    fs.present path = .ok true := by
  obtain ⟨hnull, name, content, hres, -⟩ := read_eq_ok_iff.1 h
  exact present_eq_true_iff.2 ⟨hnull, _, hres, rfl⟩

/-! ## Where paths lead after a change

Only the folders decide which way a path goes; the contents only matter at its end. -/

/-- What files have at a place that was found in others. -/
def look (fs : Files) : Place → Place
  | .folder => .folder
  | .file path _ | .free path =>
      match fs.content? path with
      | some content => .file path content
      | none => .free path

lemma isFolderAt_congr {fs fs' : Files} (h : fs'.folders = fs.folders) (place : List Text) :
    fs'.isFolderAt place = fs.isFolderAt place := by
  simp only [isFolderAt, isFolder, h]

lemma walk_of_folders_eq {fs fs' : Files} (h : fs'.folders = fs.folders) (path : Text) :
    ∀ (parts place : List Text) (p : Place), fs.walk path place parts = .ok p →
      fs'.walk path place parts = .ok (fs'.look p) := by
  intro parts
  induction parts with
  | nil =>
      intro place p hp
      cases hp
      rfl
  | cons part rest ih =>
      intro place p hp
      rw [walk] at hp ⊢
      rw [isFolderAt_congr h]
      split_ifs at hp ⊢ with hdot hup hlong hfolder
      · exact ih place p hp
      · exact ih (Path.up place) p hp
      · exact ih (place ++ [part]) p hp
      · -- the way ends here: at a file, or at a name that is free
        dsimp only at hp ⊢
        generalize Text.join ['/'] (place ++ [part]) = name at hp ⊢
        cases rest with
        | cons next rest =>
            cases hc : fs.content? name <;> simp [hc] at hp
        | nil =>
            obtain rfl : (match fs.content? name with
                | some content => Place.file name content
                | none => Place.free name) = p := by
              cases hc : fs.content? name <;> simpa [hc] using hp
            cases hc : fs.content? name <;> cases hc' : fs'.content? name <;> simp [look, hc']

lemma resolve_of_folders_eq {fs fs' : Files} (h : fs'.folders = fs.folders) {path : Text}
    {p : Place} (hp : fs.resolve path = .ok p) : fs'.resolve path = .ok (fs'.look p) := by
  unfold resolve at hp ⊢
  split_ifs at hp ⊢
  split at hp
  · exact walk_of_folders_eq h path _ _ p hp
  · exact walk_of_folders_eq h path _ _ p hp

/-- A path leads to what the files have at its end. -/
lemma look_of_resolve {fs : Files} {path : Text} {p : Place} (hp : fs.resolve path = .ok p) :
    fs.look p = p := by
  have := resolve_of_folders_eq rfl hp
  rw [hp] at this
  exact (Except.ok.inj this).symm

lemma content?_of_resolve {fs : Files} {path name content : Text}
    (h : fs.resolve path = .ok (.file name content)) : fs.content? name = some content := by
  have hlook := look_of_resolve h
  rw [look] at hlook
  split at hlook
  · cases hlook
    assumption
  · cases hlook

/-! ## Growing -/

/-- The same folders, and at least the same files, whatever they hold. -/
structure Grows (fs fs' : Files) : Prop where
  folders : fs'.folders = fs.folders
  contents : ∀ path, (fs.content? path).isSome = true → (fs'.content? path).isSome = true

lemma Grows.refl (fs : Files) : Grows fs fs :=
  ⟨rfl, fun _ h => h⟩

lemma Grows.trans {fs₁ fs₂ fs₃ : Files} (h : Grows fs₁ fs₂) (h' : Grows fs₂ fs₃) : Grows fs₁ fs₃ :=
  ⟨h'.folders.trans h.folders, fun path hp => h'.contents path (h.contents path hp)⟩

/-- **What is present stays present.** -/
lemma Grows.present {fs fs' : Files} (h : Grows fs fs') {path : Text}
    (hp : fs.present path = .ok true) : fs'.present path = .ok true := by
  obtain ⟨hnull, p, hres, hthere⟩ := present_eq_true_iff.1 hp
  refine present_eq_true_iff.2 ⟨hnull, fs'.look p, resolve_of_folders_eq h.folders hres, ?_⟩
  cases p with
  | folder => rfl
  | free name => cases hthere
  | file name content =>
      have hsome : (fs.content? name).isSome = true := by rw [content?_of_resolve hres]; rfl
      obtain ⟨c, hc⟩ := Option.isSome_iff_exists.1 (h.contents name hsome)
      simp [look, hc, Place.isThere]

/-! ## Writing -/

lemma Grows.of_write {fs fs' : Files} {path content : Text} (h : fs.write path content = .ok fs') :
    Grows fs fs' := by
  obtain ⟨-, p, name, -, -, rfl⟩ := exists_of_write h
  refine ⟨rfl, fun q hq => ?_⟩
  simp only [content?, lookup_set] at hq ⊢
  split_ifs
  · rfl
  · exact hq

/-- A path leads to the file that was written. -/
lemma resolve_of_write {fs fs' : Files} {path content : Text}
    (h : fs.write path content = .ok fs') :
    List.contains path '\x00' = false ∧ ∃ name, fs'.resolve path = .ok (.file name content) := by
  obtain ⟨hnull, p, name, hres, hname, hfs⟩ := exists_of_write h
  refine ⟨hnull, name, ?_⟩
  rw [resolve_of_folders_eq (by rw [hfs]) hres]
  have hcontent : fs'.content? name = some content := by
    simp [hfs, content?, lookup_set]
  cases p with
  | folder => cases hname
  | file n c =>
      cases hname
      simp [look, hcontent]
  | free n =>
      cases hname
      simp [look, hcontent]

/-- **A file that was written is present.** -/
lemma present_of_write {fs fs' : Files} {path content : Text}
    (h : fs.write path content = .ok fs') : fs'.present path = .ok true := by
  obtain ⟨hnull, name, hres⟩ := resolve_of_write h
  exact present_eq_true_iff.2 ⟨hnull, _, hres, rfl⟩

/-- **A file that was written holds what was written**, its line ends as they are read. -/
lemma read_of_write {fs fs' : Files} {path content : Text}
    (h : fs.write path content = .ok fs') : fs'.read path = .ok (readLines content) := by
  obtain ⟨hnull, name, hres⟩ := resolve_of_write h
  exact read_eq_ok_iff.2 ⟨hnull, name, content, hres, rfl⟩

/-- A text without carriage returns is read as it was written. -/
lemma readLines_of_notMem {t : Text} (h : '\r' ∉ t) : readLines t = t := by
  fun_induction readLines t with
  | case1 => rfl
  | case2 rest ih => simp at h
  | case3 rest hrest ih => simp at h
  | case4 c rest hcrlf hcr ih => rw [ih (fun hr => h (List.mem_cons_of_mem c hr))]

/-- After a write a file holds what it held, or what was written. -/
lemma content?_of_write {fs fs' : Files} {path content p c : Text}
    (h : fs.write path content = .ok fs') (hc : fs'.content? p = some c) :
    fs.content? p = some c ∨ c = content := by
  obtain ⟨-, -, name, -, -, rfl⟩ := exists_of_write h
  rw [content?, lookup_set] at hc
  split_ifs at hc
  · exact .inr (Option.some.inj hc).symm
  · exact .inl hc

/-- Whether a file can be written under a path. -/
def isWritable (fs : Files) (path : Text) : Bool :=
  (fs.write path []).isOk

lemma isOk_write_iff {fs : Files} {path content : Text} :
    (fs.write path content).isOk = true ↔ List.contains path '\x00' = false ∧
      ∃ p, fs.resolve path = .ok p ∧ p.path?.isSome = true := by
  unfold write
  by_cases hnull : List.contains path '\x00' = true
  · rw [if_pos hnull, hnull]
    exact ⟨nofun, fun h => nomatch h.1⟩
  · rw [if_neg hnull, Bool.eq_false_iff.2 hnull]
    rcases fs.resolve path with f | p
    · exact ⟨nofun, fun h => by obtain ⟨-, p, hp, -⟩ := h; cases hp⟩
    · cases p <;> simp [bind, Except.bind, throw, throwThe, MonadExceptOf.throw, pure, Except.pure,
        Except.isOk, Except.toBool, Place.path?]

/-- What is written does not decide whether it can be written. -/
lemma isOk_write (fs : Files) (path content : Text) :
    (fs.write path content).isOk = fs.isWritable path := by
  rw [isWritable, Bool.eq_iff_iff, isOk_write_iff, isOk_write_iff]

/-- **What files hold does not decide either.** -/
lemma isWritable_congr {fs fs' : Files} (h : fs'.folders = fs.folders) (path : Text) :
    fs'.isWritable path = fs.isWritable path := by
  have hlook : ∀ {fs fs' : Files}, fs'.folders = fs.folders → fs.isWritable path = true →
      fs'.isWritable path = true := by
    intro fs fs' h hfs
    obtain ⟨hnull, p, hp, hname⟩ := isOk_write_iff.1 hfs
    refine isOk_write_iff.2 ⟨hnull, fs'.look p, resolve_of_folders_eq h hp, ?_⟩
    cases p with
    | folder => exact hname
    | file name old => cases hc : fs'.content? name <;> simp [look, hc, Place.path?]
    | free name => cases hc : fs'.content? name <;> simp [look, hc, Place.path?]
  rw [Bool.eq_iff_iff]
  exact ⟨hlook h.symm, hlook h⟩

/-! ## Adding files -/

/-- Files with new ones behind them. -/
def adding (fs : Files) (new : List (Text × Text)) : Files :=
  { fs with contents := fs.contents ++ new }

lemma adding_nil (fs : Files) : fs.adding [] = fs := by
  simp [adding]

lemma adding_adding (fs : Files) (new more : List (Text × Text)) :
    (fs.adding new).adding more = fs.adding (new ++ more) := by
  simp [adding]

/-- A path that is free is set behind the others. -/
lemma set_of_lookup_eq_none {path : Text} (content : Text) {contents : List (Text × Text)}
    (h : contents.lookup path = none) :
    set path content contents = contents ++ [(path, content)] := by
  induction contents with
  | nil => rfl
  | cons f contents ih =>
      obtain ⟨q, old⟩ := f
      rw [lookup_cons_eq_ite] at h
      split_ifs at h with hq
      rw [set, if_neg (Ne.symm hq), ih h, List.cons_append]

lemma content?_adding (fs : Files) (new : List (Text × Text)) (path : Text) :
    (fs.adding new).content? path = (fs.content? path).or (new.lookup path) :=
  List.lookup_append

/-- A file that is not among the new ones is as it was. -/
lemma content?_adding_of_notMem {fs : Files} {new : List (Text × Text)} {path : Text}
    (h : ∀ f ∈ new, f.1 ≠ path) : (fs.adding new).content? path = fs.content? path := by
  have hnone : new.lookup path = none :=
    List.lookup_eq_none_iff.2 fun f hf => bne_iff_ne.2 (h f hf).symm
  rw [content?_adding, hnone, Option.or_none]

lemma Grows.adding (fs : Files) (new : List (Text × Text)) : Grows fs (fs.adding new) := by
  refine ⟨rfl, fun path h => ?_⟩
  rw [content?_adding, Option.isSome_or, h, Bool.true_or]

/-- A folder lists the same paths if the new files have names of another kind. -/
lemma list_adding [Platform] {fs : Files} {new : List (Text × Text)} {folder suffix : Text}
    (h : ∀ f ∈ new, Text.endsWith (Path.name f.1) suffix = false) :
    (fs.adding new).list folder suffix = fs.list folder suffix := by
  have hnew : (new.map (·.1)).filter
      (fun p => Path.parent p == folder && Text.endsWith (Path.name p) suffix) = [] := by
    refine List.filter_eq_nil_iff.2 fun p hp => ?_
    obtain ⟨f, hf, rfl⟩ := List.mem_map.1 hp
    simp [h f hf]
  simp only [list, adding, List.map_append, List.filter_append, hnew, List.append_nil]

/-! ## Folders -/

/-- A folder that was made is there, and the files are as they were. -/
lemma isFolder_of_makeFolder {fs fs' : Files} {path : Text} (h : fs.makeFolder path = .ok fs') :
    fs'.isFolder path = true ∧ fs'.contents = fs.contents := by
  unfold makeFolder at h
  split_ifs at h with hthere
  · cases h
    exact ⟨hthere, rfl⟩
  · split at h
    · cases h
    · cases h
      exact ⟨by simp [isFolder], rfl⟩

/-- A way that would go through a file: one of its folders but the last has the path of a file. -/
lemma isSome_insideFile?_iff (fs : Files) : ∀ way : List Text,
    (fs.insideFile? way).isSome = true ↔ ∃ p ∈ way.dropLast, (fs.content? p).isSome = true
  | [] | [_] => by simp [insideFile?]
  | p :: q :: rest => by
      have ih := isSome_insideFile?_iff fs (q :: rest)
      rw [insideFile?, List.dropLast_cons_cons, List.exists_mem_cons_iff]
      split
      case isTrue hfile => simp [hfile]
      case isFalse hfile => rw [ih, or_iff_right hfile]

/-- **A folder can be made unless it is not there and a file stands in its place**, or in that of a
folder on the way to it. -/
lemma makeFolder_eq_error_iff {fs : Files} {path : Text} :
    (∃ f, fs.makeFolder path = .error f) ↔
      fs.isFolder path = false ∧
        ∃ p ∈ Path.above path ++ [path], (fs.content? p).isSome = true := by
  have hway := isSome_insideFile?_iff fs (Path.above path ++ [path])
  rw [List.dropLast_concat] at hway
  simp only [makeFolder, List.mem_append, List.mem_singleton, or_and_right, exists_or,
    exists_eq_left, ← hway]
  cases fs.isFolder path with
  | true => simp
  | false =>
      cases (fs.content? path).isSome <;> cases fs.insideFile? (Path.above path ++ [path]) <;> simp

end Gleaner.Files

namespace Gleaner

/-! ## Programs that never remove a file -/

/-- The files of a world grow. -/
def Growing (w w' : World) : Prop :=
  Files.Grows w.files w'.files

instance : IsPreorder World Growing where
  refl w := Files.Grows.refl w.files
  trans _ _ _ h h' := Files.Grows.trans h h'

lemma growing_of_sameFiles (w w' : World) (h : SameFiles w w') : Growing w w' := by
  rw [SameFiles] at h
  rw [Growing, h]
  exact Files.Grows.refl w.files

lemma growing_writeDocument (path content : Text) : Keeps Growing (writeDocument path content) := by
  intro w
  rw [outcome_writeDocument]
  cases hw : w.files.write path content with
  | error f => exact Files.Grows.refl w.files
  | ok files => exact Files.Grows.of_write hw

lemma growing_writeFile [Platform] (path content : Text) : Keeps Growing (writeFile path content) :=
  keeps_writeFile (growing_writeDocument path _)

lemma growing_storeValue [Platform] (path : Text) (v : Json) : Keeps Growing (storeValue path v) :=
  keeps_storeValue (growing_writeDocument path)

end Gleaner
