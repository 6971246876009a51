import Gleaner.Crawl.Cache
import Gleaner.Proofs.Crawl.Sessions
import Gleaner.Proofs.Text.Pieces
import Gleaner.Proofs.World.Paths
import Mathlib.Data.List.Infix

/-!
# Where results are kept

A key is put behind the folder of the cache, and steps up are resolved, so that a key may lead to
any place.

**The place of a key.**  `destination` goes the folders of a key one by one (`Path.step`), and
`cachePath_eq` says that the file of the key lies there, under the last part of the key.  The file
lies directly in the folder of the cache exactly if this walk leads back to it
(`directlyInCache_iff`), as it does for a key without strokes (`leadsBack_of_notMem`).

**Saving.**  The path of a key goes up first and then along names (`straight_way`), so that a file
that is written there has this path (`path?_of_place`).  A save writes this one file, in the cache
or out of it, or it is refused and changes nothing (`saved_in_cache_iff`); the settings may be
written over (`settings_overwritten`).
-/

namespace Gleaner

/-! ## Walks -/

/-- One part of a path, gone from a place. -/
def Path.step (place : List Text) (part : Text) : List Text :=
  if part.isEmpty || part = ['.'] then place
  else if part = ['.', '.'] then up place
  else place ++ [part]

lemma Path.up_append_singleton {place : List Text} {p : Text} (hp : p ≠ []) :
    up (place ++ [p]) = if p = ['.', '.'] then place ++ [p, p] else place := by
  rw [up, List.getLast?_concat]
  simp [hp]

/-- A way that goes up first, and along names from there on. -/
def Path.Straight (way : List Text) : Prop :=
  ∃ n names, way = List.replicate n ['.', '.'] ++ names ∧ ∀ p ∈ names, IsName p

namespace Path

variable {way : List Text}

lemma straight_of_names {names : List Text} (h : ∀ p ∈ names, IsName p) : Straight names :=
  ⟨0, names, rfl, h⟩

lemma Straight.up_first (h : Straight way) (n : ℕ) :
    Straight (List.replicate n ['.', '.'] ++ way) := by
  obtain ⟨m, names, rfl, hnames⟩ := h
  exact ⟨n + m, names, by rw [← List.append_assoc, List.replicate_append_replicate], hnames⟩

/-- Behind a name there are only names. -/
lemma Straight.tail {name : Text} (h : Straight (name :: way)) (hname : name ≠ ['.', '.']) :
    Straight way := by
  obtain ⟨n, names, hway, hnames⟩ := h
  cases n with
  | zero =>
      obtain rfl : name :: way = names := hway
      exact straight_of_names fun p hp => hnames p (List.mem_cons_of_mem name hp)
  | succ n =>
      rw [List.replicate_succ, List.cons_append] at hway
      exact absurd (List.cons.inj hway).1 hname

lemma Straight.up (h : Straight way) : Straight (up way) := by
  obtain ⟨n, names, rfl, hnames⟩ := h
  rcases List.eq_nil_or_concat' names with rfl | ⟨front, last, rfl⟩
  · cases n with
    | zero => exact ⟨1, [], rfl, by simp⟩
    | succ n =>
        rw [List.append_nil, List.replicate_succ', up_append_singleton (by decide), if_pos rfl]
        exact ⟨n + 2, [], by simp [List.replicate_succ'], by simp⟩
  · have hlast := hnames last (by simp)
    rw [← List.append_assoc, up_append_singleton hlast.ne_nil, if_neg hlast.ne_up]
    exact ⟨n, front, rfl, fun p hp => hnames p (by simp [hp])⟩

lemma Straight.step (h : Straight way) {part : Text} (hpart : '/' ∉ part) :
    Straight (step way part) := by
  rw [Path.step]
  split_ifs with hstay hup
  · exact h
  · exact h.up
  · obtain ⟨n, names, rfl, hnames⟩ := h
    simp only [Bool.or_eq_true, List.isEmpty_iff, decide_eq_true_eq, not_or] at hstay
    refine ⟨n, names ++ [part], by rw [List.append_assoc], fun p hp => ?_⟩
    rcases List.mem_append.1 hp with hp | hp
    · exact hnames p hp
    · rw [List.mem_singleton.1 hp]
      exact ⟨hstay.1, hpart, hstay.2, hup⟩

lemma Straight.foldl_step {parts : List Text} (hparts : ∀ p ∈ parts, '/' ∉ p) :
    ∀ {way : List Text}, Straight way → Straight (parts.foldl Path.step way) := by
  induction parts with
  | nil => exact id
  | cons part rest ih =>
      rw [List.forall_mem_cons] at hparts
      exact fun h => ih hparts.2 (h.step hparts.1)

lemma Straight.notMem (h : Straight way) : ∀ p ∈ way, '/' ∉ p := by
  obtain ⟨n, names, rfl, hnames⟩ := h
  intro p hp
  rcases List.mem_append.1 hp with hp | hp
  · rw [List.eq_of_mem_replicate hp]
    decide
  · exact (hnames p hp).noStroke

end Path

namespace Files

variable {fs : Files}

lemma walk_replicate_up (path : Text) (names : List Text) (n : ℕ) : ∀ k,
    fs.walk path (List.replicate k ['.', '.']) (List.replicate n ['.', '.'] ++ names) =
      fs.walk path (List.replicate (k + n) ['.', '.']) names := by
  induction n with
  | zero => exact fun k => rfl
  | succ n ih =>
      intro k
      have hup : Path.up (List.replicate k ['.', '.']) = List.replicate (k + 1) ['.', '.'] := by
        cases k with
        | zero => rfl
        | succ k =>
            rw [List.replicate_succ', Path.up_append_singleton (by decide), if_pos rfl]
            simp [List.replicate_succ']
      rw [List.replicate_succ, List.cons_append, walk, if_neg (by decide), if_pos rfl, hup, ih,
        Nat.add_right_comm, Nat.add_assoc]

/-- **The file that a straight way leads to has its path.** -/
lemma path?_of_resolve_straight {way : List Text} (hway : Path.Straight way) (hne : way ≠ [])
    {p : Place} (h : fs.resolve (Text.join ['/'] way) = .ok p) {name : Text}
    (hname : p.path? = some name) : name = Text.join ['/'] way := by
  have hparts : Path.parts (Text.join ['/'] way) = way := Text.splitOn_join hne hway.notMem
  obtain ⟨n, names, rfl, hnames⟩ := hway
  unfold resolve at h
  split_ifs at h
  rw [hparts] at h
  have hwalk : fs.walk (Text.join ['/'] (List.replicate n ['.', '.'] ++ names)) []
      (List.replicate n ['.', '.'] ++ names) = .ok p := by
    rw [← h]
    split
    case h_1 rest hroot =>
      cases n with
      | zero =>
          obtain rfl : names = [] :: rest := hroot
          exact absurd rfl (hnames [] (by simp)).ne_nil
      | succ n => cases hroot
    case h_2 => rfl
  have hups := @walk_replicate_up fs
    (Text.join ['/'] (List.replicate n ['.', '.'] ++ names)) names n 0
  rw [List.replicate_zero, hwalk, Nat.zero_add] at hups
  exact path?_of_walk _ hnames hups.symm hname

end Files

namespace Crawl.Cache

open Json Text

/-- **Parts are resolved by going them.** -/
lemma resolveParts_eq_foldl (parts : List Text) : ∀ {done : List Text}, [] ∉ done →
    resolveParts done parts = parts.foldl Path.step done.reverse := by
  induction parts with
  | nil => exact fun _ => rfl
  | cons p rest ih =>
      intro done hdone
      conv_lhs => unfold resolveParts
      rw [List.foldl_cons, Path.step]
      split
      case isTrue => exact ih hdone
      case isFalse hp =>
        have hp : p ≠ [] := by
          rintro rfl
          exact hp rfl
        have hpush : [] ∉ p :: done := by simp [hdone, Ne.symm hp]
        split
        case isTrue hup =>
          cases done with
          | nil =>
              rw [hup] at hpush ⊢
              exact ih hpush
          | cons d ds =>
              rw [List.mem_cons, not_or] at hdone
              rw [List.reverse_cons, Path.up_append_singleton (Ne.symm hdone.1)]
              dsimp only
              split
              case isTrue hd => rw [ih hpush, hup, hd]; simp
              case isFalse => exact ih hdone.2
        case isFalse => rw [ih hpush, List.reverse_cons]

/-- What is seen from a folder without going up lies in it. -/
lemma eq_append_of_wayFrom {p : Text} {rest : List Text} (hp : p ≠ ['.', '.']) :
    ∀ {folder place : List Text}, wayFrom folder place = p :: rest → place = folder ++ p :: rest
  | [], place, h => by simpa [wayFrom] using h
  | f :: folder, [], h => by
      rw [wayFrom] at h
      · exact absurd (List.cons.inj h).1.symm hp
      · simp
  | f :: folder, q :: place, h => by
      rw [wayFrom] at h
      split at h
      case isTrue hf => rw [hf, eq_append_of_wayFrom hp h, List.cons_append]
      case isFalse => exact absurd (List.cons.inj h).1.symm hp

/-- There is no way only from a folder to itself. -/
lemma eq_of_wayFrom_eq_nil {folder place : List Text} (h : wayFrom folder place = []) :
    place = folder := by
  fun_induction wayFrom folder place with
  | case1 folder p place ih => rw [ih h]
  | case2 => simp at h
  | case3 =>
      simp only [List.append_eq_nil_iff, List.map_eq_nil_iff] at h
      rw [h.1, h.2]

lemma straight_wayFrom {folder place : List Text} (hfolder : ∀ p ∈ folder, Path.IsName p)
    (hplace : Path.Straight place) : Path.Straight (wayFrom folder place) := by
  have hups : ∀ {folder place : List Text}, Path.Straight place →
      Path.Straight (folder.map (fun _ => ['.', '.']) ++ place) := by
    intro folder place h
    rw [List.map_const']
    exact h.up_first _
  fun_induction wayFrom folder place with
  | case1 folder p place ih =>
      rw [List.forall_mem_cons] at hfolder
      exact ih hfolder.2 (hplace.tail hfolder.1.ne_up)
  | case2 => exact hups hplace
  | case3 => exact hups hplace

/-! ## The place of a key -/

/-- The folder of the cache. -/
def cachePlace : List Text :=
  workFolder ++ [cacheFolder]

/-- Where the folders of a key lead, gone one after the other from the folder of the cache. -/
def destination (key : Text) : List Text :=
  (Path.parts key).dropLast.foldl Path.step cachePlace

/-- The name of the file of a key. -/
def fileName (key : Text) : Text :=
  (Path.parts key).getLast?.getD [] ++ ".json"

lemma parts_append_suffix (key : Text) :
    Path.parts (key ++ ".json") = (Path.parts key).dropLast ++ [fileName key] := by
  obtain ⟨front, last, first, rest, hkey, hsuffix, happend⟩ := exists_splitOn_append '/' key ".json"
  have hparts : Path.parts key = front ++ [last] := hkey
  cases hsuffix
  rw [fileName, hparts, List.dropLast_concat, List.getLast?_concat]
  exact happend

lemma notMem_fileName (key : Text) : '/' ∉ fileName key := by
  refine not_mem_of_mem_splitOn (t := key ++ ".json") ?_
  show _ ∈ Path.parts (key ++ ".json")
  rw [parts_append_suffix]
  simp

lemma five_le_length_fileName (key : Text) : 5 ≤ (fileName key).length := by
  rw [fileName, List.length_append]
  exact Nat.le_add_left _ _

/-- The name of a file is no step. -/
lemma step_fileName (place : List Text) (key : Text) :
    Path.step place (fileName key) = place ++ [fileName key] := by
  have hlength := five_le_length_fileName key
  rw [Path.step, if_neg, if_neg]
  · intro h
    simp [h] at hlength
  · intro h
    simp only [Bool.or_eq_true, List.isEmpty_iff, decide_eq_true_eq] at h
    rcases h with h | h <;> simp [h] at hlength

/-- The way to the file of a key, seen from the folder in which the crawler works. -/
def way (key : Text) : List Text :=
  wayFrom workFolder (destination key ++ [fileName key])

lemma way_ne_nil (key : Text) : way key ≠ [] := by
  intro h
  have hlast := congrArg List.getLast? (eq_of_wayFrom_eq_nil h)
  rw [List.getLast?_concat] at hlast
  have hlength := five_le_length_fileName key
  rw [Option.some.inj hlast] at hlength
  exact absurd hlength (by decide)

/-- **The path of a key goes up first and then along names.** -/
lemma straight_way (key : Text) : Path.Straight (way key) := by
  have hnames : ∀ p ∈ cachePlace, Path.IsName p := by decide
  have hparts : ∀ p ∈ (Path.parts key).dropLast, '/' ∉ p := fun p hp =>
    not_mem_of_mem_splitOn (List.mem_of_mem_dropLast hp)
  rw [way, ← step_fileName]
  refine straight_wayFrom (fun p hp => hnames p (List.mem_append_left _ hp)) ?_
  exact ((Path.straight_of_names hnames).foldl_step hparts).step (notMem_fileName key)

/-- **The file of a key lies where its folders lead**, under its last part. -/
lemma cachePath_eq (key : Text) : cachePath key = Text.join ['/'] (way key) := by
  have hstart : cachePlace.foldl Path.step [] = cachePlace := by decide
  have hsplit : workFolder ++ cacheFolder :: Path.parts (key ++ ".json") =
      cachePlace ++ (Path.parts key).dropLast ++ [fileName key] := by
    rw [parts_append_suffix, cachePlace, List.append_assoc, List.append_assoc]
    rfl
  rw [cachePath, hsplit, resolveParts_eq_foldl _ (by simp), List.foldl_append, List.foldl_append,
    List.reverse_nil, hstart, ← destination, List.foldl_cons, List.foldl_nil, step_fileName, way]

/-- A path directly in the folder of the cache. -/
def DirectlyInCache (path : Text) : Prop :=
  ∃ name, '/' ∉ name ∧ path = cacheFolder ++ '/' :: name

/-- The folders of a key lead back to the folder of the cache. -/
def LeadsBack (key : Text) : Prop :=
  destination key = cachePlace

instance (key : Text) : Decidable (LeadsBack key) :=
  inferInstanceAs (Decidable (_ = _))

lemma cachePath_of_leadsBack {key : Text} (h : LeadsBack key) :
    cachePath key = cacheFolder ++ '/' :: fileName key := by
  rw [cachePath_eq, way, h]
  rfl

/-- **A file lies directly in the cache if the folders of its key lead back there.** -/
lemma directlyInCache_iff {key : Text} : DirectlyInCache (cachePath key) ↔ LeadsBack key := by
  constructor
  · rintro ⟨name, hname, hpath⟩
    have hway : way key = [cacheFolder, name] :=
      calc way key
          = splitOn '/' (cachePath key) := by
            rw [cachePath_eq, splitOn_join (way_ne_nil key) (straight_way key).notMem]
        _ = [cacheFolder, name] := by
            rw [hpath, splitOn_append_sep (by decide), splitOn_of_not_mem hname]
    have hplace := eq_append_of_wayFrom (by decide) hway
    have hsplit : destination key ++ [fileName key] = cachePlace ++ [name] := hplace
    exact (List.append_inj' hsplit rfl).1
  · exact fun h => ⟨fileName key, notMem_fileName key, cachePath_of_leadsBack h⟩

/-- A key without strokes has no folders. -/
lemma leadsBack_of_notMem {key : Text} (h : '/' ∉ key) :
    LeadsBack key ∧ fileName key = key ++ ".json" := by
  have hparts : Path.parts key = [key] := splitOn_of_not_mem h
  rw [LeadsBack, destination, fileName, hparts]
  exact ⟨rfl, rfl⟩

/-! ## Saving -/

/-- **The file that the path of a key leads to has this path**, however files are stored. -/
lemma path?_of_place {s : Session} {key : Text} {p : Files.Place}
    (h : s.place (cachePath key) = .ok p) {name : Text} (hname : p.path? = some name) :
    name = cachePath key := by
  unfold Session.place at h
  split at h
  · split_ifs at h
    rw [cachePath_eq] at h ⊢
    exact Files.path?_of_resolve_straight (straight_way key) (way_ne_nil key) h hname
  · split at h <;> cases h <;> exact (Option.some.inj hname).symm

/-- A file can be written at a path: it leads to a file, or to a free name in a folder. -/
def IsWritable (s : Session) (path : Text) : Prop :=
  ∃ p, s.place path = .ok p ∧ p.path?.isSome = true

/-- **A save writes the file of its key, or is refused.** -/
lemma saveCache_cases [Platform] {key : Setting} {k : Text} (hkey : textOf key = .ok k)
    (data : Setting) (s : Session) :
    ((record s.clock data).nesting ≤ Platform.writeRoom ∧ IsWritable s (cachePath k)) ∧
        performed (saveCache key data) s =
          (.ok (), s.keep (cachePath k) (written (record s.clock data))) ∨
      ¬((record s.clock data).nesting ≤ Platform.writeRoom ∧ IsWritable s (cachePath k)) ∧
        ∃ t, performed (saveCache key data) s = (.error t, s) := by
  have hget : ∀ f : Session → Run Unit, performed (get >>= f) s = performed (f s) s :=
    performed_bind_of_ok (performed_get s)
  rw [saveCache, hkey, performed_bind_of_ok (performed_lift_ok rfl s), hget]
  dsimp only
  split
  case isTrue hdeep => exact .inr ⟨fun h => absurd h.1 (by omega), .tooDeep, rfl⟩
  case isFalse hroom =>
    rw [Nat.not_lt] at hroom
    cases hplace : s.place (cachePath k) with
    | error f =>
        refine .inr ⟨?_, _, rfl⟩
        rintro ⟨-, p, hp, -⟩
        rw [hplace] at hp
        cases hp
    | ok p =>
        cases p with
        | folder =>
            refine .inr ⟨?_, _, rfl⟩
            rintro ⟨-, p, hp, hname⟩
            rw [hplace] at hp
            cases hp
            cases hname
        | file name content =>
            obtain rfl := path?_of_place hplace rfl
            exact .inl ⟨⟨hroom, _, hplace, rfl⟩, rfl⟩
        | free name =>
            obtain rfl := path?_of_place hplace rfl
            exact .inl ⟨⟨hroom, _, hplace, rfl⟩, rfl⟩

lemma content?_keep (s : Session) (path content other : Text) :
    (s.keep path content).files.content? other =
      if other = path then some content else s.files.content? other :=
  Files.lookup_set _ _ _ _

/-- **A result is kept in one file, which lies in the cache if the key leads back there.**  For
every session, every key and every result,

* a save that fails changes nothing;
* it ends exactly if the key has a text, the result does not lie too deep to be written, and a file
  can be written at the path of the key, so that no folder on the way is missing, no part of the
  path is too long and no folder stands in its place;
* a save that ends writes the file of this path, and no other file or folder changes;
* this file lies directly in the folder of the cache exactly if the folders of the key lead back to
  it;
* so it does for every key without a stroke, under the name of the key. -/
theorem saved_in_cache_iff [Platform] (key data : Setting) (s : Session) :
    let saved := performed (saveCache key data) s
    (∀ t, saved.1 = .error t → saved.2 = s) ∧
    (saved.1 = .ok () ↔ ∃ k, textOf key = .ok k ∧
      (record s.clock data).nesting ≤ Platform.writeRoom ∧ IsWritable s (cachePath k)) ∧
    ∀ k, textOf key = .ok k →
      (saved.1 = .ok () → saved.2 = s.keep (cachePath k) (written (record s.clock data)) ∧
        saved.2.files.folders = s.files.folders ∧
        ∀ path, saved.2.files.content? path =
          if path = cachePath k then some (written (record s.clock data))
          else s.files.content? path) ∧
      (DirectlyInCache (cachePath k) ↔ LeadsBack k) ∧
      ('/' ∉ k → cachePath k = cacheFolder ++ '/' :: (k ++ ".json".toList)) := by
  intro saved
  cases hkey : textOf key with
  | error t =>
      have hsaved : saved = (.error t, s) := by
        show performed (saveCache key data) s = _
        rw [saveCache, hkey]
        rfl
      rw [hsaved]
      exact ⟨fun _ _ => rfl, by simp, by simp⟩
  | ok k =>
      have hplace : DirectlyInCache (cachePath k) ↔ LeadsBack k := directlyInCache_iff
      have hname : '/' ∉ k → cachePath k = cacheFolder ++ '/' :: (k ++ ".json".toList) := by
        intro hstroke
        obtain ⟨hleads, hname⟩ := leadsBack_of_notMem hstroke
        rw [cachePath_of_leadsBack hleads, hname]
      rcases saveCache_cases hkey data s with ⟨hfits, hsaved⟩ | ⟨hfits, t, hsaved⟩
      · rw [show saved = _ from hsaved]
        refine ⟨nofun, iff_of_true rfl ⟨k, rfl, hfits⟩, ?_⟩
        rintro _ ⟨⟩
        exact ⟨fun _ => ⟨rfl, rfl, content?_keep s _ _⟩, hplace, hname⟩
      · rw [show saved = _ from hsaved]
        refine ⟨fun _ _ => rfl, iff_of_false nofun ?_, ?_⟩
        · rintro ⟨_, ⟨⟩, hfits'⟩
          exact hfits hfits'
        · rintro _ ⟨⟩
          exact ⟨nofun, hplace, hname⟩

/-- A session in which there is the folder of the cache, and the file of the settings. -/
def settledSession : Session where
  settings := .null
  browser := .obj []
  clock := .ofInt 0
  draws := []
  drawn := 0
  counter := ⟨0, 0, .ofInt 0, .ofInt 0⟩
  files := ⟨[cacheFolder], [("config.json", "\x7b\x7d")]⟩
  log := []
  calls := []
  waits := []

/-- A stroke in a search leads to a folder that is not there. -/
example : (performed (saveCache (some (.str "search_AC/DC_1")) (some .null)) settledSession).1 =
    .error (.denied "open" (.noSuchFile ".cache/search_AC/DC_1.json")) :=
  rfl

/-- The key of a note goes up two folders and takes the place of the settings. -/
theorem settings_overwritten :
    let saved := performed (saveCache (some (.str "note_/../../config")) (some (.int 1)))
      settledSession
    saved.1 = .ok () ∧ saved.2.files.folders = settledSession.files.folders ∧
    saved.2.files.contents.map Prod.fst = settledSession.files.contents.map Prod.fst ∧
    saved.2.files.content? "config.json" ≠ settledSession.files.content? "config.json" ∧
    ¬DirectlyInCache "config.json" := by
  intro saved
  have hpath : cachePath "note_/../../config" = "config.json" := by decide
  have hout : ¬LeadsBack "note_/../../config" := by decide
  refine ⟨rfl, rfl, by decide +kernel, by decide +kernel, ?_⟩
  rw [← hpath, directlyInCache_iff]
  exact hout

end Crawl.Cache

end Gleaner
