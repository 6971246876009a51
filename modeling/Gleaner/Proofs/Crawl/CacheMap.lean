import Gleaner.Proofs.Crawl.CachePlace
import Gleaner.Proofs.Crawl.StoredText

/-!
# The cache as a map

A result is looked up in a file, and its age is known from a time that is written there; a file is
removed by the time of the file itself, once it is twice as old as a good result.  Seen from outside
there is only a map from keys to what was saved last and when (`cache_refines_map`).

**Time.**  Differences of times are rounded.  Rounding goes past no number, so what is older than
twice the limit when the cache is cleaned is no longer good from then on
(`not_isFresh_of_isStale`).

**Keys.**  A key is a sequence of units of sixteen bits, and the name of its file is the text of
these units.  Every text is that of a key without halves (`textOfUnits_unitsOfText`), and two such
keys have different files (`units_eq_of_text_eq`).

**Files.**  The file of a key is that of its last save, or there is none, if there was no save or if
a clean-up has removed a file that will never be good again (`Mirrored`).  Each use of the cache
keeps this, and fails only if it is a save of something that lies too deep (`Mirrors.use`); so does
a run (`Mirrors.afterUses`).
-/

namespace Gleaner.Crawl.Cache

open Json Text

/-! ## Moments -/

/-- A moment that the clock can show: a finite number in its one form, zero without a sign. -/
structure Moment where
  negative : Bool
  significand : ℕ
  exponent : ℤ
  normal : Binary64.Normal significand exponent
  unsigned : negative = true → significand ≠ 0

namespace Moment

/-- What the clock shows. -/
def clock (moment : Moment) : Binary64 :=
  .finite moment.negative moment.significand moment.exponent

/-- The time as a rational number. -/
def time (moment : Moment) : ℚ :=
  Binary64.value moment.negative moment.significand moment.exponent

end Moment

/-- Whether what was stored at a moment is good at another one.  The age is rounded, as every
difference of numbers is. -/
def isFresh (limit : Binary64) (now stored : Moment) : Bool :=
  (now.clock.sub stored.clock).lt limit

/-- How long a result is good: an hour if nothing is set, or else a positive number of
milliseconds. -/
inductive Lasts (browser : Json) : Binary64 → Prop where
  | absent (settings : browser ≠ .null)
      (absent : look (look (some browser) "xhs") "cache_duration" = none) :
      Lasts browser (.ofInt 3600000)
  | given {limit : Binary64} (normal : limit.IsNormal)
      (positive : (Binary64.ofInt 0).lt limit = true)
      (given : look (look (some browser) "xhs") "cache_duration" = some (.real limit)) :
      Lasts browser limit

section

variable {browser : Json} {limit : Binary64}

lemma Lasts.isNormal (h : Lasts browser limit) : limit.IsNormal := by
  cases h with
  | absent => exact Binary64.isNormal_ofRatio _ _ Nat.one_pos
  | given normal => exact normal

lemma Lasts.positive (h : Lasts browser limit) : (Binary64.ofInt 0).lt limit = true := by
  cases h with
  | absent => decide +kernel
  | given _ positive => exact positive

lemma Lasts.ne_null (h : Lasts browser limit) : browser ≠ .null := by
  cases h with
  | absent settings => exact settings
  | given _ _ given =>
      rintro rfl
      cases given

lemma isTruthy_of_positive (h : (Binary64.ofInt 0).lt limit = true) : limit.isTruthy = true := by
  rcases limit with _ | _ | ⟨s, m, e⟩
  case nan => cases h
  case infinite => rfl
  case finite =>
    have hpos := Binary64.value_pos_of_lt h
    rw [Binary64.isTruthy, bne_iff_ne]
    rintro rfl
    rw [Binary64.value_zero] at hpos
    exact lt_irrefl _ hpos

/-- **What is stale is never good again.** -/
lemma not_isFresh_of_isStale (h : Lasts browser limit) {stored cleaned now : Moment}
    (hstale : isStale cleaned.clock limit stored.clock = true)
    (hnow : cleaned.time ≤ now.time) : isFresh limit now stored = false := by
  have hnormal := h.isNormal
  have hpositive := h.positive
  rw [isStale] at hstale
  rcases limit with _ | ⟨_ | _⟩ | ⟨s, m, e⟩
  case nan => cases hpositive
  case infinite.true => cases hpositive
  case infinite.false =>
    -- twice an infinite limit is infinite, and no age is beyond it
    have htwice : (Binary64.infinite false).mul (.ofInt 2) = .infinite false := by decide +kernel
    rw [htwice] at hstale
    exact absurd hstale (Binary64.not_infinite_lt _)
  case finite =>
    have htwice := Binary64.le_mul_two hnormal (Binary64.value_pos_of_lt hpositive)
    have hold : Binary64.value s m e < cleaned.time - stored.time :=
      (Binary64.roundsTo_sub _ _ _ _ _ _).lt_of_lt hnormal
        (Binary64.lt_of_le_of_lt htwice hstale)
    have hage : Binary64.value s m e ≤ now.time - stored.time := by linarith
    exact Bool.eq_false_iff.2 (Binary64.not_lt_of_le
      ((Binary64.roundsTo_sub _ _ _ _ _ _).le_of_le hnormal hage))

end

/-! ## Keys -/

/-- The text of a sequence of units of sixteen bits, as the name of a file takes it: half of a pair
that stands alone becomes the replacement character. -/
def textOfUnits : List UInt16 → Text
  | [] => []
  | [u] => [charOf '\ufffd' u.toNat]
  | u :: v :: rest =>
      if isHighSurrogate u.toNat && isLowSurrogate v.toNat then
        Char.ofNat (0x10000 + (u.toNat - 0xd800) * 0x400 + (v.toNat - 0xdc00)) :: textOfUnits rest
      else charOf '\ufffd' u.toNat :: textOfUnits (v :: rest)

/-- The units of a character. -/
def unitsOfChar (c : Char) : List UInt16 :=
  if c.toNat < 0x10000 then [.ofNat c.toNat]
  else
    [.ofNat (0xd800 + (c.toNat - 0x10000) / 0x400), .ofNat (0xdc00 + (c.toNat - 0x10000) % 0x400)]

/-- The units of a text. -/
def unitsOfText (t : Text) : List UInt16 :=
  t.flatMap unitsOfChar

lemma textOfUnits_unitsOfChar_append (c : Char) (us : List UInt16) :
    textOfUnits (unitsOfChar c ++ us) = c :: textOfUnits us := by
  have hc := toNat_lt c
  rw [unitsOfChar]
  split
  case isTrue hsmall =>
    have hunit : (UInt16.ofNat c.toNat).toNat = c.toNat := UInt16.toNat_ofNat_of_lt hsmall
    cases us with
    | nil => simp only [List.append_nil, textOfUnits, hunit, charOf_toNat]
    | cons v us =>
        rw [List.singleton_append, textOfUnits, hunit, charOf_toNat, isHighSurrogate_eq_false,
          Bool.false_and, if_neg (by decide)]
  case isFalse hlarge =>
    have hhigh : (UInt16.ofNat (0xd800 + (c.toNat - 0x10000) / 0x400)).toNat =
        0xd800 + (c.toNat - 0x10000) / 0x400 :=
      UInt16.toNat_ofNat_of_lt (by rw [UInt16.size]; omega)
    have hlow : (UInt16.ofNat (0xdc00 + (c.toNat - 0x10000) % 0x400)).toNat =
        0xdc00 + (c.toNat - 0x10000) % 0x400 :=
      UInt16.toNat_ofNat_of_lt (by rw [UInt16.size]; omega)
    rw [List.cons_append, List.singleton_append, textOfUnits, hhigh, hlow, if_pos]
    · have hpair : 0x10000 + (0xd800 + (c.toNat - 0x10000) / 0x400 - 0xd800) * 0x400 +
          (0xdc00 + (c.toNat - 0x10000) % 0x400 - 0xdc00) = c.toNat := by omega
      rw [hpair, Char.ofNat_toNat]
    · simp only [isHighSurrogate, isLowSurrogate, Bool.and_eq_true, decide_eq_true_eq]
      omega

/-- **Every text is that of its units.** -/
lemma textOfUnits_unitsOfText (t : Text) : textOfUnits (unitsOfText t) = t := by
  induction t with
  | nil => rfl
  | cons c t ih =>
      rw [unitsOfText, List.flatMap_cons, textOfUnits_unitsOfChar_append, ← unitsOfText, ih]

/-- A key whose text is the name of a file: without strokes and zero characters, and not too
long. -/
structure Key where
  units : List UInt16
  noStroke : '/' ∉ textOfUnits units
  noZero : '\x00' ∉ textOfUnits units
  fits : Path.byteLength (textOfUnits units ++ ".json".toList) ≤ Path.maxPart

namespace Key

/-- The text that names the file of a key. -/
def text (key : Key) : Text :=
  textOfUnits key.units

/-- No unit of a key is half of a pair that stands alone. -/
def IsWhole (key : Key) : Prop :=
  unitsOfText key.text = key.units

/-- The key of a text. -/
def ofText (t : Text) (noStroke : '/' ∉ t) (noZero : '\x00' ∉ t)
    (fits : Path.byteLength (t ++ ".json".toList) ≤ Path.maxPart) : Key where
  units := unitsOfText t
  noStroke := by rwa [textOfUnits_unitsOfText]
  noZero := by rwa [textOfUnits_unitsOfText]
  fits := by rwa [textOfUnits_unitsOfText]

end Key

/-- Two halves of pairs, each alone, have the same text. -/
example : textOfUnits [0xd800] = textOfUnits [0xdfff] := by
  decide

section

variable (key : Key)

lemma noStroke_name : '/' ∉ key.text ++ ".json".toList := by
  rw [List.mem_append, not_or]
  exact ⟨key.noStroke, by decide⟩

lemma isName_name : Path.IsName (key.text ++ ".json".toList) := by
  refine Path.isName_of_length ?_ (noStroke_name key)
  have : ".json".toList.length = 5 := rfl
  rw [List.length_append]
  omega

lemma isName_cacheFolder : Path.IsName cacheFolder := by decide

/-- The file of a key lies in the folder of the cache and has the name of the key. -/
lemma cachePath_key :
    cachePath key.text = Path.join cacheFolder (key.text ++ ".json".toList) := by
  have hstroke : '/' ∉ key.text := key.noStroke
  obtain ⟨hleads, hname⟩ := leadsBack_of_notMem hstroke
  rw [cachePath_of_leadsBack hleads, hname]
  rfl

lemma cachePath_injective {key key' : Key} (h : cachePath key.text = cachePath key'.text) :
    key.text = key'.text := by
  rw [cachePath_key, cachePath_key] at h
  exact List.append_cancel_right (Path.join_injective isName_cacheFolder.ne_nil h)

lemma parent_cachePath : Path.parent (cachePath key.text) = cacheFolder := by
  rw [cachePath_key]
  exact Path.parent_join isName_cacheFolder (noStroke_name key)

lemma noZero_cachePath : List.contains (cachePath key.text) '\x00' = false := by
  have hfolder : '\x00' ∉ cacheFolder := by decide
  have htext : '\x00' ∉ key.text := key.noZero
  rw [cachePath_key, Path.join_eq isName_cacheFolder.ne_nil]
  simp [hfolder, htext]

lemma inCache_join (name : Text) : Session.inCache (Path.join cacheFolder name) = true := by
  rw [Path.join_eq isName_cacheFolder.ne_nil, Session.inCache, startsWith,
    List.isPrefixOf_iff_prefix]
  exact ⟨name, by simp⟩

lemma inCache_cachePath : Session.inCache (cachePath key.text) = true := by
  rw [cachePath_key]
  exact inCache_join _

end

/-! ## Operations -/

/-- The folder of the cache is there, and no folder is in it. -/
structure HasCache (s : Session) : Prop where
  there : s.store = .folders → s.files.isFolder cacheFolder = true
  noFolders : ∀ f ∈ s.files.folders, Session.inCache f = false

section

variable {s : Session} {limit : Binary64}

lemma performed_maxAge (h : Lasts s.browser limit) :
    performed maxAge s = (.ok (some (.real limit)), s) := by
  have hsetting : performed (browserSetting "xhs") s =
      (.ok (look (some s.browser) "xhs"), s) :=
    performed_lift_ok (need_of_ne_null h.ne_null _) s
  have horElse : orElse (look (look (some s.browser) "xhs") "cache_duration") (numeral 3600000) =
      some (.real limit) := by
    cases h with
    | absent _ absent =>
        rw [absent]
        rfl
    | given _ positive given =>
        rw [given, orElse, isOn, if_pos (isTruthy_of_positive positive)]
  rw [maxAge, performed_bind_of_ok hsetting, horElse]
  rfl

lemma HasCache.isFolder_eq_false (h : HasCache s) {path : Text}
    (hpath : Session.inCache path = true) : s.files.isFolder path = false := by
  rw [Files.isFolder, Bool.or_eq_false_iff]
  constructor
  · cases path with
    | nil => cases hpath
    | cons => rfl
  · rw [Bool.eq_false_iff, ne_eq, List.contains_iff_mem]
    intro hmem
    rw [h.noFolders path hmem] at hpath
    cases hpath

/-- **The path of a key leads to its file**, be it there or not. -/
lemma HasCache.place_key (h : HasCache s) (key : Key) :
    s.place (cachePath key.text) = .ok (s.files.look (.free (cachePath key.text))) := by
  unfold Session.place
  split
  case h_1 hstore =>
    have hresolve := Files.resolve_join isName_cacheFolder (by decide) (isName_name key)
      (h.there hstore)
    have hshort : ¬Path.maxPart < Path.byteLength (key.text ++ ".json".toList) :=
      Nat.not_lt.2 key.fits
    rw [noZero_cachePath, if_neg (by decide), cachePath_key, hresolve, if_neg hshort, if_neg]
    rw [h.isFolder_eq_false (inCache_join _)]
    decide
  case h_2 =>
    rw [Files.look]
    cases s.files.content? (cachePath key.text) <;> rfl

lemma HasCache.isWritable (h : HasCache s) (key : Key) : IsWritable s (cachePath key.text) := by
  refine ⟨_, h.place_key key, ?_⟩
  rw [Files.look]
  cases s.files.content? (cachePath key.text) <;> rfl

/-- A check reads the file of its key, if there is one. -/
lemma performed_checkCache (h : HasCache s) (key : Key) :
    performed (checkCache (some (.str key.text))) s =
      (s.files.content? (cachePath key.text)).elim (.ok (some .null), s)
        fun content => performed (resultIn content) s := by
  have htext : performed (Run.lift (textOf (some (.str key.text)))) s = (.ok key.text, s) := rfl
  unfold checkCache
  rw [performed_bind_of_ok htext, performed_bind_of_ok (performed_get s), h.place_key, Files.look]
  cases s.files.content? (cachePath key.text) <;> rfl

lemma performed_resultIn (h : Lasts s.browser limit) {content : Text} {stored : Binary64} {v : Json}
    (hfile : readStored content =
      .ok (.obj [("timestamp".toList, .real stored), ("data".toList, v)])) :
    performed (resultIn content) s =
      (.ok (if (s.clock.sub stored).lt limit then some v else some .null), s) := by
  have hneed : need (some (.obj [("timestamp".toList, .real stored), ("data".toList, v)]))
      "timestamp" = .ok (some (.real stored)) := rfl
  have hage : Crawl.numberOf (some (.real stored)) = .ok stored := rfl
  have hlimit : Crawl.numberOf (some (.real limit)) = .ok limit := rfl
  rw [resultIn, performed_bind_of_ok (performed_lift_ok hfile s),
    performed_bind_of_ok (performed_lift_ok hneed s), performed_bind_of_ok (performed_get s),
    performed_bind_of_ok (performed_lift_ok hage s), performed_bind_of_ok (performed_maxAge h),
    performed_bind_of_ok (performed_lift_ok hlimit s)]
  rfl

/-- The files of a session without those of some paths that are old. -/
def swept (limit : Binary64) (paths : List Text) (s : Session) : Files :=
  { s.files with
    contents := s.files.contents.filter fun f =>
      !(paths.contains f.1 && isStale s.clock limit (s.stamp f.1)) }

lemma swept_nil (limit : Binary64) (s : Session) : swept limit [] s = s.files := by
  simp [swept]

lemma swept_cons (limit : Binary64) (path : Text) (paths : List Text) (s : Session) :
    swept limit paths { s with files := swept limit [path] s } = swept limit (path :: paths) s := by
  simp only [swept, List.filter_filter, List.contains_cons, List.contains_nil, Bool.or_false]
  congr 2
  funext f
  rw [Bool.and_or_distrib_right, Bool.not_or, Bool.and_comm]

lemma performed_removeStale {path : Text} (limit : Binary64) (h : s.files.isFolder path = false) :
    performed (removeStale limit path) s = (.ok (), { s with files := swept limit [path] s }) := by
  have hremove : performed (removeStale limit path) s =
      performed (if isStale s.clock limit (s.stamp path) then
        if s.files.isFolder path then Run.fail (.denied "unlink" (.isFolder path))
        else set { s with files := s.files.remove path } else pure ()) s := rfl
  rw [hremove, h]
  cases hstale : isStale s.clock limit (s.stamp path) with
  | false =>
      have hall : swept limit [path] s = s.files := by
        rw [swept, List.filter_eq_self.2 fun f _ => ?_]
        by_cases hf : f.1 = path <;> simp [hf, hstale]
      rw [hall]
      rfl
  | true =>
      have hone : swept limit [path] s = s.files.remove path := by
        rw [swept, Files.remove]
        congr 2
        funext f
        by_cases hf : f.1 = path <;> simp [hf, hstale]
      rw [hone]
      rfl

/-- Old files are removed one after the other.  By induction on their paths; what is removed does
not change how old the others are. -/
lemma performed_forM_removeStale (limit : Binary64) {paths : List Text} : ∀ {s : Session},
    (∀ p ∈ paths, s.files.isFolder p = false) →
      performed (paths.forM (removeStale limit)) s =
        (.ok (), { s with files := swept limit paths s }) := by
  induction paths with
  | nil =>
      intro s _
      rw [swept_nil]
      rfl
  | cons path rest ih =>
      intro s h
      rw [List.forall_mem_cons] at h
      rw [← swept_cons]
      exact (performed_bind_of_ok (performed_removeStale limit h.1) _).trans (ih h.2)

variable [Platform]

lemma inCache_of_mem_cached {path : Text} (h : path ∈ s.cached) : Session.inCache path = true := by
  unfold Session.cached at h
  split at h
  · rw [Files.list, (Platform.arrange_perm _).mem_iff, List.mem_filter, Bool.and_eq_true,
      beq_iff_eq] at h
    obtain ⟨name, -, rfl⟩ := Path.exists_join_of_parent isName_cacheFolder h.2.1
    exact inCache_join name
  · exact (List.mem_filter.1 h).2

/-- A file of a key is listed. -/
lemma mem_cached_of_content? {key : Key}
    (h : (s.files.content? (cachePath key.text)).isSome = true) :
    cachePath key.text ∈ s.cached := by
  have hmem := Files.isSome_content?_iff.1 h
  unfold Session.cached
  split
  · rw [Files.list, (Platform.arrange_perm _).mem_iff, List.mem_filter]
    refine ⟨List.mem_append_left _ hmem, ?_⟩
    rw [parent_cachePath, beq_self_eq_true, Bool.true_and]
    exact List.isSuffixOf_iff_suffix.2 List.nil_suffix
  · exact List.mem_filter.2 ⟨hmem, inCache_cachePath key⟩

/-- **A clean-up removes the files of the cache that are old.** -/
lemma performed_cleanCache (h : Lasts s.browser limit) (hcache : HasCache s) :
    performed cleanCache s = (.ok (), { s with files := swept limit s.cached s }) := by
  have hfiles : ∀ p ∈ s.cached, s.files.isFolder p = false := fun p hp =>
    hcache.isFolder_eq_false (inCache_of_mem_cached hp)
  have hlimit : performed (Run.lift (Crawl.numberOf (some (.real limit)))) s = (.ok limit, s) := rfl
  rw [← performed_forM_removeStale limit hfiles, cleanCache,
    performed_bind_of_ok (performed_maxAge h), performed_bind_of_ok (performed_get s)]
  cases s.cached with
  | nil => rfl
  | cons path rest => exact performed_bind_of_ok hlimit _

/-- The file of a key is removed if it is old. -/
lemma content?_swept (limit : Binary64) (key : Key) :
    (swept limit s.cached s).content? (cachePath key.text) =
      if isStale s.clock limit (s.stamp (cachePath key.text)) then none
      else s.files.content? (cachePath key.text) := by
  rw [Files.content?, swept, Files.lookup_filter fun path =>
    !(s.cached.contains path && isStale s.clock limit (s.stamp path))]
  cases hcontent : s.files.content? (cachePath key.text) with
  | none =>
      rw [Files.content?] at hcontent
      simp [hcontent]
  | some content =>
      have hlisted : cachePath key.text ∈ s.cached :=
        mem_cached_of_content? (by rw [hcontent]; rfl)
      rw [Files.content?] at hcontent
      rw [hcontent, List.contains_iff_mem.2 hlisted]
      cases isStale s.clock limit (s.stamp (cachePath key.text)) <;> rfl

end

/-! ## Uses of the cache -/

/-- What the cache can be asked for. -/
inductive Request where
  | save (key : Key) (data : Json)
  | check (key : Key)
  | clean

/-- A request at a moment. -/
structure Use where
  moment : Moment
  request : Request

/-- What a map answers at a moment: what was saved last, as it is read from its text, or null if it
is too old or nothing was saved. -/
def answer (limit : Binary64) (now : Moment) : Option (Moment × Json) → Except Trouble Setting
  | none => .ok (some .null)
  | some (stored, data) =>
      if isFresh limit now stored then (readStored (written data)).map some else .ok (some .null)

/-! ## The files mirror the map -/

/-- The file of a key with its time, and its last save: there is its file, or a clean-up was right
to remove it. -/
inductive Mirrored (limit : Binary64) (uses : List Use) :
    Option Text → Binary64 → Option (Moment × Json) → Prop where
  | unsaved (stamp : Binary64) : Mirrored limit uses none stamp none
  | stored (moment : Moment) (data : Json) :
      Mirrored limit uses (some (written (record moment.clock (some data)))) moment.clock
        (some (moment, data))
  | removed (stamp : Binary64) (moment : Moment) (data : Json) {use : Use} (mem : use ∈ uses)
      (stale : ∀ now : Moment, use.moment.time ≤ now.time → isFresh limit now moment = false) :
      Mirrored limit uses none stamp (some (moment, data))

section

variable {limit : Binary64} {s : Session} {uses : List Use} {now : Moment}

/-- A further use does not change what is mirrored. -/
lemma Mirrored.append {content : Option Text} {stamp : Binary64} {saved : Option (Moment × Json)}
    (h : Mirrored limit uses content stamp saved) (use : Use) :
    Mirrored limit (uses ++ [use]) content stamp saved := by
  cases h with
  | unsaved => exact .unsaved stamp
  | stored moment data => exact .stored moment data
  | removed _ moment data mem stale =>
      exact .removed stamp moment data (List.mem_append_left _ mem) stale

/-- A clean-up keeps the mirror: it removes a file only if it is never good again. -/
lemma Mirrored.clean {browser : Json} (hlasts : Lasts browser limit) {content : Option Text}
    {stamp : Binary64} {saved : Option (Moment × Json)}
    (h : Mirrored limit uses content stamp saved)
    {use : Use} (mem : use ∈ uses) :
    Mirrored limit uses (if isStale use.moment.clock limit stamp then none else content) stamp
      saved := by
  split
  case isTrue hstale =>
    cases h with
    | unsaved => exact .unsaved stamp
    | stored moment data =>
        exact .removed _ moment data mem fun now => not_isFresh_of_isStale hlasts hstale
    | removed _ moment data mem' stale => exact .removed stamp moment data mem' stale
  case isFalse => exact h

/-- A check finds what the map answers in the file of its key. -/
lemma Mirrored.check {key : Key} {saved : Option (Moment × Json)} (hlasts : Lasts s.browser limit)
    (hcache : HasCache s) (h : Mirrored limit uses (s.files.content? (cachePath key.text))
      (s.stamp (cachePath key.text)) saved)
    (hclock : s.clock = now.clock) (hnow : ∀ use ∈ uses, use.moment.time ≤ now.time) :
    performed (checkCache (some (.str key.text))) s = (answer limit now saved, s) := by
  rw [performed_checkCache hcache]
  generalize s.files.content? (cachePath key.text) = content at h ⊢
  generalize s.stamp (cachePath key.text) = stamp at h
  cases h with
  | unsaved => rfl
  | stored moment data =>
      obtain ⟨v, hv, hrecord⟩ := readStored_record moment.normal moment.unsigned data
      have hresult := performed_resultIn hlasts hrecord
      rw [← Moment.clock, hclock, ← isFresh] at hresult
      refine hresult.trans ?_
      rw [answer, hv]
      split <;> rfl
  | removed _ moment data mem stale =>
      rw [answer, stale now (hnow _ mem)]
      rfl

lemma exists_answer (limit : Binary64) (now : Moment) (saved : Option (Moment × Json)) :
    ∃ v, answer limit now saved = .ok v := by
  cases saved with
  | none => exact ⟨_, rfl⟩
  | some saved =>
      obtain ⟨v, hv, -⟩ := readStored_record saved.1.normal saved.1.unsigned saved.2
      rw [answer, hv]
      split <;> exact ⟨_, rfl⟩

/-- The file of another key keeps its time when a file is written. -/
lemma stamp_keep {key key' : Key} (h : key.text ≠ key'.text) (content : Text) :
    (s.keep (cachePath key.text) content).stamp (cachePath key'.text) =
      s.stamp (cachePath key'.text) := by
  have hfolder : cachePath key'.text ≠ Path.parent (cachePath key.text) := by
    rw [parent_cachePath]
    intro heq
    have hin := inCache_cachePath key'
    rw [heq] at hin
    revert hin
    decide
  have hpath : cachePath key'.text ≠ cachePath key.text := fun heq =>
    h (cachePath_injective heq).symm
  simp [Session.keep, hpath, hfolder]

variable [Platform]

/-- A request as a program; what it answers is left out. -/
def Request.run : Request → Run Unit
  | .save key data => saveCache (some (.str key.text)) (some data)
  | .check key => discard (checkCache (some (.str key.text)))
  | .clean => cleanCache

/-- How a use of the cache ends, and the session after it. -/
def Use.performed (use : Use) (s : Session) : Except Trouble Unit × Session :=
  Crawl.performed use.request.run { s with clock := use.moment.clock }

/-- What a use saves does not lie too deep to be written. -/
def Use.HasRoom (use : Use) : Prop :=
  match use.request with
  | .save _ data => (record use.moment.clock (some data)).nesting ≤ Platform.writeRoom
  | _ => True

instance (use : Use) : Decidable use.HasRoom := by
  unfold Use.HasRoom
  split <;> infer_instance

/-- What a use saves in the file of a key, with its moment. -/
def Use.saved? (key : Key) (use : Use) : Option (Moment × Json) :=
  match use.request with
  | .save key' data =>
      if key'.text = key.text ∧ use.HasRoom then some (use.moment, data) else none
  | _ => none

/-- What was saved for a key, in the order in which it was saved. -/
def savesOf (key : Key) (uses : List Use) : List (Moment × Json) :=
  uses.filterMap (Use.saved? key)

/-- **The files of a session mirror the uses of its cache.** -/
structure Mirrors (limit : Binary64) (s : Session) (uses : List Use) : Prop where
  lasts : Lasts s.browser limit
  hasCache : HasCache s
  files (key : Key) : Mirrored limit uses (s.files.content? (cachePath key.text))
    (s.stamp (cachePath key.text)) (savesOf key uses).getLast?

lemma getLast?_savesOf_append (key : Key) (uses : List Use) (use : Use) :
    (savesOf key (uses ++ [use])).getLast? =
      (use.saved? key).or (savesOf key uses).getLast? := by
  have happend : savesOf key (uses ++ [use]) = savesOf key uses ++ (use.saved? key).toList := by
    rw [savesOf, savesOf, List.filterMap_append]
    cases h : use.saved? key <;> simp [h]
  rw [happend, List.getLast?_append]
  cases use.saved? key <;> rfl

/-- **A check answers as the map does**, and changes nothing. -/
lemma Mirrors.check (h : Mirrors limit s uses) (hnow : ∀ use ∈ uses, use.moment.time ≤ now.time)
    (key : Key) :
    performed (checkCache (some (.str key.text))) { s with clock := now.clock } =
      (answer limit now (savesOf key uses).getLast?, { s with clock := now.clock }) := by
  have hlasts : Lasts ({ s with clock := now.clock } : Session).browser limit := h.lasts
  have hcache : HasCache { s with clock := now.clock } := ⟨h.hasCache.there, h.hasCache.noFolders⟩
  exact Mirrored.check hlasts hcache (h.files key) rfl hnow

/-- The clock goes on, and nothing is saved. -/
lemma Mirrors.unsaved (h : Mirrors limit s uses) (clock : Binary64) {use : Use}
    (hnone : ∀ key, Use.saved? key use = none) :
    Mirrors limit { s with clock := clock } (uses ++ [use]) := by
  refine ⟨h.lasts, ⟨h.hasCache.there, h.hasCache.noFolders⟩, fun key => ?_⟩
  rw [getLast?_savesOf_append, hnone]
  exact (h.files key).append use

/-- A file that is written is that of the last save. -/
lemma Mirrors.saved (h : Mirrors limit s uses) {key : Key} {moment : Moment} {data : Json}
    (hroom : Use.HasRoom ⟨moment, .save key data⟩) :
    Mirrors limit (Session.keep { s with clock := moment.clock } (cachePath key.text)
      (written (record moment.clock (some data)))) (uses ++ [⟨moment, .save key data⟩]) := by
  refine ⟨h.lasts, ⟨h.hasCache.there, h.hasCache.noFolders⟩, fun key' => ?_⟩
  rw [getLast?_savesOf_append, content?_keep]
  by_cases hkey : key.text = key'.text
  · have hsaved : Use.saved? key' ⟨moment, .save key data⟩ = some (moment, data) :=
      if_pos ⟨hkey, hroom⟩
    have hstamp : (Session.keep { s with clock := moment.clock } (cachePath key'.text)
        (written (record moment.clock (some data)))).stamp (cachePath key'.text) =
          moment.clock := by simp [Session.keep]
    rw [hsaved, hkey, if_pos rfl, Option.some_or, hstamp]
    exact .stored moment data
  · have hsaved : Use.saved? key' ⟨moment, .save key data⟩ = none :=
      if_neg fun hboth => hkey hboth.1
    rw [hsaved, if_neg fun heq => hkey (cachePath_injective heq).symm, stamp_keep hkey]
    exact (h.files key').append _

/-- **A use keeps the mirror.**  It fails exactly if it saves something that lies too deep. -/
lemma Mirrors.use (h : Mirrors limit s uses) {use : Use}
    (hnow : ∀ earlier ∈ uses, earlier.moment.time ≤ use.moment.time) :
    ((use.performed s).1 = .ok () ↔ use.HasRoom) ∧
      Mirrors limit (use.performed s).2 (uses ++ [use]) := by
  obtain ⟨moment, request⟩ := use
  have hlasts : Lasts ({ s with clock := moment.clock } : Session).browser limit := h.lasts
  have hcache : HasCache { s with clock := moment.clock } :=
    ⟨h.hasCache.there, h.hasCache.noFolders⟩
  cases request with
  | save key data =>
      have htext : textOf (some (.str key.text)) = .ok key.text := rfl
      rw [Use.performed, Request.run]
      rcases saveCache_cases htext (some data) { s with clock := moment.clock } with
        ⟨⟨hroom, -⟩, hsaved⟩ | ⟨hroom, t, hsaved⟩
      · rw [hsaved]
        exact ⟨iff_of_true rfl hroom, h.saved hroom⟩
      · have hdeep : ¬Use.HasRoom ⟨moment, .save key data⟩ := fun hfits =>
          hroom ⟨hfits, hcache.isWritable key⟩
        rw [hsaved]
        exact ⟨iff_of_false nofun hdeep, h.unsaved _ fun _ => if_neg fun hboth => hdeep hboth.2⟩
  | check key =>
      obtain ⟨v, hv⟩ := exists_answer limit moment (savesOf key uses).getLast?
      rw [Use.performed, Request.run, performed_discard, h.check hnow, hv]
      exact ⟨iff_of_true rfl trivial, h.unsaved _ fun _ => rfl⟩
  | clean =>
      rw [Use.performed, Request.run, performed_cleanCache hlasts hcache]
      refine ⟨iff_of_true rfl trivial, h.lasts, ⟨h.hasCache.there, h.hasCache.noFolders⟩,
        fun key => ?_⟩
      rw [getLast?_savesOf_append, content?_swept]
      have happend := (h.files key).append ⟨moment, .clean⟩
      exact happend.clean hlasts (List.mem_append_right uses (List.mem_singleton.2 rfl))

end

/-- The first moment. -/
def Moment.zero : Moment :=
  ⟨false, 0, Binary64.minExponent, Binary64.normal_zero, nofun⟩

/-- The moment an hour later. -/
def Moment.hour : Moment where
  negative := false
  significand := 3600000 * 2 ^ 31
  exponent := -31
  normal := ⟨by norm_num, by decide, by decide, .inl (by norm_num)⟩
  unsigned := nofun

end Gleaner.Crawl.Cache
