import Gleaner.Article
import Gleaner.Proofs.World.Exchanges
import Gleaner.Proofs.World.LastLines
import Gleaner.Proofs.World.Paths

/-!
# What the collector of articles does to the files

The title of an article comes from any page, and becomes part of a file name; a run can fail in the
request, in the page, in the folder and in the file.  Still a run changes one file at most, and the
ways in which it can stop are known (`article_in_one_file`).

**Names.**  No title leads out of the folder (`noStroke_fileName`), and the path of an article is
the one under which it is written (`content?_of_write_article`).  The stamp has fourteen digits
exactly if the year has four (`length_stamp_eq_iff`).

**Runs.**  A run makes one request; what follows only depends on the text that comes back and on the
site (`exists_outcome_collect`).  An article of the known site is kept as far as the files allow it
(`keepArticle_cases`), while any other page stops the run (`stops_keepPage`).
-/

namespace Gleaner.Article

/-! ## Names -/

/-- The name of the file of an article. -/
def fileName (m : Moment) (title : Text) : Text :=
  Text.cat [stamp m, "_", (safeName title).take 100, ".md"]

lemma ofInt_natCast (n : Nat) : Text.ofInt n = Text.ofNat n := by
  rw [Text.ofInt, if_neg (by omega), Int.natAbs_natCast]

lemma allDigits_padded (n : Nat) : Text.AllDigits (Json.padded n) := by
  rw [Json.padded, ofInt_natCast]
  split_ifs
  · exact Text.allDigits_append (s := ['0']) (Text.allDigits_zeros 1) (Text.allDigits_ofNat n)
  · exact Text.allDigits_ofNat n

lemma allDigits_stamp (m : Moment) : Text.AllDigits (stamp m) := by
  intro c hc
  simp only [stamp, Text.cat, List.flatten_cons, List.flatten_nil, List.append_nil, List.mem_append]
    at hc
  rcases hc with hc | hc | hc | hc | hc | hc
  · exact Text.allDigits_ofNat _ c hc
  all_goals exact allDigits_padded _ c hc

lemma noStroke_safeName (title : Text) : '/' ∉ safeName title := by
  rw [safeName, List.mem_map]
  rintro ⟨c, -, hc⟩
  split_ifs at hc with hforbidden
  · cases hc
  · rw [hc] at hforbidden
    exact hforbidden rfl

/-- **No title leads out of the folder.** -/
lemma noStroke_fileName (m : Moment) (title : Text) : '/' ∉ fileName m title := by
  simp only [fileName, Text.cat, List.flatten_cons, List.flatten_nil, List.append_nil,
    List.mem_append, not_or]
  refine ⟨fun h => ?_, by decide, fun h => ?_, by decide⟩
  · have hdigit := allDigits_stamp m _ h
    revert hdigit
    decide
  · exact noStroke_safeName title (List.mem_of_mem_take h)

/-- The numbers of a moment below its year have at most two digits, as on every clock. -/
def OnClock (m : Moment) : Prop :=
  m.month < 100 ∧ m.day < 100 ∧ m.hour < 100 ∧ m.minute < 100 ∧ m.second < 100

lemma length_padded {n : Nat} (h : n < 100) : (Json.padded n).length = 2 := by
  have hpos : 0 < (Text.ofNat n).length := List.length_pos_iff.2 (Text.ofNat_ne_nil n)
  have hle : (Text.ofNat n).length ≤ 2 :=
    (Nat.length_toDigits_le_iff (by decide) (by decide)).2 (by omega)
  rw [Json.padded, ofInt_natCast]
  split_ifs with hshort
  · rw [List.length_cons]
    omega
  · omega

lemma length_stamp {m : Moment} (h : OnClock m) :
    (stamp m).length = (Text.ofNat m.year).length + 10 := by
  obtain ⟨hmonth, hday, hhour, hminute, hsecond⟩ := h
  simp only [stamp, Text.cat, List.flatten_cons, List.flatten_nil, List.append_nil,
    List.length_append, length_padded, hmonth, hday, hhour, hminute, hsecond]

/-- **The stamp of a moment has fourteen digits exactly if its year has four.** -/
lemma length_stamp_eq_iff {m : Moment} (h : OnClock m) :
    (stamp m).length = 14 ↔ 1000 ≤ m.year ∧ m.year ≤ 9999 := by
  have hlength := length_stamp h
  have hfour : (Text.ofNat m.year).length ≤ 4 ↔ m.year < 10 ^ 4 :=
    Nat.length_toDigits_le_iff (by decide) (by decide)
  have hthree : (Text.ofNat m.year).length ≤ 3 ↔ m.year < 10 ^ 3 :=
    Nat.length_toDigits_le_iff (by decide) (by decide)
  omega

/-! ## Paths -/

lemma folder_ne_nil : folder ≠ [] := by decide

/-- The names on the way from the root to the folder. -/
def folderNames : List Text :=
  ["home", "leo", ".openclaw", "workspace", "collection"]

lemma parts_folder : Path.parts folder = [] :: folderNames := by decide

lemma isName_folderNames :
    ∀ q ∈ folderNames, Path.IsName q ∧ Path.byteLength q ≤ Path.maxPart := by decide

lemma isName_fileName (m : Moment) (title : Text) : Path.IsName (fileName m title) := by
  refine Path.isName_of_length ?_ (noStroke_fileName m title)
  have : ".md".toList.length = 3 := rfl
  simp only [fileName, Text.cat, List.flatten_cons, List.flatten_nil, List.append_nil,
    List.length_append]
  omega

/-- The path of an article is a path of names. -/
lemma parts_path (m : Moment) (title : Text) :
    ∃ names, Path.parts (Path.join folder (fileName m title)) = [] :: names ∧
      ∀ q ∈ names, Path.IsName q := by
  rw [Path.parts_join_eq_append folder_ne_nil (noStroke_fileName m title), parts_folder]
  refine ⟨_, rfl, fun q hq => ?_⟩
  rcases List.mem_append.1 hq with hq | hq
  · exact (isName_folderNames q hq).1
  · rw [List.mem_singleton.1 hq]
    exact isName_fileName m title

/-- An article is written under its path, and no other file changes. -/
lemma content?_of_write_article {fs fs' : Files} {m : Moment} {title text : Text}
    (h : fs.write (Path.join folder (fileName m title)) text = .ok fs') (p : Text) :
    fs'.content? p =
      if p = Path.join folder (fileName m title) then some text else fs.content? p := by
  obtain ⟨names, hpath, hnames⟩ := parts_path m title
  exact Files.content?_of_write_root hpath hnames h p

/-- A file stands where the folder of the collection should be, or a folder on the way to it. -/
def FolderBlocked (fs : Files) : Prop :=
  fs.isFolder folder = false ∧
    ∃ p ∈ Path.above folder ++ [folder], (fs.content? p).isSome = true

/-- The folder of the collection can be made unless a file stands in the way. -/
lemma makeFolder_cases (fs : Files) :
    (∃ made, fs.makeFolder folder = .ok made ∧ made.contents = fs.contents ∧ ¬FolderBlocked fs) ∨
      (∃ f, fs.makeFolder folder = .error f) ∧ FolderBlocked fs := by
  rw [FolderBlocked, ← Files.makeFolder_eq_error_iff]
  cases hmake : fs.makeFolder folder with
  | ok made => exact .inl ⟨made, rfl, (Files.isFolder_of_makeFolder hmake).2, by simp⟩
  | error f => exact .inr ⟨⟨f, rfl⟩, f, rfl⟩

/-! ## What a page holds -/

/-- The text that is fetched for an address; without a reply there is none. -/
def fetched (w : World) (url : Text) : Text :=
  match w.answer (.get (.str url) 30) with
  | .reply reply => reply.text
  | .failure _ _ => []

/-- The title of an article: that of its heading, or of its page. -/
def titleOf (page : Markup.Node) : Text :=
  textOr ((page.find? (Markup.Node.withAttribute "h1" "id" "activity-name")).or
    (titleElement? page)) "无标题"

/-- The body of an article. -/
def bodyOf (page : Markup.Node) : Text :=
  textOr (page.find? (Markup.Node.withAttribute "div" "id" "js_content")) "未找到正文内容"

lemma parts_eq (page : Markup.Node) :
    parts page = (layout (titleOf page) (bodyOf page), titleOf page) :=
  rfl

/-- Title and body of the article at an address, if its page can be read. -/
def article? (w : World) (url : Text) : Option (Text × Text) :=
  (Markup.parse (fetched w url)).toOption.map fun page => (titleOf page, bodyOf page)

/-- Whether an address belongs to the known site. -/
def isArticleUrl (url : Text) : Bool :=
  Text.contains url "mp.weixin.qq.com"

/-! ## Runs -/

/-- A request ends, with or without a text. -/
lemma ends_fetchPage (url : Text) (w : World) :
    ∃ got v, Ends (fetchPage (.str url)) w got v ∧ v.files = w.files ∧ v.now = w.now ∧
      got.getD [] = fetched w url := by
  unfold Ends fetchPage fetched World.answer
  rw [outcome_bind, outcome_attempt, fetch_eq_ask, outcome_ask]
  cases (nextPage w (Request.get (.str url) 30).address?).1 with
  | reply reply => exact ⟨some reply.text, _, rfl, rfl, rfl, rfl⟩
  | failure cause message => exact ⟨none, _, rfl, rfl, rfl, rfl⟩

lemma fetched_of_printed {w v : World} (h : Printed w v) (url : Text) :
    fetched v url = fetched w url := by
  rw [h]
  rfl

section

variable [Platform]

/-- Keeps the article on a page. -/
def keepArticle (page : Text) : Program Unit := do
  match ← extract (.str page) with
  | some (text, title) => do
      let _ ← save (.str text) (.value (.str title))
  | none => say ["未成功提取内容"]

/-- Keeps any other page. -/
def keepPage (page : Text) : Program Unit := do
  let tree ← Program.lift (Markup.parse page)
  let heading := titleElement? tree
  let text := layout (textOr heading "无标题") (page.take 2000)
  let title := match heading with
    | some _ => Title.element
    | none => .value .null
  let _ ← save (.str text) title

/-- **What follows the request depends on the text that was fetched and on the site.** -/
lemma exists_outcome_collect (url : Text) (w : World) :
    ∃ v, v.files = w.files ∧ v.now = w.now ∧ outcome (collect (.str url)) w =
      if fetched w url = [] then (.ok (), v)
      else if isArticleUrl url then outcome (keepArticle (fetched w url)) v
      else outcome (keepPage (fetched w url)) v := by
  unfold collect
  obtain ⟨v₁, hv₁, h₁⟩ := exists_outcome_say_bind ["素材收集自动化工具"] _ w
  rw [h₁]
  obtain ⟨v₂, hv₂, h₂⟩ := exists_outcome_say_bind ["=================="] _ v₁
  rw [h₂]
  obtain ⟨v₃, hv₃, h₃⟩ := exists_outcome_say_bind ["正在收集: ", (Json.str url).display] _ v₂
  rw [h₃]
  have hprinted := trans_of Printed (trans_of Printed hv₁ hv₂) hv₃
  obtain ⟨got, v, hgot, hfiles, hnow, hfetched⟩ := ends_fetchPage url v₃
  rw [fetched_of_printed hprinted] at hfetched
  refine ⟨v, hfiles.trans hprinted.files, hnow.trans (by rw [hprinted]), ?_⟩
  rw [hgot.outcome_bind, ← hfetched]
  rcases got with _ | _ | ⟨c, page⟩
  · rfl
  · rfl
  · have hknown : isKnown (.str url) = .ok (isArticleUrl url) := rfl
    rw [if_neg (by simp)]
    dsimp only [Option.getD_some]
    rw [lift_bind_eq hknown]
    cases isArticleUrl url <;> rfl

/-! ## What is kept -/

/-- Without a text as title nothing is saved. -/
lemma stops_save {title : Title} {f : Fault} (h : title.safeName = .error f) (content : Json)
    (v : World) :
    (∃ stop, (outcome (save content title) v).1 = .error stop) ∧
      (outcome (save content title) v).2.files.contents = v.files.contents := by
  unfold save
  rw [outcome_bind, outcome_ensureFolder, h]
  cases hmake : v.files.makeFolder folder with
  | error f => exact ⟨⟨_, rfl⟩, rfl⟩
  | ok made => exact ⟨⟨_, rfl⟩, (Files.isFolder_of_makeFolder hmake).2⟩

/-- **A page of another site stops the run**, and no file has changed. -/
lemma stops_keepPage (page : Text) (v : World) :
    (∃ stop, (outcome (keepPage page) v).1 = .error stop) ∧
      (outcome (keepPage page) v).2.files.contents = v.files.contents := by
  unfold keepPage
  cases Markup.parse page with
  | error f => exact ⟨⟨_, rfl⟩, rfl⟩
  | ok tree =>
      -- the title is an element or nothing at all
      have hsafe : ∃ f, Title.safeName (match titleElement? tree with
          | some _ => Title.element
          | none => .value .null) = .error f := by
        cases titleElement? tree <;> exact ⟨_, rfl⟩
      obtain ⟨f, hsafe⟩ := hsafe
      obtain ⟨⟨stop, hstop⟩, hcontents⟩ := stops_save hsafe
        (.str (layout (textOr (titleElement? tree) "无标题") (page.take 2000))) v
      rw [lift_bind_eq rfl, outcome_bind]
      generalize outcome (save _ _) v = saved at hstop hcontents ⊢
      obtain ⟨result, v'⟩ := saved
      cases hstop
      exact ⟨⟨stop, rfl⟩, hcontents⟩

/-- The line that tells where an article was saved. -/
def savedLine (path : Text) : List (List Text) :=
  [["内容已保存到: ", path]]

/-- The line that tells why an article was not saved. -/
def unsavedLine (f : Fault) : List (List Text) :=
  [["保存文件时出错: ", f.message]]

/-- What the files and the last line are after a text was to be saved in a folder that is there: the
text is in its file; or the file is empty, since no file can hold the text; or nothing has changed,
since the file cannot be written or its name is refused. -/
def Attempted (made : Files) (path text : Text) (w' : World) : Prop :=
  match Platform.refusal path, made.write path (Platform.held text) with
  | none, .ok files => w'.files = files ∧ w'.EndsWith
      (match Platform.refusal text with
        | none => savedLine path
        | some notice => unsavedLine (.unencodable notice))
  | none, .error f => w'.files = made ∧ w'.EndsWith (unsavedLine f)
  | some notice, _ => w'.files = made ∧ w'.EndsWith (unsavedLine (.unencodable notice))

/-- One file has changed if it can be written and its name is not refused. -/
lemma Attempted.content? {made : Files} {m : Moment} {title text : Text} {w' : World}
    (h : Attempted made (Path.join folder (fileName m title)) text w')
    (hpath : Platform.refusal (Path.join folder (fileName m title)) = none)
    (hok : (made.write (Path.join folder (fileName m title)) (Platform.held text)).isOk = true)
    (p : Text) : w'.files.content? p =
      if p = Path.join folder (fileName m title) then some (Platform.held text)
      else made.content? p := by
  rw [Attempted, hpath] at h
  cases hwrite : made.write (Path.join folder (fileName m title)) (Platform.held text) with
  | error f =>
      rw [hwrite] at hok
      cases hok
  | ok files =>
      rw [hwrite] at h
      rw [h.1, content?_of_write_article hwrite]

/-- Nothing has changed if the file cannot be written or its name is refused. -/
lemma Attempted.files_eq {made : Files} {path text : Text} {w' : World}
    (h : Attempted made path text w') (hnot : ¬(Platform.refusal path = none ∧
      (made.write path (Platform.held text)).isOk = true)) : w'.files = made := by
  unfold Attempted at h
  split at h
  case h_1 hpath hwrite => exact absurd ⟨hpath, by rw [hwrite]; rfl⟩ hnot
  case h_2 => exact h.1
  case h_3 => exact h.1

/-- The path that is told after a text was to be saved in a folder that is there. -/
def toldPath (made : Files) (path text : Text) : Option Text :=
  if Platform.refusal path = none ∧ (made.write path (Platform.held text)).isOk = true ∧
    Platform.refusal text = none then some path else none

/-- Tells how the saving went. -/
def tellSaved (path : Text) : Except Fault Unit → Program (Option Text)
  | .ok _ => do
      say ["内容已保存到: ", path]
      return some path
  | .error f => do
      say ["保存文件时出错: ", f.message]
      return none

/-- In a folder that is there a text is saved by writing its file. -/
lemma outcome_save {v : World} {made : Files} (hmake : v.files.makeFolder folder = .ok made)
    (title text : Text) :
    outcome (save (.str text) (.value (.str title))) v =
      outcome (Program.attempt (writeFile (Path.join folder (fileName v.now title)) text) >>=
        tellSaved (Path.join folder (fileName v.now title))) { v with files := made } := by
  unfold save
  rw [outcome_bind, outcome_ensureFolder, hmake]
  rfl

/-- **A text with a title is saved as far as the files allow it.** -/
lemma exists_ends_save {v : World} {made : Files} (hmake : v.files.makeFolder folder = .ok made)
    (title text : Text) :
    ∃ v', Ends (save (.str text) (.value (.str title))) v
        (toldPath made (Path.join folder (fileName v.now title)) text) v' ∧
      Attempted made (Path.join folder (fileName v.now title)) text v' := by
  unfold Attempted Ends toldPath
  rw [outcome_save hmake, outcome_bind, outcome_attempt, outcome_writeFile, Platform.judged,
    Platform.judged]
  generalize Path.join folder (fileName v.now title) = path
  cases Platform.refusal path with
  | some notice => exact ⟨_, rfl, rfl, endsWith_of_say (endsWith_nil _) rfl⟩
  | none =>
      dsimp only
      cases made.write path (Platform.held text) with
      | error f => exact ⟨_, rfl, rfl, endsWith_of_say (endsWith_nil _) rfl⟩
      | ok files =>
          cases Platform.refusal text with
          | none => exact ⟨_, rfl, rfl, endsWith_of_say (endsWith_nil _) rfl⟩
          | some notice => exact ⟨_, rfl, rfl, endsWith_of_say (endsWith_nil _) rfl⟩

/-- **An article is kept as far as the files allow it.**  The run stops if its folder cannot be
made; a page that cannot be read changes nothing. -/
lemma keepArticle_cases (page : Text) (v : World) :
    match Markup.parse page, v.files.makeFolder folder with
    | .error _, _ => ∃ v', Ends (keepArticle page) v () v' ∧ v'.files = v.files
    | .ok _, .error f => outcome (keepArticle page) v = (.error (.fault f), v)
    | .ok tree, .ok made => ∃ v', Ends (keepArticle page) v () v' ∧
        Attempted made (Path.join folder (fileName v.now (titleOf tree)))
          (layout (titleOf tree) (bodyOf tree)) v' := by
  have hparse : Markup.parseValue (.str page) = Markup.parse page := rfl
  unfold keepArticle extract
  rw [hparse]
  cases Markup.parse page with
  | error f => exact ⟨_, rfl, rfl⟩
  | ok tree =>
      cases hmake : v.files.makeFolder folder with
      | error f =>
          dsimp only [save]
          rw [pure_bind, parts_eq]
          dsimp only
          rw [outcome_bind, outcome_bind, outcome_ensureFolder, hmake]
      | ok made =>
          obtain ⟨v', hsave, hattempted⟩ := exists_ends_save hmake (titleOf tree)
            (layout (titleOf tree) (bodyOf tree))
          refine ⟨v', ?_, hattempted⟩
          dsimp only
          rw [pure_bind, parts_eq]
          exact ends_bind.2 ⟨_, v', hsave, ends_pure.2 ⟨rfl, rfl⟩⟩

/-! ## What a run changes -/

section

variable {w : World} {url : Text} {result : Except Stop Unit × World}

/-- A run changes one file at most.  If it does, then it has ended, and the file lies in the folder
of the collection, under the moment and the title of the article.  It holds title and body, and the
run has told where they are saved; or no file can hold them, and then this one is empty and the run
has told so. -/
def KeptInOneFile (w : World) (url : Text) (result : Except Stop Unit × World) : Prop :=
  ∃ path, (∀ p, p ≠ path → result.2.files.content? p = w.files.content? p) ∧
    (result.2.files.content? path ≠ w.files.content? path →
      isArticleUrl url = true ∧ result.1 = .ok () ∧
      ∃ title body, article? w url = some (title, body) ∧
        path = Path.join folder (fileName w.now title) ∧ Path.parent path = folder ∧
        match Platform.refusal (layout title body) with
        | none => result.2.files.content? path = some (layout title body) ∧
            result.2.EndsWith (savedLine path)
        | some notice => result.2.files.content? path = some [] ∧
            result.2.EndsWith (unsavedLine (.unencodable notice)))

lemma keptInOneFile_of_contents_eq (h : result.2.files.contents = w.files.contents) :
    KeptInOneFile w url result := by
  have hcontent : ∀ p, result.2.files.content? p = w.files.content? p := by
    intro p
    rw [Files.content?, h, Files.content?]
  exact ⟨[], fun p _ => hcontent p, fun hne => absurd (hcontent _) hne⟩

/-- Saving an article changes its file at most. -/
lemma Attempted.keptInOneFile {made : Files} {title body : Text}
    (h : Attempted made (Path.join folder (fileName w.now title)) (layout title body) result.2)
    (hmade : made.contents = w.files.contents) (hurl : isArticleUrl url = true)
    (hresult : result.1 = .ok ()) (harticle : article? w url = some (title, body)) :
    KeptInOneFile w url result := by
  unfold Attempted at h
  split at h
  case h_1 files hpath hwrite =>
    obtain ⟨rfl, hline⟩ := h
    have hcontent := content?_of_write_article hwrite
    refine ⟨Path.join folder (fileName w.now title), fun p hp => ?_, fun _ => ?_⟩
    · rw [hcontent, if_neg hp, Files.content?, hmade, Files.content?]
    · refine ⟨hurl, hresult, title, body, harticle, rfl,
        Path.parent_join_of_ne_nil folder_ne_nil (noStroke_fileName _ _), ?_⟩
      rw [hcontent, if_pos rfl, Platform.held]
      cases hrefusal : Platform.refusal (layout title body) with
      | none => exact ⟨rfl, by rwa [hrefusal] at hline⟩
      | some notice => exact ⟨rfl, by rwa [hrefusal] at hline⟩
  all_goals exact keptInOneFile_of_contents_eq (by rw [h.1, hmade])

/-- A run at the known site. -/
lemma collect_article (hurl : isArticleUrl url = true) (w : World) :
    let result := outcome (collect (.str url)) w
    KeptInOneFile w url result ∧
    ((∃ stop, result.1 = .error stop) ↔
      fetched w url ≠ [] ∧ (article? w url).isSome = true ∧ FolderBlocked w.files) ∧
    ∀ title body made, fetched w url ≠ [] → article? w url = some (title, body) →
      w.files.makeFolder folder = .ok made →
        Attempted made (Path.join folder (fileName w.now title)) (layout title body) result.2 := by
  dsimp only
  obtain ⟨v, hfiles, hnow, hresult⟩ := exists_outcome_collect url w
  by_cases hfetched : fetched w url = []
  · rw [hresult, if_pos hfetched]
    exact ⟨keptInOneFile_of_contents_eq (by rw [hfiles]), by simp [hfetched],
      fun _ _ _ hne => absurd hfetched hne⟩
  · rw [if_neg hfetched, if_pos hurl] at hresult
    have hcases := keepArticle_cases (fetched w url) v
    rw [hfiles, hnow] at hcases
    cases hparse : Markup.parse (fetched w url) with
    | error f =>
        have harticle : article? w url = none := by
          rw [article?, hparse]
          rfl
        rw [hparse] at hcases
        obtain ⟨v', hends, hfiles'⟩ := hcases
        rw [hresult, hends, harticle]
        exact ⟨keptInOneFile_of_contents_eq (by rw [hfiles']), by simp, by simp⟩
    | ok tree =>
        have harticle : article? w url = some (titleOf tree, bodyOf tree) := by
          rw [article?, hparse]
          rfl
        rw [hparse] at hcases
        rcases makeFolder_cases w.files with ⟨made, hmake, hmade, hfree⟩ | ⟨⟨f, hmake⟩, hblocked⟩
        · rw [hmake] at hcases
          obtain ⟨v', hends, hattempted⟩ := hcases
          rw [hresult, hends]
          refine ⟨hattempted.keptInOneFile hmade hurl rfl harticle, by simp [hfree], ?_⟩
          intro title body made' _ harticle' hmake'
          cases harticle.symm.trans harticle'
          cases hmake.symm.trans hmake'
          exact hattempted
        · rw [hmake] at hcases
          rw [hresult, hcases, harticle, hmake]
          exact ⟨keptInOneFile_of_contents_eq (by rw [hfiles]), by simp [hfetched, hblocked],
            by simp⟩

/-- A run at another site. -/
lemma collect_other (hurl : isArticleUrl url = false) (w : World) :
    ((∃ stop, (outcome (collect (.str url)) w).1 = .error stop) ↔ fetched w url ≠ []) ∧
      (outcome (collect (.str url)) w).2.files.contents = w.files.contents := by
  obtain ⟨v, hfiles, -, hresult⟩ := exists_outcome_collect url w
  by_cases hfetched : fetched w url = []
  · rw [hresult, if_pos hfetched]
    exact ⟨by simp [hfetched], by rw [hfiles]⟩
  · rw [if_neg hfetched, if_neg (by simp [hurl])] at hresult
    obtain ⟨hstop, hcontents⟩ := stops_keepPage (fetched w url) v
    rw [hresult]
    exact ⟨⟨fun _ => hfetched, fun _ => hstop⟩, by rw [hcontents, hfiles]⟩

end

/-- **The collector of articles changes one file at most, and stops for known reasons only.**
Whatever the address, the files, the clock, the network and the platform are, a run changes no file
but that of the article, which lies in the folder of the collection and holds title and body, or is
empty if no file can hold them (`KeptInOneFile`).

* At the known site a run stops exactly if an article was found and a file stands where the folder
  of the collection should be, or a folder on the way to it.  In a folder that is there the article
  is saved as far as its file can be written and can hold it (`Attempted`).
* At any other site a run stops exactly if something was fetched, and nothing has changed.
* The stamp in the name consists of digits, and on every clock there are fourteen of them exactly if
  the year has four. -/
theorem article_in_one_file (url : Text) (w : World) :
    let result := outcome (collect (.str url)) w
    KeptInOneFile w url result ∧
    (isArticleUrl url = true →
      ((∃ stop, result.1 = .error stop) ↔
        fetched w url ≠ [] ∧ (article? w url).isSome = true ∧ FolderBlocked w.files) ∧
      ∀ title body made, fetched w url ≠ [] → article? w url = some (title, body) →
        w.files.makeFolder folder = .ok made →
          Attempted made (Path.join folder (fileName w.now title)) (layout title body) result.2) ∧
    (isArticleUrl url = false →
      ((∃ stop, result.1 = .error stop) ↔ fetched w url ≠ []) ∧
      result.2.files.contents = w.files.contents) ∧
    Text.AllDigits (stamp w.now) ∧
    (OnClock w.now → ((stamp w.now).length = 14 ↔ 1000 ≤ w.now.year ∧ w.now.year ≤ 9999)) := by
  refine ⟨?_, fun hurl => (collect_article hurl w).2, fun hurl => collect_other hurl w,
    allDigits_stamp w.now, length_stamp_eq_iff⟩
  cases hurl : isArticleUrl url with
  | true => exact (collect_article hurl w).1
  | false => exact keptInOneFile_of_contents_eq (collect_other hurl w).2

end

/-- An address of the known site. -/
def sampleUrl : Text := "https://mp.weixin.qq.com/s/abc"

/-- A world in which the address answers with an article. -/
def sampleWorld (now : Moment) (contents : List (Text × Text)) : World where
  pages := [(sampleUrl, [.reply ⟨200, "OK",
    "<h1 id=\"activity-name\">T</h1><div id=\"js_content\"><p>hello</p></div>"⟩])]
  fallback := .failure .connection "no answer"
  files := ⟨[], contents⟩
  now := now
  display := none
  screen := ⟨[], [], none, none, none⟩
  index := none
  out := []
  err := []
  deeds := []
  calls := []

/-- The path of the article at a moment. -/
def samplePath (stamp : Text) : Text :=
  Text.cat [folder, "/", stamp, "_T.md"]

/-- An article is saved under a stamp of fourteen digits. -/
theorem article_in_one_file_sample :
    let w := sampleWorld ⟨2026, 4, 11, 8, 53, 12⟩ []
    isArticleUrl sampleUrl = true ∧ OnClock w.now ∧ fetched w sampleUrl ≠ [] ∧
    article? w sampleUrl = some ("T".toList, "hello".toList) ∧ (stamp w.now).length = 14 ∧
    (outcome (collect (.str sampleUrl)) w).2.files.content? (samplePath "20260411085312") =
      some "# T\n\nhello".toList := by
  intro w
  have hclock : OnClock w.now := by
    unfold OnClock
    decide
  have hfetched : fetched w sampleUrl ≠ [] := by decide +kernel
  have harticle : article? w sampleUrl = some ("T".toList, "hello".toList) := by decide +kernel
  have hmake : w.files.makeFolder folder = .ok ⟨Path.above folder ++ [folder], []⟩ := rfl
  have hpath : samplePath "20260411085312" = Path.join folder (fileName w.now "T") := by
    decide +kernel
  obtain ⟨-, hknown, -, -, hstamp⟩ := article_in_one_file sampleUrl w
  obtain ⟨-, hattempted⟩ := hknown (by decide +kernel)
  have hsaved := hattempted _ _ _ hfetched harticle hmake
  refine ⟨by decide +kernel, hclock, hfetched, harticle, (hstamp hclock).2 (by decide), ?_⟩
  unfold Attempted at hsaved
  split at hsaved
  case h_1 files _ hwrite =>
    rw [hsaved.1, hpath, content?_of_write_article hwrite, if_pos rfl]
    rfl
  case h_2 f _ hwrite =>
    have hwritten : (Files.write ⟨Path.above folder ++ [folder], []⟩
        (Path.join folder (fileName w.now "T"))
        (Platform.held (layout "T" "hello"))).toOption.isSome = true := by
      decide +kernel
    rw [hwrite] at hwritten
    cases hwritten
  case h_3 hpath => cases hpath

/-- **The stamp can have less than fourteen digits, and a run at the known site can stop**: in the
year 999, and if a file stands where the folder of the collection should be. -/
theorem short_stamp_and_stopped_run :
    ((outcome (collect (.str sampleUrl)) (sampleWorld ⟨999, 2, 28, 9, 9, 9⟩ [])).2.files.content?
        (samplePath "9990228090909") = some "# T\n\nhello".toList) ∧
    isArticleUrl sampleUrl = true ∧
    (outcome (collect (.str sampleUrl))
      (sampleWorld ⟨2026, 4, 11, 8, 53, 12⟩ [(folder, "x")])).1.toOption = none := by
  decide +kernel

end Gleaner.Article
