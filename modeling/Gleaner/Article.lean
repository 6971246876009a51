import Gleaner.Json.Access
import Gleaner.Markup.Select
import Gleaner.Text.Blank
import Gleaner.World.Basic

/-!
# Collecting articles

An article is fetched, its title and text are taken from its page, and both are kept in a file of the
collection that bears the time and the title.

* `safeName` — a title as part of a file name.
* `save` — keeps a text in the collection.
* `fetchPage` — the page of an article.
* `extract` — title and text of an article.
* `collect` — the program.
-/

namespace Gleaner.Article

variable [Platform]

/-- The folder of the collection. -/
def folder : Text := "/home/leo/.openclaw/workspace/collection"

/-- Characters that no file name should have. -/
def isForbidden (c : Char) : Bool :=
  List.contains ['\\', '/', ':', '*', '?', '"', '<', '>', '|'] c

/-- A title as part of a file name: forbidden characters become low lines. -/
def safeName (title : Text) : Text :=
  title.map fun c => if isForbidden c then '_' else c

/-- What stands as the title of an article: a value, or an element by mistake. -/
inductive Title where
  | value (v : Json)
  | element

/-- The title as part of a file name; only a text has one. -/
def Title.safeName : Title → Except Fault Text
  | .value (.str t) => .ok (Article.safeName t)
  | .value v => .error (.notText v.kind)
  | .element => .error (.notText .element)

/-- A moment as digits: the year as it is, and two digits for each of the other parts. -/
def stamp (m : Moment) : Text :=
  Text.cat [Text.ofNat m.year, Json.padded m.month, Json.padded m.day, Json.padded m.hour,
    Json.padded m.minute, Json.padded m.second]

/-- The path of an article in the collection; at most a hundred characters of the title are used. -/
def path (m : Moment) (safe : Text) : Text :=
  Path.join folder (Text.cat [stamp m, "_", safe.take 100, ".md"])

/-- Writes a value into a file.  The file is made before it shows that the value is no text. -/
def writeValue (path : Text) : Json → Program Unit
  | .str t => writeFile path t
  | v => do
      writeFile path []
      Program.fail (.notWritable v.kind)

/-- Keeps a text in the collection; gives its path. -/
def save (content : Json) (title : Title) : Program (Option Text) := do
  ensureFolder folder
  let safe ← Program.lift title.safeName
  let path := path (← get).now safe
  match ← Program.attempt (writeValue path content) with
  | .ok _ => do
      say ["内容已保存到: ", path]
      return some path
  | .error f => do
      say ["保存文件时出错: ", f.message]
      return none

/-- The page of an address, whatever its status. -/
def fetchPage (url : Json) : Program (Option Text) := do
  match ← Program.attempt (fetch url 30) with
  | .ok reply => return some reply.text
  | .error f => do
      say ["获取网页内容时出错: ", f.message]
      return none

/-- The stripped text of an element, or another text when there is none. -/
def textOr (n : Option Markup.Node) (other : Text) : Text :=
  (n.map fun e => Text.strip e.shownText).getD other

/-- What is written for an article. -/
def layout (title body : Text) : Text :=
  Text.cat ["# ", title, "\n\n", body]

/-- The heading element of a page. -/
def titleElement? (page : Markup.Node) : Option Markup.Node :=
  page.find? (Markup.Node.isElement "title")

/-- Text and title of an article. -/
def parts (page : Markup.Node) : Text × Text :=
  let heading := page.find? (Markup.Node.withAttribute "h1" "id" "activity-name")
  let title := textOr (heading.or (titleElement? page)) "无标题"
  let body := textOr (page.find? (Markup.Node.withAttribute "div" "id" "js_content"))
    "未找到正文内容"
  (layout title body, title)

/-- Text and title of the article on a page that may be no text. -/
def extract (page : Json) : Program (Option (Text × Text)) := do
  match Markup.parseValue page with
  | .ok n => return some (parts n)
  | .error f => do
      say ["解析微信文章时出错: ", f.message]
      return none

/-- Whether an address belongs to the site whose articles are understood. -/
def isKnown (url : Json) : Except Fault Bool :=
  url.holdsText "mp.weixin.qq.com"

/-- Collects the article of an address. -/
def collect (url : Json) : Program Unit := do
  say ["素材收集自动化工具"]
  say ["=================="]
  say ["正在收集: ", url.display]
  match ← fetchPage url with
  | none | some [] => pure ()
  | some page =>
      if ← Program.lift (isKnown url) then
        match ← extract (.str page) with
        | some (text, title) => do
            let _ ← save (.str text) (.value (.str title))
        | none => say ["未成功提取内容"]
      else do
        let tree ← Program.lift (Markup.parse page)
        let heading := titleElement? tree
        let text := layout (textOr heading "无标题") (page.take 2000)
        let title := match heading with
          | some _ => Title.element
          | none => .value .null
        let _ ← save (.str text) title

/-- The program: the first argument is the address. -/
def run (arguments : List Text) : Program Unit := do
  match arguments with
  | url :: _ => collect (.str url)
  | [] => do
      say ["用法: python collect_material.py <url>"]
      say ["示例: python collect_material.py 'https://mp.weixin.qq.com/s/914w3MWqnEGTBkkzv-oGuA'"]

end Gleaner.Article
