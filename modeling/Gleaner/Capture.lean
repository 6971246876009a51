import Gleaner.Article

/-!
# Capturing pages with a browser

Some pages only show themselves in a browser.  Three captures are known: the markup, text and picture
of a note in a fresh browser; its text and picture in a browser that is already running; and a picture
of the login page.

* `openPage`, `readText`, `takePicture` — what a browser is asked for.
* `captureNote`, `captureShown`, `captureLogin` — the captures.
-/

namespace Gleaner.Capture

variable [Platform]

/-- The folder of the captures. -/
def folder : Text := Article.folder

/-- The note that is captured. -/
def noteUrl : Text := "https://www.xiaohongshu.com/discovery/item/69d24abf000000002300660d"

/-- The name under which the browser comes. -/
def agent : Json :=
  "Mozilla/5.0 (Macintosh; Intel Mac OS X 10_15_7) AppleWebKit/537.36 (KHTML, like Gecko) Chrome/120.0.0.0 Safari/537.36"

/-- Records what the browser is asked to do. -/
def record (c : BrowserCall) : Program Unit :=
  modify fun w => { w with calls := w.calls ++ [c] }

/-- Fails if the browser does. -/
def failIf (failure : Option Text) : Program Unit :=
  match failure with
  | some m => Program.fail (.browser m)
  | none => pure ()

/-- Makes the folder of the captures. -/
def makeFolder : Program Unit := do
  record (.makeFolder folder)
  ensureFolder folder

/-- Visits a page. -/
def goto (url : Text) (event : Json) (timeout : Int) : Program Unit := do
  record (.goto url (Json.object [("wait_until", event), ("timeout", .int timeout)]))
  failIf (← get).screen.gotoFailure

/-- The markup of the page. -/
def readMarkup : Program Text := do
  record .content
  return (← get).screen.content

/-- The text of the page. -/
def readText : Program Text := do
  record (.innerText "body")
  failIf (← get).screen.textFailure
  return (← get).screen.innerText

/-- Takes a picture of the page. -/
def takePicture (path : Text) (whole : Bool) : Program Unit := do
  let base : List (String × Json) := [("path", .str path)]
  record (.screenshot (Json.object (base ++ if whole then [("full_page", .bool true)] else [])))
  failIf (← get).screen.screenshotFailure

/-- A file of the captures. -/
def file (name : Text) : Text :=
  Path.join folder name

/-- Runs a part of a capture; its fault is shown and does not end the capture. -/
def guarded (notice : Text) (t : Program Unit) : Program Unit := do
  match ← Program.attempt t with
  | .ok _ => pure ()
  | .error f => say [notice, f.message]

/-- Captures the note in a fresh browser. -/
def captureNote : Program Unit := do
  makeFolder
  record (.launch (Json.object [("headless", .bool true)]))
  record (.newContext (Json.object [("user_agent", agent)]))
  say ["Navigating to ", noteUrl]
  goto noteUrl "networkidle" 30000
  pause 5000
  let markup ← readMarkup
  let markupFile := file "2026-04-10-144100.html"
  writeFile markupFile markup
  say ["Saved HTML to ", markupFile]
  guarded "Could not extract text: " do
    let text ← readText
    let textFile := file "2026-04-10-144100.txt"
    writeFile textFile text
    say ["Saved text to ", textFile]
  guarded "Could not take screenshot: " do
    let picture := file "2026-04-10-144100.png"
    takePicture picture true
    say ["Saved screenshot to ", picture]
  record (.close "browser")

/-- Captures the note in a browser that is already running. -/
def captureShown : Program Unit := do
  makeFolder
  record (.connect "http://localhost:9222")
  record (.newContext (Json.object [("user_agent", agent)]))
  say ["Navigating to ", noteUrl, "..."]
  goto noteUrl "domcontentloaded" 60000
  pause 8000
  let picture := file "2026-04-10-163100.png"
  takePicture picture true
  say ["Screenshot: ", picture]
  guarded "Text error: " do
    let text ← readText
    let textFile := file "2026-04-10-163100.txt"
    writeFile textFile text
    say ["Text saved: ", textFile]
    say ["Content length: ", Text.ofNat text.length, " chars"]
    say ["Preview: ", text.take 800]
  record (.close "context")

/-- The arguments of a browser that can be seen. -/
def visibleArguments : List Json :=
  ["--no-sandbox", "--disable-setuid-sandbox", "--disable-dev-shm-usage", "--disable-gpu",
    "--disable-blink-features=AutomationControlled", "--disable-extensions", "--no-first-run",
    "--disable-default-apps", "--ozone-platform=x11"]

/-- Captures the login page. -/
def captureLogin : Program Unit := do
  makeFolder
  let display := (← get).display.getD ":99"
  record (.launch (Json.object [("headless", .bool false), ("args", .arr visibleArguments),
    ("env", Json.object [("DISPLAY", .str display), ("WAYLAND_DISPLAY", "")])]))
  record (.newContext (Json.object [("user_agent", agent),
    ("viewport", Json.object [("width", .int 1280), ("height", .int 900)])]))
  say ["Navigating to Xiaohongshu (timeout=90s)..."]
  guarded "Navigation: " do
    goto "https://www.xiaohongshu.com" "domcontentloaded" 90000
    say ["Page loaded!"]
  pause 3000
  let picture := file "xhs_login.png"
  takePicture picture false
  say ["Screenshot: ", picture]
  record (.close "browser")
  say ["Done!"]

end Gleaner.Capture
