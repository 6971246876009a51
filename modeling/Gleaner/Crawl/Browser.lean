import Gleaner.Crawl.Pacing

/-!
# The browser of a crawler

The browser is started with fixed arguments; its pages carry the cookies of the settings, the name and
the proxy that the pacing chooses.

* `startBrowser` — starts the browser.
* `cookies` — the cookies of the settings.
* `openPage` — opens a page.
-/

namespace Gleaner.Crawl

/-- The arguments of the browser. -/
def browserArguments : List Json :=
  ["--no-sandbox", "--disable-setuid-sandbox", "--disable-dev-shm-usage", "--disable-gpu",
    "--disable-blink-features=AutomationControlled"]

/-- Whether a setting is the word for false itself. -/
def isFalse : Setting → Bool
  | some (.bool false) => true
  | _ => false

/-- Starts the browser; it is hidden unless the settings say otherwise. -/
def startBrowser : Run Unit := do
  let p ← browserSetting "playwright"
  call (.launch (.obj [("headless".toList, .bool !(isFalse (look p "headless"))),
    ("args".toList, .arr browserArguments)]))

/-- Members of an object; those that are missing are left out. -/
def present (ms : List (String × Setting)) : List (Text × Json) :=
  ms.filterMap fun (name, s) => s.map fun v => (name.toList, v)

/-- A cookie with its defaults. -/
def cookie (c : Json) : Except Trouble Json := do
  let name ← need (some c) "name"
  let c := some c
  return .obj (present [("name", name), ("value", look c "value"),
    ("domain", orElse (look c "domain") (some ".xiaohongshu.com")),
    ("path", orElse (look c "path") (some "/"))])

/-- The cookies of the settings. -/
def cookies : Run (List Json) := do
  let s ← browserSetting "cookie"
  match isOn (look s "enabled"), look s "items" with
  | true, some (.arr items) => Run.lift (items.mapM cookie)
  | _, _ => return []

/-- A setting that is on, or none. -/
def ifOn (s : Setting) : Setting :=
  orElse s none

/-- The options of a proxy. -/
def proxyOptions (p : Setting) : Setting :=
  if isOn p then
    some (.obj (present [("server", p), ("username", ifOn (look p "username")),
      ("password", ifOn (look p "password"))]))
  else none

/-- Opens a page. -/
def openPage : Run Unit := do
  let cs ← cookies
  let name ← userAgent
  let p ← proxy
  let viewport := Json.obj [("width".toList, .int 1280), ("height".toList, .int 720)]
  call (.newContext (.obj (present [("userAgent", name), ("viewport", some viewport),
    ("cookies", if cs.isEmpty then none else some (.arr cs)), ("proxy", proxyOptions p)])))
  call .addScript
  call (.route "**/*")
  call .goOn

/-- Waits for some time, two seconds if none is given. -/
def delay (ms : Setting) : Run Unit :=
  wait (ms.getD (.int 2000))

end Gleaner.Crawl
