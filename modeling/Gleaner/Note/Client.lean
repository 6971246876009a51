import Gleaner.Json.Access
import Gleaner.World.Basic

/-!
# The note service

A service on this machine searches notes, shows them and publishes new ones.  Its replies are JSON
values without a promise about their shape.

* `status`, `search`, `detail`, `feeds`, `publish` — the requests, each of which shows its reply.
* `connected` — what happens when the service cannot be reached.
-/

namespace Gleaner.Note

variable [Platform]

/-- The address of the service. -/
def base : Text := "http://localhost:18060"

/-- Seconds that a request may take. -/
def timeout : Nat := 60

/-- Seconds that publishing may take. -/
def publishTimeout : Nat := 120

/-- Runs a request; when the service cannot be reached, shows a notice and ends the program. -/
def connected {α : Type} (notice : Text) (t : Program α) : Program α := do
  match ← Program.attempt t with
  | .ok a => return a
  | .error f =>
      if f.isConnection then do
        say [notice]
        Program.exit 1
      else Program.fail f

/-- The notice of most requests. -/
def unreachable : Text := "❌ Cannot connect to MCP server."

/-- The value of a reply. -/
def valueOf (r : Reply) : Program Json :=
  Program.lift (Json.parse r.text)

/-- A member of a value, or a default. -/
def member (v : Json) (name : Text) (default : Json) : Program Json :=
  Program.lift (v.getD name default)

/-- A member of a value as it is shown. -/
def shown (v : Json) (name : Text) (default : Json) : Program Text := do
  return (← member v name default).display

/-- Whether a reply reports success. -/
def isSuccess (v : Json) : Program Bool := do
  return (← member v "success" .null).isTruthy

/-- Shows the error of a reply. -/
def showError (v : Json) (heading : Text) : Program Unit := do
  let e ← shown v "error" "Unknown error"
  say ["❌ ", heading, ": ", e]

/-! ## The state of the login -/

/-- Asks for the state of the login. -/
def status : Program Json :=
  connected (Text.cat ["❌ Cannot connect to MCP server. Make sure xiaohongshu-mcp is running on ",
    "localhost:18060"]) do
    let reply ← fetch (.str (base ++ "/api/v1/login/status")) timeout
    let v ← valueOf reply
    if ← isSuccess v then
      let login ← member v "data" (.obj [])
      if (← member login "is_logged_in" .null).isTruthy then
        let user ← shown login "username" "Unknown"
        say ["✅ Logged in as: ", user]
      else say ["❌ Not logged in. Please run the login tool first."]
    else showError v "Error"
    return v

/-! ## Lists of notes -/

/-- How a note in a list is shown. -/
inductive Listing where
  | full
  | brief
  deriving DecidableEq, Repr

/-- The numbers that show how a note is received. -/
def showCounts (interact : Json) : Program Unit := do
  let likes ← shown interact "likedCount" "0"
  let collects ← shown interact "collectedCount" "0"
  let comments ← shown interact "commentCount" "0"
  say ["Likes: ", likes, " | Collects: ", collects, " | Comments: ", comments]

/-- Shows a note of a list. -/
def showEntry (listing : Listing) (i : Nat) (feed : Json) : Program Unit := do
  let card ← member feed "noteCard" (.obj [])
  let user ← member card "user" (.obj [])
  let interact ← member card "interactInfo" (.obj [])
  let title ← shown card "displayTitle" "No title"
  say ["[", Text.ofNat i, "] ", title]
  let author ← shown user "nickname" "Unknown"
  say ["    Author: ", author]
  match listing with
  | .brief => do
      let likes ← shown interact "likedCount" "0"
      say ["    Likes: ", likes]
  | .full => do
      let likes ← shown interact "likedCount" "0"
      let collects ← shown interact "collectedCount" "0"
      let comments ← shown interact "commentCount" "0"
      say ["    Likes: ", likes, " | Collects: ", collects, " | Comments: ", comments]
      let id ← shown feed "id" .null
      say ["    feed_id: ", id]
      let token ← shown feed "xsecToken" .null
      say ["    xsec_token: ", token]
  say []

/-- Shows the notes of a list, counted from `i`. -/
def showEntries (listing : Listing) : Nat → List Json → Program Unit
  | _, [] => pure ()
  | i, feed :: rest => do
      showEntry listing i feed
      showEntries listing (i + 1) rest

/-- Shows the list of a reply under a heading about their number. -/
def showList (listing : Listing) (v : Json) (heading : Text → Text) : Program Unit := do
  let data ← member v "data" (.obj [])
  let list ← member data "feeds" (.arr [])
  let count ← Program.lift list.size
  say [heading (Text.ofNat count), "\n"]
  let entries ← Program.lift list.items
  showEntries listing 1 entries

/-- What a search asks for. -/
structure Query where
  keyword : Json
  order : Json := "综合"
  kind : Json := "不限"
  time : Json := "不限"

/-- Searches notes. -/
def search (q : Query) : Program Json :=
  connected unreachable do
    let filters := Json.object [("sort_by", q.order), ("note_type", q.kind),
      ("publish_time", q.time)]
    let reply ← send (base ++ "/api/v1/feeds/search") timeout
      (Json.object [("keyword", q.keyword), ("filters", filters)])
    let v ← valueOf reply
    if ← isSuccess v then
      showList .full v fun count =>
        Text.cat ["🔍 Found ", count, " notes for '", q.keyword.display, "':"]
    else showError v "Search failed"
    return v

/-- Asks for recommended notes. -/
def feeds : Program Json :=
  connected unreachable do
    let reply ← fetch (.str (base ++ "/api/v1/feeds/list")) timeout
    let v ← valueOf reply
    if ← isSuccess v then
      showList .brief v fun count => Text.cat ["📋 Recommended Feeds (", count, " notes):"]
    else showError v "Failed to get feeds"
    return v

/-! ## One note -/

/-- Shows a comment. -/
def showComment (c : Json) : Program Unit := do
  let user ← member c "userInfo" (.obj [])
  let name ← shown user "nickname" "Anonymous"
  let content ← shown c "content" ""
  say ["  - ", name, ": ", content]

/-- Shows the first comments of a note. -/
def showComments (comments : Json) : Program Unit := do
  let list ← member comments "list" (.arr [])
  if list.isTruthy then
    let count ← Program.lift list.size
    say ["\n💬 Top Comments (", Text.ofNat count, "):"]
    let first ← Program.lift (list.firstItems 5)
    first.forM showComment

/-- Shows a note. -/
def showNote (note comments : Json) : Program Unit := do
  say ["📝 Note Details:\n"]
  let title ← shown note "title" "No title"
  say ["Title: ", title]
  let user ← member note "user" (.obj [])
  let author ← shown user "nickname" "Unknown"
  say ["Author: ", author]
  let location ← shown note "ipLocation" "Unknown"
  say ["Location: ", location]
  let content ← shown note "desc" "No content"
  say ["\nContent:\n", content, "\n"]
  let interact ← member note "interactInfo" (.obj [])
  showCounts interact
  showComments comments

/-- Asks for one note. -/
def detail (id token comments : Json) : Program Json :=
  connected unreachable do
    let reply ← send (base ++ "/api/v1/feeds/detail") timeout
      (Json.object [("feed_id", id), ("xsec_token", token), ("load_all_comments", comments)])
    let v ← valueOf reply
    if ← isSuccess v then
      let data ← member v "data" (.obj [])
      let inner ← member data "data" (.obj [])
      let note ← member inner "note" (.obj [])
      let comments ← member inner "comments" (.obj [])
      showNote note comments
    else showError v "Failed to get details"
    return v

/-! ## Publishing -/

/-- A list as it is, any other value as a list of one. -/
def asList : Json → Json
  | .arr vs => .arr vs
  | v => .arr [v]

/-- The payload of a new note. -/
def payload (title content images tags : Json) : Json :=
  let base : List (String × Json) :=
    [("title", title), ("content", content), ("images", asList images)]
  Json.object (base ++ if tags.isTruthy then [("tags", asList tags)] else [])

/-- Publishes a note. -/
def publish (title content images tags : Json) : Program Json :=
  connected unreachable do
    let reply ← send (base ++ "/api/v1/publish") publishTimeout (payload title content images tags)
    let v ← valueOf reply
    if ← isSuccess v then
      say ["✅ Note published successfully!"]
      let data ← member v "data" (.obj [])
      let id ← shown data "post_id" "Unknown"
      say ["   Post ID: ", id]
    else showError v "Publish failed"
    return v

end Gleaner.Note
