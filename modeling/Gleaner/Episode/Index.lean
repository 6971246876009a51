import Gleaner.Episode.Name
import Gleaner.Markup.Select
import Gleaner.World.Sites

/-!
# The index of a series

The index page of a series lists its episodes under headings such as *Series 3*.  Two readings of the
page are known.  The first goes through the parts of the body and counts from each heading on; when it
finds too little, the second takes the links between each heading and the next.

* `Entry` — an episode in the list.
* `seasonNumber?` — the season that a heading names.
* `Entry.ofBody`, `Entry.ofHeadings` — the two readings.
* `readIndex` — the list of an index page.
* `transcriptLink?` — the address of the transcript on the page of an episode.
-/

namespace Gleaner.Episode

variable [Platform]

/-- The index page of the series. -/
def indexUrl : Text := "https://imsdb.com/TV/South%20Park.html"

/-- Milliseconds that a browser may take. -/
def browserTimeout : Nat := 30000

/-- The format in which transcripts are kept. -/
def format : Text := "fountain"

/-- An episode in the list. -/
structure Entry where
  title : Text
  season : Nat
  number : Nat
  page : Text
  transcript : Text
  deriving DecidableEq, Repr

/-- An entry as it is stored. -/
def Entry.toJson (e : Entry) : Json :=
  Json.object [("title", .str e.title), ("season", .int e.season), ("episode_num", .int e.number),
    ("imsdb_url", .str e.page), ("transcript_url", .str e.transcript)]

/-- The digits behind the word *series*, in any case, and blanks. -/
def seasonDigits? : Text → Option Text
  | [] => none
  | c :: rest =>
      let digits := (Text.afterFolded? "series" (c :: rest)).map fun after =>
        (Text.stripLeft after).takeWhile Text.isDecimal
      match digits with
      | some (d :: ds) => some (d :: ds)
      | _ => seasonDigits? rest

/-- The season that a heading names. -/
def seasonNumber? (t : Text) : Except Fault (Option Nat) :=
  match seasonDigits? t with
  | none => .ok none
  | some digits =>
      if Text.maxDigits < digits.length then .error (.longInteger digits.length)
      else .ok (some (Text.digitsValue digits))

/-- Whether a link leads to an episode. -/
def isEpisodeLink (target : Text) : Bool :=
  target.contains "/TV Transcripts/" && target.endsWith ".html"

/-- The links to episodes below a node, each with its text and target. -/
def episodeLinks (n : Markup.Node) : List (Text × Text) :=
  n.links.filterMap fun (link, target) =>
    if isEpisodeLink target then some (link.strippedText, target) else none

/-- The title of an episode, from the text of its link. -/
def linkTitle (t : Text) : Text :=
  Text.strip (Text.replace " Script" [] t)

/-- Entries of one season for a list of links, numbered from `first` on. -/
def entries (season first : Nat) (links : List (Text × Text)) : List Entry :=
  links.mapIdx fun i (text, target) =>
    ⟨linkTitle text, season, first + i, Site.scripts ++ target, []⟩

/-- Parts of the body that may hold links to episodes. -/
def holdsLinks (n : Markup.Node) : Bool :=
  ["h2", "h3", "h4", "p", "div", "td"].any fun name => n.isElement name.toList

/-- The entries of the parts of a body.  A part that names a season starts it; the links of other
parts belong to the current season, of which `count` episodes are known. -/
def Entry.ofParts (season count : Nat) : List Markup.Node → Except Fault (List Entry)
  | [] => .ok []
  | part :: rest => do
      match ← seasonNumber? part.strippedText with
      | some s => ofParts s 0 rest
      | none =>
          let links := if holdsLinks part then episodeLinks part else []
          let more ← ofParts season (count + links.length) rest
          return entries season (count + 1) links ++ more

/-- The first reading: the parts of the body of a page. -/
def Entry.ofBody (page : Markup.Node) : Except Fault (List Entry) :=
  match page.find? (Markup.Node.isElement "body") with
  | some body => Entry.ofParts 1 0 body.children
  | none => .ok []

/-- The elements behind a heading up to the next one. -/
def untilNext (next : Option Markup.Node) (following : List Markup.Node) : List Markup.Node :=
  (following.filter fun n => n.name?.isSome).takeWhile fun n =>
    !((next.map fun h => n.sameAs h).getD false)

/-- The entries behind each heading that names a season; `known` are those already found. -/
def Entry.behindHeadings (known : List Entry) :
    List (Markup.Node × List Markup.Node) → Except Fault (List Entry)
  | [] => .ok known
  | (heading, following) :: rest => do
      match ← seasonNumber? heading.strippedText with
      | none => behindHeadings known rest
      | some season =>
          let links := (untilNext (rest.head?.map (·.1)) following).flatMap episodeLinks
          let count := known.countP fun e => e.season == season
          behindHeadings (known ++ entries season (count + 1) links) rest

/-- The headings of a page, each with the siblings behind it. -/
def headings (page : Markup.Node) : List (Markup.Node × List Markup.Node) :=
  page.withFollowing.filter fun (n, _) => n.isElement "h2"

/-- The second reading: the links between each heading and the next. -/
def Entry.ofHeadings (page : Markup.Node) : Except Fault (List Entry) :=
  Entry.behindHeadings [] (headings page)

/-- The different seasons that the headings of a page name, in order. -/
def namedSeasons (page : Markup.Node) : Except Fault (List Nat) := do
  let found ← (headings page).mapM fun (h, _) => seasonNumber? h.strippedText
  return (found.filterMap id).eraseDups

/-- How many episodes the first reading must find. -/
def enough : Nat := 100

/-- The list of an index page. -/
def readIndex (url : Json) : Program (List Entry) := do
  say ["Fetching episode list from ", url.display, "..."]
  let reply ← fetch url Site.timeout
  requireSuccess url.display reply
  let page ← Program.lift (Markup.parse reply.text)
  let seasons ← Program.lift (namedSeasons page)
  say ["Found seasons: ", Json.literal (.arr (seasons.map fun (n : Nat) => .int n))]
  say ["Found ", Text.ofNat (episodeLinks page).length, " episode links"]
  let first ← Program.lift (Entry.ofBody page)
  let list ←
    if first.length < enough then do
      say ["Trying alternative parsing..."]
      Program.lift (Entry.ofHeadings page)
    else pure first
  say ["Parsed ", Text.ofNat list.length, " episodes"]
  return list

/-- The address of the transcript on the page of an episode. -/
def transcriptLink? (page : Markup.Node) : Option Text :=
  (page.linkBelow? "script-details" "/transcripts").map fun target => Site.scripts ++ target

/-- The address of the transcript of an episode, empty when there is none. -/
def findTranscript (url : Json) : Program Text := do
  let found ← Program.attempt do
    let reply ← fetch url Site.timeout
    if reply.status ≠ 200 then pure none
    else do
      let page ← Program.lift (Markup.parse reply.text)
      pure (transcriptLink? page)
  match found with
  | .ok link => return link.getD []
  | .error f => do
      say ["    Warning: ", f.message]
      return []

/-! ## The program -/

/-- The folder of transcripts. -/
def folder : Text := "transcripts"

/-- The file of the episode list. -/
def listFile : Text := "transcripts/episode_list.json"

/-- Looks for the transcript of each entry. -/
def findTranscripts (total : Nat) : Nat → List Entry → Program (List Entry)
  | _, [] => pure []
  | i, e :: rest => do
      print ["  [", Text.ofNat (i + 1), "/", Text.ofNat total, "] S", Json.padded e.season, "E",
        Json.padded e.number, " - ", e.title, "... "]
      let url ← findTranscript (.str e.page)
      say [if url.isEmpty then "✗ Not found" else "✓ Found"]
      let more ← findTranscripts total (i + 1) rest
      return { e with transcript := url } :: more

/-- The seasons of a list in ascending order. -/
def seasonsOf (list : List Entry) : List Nat :=
  ((list.map (·.season)).eraseDups).mergeSort

/-- Makes the episode list from an index page. -/
def generateList (url : Json) : Program Unit := do
  say [ruler]
  say ["South Park Episode List Generator"]
  say [ruler]
  say ["Using URL: ", url.display]
  ensureFolder folder
  let list ← readIndex url
  say ["\nFetching transcript URLs..."]
  let list ← findTranscripts list.length 0 list
  storeValue listFile (.arr (list.map Entry.toJson))
  say ["\nSaved episode list to ", listFile]
  say ["\nSeason summary:"]
  (seasonsOf list).forM fun s =>
    say ["  Season ", Text.ofNat s, ": ", Text.ofNat (list.countP fun e => e.season == s),
      " episodes"]
  let linked := list.countP fun e => !e.transcript.isEmpty
  say ["\nTranscript URLs found: ", Text.ofNat linked, "/", Text.ofNat list.length]
  say [ruler]

end Gleaner.Episode
