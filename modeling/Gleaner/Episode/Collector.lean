import Gleaner.Episode.Index
import Gleaner.Screenplay.Conversion

/-!
# Collecting transcripts

The collector reads the stored list of episodes, looks for the addresses that are still missing,
downloads the transcripts that are not there yet and stores them in the Fountain format.  The list is
taken as it was stored: an entry may be a value of any kind.

* `loadList`, `saveList` — the stored list.
* `Round` — what a round of downloads leaves.
* `collectOne`, `collectRound` — downloads for one episode and for a list.
* `Survey` — what a run finds before it does anything.
* `collectStored`, `collect` — the program, with and without its result.
-/

namespace Gleaner.Episode

variable [Platform]

/-- Milliseconds between two downloads. -/
def delay : Nat := 1000

/-- The stored list. -/
def loadList : Program Json := do
  if ← fileExists listFile then
    let t ← readFile listFile
    Program.lift (Json.parse t)
  else
    Program.fail (.listMissing (Text.cat ["Episode list not found: ", listFile,
      "\nRun 01_generate_episode_list.py first to generate the episode list."]))

/-- Stores the list. -/
def saveList (list : Json) : Program Unit :=
  storeValue listFile list

/-- The address of the transcript on a page that may be no text. -/
def linkOnPage? (page : Json) : Except Fault (Option Text) :=
  (Markup.parseValue page).map transcriptLink?

/-- A page that has a preformatted part. -/
def isTranscriptPage (page : Text) : Bool :=
  page.contains "<pre>" || page.contains "<pre "

/-- The page of an address if it is a transcript itself. -/
def transcriptPage? (url : Json) : Program (Option Text) := do
  match ← Program.attempt (fetch url Site.timeout) with
  | .ok reply =>
      return if reply.status = 200 ∧ isTranscriptPage reply.text then some reply.text else none
  | .error _ => return none

/-- The path of a transcript. -/
def transcriptPath (code : Text) (title : Json) : Except Fault Text := do
  let t ← title.asText "replace"
  return Path.join folder (fileName code t)

/-- How the search for an address ended. -/
inductive Search where
  /-- An address, and whether it was not known before. -/
  | found (url : Json) (isNew : Bool)
  | abandoned

/-- The address of an episode's transcript: the known one, the one on the episode's page, or the
page itself. -/
def searchAddress (page known : Json) : Program Search := do
  if known.isTruthy then return .found known false
  let reply ← fetch page Site.timeout
  if reply.status ≠ 200 then
    say ["✗ Download failed (", Text.ofInt reply.status, ")"]
    return .abandoned
  match ← Program.lift (linkOnPage? (.str reply.text)) with
  | some url => return .found (.str url) true
  | none =>
      match ← transcriptPage? page with
      | some _ => return .found page true
      | none =>
          say ["✗ No transcript link found"]
          return .abandoned

/-- Whether a converted text is worth keeping. -/
def isSubstantial (t : Text) : Bool :=
  50 < (Text.strip t).length

/-- Downloads and stores a transcript.  Gives whether it was stored, and whether a pause is due. -/
def download (url : Json) (code : Text) (title : Json) : Program (Bool × Bool) := do
  let reply ← fetch url Site.timeout
  if reply.status ≠ 200 then
    say ["✗ Transcript download failed (", Text.ofInt reply.status, ")"]
    return (false, false)
  let fountain ← Program.lift (Screenplay.transcript.apply reply.text)
  if isSubstantial fountain then
    let path ← Program.lift (transcriptPath code title)
    writeFile path fountain
    say ["✓ Saved to ", Path.name path]
    return (true, true)
  else
    say ["✗ No transcript content"]
    return (false, true)

/-- Reports a fault of one episode. -/
def report (f : Fault) : Program Unit :=
  say ["✗ Error: ", f.message]

/-- One episode that is not there yet: the entry afterwards, and whether a transcript was stored. -/
def collectNew (entry page known : Json) (code : Text) (title : Json) : Program (Json × Bool) := do
  match ← Program.attempt (searchAddress page known) with
  | .error f => do
      report f
      pause delay
      return (entry, false)
  | .ok .abandoned => return (entry, false)
  | .ok (.found url isNew) => do
      let entry := if isNew then entry.put "transcript_url" url else entry
      match ← Program.attempt (download url code title) with
      | .error f => do
          report f
          pause delay
          return (entry, false)
      | .ok (stored, due) => do
          if due then pause delay
          return (entry, stored)

/-- One episode: the entry afterwards, and whether its transcript is there. -/
def collectOne (i total : Nat) (entry : Json) : Program (Json × Bool) := do
  let season ← Program.lift (entry.item "season")
  let number ← Program.lift (entry.item "episode_num")
  let title ← Program.lift (entry.item "title")
  let page ← Program.lift (entry.getD "imsdb_url" "")
  let known ← Program.lift (entry.getD "transcript_url" "")
  let code ← Program.lift (code season number)
  print ["  [", Text.ofNat (i + 1), "/", Text.ofNat total, "] ", code, " - ", title.display, "... "]
  if !page.isTruthy then
    say ["✗ No URL"]
    return (entry, false)
  if known.isTruthy then
    let path ← Program.lift (transcriptPath code title)
    if ← fileExists path then
      say ["✓ Already downloaded"]
      return (entry, true)
  collectNew entry page known code title

/-- What a round of downloads leaves: the list, the numbers of successes and failures, and the fault
that ended it early. -/
structure Round where
  list : List Json
  successful : Nat
  failed : Nat
  stopped : Option Fault

/-- Adds an entry in front of a round. -/
def Round.cons (r : Round) (entry : Json) (success : Bool) : Round :=
  { r with
    list := entry :: r.list
    successful := r.successful + (if success then 1 else 0)
    failed := r.failed + (if success then 0 else 1) }

/-- Downloads for the entries of a list, from the `i`-th on. -/
def collectFrom (total : Nat) : Nat → List Json → Program Round
  | _, [] => pure ⟨[], 0, 0, none⟩
  | i, entry :: rest => do
      match ← Program.attempt (collectOne i total entry) with
      | .error f => return ⟨entry :: rest, 0, 0, some f⟩
      | .ok (entry, success) => do
          let r ← collectFrom total (i + 1) rest
          return r.cons entry success

/-- Downloads for a list. -/
def collectRound (list : Json) : Program Round := do
  let entries ← Program.lift list.items
  collectFrom entries.length 0 entries

/-- The list after a round; a list that is no array has no entries that could change. -/
def Round.listAfter (r : Round) : Json → Json
  | .arr _ => .arr r.list
  | v => v

/-! ## The program -/

/-- Whether an entry has an address. -/
def hasAddress (entry : Json) : Except Fault Bool :=
  (entry.getD "transcript_url" .null).map Json.isTruthy

/-- Whether the transcript of an entry is there. -/
def isDownloaded (entry : Json) : Program Bool := do
  let season ← Program.lift (entry.item "season")
  let number ← Program.lift (entry.item "episode_num")
  let title ← Program.lift (entry.item "title")
  let t ← Program.lift (title.asText "replace")
  let code ← Program.lift (code season number)
  fileExists (Path.join folder (fileName code t))

/-- The address of the transcript on the page of an entry. -/
def fetchLink (entry : Json) : Program (Option Text) := do
  let page ← Program.lift (entry.item "imsdb_url")
  let reply ← fetch page Site.timeout
  if reply.status = 200 then
    let link ← Program.lift (linkOnPage? (.str reply.text))
    say [if link.isSome then "✓ Found" else "✗ Not found"]
    return link
  else
    say ["✗ Failed"]
    return none

/-- Looks for the address of an entry: the entry afterwards. -/
def lookUp (i total : Nat) (entry : Json) : Program Json := do
  let season ← Program.lift (entry.item "season")
  let number ← Program.lift (entry.item "episode_num")
  let title ← Program.lift (entry.item "title")
  let code ← Program.lift (code season number)
  print ["  [", Text.ofNat (i + 1), "/", Text.ofNat total, "] ", code, " - ", title.display, "... "]
  let found ← Program.attempt (fetchLink entry)
  let entry ←
    match found with
    | .ok (some url) => pure (entry.put "transcript_url" (.str url))
    | .ok none => pure entry
    | .error f => do
        report f
        pure entry
  pause delay
  return entry

/-- Looks for the addresses that are missing in a list. -/
def lookUpAll (total : Nat) : Nat → List Json → Program (List Json)
  | _, [] => pure []
  | i, entry :: rest => do
      if ← Program.lift (hasAddress entry) then
        let more ← lookUpAll total i rest
        return entry :: more
      else
        let entry ← lookUp i total entry
        let more ← lookUpAll total (i + 1) rest
        return entry :: more

/-- The stored list as a run finds it: its entries, and how many of them have an address and a
transcript. -/
structure Survey where
  list : Json
  entries : List Json
  total : Nat
  addressed : Nat
  downloaded : Nat

/-- How many entries have no address. -/
def Survey.missing (s : Survey) : Nat :=
  s.total - s.addressed

/-- Whether every entry has an address and a transcript. -/
def Survey.isComplete (s : Survey) : Bool :=
  s.missing = 0 && s.downloaded = s.total

/-- Loads the stored list and looks at its entries. -/
def survey : Program Survey := do
  say [ruler]
  say ["South Park Transcript Scraper"]
  say [ruler]
  say ["\nLoading episode list from ", listFile, "..."]
  let list ← loadList
  let total ← Program.lift list.size
  say ["Loaded ", Text.ofNat total, " episodes"]
  let entries ← Program.lift list.items
  let addressed ← Program.lift (entries.mapM hasAddress)
  say ["Episodes with transcript URLs: ", Text.ofNat (addressed.countP id), "/", Text.ofNat total]
  let downloaded ← entries.mapM isDownloaded
  let s : Survey := ⟨list, entries, total, addressed.countP id, downloaded.countP id⟩
  say ["Transcripts already downloaded: ", Text.ofNat s.downloaded]
  say ["Need to process: ", Text.ofNat s.missing]
  return s

/-- Looks for the addresses that are missing and stores the list with those that were found. -/
def completeList (s : Survey) : Program Json := do
  if s.missing = 0 then return s.list
  say ["\nFetching transcript URLs for ", Text.ofNat s.missing, " episodes..."]
  let entries ← lookUpAll s.missing 0 s.entries
  saveList (.arr entries)
  return .arr entries

/-- Downloads what is missing, stores the list and reports. -/
def collectMissing (s : Survey) : Program Round := do
  let list ← completeList s
  say ["\nDownloading transcripts..."]
  let r ← collectRound list
  match r.stopped with
  | some f => Program.fail f
  | none => do
      saveList (r.listAfter list)
      say ["\n", ruler]
      say ["Summary"]
      say ["  Total episodes: ", Text.ofNat s.total]
      say ["  Successfully downloaded: ", Text.ofNat r.successful]
      say ["  Failed: ", Text.ofNat r.failed]
      say ["\nTranscripts saved to: ", folder, "/"]
      say [ruler]
      return r

/-- Collects the transcripts of the stored list.  Gives the round of downloads, or nothing if there
was nothing to do. -/
def collectStored : Program (Option Round) := do
  let s ← survey
  if s.isComplete then
    say ["\nAll episodes already have transcripts!"]
    return none
  else
    let r ← collectMissing s
    return some r

/-- The program, without a result. -/
def collect : Program Unit :=
  discard collectStored

end Gleaner.Episode
