import Gleaner.Film.Chart
import Gleaner.Film.ScriptSearch
import Gleaner.Screenplay.Conversion

/-!
# Programs about films

Three programs work on the chart: one makes the list of the films that have a script, one downloads
and converts the scripts of the stored list, and one only shows where the scripts are.

* `generateList` — makes the list.
* `collect` — downloads the scripts of the list.
* `locateAll` — shows where the scripts are.
-/

namespace Gleaner.Film

variable [Platform]

/-- The folder of screenplays. -/
def folder : Text := "screenplays"

/-- The file of the film list. -/
def listFile : Text := "screenplays/movie_list.json"

/-- Milliseconds between two films. -/
def delay : Nat := 2000

/-- Stores the list. -/
def saveList (list : Json) : Program Unit :=
  storeValue listFile list

/-- The stored list, if there is one. -/
def storedList? : Program (Option Json) := do
  if ← fileExists listFile then
    let t ← readFile listFile
    let v ← Program.lift (Json.parse t)
    return some v
  else return none

/-- The stored list, which must be there. -/
def loadList : Program Json := do
  match ← storedList? with
  | some v => return v
  | none =>
      Program.fail (.listMissing (Text.cat ["Movie list not found: ", listFile,
        "\nRun 01_generate_movie_list.py first to generate the movie list."]))

/-- Shows where in a list a film stands, and what it is. -/
def announce (i total : Nat) (m : Movie) : Program Unit :=
  print ["[", Text.ofNat (i + 1), "/", Text.ofNat total, "] ", m.label, "... "]

/-! ## Making the list -/

/-- Whether some entry of a stored list has an empty address; later entries are not looked at. -/
def lacksAddress : List Json → Except Fault Bool
  | [] => .ok false
  | entry :: rest => do
      let url ← entry.getD "imsdb_url" ""
      if url.isText [] then return true else lacksAddress rest

/-- The films of a list that have a script, from the `i`-th on. -/
def withScripts (total : Nat) : Nat → List Movie → Program (List Movie)
  | _, [] => pure []
  | i, m :: rest => do
      print ["  "]
      announce i total m
      let found ← findScript m.title
      say [if found.isSome then "✓ Found" else "✗ Not found"]
      pause delay
      let more ← withScripts total (i + 1) rest
      return (found.map fun url => { m with script := .str url }).toList ++ more

/-- Makes the list from the chart. -/
def buildList : Program Unit := do
  say ["\n[1/2] Scraping IMDb Top 250 movies..."]
  let movies ← chart
  say ["Found ", Text.ofNat movies.length, " movies"]
  if movies.isEmpty then
    say ["No movies found. Check network/proxy configuration."]
  else do
    say ["\n[2/2] Searching for screenplays on IMSDb..."]
    let found ← withScripts movies.length 0 movies
    let count := Text.ofNat found.length
    say ["\nFound ", count, " screenplays on IMSDb"]
    saveList (.arr (found.map Movie.toJson))
    say ["Saved movie list to ", listFile]
    say ["\n", ruler]
    say ["Summary"]
    say ["  Total movies scraped: ", count]
    say ["  Movies with screenplays: ", count]
    say ["  Saved to: ", listFile]
    say [ruler]

/-- Makes the list unless a complete one is stored. -/
def generateList : Program Unit := do
  say [ruler]
  say ["IMDb Top 250 - Movie List Generator"]
  say [ruler]
  ensureFolder folder
  let stored := (← storedList?).getD .null
  if stored.isTruthy then
    let entries ← Program.lift stored.items
    if ← Program.lift (lacksAddress entries) then
      say ["\nFound existing movie list, but some entries missing IMSDb URLs"]
      say ["Will update missing URLs..."]
      buildList
    else
      say ["\nMovie list already exists: ", listFile]
      say ["Found ", Text.ofNat entries.length, " movies with screenplays"]
  else buildList

/-! ## Downloading the scripts -/

/-- The path of a screenplay. -/
def screenplayPath (m : Movie) : Text :=
  Path.join folder m.fileName

/-- Downloads and stores one screenplay; gives whether it succeeded. -/
def collectOne (m : Movie) : Program Bool := do
  match ← download m.script with
  | none | some [] => do
      say ["✗ Download failed"]
      return false
  | some page => do
      let fountain ← Program.lift (Screenplay.film.apply page)
      if 50 < (Text.strip fountain).length then
        writeFile (screenplayPath m) fountain
        say ["✓ Saved to ", m.fileName]
        return true
      else
        say ["✗ No screenplay content found on page"]
        return false

/-- Downloads the screenplays of a list, from the `i`-th on; gives how many succeeded. -/
def collectFrom (total : Nat) : Nat → List Movie → Program Nat
  | _, [] => pure 0
  | i, m :: rest => do
      print ["  "]
      announce i total m
      let success ←
        match ← Program.attempt (collectOne m) with
        | .ok success => pure success
        | .error f => do
            say ["✗ Error: ", f.message]
            pure false
      pause delay
      let more ← collectFrom total (i + 1) rest
      return more + (if success then 1 else 0)

/-- The films of a list whose screenplay is not there yet. -/
def missing : List Movie → Program (List Movie)
  | [] => pure []
  | m :: rest => do
      let present ← fileExists (screenplayPath m)
      let more ← missing rest
      return if present then more else m :: more

/-- Downloads the screenplays of the stored list. -/
def collect : Program Unit := do
  say [ruler]
  say ["IMDb Top 250 - Screenplay Scraper"]
  say [ruler]
  ensureFolder folder
  say ["\nLoading movie list from ", listFile, "..."]
  let list ← loadList
  let total ← Program.lift list.size
  say ["Loaded ", Text.ofNat total, " movies"]
  let entries ← Program.lift list.items
  let all ← Program.lift (entries.mapM Movie.ofJson)
  let movies := all.filter fun m => m.script.isTruthy
  say ["Movies with screenplay URLs: ", Text.ofNat movies.length]
  let wanted ← missing movies
  say ["Already downloaded: ", Text.ofNat (movies.length - wanted.length)]
  say ["Need to download: ", Text.ofNat wanted.length]
  if wanted.isEmpty then
    say ["\nAll screenplays already downloaded!"]
  else do
    say ["\nDownloading ", Text.ofNat wanted.length, " screenplays..."]
    let successful ← collectFrom wanted.length 0 wanted
    say ["\n", ruler]
    say ["Summary"]
    say ["  Total movies with screenplays: ", Text.ofNat movies.length]
    say ["  Successfully converted: ", Text.ofNat successful]
    say ["  Failed: ", Text.ofNat (wanted.length - successful)]
    say ["\nScreenplays saved to: ", folder, "/"]
    say [ruler]

/-! ## Showing where the scripts are -/

/-- An address, or that there is none. -/
def shownUrl (url : Option Text) : Text :=
  url.getD "None"

/-- The films of a list whose script is found, from the `i`-th on. -/
def locateFrom (total : Nat) : Nat → List Movie → Program (List Movie)
  | _, [] => pure []
  | i, m :: rest => do
      announce i total m
      let found ← findScript m.title
      say [if found.isSome then "✓ Found" else "✗ Not found"]
      say ["  Actual URL: ", shownUrl found]
      pause delay
      let more ← locateFrom total (i + 1) rest
      return (found.map fun url => { m with script := .str url }).toList ++ more

/-- The films of the chart whose script is found. -/
def locateAll : Program (List Movie) := do
  say [ruler]
  say ["Starting IMDb Top 250 Screenplay Scraper"]
  say [ruler]
  let movies ← chart
  say ["\nTotal movies: ", Text.ofNat movies.length]
  say ["\nSearching for screenplays on IMSDb..."]
  locateFrom movies.length 0 movies

/-- Shows the films of the chart whose script is found. -/
def showLocated : Program Unit := do
  let movies ← locateAll
  say ["\nFound ", Text.ofNat movies.length, " screenplays on IMSDb"]
  movies.forM fun m => say ["  - ", m.label, ": ", m.script.display]

/-- Looks for the script of one title and reports on it. -/
def tryTitle (title : Text) : Program Unit := do
  say ["Testing get_script_url_by_title with: ", title]
  let found ← findScript (.str title)
  say ["Result: ", shownUrl found]
  match found with
  | some url => say ["✓ Success! Found URL: ", url]
  | none => say ["✗ Failed! No URL found"]

/-- Looks for the scripts of two well-known films. -/
def tryTitles : Program Unit := do
  tryTitle "The Shawshank Redemption"
  tryTitle "Schindler's List"

end Gleaner.Film
