import Gleaner.Episode.Index
import Gleaner.Screenplay.PrintedPage

/-!
# Printing transcripts

Every stored transcript is set as a page and rendered beside it, once.

* `givenTitle`, `pageOf` — the title of a transcript, and its page.
* `Renderer` — what makes a document of a page.
* `Renderer.printOne` — one transcript.
* `Renderer.printAll` — the program.
* `plain` — the renderer that keeps the page as it is.
-/

namespace Gleaner.Episode

variable [Platform]

/-- The title that the first title line of a text names, empty when there is none. -/
def lineTitle (content : Text) : Text :=
  match (Text.splitOn '\n' content).find? fun l => Screenplay.isTitleLine (Text.strip l) with
  | some line => Screenplay.afterColon line
  | none => []

/-- A file name without the code of its episode. -/
def dropCode (name : Text) : Text :=
  let behind (letter : Char) (t : Text) : Option Text :=
    match t with
    | c :: rest =>
        let digits := rest.takeWhile Text.isDecimal
        if c = letter ∧ !digits.isEmpty then some (rest.drop digits.length) else none
    | [] => none
  ((behind 'S' name).bind (behind 'E') |>.bind (Text.afterFront? ['_'])).getD name

/-- The title that the name of a file suggests. -/
def pathTitle (path : Text) : Text :=
  Text.replace ['_'] [' '] (dropCode (Path.stem path))

/-- The title of a transcript: the one its text names, or the one its file suggests. -/
def givenTitle (path content : Text) : Text :=
  let t := lineTitle content
  if t.isEmpty then pathTitle path else t

/-- The page of a transcript. -/
def pageOf (path content : Text) : Text :=
  Screenplay.page content (givenTitle path content)

/-- What makes a document of a page.  The document may depend on all of the world, as when it bears
the hour of its making.  Whether it can be made depends on the page alone. -/
structure Renderer where
  draw : World → Text → Except Fault Text
  steady : ∀ w w' page, (draw w page).isOk = (draw w' page).isOk

/-- How many transcripts were printed, passed over and failed. -/
structure Tally where
  successful : Nat
  skipped : Nat
  failed : Nat

/-- The lines that sum up a run over a number of transcripts. -/
def Tally.summary (tally : Tally) (total : Nat) : List (List Text) :=
  [["\n", ruler],
    ["Summary"],
    ["  Total fountain files: ", Text.ofNat total],
    ["  Successfully converted: ", Text.ofNat tally.successful],
    ["  Skipped (already exists): ", Text.ofNat tally.skipped],
    ["  Failed: ", Text.ofNat tally.failed],
    ["\nPDFs saved to: ", folder, "/"],
    [ruler]]

namespace Renderer

variable (r : Renderer)

/-- Renders a page into a file; nothing is written if it cannot be made into a document. -/
def render (page output : Text) : Program Unit := do
  let document ← Program.lift (r.draw (← get) page)
  writeDocument output document

/-- Prints one transcript; gives whether it succeeded. -/
def printOne (path output : Text) : Program Bool := do
  let done ← Program.attempt do
    let content ← readFile path
    r.render (pageOf path content) output
  match done with
  | .ok _ => return true
  | .error f => do
      say ["Error converting ", Path.name path, ": ", f.message]
      return false

/-- Prints the transcripts of a list, from the `i`-th on. -/
def printFrom (total : Nat) : Nat → List Text → Tally → Program Tally
  | _, [], tally => pure tally
  | i, path :: rest, tally => do
      let output := Path.withSuffix path ".pdf"
      let place := Text.cat ["  [", Text.ofNat (i + 1), "/", Text.ofNat total, "] ", Path.name path]
      if ← fileExists output then
        say [place, " → Already exists, skipping"]
        printFrom total (i + 1) rest { tally with skipped := tally.skipped + 1 }
      else
        print [place, " → ", Path.name output, "... "]
        if ← r.printOne path output then
          say ["✓"]
          printFrom total (i + 1) rest { tally with successful := tally.successful + 1 }
        else
          say ["✗"]
          printFrom total (i + 1) rest { tally with failed := tally.failed + 1 }

/-- Prints the stored transcripts. -/
def printAll : Program Unit := do
  say [ruler]
  say ["South Park Fountain to PDF Converter"]
  say [ruler]
  let paths := (← get).files.list folder ".fountain"
  if paths.isEmpty then
    say ["No .fountain files found in ", folder]
  else do
    say ["\nFound ", Text.ofNat paths.length, " fountain files"]
    let tally ← r.printFrom paths.length 0 paths ⟨0, 0, 0⟩
    (tally.summary paths.length).forM say

end Renderer

/-- The renderer that keeps the page as it is, and cannot set one that is marked. -/
def plain : Renderer where
  draw _ page := if page.contains "__RENDER_FAIL__" then .error .rendering else .ok ("PDF:" ++ page)
  steady _ _ _ := rfl

/-- Prints one transcript as it is; gives whether it succeeded. -/
def printOne (path output : Text) : Program Bool :=
  plain.printOne path output

/-- Prints the stored transcripts as they are. -/
def printAll : Program Unit :=
  plain.printAll

end Gleaner.Episode
