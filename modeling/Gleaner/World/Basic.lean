import Gleaner.Json.Writer
import Gleaner.Markup.Node
import Gleaner.World.Files

/-!
# The world of a program

A program prints, asks for pages, waits, and reads and writes files.  All of that is a state, the
`World`; a program is a `Program` over it that ends with a value, a fault or an exit code, and keeps
what it has done so far in every case.

* `Page` — what a web address answers.
* `World` — pages, files, and the record of what was done.
* `World.requests`, `World.pauses` — the two views of that record.
* `Program` — a program.
* `Program.attempt` — a program whose faults are seen by its caller.
* `say`, `print`, `fetch`, `send`, `pause`, `readFile`, `writeFile` — the effects.
* `storeValue` — a list as it is kept in a file.
-/

namespace Gleaner

/-- A reply to a request. -/
structure Reply where
  status : Int
  reason : Text
  text : Text
  deriving DecidableEq, Repr

/-- What a web address answers: a reply, or no reply at all. -/
inductive Page where
  | reply (r : Reply)
  | failure (cause : Transport) (message : Text)
  deriving DecidableEq, Repr

/-- A request, with the seconds that it may take. -/
inductive Request where
  | get (url : Json) (timeout : Nat)
  | post (url : Text) (timeout : Nat) (payload : Json)

/-- What a program does towards the outside: it asks, or it waits for some milliseconds.  Requests
and pauses stand in one record, so that it shows which pause lies between which requests. -/
inductive Deed where
  | asked (r : Request)
  | paused (milliseconds : Nat)

/-- A moment of the calendar. -/
structure Moment where
  year : Nat
  month : Nat
  day : Nat
  hour : Nat
  minute : Nat
  second : Nat

/-- What a browser was asked to do, with the options of the request. -/
inductive BrowserCall where
  | makeFolder (path : Text)
  | launch (options : Json)
  | connect (url : Text)
  | newContext (options : Json)
  | goto (url : Text) (options : Json)
  | content
  | innerText (selector : Text)
  | screenshot (options : Json)
  | close (what : Text)

/-- What a browser shows: the markup and the text of its page, and the calls that fail. -/
structure BrowserPage where
  content : Text
  innerText : Text
  gotoFailure : Option Text
  textFailure : Option Text
  screenshotFailure : Option Text

/-- The world of a program.

* Each address has the pages that it will answer, in order; the last of them stays.
* `index` is the page of all scripts, once it has been read.
* `out`, `err`, `deeds` and `calls` are the record of what was done, oldest first.
-/
structure World where
  pages : List (Text × List Page)
  fallback : Page
  files : Files
  now : Moment
  display : Option Text
  screen : BrowserPage
  index : Option Markup.Node
  out : Text
  err : Text
  deeds : List Deed
  calls : List BrowserCall

/-- The requests that were made, oldest first. -/
def World.requests (w : World) : List Request :=
  w.deeds.filterMap fun
    | .asked r => some r
    | .paused _ => none

/-- The pauses that were made, oldest first, in milliseconds. -/
def World.pauses (w : World) : List Nat :=
  w.deeds.filterMap fun
    | .asked _ => none
    | .paused ms => some ms

/-- Why a program ends without a value. -/
inductive Stop where
  | fault (f : Fault)
  | exit (code : Nat)

/-- A program over the world.  What it has done stays done when it stops. -/
abbrev Program := ExceptT Stop (StateM World)

namespace Program

variable {α : Type}

/-- Ends with a fault. -/
def fail (f : Fault) : Program α :=
  throw (.fault f)

/-- Ends with an exit code. -/
def exit (code : Nat) : Program α :=
  throw (.exit code)

/-- A computation that may fail. -/
def lift (r : Except Fault α) : Program α :=
  match r with
  | .ok a => pure a
  | .error f => fail f

/-- Runs a program and shows its fault to the caller; an exit stays an exit. -/
def attempt (t : Program α) : Program (Except Fault α) :=
  ExceptT.mk do
    match ← t.run with
    | .ok a => return .ok (.ok a)
    | .error (.fault f) => return .ok (.error f)
    | .error (.exit code) => return .error (.exit code)

end Program

/-! ## Effects -/

/-- Prints the parts of a text. -/
def print (parts : List Text) : Program Unit :=
  modify fun w => { w with out := w.out ++ parts.flatten }

/-- Prints the parts of a line. -/
def say (parts : List Text) : Program Unit :=
  print (parts ++ [['\n']])

/-- A line across the page. -/
def ruler : Text := List.replicate 60 '='

/-- Prints the parts of a text as an error. -/
def complain (parts : List Text) : Program Unit :=
  modify fun w => { w with err := w.err ++ parts.flatten }

/-- Waits. -/
def pause (milliseconds : Nat) : Program Unit :=
  modify fun w => { w with deeds := w.deeds ++ [Deed.paused milliseconds] }

/-- The page that an address answers next, and the pages that remain. -/
def takePage (address : Text) (fallback : Page) :
    List (Text × List Page) → Page × List (Text × List Page)
  | [] => (fallback, [])
  | (a, ps) :: rest =>
      if a = address then
        match ps with
        | [] => (fallback, (a, ps) :: rest)
        | [p] => (p, (a, ps) :: rest)
        | p :: more => (p, (a, more) :: rest)
      else
        let (p, rest') := takePage address fallback rest
        (p, (a, ps) :: rest')

/-- The page that an address answers next; what is no text is no address that is known. -/
def nextPage (w : World) : Option Text → Page × List (Text × List Page)
  | some address => takePage address w.fallback w.pages
  | none => (w.fallback, w.pages)

/-- Makes a request to an address. -/
def ask (address : Option Text) (r : Request) : Program Reply := do
  let w ← get
  let (page, pages) := nextPage w address
  set { w with pages, deeds := w.deeds ++ [Deed.asked r] }
  match page with
  | .reply reply => return reply
  | .failure cause message => Program.fail (.transport cause message)

/-- Asks for the page of an address. -/
def fetch (url : Json) (timeout : Nat) : Program Reply :=
  ask (match url with | .str t => some t | _ => none) (.get url timeout)

/-- Sends a payload to an address. -/
def send (url : Text) (timeout : Nat) (payload : Json) : Program Reply :=
  ask (some ("POST " ++ url)) (.post url timeout payload)

/-- Refuses a reply with a status that stands for an error. -/
def requireSuccess (url : Text) (r : Reply) : Program Unit :=
  if 400 ≤ r.status ∧ r.status < 600 then Program.fail (.badStatus r.status r.reason url)
  else pure ()

/-- The text of a file. -/
def readFile (path : Text) : Program Text := do
  Program.lift ((← get).files.read path)

/-- Writes a file, whatever can be held. -/
def writeDocument (path content : Text) : Program Unit := do
  let files ← Program.lift ((← get).files.write path content)
  modify fun w => { w with files }

/-- Refuses a text that no file can hold, and no file name. -/
def requireHeld [Platform] (t : Text) : Program Unit :=
  match Platform.refusal t with
  | none => pure ()
  | some notice => Program.fail (.unencodable notice)

/-- Writes a text to a file.  The file is made or emptied first, and stays empty if it cannot hold
the text. -/
def writeFile [Platform] (path content : Text) : Program Unit := do
  requireHeld path
  writeDocument path (Platform.held content)
  requireHeld content

/-- Writes a value to a file as it is stored, which is ASCII and never refused.  It is written up to
the first value that lies too deep. -/
def storeValue [Platform] (path : Text) (v : Json) : Program Unit := do
  let draft := Json.draft Json.stored Platform.writeRoom v
  writeDocument path draft.text
  if !draft.isFinished then Program.fail .deepValue

/-- Whether a file exists. -/
def fileExists (path : Text) : Program Bool := do
  Program.lift ((← get).files.present path)

/-- Makes a folder if there is none. -/
def ensureFolder (path : Text) : Program Unit := do
  let files ← Program.lift ((← get).files.makeFolder path)
  modify fun w => { w with files }

end Gleaner
