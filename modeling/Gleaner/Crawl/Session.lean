import Gleaner.Crawl.Setting
import Gleaner.World.Files

/-!
# A crawling session

Everything a crawler depends on and does: its settings, the clock, the drawn numbers, the count of its
requests, its files, and the record of what it did.

* `Counter` — how many requests were made in the current minute and hour.
* `Store` — how files are stored.
* `Call`, `Failure` — what the browser and its pages were asked to do, and how that can fail.
* `Session`, `Run` — the state and the programs over it.
* `draw`, `between`, `wait` — the effects of a session.
-/

namespace Gleaner.Crawl

/-- Requests since the beginning of the current minute and of the current hour. -/
structure Counter where
  minute : Nat
  hour : Nat
  minuteStart : Binary64
  hourStart : Binary64
  deriving DecidableEq, Repr

/-- How files are stored: in folders that must be there before a file is put into them, or flat, so
that a path is one name. -/
inductive Store where
  | folders
  | flat
  deriving DecidableEq, Repr

/-- What the browser and its pages were asked to do. -/
inductive Call where
  | scrollTo (x y : Json)
  | moveMouse (x y : Json) (steps : Nat)
  | goto (url : Setting) (options : Json)
  | addScript
  | route (pattern : Text)
  | goOn
  | launch (options : Json)
  | newContext (options : Json)

/-- What a call to the browser or its page can fail with.  Only the crawler itself refuses a request
because requests come too often. -/
structure Failure where
  trouble : Trouble
  foreign : trouble ≠ .tooOften

/-- A crawling session.

* `settings` are those of the pacing, `browser` those of the browser and the cache.
* `draws` are the random numbers, used in turn and again from the first; `drawn` counts them.
* `clock` is the present moment, in milliseconds.
* `files` are the files by path, seen from the folder in which the crawler works, and `store` is how
  they are stored; `stamp` is the moment at which a file or the list of a folder last changed.
* `log`, `calls` and `waits` are the record of what was done, oldest first.
* `failure` tells of the calls so far whether the last of them fails.
-/
structure Session where
  settings : Json
  browser : Json
  clock : Binary64
  draws : List Binary64
  drawn : Nat
  counter : Counter
  files : Files
  log : List Text
  calls : List Call
  waits : List Json
  store : Store := .folders
  stamp : Text → Binary64 := fun _ => .ofInt 0
  failure : List Call → Option Failure := fun _ => none

/-- A program over a session.  What it has done stays done when it fails. -/
abbrev Run := ExceptT Trouble (StateM Session)

namespace Run

variable {α : Type}

/-- Ends with a trouble. -/
def fail (t : Trouble) : Run α :=
  throw t

/-- A computation that may fail. -/
def lift (r : Except Trouble α) : Run α :=
  match r with
  | .ok a => pure a
  | .error t => fail t

end Run

/-- The next random number. -/
def draw : Run Binary64 := do
  let s ← get
  set { s with drawn := s.drawn + 1 }
  return s.draws[s.drawn % s.draws.length]?.getD .nan

/-- A random value from `low` up to `high`. -/
def between (low high : Setting) : Run Json := do
  let r ← draw
  let high ← Run.lift (numberOf high)
  let span := high.sub (← Run.lift (numberOf low))
  return joined (r.mul span) low

/-- A random integer from `low` up to `high`. -/
def integerBetween (low high : Setting) : Run Binary64 := do
  let v ← between low high
  return (asNumber (some v)).floor

/-- Waits for some milliseconds. -/
def wait (ms : Json) : Run Unit :=
  modify fun s => { s with waits := s.waits ++ [ms] }

/-- Writes a line of the log. -/
def note (parts : List Text) : Run Unit :=
  modify fun s => { s with log := s.log ++ [parts.flatten] }

/-- Asks the browser or a page for something, which may fail. -/
def call (c : Call) : Run Unit := do
  modify fun s => { s with calls := s.calls ++ [c] }
  let s ← get
  match s.failure s.calls with
  | some f => Run.fail f.trouble
  | none => pure ()

/-- The settings of the pacing. -/
def pacing : Run Setting := do
  Run.lift (need (some (← get).settings) "anti_crawl")

/-- A setting of the browser and the cache. -/
def browserSetting (name : Text) : Run Setting := do
  Run.lift (need (some (← get).browser) name)

end Gleaner.Crawl
