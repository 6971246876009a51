import Gleaner.Article
import Gleaner.Episode.Programs
import Gleaner.Film.Programs
import Gleaner.Note.Program
import Gleaner.Screenplay.Program

/-!
# The command line

The first argument names a program and the others are its arguments.  A program sees the stored lists
and the files that its arguments name; what it writes is put into place when it ends.  No address
answers, so that a program that needs a page reports that there is no connection.

* `programs` — the programs by name.
* `settled` — what a run leaves to do.
-/

namespace Gleaner

variable [Platform]

/-- The programs by name. -/
def programs : List (Text × (List Text → Program Unit)) := [
  ("transcript", Screenplay.convertFile Screenplay.transcript),
  ("film", Screenplay.convertFile Screenplay.film),
  ("episode-list", Episode.runGenerator),
  ("episodes", fun _ => Episode.collect),
  ("print-episodes", fun _ => Episode.printAll),
  ("film-list", fun _ => Film.generateList),
  ("films", fun _ => Film.collect),
  ("locate-films", fun _ => Film.showLocated),
  ("article", Article.run),
  ("note", Note.run)]

/-- How the command line is used. -/
def programUsage : Text :=
  Text.cat ["usage: gleaner PROGRAM [ARGUMENT ...]\nprograms: ",
    Text.join [',', ' '] (programs.map (·.1)), ['\n']]

/-- The world before a run, with the files that are there. -/
def World.start (contents : List (Text × Text)) : World where
  pages := []
  fallback := .failure .connection "no connection"
  files := ⟨(contents.flatMap fun (path, _) => Path.above path).eraseDups, contents⟩
  now := ⟨1970, 1, 1, 0, 0, 0⟩
  display := none
  screen := ⟨[], [], none, none, none⟩
  index := none
  out := []
  err := []
  deeds := []
  calls := []

/-- What a run leaves to do: texts to print, folders and files to put into place, and the code of the
exit. -/
structure Settlement where
  out : Text
  err : Text
  folders : List Text
  files : List (Text × Text)
  code : Nat

/-- What a run of a program leaves to do.  A fault is an error text, and its exit code is one. -/
def settled (p : Program Unit) (start : World) : Settlement :=
  let (r, w) := p.run.run start
  let (complaint, code) : Text × Nat := match r with
    | .ok _ => ([], 0)
    | .error (.exit code) => ([], code)
    | .error (.fault f) => (f.message ++ ['\n'], 1)
  { out := w.out
    err := w.err ++ complaint
    folders := w.files.folders.filter fun p => !start.files.folders.contains p
    files := w.files.contents.filter fun f => !start.files.contents.contains f
    code }

/-- The files among some paths that can be read. -/
def readable (paths : List Text) : IO (List (Text × Text)) := do
  let found ← paths.mapM fun path => do
    try
      let content ← IO.FS.readFile (String.ofList path)
      return [(path, content.toList)]
    catch _ => return []
  return found.flatten

/-- Puts into place what a run left. -/
def Settlement.perform (s : Settlement) : IO UInt32 := do
  for folder in s.folders do
    IO.FS.createDirAll (String.ofList folder)
  for (path, content) in s.files do
    IO.FS.writeFile (String.ofList path) (String.ofList content)
  IO.print (String.ofList s.out)
  IO.eprint (String.ofList s.err)
  return s.code.toUInt32

/-- Runs the program that the first argument names. -/
def runNamed (arguments : List Text) : IO UInt32 := do
  match arguments with
  | [] => IO.eprint (String.ofList programUsage); return 2
  | name :: rest =>
      match programs.lookup name with
      | none => IO.eprint (String.ofList programUsage); return 2
      | some program =>
          let contents ← readable ([Episode.listFile, Film.listFile] ++ rest).eraseDups
          (settled (program rest) (World.start contents)).perform

end Gleaner

def main (arguments : List String) : IO UInt32 :=
  Gleaner.runNamed (arguments.map String.toList)
