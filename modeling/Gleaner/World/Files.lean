import Gleaner.Fault

/-!
# Files and folders

The files that programs read and write, by path.  A path is a text with strokes between its parts;
the folder in which programs work has the empty path and always exists.

* `Files` — folders and files.
* `Files.resolve` — where a path leads.
* `Files.present`, `Files.read`, `Files.write`, `Files.remove` — operations on one path.
* `Files.makeFolder`, `Files.list` — folders.
* `Path.parent`, `Path.name`, `Path.stem`, `Path.withSuffix` — the parts of a path.
* `Path.above` — the folders on the way to a path.
-/

namespace Gleaner

namespace Path

/-- The parts of a path. -/
def parts (path : Text) : List Text :=
  Text.splitOn '/' path

/-- The last part of a path; the working folder has no name. -/
def name (path : Text) : Text :=
  let last := (parts path).getLast?.getD []
  if path = ['.'] then [] else last

/-- The folder of a path; the working folder for a path of one part. -/
def parent (path : Text) : Text :=
  Text.join ['/'] (parts path).dropLast

/-- The folders on the way to a path, outermost first. -/
def above (path : Text) : List Text :=
  let folders := (parts path).dropLast
  (List.range folders.length).map fun i => Text.join ['/'] (folders.take (i + 1))

/-- The name and the suffix of a last part: it is split at its last point, but not at a point that
begins or ends it. -/
def splitSuffix (name : Text) : Text × Text :=
  match Text.lastIndexOf? ['.'] name with
  | some i => if 0 < i ∧ i + 1 < name.length then (name.take i, name.drop i) else (name, [])
  | none => (name, [])

/-- The last part of a path without its suffix. -/
def stem (path : Text) : Text :=
  (splitSuffix (name path)).1

/-- A part of a folder. -/
def join (folder name : Text) : Text :=
  if folder.isEmpty then name else folder ++ '/' :: name

/-- A path with another suffix. -/
def withSuffix (path suffix : Text) : Text :=
  join (parent path) (stem path ++ suffix)

/-- The strokes that begin a path: two stay two, and more of them are one. -/
def root (path : Text) : Text :=
  match (path.takeWhile (· == '/')).length with
  | 0 => []
  | 2 => ['/', '/']
  | _ => ['/']

/-- A path without empty parts and parts that stand for their own folder. -/
def normal (path : Text) : Text :=
  let kept := (parts path).filter fun p => !p.isEmpty && p != ['.']
  let whole := root path ++ Text.join ['/'] kept
  if whole.isEmpty then ['.'] else whole

/-- The place one step up.  A place is the list of the parts on its way; it begins with steps up if it
lies outside the working folder, and with an empty part if it is seen from the root.  The root is the
place above itself. -/
def up (place : List Text) : List Text :=
  match place.getLast? with
  | none => [['.', '.']]
  | some p =>
      if p.isEmpty then place
      else if p = ['.', '.'] then place ++ [p]
      else place.dropLast

/-- The length of a text in bytes. -/
def byteLength (t : Text) : Nat :=
  t.foldl (fun n c => n + c.utf8Size) 0

/-- How many bytes one part of a path may have. -/
def maxPart : Nat := 255

/-- How many bytes a path may have. -/
def maxPath : Nat := 4095

end Path

/-- Folders and files, each under its path. -/
structure Files where
  folders : List Text
  contents : List (Text × Text)
  deriving DecidableEq, Repr

namespace Files

/-- The content of a file. -/
def content? (fs : Files) (path : Text) : Option Text :=
  fs.contents.lookup path

/-- Whether a folder exists. -/
def isFolder (fs : Files) (path : Text) : Bool :=
  path.isEmpty || fs.folders.contains path

/-- Whether there is a folder at a place.  The root and the folders above the working folder are
always there. -/
def isFolderAt (fs : Files) (place : List Text) : Bool :=
  (place.all fun p => p = ['.', '.']) || place = [[]] || fs.isFolder (Text.join ['/'] place)

/-- Sets the value of a path, in its place if it is there and at the end if not. -/
def set (path content : Text) : List (Text × Text) → List (Text × Text)
  | [] => [(path, content)]
  | (p, old) :: rest =>
      if p = path then (p, content) :: rest else (p, old) :: set path content rest

/-- Where a path leads: to a folder, to a file with its content, or to a free name in a folder. -/
inductive Place where
  | folder
  | file (path content : Text)
  | free (path : Text)
  deriving DecidableEq, Repr

/-- Goes from a place along the parts of a path.  Every part before the last must be a folder, and the
length of a part only counts once the way to it is found. -/
def walk (fs : Files) (path : Text) (place : List Text) : List Text → Except Fault Place
  | [] => .ok .folder
  | p :: rest =>
      if p.isEmpty || p = ['.'] then walk fs path place rest
      else if p = ['.', '.'] then walk fs path (Path.up place) rest
      else if Path.maxPart < Path.byteLength p then .error (.longName path)
      else if fs.isFolderAt (place ++ [p]) then walk fs path (place ++ [p]) rest
      else
        let name := Text.join ['/'] (place ++ [p])
        match fs.content? name, rest with
        | some content, [] => .ok (.file name content)
        | some _, _ :: _ => .error (.notFolder path)
        | none, [] => .ok (.free name)
        | none, _ :: _ => .error (.noSuchFile path)

/-- Where a path leads. -/
def resolve (fs : Files) (path : Text) : Except Fault Place :=
  if path.isEmpty then .error (.noSuchFile path)
  else if Path.maxPath < Path.byteLength path then .error (.longName path)
  else
    match Path.parts path with
    | [] :: rest => walk fs path [[]] rest
    | parts => walk fs path [] parts

/-- Whether a file or folder exists.  A path that cannot exist does not; only a name that is too long
is a fault. -/
def present (fs : Files) (path : Text) : Except Fault Bool :=
  if List.contains path '\x00' then .ok false
  else
    match fs.resolve path with
    | .ok (.free _) => .ok false
    | .ok _ => .ok true
    | .error (.longName p) => .error (.longName p)
    | .error _ => .ok false

/-- Line ends of any kind become newlines when a text is read. -/
def readLines : Text → Text
  | [] => []
  | '\r' :: '\n' :: rest => '\n' :: readLines rest
  | '\r' :: rest => '\n' :: readLines rest
  | c :: rest => c :: readLines rest

/-- The text of a file. -/
def read (fs : Files) (path : Text) : Except Fault Text := do
  if List.contains path '\x00' then throw .embeddedNull
  match ← fs.resolve path with
  | .folder => throw (.isFolder path)
  | .file _ t => return readLines t
  | .free _ => throw (.noSuchFile path)

/-- Writes a file. -/
def write (fs : Files) (path content : Text) : Except Fault Files := do
  if List.contains path '\x00' then throw .embeddedNull
  match ← fs.resolve path with
  | .folder => throw (.isFolder path)
  | .file name _ | .free name => return { fs with contents := set name content fs.contents }

/-- Removes a file. -/
def remove (fs : Files) (path : Text) : Files :=
  { fs with contents := fs.contents.filter fun (p, _) => p != path }

/-- The folder of a way, outermost first, that would lie in a file. -/
def insideFile? (fs : Files) : List Text → Option Text
  | p :: q :: rest => if (fs.content? p).isSome then some q else insideFile? fs (q :: rest)
  | _ => none

/-- Makes a folder, and those above it, if there is none. -/
def makeFolder (fs : Files) (path : Text) : Except Fault Files :=
  if fs.isFolder path then .ok fs
  else if (fs.content? path).isSome then .error (.fileExists path)
  else
    match fs.insideFile? (Path.above path ++ [path]) with
    | some p => .error (.notFolder p)
    | none => .ok { fs with folders := fs.folders ++ Path.above path ++ [path] }

/-- The paths in a folder whose names end with a suffix, in the order of the platform. -/
def list [Platform] (fs : Files) (folder suffix : Text) : List Text :=
  let paths := fs.contents.map (·.1) ++ fs.folders
  Platform.arrange
    (paths.filter fun p => Path.parent p == folder && Text.endsWith (Path.name p) suffix)

end Files

end Gleaner
