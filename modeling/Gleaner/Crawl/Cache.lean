import Gleaner.Crawl.Session

/-!
# The cache

Results are kept in files, each with the time at which it was stored.  A result that is too old is as
good as none, and files that are much too old are removed.

* `cachePath` — the file of a key.
* `Session.place`, `Session.keep`, `Session.cached` — the files of a session.
* `checkCache` — the result of a key.
* `saveCache` — keeps a result.
* `cleanCache` — removes old files.
-/

namespace Gleaner.Crawl

/-- The folder of the cache, in the folder in which the crawler works. -/
def cacheFolder : Text := ".cache"

/-- The way to the folder in which the crawler works. -/
def workFolder : List Text :=
  ["skills", "xiaohongshu-crawler", "lib"]

/-- The parts of a path with steps up resolved. -/
def resolveParts (done : List Text) : List Text → List Text
  | [] => done.reverse
  | p :: rest =>
      if p.isEmpty || p = ['.'] then resolveParts done rest
      else if p = ['.', '.'] then
        match done with
        | d :: ds =>
            if d = ['.', '.'] then resolveParts (p :: done) rest else resolveParts ds rest
        | [] => resolveParts [p] rest
      else resolveParts (p :: done) rest

/-- The way from a folder to a place, both given by their parts: what their ways share is left out,
and what remains of the way to the folder is gone up. -/
def wayFrom : List Text → List Text → List Text
  | f :: folder, p :: place =>
      if f = p then wayFrom folder place
      else (f :: folder).map (fun _ => ['.', '.']) ++ p :: place
  | folder, place => folder.map (fun _ => ['.', '.']) ++ place

/-- The file of a key, seen from the folder in which the crawler works.  A key may have strokes and
steps up. -/
def cachePath (key : Text) : Text :=
  let parts := workFolder ++ cacheFolder :: Path.parts (key ++ ".json")
  Text.join ['/'] (wayFrom workFolder (resolveParts [] parts))

/-! ## Files -/

namespace Session

/-- Where a path leads. -/
def place (s : Session) (path : Text) : Except Fault Files.Place :=
  match s.store with
  | .folders => if List.contains path '\x00' then .error .embeddedNull else s.files.resolve path
  | .flat =>
      match s.files.content? path with
      | some content => .ok (.file path content)
      | none => .ok (.free path)

/-- Sets the text of a file.  A new file also changes the list of its folder. -/
def keep (s : Session) (path content : Text) : Session :=
  let isNew := (s.files.content? path).isNone
  { s with
    files := { s.files with contents := Files.set path content s.files.contents }
    stamp := fun p => if p = path || isNew && p = Path.parent path then s.clock else s.stamp p }

/-- Whether a path lies in the cache. -/
def inCache (path : Text) : Bool :=
  Text.startsWith path (cacheFolder ++ ['/'])

/-- What the folder of the cache lists. -/
def cached [Platform] (s : Session) : List Text :=
  match s.store with
  | .folders => s.files.list cacheFolder []
  | .flat => (s.files.contents.map Prod.fst).filter inCache

end Session

/-! ## Results -/

/-- How long a result is good. -/
def maxAge : Run Setting := do
  let s ← browserSetting "xhs"
  return orElse (look s "cache_duration") (numeral 3600000)

/-- The result in a stored text, null when it is too old. -/
def resultIn (content : Text) : Run Setting := do
  let v ← Run.lift (readStored content)
  let stored ← Run.lift (need (some v) "timestamp")
  let age := (← get).clock.sub (← Run.lift (numberOf stored))
  let limit ← Run.lift (numberOf (← maxAge))
  return if age.lt limit then look (some v) "data" else some .null

/-- The result of a key, null when there is none or it is too old. -/
def checkCache (key : Setting) : Run Setting := do
  let path := cachePath (← Run.lift (textOf key))
  match (← get).place path with
  | .ok (.file _ content) => resultIn content
  | .ok .folder => Run.fail (.denied "read" (.isFolder path))
  | .ok (.free _) | .error _ => return some .null

/-- A result as it is kept; an absent one is left out. -/
def record (now : Binary64) (data : Setting) : Json :=
  let stamp : List (Text × Json) := [("timestamp".toList, .real now)]
  .obj (stamp ++ (data.map fun v => ("data".toList, v)).toList)

/-- Keeps a result.  Its text is made before its file is opened. -/
def saveCache [Platform] (key data : Setting) : Run Unit := do
  let path := cachePath (← Run.lift (textOf key))
  let s ← get
  let v := record s.clock data
  if Platform.writeRoom < v.nesting then Run.fail .tooDeep
  else
    match s.place path with
    | .ok (.file name _) | .ok (.free name) => set (s.keep name (written v))
    | .ok .folder => Run.fail (.denied "open" (.isFolder path))
    | .error f => Run.fail (.denied "open" f)

/-! ## Old files -/

/-- Whether what was last changed at a moment is so old that it is removed: twice as old as a good
result. -/
def isStale (now limit stamp : Binary64) : Bool :=
  (limit.mul (Binary64.ofInt 2)).lt (now.sub stamp)

/-- Removes a file if it is old.  A folder cannot be removed. -/
def removeStale (limit : Binary64) (path : Text) : Run Unit := do
  let s ← get
  if isStale s.clock limit (s.stamp path) then
    if s.files.isFolder path then Run.fail (.denied "unlink" (.isFolder path))
    else set { s with files := s.files.remove path }

/-- Removes old files, one after the other. -/
def cleanCache [Platform] : Run Unit := do
  let limit ← maxAge
  let paths := (← get).cached
  if !paths.isEmpty then
    let limit ← Run.lift (numberOf limit)
    paths.forM (removeStale limit)

end Gleaner.Crawl
