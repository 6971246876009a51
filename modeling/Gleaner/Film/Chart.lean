import Gleaner.Film.Movie
import Gleaner.Markup.Select
import Gleaner.Text.Integer
import Gleaner.World.Sites

/-!
# The film chart

The chart's page carries its list as data inside a script element; when that fails the links of the
page are read instead.  The page of each film then gives its title and year.

* `Listing` — a film in the chart.
* `listings`, `linkedListings` — the two readings of the chart.
* `Details`, `details` — what the page of a film says.
* `chart` — the films of the chart.
-/

namespace Gleaner.Film

variable [Platform]

/-- A film in the chart; the second reading knows no year and says so. -/
structure Listing where
  id : Text
  title : Text
  year : Option Nat
  deriving DecidableEq, Repr

/-- A listing as it is shown. -/
def Listing.toJson (l : Listing) : Json :=
  let base : List (String × Json) := [("imdb_id", .str l.id), ("title", .str l.title)]
  Json.object (base ++ (l.year.map fun (n : Nat) => ("year", .int n)).toList)

/-- The digits that begin a text, if there are some, and what follows. -/
def leadingDigits? (t : Text) : Option (Text × Text) :=
  let digits := t.takeWhile Text.isDecimal
  if digits.isEmpty then none else some (digits, t.drop digits.length)

/-- The number of a film in the address of its page; `closed` asks for a stroke behind it. -/
def filmId? (closed : Bool) : Text → Option Text
  | [] => none
  | c :: rest =>
      let here := (Text.afterFront? "/title/tt" (c :: rest)).bind leadingDigits?
      match here with
      | some (digits, after) =>
          if closed && after.head? != some '/' then filmId? closed rest
          else some ('t' :: 't' :: digits)
      | none => filmId? closed rest

/-- The data elements of a page. -/
def dataElements (page : Markup.Node) : List Markup.Node :=
  page.findAll (Markup.Node.withAttribute "script" "type" "application/ld+json")

/-- The value inside a data element. -/
def dataValue (element : Markup.Node) : Except Fault Json :=
  match element.string? with
  | some t => Json.parse t
  | none => .error (.notJsonText .null)

/-- Whether a value is an object of a type. -/
def isOfType (v : Json) (type : Text) : Bool :=
  ((v.member? "@type").map fun t => t.isText type).getD false

/-- The listing of an item, if it names a film. -/
def listing? (item : Json) : Except Fault (Option Listing) := do
  let film ← item.getD "item" (.obj [])
  match ← film.getD "url" "" with
  | .str url =>
      match filmId? true url with
      | none => return none
      | some id =>
          let name ← film.getD "name" ""
          let title ← name.asText "replace"
          return some ⟨id, Text.replace "&apos;" ['\''] title, none⟩
  | v => throw (.notText v.kind)

/-- The listings of a data value, `none` when it is no list of items. -/
def listingsOf? (v : Json) : Except Fault (Option (List Listing)) := do
  if isOfType v "ItemList" then
    let value ← v.getD "itemListElement" (.arr [])
    let items ← value.items
    let found ← items.mapM listing?
    return some (found.filterMap id)
  else return none

/-- A fault of the data itself: the next data element is tried. -/
def isDataFault : Fault → Bool
  | .malformedJson .. => true
  | .noMember .. => true
  | _ => false

/-- The listings of the first data element that has them. -/
def firstListings : List Markup.Node → Except Fault (List Listing)
  | [] => .ok []
  | e :: rest =>
      match (dataValue e).bind listingsOf? with
      | .ok (some ls) => .ok ls
      | .ok none => firstListings rest
      | .error f => if isDataFault f then firstListings rest else .error f

/-- The page of the chart. -/
def chartPage : Program Markup.Node := do
  let reply ← fetch (.str Site.chart) Site.timeout
  requireSuccess Site.chart reply
  Program.lift (Markup.parse reply.text)

/-- The first reading of the chart. -/
def listings : Program (List Listing) := do
  let found ← Program.attempt do
    let page ← chartPage
    Program.lift (firstListings (dataElements page))
  match found with
  | .ok ls => return ls
  | .error f =>
      if f.isRequest then
        say ["Error fetching IMDb: ", f.message]
        return []
      else Program.fail f

/-- The listing of a link in an entry of the chart. -/
def linkedListing? (entry : Markup.Node) : Option Listing :=
  let link := entry.links.findSome? fun (_, target) => filmId? false target
  link.map fun id => ⟨id, [], some 0⟩

/-- The listings of the entries of the chart.  Each entry has exactly two parts, and the second is an
element; otherwise there is no list. -/
def entryListings? : List Markup.Node → Option (List Listing)
  | [] => some []
  | entry :: rest =>
      match entry.children with
      | [_, .element name attributes children] => do
          let more ← entryListings? rest
          return (linkedListing? (.element name attributes children)).toList ++ more
      | _ => none

/-- The second reading of the chart. -/
def linkedListings : Program (List Listing) := do
  let page ← Program.attempt chartPage
  let entries := page.toOption.map fun p =>
    p.findAll fun n =>
      n.isElement "li" && n.withClass "ipc-metadata-list-summary-item"
  return (entries.bind entryListings?).getD []

/-! ## The page of a film -/

/-- What the page of a film says. -/
structure Details where
  title : Json
  year : Int

/-- Details as they are shown. -/
def Details.toJson (d : Details) : Json :=
  Json.object [("title", d.title), ("year", .int d.year)]

/-- The year that a date begins with. -/
def dateYear? : Json → Option Int
  | .str t => Text.integer? (t.take 4)
  | _ => none

/-- Title and year from data elements.  A date that cannot be read leaves the title and goes on to the
next element. -/
def dataDetails (title : Json) : List Markup.Node → Details
  | [] => ⟨title, 0⟩
  | e :: rest =>
      match dataValue e with
      | .error _ => dataDetails title rest
      | .ok v =>
          if isOfType v "Movie" then
            let title := (v.member? "name").getD .null
            let date := (v.member? "datePublished").getD ""
            if date.isTruthy then
              match dateYear? date with
              | some year => ⟨title, year⟩
              | none => dataDetails title rest
            else ⟨title, 0⟩
          else dataDetails title rest

/-- The shortest text of one line, not empty, that stands before blanks and an opening bracket. -/
def beforeBracket? : Text → Option Text
  | [] => none
  | c :: rest =>
      if c = '\n' then none
      else if (Text.stripLeft rest).head? == some '(' then some [c]
      else (beforeBracket? rest).map (c :: ·)

/-- The title that the heading of a page names. -/
def headingTitle (t : Text) : Text :=
  match beforeBracket? t with
  | some title => Text.strip title
  | none => Text.strip ((Text.before? t " - ").getD t)

/-- Four digits at the front of a text, and what follows. -/
def fourDigits? (t : Text) : Option (Text × Text) :=
  let digits := t.take 4
  if digits.length = 4 && digits.all Text.isDecimal then some (digits, t.drop 4) else none

/-- The first year in brackets. -/
def bracketYear? : Text → Option Nat
  | [] => none
  | c :: rest =>
      let here := if c = '(' then fourDigits? rest else none
      match here with
      | some (digits, ')' :: _) => some (Text.digitsValue digits)
      | _ => bracketYear? rest

/-- The first four digits in a row. -/
def anyYear? : Text → Option Nat
  | [] => none
  | c :: rest =>
      match fourDigits? (c :: rest) with
      | some (digits, _) => some (Text.digitsValue digits)
      | none => anyYear? rest

/-- The first year that is not zero. -/
def firstYear (data : Int) (others : List (Option Nat)) : Int :=
  if data ≠ 0 then data
  else ((others.filterMap id).find? (· ≠ 0)).getD 0

/-- The details that a page shows: from its data, else from its heading, else from its keywords. -/
def pageDetails? (page : Markup.Node) : Option Details :=
  let data := dataDetails .null (dataElements page)
  let heading := (page.find? (Markup.Node.isElement "title")).map Markup.Node.shownText
  let title :=
    if data.title.isTruthy then data.title
    else (heading.map fun t => Json.str (headingTitle t)).getD data.title
  let keywords := (page.find? (Markup.Node.withAttribute "meta" "name" "keywords")).map fun m =>
    (m.attribute? "content").getD []
  let year := firstYear data.year [heading.bind bracketYear?, keywords.bind anyYear?]
  if title.isTruthy && year ≠ 0 then some ⟨title, year⟩ else none

/-- The details of a film; a request that fails has none. -/
def details (id : Text) : Program (Option Details) := do
  let found ← Program.attempt do
    let reply ← fetch (.str (Site.film id)) Site.timeout
    if reply.status ≠ 200 then pure none
    else do
      let page ← Program.lift (Markup.parse reply.text)
      pure (pageDetails? page)
  match found with
  | .ok d => return d
  | .error f => if f.isRequest then return none else Program.fail f

/-! ## The films of the chart -/

/-- Milliseconds between two films. -/
def chartDelay : Nat := 500

/-- The films of listings, from the `i`-th on. -/
def moviesFrom (total : Nat) : Nat → List Listing → Program (List Movie)
  | _, [] => pure []
  | i, l :: rest => do
      print ["  [", Text.ofNat (i + 1), "/", Text.ofNat total, "] Fetching ", l.id, "... "]
      let year : Json ←
        match ← details l.id with
        | some d => do
            say [l.title, " (", Text.ofInt d.year, ")"]
            pure (.int d.year)
        | none => do
            say ["failed, using fallback"]
            pure (.int (l.year.getD 0))
      pause chartDelay
      let more ← moviesFrom total (i + 1) rest
      return ⟨.str l.title, year, .str l.id, .str (Site.film l.id), .null⟩ :: more

/-- The films of the chart. -/
def chart : Program (List Movie) := do
  say ["Fetching IMDb Top 250 page..."]
  let first ← listings
  let ls ←
    if first.isEmpty then do
      say ["JSON-LD failed, trying HTML parsing..."]
      linkedListings
    else pure first
  say ["Found ", Text.ofNat ls.length, " movies, fetching details..."]
  moviesFrom ls.length 0 ls

end Gleaner.Film
