import Gleaner.Screenplay.Element

/-!
# The printed page

A screenplay is set as a page: a header with the title, then one block for each element, named by
its kind.  The style sheet gives the blocks their places.

* `page` — the page of a screenplay.
* `styleSheet` — the style sheet.
-/

namespace Gleaner.Screenplay

/-- The name of the block of a kind; the title stands in the header and has none. -/
def blockName? : ElementKind → Option Text
  | .title => none
  | .sceneHeading => some "scene-heading"
  | .transition => some "transition"
  | .character => some "character"
  | .parenthetical => some "parenthetical"
  | .dialogue => some "dialogue"
  | .action => some "action"

/-- The block of an element. -/
def block? (e : Element) : Option Text :=
  (blockName? e.kind).map fun name =>
    Text.cat ["<div class=\"", name, "\">", e.text, "</div>"]

/-- The title that the elements name first. -/
def namedTitle (es : List Element) : Text :=
  match es.find? fun e => e.kind == .title with
  | some e => e.text
  | none => []

/-- The header of a page with a title. -/
def header (title : Text) : List Text :=
  if title.isEmpty then []
  else [Text.cat ["<div class=\"title-header\"><h1>", title, "</h1></div>"]]

/-- The first line of a page. -/
def pageTop : Text := "<html><head><meta charset=\"utf-8\"></head><body>"

/-- The last line of a page. -/
def pageBottom : Text := "</body></html>"

/-- The page of a list of elements under a title. -/
def pageOf (title : Text) (es : List Element) : Text :=
  Text.join ['\n'] (pageTop :: (header title ++ es.filterMap block? ++ [pageBottom]))

/-- The page of a screenplay.  Without a title of its own it has the title that the text names. -/
def page (content title : Text) : Text :=
  let es := elements content
  pageOf (if title.isEmpty then namedTitle es else title) es

/-- The rules of the style sheet: what each one is about, and what it settles. -/
def styleRules : List (String × List String) := [
    ("@page", ["size: letter", "margin: 1in"]),
    ("body", [
      "font-family: Courier, monospace", "font-size: 12pt", "line-height: 1.0", "margin: 0",
      "padding: 0"]),
    (".title-header", ["text-align: center", "margin-bottom: 1in"]),
    (".title-header h1", [
      "font-size: 24pt", "font-weight: bold", "margin: 0", "text-transform: uppercase"]),
    (".scene-heading", [
      "font-weight: bold", "text-transform: uppercase", "margin-top: 1em",
      "margin-bottom: 0.5em"]),
    (".action", ["margin-bottom: 0.5em"]),
    (".character", ["margin-left: 2in", "margin-top: 0.5em", "font-weight: bold"]),
    (".dialogue", ["margin-left: 1.5in", "margin-right: 2in", "margin-bottom: 0.5em"]),
    (".parenthetical", ["margin-left: 1.75in", "margin-right: 2in"]),
    (".transition", [
      "text-align: right", "text-transform: uppercase", "margin-top: 0.5em",
      "margin-bottom: 0.5em"]),
    (".centered", ["text-align: center"])]

/-- A rule of a style sheet as text. -/
def styleRule (about : Text) (settings : List Text) : Text :=
  Text.cat [about, " \x7b\n", settings.flatMap fun s => Text.cat ["    ", s, ";\n"], "\x7d"]

/-- The style sheet of the page. -/
def styleSheet : Text :=
  Text.cat ["\n", Text.join "\n\n" (styleRules.map fun (about, settings) =>
    styleRule about (settings.map String.toList)), "\n"]

end Gleaner.Screenplay
