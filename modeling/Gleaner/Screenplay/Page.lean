import Gleaner.Markup.CharRef
import Gleaner.Text.IgnoreCase

/-!
# The preformatted part of a page

Transcripts and screenplays stand on their pages as preformatted text.  The part is cut out by the
position of its tags; tags are then removed, character references replaced, and whatever looks like
a tag after that is removed too.

* `preformatted?` — the part of a page from its opening tag to its last closing tag.
* `dropPreTags`, `dropBoldTags`, `dropTags` — removal of tags.
* `plain` — the plain text of a part.
-/

namespace Gleaner.Screenplay

/-- The part between two positions. -/
def slice (t : Text) (first last : Nat) : Text :=
  (t.take last).drop first

/-- The part of a page from the first opening tag written with a blank behind its name.  Without a
closing tag behind it the page is taken whole. -/
def attributedPart? (page : Text) : Option Text :=
  (Text.indexOf? "<pre " page).map fun first =>
    match Text.lastIndexOf? "</pre>" page with
    | some last => if first < last then slice page first last else page
    | none => page

/-- The part of a page from its opening tag to its last closing tag; `none` for a page without an
opening tag. -/
def preformatted? (page : Text) : Option Text :=
  match Text.indexOf? "<pre>" page, Text.lastIndexOf? "</pre>" page with
  | some first, some last =>
      if first < last then some (slice page first last) else attributedPart? page
  | _, _ => attributedPart? page

/-- How many characters lead up to and over the next `>`. -/
def toTagEnd? (t : Text) : Option Nat :=
  (Text.cut? '>' t).map fun (inside, _) => inside.length + 1

/-- The length of an opening or closing tag of a preformatted part, behind its first character. -/
def preTag? (c : Char) (rest : Text) : Option Nat :=
  if c = '<' then
    let slash := if rest.head? == some '/' then 1 else 0
    match Text.afterFolded? "pre" (rest.drop slash) with
    | some after => (toTagEnd? after).map fun n => slash + 3 + n
    | none => none
  else none

/-- The length of a bold tag without attributes, behind its first character. -/
def boldTag? (c : Char) (rest : Text) : Option Nat :=
  if c = '<' then
    match rest with
    | 'b' :: '>' :: _ => some 2
    | '/' :: 'b' :: '>' :: _ => some 3
    | _ => none
  else none

/-- The length of anything between angle brackets, behind its first character. -/
def tag? (c : Char) (rest : Text) : Option Nat :=
  if c = '<' && rest.head? != some '>' then toTagEnd? rest else none

/-- Removes the tags of preformatted parts. -/
def dropPreTags (t : Text) : Text :=
  Text.erase preTag? t

/-- Removes bold tags. -/
def dropBoldTags (t : Text) : Text :=
  Text.erase boldTag? t

/-- Removes everything between angle brackets. -/
def dropTags (t : Text) : Text :=
  Text.erase tag? t

/-- The part of a page in which references are replaced. -/
def untagged (part : Text) : Text :=
  dropBoldTags (dropPreTags part)

/-- The plain text of a part of a page. -/
def plain (part : Text) : Text :=
  dropTags (Markup.CharRef.resolve (untagged part))

end Gleaner.Screenplay
