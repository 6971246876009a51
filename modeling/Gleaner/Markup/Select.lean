import Gleaner.Json.Access
import Gleaner.Markup.Node

/-!
# Finding elements

The conditions by which programs look for elements in a page.

* `withAttribute`, `withClass` — conditions on an element.
* `linkBelow?` — the first link of a marked part of a page whose target begins in a given way.
* `links` — the links below a node, with their targets.
* `parseValue` — the tree of a page that may be no text.
-/

namespace Gleaner.Markup.Node

/-- An element of a name with an attribute of a value. -/
def withAttribute (name attr value : Text) (n : Node) : Bool :=
  n.isElement name && n.attribute? attr == some value

/-- An element that belongs to a class. -/
def withClass (c : Text) (n : Node) : Bool :=
  n.classes.contains c

/-- The links below a node, each with its target. -/
def links (n : Node) : List (Node × Text) :=
  (n.findAll (isElement "a")).filterMap fun link =>
    (link.attribute? "href").map fun target => (link, target)

/-- The target of the first link, in the first part of the page that belongs to a class, whose target
begins with a given text. -/
def linkBelow? (page : Node) (c start : Text) : Option Text :=
  match page.find? (withClass c) with
  | some part => (part.links.find? fun l => Text.startsWith l.2 start).map (·.2)
  | none => none

end Gleaner.Markup.Node

namespace Gleaner.Markup

/-- The tree of a page that may be no text. -/
def parseValue : Json → Except Fault Node
  | .str t => parse t
  | .arr _ => .error (.notText .list)
  | .obj _ => .error .objectSlice
  | v => .error (.noLength v.kind)

end Gleaner.Markup
