import Gleaner.Markup.Token

/-!
# Pages as trees

An element closes when its closing tag comes, together with everything still open inside it; no tag
is implied, and a closing tag without an open element of its name does nothing.  Void elements close
at once, and then one closing tag of their name is passed over.

* `Node` — the tree.
* `Node.ofTokens`, `parse` — the tree of a page.
* `Node.shownText`, `Node.strippedText`, `Node.string?` — the texts of a node.
* `Node.descendants`, `Node.findAll` — the nodes below a node, in document order.
* `Node.sameAs` — equality of contents.
-/

namespace Gleaner.Markup

/-- What a text node is: running text, or the content of something that is not shown as text. -/
inductive TextKind where
  | running
  | characterData
  | comment
  | doctype
  | instruction
  | declaration
  | script
  | style
  | template
  | rubyText
  | rubyParenthesis
  deriving DecidableEq, Repr

/-- A node of a page. -/
inductive Node where
  | element (name : Text) (attributes : List (Text × Text)) (children : List Node)
  | text (kind : TextKind) (t : Text)
  deriving Repr

/-- The kind of the text inside an element that keeps its text to itself. -/
def TextKind.inside? (name : Text) : Option TextKind :=
  if name = "script".toList then some .script
  else if name = "style".toList then some .style
  else if name = "template".toList then some .template
  else if name = "rt".toList then some .rubyText
  else if name = "rp".toList then some .rubyParenthesis
  else none

/-- Elements without content. -/
def isVoidElement (name : Text) : Bool :=
  ["area", "base", "br", "col", "embed", "hr", "img", "input", "keygen", "link", "menuitem", "meta",
    "param", "source", "track", "wbr", "basefont", "bgsound", "command", "frame", "image",
    "isindex", "nextid", "spacer"].contains (String.ofList name)

/-- Elements in which white space counts. -/
def keepsSpace (name : Text) : Bool :=
  name = "pre".toList ∨ name = "textarea".toList

/-! ## Building the tree -/

/-- An element that is still open; its children come last first. -/
structure Frame where
  name : Text
  attributes : List (Text × Text)
  children : List Node

/-- A tree under construction: the open elements, innermost first and the page itself last; the text
since the last node; and the void elements whose closing tag may still come. -/
structure Builder where
  frames : List Frame
  pending : Option Text
  closed : List Text

namespace Builder

/-- The page before its first token. -/
def empty : Builder :=
  ⟨[⟨"[document]", [], []⟩], none, []⟩

/-- Adds a node to the innermost open element. -/
def append (n : Node) : List Frame → List Frame
  | [] => []
  | f :: rest => { f with children := n :: f.children } :: rest

/-- White space of a plain text. -/
def isPlainSpace (c : Char) : Bool :=
  c == ' ' || c == '\n' || c == '\t' || c == '\x0c' || c == '\r'

/-- White space alone becomes one newline or one blank, unless it counts. -/
def condensed (frames : List Frame) (t : Text) : Text :=
  if t.all isPlainSpace && !frames.any (keepsSpace ·.name) then
    if List.contains t '\n' then ['\n'] else [' ']
  else t

/-- The kind of running text inside the open elements. -/
def runningKind (frames : List Frame) : TextKind :=
  (frames.findSome? fun f => TextKind.inside? f.name).getD .running

/-- Turns the pending text into a node. -/
def flush (b : Builder) : Builder :=
  match b.pending with
  | none => b
  | some t =>
      { b with
        frames := append (.text (runningKind b.frames) (condensed b.frames t)) b.frames
        pending := none }

/-- Adds running text. -/
def addText (b : Builder) (t : Text) : Builder :=
  { b with pending := some (b.pending.getD [] ++ t) }

/-- Adds a text node of a kind of its own. -/
def addSpecial (b : Builder) (kind : TextKind) (t : Text) : Builder :=
  let b := b.flush
  { b with frames := append (.text kind (condensed b.frames t)) b.frames }

/-- Opens an element. -/
def openElement (b : Builder) (name : Text) (attributes : List (Text × Text)) : Builder :=
  let b := b.flush
  { b with frames := ⟨name, attributes, []⟩ :: b.frames }

/-- An open element as a node. -/
def node (f : Frame) : Node :=
  .element f.name f.attributes f.children.reverse

/-- Closes elements, the innermost of them given apart, up to the innermost one of a name. -/
def closeThrough (name : Text) (f : Frame) : List Frame → List Frame
  | [] => [f]
  | g :: rest =>
      let outer := { g with children := node f :: g.children }
      if f.name = name then outer :: rest else closeThrough name outer rest

/-- A closing tag: nothing happens when no element of the name is open. -/
def closeElement (b : Builder) (name : Text) : Builder :=
  let b := b.flush
  match b.frames with
  | f :: rest =>
      if b.frames.any (·.name == name) then { b with frames := closeThrough name f rest } else b
  | [] => b

/-- A closing tag in the page: one after a void element of its name is passed over. -/
def closeTag (b : Builder) (name : Text) : Builder :=
  if b.closed.contains name then { b with closed := b.closed.erase name }
  else b.closeElement name

/-- An opening tag in the page. -/
def openTag (b : Builder) (name : Text) (attributes : List (Text × Text)) (selfClosing : Bool) :
    Builder :=
  let b := b.openElement name attributes
  if selfClosing then b.closeTag name
  else if isVoidElement name then
    let b := b.closeElement name
    { b with closed := name :: b.closed }
  else b

/-- The effect of a token. -/
def step (b : Builder) : Token → Builder
  | .text t => b.addText t
  | .opening name attributes selfClosing => b.openTag name attributes selfClosing
  | .closing name => b.closeTag name
  | .comment t => b.addSpecial .comment t
  | .doctype t => b.addSpecial .doctype t
  | .instruction t => b.addSpecial .instruction t
  | .declaration t => b.addSpecial .declaration t
  | .characterData t => b.addSpecial .characterData t

/-- Closes all open elements. -/
def finish (f : Frame) : List Frame → Node
  | [] => node f
  | g :: rest => finish { g with children := node f :: g.children } rest

end Builder

namespace Node

/-- The tree of a list of tokens. -/
def ofTokens (ts : List Token) : Node :=
  let b := (ts.foldl Builder.step Builder.empty).flush
  match b.frames with
  | f :: rest => Builder.finish f rest
  | [] => .element [] [] []

/-! ## Parts of a node -/

/-- The name of an element. -/
def name? : Node → Option Text
  | .element name _ _ => some name
  | .text .. => none

/-- The nodes directly inside an element. -/
def children : Node → List Node
  | .element _ _ cs => cs
  | .text .. => []

/-- An attribute of an element. -/
def attribute? (name : Text) : Node → Option Text
  | .element _ attributes _ => attributes.lookup name
  | .text .. => none

/-- An element of a name. -/
def isElement (name : Text) (n : Node) : Bool :=
  n.name? == some name

/-- The classes of an element. -/
def classes (n : Node) : List Text :=
  Text.words ((n.attribute? "class").getD [])

mutual

/-- The nodes below a node, in document order. -/
def descendants : Node → List Node
  | .element _ _ cs => descendantsOf cs
  | .text .. => []
termination_by structural n => n

/-- The nodes of a list and those below them, in document order. -/
def descendantsOf : List Node → List Node
  | [] => []
  | n :: rest => n :: (descendants n ++ descendantsOf rest)
termination_by structural ns => ns

end

/-- The elements below a node that satisfy a condition, in document order. -/
def findAll (n : Node) (p : Node → Bool) : List Node :=
  n.descendants.filter fun m => m.name?.isSome && p m

/-- The first element below a node that satisfies a condition. -/
def find? (n : Node) (p : Node → Bool) : Option Node :=
  (n.findAll p).head?

/-- The kinds of text that an element shows. -/
def shows (name : Text) (kind : TextKind) : Bool :=
  match TextKind.inside? name with
  | some own => kind == own
  | none => kind == .running || kind == .characterData

/-- The text nodes that a node shows, in document order. -/
def shownTexts : Node → List Text
  | .element name _ cs =>
      (descendantsOf cs).filterMap fun
        | .text kind t => if shows name kind then some t else none
        | .element .. => none
  | .text kind t => if kind == .running || kind == .characterData then [t] else []

/-- The text that a node shows. -/
def shownText (n : Node) : Text :=
  n.shownTexts.flatten

/-- The text that a node shows, each piece of it stripped. -/
def strippedText (n : Node) : Text :=
  (n.shownTexts.map Text.strip).flatten

mutual

/-- The text of a node with nothing else in it. -/
def string? : Node → Option Text
  | .text _ t => some t
  | .element _ _ cs => onlyString? cs
termination_by structural n => n

/-- The text of a list with one node. -/
def onlyString? : List Node → Option Text
  | [n] => string? n
  | _ => none
termination_by structural ns => ns

end

/-- Attributes whose value is a list of words. -/
def isWordList (element attr : Text) : Bool :=
  let a := String.ofList attr
  let e := String.ofList element
  a == "class" || a == "accesskey" || a == "dropzone" ||
    ((e == "a" || e == "link") && (a == "rel" || a == "rev")) ||
    ((e == "td" || e == "th") && a == "headers") || (e == "form" && a == "accept-charset") ||
    (e == "object" && a == "archive") || (e == "area" && a == "rel") ||
    (e == "icon" && a == "sizes") || (e == "iframe" && a == "sandbox") ||
    (e == "output" && a == "for")

/-- Whether two values of an attribute are equal, as words where the value is a list of words. -/
def sameValue (element attr v w : Text) : Bool :=
  if isWordList element attr then Text.words v == Text.words w else v == w

/-- Whether two elements have the same attributes, in any order. -/
def sameAttributes (element : Text) (as bs : List (Text × Text)) : Bool :=
  as.length == bs.length && as.all fun (k, v) =>
    ((bs.lookup k).map fun w => sameValue element k v w).getD false

mutual

/-- Whether two nodes have the same contents: texts by their characters, elements by name,
attributes and children. -/
def sameAs : Node → Node → Bool
  | .text _ t, .text _ u => t == u
  | .element n as cs, .element m bs ds =>
      n == m && sameAttributes n as bs && sameNodes cs ds
  | _, _ => false
termination_by structural n => n

/-- Whether two lists of nodes have the same contents. -/
def sameNodes : List Node → List Node → Bool
  | [], [] => true
  | n :: ns, m :: ms => sameAs n m && sameNodes ns ms
  | _, _ => false
termination_by structural ns => ns

end

mutual

/-- The nodes below a node, each with the siblings behind it. -/
def withFollowing : Node → List (Node × List Node)
  | .element _ _ cs => withFollowingOf cs
  | .text .. => []
termination_by structural n => n

/-- The nodes of a list and those below them, each with the siblings behind it. -/
def withFollowingOf : List Node → List (Node × List Node)
  | [] => []
  | n :: rest => (n, rest) :: (withFollowing n ++ withFollowingOf rest)
termination_by structural ns => ns

end

end Node

/-- The tree of a page. -/
def parse (page : Text) : Except Fault Node :=
  (Token.scan page).map Node.ofTokens

end Gleaner.Markup
