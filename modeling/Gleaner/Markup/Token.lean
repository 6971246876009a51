import Gleaner.Markup.CharRef
import Gleaner.Text.Blank
import Gleaner.Text.CaseMap
import Gleaner.Text.IgnoreCase

/-!
# Markup as a list of tokens

The scanner takes a page apart from left to right and never gives up on sloppy markup.  What is
begun and not finished before the end of the page counts as text; once the page is known to end
early, the scanner is *settled* and reads the remaining pieces for what they are.

* `Token` — the pieces of a page.
* `Tag.attributes` — the attributes of an opening tag.
* `Token.scan` — the tokens of a page.
-/

namespace Gleaner.Markup

/-- The pieces of a page. -/
inductive Token where
  | text (t : Text)
  | opening (name : Text) (attributes : List (Text × Text)) (selfClosing : Bool)
  | closing (name : Text)
  | comment (t : Text)
  | doctype (t : Text)
  | instruction (t : Text)
  | declaration (t : Text)
  | characterData (t : Text)
  deriving DecidableEq, Repr

namespace Tag

/-- A character that ends the name of a tag. -/
def isNameEnd (c : Char) : Bool :=
  c == '\t' || c == '\n' || c == '\r' || c == '\x0c' || c == ' ' || c == '/' || c == '>' ||
    c == '\x00'

/-- A character that ends the name of an attribute. -/
def isAttributeEnd (c : Char) : Bool :=
  Text.isBlank c || c == '/' || c == '=' || c == '>'

/-- A character behind which an attribute may begin. -/
def isDivider (c : Char) : Bool :=
  Text.isBlank c || c == '/' || c == '"' || c == '\''

/-- A character of an unquoted value. -/
def isBare (c : Char) : Bool :=
  !(Text.isBlank c || c == '>')

/-- The value behind a name: what it is, the last character taken and the text behind it.  A quote
that is never closed opens no value: a blank or an equals sign in front of it then makes an unquoted
one. -/
def value? (t : Text) : Option (Text × Char × Text) :=
  let t := Text.stripLeft t
  let signs := t.takeWhile (· == '=')
  if signs.isEmpty then none
  else
    let spaced := t.drop signs.length
    let blanks := spaced.takeWhile Text.isBlank
    let body := spaced.drop blanks.length
    let bare (from_ : Text) : Text × Char × Text :=
      let v := from_.takeWhile isBare
      (v, v.getLast?.getD '=', from_.drop v.length)
    match body with
    | q :: rest =>
        if q = '"' ∨ q = '\'' then
          match Text.cut? q rest with
          | some (v, after) => some (v, q, after)
          | none =>
              match blanks.getLast? with
              | some b => some ([], '=', b :: body)
              | none => if 2 ≤ signs.length then some (bare ('=' :: body)) else none
        else some (bare body)
    | [] => some ([], '=', [])

/-- Skips blanks and strokes between attributes, but not a stroke before the end of the tag; gives
the last character skipped. -/
def skipDividers (last : Char) : Text → Char × Text
  | [] => (last, [])
  | c :: rest =>
      if Text.isBlank c || (c == '/' && rest.head? != some '>') then skipDividers c rest
      else (last, c :: rest)

/-- The attributes ahead, as written, and the text behind them; `fuel` bounds their number. -/
def attributes (last : Char) : Nat → Text → List (Text × Text) × Text
  | 0, t => ([], t)
  | _ + 1, [] => ([], [])
  | fuel + 1, c :: rest =>
      if isDivider last && !(Text.isBlank c || c == '/' || c == '>') then
        let name := c :: rest.takeWhile fun c => !isAttributeEnd c
        let after := rest.drop (name.length - 1)
        let (v, l, behind) :=
          match value? after with
          | some found => found
          | none => ([], name.getLast?.getD c, after)
        let (l, ahead) := skipDividers l behind
        let (more, end_) := attributes l fuel ahead
        ((name, v) :: more, end_)
      else ([], c :: rest)

/-- Attributes by lowercase name, with references in their values replaced.  Of a repeated attribute
the first place and the last value stay. -/
def resolve : List (Text × Text) → Except Fault (List (Text × Text))
  | written => written.foldlM
      (fun seen (name, v) => do
        let name := Text.lower name
        let v ← CharRef.resolve? v
        return if seen.any (·.1 == name)
          then seen.map fun (k, old) => if k = name then (k, v) else (k, old)
          else seen ++ [(name, v)])
      []

end Tag

namespace Token

/-- What a construct at the front of a text turns out to be. -/
inductive Piece where
  /-- Tokens, and the text behind the construct. -/
  | tokens (ts : List Token) (rest : Text)
  /-- The text ends inside the construct. -/
  | unfinished

/-- An opening tag whose name begins at the front. -/
def openingTag (t : Text) : Except Fault Piece := do
  let name := t.takeWhile fun c => !Tag.isNameEnd c
  let after := t.drop name.length
  let dividers := after.takeWhile fun c => Text.isBlank c || c == '/'
  let body := after.drop dividers.length
  match body with
  | '>' :: rest =>
      return .tokens [.opening (Text.lower name) [] (dividers.getLast? == some '/')] rest
  | _ =>
      let (written, end_) := Tag.attributes ((name ++ dividers).getLast?.getD 'x') body.length body
      let tag (selfClosing : Bool) (rest : Text) : Except Fault Piece := do
        let attributes ← Tag.resolve written
        return .tokens [.opening (Text.lower name) attributes selfClosing] rest
      match end_ with
      | [] => return .unfinished
      | '>' :: rest => tag false rest
      | '/' :: '>' :: rest => tag true rest
      | c :: _ =>
          if c.isAlpha || c == '=' || c == '/' then return .unfinished
          else return .tokens [.text ('<' :: t.take (t.length - end_.length))] end_

/-- The name in a closing tag without anything else, blanks apart. -/
def plainName? (inside : Text) : Option Text :=
  let name := Text.strip inside
  match name with
  | c :: rest =>
      if c.isAlpha && rest.all fun c =>
          c.isAlphanum || c == '-' || c == '.' || c == ':' || c == '_' then some name
      else none
  | [] => none

/-- A closing tag, behind its `</`. -/
def closingTag (t : Text) : Piece :=
  match Text.cut? '>' t with
  | none => .unfinished
  | some (inside, rest) =>
      match plainName? inside with
      | some name => .tokens [.closing (Text.lower name)] rest
      | none =>
          match inside with
          | [] => .tokens [] rest
          | c :: _ =>
              if c.isAlpha then
                let name := inside.takeWhile fun c => !Tag.isNameEnd c
                .tokens [.closing (Text.lower name)] rest
              else .tokens [.comment inside] rest

/-- The parts before and behind the first closing mark: `marks` of them, each with blanks behind it,
and then `>`. -/
def cutMark? (mark : List Char) : Text → Option (Text × Text)
  | [] => none
  | c :: rest =>
      match afterMark? mark (c :: rest) with
      | some after => some ([], after)
      | none => (cutMark? mark rest).map fun (a, b) => (c :: a, b)
where
  /-- What follows the characters of a mark, with blanks where the mark has one. -/
  afterMark? : List Char → Text → Option Text
    | [], t => some t
    | ' ' :: ms, t => afterMark? ms (Text.stripLeft t)
    | m :: ms, t =>
        match t with
        | [] => none
        | c :: rest => if c = m then afterMark? ms rest else none

/-- A comment, behind its `<!--`. -/
def commentPiece (t : Text) : Piece :=
  match cutMark? "-- >".toList t with
  | some (inside, rest) => .tokens [.comment inside] rest
  | none => .unfinished

/-- A marked section, behind its `<![`: its name settles how it ends. -/
def sectionPiece (t : Text) : Except Fault Piece :=
  match t with
  | [] => .ok .unfinished
  | c :: rest =>
      if !c.isAlpha then
        .error (.rejectedMarkup
          ("expected name token at " ++ Text.quoted (("<![".toList ++ t).take 20)))
      else
        let word := c :: rest.takeWhile fun c =>
          c.isAlphanum || c == '-' || c == '_' || c == '.'
        let blanks := (t.drop word.length).takeWhile Text.isBlank
        let name := String.ofList (Text.lower word)
        if word.length + blanks.length = t.length then .ok .unfinished
        else
          let finish (mark : Text) : Piece :=
            match cutMark? mark t with
            | none => .unfinished
            | some (inside, rest) =>
                if Text.startsWith (Text.upper inside) "CDATA[" then
                  .tokens [.characterData (inside.drop 6)] rest
                else .tokens [.declaration inside] rest
          if ["temp", "cdata", "ignore", "include", "rcdata"].contains name then
            .ok (finish "] ] >".toList)
          else if ["if", "else", "endif"].contains name then .ok (finish "] >".toList)
          else
            .error (.rejectedMarkup ("unknown status keyword " ++ Text.quoted (word ++ blanks)
              ++ " in marked section"))

/-- A declaration, behind its `<!`. -/
def declarationPiece (t : Text) : Except Fault Piece :=
  match t with
  | '[' :: rest => sectionPiece rest
  | _ =>
      if Text.lower (t.take 7) = "doctype".toList then
        match Text.cut? '>' (t.drop 7) with
        | some (inside, rest) => .ok (.tokens [.doctype (inside.drop 1)] rest)
        | none => .ok .unfinished
      else
        match Text.cut? '>' t with
        | some (inside, rest) => .ok (.tokens [.comment inside] rest)
        | none => .ok .unfinished

/-- The construct behind a `<`; `none` when it is no markup. -/
def piece? (t : Text) : Except Fault (Option Piece) :=
  match t with
  | '/' :: rest => .ok (some (closingTag rest))
  | '!' :: '-' :: '-' :: rest => .ok (some (commentPiece rest))
  | '!' :: rest => (declarationPiece rest).map some
  | '?' :: rest =>
      match Text.cut? '>' rest with
      | some (inside, after) => .ok (some (.tokens [.instruction inside] after))
      | none => .ok (some .unfinished)
  | c :: _ => if c.isAlpha then (openingTag t).map some else .ok none
  | [] => .ok none

/-- The characters of a numbered reference in a page.  A replacement character stands for half of a
surrogate pair, which is none; a platform may refuse a text with one (`Platform.refusal`). -/
def numbered (n : Nat) : Text :=
  if n < 256 then [Char.ofNat (if 0x80 ≤ n ∧ n ≤ 0x9f then CharRef.windows n else n)]
  else if (0xd800 ≤ n ∧ n ≤ 0xdfff) ∨ 0x10ffff < n then ['�']
  else [Char.ofNat n]

/-- A numbered reference behind `&#`: its characters and the text behind it.  It needs a character
behind it that is no hexadecimal digit. -/
def numberedReference? (t : Text) : Option (Except Fault Text × Text) :=
  let behind (rest : Text) : Option Text :=
    match rest with
    | [] => none
    | ';' :: after => some after
    | c :: _ => if CharRef.isHexDigit c then none else some rest
  let digits := t.takeWhile Char.isDigit
  if !digits.isEmpty then
    (behind (t.drop digits.length)).map fun after =>
      (if Text.maxDigits < digits.length then .error (.longInteger digits.length)
        else .ok (numbered (Text.digitsValue digits)), after)
  else
    match t with
    | x :: body =>
        let digits := body.takeWhile CharRef.isHexDigit
        if (x == 'x' || x == 'X') && !digits.isEmpty then
          (behind (body.drop digits.length)).map fun after =>
            (.ok (numbered (CharRef.hexValue digits)), after)
        else none
    | [] => none

/-- A character that the name of a reference in a page may have. -/
def isReferenceChar (c : Char) : Bool :=
  c.isAlphanum || c == '-' || c == '.'

/-- The name of a reference behind `&`, and the text behind it.  The name ends before a character
that is neither letter nor digit; a semicolon belongs to the reference. -/
def namedReference? (t : Text) : Option (Text × Text) :=
  match t with
  | c :: _ =>
      if !c.isAlpha then none
      else
        let run := t.takeWhile isReferenceChar
        match t.drop run.length with
        | ';' :: after => some (run, after)
        | d :: after => some (run, d :: after)
        | [] =>
            let tail := (run.reverse.takeWhile Char.isAlphanum).length
            if tail = run.length then none
            else
              let name := run.take (run.length - tail - 1)
              some (name, t.drop name.length)
  | [] => none

/-- The text that a named reference stands for; an unknown name stays, without its semicolon. -/
def namedText (name : Text) : Text :=
  (CharRef.named? name).getD ('&' :: name)

/-- A text token, unless there is nothing in it. -/
def ofText (t : Text) : List Token :=
  if t.isEmpty then [] else [.text t]

/-- The end of a raw element: the text before it, its tag, and the text behind. -/
def rawEnd? (name : Text) : Text → Option (Text × Text × Text)
  | [] => none
  | c :: rest =>
      match closes (c :: rest) with
      | some (tag, after) => some ([], tag, after)
      | none => (rawEnd? name rest).map fun (a, b, d) => (c :: a, b, d)
where
  /-- The closing tag at the front of a text, and what follows it. -/
  closes (t : Text) : Option (Text × Text) := do
    let t₁ ← Text.afterFront? ['<', '/'] t
    let t₂ ← Text.afterFolded? name (Text.stripLeft t₁)
    let after ← Text.afterFront? ['>'] (Text.stripLeft t₂)
    return (t.take (t.length - after.length), after)

/-- How much of an unfinished construct is text: up to the next `>`, else up to the next `<`, else
its first character. -/
def unfinishedText (t : Text) : Text × Text :=
  match Text.cut? '>' t with
  | some (inside, rest) => ('<' :: inside ++ ['>'], rest)
  | none =>
      match Text.cut? '<' t with
      | some (inside, rest) => ('<' :: inside, '<' :: rest)
      | none => (['<'], t)

/-- Elements whose content is text up to their closing tag. -/
def isRaw (name : Text) : Bool :=
  name = "script".toList ∨ name = "style".toList

/-- The raw element that a piece opens. -/
def rawOpened : List Token → Option Text
  | [.opening name _ false] => if isRaw name then some name else none
  | _ => none

/-- The tokens of a text.  `settled` says that the end of the page has been met; `raw` is the raw
element around the text.  Every step takes a character or settles the scanner, so `fuel` bounds the
steps when it exceeds the length of the text by two. -/
def scanFrom (settled : Bool) (raw : Option Text) : Nat → Text → Except Fault (List Token)
  | 0, _ => .ok []
  | fuel + 1, t =>
      match raw with
      | some name =>
          match rawEnd? name t with
          | none => .ok []
          | some (before, tag, after) =>
              if tag.all fun c => c.toNat < 128 || Text.isBlank c then do
                let more ← scanFrom settled none fuel after
                return ofText before ++ .closing name :: more
              else do
                let more ← scanFrom settled raw fuel after
                return ofText (before ++ tag) ++ more
      | none =>
          let before := t.takeWhile fun c => c != '<' && c != '&'
          let settle (rest : Text) : Except Fault (List Token) :=
            if settled then .ok (ofText rest) else scanFrom true none fuel rest
          let found : Except Fault (List Token) :=
            match t.drop before.length with
            | '<' :: ahead => do
                match ← piece? ahead with
                | some (.tokens ts rest) =>
                    let more ← scanFrom settled (rawOpened ts) fuel rest
                    return ts ++ more
                | some .unfinished =>
                    if settled then
                      let (shown, rest) := unfinishedText ahead
                      let more ← scanFrom true none fuel rest
                      return ofText shown ++ more
                    else scanFrom true none fuel ('<' :: ahead)
                | none =>
                    if ahead.isEmpty then settle ['<']
                    else
                      let more ← scanFrom settled none fuel ahead
                      return .text ['<'] :: more
            | '&' :: '#' :: ahead =>
                match numberedReference? ahead with
                | some (chars, rest) => do
                    let chars ← chars
                    let more ← scanFrom settled none fuel rest
                    return ofText chars ++ more
                | none =>
                    if List.contains ahead ';' then do
                      let more ← settle ahead
                      return .text ['&', '#'] :: more
                    else settle ('&' :: '#' :: ahead)
            | '&' :: ahead =>
                match namedReference? ahead with
                | some (name, rest) => do
                    let more ← scanFrom settled none fuel rest
                    return ofText (namedText name) ++ more
                | none =>
                    match ahead with
                    | [] => settle ['&']
                    | c :: rest =>
                        if c.isAlpha then
                          if settled && rest.isEmpty then .ok [.text [c]]
                          else settle ('&' :: ahead)
                        else do
                          let more ← scanFrom settled none fuel ahead
                          return .text ['&'] :: more
            | _ => .ok []
          found.map fun more => ofText before ++ more

/-- The tokens of a page. -/
def scan (page : Text) : Except Fault (List Token) :=
  scanFrom false none (page.length + 2) page

end Token

end Gleaner.Markup
