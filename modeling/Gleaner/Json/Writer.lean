import Gleaner.Json.Basic
import Gleaner.Number.Shortest
import Gleaner.Text.Quoted

/-!
# Writing JSON texts

A style settles what the standard leaves open: which characters are escaped, how numbers look, and
whether items stand on lines of their own.

* `Json.Style` — the open decisions.
* `Json.write` — the text of a value.
* `Json.draft` — the text of a value as far as there is room to write it.
* `Json.stored`, `Json.shown` — the styles of stored lists and of printed replies.
-/

namespace Gleaner.Json

/-- The decisions of a written form.

* `ascii` escapes every character past ASCII.
* `indent` puts items on lines of their own, with so many blanks for each level.
* `integer` and `number` are the written forms of numbers.
-/
structure Style where
  ascii : Bool
  indent : Option Nat
  integer : Int → Text
  number : Layout

/-- A code unit as an escape. -/
def unitEscape (n : Nat) : Text :=
  '\\' :: 'u' :: Text.hexDigits 4 n

/-- A character past the basic plane as the escapes of its surrogate pair. -/
def pairEscape (n : Nat) : Text :=
  unitEscape (0xd800 + (n - 0x10000) / 0x400) ++ unitEscape (0xdc00 + (n - 0x10000) % 0x400)

/-- A character as it stands in a string. -/
def writeChar (ascii : Bool) (c : Char) : Text :=
  if c = '"' then ['\\', '"']
  else if c = '\\' then ['\\', '\\']
  else if c = '\n' then ['\\', 'n']
  else if c = '\r' then ['\\', 'r']
  else if c = '\t' then ['\\', 't']
  else if c = '\x08' then ['\\', 'b']
  else if c = '\x0c' then ['\\', 'f']
  else if c.toNat < 0x20 then unitEscape c.toNat
  else if ascii && 0x7f ≤ c.toNat then
    if c.toNat < 0x10000 then unitEscape c.toNat else pairEscape c.toNat
  else [c]

/-- A string between quotes. -/
def writeString (ascii : Bool) (t : Text) : Text :=
  ['"'] ++ t.flatMap (writeChar ascii) ++ ['"']

/-- The break before an item at a depth: a new line with its indent, or nothing. -/
def lineBreak (style : Style) (depth : Nat) : Text :=
  match style.indent with
  | none => []
  | some width => '\n' :: List.replicate (width * depth) ' '

/-- What stands between a name and its value. -/
def colon (style : Style) : Text :=
  match style.indent with
  | none => [':']
  | some _ => [':', ' ']

mutual

/-- The text of a value at a depth. -/
def writeAt (style : Style) (depth : Nat) : Json → Text
  | .null => "null"
  | .bool true => "true"
  | .bool false => "false"
  | .int n => style.integer n
  | .real x => style.number.write x
  | .str t => writeString style.ascii t
  | .arr [] => ['[', ']']
  | .arr (v :: rest) =>
      ['['] ++ lineBreak style (depth + 1) ++ writeAt style (depth + 1) v
        ++ writeItems style (depth + 1) rest ++ lineBreak style depth ++ [']']
  | .obj [] => ['{', '}']
  | .obj ((name, v) :: rest) =>
      ['{'] ++ lineBreak style (depth + 1) ++ writeString style.ascii name ++ colon style
        ++ writeAt style (depth + 1) v ++ writeMembers style (depth + 1) rest
        ++ lineBreak style depth ++ ['}']
termination_by structural v => v

/-- The items behind the first. -/
def writeItems (style : Style) (depth : Nat) : List Json → Text
  | [] => []
  | v :: rest =>
      [','] ++ lineBreak style depth ++ writeAt style depth v ++ writeItems style depth rest
termination_by structural vs => vs

/-- The members behind the first. -/
def writeMembers (style : Style) (depth : Nat) : List (Text × Json) → Text
  | [] => []
  | (name, v) :: rest =>
      [','] ++ lineBreak style depth ++ writeString style.ascii name ++ colon style
        ++ writeAt style depth v ++ writeMembers style depth rest
termination_by structural ms => ms

end

/-- The text of a value. -/
def write (style : Style) (v : Json) : Text :=
  writeAt style 0 v

/-! ## Bounded writing -/

mutual

/-- How many arrays and objects of a value lie inside each other. -/
def nesting : Json → Nat
  | .arr vs => nestingOfItems vs + 1
  | .obj ms => nestingOfMembers ms + 1
  | _ => 0
termination_by structural v => v

/-- The deepest nesting among items. -/
def nestingOfItems : List Json → Nat
  | [] => 0
  | v :: rest => max (nesting v) (nestingOfItems rest)
termination_by structural vs => vs

/-- The deepest nesting among members. -/
def nestingOfMembers : List (Text × Json) → Nat
  | [] => 0
  | (_, v) :: rest => max (nesting v) (nestingOfMembers rest)
termination_by structural ms => ms

end

/-- A text as far as it was written, and whether that is all of it. -/
structure Draft where
  text : Text
  isFinished : Bool

namespace Draft

/-- A piece that is written at once. -/
def piece (t : Text) : Draft :=
  ⟨t, true⟩

/-- A draft that is given up before anything is written. -/
def givenUp : Draft :=
  ⟨[], false⟩

/-- One draft behind another, unless that was given up. -/
def append (a b : Draft) : Draft :=
  if a.isFinished then ⟨a.text ++ b.text, b.isFinished⟩ else a

instance : Append Draft := ⟨append⟩

end Draft

mutual

/-- The text of a value at a depth, where at most `room` arrays and objects may lie inside each
other. -/
def draftAt (style : Style) (room depth : Nat) : Json → Draft
  | .arr [] => if depth < room then .piece ['[', ']'] else .givenUp
  | .arr (v :: rest) =>
      if depth < room then
        .piece (['['] ++ lineBreak style (depth + 1)) ++ draftAt style room (depth + 1) v
          ++ draftItems style room (depth + 1) rest ++ .piece (lineBreak style depth ++ [']'])
      else .givenUp
  | .obj [] => if depth < room then .piece ['{', '}'] else .givenUp
  | .obj ((name, v) :: rest) =>
      if depth < room then
        .piece (['{'] ++ lineBreak style (depth + 1) ++ writeString style.ascii name ++ colon style)
          ++ draftAt style room (depth + 1) v ++ draftMembers style room (depth + 1) rest
          ++ .piece (lineBreak style depth ++ ['}'])
      else .givenUp
  | v => .piece (writeAt style depth v)
termination_by structural v => v

/-- The items behind the first. -/
def draftItems (style : Style) (room depth : Nat) : List Json → Draft
  | [] => .piece []
  | v :: rest =>
      .piece ([','] ++ lineBreak style depth) ++ draftAt style room depth v
        ++ draftItems style room depth rest
termination_by structural vs => vs

/-- The members behind the first. -/
def draftMembers (style : Style) (room depth : Nat) : List (Text × Json) → Draft
  | [] => .piece []
  | (name, v) :: rest =>
      .piece ([','] ++ lineBreak style depth ++ writeString style.ascii name ++ colon style)
        ++ draftAt style room depth v ++ draftMembers style room depth rest
termination_by structural ms => ms

end

/-- The text of a value as far as there is room for arrays and objects inside each other. -/
def draft (style : Style) (room : Nat) (v : Json) : Draft :=
  draftAt style room 0 v

/-! ## Styles -/

/-- Numbers in stored and printed texts: positional from `0.0001` up to sixteen digits, with one
digit behind the point at least. -/
def storedNumber : Layout where
  low := -4
  high := 16
  exponentWidth := 2
  pointZero := true
  nan := "NaN"
  infinity := "Infinity"
  negativeZero := true

/-- Stored lists: ASCII only, two blanks for each level. -/
def stored : Style where
  ascii := true
  indent := some 2
  integer := Text.ofInt
  number := storedNumber

/-- Printed replies: as stored lists, with all characters as themselves. -/
def shown : Style :=
  { stored with ascii := false }

/-- One line without blanks, ASCII only. -/
def compact : Style :=
  { stored with indent := none }

end Gleaner.Json
