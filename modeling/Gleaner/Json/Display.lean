import Gleaner.Json.Writer

/-!
# Values inside messages

A message shows a text as it is and any other value by its literal: `None`, `True`, `1.5`, lists and
objects with the literals of their members, texts inside them quoted.

* `Json.literal` — the literal of a value.
* `Json.display` — a value inside a message.
-/

namespace Gleaner.Json

/-- Numbers inside messages. -/
def displayNumber : Layout :=
  { storedNumber with nan := "nan", infinity := "inf" }

mutual

/-- The literal of a value. -/
def literal : Json → Text
  | .null => "None"
  | .bool true => "True"
  | .bool false => "False"
  | .int n => Text.ofInt n
  | .real x => displayNumber.write x
  | .str t => Text.quoted t
  | .arr [] => ['[', ']']
  | .arr (v :: rest) => ['['] ++ literal v ++ literalItems rest ++ [']']
  | .obj [] => ['{', '}']
  | .obj ((name, v) :: rest) =>
      ['{'] ++ Text.quoted name ++ [':', ' '] ++ literal v ++ literalMembers rest ++ ['}']
termination_by structural v => v

/-- The literals of the items behind the first. -/
def literalItems : List Json → Text
  | [] => []
  | v :: rest => [',', ' '] ++ literal v ++ literalItems rest
termination_by structural vs => vs

/-- The literals of the members behind the first. -/
def literalMembers : List (Text × Json) → Text
  | [] => []
  | (name, v) :: rest =>
      [',', ' '] ++ Text.quoted name ++ [':', ' '] ++ literal v ++ literalMembers rest
termination_by structural ms => ms

end

/-- A value inside a message: a text as it is, any other value by its literal. -/
def display : Json → Text
  | .str t => t
  | v => literal v

end Gleaner.Json
