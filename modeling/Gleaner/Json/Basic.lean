import Gleaner.Number.Binary64
import Gleaner.Text.Basic

/-!
# JSON values

The values of the data format that pages, stored lists and configurations are written in.  Integers
and numbers with a fraction or exponent stay apart, integers are of any size, and an object keeps
its members in the order in which their names first came.

* `Json` — the values.
* `Json.member?` — a member of an object.
* `Json.put` — an object with a member set.
* `Json.isTruthy` — what counts as present: not null, false, zero or empty.
-/

namespace Gleaner

/-- A JSON value. -/
inductive Json where
  | null
  | bool (b : Bool)
  | int (n : Int)
  | real (x : Binary64)
  | str (t : Text)
  | arr (items : List Json)
  | obj (members : List (Text × Json))
  deriving Repr

namespace Json

instance : Inhabited Json := ⟨.null⟩

instance : Coe String Json := ⟨fun s => .str s.toList⟩

/-- The value of a name in a list of members. -/
def find? (name : Text) : List (Text × Json) → Option Json
  | [] => none
  | (k, v) :: rest => if k = name then some v else find? name rest

/-- Sets the value of a name, in its place if it is there and at the end if not. -/
def insert (name : Text) (value : Json) : List (Text × Json) → List (Text × Json)
  | [] => [(name, value)]
  | (k, v) :: rest => if k = name then (k, value) :: rest else (k, v) :: insert name value rest

/-- The member of an object; `none` for other values. -/
def member? (name : Text) : Json → Option Json
  | .obj ms => find? name ms
  | _ => none

/-- An object with a member set; other values stay as they are. -/
def put (v : Json) (name : Text) (value : Json) : Json :=
  match v with
  | .obj ms => .obj (insert name value ms)
  | v => v

/-- Neither null, false, zero nor empty. -/
def isTruthy : Json → Bool
  | .null => false
  | .bool b => b
  | .int n => n != 0
  | .real .nan => true
  | .real x => x.isTruthy
  | .str t => !t.isEmpty
  | .arr items => !items.isEmpty
  | .obj ms => !ms.isEmpty

end Json

end Gleaner
