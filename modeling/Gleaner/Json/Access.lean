import Gleaner.Fault
import Gleaner.Json.Display

/-!
# Values that may be of any kind

Replies and stored lists are read without a promise about their shape.  Every access says what it
needs and names the kind of value it found instead.

* `Json.kind` — the kind of a value.
* `Json.getD` — a member with a default.
* `Json.item` — a member that must be there.
* `Json.size`, `Json.items`, `Json.firstItems`, `Json.holdsText` — what can be gone through.
* `Json.asText` — a text of which something is asked.
* `Json.twoDigits` — an integer with at least two digits.
-/

namespace Gleaner.Json

/-- The kind of a value. -/
def kind : Json → Kind
  | .null => .null
  | .bool _ => .bool
  | .int _ => .int
  | .real _ => .float
  | .str _ => .str
  | .arr _ => .list
  | .obj _ => .dict

/-- A member of an object, or a default when it has none. -/
def getD (v : Json) (name : Text) (default : Json) : Except Fault Json :=
  match v with
  | .obj ms => .ok ((find? name ms).getD default)
  | v => .error (.noMember v.kind "get")

/-- A member that an object must have. -/
def item (v : Json) (name : Text) : Except Fault Json :=
  match v with
  | .obj ms =>
      match find? name ms with
      | some w => .ok w
      | none => .error (.missingKey name)
  | .str _ => .error .textIndex
  | .arr _ => .error .listIndex
  | v => .error (.notSubscriptable v.kind)

/-- The number of items, members or characters. -/
def size : Json → Except Fault Nat
  | .arr vs => .ok vs.length
  | .obj ms => .ok ms.length
  | .str t => .ok t.length
  | v => .error (.noLength v.kind)

/-- The items of a list, the names of an object, or the characters of a text. -/
def items : Json → Except Fault (List Json)
  | .arr vs => .ok vs
  | .obj ms => .ok (ms.map fun m => .str m.1)
  | .str t => .ok (t.map fun c => .str [c])
  | v => .error (.notIterable v.kind)

/-- The first items of a list or characters of a text. -/
def firstItems (count : Nat) : Json → Except Fault (List Json)
  | .arr vs => .ok (vs.take count)
  | .str t => .ok ((t.take count).map fun c => .str [c])
  | .obj _ => .error .objectSlice
  | v => .error (.notSubscriptable v.kind)

/-- Whether a text stands in a text, among the items of a list or among the names of an object. -/
def holdsText (v : Json) (t : Text) : Except Fault Bool :=
  match v with
  | .str u => .ok (Text.contains u t)
  | .arr vs => .ok (vs.any fun
      | .str u => u == t
      | _ => false)
  | .obj ms => .ok (ms.any fun m => m.1 == t)
  | v => .error (.notContainer v.kind)

/-- The text of which a form is asked by name. -/
def asText (v : Json) (form : Text) : Except Fault Text :=
  match v with
  | .str t => .ok t
  | v => .error (.noMember v.kind form)

/-- An integer with at least two digits, its sign counted. -/
def padded (n : Int) : Text :=
  let t := Text.ofInt n
  if t.length < 2 then '0' :: t else t

/-- A value as an integer with at least two digits. -/
def twoDigits : Json → Except Fault Text
  | .int n => .ok (padded n)
  | .bool b => .ok (padded (if b then 1 else 0))
  | .real _ => .error (.noDigits .float)
  | .str _ => .error (.noDigits .str)
  | v => .error (.noFormat v.kind)

/-- Whether a value is a given text. -/
def isText (v : Json) (t : Text) : Bool :=
  match v with
  | .str u => u == t
  | _ => false

/-- An object from names and values. -/
def object (members : List (String × Json)) : Json :=
  .obj (members.map fun (k, v) => (k.toList, v))

end Gleaner.Json
