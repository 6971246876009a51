import Gleaner.Fault
import Gleaner.Json.Writer

/-!
# Settings

A crawler is set up by a JSON value that promises nothing: a setting may be missing or be of another
kind than expected.  All numbers are floating-point numbers.  Where a number or a text is needed, a
value of another kind is taken for one by fixed rules.

* `Setting` — a value or its absence.
* `plain` — a JSON value with numbers of one kind and its members in order.
* `isOn` — whether a setting counts as switched on.
* `look`, `need` — a part of a setting.
* `asNumber`, `asText` — a setting as a number or a text.
* `numberOf`, `textOf` — the same where a value may have neither.
-/

namespace Gleaner.Crawl

/-- A setting, or none. -/
abbrev Setting := Option Json

/-- What can go wrong. -/
inductive Trouble where
  /-- A part of nothing was asked for; `isNull` says whether the nothing was a null value. -/
  | noPart (isNull : Bool) (name : Text)
  /-- The height of a document was asked for where there is none. -/
  | noDocument
  /-- A time lies beyond the calendar. -/
  | badTime
  /-- A stored text is no JSON text. -/
  | malformed
  /-- Requests come too often. -/
  | tooOften
  /-- A value has neither a text nor a number. -/
  | noText
  /-- Values lie too deep inside each other to be written. -/
  | tooDeep
  /-- Something cannot be done with a file, because of a fault of its path. -/
  | denied (action : Text) (fault : Fault)
  deriving DecidableEq, Repr

/-- Why a path is of no use, and the path. -/
def denial : Fault → Text × Text
  | .noSuchFile path => ("ENOENT: no such file or directory", path)
  | .longName path => ("ENAMETOOLONG: name too long", path)
  | .isFolder path => ("EISDIR: illegal operation on a directory", path)
  | .notFolder path => ("ENOTDIR: not a directory", path)
  | .embeddedNull => ("The argument 'path' must be a string without null bytes", [])
  | f => (f.message, [])

/-- What is shown for a trouble. -/
def Trouble.message : Trouble → Text
  | .noPart isNull name =>
      Text.cat ["Cannot read properties of ", if isNull then "null" else "undefined",
        " (reading '", name, "')"]
  | .noDocument => "document is not defined"
  | .badTime => "Invalid time value"
  | .malformed => "Unexpected token in JSON"
  | .tooOften => "请求频率超限，请稍后再试"
  | .noText => "Cannot convert object to primitive value"
  | .tooDeep => "Maximum call stack size exceeded"
  | .denied action f =>
      let (reason, path) := denial f
      Text.cat [reason, ", ", action, " '", path, "'"]

/-! ## Plain values -/

/-- The number of a name that is the numeral of an array index. -/
def arrayIndex? (name : Text) : Option Nat :=
  match name with
  | [] => none
  | c :: rest =>
      if name.all Char.isDigit && (c != '0' || rest.isEmpty) && name.length ≤ 10
          && Text.digitsValue name < 0xffffffff then
        some (Text.digitsValue name)
      else none

/-- Members with array indices first, in ascending order, and the others behind them. -/
def ordered (ms : List (Text × Json)) : List (Text × Json) :=
  let indexed := ms.filter fun m => (arrayIndex? m.1).isSome
  let named := ms.filter fun m => (arrayIndex? m.1).isNone
  indexed.mergeSort (fun a b => (arrayIndex? a.1).getD 0 ≤ (arrayIndex? b.1).getD 0) ++ named

mutual

/-- A value with numbers of one kind and its members in order. -/
def plain : Json → Json
  | .int n => .real (Binary64.ofInt n)
  | .arr vs => .arr (plainItems vs)
  | .obj ms => .obj (ordered (plainMembers ms))
  | v => v
termination_by structural v => v

/-- The items of a list in plain form. -/
def plainItems : List Json → List Json
  | [] => []
  | v :: rest => plain v :: plainItems rest
termination_by structural vs => vs

/-- The members of an object in plain form. -/
def plainMembers : List (Text × Json) → List (Text × Json)
  | [] => []
  | (name, v) :: rest => (name, plain v) :: plainMembers rest
termination_by structural ms => ms

end

/-! ## Written values -/

/-- Numbers: positional from `0.000001` up to twenty-one digits, without a point in an integer. -/
def number : Layout where
  low := -6
  high := 21
  exponentWidth := 1
  pointZero := false
  nan := "NaN"
  infinity := "Infinity"
  negativeZero := false

/-- One line without blanks, all characters as themselves. -/
def style : Json.Style where
  ascii := false
  indent := none
  integer := fun n => number.write (Binary64.ofInt n)
  number := number

/-- A number as it can be written: one that is not finite becomes null. -/
def writableNumber : Binary64 → Json
  | .nan | .infinite _ => .null
  | x => .real x

mutual

/-- A value as it can be written, with numbers of one kind. -/
def writable : Json → Json
  | .int n => writableNumber (Binary64.ofInt n)
  | .real x => writableNumber x
  | .arr vs => .arr (writableItems vs)
  | .obj ms => .obj (writableMembers ms)
  | v => v
termination_by structural v => v

/-- The items of a list as they can be written. -/
def writableItems : List Json → List Json
  | [] => []
  | v :: rest => writable v :: writableItems rest
termination_by structural vs => vs

/-- The members of an object as they can be written. -/
def writableMembers : List (Text × Json) → List (Text × Json)
  | [] => []
  | (name, v) :: rest => (name, writable v) :: writableMembers rest
termination_by structural ms => ms

end

/-- The text of a value. -/
def written (v : Json) : Text :=
  Json.write style (writable v)

/-- The value of a stored text. -/
def readStored (t : Text) : Except Trouble Json :=
  match Json.read { nonFinite := false, maxDigits := none, maxDepth := none } t with
  | .ok v => .ok (plain v)
  | .error _ => .error .malformed

/-! ## Values where something else is needed -/

/-- Whether a setting counts as switched on. -/
def isOn : Setting → Bool
  | none | some .null => false
  | some (.bool b) => b
  | some (.int n) => n != 0
  | some (.real x) => x.isTruthy
  | some (.str t) => !t.isEmpty
  | some (.arr _) | some (.obj _) => true

/-- A setting if it is on, or else another. -/
def orElse (s other : Setting) : Setting :=
  if isOn s then s else other

/-- A setting from a number. -/
def numeral (n : Int) : Setting :=
  some (.real (Binary64.ofInt n))

/-- The units of a text; a unit that is half of a character is shown as the replacement
character. -/
def units (t : Text) : List Char :=
  t.flatMap fun c => if c.toNat < 0x10000 then [c] else ['�', '�']

/-- The length of a text in units of sixteen bits. -/
def unitLength (t : Text) : Nat :=
  (units t).length

/-- A part of a setting, `none` when there is no such part. -/
def look (s : Setting) (name : Text) : Setting :=
  match s with
  | some (.obj ms) => Json.find? name ms
  | some (.arr vs) => if name = "length".toList then numeral vs.length else none
  | some (.str t) => if name = "length".toList then numeral (unitLength t) else none
  | _ => none

/-- A part of a setting that must be something. -/
def need (s : Setting) (name : Text) : Except Trouble Setting :=
  match s with
  | none => .error (.noPart false name)
  | some .null => .error (.noPart true name)
  | s => .ok (look s name)

mutual

/-- An item of a list as a text; null is empty. -/
def itemText : Json → Text
  | .null => []
  | .bool true => "true"
  | .bool false => "false"
  | .int n => number.write (Binary64.ofInt n)
  | .real x => number.write x
  | .str t => t
  | .arr [] => []
  | .arr (v :: rest) => itemText v ++ restText rest
  | .obj _ => "[object Object]"
termination_by structural v => v

/-- The items behind the first as a text. -/
def restText : List Json → Text
  | [] => []
  | v :: rest => ',' :: (itemText v ++ restText rest)
termination_by structural vs => vs

end

/-- A value as a text. -/
def valueText : Json → Text
  | .null => "null"
  | v => itemText v

/-- A setting as a text. -/
def asText : Setting → Text
  | none => "undefined"
  | some v => valueText v

/-- White space around a numeral. -/
def isSpace (c : Char) : Bool :=
  let n := c.toNat
  (9 ≤ n && n ≤ 13) || n == 0x20 || n == 0xa0 || n == 0x1680 || (0x2000 ≤ n && n ≤ 0x200a)
    || n == 0x2028 || n == 0x2029 || n == 0x202f || n == 0x205f || n == 0x3000 || n == 0xfeff

/-- The exponent at the end of a numeral. -/
def exponent? : Text → Option Int
  | [] => some 0
  | c :: rest =>
      if c = 'e' ∨ c = 'E' then
        let (negative, digits) :=
          match rest with
          | '-' :: ds => (true, ds)
          | '+' :: ds => (false, ds)
          | ds => (false, ds)
        if digits.isEmpty || !digits.all Char.isDigit then none
        else
          let n : Int := Text.digitsValue digits
          some (if negative then -n else n)
      else none

/-- The number of a decimal numeral without a sign. -/
def decimal? (negative : Bool) (t : Text) : Option Binary64 :=
  if t = "Infinity".toList then some (.infinite negative)
  else
    let whole := t.takeWhile Char.isDigit
    let (fraction, rest) :=
      match t.drop whole.length with
      | '.' :: more => (more.takeWhile Char.isDigit, more.dropWhile Char.isDigit)
      | rest => ([], rest)
    if whole.isEmpty && fraction.isEmpty then none
    else
      (exponent? rest).map fun e =>
        Binary64.ofDecimal negative (Text.digitsValue (whole ++ fraction)) (e - fraction.length)

/-- The value of a digit in a base of at most sixteen. -/
def baseDigit? (base : Nat) (c : Char) : Option Nat :=
  (Json.hexValue? c).bind fun n => if n < base then some n else none

/-- The number of digits in a base. -/
def inBase (base : Nat) (digits : Text) : Binary64 :=
  if digits.isEmpty || !digits.all fun c => (baseDigit? base c).isSome then .nan
  else
    Binary64.ofInt (digits.foldl (fun (n : Nat) c => n * base + (baseDigit? base c).getD 0) 0 : Nat)

/-- A text as a number; one that is no numeral is not a number. -/
def textNumber (t : Text) : Binary64 :=
  let front := t.dropWhile isSpace
  match (front.reverse.dropWhile isSpace).reverse with
  | [] => Binary64.ofInt 0
  | '0' :: 'x' :: ds | '0' :: 'X' :: ds => inBase 16 ds
  | '0' :: 'o' :: ds | '0' :: 'O' :: ds => inBase 8 ds
  | '0' :: 'b' :: ds | '0' :: 'B' :: ds => inBase 2 ds
  | '-' :: rest => (decimal? true rest).getD .nan
  | '+' :: rest => (decimal? false rest).getD .nan
  | rest => (decimal? false rest).getD .nan

/-- A setting as a number. -/
def asNumber : Setting → Binary64
  | none => .nan
  | some .null => Binary64.ofInt 0
  | some (.bool b) => Binary64.ofInt (if b then 1 else 0)
  | some (.int n) => Binary64.ofInt n
  | some (.real x) => x
  | some v => textNumber (valueText v)

mutual

/-- Whether a value has a text and a number.  A member `toString` takes the place of the text of an
object, and is none. -/
def hasText : Json → Bool
  | .arr vs => haveText vs
  | .obj ms => (Json.find? "toString" ms).isNone
  | _ => true
termination_by structural v => v

/-- Whether all values of a list have a text. -/
def haveText : List Json → Bool
  | [] => true
  | v :: rest => hasText v && haveText rest
termination_by structural vs => vs

end

/-- The text of a setting. -/
def textOf (s : Setting) : Except Trouble Text :=
  if s.all hasText then .ok (asText s) else .error .noText

/-- The number of a setting. -/
def numberOf (s : Setting) : Except Trouble Binary64 :=
  if s.all hasText then .ok (asNumber s) else .error .noText

/-- A number and a setting put together: with a text, a list or an object the result is a text. -/
def joined (x : Binary64) (s : Setting) : Json :=
  match s with
  | some (.str _) | some (.arr _) | some (.obj _) => .str (number.write x ++ asText s)
  | s => .real (x.add (asNumber s))

/-- The item of a setting at a position. -/
def itemAt (s : Setting) (i : Binary64) : Setting :=
  match s, i.toInt? with
  | some (.arr vs), some n => if 0 ≤ n then vs[n.toNat]? else none
  | some (.str t), some n => if 0 ≤ n then (units t)[n.toNat]?.map fun c => .str [c] else none
  | some (.obj ms), _ => Json.find? (number.write i) ms
  | _, _ => none

end Gleaner.Crawl
