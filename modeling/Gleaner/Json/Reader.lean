import Gleaner.Json.Basic
import Gleaner.Text.Digit

/-!
# Reading JSON texts

The reader goes over the text once and knows at every moment how many characters lie behind it, so
that a refusal names the place.  Of a repeated member name the first place and the last value stay.

* `Json.Problem` — what can be wrong with a text.
* `Json.Refusal` — a problem and its position.
* `Json.Dialect` — what a reader takes beyond the standard.
* `Json.read` — the value of a whole text.
-/

namespace Gleaner.Json

/-- What can be wrong with a text. -/
inductive Problem where
  | noValue
  | noName
  | noColon
  | noComma
  | openString
  | controlCharacter
  | badEscape
  | badUnicodeEscape
  | extraData
  | byteOrderMark
  deriving DecidableEq, Repr

/-- The two kinds of values that hold others. -/
inductive Nest where
  | array
  | object
  deriving DecidableEq, Repr

/-- Why a text is refused: a problem at a position, an integer with too many digits, or a value that
lies inside too many others. -/
inductive Refusal where
  | problem (p : Problem) (position : Nat)
  | longInteger (digits : Nat)
  | tooDeep (n : Nest)
  deriving DecidableEq, Repr

/-- What a reader takes beyond the standard: the words for numbers that are not finite, how many
digits an integer may have, how many arrays and objects may lie inside each other, and the character
that it takes for half of a surrogate pair, which is none by itself. -/
structure Dialect where
  nonFinite : Bool
  maxDigits : Option Nat
  maxDepth : Option Nat
  half : Char := '\ufffd'

/-- Whether a value inside `depth` others may hold values itself. -/
def Dialect.hasRoom (dialect : Dialect) (depth : Nat) : Bool :=
  match dialect.maxDepth with
  | some most => depth < most
  | none => true

/-- A value read at a position, with the position and the text behind it. -/
structure Step (α : Type) where
  value : α
  position : Nat
  rest : Text

/-- White space between the parts of a text. -/
def isSpace (c : Char) : Bool :=
  c == ' ' || c == '\t' || c == '\n' || c == '\r'

/-- Skips white space. -/
def skip (position : Nat) : Text → Nat × Text
  | [] => (position, [])
  | c :: rest => if isSpace c then skip (position + 1) rest else (position, c :: rest)

/-- The value of a hexadecimal digit. -/
def hexValue? (c : Char) : Option Nat :=
  if c.isDigit then some (c.toNat - 48)
  else if 'a' ≤ c && c ≤ 'f' then some (c.toNat - 87)
  else if 'A' ≤ c && c ≤ 'F' then some (c.toNat - 55)
  else none

/-- The number that four hexadecimal digits write. -/
def hex4? (a b c d : Char) : Option Nat := do
  let a ← hexValue? a
  let b ← hexValue? b
  let c ← hexValue? c
  let d ← hexValue? d
  return ((a * 16 + b) * 16 + c) * 16 + d

/-- The character of a one-letter escape. -/
def escapeChar? (c : Char) : Option Char :=
  if c = '"' then some '"'
  else if c = '\\' then some '\\'
  else if c = '/' then some '/'
  else if c = 'b' then some '\x08'
  else if c = 'f' then some '\x0c'
  else if c = 'n' then some '\n'
  else if c = 'r' then some '\r'
  else if c = 't' then some '\t'
  else none

/-- The first half of a surrogate pair. -/
def isHighSurrogate (n : Nat) : Bool :=
  0xd800 ≤ n && n ≤ 0xdbff

/-- The second half of a surrogate pair. -/
def isLowSurrogate (n : Nat) : Bool :=
  0xdc00 ≤ n && n ≤ 0xdfff

/-- The character of a code point; `half` is taken for half of a pair that stands alone. -/
def charOf (half : Char) (n : Nat) : Char :=
  if 0xd800 ≤ n && n ≤ 0xdfff then half else Char.ofNat n

/-- The code unit that four digits write.  Something must stand behind them, and `position` is where
they are found wrong. -/
def readUnit (position : Nat) : Text → Except Refusal (Nat × Text)
  | a :: b :: c :: d :: rest =>
      match hex4? a b c d with
      | some n =>
          if rest.isEmpty then .error (.problem .badUnicodeEscape position) else .ok (n, rest)
      | none => .error (.problem .badUnicodeEscape position)
  | _ => .error (.problem .badUnicodeEscape position)

/-- The character of a code unit that was read from an escape at the position.  The first half of a
pair looks for the second half in the escape behind it. -/
def readPair (half : Char) (position n : Nat) (rest : Text) : Except Refusal (Step Char) :=
  let single : Step Char := ⟨charOf half n, position + 6, rest⟩
  if isHighSurrogate n then
    match Text.afterFront? ['\\', 'u'] rest with
    | some behind =>
        if behind.length ≤ 4 then .ok single
        else do
          let (m, after) ← readUnit (position + 7) behind
          if isLowSurrogate m then
            let full := 0x10000 + (n - 0xd800) * 0x400 + (m - 0xdc00)
            return ⟨Char.ofNat full, position + 12, after⟩
          else return single
    | none => .ok single
  else .ok single

/-- Reads an escape whose backslash stands at the position; the text is what stands behind it. -/
def readEscape (half : Char) (start position : Nat) : Text → Except Refusal (Step Char)
  | [] => .error (.problem .openString start)
  | e :: rest =>
      if e = 'u' then do
        let (n, more) ← readUnit (position + 1) rest
        readPair half position n more
      else
        match escapeChar? e with
        | some c => .ok ⟨c, position + 2, rest⟩
        | none => .error (.problem .badEscape position)

/-- Reads a string whose opening quote, at `start`, is already behind; `seen` holds its characters,
last first, and `fuel` bounds the number of steps. -/
def readString (half : Char) (start : Nat) (seen : Text) (position : Nat) :
    Nat → Text → Except Refusal (Step Text)
  | 0, _ => .error (.problem .openString start)
  | _ + 1, [] => .error (.problem .openString start)
  | fuel + 1, c :: rest =>
      if c = '"' then .ok ⟨seen.reverse, position + 1, rest⟩
      else if c = '\\' then do
        let e ← readEscape half start position rest
        readString half start (e.value :: seen) e.position fuel e.rest
      else if c.toNat ≤ 0x1f then .error (.problem .controlCharacter position)
      else readString half start (c :: seen) (position + 1) fuel rest

/-- The part of a numeral before its fraction: a zero, or digits that do not begin with one. -/
def wholeDigits (t : Text) : Text :=
  match t with
  | '0' :: _ => ['0']
  | _ => t.takeWhile Char.isDigit

/-- The digits behind a decimal point, if a point with digits stands ahead. -/
def fractionDigits (t : Text) : Text :=
  match t with
  | '.' :: rest => rest.takeWhile Char.isDigit
  | _ => []

/-- The sign and digits of an exponent, if one with digits stands ahead. -/
def exponentPart? (t : Text) : Option (Text × Text) :=
  match t with
  | e :: rest =>
      if e = 'e' || e = 'E' then
        let sign : Text :=
          match rest with
          | '-' :: _ => ['-']
          | '+' :: _ => ['+']
          | _ => []
        let ds := (rest.drop sign.length).takeWhile Char.isDigit
        if ds.isEmpty then none else some (sign, ds)
      else none
  | [] => none

/-- The value of a numeral: an integer if it has neither a fraction nor an exponent. -/
def numberOf (dialect : Dialect) (negative : Bool) (whole fraction : Text)
    (exponent : Option (Text × Text)) : Except Refusal Json :=
  if fraction.isEmpty && exponent.isNone then
    if (dialect.maxDigits.map fun most => decide (most < whole.length)).getD false then
      .error (.longInteger whole.length)
    else
      let n : Int := Text.digitsValue whole
      .ok (.int (if negative then -n else n))
  else
    let shift : Int :=
      match exponent with
      | none => 0
      | some (s, ds) =>
          let n : Int := Text.digitsValue ds
          if s = ['-'] then -n else n
    .ok (.real (Binary64.ofDecimal negative (Text.digitsValue (whole ++ fraction))
      (shift - fraction.length)))

/-- Reads a numeral; `position` is where it starts, its sign included. -/
def readNumber (dialect : Dialect) (position : Nat) (t : Text) : Except Refusal (Step Json) :=
  let negative := t.head? == some '-'
  let sign := if negative then 1 else 0
  let whole := wholeDigits (t.drop sign)
  if whole.isEmpty then .error (.problem .noValue position)
  else
    let afterWhole := t.drop (sign + whole.length)
    let fraction := fractionDigits afterWhole
    let pointed := if fraction.isEmpty then 0 else fraction.length + 1
    let exponent := exponentPart? (afterWhole.drop pointed)
    let marked :=
      match exponent with
      | none => 0
      | some (s, ds) => 1 + s.length + ds.length
    let length := sign + whole.length + pointed + marked
    (numberOf dialect negative whole fraction exponent).map fun v =>
      ⟨v, position + length, t.drop length⟩

/-- Reads a word for a value, or a numeral. -/
def readScalar (dialect : Dialect) (position : Nat) (t : Text) : Except Refusal (Step Json) :=
  let word (w : Text) (v : Json) (otherwise : Unit → Except Refusal (Step Json)) : Except Refusal (Step Json) :=
    match Text.afterFront? w t with
    | some rest => .ok ⟨v, position + w.length, rest⟩
    | none => otherwise ()
  word "null" .null fun _ =>
  word "true" (.bool true) fun _ =>
  word "false" (.bool false) fun _ =>
    if dialect.nonFinite then
      word "NaN" (.real .nan) fun _ =>
      word "Infinity" (.real (.infinite false)) fun _ =>
      word "-Infinity" (.real (.infinite true)) fun _ =>
        readNumber dialect position t
    else readNumber dialect position t

mutual

/-- Reads a value inside `depth` others that starts at the position; `fuel` bounds the number of
steps. -/
def readValue (dialect : Dialect) (depth position : Nat) : Nat → Text → Except Refusal (Step Json)
  | 0, _ => .error (.problem .noValue position)
  | fuel + 1, t =>
      match t with
      | '"' :: rest => do
          let s ← readString dialect.half position [] (position + 1) (rest.length + 1) rest
          return ⟨.str s.value, s.position, s.rest⟩
      | '{' :: rest =>
          if !dialect.hasRoom depth then .error (.tooDeep .object)
          else
            let (p, more) := skip (position + 1) rest
            match more with
            | '}' :: after => .ok ⟨.obj [], p + 1, after⟩
            | _ => readMembers dialect (depth + 1) [] p fuel more
      | '[' :: rest =>
          if !dialect.hasRoom depth then .error (.tooDeep .array)
          else
            let (p, more) := skip (position + 1) rest
            match more with
            | ']' :: after => .ok ⟨.arr [], p + 1, after⟩
            | _ => readItems dialect (depth + 1) [] p fuel more
      | _ => readScalar dialect position t
termination_by structural fuel => fuel

/-- Reads the items of an array; `seen` holds those already read, last first. -/
def readItems (dialect : Dialect) (depth : Nat) (seen : List Json) (position : Nat) :
    Nat → Text → Except Refusal (Step Json)
  | 0, _ => .error (.problem .noValue position)
  | fuel + 1, t => do
      let v ← readValue dialect depth position fuel t
      let (p, more) := skip v.position v.rest
      match more with
      | ']' :: after => return ⟨.arr (v.value :: seen).reverse, p + 1, after⟩
      | ',' :: after =>
          let (q, next) := skip (p + 1) after
          readItems dialect depth (v.value :: seen) q fuel next
      | _ => .error (.problem .noComma p)
termination_by structural fuel => fuel

/-- Reads the members of an object; `seen` holds those already read, in order. -/
def readMembers (dialect : Dialect) (depth : Nat) (seen : List (Text × Json)) (position : Nat) :
    Nat → Text → Except Refusal (Step Json)
  | 0, _ => .error (.problem .noName position)
  | fuel + 1, t =>
      match t with
      | '"' :: rest => do
          let name ← readString dialect.half position [] (position + 1) (rest.length + 1) rest
          let (p, more) := skip name.position name.rest
          match more with
          | ':' :: after => do
              let (q, next) := skip (p + 1) after
              let v ← readValue dialect depth q fuel next
              let members := insert name.value v.value seen
              let (r, behind) := skip v.position v.rest
              match behind with
              | '}' :: after => return ⟨.obj members, r + 1, after⟩
              | ',' :: after =>
                  let (u, last) := skip (r + 1) after
                  readMembers dialect depth members u fuel last
              | _ => .error (.problem .noComma r)
          | _ => .error (.problem .noColon p)
      | _ => .error (.problem .noName position)
termination_by structural fuel => fuel

end

/-- The value of a whole text.  A bracket takes two steps, one for the value that it begins and one
for what stands inside, and every other step takes a character. -/
def read (dialect : Dialect) (t : Text) : Except Refusal Json :=
  if t.head? == some '\ufeff' then .error (.problem .byteOrderMark 0)
  else do
    let (p, body) := skip 0 t
    let v ← readValue dialect 0 p (2 * body.length + 2) body
    let (q, rest) := skip v.position v.rest
    if rest.isEmpty then return v.value else .error (.problem .extraData q)

end Gleaner.Json
