import Gleaner.Fault
import Gleaner.Markup.CharRefNames
import Gleaner.Text.Substitute

/-!
# Character references

In markup a character may be written by its number (`&#233;`, `&#xe9;`) or by its name
(`&eacute;`).  Some names are known without the closing semicolon too, and then also at the front of
a longer word.

* `named?` — the characters of a name.
* `numbered` — the characters of a number.
* `resolve` — a text with its references replaced.
* `oversized?` — a decimal reference with more digits than a numeral may have.
-/

namespace Gleaner.Markup.CharRef

/-- The characters that a name stands for. -/
def named? (name : Text) : Option Text :=
  match name with
  | [] => none
  | c :: _ => ((names c).lookup (String.ofList name)).map fun points => points.map Char.ofNat

/-- The characters of a name as written: with its semicolon any name is known, without it the open
names are. -/
def written? (name : Text) : Option Text :=
  if name.getLast? == some ';' then named? name.dropLast
  else if openNames.contains (String.ofList name) then named? name
  else none

/-- The characters that numbers 0x80 to 0x9f stand for in the Windows character set; the five
numbers that it leaves open stay themselves. -/
def windows (n : Nat) : Nat :=
  [0x20ac, 0x81, 0x201a, 0x192, 0x201e, 0x2026, 0x2020, 0x2021, 0x2c6, 0x2030, 0x160, 0x2039, 0x152,
    0x8d, 0x17d, 0x8f, 0x90, 0x2018, 0x2019, 0x201c, 0x201d, 0x2022, 0x2013, 0x2014, 0x2dc, 0x2122,
    0x161, 0x203a, 0x153, 0x9d, 0x17e, 0x178].getD (n - 0x80) n

/-- Code points that a reference cannot stand for: controls and those that are no characters. -/
def isVoid (n : Nat) : Bool :=
  (1 ≤ n && n ≤ 8) || n == 0xb || (0xe ≤ n && n ≤ 0x1f) || n == 0x7f ||
    (0xfdd0 ≤ n && n ≤ 0xfdef) || n % 0x10000 == 0xfffe || n % 0x10000 == 0xffff

/-- The characters that a number stands for. -/
def numbered (n : Nat) : Text :=
  if n = 0 then ['�']
  else if 0x80 ≤ n ∧ n ≤ 0x9f then [Char.ofNat (windows n)]
  else if (0xd800 ≤ n ∧ n ≤ 0xdfff) ∨ 0x10ffff < n then ['�']
  else if isVoid n then []
  else [Char.ofNat n]

/-- The number that hexadecimal digits write. -/
def hexValue (t : Text) : Nat :=
  t.foldl (fun n c => 16 * n + (Json.hexValue? c).getD 0) 0

/-- A hexadecimal digit. -/
def isHexDigit (c : Char) : Bool :=
  (Json.hexValue? c).isSome

/-- A character that a name in running text may have. -/
def isNameChar (c : Char) : Bool :=
  !(c == '\t' || c == '\n' || c == '\x0c' || c == ' ' || c == '<' || c == '&' || c == '#' ||
    c == ';')

/-- The longest front of a word, of at most `length` characters but of two at least, that is a known
name, replaced. -/
def longestName? (word : Text) : Nat → Option Text
  | 0 | 1 => none
  | n + 2 =>
      match written? (word.take (n + 2)) with
      | some chars => some (chars ++ word.drop (n + 2))
      | none => longestName? word (n + 1)

/-- The characters of a word behind the ampersand. -/
def ofWord (word : Text) : Text :=
  match written? word with
  | some chars => chars
  | none => (longestName? word (word.length - 1)).getD ('&' :: word)

/-- One for a semicolon ahead. -/
def closing (t : Text) : Nat :=
  if t.head? == some ';' then 1 else 0

/-- The reference behind an ampersand: how many characters it takes and what it stands for. -/
def reference? (rest : Text) : Option (Nat × Text) :=
  match rest with
  | '#' :: more =>
      let digits := more.takeWhile Char.isDigit
      if !digits.isEmpty then
        let after := more.drop digits.length
        some (1 + digits.length + closing after, numbered (Text.digitsValue digits))
      else
        match more with
        | x :: body =>
            let digits := body.takeWhile isHexDigit
            if (x == 'x' || x == 'X') && !digits.isEmpty then
              let after := body.drop digits.length
              some (2 + digits.length + closing after, numbered (hexValue digits))
            else none
        | [] => none
  | _ =>
      let word := (rest.takeWhile isNameChar).take 32
      if word.isEmpty then none
      else
        let closed := closing (rest.drop word.length)
        some (word.length + closed, ofWord (word ++ List.replicate closed ';'))

/-- A text with its references replaced. -/
def resolve (t : Text) : Text :=
  Text.substitute (fun c rest => if c = '&' then reference? rest else none) t

/-- The number of digits of the first decimal reference that has too many. -/
def oversized? : Text → Option Nat
  | [] => none
  | c :: rest =>
      let digits :=
        match rest with
        | '#' :: more => if c = '&' then (more.takeWhile Char.isDigit).length else 0
        | _ => 0
      if Text.maxDigits < digits then some digits else oversized? rest

/-- `resolve` where every reference can be read. -/
def resolve? (t : Text) : Except Fault Text :=
  match oversized? t with
  | some digits => .error (.longInteger digits)
  | none => .ok (resolve t)

end Gleaner.Markup.CharRef
