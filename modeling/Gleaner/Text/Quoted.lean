import Gleaner.Text.Printable

/-!
# Quoted texts

A text inside a message or a listing is shown between quotes, so that its ends and its invisible
characters can be seen.  The quote is `'` unless the text has a `'` and no `"`.

* `quoted` — the shown form.
* `hexDigits` — hexadecimal numbers of a fixed width.
-/

namespace Gleaner.Text

/-- The lowercase hexadecimal digits of a number, with leading zeros up to a width. -/
def hexDigits (width n : Nat) : Text :=
  let ds := Nat.toDigits 16 n
  List.replicate (width - ds.length) '0' ++ ds

/-- A character as a quoted text shows it. -/
def quotedChar (quote c : Char) : Text :=
  if c = '\\' then "\\\\"
  else if c = quote then ['\\', c]
  else if c = '\n' then "\\n"
  else if c = '\r' then "\\r"
  else if c = '\t' then "\\t"
  else if isPrintable c then [c]
  else if c.toNat < 0x100 then "\\x" ++ hexDigits 2 c.toNat
  else if c.toNat < 0x10000 then "\\u" ++ hexDigits 4 c.toNat
  else "\\U" ++ hexDigits 8 c.toNat

/-- A text between quotes. -/
def quoted (t : Text) : Text :=
  let quote := if List.contains t '\'' && !List.contains t '"' then '"' else '\''
  [quote] ++ t.flatMap (quotedChar quote) ++ [quote]

end Gleaner.Text
