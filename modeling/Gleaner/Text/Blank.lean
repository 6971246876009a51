import Gleaner.Text.Basic

/-!
# White space

A *blank* is a character of white space in any script.  Line ends are a class of their own: some
control characters end a line, and a carriage return with the newline after it is one end.

* `isBlank`, `strip`, `stripLeft`, `stripRight` — blanks and their removal at the ends of a text.
* `words` — the blank-separated words of a text.
* `lines` — the lines of a text, each without its end.
* `isBlankText` — nothing but blanks.
-/

namespace Gleaner.Text

/-- White space of any script. -/
def isBlank (c : Char) : Bool :=
  let n := c.toNat
  (0x9 ≤ n && n ≤ 0xd) || (0x1c ≤ n && n ≤ 0x20) || n == 0x85 || n == 0xa0 || n == 0x1680 ||
    (0x2000 ≤ n && n ≤ 0x200a) || n == 0x2028 || n == 0x2029 || n == 0x202f || n == 0x205f ||
    n == 0x3000

/-- Removes the blanks at the front. -/
def stripLeft (t : Text) : Text :=
  t.dropWhile isBlank

/-- Removes the blanks at the end. -/
def stripRight : Text → Text
  | [] => []
  | c :: rest =>
      match stripRight rest with
      | [] => if isBlank c then [] else [c]
      | d :: ds => c :: d :: ds

/-- Removes the blanks at both ends. -/
def strip (t : Text) : Text :=
  stripRight (stripLeft t)

/-- Nothing but blanks. -/
def isBlankText (t : Text) : Bool :=
  t.all isBlank

/-- The number of blanks at the front. -/
def indent (t : Text) : Nat :=
  (t.takeWhile isBlank).length

/-- The words of a text, where `word` holds the characters of the current word, last first. -/
def wordsFrom (word : Text) : Text → List Text
  | [] => if word.isEmpty then [] else [word.reverse]
  | c :: rest =>
      if isBlank c then
        if word.isEmpty then wordsFrom [] rest else word.reverse :: wordsFrom [] rest
      else wordsFrom (c :: word) rest

/-- The maximal runs of characters that are not blank. -/
def words (t : Text) : List Text :=
  wordsFrom [] t

/-- A character that ends a line. -/
def isLineEnd (c : Char) : Bool :=
  let n := c.toNat
  (0xa ≤ n && n ≤ 0xd) || (0x1c ≤ n && n ≤ 0x1e) || n == 0x85 || n == 0x2028 || n == 0x2029

/-- The lines of a text, where `line` holds the characters of the current line, last first, and
`afterReturn` says that a carriage return has just ended a line. -/
def linesFrom (line : Text) (afterReturn : Bool) : Text → List Text
  | [] => if line.isEmpty then [] else [line.reverse]
  | c :: rest =>
      if afterReturn && c == '\n' then linesFrom [] false rest
      else if isLineEnd c then line.reverse :: linesFrom [] (c == '\r') rest
      else linesFrom (c :: line) false rest

/-- The lines of a text, each without its end.  A text that ends with a line end has no empty last
line. -/
def lines (t : Text) : List Text :=
  linesFrom [] false t

end Gleaner.Text
