/-!
# Texts

A text is its list of characters.  Everything the library reads, searches and writes is a `Text`;
string literals stand for texts wherever one is expected.

* `join`, `splitOn`, `cut?` — putting texts together and taking them apart at a separator.
* `contains`, `indexOf?`, `lastIndexOf?` — where a text occurs inside another.
* `before?`, `after?` — the parts around the first occurrence.
-/

namespace Gleaner

/-- A text, as the list of its characters.  Half of a surrogate pair is none. -/
abbrev Text := List Char

instance : Coe String Text := ⟨String.toList⟩

namespace Text

/-- The texts of a list, one after the other. -/
abbrev cat (ts : List Text) : Text :=
  ts.flatten

/-- The texts of a list with a separator between neighbours. -/
def join (sep : Text) : List Text → Text
  | [] => []
  | [t] => t
  | t :: u :: rest => t ++ sep ++ join sep (u :: rest)

/-- The pieces between the occurrences of a character; there is always one more piece than
occurrences. -/
def splitOn (sep : Char) : Text → List Text
  | [] => [[]]
  | c :: rest =>
      if c = sep then [] :: splitOn sep rest
      else
        match splitOn sep rest with
        | [] => [[c]]
        | piece :: pieces => (c :: piece) :: pieces

/-- The parts before and after the first occurrence of a character. -/
def cut? (sep : Char) : Text → Option (Text × Text)
  | [] => none
  | c :: rest =>
      if c = sep then some ([], rest)
      else (cut? sep rest).map fun (a, b) => (c :: a, b)

/-- What follows a text that stands at the front. -/
def afterFront? : Text → Text → Option Text
  | [], t => some t
  | _ :: _, [] => none
  | p :: ps, c :: rest => if p = c then afterFront? ps rest else none

/-- Whether a text begins with another. -/
def startsWith (t p : Text) : Bool :=
  p.isPrefixOf t

/-- Whether a text ends with another. -/
def endsWith (t p : Text) : Bool :=
  p.isSuffixOf t

/-- The position of the first occurrence of `p`. -/
def indexOf? (p : Text) : Text → Option Nat
  | [] => if p.isEmpty then some 0 else none
  | c :: rest =>
      if startsWith (c :: rest) p then some 0
      else (indexOf? p rest).map (· + 1)

/-- The position of the last occurrence of `p`. -/
def lastIndexOf? (p : Text) : Text → Option Nat
  | [] => if p.isEmpty then some 0 else none
  | c :: rest =>
      match lastIndexOf? p rest with
      | some n => some (n + 1)
      | none => if startsWith (c :: rest) p then some 0 else none

/-- Whether `p` occurs in a text. -/
def contains (t p : Text) : Bool :=
  (indexOf? p t).isSome

/-- What stands before the first occurrence of `p`. -/
def before? (t p : Text) : Option Text :=
  (indexOf? p t).map fun n => t.take n

/-- What stands after the first occurrence of `p`. -/
def after? (t p : Text) : Option Text :=
  (indexOf? p t).map fun n => t.drop (n + p.length)

/-- `n` copies of a character. -/
abbrev replicate (n : Nat) (c : Char) : Text :=
  List.replicate n c

end Text

end Gleaner
