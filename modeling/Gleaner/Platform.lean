import Gleaner.Text.Basic

/-!
# Platforms

What a program can do is bounded by what it runs on: values that lie too deep inside each other can
be neither read nor written, a file cannot hold every text, and a folder lists its files in an order
of its own.  Programs and statements about them are for any platform.

* `Platform` — the bounds.
* `Platform.held` — what a file holds after a text was written to it.
* `Platform.usual` — a platform for examples.
-/

namespace Gleaner

/-- What programs run on.

* `readRoom` and `writeRoom` are how many arrays and objects may lie inside each other in a text
  that is read and in a value that is written.  A list of objects has room, and what was read can be
  written.
* `refusal` is what is said of a text that no file and no file name can hold, as when half of a
  character is left in it; there are files for all ASCII texts.
* `arrange` is the order in which a folder lists its files.
-/
class Platform where
  readRoom : Nat
  writeRoom : Nat
  two_le_readRoom : 2 ≤ readRoom
  readRoom_le_writeRoom : readRoom ≤ writeRoom
  refusal : Text → Option Text
  refusal_of_ascii : ∀ t, (∀ c ∈ t, c.toNat < 128) → refusal t = none
  arrange : List Text → List Text
  arrange_perm : ∀ paths, (arrange paths).Perm paths

namespace Platform

/-- What a file holds after a text was written to it: the text, or nothing if it was refused. -/
def held [Platform] (t : Text) : Text :=
  if (refusal t).isNone then t else []

/-- A platform with files for all texts, which lists them as they come. -/
instance (priority := low) usual : Platform where
  readRoom := 992
  writeRoom := 995
  two_le_readRoom := by decide
  readRoom_le_writeRoom := by decide
  refusal _ := none
  refusal_of_ascii _ _ := rfl
  arrange paths := paths
  arrange_perm _ := .refl _

end Platform

end Gleaner
