import Gleaner.Screenplay.Conversion
import Gleaner.World.Basic

/-!
# Converting a file

A page that lies in a file is converted and shown.
-/

namespace Gleaner.Screenplay

/-- Converts the file that the first argument names; without one nothing happens. -/
def convertFile (c : Conversion) (arguments : List Text) : Program Unit := do
  match arguments with
  | [] => pure ()
  | path :: _ => do
      let page ← readFile path
      let text ← Program.lift (c.apply page)
      say [text]

end Gleaner.Screenplay
