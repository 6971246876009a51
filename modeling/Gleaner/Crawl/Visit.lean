import Gleaner.Crawl.Pacing

/-!
# Visiting a page

Before a page is visited the crawler moves about as a person would: it scrolls, and it moves the
mouse.

* `scroll` — scrolls to a random place.
* `moveMouse` — moves the mouse to random points.
* `visit` — visits a page, within the limits.
-/

namespace Gleaner.Crawl

/-- Where a page is scrolled to. -/
inductive Place where
  | top
  | middle
  | bottom
  | anywhere
  deriving DecidableEq, Repr

/-- The places in the order in which they are drawn. -/
def places : List Place :=
  [.top, .middle, .bottom, .anywhere]

/-- The settings of behaviour. -/
def behaviour : Run Setting := do
  let p ← pacing
  return look p "human_behavior"

/-- Scrolls to a place of a document of some height.  Only the document itself knows its height, so a
random height cannot be drawn. -/
def scrollTo (height : Setting) : Place → Run Unit
  | .top => call (.scrollTo (.int 0) (.int 0))
  | .middle => do
      let h ← Run.lift (numberOf height)
      call (.scrollTo (.int 0) (.real h.half))
  | .bottom => call (.scrollTo (.int 0) (height.getD .null))
  | .anywhere => Run.fail .noDocument

/-- Scrolls to a random place. -/
def scroll (height : Setting) : Run Unit := do
  let b ← behaviour
  if isOn (look b "enabled") && isOn (look b "random_scroll") then
    let i ← integerBetween (numeral 0) (numeral places.length)
    let place := i.toInt?.bind fun n => if 0 ≤ n then places[n.toNat]? else none
    match place with
    | some p => scrollTo height p
    | none => pure ()
    randomWait (numeral 500) (numeral 1500)

/-- Moves the mouse to some random points between the first one and another. -/
def moveTo (endX endY : Binary64) : Nat → Run Unit
  | 0 => pure ()
  | n + 1 => do
      let x ← integerBetween (numeral 100) (some (.real endX))
      let y ← integerBetween (numeral 100) (some (.real endY))
      call (.moveMouse (.real x) (.real y) 1)
      randomWait (numeral 10) (numeral 50)
      moveTo endX endY n

/-- Moves the mouse to random points. -/
def moveMouse : Run Unit := do
  let b ← behaviour
  if isOn (look b "enabled") && isOn (look b "mouse_movement") then
    let endX ← integerBetween (numeral 100) (numeral 1200)
    let endY ← integerBetween (numeral 100) (numeral 800)
    let steps ← integerBetween (numeral 5) (numeral 10)
    moveTo endX endY ((steps.toInt?.getD 0).toNat)

/-- Visits a page, within the limits. -/
def visit (url height options : Setting) : Run Json := do
  let _ ← pacing
  if !(← admits) then Run.fail .tooOften
  countRequest
  randomWait none none
  scroll height
  moveMouse
  let options := options.getD (.obj [])
  let timeout ← Run.lift (need (some options) "timeout")
  let timeout := (orElse timeout (numeral 30000)).getD .null
  call (.goto url (.obj [("waitUntil".toList, "networkidle"), ("timeout".toList, timeout)]))
  return "response"

end Gleaner.Crawl
