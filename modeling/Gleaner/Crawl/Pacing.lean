import Gleaner.Crawl.Calendar
import Gleaner.Crawl.Session

/-!
# Pacing

A crawler waits between its steps, keeps within a number of requests for each minute and hour, and
comes under changing names.

* `Counter.roll` — a counter at a moment.
* `admits` — whether another request keeps within the limits.
* `countRequest`, `resetCounter`, `statistics` — the count of requests.
* `randomWait` — a wait of random length.
* `userAgent`, `proxy` — under which name and through which proxy the crawler comes.
-/

namespace Gleaner.Crawl

/-! ## The count of requests -/

/-- Milliseconds of a minute. -/
def minuteLength : Binary64 := .ofInt 60000

/-- Milliseconds of an hour. -/
def hourLength : Binary64 := .ofInt 3600000

namespace Counter

/-- A counter whose minute and hour start at moments of their own. -/
def start (minuteStart hourStart : Binary64) : Counter :=
  ⟨0, 0, minuteStart, hourStart⟩

/-- A counter whose minute begins anew once it is over. -/
def rollMinute (c : Counter) (now : Binary64) : Counter :=
  if minuteLength.lt (now.sub c.minuteStart) then { c with minute := 0, minuteStart := now } else c

/-- A counter whose hour begins anew once it is over. -/
def rollHour (c : Counter) (now : Binary64) : Counter :=
  if hourLength.lt (now.sub c.hourStart) then { c with hour := 0, hourStart := now } else c

/-- A counter at a moment. -/
def roll (c : Counter) (now : Binary64) : Counter :=
  (c.rollMinute now).rollHour now

/-- A counter with one more request. -/
def increment (c : Counter) : Counter :=
  { c with minute := c.minute + 1, hour := c.hour + 1 }

end Counter

/-- Whether a count has reached a limit that is set.  A count is compared as it is, however many
bits it has. -/
def isReached (count : Nat) (limit : Setting) : Except Trouble Bool := do
  if isOn limit then return (← numberOf limit).le (.finite false count 0)
  return false

/-- Whether pacing is switched on. -/
def isPaced (p : Setting) : Bool :=
  isOn (look p "enabled")

/-- Whether another request keeps within the limits. -/
def admits : Run Bool := do
  let p ← pacing
  if !isPaced p then return true
  modify fun s => { s with counter := s.counter.roll s.clock }
  let c := (← get).counter
  let limits := look p "rate_limit"
  let perMinute ← Run.lift (need limits "max_requests_per_minute")
  if ← Run.lift (isReached c.minute perMinute) then
    note ["⚠️  已达到每分钟请求限制 (", Text.ofNat c.minute, "/", asText perMinute, ")"]
    return false
  let perHour := look limits "max_requests_per_hour"
  if ← Run.lift (isReached c.hour perHour) then
    note ["⚠️  已达到每小时请求限制 (", Text.ofNat c.hour, "/", asText perHour, ")"]
    return false
  return true

/-- Counts a request. -/
def countRequest : Run Unit := do
  let p ← pacing
  if isPaced p then
    modify fun s => { s with counter := s.counter.increment }
    let c := (← get).counter
    note ["📊 请求计数：", Text.ofNat c.minute, "/分 | ", Text.ofNat c.hour, "/小时"]

/-- Starts counting anew. -/
def resetCounter : Run Unit :=
  modify fun s => { s with counter := .start s.clock s.clock }

/-- The written form of a moment. -/
def written? (moment : Binary64) : Except Trouble Text :=
  match iso? moment with
  | some t => .ok t
  | none => .error .badTime

/-- The count of requests as it is shown. -/
def statistics : Run Json := do
  let c := (← get).counter
  let minuteStart ← Run.lift (written? c.minuteStart)
  let hourStart ← Run.lift (written? c.hourStart)
  return .obj [("minute".toList, .int c.minute), ("hour".toList, .int c.hour),
    ("minuteReset".toList, .str minuteStart), ("hourReset".toList, .str hourStart)]

/-! ## Waiting -/

/-- Waits for a random time; a bound that is not given is taken from the settings. -/
def randomWait (low high : Setting) : Run Unit := do
  let p ← pacing
  if isPaced p then
    let bounds := look p "random_delay"
    let low ← if isOn low then pure low else Run.lift (need bounds "min")
    let high ← if isOn high then pure high else Run.lift (need bounds "max")
    wait (← between low high)

/-! ## Names and proxies -/

/-- The names of common browsers. -/
def commonAgents : List Json := [
  "Mozilla/5.0 (Macintosh; Intel Mac OS X 10_15_7) AppleWebKit/537.36 (KHTML, like Gecko) Chrome/120.0.0.0 Safari/537.36",
  "Mozilla/5.0 (Windows NT 10.0; Win64; x64) AppleWebKit/537.36 (KHTML, like Gecko) Chrome/120.0.0.0 Safari/537.36",
  "Mozilla/5.0 (Macintosh; Intel Mac OS X 10_15_7) AppleWebKit/605.1.15 (KHTML, like Gecko) Version/17.0 Safari/605.1.15",
  "Mozilla/5.0 (Windows NT 10.0; Win64; x64) AppleWebKit/537.36 (KHTML, like Gecko) Chrome/120.0.0.0 Safari/537.36 Edg/120.0.0.0",
  "Mozilla/5.0 (Macintosh; Intel Mac OS X 10_15_7) AppleWebKit/537.36 (KHTML, like Gecko) Chrome/119.0.0.0 Safari/537.36"]

/-- Whether a setting has items. -/
def hasItems (s : Setting) : Except Trouble Bool := do
  if isOn s then return (Binary64.ofInt 0).lt (← numberOf (look s "length"))
  return false

/-- A random item of a setting. -/
def randomItem (s : Setting) : Run Setting := do
  let i ← integerBetween (numeral 0) (look s "length")
  return itemAt s i

/-- The name under which the crawler comes. -/
def userAgent : Run Setting := do
  let p ← pacing
  let rotation := look p "user_agent_rotation"
  if !isOn (look rotation "enabled") then
    return look (look (some (← get).settings) "playwright") "user_agent"
  let names := look rotation "user_agents"
  if ← Run.lift (hasItems names) then randomItem names else randomItem (some (.arr commonAgents))

/-- The proxy through which the crawler comes. -/
def proxy : Run Setting := do
  let p ← pacing
  let rotation := look p "proxy_rotation"
  if !isOn (look rotation "enabled") then return some .null
  let proxies := look rotation "proxies"
  if ← Run.lift (hasItems proxies) then randomItem proxies else return some .null

end Gleaner.Crawl
