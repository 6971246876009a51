import Gleaner.Json.Access
import Gleaner.Proofs.Crawl.Sessions

/-!
# Exact admission

The counter is kept by three operations: a check may begin a window anew, a visit that passes the
check is counted, and a reset begins both windows.  Here the counter is compared with the history of
a run, of which it knows nothing.

**Histories.**  A run is a list of steps, each an operation at a reading of the clock.  The history
of a run tells of every step when it was, whether it looked at the limits, whether it reset the
counter and whether it was an admitted visit (`Event`).  `window` finds in a history when the window
that is open now was begun, and what has happened since.

**One step, every run.**  A window of the counter follows the history (`Tracks`).  A step keeps that
for both windows, whatever its page does (`Counted.step`), and so does a run (`Counted.run`).

`admission_exact` then says which visits are refused, and that a refusal leaves no other trace than
a check.
-/

namespace Gleaner.Crawl

/-! ## Runs -/

/-- What the crawler can be asked to do with its pages and its counter. -/
inductive Operation where
  | wait (low high : Setting)
  | scroll (height : Setting)
  | moveMouse
  | check
  | count
  | userAgent
  | proxy
  | visit (url height options : Setting)
  | statistics
  | reset

namespace Operation

/-- An operation as a program; of its result only matters whether it has failed, and how. -/
def run : Operation → Run Unit
  | .wait low high => randomWait low high
  | .scroll height => Crawl.scroll height
  | .moveMouse => Crawl.moveMouse
  | .check => discard admits
  | .count => countRequest
  | .userAgent => discard Crawl.userAgent
  | .proxy => discard Crawl.proxy
  | .visit url height options => discard (Crawl.visit url height options)
  | .statistics => discard Crawl.statistics
  | .reset => resetCounter

/-- Whether an operation looks at the limits. -/
def checks : Operation → Bool
  | .check | .visit .. => true
  | _ => false

/-- Whether an operation resets the counter. -/
def resets : Operation → Bool
  | .reset => true
  | _ => false

/-- Whether an operation visits a page. -/
def visits : Operation → Bool
  | .visit .. => true
  | _ => false

end Operation

/-- A reading of the clock: an integer number of milliseconds. -/
structure Reading where
  clock : Binary64
  time : ℤ
  isTime : clock.toInt? = some time

/-- An operation at a reading of the clock. -/
structure Step where
  reading : Reading
  operation : Operation

/-- Whether a result is the refusal of a request. -/
def isRefusal {α : Type} : Except Trouble α → Bool
  | .error .tooOften => true
  | _ => false

/-- What the history of a run tells of a step. -/
structure Event where
  time : ℤ
  checked : Bool
  reset : Bool
  admitted : Bool

namespace Step

/-- How a step ends, and the session that it leaves. -/
def outcome (step : Step) (s : Session) : Except Trouble Unit × Session :=
  performed step.operation.run { s with clock := step.reading.clock }

/-- The event of a step; a visit is admitted unless it is refused, also if it fails later. -/
def event (step : Step) (s : Session) : Event where
  time := step.reading.time
  checked := step.operation.checks
  reset := step.operation.resets
  admitted := step.operation.visits && !isRefusal (step.outcome s).1

end Step

/-- The session after a run. -/
def after (s : Session) : List Step → Session
  | [] => s
  | step :: rest => after (step.outcome s).2 rest

/-- The history of a run, latest event first, on top of the events before it. -/
def history (s : Session) (earlier : List Event) : List Step → List Event
  | [] => earlier
  | step :: rest => history (step.outcome s).2 (step.event s :: earlier) rest

/-- **What every step keeps, a run keeps.** -/
lemma run_induction {P : Session → List Event → Prop} {steps : List Step}
    (hstep : ∀ step ∈ steps, ∀ s events, P s events →
      P (step.outcome s).2 (step.event s :: events)) :
    ∀ {s events}, P s events → P (after s steps) (history s events steps) := by
  induction steps with
  | nil => exact fun h => h
  | cons step rest ih =>
      intro s events h
      rw [List.forall_mem_cons] at hstep
      exact ih hstep.2 (hstep.1 s events h)

/-! ## Windows of a history -/

/-- The window that is open at the end of a history: when it was begun, and the events since then.
A reset begins a window, and so does a check that finds the last one to be older than its length;
the first window begins when the counting is set up. -/
def window (length setUp : ℤ) : List Event → ℤ × List Event
  | [] => (setUp, [])
  | e :: earlier =>
      let last := window length setUp earlier
      if e.reset || (e.checked && decide (length < e.time - last.1)) then (e.time, [e])
      else (last.1, e :: last.2)

/-- When the open window was begun. -/
def windowStart (length setUp : ℤ) (events : List Event) : ℤ :=
  (window length setUp events).1

/-- How many visits were admitted since the open window was begun. -/
def windowCount (length setUp : ℤ) (events : List Event) : ℕ :=
  (window length setUp events).2.countP Event.admitted

section

variable (length setUp : ℤ) {e : Event} (events : List Event)

/-- An event that begins a window. -/
lemma window_cons_new (h : e.reset = true ∨ e.checked = true ∧
      length < e.time - windowStart length setUp events) :
    window length setUp (e :: events) = (e.time, [e]) := by
  rw [window, if_pos]
  simpa [windowStart] using h

/-- An event that falls into the open window. -/
lemma window_cons_old (hreset : e.reset = false)
    (h : e.checked = true → e.time - windowStart length setUp events ≤ length) :
    window length setUp (e :: events) =
      (windowStart length setUp events, e :: (window length setUp events).2) := by
  rw [window, if_neg]
  · rfl
  · simpa [windowStart, hreset] using h

end

/-! ## The counter follows the history -/

/-- A count and its start are those of the window that is open. -/
structure Tracks (length setUp : ℤ) (events : List Event) (count : ℕ) (start : Binary64) :
    Prop where
  count_eq : count = windowCount length setUp events
  start_eq : start.toInt? = some (windowStart length setUp events)

section

variable {length setUp : ℤ} {e : Event} {events : List Event} {count : ℕ} {start : Binary64}

/-- An event in the open window that admits nothing changes nothing. -/
lemma Tracks.old (h : Tracks length setUp events count start) (hreset : e.reset = false)
    (hchecked : e.checked = true → e.time - windowStart length setUp events ≤ length) :
    Tracks length setUp (e :: events) (count + e.admitted.toNat) start := by
  have hwindow := window_cons_old length setUp events hreset hchecked
  constructor
  · rw [windowCount, hwindow, List.countP_cons, h.count_eq, windowCount]
    cases e.admitted <;> rfl
  · rw [windowStart, hwindow, h.start_eq]

/-- An event that begins a window starts the count anew. -/
lemma Tracks.new (length setUp : ℤ) (events : List Event) (reading : Reading)
    (htime : e.time = reading.time) (hnew : e.reset = true ∨ e.checked = true ∧
      length < e.time - windowStart length setUp events) :
    Tracks length setUp (e :: events) e.admitted.toNat reading.clock := by
  have hwindow := window_cons_new length setUp events hnew
  constructor
  · rw [windowCount, hwindow, List.countP_singleton]
    cases e.admitted <;> rfl
  · rw [windowStart, hwindow, htime, reading.isTime]

/-- **A check keeps a window with the history**: it begins the window anew if it is over, and an
admitted visit is counted in it. -/
lemma Tracks.check {size : Binary64} (hsize : size.IsLength length)
    (h : Tracks length setUp events count start) (reading : Reading)
    (htime : e.time = reading.time) (hchecked : e.checked = true) (hreset : e.reset = false) :
    Tracks length setUp (e :: events)
      ((if size.lt (reading.clock.sub start) then 0 else count) + e.admitted.toNat)
      (if size.lt (reading.clock.sub start) then reading.clock else start) := by
  have hover := hsize reading.isTime h.start_eq
  rw [← htime] at hover
  split
  case isTrue hlt =>
    rw [Nat.zero_add]
    exact Tracks.new length setUp events reading htime (.inr ⟨hchecked, hover.1 hlt⟩)
  case isFalse hlt =>
    exact h.old hreset fun _ => not_lt.1 fun hlt' => hlt (hover.2 hlt')

end

lemma isLength_minuteLength : minuteLength.IsLength 60000 := by
  have hnumber : minuteLength = .finite false (60000 * 2 ^ 37) (-(37 : ℕ)) := by decide +kernel
  rw [hnumber]
  exact Binary64.isLength_of_bits (by norm_num) (by norm_num) (by norm_num)

lemma isLength_hourLength : hourLength.IsLength 3600000 := by
  have hnumber : hourLength = .finite false (3600000 * 2 ^ 31) (-(31 : ℕ)) := by decide +kernel
  rw [hnumber]
  exact Binary64.isLength_of_bits (by norm_num) (by norm_num) (by norm_num)

namespace Counter

variable (c : Counter) (now : Binary64)

lemma minute_roll :
    (c.roll now).minute = if minuteLength.lt (now.sub c.minuteStart) then 0 else c.minute := by
  unfold roll rollHour rollMinute
  split_ifs <;> rfl

lemma minuteStart_roll : (c.roll now).minuteStart =
    if minuteLength.lt (now.sub c.minuteStart) then now else c.minuteStart := by
  unfold roll rollHour rollMinute
  split_ifs <;> rfl

lemma hour_roll :
    (c.roll now).hour = if hourLength.lt (now.sub c.hourStart) then 0 else c.hour := by
  unfold roll rollHour rollMinute
  split_ifs <;> simp_all

lemma hourStart_roll : (c.roll now).hourStart =
    if hourLength.lt (now.sub c.hourStart) then now else c.hourStart := by
  unfold roll rollHour rollMinute
  split_ifs <;> simp_all

end Counter

/-! ## One step -/

/-- What a step at a moment can do to a counter, as its event tells: nothing, a reset, a roll, or a
roll that leaves room for one more request, and this request. -/
inductive Moves (perMinute perHour : ℕ) (now : Binary64) (e : Event) (c : Counter) :
    Counter → Prop where
  | idle (checked : e.checked = false) (reset : e.reset = false) (admitted : e.admitted = false) :
      Moves perMinute perHour now e c c
  | reset (reset : e.reset = true) (admitted : e.admitted = false) :
      Moves perMinute perHour now e c (.start now now)
  | check (checked : e.checked = true) (reset : e.reset = false) (admitted : e.admitted = false) :
      Moves perMinute perHour now e c (c.roll now)
  | visit (checked : e.checked = true) (reset : e.reset = false) (admitted : e.admitted = true)
      (minute : (c.roll now).minute < perMinute) (hour : (c.roll now).hour < perHour) :
      Moves perMinute perHour now e c (c.roll now).increment

lemma isRefusal_map {α β : Type} (f : α → β) (r : Except Trouble α) :
    isRefusal (r.map f) = isRefusal r := by
  rcases r with t | a
  · cases t <;> rfl
  · rfl

lemma isRefusal_eq_true_iff {α : Type} {r : Except Trouble α} :
    isRefusal r = true ↔ r = .error .tooOften := by
  rcases r with t | a
  · cases t <;> simp [isRefusal]
  · simp [isRefusal]

section

variable {perMinute perHour : ℕ} {minuteSetUp hourSetUp setUp : ℤ} {s : Session}
  {events : List Event}

lemma admitted_event_visit (reading : Reading) (url height options : Setting) (s : Session) :
    (Step.event ⟨reading, .visit url height options⟩ s).admitted =
      !isRefusal (performed (visit url height options) { s with clock := reading.clock }).1 := by
  rw [Step.event, Step.outcome, Operation.run, performed_discard, isRefusal_map, Operation.visits,
    Bool.true_and]

/-- A visit for which there is room is admitted and counted. -/
lemma visit_of_room (hlimits : Limited s.settings perMinute perHour) (reading : Reading)
    (hroom : (s.counter.roll reading.clock).minute < perMinute ∧
      (s.counter.roll reading.clock).hour < perHour) (url height options : Setting) :
    (Step.event ⟨reading, .visit url height options⟩ s).admitted = true ∧
      (Step.outcome ⟨reading, .visit url height options⟩ s).2.counter =
        (s.counter.roll reading.clock).increment ∧
      (Step.outcome ⟨reading, .visit url height options⟩ s).2.settings = s.settings := by
  have hlimits' : Limited ({ s with clock := reading.clock } : Session).settings perMinute
      perHour := hlimits
  obtain ⟨hresult, hcounter, hsettings⟩ := visit_of_admitted hlimits' hroom url height options
  rw [admitted_event_visit, Bool.eq_false_iff.2 (mt isRefusal_eq_true_iff.1 hresult), Step.outcome,
    Operation.run, performed_discard]
  exact ⟨rfl, hcounter, hsettings⟩

/-- **What a step does to the counter**, if it does not count by hand; the settings stay as they
are. -/
lemma Step.moves (hlimits : Limited s.settings perMinute perHour) (step : Step)
    (hcount : step.operation ≠ .count) :
    Moves perMinute perHour step.reading.clock (step.event s) s.counter
        (step.outcome s).2.counter ∧
      (step.outcome s).2.settings = s.settings := by
  obtain ⟨reading, operation⟩ := step
  have hlimits' : Limited ({ s with clock := reading.clock } : Session).settings perMinute
      perHour := hlimits
  -- the operations that leave the counter alone
  have hcalm : ∀ {p : Run Unit}, Calm p → operation.run = p → operation.checks = false →
      operation.resets = false → operation.visits = false →
      Moves perMinute perHour reading.clock (Step.event ⟨reading, operation⟩ s) s.counter
          (Step.outcome ⟨reading, operation⟩ s).2.counter ∧
        (Step.outcome ⟨reading, operation⟩ s).2.settings = s.settings := by
    intro p hp hrun hchecks hresets hvisits
    obtain ⟨hcounter, hsettings, -⟩ := hp { s with clock := reading.clock }
    rw [← hrun] at hcounter hsettings
    rw [Step.outcome, hcounter]
    exact ⟨.idle hchecks hresets (by simp [Step.event, hvisits]), hsettings⟩
  cases operation with
  | wait low high => exact hcalm (calm_randomWait low high) rfl rfl rfl rfl
  | scroll height => exact hcalm (calm_scroll height) rfl rfl rfl rfl
  | moveMouse => exact hcalm calm_moveMouse rfl rfl rfl rfl
  | userAgent => exact hcalm (calm_discard calm_userAgent) rfl rfl rfl rfl
  | proxy => exact hcalm (calm_discard calm_proxy) rfl rfl rfl rfl
  | statistics => exact hcalm (calm_discard calm_statistics) rfl rfl rfl rfl
  | count => exact absurd rfl hcount
  | reset => exact ⟨.reset rfl rfl, rfl⟩
  | check =>
      obtain ⟨log, hadmits⟩ := performed_admits hlimits'
      have houtcome := performed_discard admits { s with clock := reading.clock }
      rw [hadmits] at houtcome
      rw [Step.outcome, Operation.run, houtcome]
      exact ⟨.check rfl rfl rfl, rfl⟩
  | visit url height options =>
      by_cases hroom : (s.counter.roll reading.clock).minute < perMinute ∧
          (s.counter.roll reading.clock).hour < perHour
      · obtain ⟨hadmitted, hcounter, hsettings⟩ :=
          visit_of_room hlimits reading hroom url height options
        rw [hcounter]
        exact ⟨.visit rfl rfl hadmitted hroom.1 hroom.2, hsettings⟩
      · obtain ⟨log, hadmits⟩ := performed_admits hlimits'
        have hrefused := performed_visit_of_refused hlimits' hroom url height options
        have hevent := admitted_event_visit reading url height options s
        rw [hrefused] at hevent
        rw [Step.outcome, Operation.run, performed_discard, hrefused, hadmits]
        exact ⟨.check rfl rfl hevent, rfl⟩

/-- Both windows of the counter follow the history, each from a set-up of its own. -/
structure Counted (minuteSetUp hourSetUp : ℤ) (s : Session) (events : List Event) : Prop where
  minute : Tracks 60000 minuteSetUp events s.counter.minute s.counter.minuteStart
  hour : Tracks 3600000 hourSetUp events s.counter.hour s.counter.hourStart

/-- **A step keeps the counter with the history.** -/
lemma Counted.step (hlimits : Limited s.settings perMinute perHour)
    (h : Counted minuteSetUp hourSetUp s events) (step : Step)
    (hcount : step.operation ≠ .count) :
    Counted minuteSetUp hourSetUp (step.outcome s).2 (step.event s :: events) := by
  obtain ⟨hmoves, -⟩ := step.moves hlimits hcount
  have htime : (step.event s).time = step.reading.time := rfl
  obtain ⟨c, hc⟩ : ∃ c, (step.outcome s).2.counter = c := ⟨_, rfl⟩
  rw [hc] at hmoves
  suffices htracks : Tracks 60000 minuteSetUp (step.event s :: events) c.minute c.minuteStart ∧
      Tracks 3600000 hourSetUp (step.event s :: events) c.hour c.hourStart by
    rw [← hc] at htracks
    exact ⟨htracks.1, htracks.2⟩
  -- a check rolls both windows; what it admits is added to both counts
  have hroll : (step.event s).checked = true → (step.event s).reset = false →
      Tracks 60000 minuteSetUp (step.event s :: events)
        ((s.counter.roll step.reading.clock).minute + (step.event s).admitted.toNat)
        (s.counter.roll step.reading.clock).minuteStart ∧
      Tracks 3600000 hourSetUp (step.event s :: events)
        ((s.counter.roll step.reading.clock).hour + (step.event s).admitted.toNat)
        (s.counter.roll step.reading.clock).hourStart := by
    intro hchecked hreset
    rw [Counter.minute_roll, Counter.minuteStart_roll, Counter.hour_roll, Counter.hourStart_roll]
    exact ⟨h.minute.check isLength_minuteLength step.reading htime hchecked hreset,
      h.hour.check isLength_hourLength step.reading htime hchecked hreset⟩
  cases hmoves with
  | idle hchecked hreset hadmitted =>
      have hminute := h.minute.old hreset (by simp [hchecked])
      have hhour := h.hour.old hreset (by simp [hchecked])
      rw [hadmitted] at hminute hhour
      exact ⟨hminute, hhour⟩
  | reset hreset hadmitted =>
      have hnew : ∀ length setUp,
          Tracks length setUp (step.event s :: events) 0 step.reading.clock := by
        intro length setUp
        have hnew := Tracks.new length setUp events step.reading htime (.inl hreset)
        rwa [hadmitted] at hnew
      exact ⟨hnew 60000 minuteSetUp, hnew 3600000 hourSetUp⟩
  | check hchecked hreset hadmitted =>
      have htracks := hroll hchecked hreset
      rw [hadmitted] at htracks
      exact htracks
  | visit hchecked hreset hadmitted =>
      have htracks := hroll hchecked hreset
      rw [hadmitted] at htracks
      exact htracks

/-- **A run keeps the counter with its history.** -/
lemma Counted.run {steps : List Step} (hsteps : ∀ step ∈ steps, step.operation ≠ .count)
    (hlimits : Limited s.settings perMinute perHour) (h : Counted minuteSetUp hourSetUp s events) :
    Counted minuteSetUp hourSetUp (after s steps) (history s events steps) ∧
      (after s steps).settings = s.settings := by
  refine run_induction (P := fun s' events =>
    Counted minuteSetUp hourSetUp s' events ∧ s'.settings = s.settings)
    (fun step hstep s' events h => ?_) ⟨h, rfl⟩
  obtain ⟨hcounted, hsettings⟩ := h
  rw [← hsettings] at hlimits
  exact ⟨hcounted.step hlimits step (hsteps step hstep),
    (step.moves hlimits (hsteps step hstep)).2.trans hsettings⟩

lemma counted_start {minuteSetUp hourSetUp : Reading}
    (h : s.counter = .start minuteSetUp.clock hourSetUp.clock) :
    Counted minuteSetUp.time hourSetUp.time s [] := by
  have hstart : ∀ (length : ℤ) (reading : Reading),
      Tracks length reading.time [] 0 reading.clock := fun length reading =>
    ⟨rfl, reading.isTime⟩
  exact ⟨by rw [h]; exact hstart 60000 minuteSetUp, by rw [h]; exact hstart 3600000 hourSetUp⟩

/-- A window keeps a visit out if it is still open and its count has reached the limit. -/
lemma Tracks.le_roll_iff {length : ℤ} {size start : Binary64} {count limit : ℕ}
    (hsize : size.IsLength length) (h : Tracks length setUp events count start)
    (reading : Reading) (hlimit : 0 < limit) :
    limit ≤ (if size.lt (reading.clock.sub start) then 0 else count) ↔
      reading.time - windowStart length setUp events ≤ length ∧
        limit ≤ windowCount length setUp events := by
  have hover := hsize reading.isTime h.start_eq
  rw [← h.count_eq]
  split
  case isTrue hlt =>
    have := hover.1 hlt
    omega
  case isFalse hlt =>
    have := mt hover.2 hlt
    omega

end

/-- **Admission is exact.**  Let pacing be switched on with positive limits, and let the counting be
set up at two readings of the clock, one for the minute and one for the hour.  After every run of
operations that does not count requests by hand, whatever the page does in it:

* the two counts are the numbers of the visits that were admitted since the minute and the hour were
  last begun, by the set-up, by a check that found them over, or by a reset;
* a visit is refused just when its minute is still open and full, or its hour is;
* a visit that is refused leaves the session as a mere check would leave it, with no call to the
  page, no wait and no drawn number. -/
theorem admission_exact {perMinute perHour : ℕ} {s : Session} {minuteSetUp hourSetUp : Reading}
    {steps : List Step} (hlimits : Limited s.settings perMinute perHour)
    (hsetUp : s.counter = .start minuteSetUp.clock hourSetUp.clock)
    (hsteps : ∀ step ∈ steps, step.operation ≠ .count) :
    let minute := windowStart 60000 minuteSetUp.time (history s [] steps)
    let hour := windowStart 3600000 hourSetUp.time (history s [] steps)
    let inMinute := windowCount 60000 minuteSetUp.time (history s [] steps)
    let inHour := windowCount 3600000 hourSetUp.time (history s [] steps)
    ((after s steps).counter.minute = inMinute ∧ (after s steps).counter.hour = inHour) ∧
    ((after s steps).counter.minuteStart.toInt? = some minute ∧
      (after s steps).counter.hourStart.toInt? = some hour) ∧
    ∀ (now : Reading) (url height options : Setting),
      let asked := { after s steps with clock := now.clock }
      let visited := performed (visit url height options) asked
      (visited.1 = .error .tooOften ↔
        now.time - minute ≤ 60000 ∧ perMinute ≤ inMinute ∨
          now.time - hour ≤ 3600000 ∧ perHour ≤ inHour) ∧
      (visited.1 = .error .tooOften → visited.2 = (performed admits asked).2 ∧
        visited.2.calls = asked.calls ∧ visited.2.waits = asked.waits ∧
        visited.2.drawn = asked.drawn) := by
  obtain ⟨hcounted, hsettings⟩ := Counted.run hsteps hlimits (counted_start hsetUp)
  refine ⟨⟨hcounted.minute.count_eq, hcounted.hour.count_eq⟩,
    ⟨hcounted.minute.start_eq, hcounted.hour.start_eq⟩, fun now url height options => ?_⟩
  have hasked : Limited ({ after s steps with clock := now.clock } : Session).settings perMinute
      perHour := by
    rw [← hsettings] at hlimits
    exact hlimits
  have hminute := hcounted.minute.le_roll_iff isLength_minuteLength now hlimits.minute.pos
  have hhour := hcounted.hour.le_roll_iff isLength_hourLength now hlimits.hour.pos
  rw [← Counter.minute_roll] at hminute
  rw [← Counter.hour_roll] at hhour
  by_cases hadmitted : ((after s steps).counter.roll now.clock).minute < perMinute ∧
      ((after s steps).counter.roll now.clock).hour < perHour
  · obtain ⟨hresult, -⟩ := visit_of_admitted hasked hadmitted url height options
    refine ⟨⟨fun h => absurd h hresult, fun h => ?_⟩, fun h => absurd h hresult⟩
    rcases h with h | h
    · exact absurd (hminute.2 h) (not_le.2 hadmitted.1)
    · exact absurd (hhour.2 h) (not_le.2 hadmitted.2)
  · have hrefused := performed_visit_of_refused hasked hadmitted url height options
    obtain ⟨log, hadmits⟩ := performed_admits hasked
    dsimp only
    rw [hrefused]
    refine ⟨⟨fun _ => ?_, fun _ => rfl⟩, fun _ => ⟨rfl, ?_⟩⟩
    · rw [not_and_or, not_lt, not_lt, hminute, hhour] at hadmitted
      exact hadmitted
    · rw [hadmits]
      exact ⟨rfl, rfl, rfl⟩

/-- Settings that allow one request in a minute and two in an hour. -/
def sampleSettings : Json :=
  Json.object [("anti_crawl", Json.object [("enabled", .bool true),
    ("random_delay", Json.object [("min", .real (.ofInt 10)), ("max", .real (.ofInt 20))]),
    ("rate_limit", Json.object [("max_requests_per_minute", .real (.ofInt 1)),
      ("max_requests_per_hour", .real (.ofInt 2))])])]

/-- A session at its beginning, with a page on which every call fails. -/
def sampleSession : Session where
  settings := sampleSettings
  browser := .obj []
  clock := .ofInt 0
  draws := [.ofInt 0]
  drawn := 0
  counter := .start (.ofInt 0) (.ofInt 0)
  files := ⟨[], []⟩
  log := []
  calls := []
  waits := []
  failure := fun _ => some ⟨.noDocument, by decide⟩

/-- The reading at the beginning of all times. -/
def Reading.zero : Reading :=
  ⟨.ofInt 0, 0, by decide +kernel⟩

/-- A visit to nowhere, at a reading of the clock. -/
def Reading.visit (reading : Reading) : Step :=
  ⟨reading, .visit none none none⟩

lemma limited_sampleSettings : Limited sampleSettings 1 2 where
  paced := by decide +kernel
  minute := ⟨by decide, by decide +kernel, .ofInt 1, rfl, by decide +kernel⟩
  hour := ⟨by decide, by decide +kernel, .ofInt 2, rfl, by decide +kernel⟩

/-- A visit that has failed on its page is counted, so the next one is refused for a minute. -/
theorem admission_exact_sample :
    isRefusal (Reading.zero.visit.outcome sampleSession).1 = false ∧
    (after sampleSession [Reading.zero.visit]).counter.minute = 1 ∧
    ∀ now : Reading, (performed (visit none none none)
      { after sampleSession [Reading.zero.visit] with clock := now.clock }).1 = .error .tooOften ↔
        now.time ≤ 60000 := by
  have hwindow : isRefusal (Reading.zero.visit.outcome sampleSession).1 = false ∧
      windowCount 60000 0 (history sampleSession [] [Reading.zero.visit]) = 1 ∧
      windowCount 3600000 0 (history sampleSession [] [Reading.zero.visit]) = 1 ∧
      windowStart 60000 0 (history sampleSession [] [Reading.zero.visit]) = 0 := by
    decide +kernel
  obtain ⟨hadmitted, hminute, hhour, hstart⟩ := hwindow
  obtain ⟨⟨hcount, -⟩, -, hvisit⟩ := @admission_exact 1 2 sampleSession Reading.zero
    Reading.zero [Reading.zero.visit] limited_sampleSettings rfl (by simp [Reading.visit])
  refine ⟨hadmitted, hcount.trans hminute, fun now => ?_⟩
  have hrefused := (hvisit now none none none).1
  have hzero : Reading.zero.time = 0 := rfl
  rw [hzero, hminute, hhour, hstart] at hrefused
  rw [hrefused]
  omega

end Gleaner.Crawl
