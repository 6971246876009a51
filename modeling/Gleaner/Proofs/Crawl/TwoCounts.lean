import Gleaner.Proofs.Crawl.Admission

/-!
# The count of the minute and the count of the hour

Both counts grow together, but each is set back with a window of its own, and nothing keeps an hour
from being over in the middle of a minute.  So the count of the minute can be the larger one.  That
is so only while the hour was begun after the minute (`minute_le_hour_unless_begun_later`).

**One step.**  Whatever limits are set, an operation leaves the counter alone, resets it, rolls it,
or counts a request in both windows (`Shifts`, `Step.shifts`).

**Aligned counters.**  `Aligned` compares the two counts by which window was begun first: the one
that was begun first has seen all that the other one has.  When an hour is begun the minute was
begun before, not just now: a minute is begun by a check only, and the check would have begun the
hour as well.  Therefore it takes the field `open_hour` to carry the comparison through a roll.
-/

namespace Gleaner.Crawl

variable {s : Session}

/-! ## One step -/

/-- What a step at a moment can do to a counter, whatever limits are set. -/
inductive Shifts (now : Binary64) (c : Counter) : Counter → Prop where
  | idle : Shifts now c c
  | reset : Shifts now c (.start now now)
  | check : Shifts now c (c.roll now)
  | visit : Shifts now c (c.roll now).increment
  | count : Shifts now c c.increment

lemma calm_note (parts : List Text) : Calm (note parts) :=
  fun _ => ⟨rfl, rfl, nofun⟩

lemma calm_isReached (count : ℕ) (limit : Setting) : Calm (Run.lift (isReached count limit)) := by
  refine calm_lift fun h => ?_
  unfold isReached at h
  split_ifs at h
  · have hnumber := numberOf_ne_tooOften limit
    generalize numberOf limit = r at h hnumber
    cases r with
    | ok x => cases h
    | error t =>
        cases h
        exact hnumber rfl
  · cases h

/-- What follows when the counter was rolled: the comparison with the limits changes nothing. -/
lemma calm_afterRoll (p : Setting) : Calm (do
    let c := (← get).counter
    let limits := look p "rate_limit"
    let perMinute ← Run.lift (need limits "max_requests_per_minute")
    if ← Run.lift (isReached c.minute perMinute) then
      note ["⚠️  已达到每分钟请求限制 (", Text.ofNat c.minute, "/", asText perMinute, ")"]
      return false
    let perHour := look limits "max_requests_per_hour"
    if ← Run.lift (isReached c.hour perHour) then
      note ["⚠️  已达到每小时请求限制 (", Text.ofNat c.hour, "/", asText perHour, ")"]
      return false
    return true) := by
  have hrefuse : ∀ parts : List Text, Calm (do note parts; return false) := fun parts =>
    calm_bind (calm_note parts) fun _ => calm_pure false
  refine calm_bind calm_get fun s => ?_
  refine calm_bind (calm_lift (need_ne_tooOften _ _)) fun perMinute => ?_
  refine calm_bind (calm_isReached _ _) fun full => calm_ite (hrefuse _) ?_
  exact calm_bind (calm_isReached _ _) fun full => calm_ite (hrefuse _) (calm_pure true)

section

variable (hpaced : isPaced (look (some s.settings) "anti_crawl") = true)

include hpaced

/-- **A check rolls the counter**, whatever it says about the limits. -/
lemma counter_admits : (performed admits s).2.counter = s.counter.roll s.clock ∧
    (performed admits s).2.settings = s.settings := by
  unfold admits
  rw [performed_bind_of_ok (performed_pacing_of_isPaced hpaced), hpaced, if_neg (by decide)]
  obtain ⟨hcounter, hsettings, -⟩ := calm_afterRoll (look (some s.settings) "anti_crawl")
    { s with counter := s.counter.roll s.clock }
  exact ⟨hcounter, hsettings⟩

/-- **A visit rolls the counter**, and counts in both windows if it goes on. -/
lemma counter_visit (url height options : Setting) :
    Shifts s.clock s.counter (performed (visit url height options) s).2.counter ∧
      (performed (visit url height options) s).2.settings = s.settings := by
  obtain ⟨hcounter, hsettings⟩ := counter_admits hpaced
  unfold visit
  rw [performed_bind_of_ok (performed_pacing_of_isPaced hpaced), performed_bind]
  generalize performed admits s = r at hcounter hsettings
  obtain ⟨answer, s'⟩ := r
  dsimp only at hcounter hsettings
  have hrolled : Shifts s.clock s.counter s'.counter ∧ s'.settings = s.settings :=
    ⟨by rw [hcounter]; exact .check, hsettings⟩
  rcases answer with t | _ | _
  · exact hrolled
  · exact hrolled
  · rw [← hsettings] at hpaced
    obtain ⟨log, hcount⟩ := performed_countRequest_of_isPaced hpaced
    change Shifts _ _ (performed (countRequest >>= _) s').2.counter ∧
      (performed (countRequest >>= _) s').2.settings = _
    rw [performed_bind_of_ok hcount]
    obtain ⟨hkept, hkept', -⟩ := calm_afterCount url height options
      { s' with counter := s'.counter.increment, log }
    refine ⟨?_, hkept'.trans hsettings⟩
    rw [hkept, hcounter]
    exact .visit

/-- **What a step does to the counter**; the settings stay as they are. -/
lemma Step.shifts (step : Step) :
    Shifts step.reading.clock s.counter (step.outcome s).2.counter ∧
      (step.outcome s).2.settings = s.settings := by
  obtain ⟨reading, operation⟩ := step
  have hpaced' : isPaced (look (some ({ s with clock := reading.clock } : Session).settings)
      "anti_crawl") = true := hpaced
  -- the operations that leave the counter alone
  have hcalm : ∀ {p : Run Unit}, Calm p → operation.run = p →
      Shifts reading.clock s.counter (Step.outcome ⟨reading, operation⟩ s).2.counter ∧
        (Step.outcome ⟨reading, operation⟩ s).2.settings = s.settings := by
    intro p hp hrun
    obtain ⟨hcounter, hsettings, -⟩ := hp { s with clock := reading.clock }
    rw [← hrun] at hcounter hsettings
    rw [Step.outcome, hcounter]
    exact ⟨.idle, hsettings⟩
  cases operation with
  | wait low high => exact hcalm (calm_randomWait low high) rfl
  | scroll height => exact hcalm (calm_scroll height) rfl
  | moveMouse => exact hcalm calm_moveMouse rfl
  | userAgent => exact hcalm (calm_discard calm_userAgent) rfl
  | proxy => exact hcalm (calm_discard calm_proxy) rfl
  | statistics => exact hcalm (calm_discard calm_statistics) rfl
  | reset => exact ⟨.reset, rfl⟩
  | count =>
      obtain ⟨log, hcount⟩ := performed_countRequest_of_isPaced hpaced'
      rw [Step.outcome, Operation.run, hcount]
      exact ⟨.count, rfl⟩
  | check =>
      obtain ⟨hcounter, hsettings⟩ := counter_admits hpaced'
      rw [Step.outcome, Operation.run, performed_discard]
      exact ⟨by rw [hcounter]; exact .check, hsettings⟩
  | visit url height options =>
      rw [Step.outcome, Operation.run, performed_discard]
      exact counter_visit hpaced' url height options

end

/-! ## Aligned counters -/

/-- The windows of a counter were begun at two times, not after the present one, and the counts are
compared by which of them was begun first.  No minute was begun when the hour was over; and no hour
when the minute was, unless both stand as they were set up. -/
structure Aligned (minuteSetUp hourSetUp time minuteStart hourStart : ℤ) (c : Counter) : Prop where
  minuteStart_eq : c.minuteStart.toInt? = some minuteStart
  hourStart_eq : c.hourStart.toInt? = some hourStart
  minuteStart_le : minuteStart ≤ time
  hourStart_le : hourStart ≤ time
  open_hour : minuteStart - hourStart ≤ 3600000
  open_minute : hourStart - minuteStart ≤ 60000 ∨
    minuteStart = minuteSetUp ∧ hourStart = hourSetUp
  minute_le : hourStart ≤ minuteStart → c.minute ≤ c.hour
  hour_le : minuteStart < hourStart → c.hour ≤ c.minute

section

variable {minuteSetUp hourSetUp time minuteStart hourStart : ℤ} {c : Counter}

/-- A counter at its set-up, with the minute begun first. -/
lemma aligned_start {minuteSetUp hourSetUp : Reading} (hle : minuteSetUp.time ≤ hourSetUp.time) :
    Aligned minuteSetUp.time hourSetUp.time hourSetUp.time minuteSetUp.time hourSetUp.time
      (.start minuteSetUp.clock hourSetUp.clock) where
  minuteStart_eq := minuteSetUp.isTime
  hourStart_eq := hourSetUp.isTime
  minuteStart_le := hle
  hourStart_le := le_rfl
  open_hour := by omega
  open_minute := .inr ⟨rfl, rfl⟩
  minute_le _ := le_rfl
  hour_le _ := le_rfl

/-- A counter whose windows are both begun anew. -/
lemma aligned_start_self (minuteSetUp hourSetUp : ℤ) (reading : Reading) :
    Aligned minuteSetUp hourSetUp reading.time reading.time reading.time
      (.start reading.clock reading.clock) :=
  { aligned_start (le_refl reading.time) with open_minute := by omega }

lemma Aligned.later (h : Aligned minuteSetUp hourSetUp time minuteStart hourStart c)
    {time' : ℤ} (hle : time ≤ time') :
    Aligned minuteSetUp hourSetUp time' minuteStart hourStart c :=
  { h with
    minuteStart_le := h.minuteStart_le.trans hle
    hourStart_le := h.hourStart_le.trans hle }

/-- A request that is counted is counted in both windows. -/
lemma Aligned.increment (h : Aligned minuteSetUp hourSetUp time minuteStart hourStart c) :
    Aligned minuteSetUp hourSetUp time minuteStart hourStart c.increment :=
  { h with
    minute_le := fun hstart => Nat.succ_le_succ (h.minute_le hstart)
    hour_le := fun hstart => Nat.succ_le_succ (h.hour_le hstart) }

/-- **A roll keeps the counts comparable.**  Each window is begun anew or not; only if the hour is
and the minute is not does their order change, and then the new count of the hour is zero. -/
lemma Aligned.roll (h : Aligned minuteSetUp hourSetUp time minuteStart hourStart c)
    (reading : Reading) (hle : time ≤ reading.time) :
    ∃ minuteStart hourStart, Aligned minuteSetUp hourSetUp reading.time minuteStart hourStart
      (c.roll reading.clock) := by
  have hminute := isLength_minuteLength reading.isTime h.minuteStart_eq
  have hhour := isLength_hourLength reading.isTime h.hourStart_eq
  obtain ⟨hminuteStart, hhourStart, hminute_le, hhour_le, hopen, hopen', hfirst, hlater⟩ := h
  have hroll : c.roll reading.clock =
      ⟨(c.roll reading.clock).minute, (c.roll reading.clock).hour,
        (c.roll reading.clock).minuteStart, (c.roll reading.clock).hourStart⟩ := rfl
  rw [hroll, Counter.minute_roll, Counter.minuteStart_roll, Counter.hour_roll,
    Counter.hourStart_roll]
  by_cases hm : minuteLength.lt (reading.clock.sub c.minuteStart) = true <;>
    by_cases hh : hourLength.lt (reading.clock.sub c.hourStart) = true
  · rw [if_pos hm, if_pos hm, if_pos hh, if_pos hh]
    exact ⟨_, _, aligned_start_self _ _ reading⟩
  · rw [if_pos hm, if_pos hm, if_neg hh, if_neg hh]
    rw [hhour] at hh
    exact ⟨reading.time, hourStart, reading.isTime, hhourStart, le_rfl, by omega, by omega,
      by omega, fun _ => Nat.zero_le _, fun hlt => by omega⟩
  · rw [if_neg hm, if_neg hm, if_pos hh, if_pos hh]
    rw [hminute] at hm
    rw [hhour] at hh
    exact ⟨minuteStart, reading.time, hminuteStart, reading.isTime, by omega, le_rfl, by omega,
      by omega, fun hge => by omega, fun _ => Nat.zero_le _⟩
  · rw [if_neg hm, if_neg hm, if_neg hh, if_neg hh]
    exact ⟨minuteStart, hourStart, hminuteStart, hhourStart, by omega, by omega, hopen,
      hopen', hfirst, hlater⟩

/-- **A step keeps the counts comparable.** -/
lemma Shifts.aligned {c' : Counter} {reading : Reading} (h : Shifts reading.clock c c')
    (hc : Aligned minuteSetUp hourSetUp time minuteStart hourStart c) (hle : time ≤ reading.time) :
    ∃ minuteStart hourStart,
      Aligned minuteSetUp hourSetUp reading.time minuteStart hourStart c' := by
  obtain ⟨minuteStart', hourStart', hroll⟩ := hc.roll reading hle
  cases h with
  | idle => exact ⟨_, _, hc.later hle⟩
  | reset => exact ⟨_, _, aligned_start_self _ _ reading⟩
  | check => exact ⟨_, _, hroll⟩
  | visit => exact ⟨_, _, hroll.increment⟩
  | count => exact ⟨_, _, (hc.later hle).increment⟩

/-- **A run keeps the counts comparable**, if the readings of the clock do not go back. -/
lemma aligned_after {steps : List Step} :
    ∀ {s : Session} {time minuteStart hourStart : ℤ},
      isPaced (look (some s.settings) "anti_crawl") = true →
      (time :: steps.map fun step => step.reading.time).Pairwise (· ≤ ·) →
      Aligned minuteSetUp hourSetUp time minuteStart hourStart s.counter →
      ∃ time minuteStart hourStart,
        Aligned minuteSetUp hourSetUp time minuteStart hourStart (after s steps).counter := by
  induction steps with
  | nil => exact fun _ _ h => ⟨_, _, _, h⟩
  | cons step rest ih =>
      intro s time minuteStart hourStart hpaced horder h
      obtain ⟨hfirst, horder⟩ := List.pairwise_cons.1 horder
      obtain ⟨hshifts, hsettings⟩ := Step.shifts hpaced step
      obtain ⟨_, _, h'⟩ := hshifts.aligned h (hfirst _ List.mem_cons_self)
      exact ih (by rw [hsettings]; exact hpaced) horder h'

end

/-! ## What is shown -/

/-- A time that the calendar has. -/
def InCalendar (time : ℤ) : Prop :=
  -lastMoment ≤ time ∧ time ≤ lastMoment

instance (time : ℤ) : Decidable (InCalendar time) :=
  inferInstanceAs (Decidable (_ ∧ _))

/-- The moment of an integer reading as it is written. -/
lemma written?_of_toInt? {x : Binary64} {n : ℤ} (h : x.toInt? = some n) :
    written? x = if InCalendar n then .ok (isoOf n) else .error .badTime := by
  have hlast : Binary64.ofInt lastMoment = .finite false 8640000000000000 0 := by decide +kernel
  have hvalue : Binary64.value false 8640000000000000 0 = (lastMoment : ℚ) := by
    norm_num [Binary64.value, Binary64.signed, lastMoment]
  obtain ⟨s, m, e, rfl, hn⟩ := Binary64.exists_of_toInt? h
  have hlow : (Binary64.finite true 8640000000000000 0).le (.finite s m e) = true ↔
      -lastMoment ≤ n := by
    rw [Binary64.le_iff rfl rfl]
    norm_cast
    rw [hn, show true = !false from rfl, Binary64.value_not, hvalue]
    norm_cast
  have hhigh : (Binary64.finite s m e).le (.finite false 8640000000000000 0) = true ↔
      n ≤ lastMoment := by
    rw [Binary64.le_iff rfl rfl]
    norm_cast
    rw [hn, hvalue]
    norm_cast
  have htruncate : (Binary64.finite s m e).truncate? = some n := by
    rw [Binary64.toInt?] at h
    rw [Binary64.truncate?]
    split_ifs at h ⊢ <;> exact h
  have hrange : ((Binary64.finite false 8640000000000000 0).neg.le (.finite s m e) &&
      (Binary64.finite s m e).le (.finite false 8640000000000000 0)) =
      decide (InCalendar n) := by
    rw [Bool.eq_iff_iff, Bool.and_eq_true, decide_eq_true_iff]
    exact and_congr hlow hhigh
  unfold written? iso?
  simp only [hlast, hrange, htruncate, decide_eq_true_eq]
  split_ifs <;> rfl

/-- What is shown of a counter whose windows were begun at two times. -/
def Counter.report (c : Counter) (minuteStart hourStart : ℤ) : Json :=
  .obj [("minute".toList, .int c.minute), ("hour".toList, .int c.hour),
    ("minuteReset".toList, .str (isoOf minuteStart)), ("hourReset".toList, .str (isoOf hourStart))]

/-- **The counts are shown as they are**, as long as the calendar has the times. -/
lemma performed_statistics {minuteStart hourStart : ℤ}
    (hminute : s.counter.minuteStart.toInt? = some minuteStart)
    (hhour : s.counter.hourStart.toInt? = some hourStart) :
    performed statistics s = (if InCalendar minuteStart ∧ InCalendar hourStart then
      .ok (s.counter.report minuteStart hourStart) else .error .badTime, s) := by
  have hshown : performed statistics s =
      performed (do
        let first ← Run.lift (written? s.counter.minuteStart)
        let second ← Run.lift (written? s.counter.hourStart)
        return Json.obj [("minute".toList, .int s.counter.minute),
          ("hour".toList, .int s.counter.hour), ("minuteReset".toList, .str first),
          ("hourReset".toList, .str second)]) s := rfl
  rw [hshown, written?_of_toInt? hminute, written?_of_toInt? hhour]
  by_cases hfirst : InCalendar minuteStart <;> by_cases hsecond : InCalendar hourStart
  · rw [if_pos hfirst, if_pos hsecond, if_pos ⟨hfirst, hsecond⟩]
    rfl
  · rw [if_pos hfirst, if_neg hsecond, if_neg (mt And.right hsecond)]
    rfl
  · rw [if_neg hfirst, if_neg (mt And.left hfirst)]
    rfl
  · rw [if_neg hfirst, if_neg (mt And.left hfirst)]
    rfl

/-- **The minute counts no more than the hour, unless the hour was begun in the middle of it.**  Let
pacing be switched on, with whatever limits, and let the counting be set up at two readings of the
clock, the first for the minute and the second for the hour.  After every run of operations at
readings that do not go back, whatever the page does in it, what is shown are the two counts and the
times at which the minute and the hour were begun, if the calendar has these times, and nothing
changes.

* If the hour was not begun after the minute, then the count of the minute is at most that of the
  hour.
* If it was, then it was begun before the minute was over, or both are as they were set up; and the
  count of the hour is at most that of the minute. -/
theorem minute_le_hour_unless_begun_later {s : Session} {minuteSetUp hourSetUp : Reading}
    {steps : List Step} (hpaced : isPaced (look (some s.settings) "anti_crawl") = true)
    (hsetUp : s.counter = .start minuteSetUp.clock hourSetUp.clock)
    (horder : (minuteSetUp.time :: hourSetUp.time ::
      steps.map fun step => step.reading.time).Pairwise (· ≤ ·)) :
    let c := (after s steps).counter
    ∃ minuteStart hourStart : ℤ,
      (c.minuteStart.toInt? = some minuteStart ∧ c.hourStart.toInt? = some hourStart) ∧
      performed statistics (after s steps) =
        (if InCalendar minuteStart ∧ InCalendar hourStart then .ok (c.report minuteStart hourStart)
          else .error .badTime, after s steps) ∧
      (hourStart ≤ minuteStart → c.minute ≤ c.hour) ∧
      (minuteStart < hourStart →
        (hourStart ≤ minuteStart + 60000 ∨
          minuteStart = minuteSetUp.time ∧ hourStart = hourSetUp.time) ∧ c.hour ≤ c.minute) := by
  obtain ⟨hfirst, horder⟩ := List.pairwise_cons.1 horder
  have hstart := aligned_start (hfirst _ List.mem_cons_self)
  rw [← hsetUp] at hstart
  obtain ⟨time, minuteStart, hourStart, h⟩ := aligned_after hpaced horder hstart
  refine ⟨minuteStart, hourStart, ⟨h.minuteStart_eq, h.hourStart_eq⟩,
    performed_statistics h.minuteStart_eq h.hourStart_eq, h.minute_le,
    fun hlt => ⟨?_, h.hour_le hlt⟩⟩
  have := h.open_minute
  omega

/-- The last moment of the first hour. -/
def Reading.endOfHour : Reading :=
  ⟨.ofInt 3600000, 3600000, by decide +kernel⟩

/-- The moment after the first hour. -/
def Reading.nextHour : Reading :=
  ⟨.ofInt 3600001, 3600001, by decide +kernel⟩

/-- A visit at the end of the first hour, and a check after it. -/
def hourTurned : List Step :=
  [Reading.endOfHour.visit, ⟨Reading.nextHour, .check⟩]

lemma inOrder_hourTurned :
    (Reading.zero.time :: Reading.zero.time ::
      hourTurned.map fun step => step.reading.time).Pairwise (· ≤ ·) := by
  decide

/-- After a visit the minute and the hour, begun together, have the same count. -/
theorem minute_le_hour_unless_begun_later_sample :
    isPaced (look (some sampleSession.settings) "anti_crawl") = true ∧
    sampleSession.counter = .start Reading.zero.clock Reading.zero.clock ∧
    ([Reading.zero.time, Reading.zero.time, Reading.zero.visit.reading.time].Pairwise (· ≤ ·)) ∧
    (after sampleSession [Reading.zero.visit]).counter.hour = 1 ∧
    (after sampleSession [Reading.zero.visit]).counter.minute ≤
      (after sampleSession [Reading.zero.visit]).counter.hour := by
  have hpaced : isPaced (look (some sampleSession.settings) "anti_crawl") = true := by
    decide +kernel
  have hcounter : (after sampleSession [Reading.zero.visit]).counter =
      ⟨1, 1, Reading.zero.clock, Reading.zero.clock⟩ := by decide +kernel
  have horder : [Reading.zero.time, Reading.zero.time,
      Reading.zero.visit.reading.time].Pairwise (· ≤ ·) := by decide
  obtain ⟨minuteStart, hourStart, ⟨hminute, hhour⟩, -, hle, -⟩ :=
    @minute_le_hour_unless_begun_later sampleSession Reading.zero Reading.zero
      [Reading.zero.visit] hpaced rfl
      horder
  refine ⟨hpaced, rfl, horder, by rw [hcounter], hle ?_⟩
  rw [hcounter, Reading.zero.isTime] at hminute hhour
  cases hminute
  cases hhour
  exact le_rfl

/-- **The minute can count more than the hour.**  A visit at the end of the first hour is the only
one in its minute; a check after it begins a new hour, and not a new minute. -/
theorem minute_exceeds_hour :
    isPaced (look (some sampleSession.settings) "anti_crawl") = true ∧
    sampleSession.counter = .start Reading.zero.clock Reading.zero.clock ∧
    (Reading.zero.time :: Reading.zero.time ::
      hourTurned.map fun step => step.reading.time).Pairwise (· ≤ ·) ∧
    performed statistics (after sampleSession hourTurned) =
      (.ok (.obj [("minute".toList, .int 1), ("hour".toList, .int 0),
        ("minuteReset".toList, .str "1970-01-01T01:00:00.000Z".toList),
        ("hourReset".toList, .str "1970-01-01T01:00:00.001Z".toList)]),
      after sampleSession hourTurned) := by
  have hcounter : (after sampleSession hourTurned).counter =
      ⟨1, 0, Reading.endOfHour.clock, Reading.nextHour.clock⟩ := by decide +kernel
  have hminute : isoOf Reading.endOfHour.time = "1970-01-01T01:00:00.000Z".toList := by
    decide +kernel
  have hhour : isoOf Reading.nextHour.time = "1970-01-01T01:00:00.001Z".toList := by decide +kernel
  refine ⟨by decide +kernel, rfl, inOrder_hourTurned, ?_⟩
  rw [performed_statistics (by rw [hcounter]; exact Reading.endOfHour.isTime)
    (by rw [hcounter]; exact Reading.nextHour.isTime), if_pos (by decide), Counter.report, hcounter,
    hminute, hhour]
  rfl

end Gleaner.Crawl
