import Gleaner.Proofs.Crawl.Admission

/-!
# How often the crawler comes

A window is begun anew only when a check happens to find it over, so nothing keeps a window from
being full at its end and the next one at its beginning.  No interval as long as a window holds more
than twice the limit, though, and twice the limit is possible (`admitted_at_most_twice`).

**Two windows.**  Where a window is begun, the one before it is older than its length.  So an
interval of this length meets at most two windows: one that is open when it begins, and one that is
begun in it.  `admittedWithin_le` is the induction on a history; it tells the two cases apart by
whether the open window was begun in the interval.

**Full windows.**  No window ever holds more than the limit (`WithinLimits`), because a visit is
admitted only if the count is below it.

**Twice the limit.**  `admitted_of_visits` follows a row of visits at one reading of the clock: as
long as there is room all of them are admitted.  One row at the end of a minute and one after it
make the bound tight.
-/

namespace Gleaner.Crawl

/-! ## Intervals of a history -/

/-- How many visits were admitted in a closed interval of time. -/
def admittedWithin (first last : ℚ) (events : List Event) : ℕ :=
  events.countP fun e => e.admitted && decide (first ≤ e.time ∧ e.time ≤ last)

/-- The events come in the order of their times, latest first, after the set-up. -/
def InOrder (setUp : ℤ) : List Event → Prop
  | [] => True
  | e :: earlier => setUp ≤ e.time ∧ (∀ e' ∈ earlier, e'.time ≤ e.time) ∧ InOrder setUp earlier

/-- No window of a history ever holds more than the limit. -/
def KeptWithin (length setUp : ℤ) (limit : ℕ) : List Event → Prop
  | [] => True
  | e :: earlier =>
      windowCount length setUp (e :: earlier) ≤ limit ∧ KeptWithin length setUp limit earlier

section

variable {length setUp : ℤ} {limit : ℕ} {first last : ℚ} {e : Event} {events : List Event}

lemma admittedWithin_cons_le (first last : ℚ) (e : Event) (events : List Event) :
    admittedWithin first last (e :: events) ≤
      admittedWithin first last events + e.admitted.toNat := by
  rw [admittedWithin, List.countP_cons, ← admittedWithin]
  cases e.admitted with
  | false => simp
  | true =>
      simp only [Bool.true_and, Bool.toNat_true]
      split <;> omega

/-- An event outside of an interval does not count. -/
lemma admittedWithin_cons_of_not (h : ¬(first ≤ e.time ∧ e.time ≤ last)) :
    admittedWithin first last (e :: events) = admittedWithin first last events := by
  rw [admittedWithin, List.countP_cons_of_neg (by simp [h]), ← admittedWithin]

/-- Before the interval nothing counts. -/
lemma admittedWithin_eq_zero (h : ∀ e ∈ events, (e.time : ℚ) < first) :
    admittedWithin first last events = 0 := by
  rw [admittedWithin, List.countP_eq_zero]
  intro e he
  have := h e he
  simp only [Bool.and_eq_true, decide_eq_true_eq, not_and, not_le]
  intro _ hfirst
  linarith

lemma KeptWithin.windowCount_le (h : KeptWithin length setUp limit events) :
    windowCount length setUp events ≤ limit := by
  cases events with
  | nil => exact Nat.zero_le limit
  | cons e earlier => exact h.1

/-- Where an event stands to the windows: it begins one, or it falls into the one that is open. -/
lemma window_cons_cases (length setUp : ℤ) (e : Event) (events : List Event)
    (hreset : e.reset = false) :
    (windowStart length setUp (e :: events) = e.time ∧
      windowCount length setUp (e :: events) = e.admitted.toNat ∧
      windowStart length setUp events < e.time - length) ∨
    (windowStart length setUp (e :: events) = windowStart length setUp events ∧
      windowCount length setUp (e :: events) =
        windowCount length setUp events + e.admitted.toNat) := by
  by_cases hnew : e.checked = true ∧ length < e.time - windowStart length setUp events
  · have hwindow := window_cons_new length setUp events (.inr hnew)
    refine .inl ⟨by rw [windowStart, hwindow], ?_, by omega⟩
    rw [windowCount, hwindow, List.countP_singleton]
    cases e.admitted <;> rfl
  · rw [not_and, not_lt] at hnew
    have hwindow := window_cons_old length setUp events hreset hnew
    refine .inr ⟨by rw [windowStart, hwindow], ?_⟩
    rw [windowCount, hwindow, List.countP_cons, ← windowCount]
    cases e.admitted <;> rfl

/-- A window is not begun after the latest event. -/
lemma windowStart_le (length : ℤ) {time : ℤ} (hreset : ∀ e ∈ events, e.reset = false)
    (hsetUp : setUp ≤ time) (hall : ∀ e ∈ events, e.time ≤ time) :
    windowStart length setUp events ≤ time := by
  induction events with
  | nil => exact hsetUp
  | cons e earlier ih =>
      rw [List.forall_mem_cons] at hall hreset
      rcases window_cons_cases length setUp e earlier hreset.1 with ⟨hstart, -⟩ | ⟨hstart, -⟩
      · rw [hstart]
        exact hall.1
      · rw [hstart]
        exact ih hreset.2 hall.2

/-- **An interval as long as a window meets two windows at most.**  If the open window was begun
before the end of the interval, then what the interval holds lies in this window; and if it was
begun in the interval, some may lie in the window before it. -/
lemma admittedWithin_le (first : ℚ) (hreset : ∀ e ∈ events, e.reset = false)
    (horder : InOrder setUp events) (hkept : KeptWithin length setUp limit events) :
    ((windowStart length setUp events : ℚ) ≤ first + length →
      admittedWithin first (first + length) events ≤
        windowCount length setUp events +
          (if (windowStart length setUp events : ℚ) < first then 0 else limit)) ∧
    admittedWithin first (first + length) events ≤ 2 * limit := by
  induction events with
  | nil => simp [admittedWithin]
  | cons e earlier ih =>
      have hlate := windowStart_le length hreset horder.1
        (List.forall_mem_cons.2 ⟨le_rfl, horder.2.1⟩)
      obtain ⟨-, hall, horder⟩ := horder
      rw [List.forall_mem_cons] at hreset
      obtain ⟨hcount, hkept⟩ := hkept
      obtain ⟨ihopen, ihall⟩ := ih hreset.2 horder hkept
      have hcons := admittedWithin_cons_le first (first + length) e earlier
      have hopen : (windowStart length setUp (e :: earlier) : ℚ) ≤ first + length →
          admittedWithin first (first + length) (e :: earlier) ≤
            windowCount length setUp (e :: earlier) +
              (if (windowStart length setUp (e :: earlier) : ℚ) < first then 0 else limit) := by
        intro hend
        rcases window_cons_cases length setUp e earlier hreset.1 with
          ⟨hstart, hwindow, hover⟩ | ⟨hstart, hwindow⟩
        · rw [hstart] at hend
          rw [hstart, hwindow]
          split
          case isTrue hbefore =>
            -- all events lie before the interval
            rw [admittedWithin_eq_zero]
            · exact Nat.zero_le _
            · refine List.forall_mem_cons.2 ⟨hbefore, fun e' he' => lt_of_le_of_lt ?_ hbefore⟩
              exact_mod_cast hall e' he'
          case isFalse hin =>
            -- the window before this one was begun before the interval
            have hover' : (windowStart length setUp earlier : ℚ) < e.time - length := by
              exact_mod_cast hover
            have hopen := ihopen (by linarith)
            rw [if_pos (by linarith)] at hopen
            have := hkept.windowCount_le
            omega
        · rw [hstart] at hend
          rw [hstart, hwindow]
          have := ihopen hend
          omega
      refine ⟨hopen, ?_⟩
      by_cases hend : (windowStart length setUp (e :: earlier) : ℚ) ≤ first + length
      · have := hopen hend
        split at this <;> omega
      · -- the latest event lies behind the interval
        rw [admittedWithin_cons_of_not]
        · exact ihall
        · have hlate' : (windowStart length setUp (e :: earlier) : ℚ) ≤ e.time := by
            exact_mod_cast hlate
          intro hin
          linarith

end

/-! ## Windows of a run -/

/-- The counter follows the history, and no window of it is more than full. -/
structure WithinLimits (perMinute perHour : ℕ) (minuteSetUp hourSetUp : ℤ) (s : Session)
    (events : List Event) : Prop where
  counted : Counted minuteSetUp hourSetUp s events
  minute : KeptWithin 60000 minuteSetUp perMinute events
  hour : KeptWithin 3600000 hourSetUp perHour events

section

variable {perMinute perHour : ℕ} {minuteSetUp hourSetUp setUp : ℤ} {s : Session}
  {events : List Event}

/-- A roll does not raise a count. -/
lemma Counter.roll_le (c : Counter) (now : Binary64) :
    (c.roll now).minute ≤ c.minute ∧ (c.roll now).hour ≤ c.hour := by
  rw [Counter.minute_roll, Counter.hour_roll]
  constructor <;> split <;> omega

/-- No step brings a count above its limit. -/
lemma Moves.le {now : Binary64} {e : Event} {c c' : Counter}
    (h : Moves perMinute perHour now e c c') (hminute : c.minute ≤ perMinute)
    (hhour : c.hour ≤ perHour) : c'.minute ≤ perMinute ∧ c'.hour ≤ perHour := by
  obtain ⟨hminute', hhour'⟩ := c.roll_le now
  cases h with
  | idle => exact ⟨hminute, hhour⟩
  | reset => exact ⟨Nat.zero_le _, Nat.zero_le _⟩
  | check => exact ⟨hminute'.trans hminute, hhour'.trans hhour⟩
  | visit _ _ _ hroom hroom' => exact ⟨hroom, hroom'⟩

lemma WithinLimits.step (hlimits : Limited s.settings perMinute perHour)
    (h : WithinLimits perMinute perHour minuteSetUp hourSetUp s events) (step : Step)
    (hcount : step.operation ≠ .count) :
    WithinLimits perMinute perHour minuteSetUp hourSetUp (step.outcome s).2
      (step.event s :: events) := by
  have hcounted := h.counted.step hlimits step hcount
  have hle := (step.moves hlimits hcount).1.le
    (h.counted.minute.count_eq.trans_le h.minute.windowCount_le)
    (h.counted.hour.count_eq.trans_le h.hour.windowCount_le)
  exact ⟨hcounted, ⟨hcounted.minute.count_eq.symm.trans_le hle.1, h.minute⟩,
    ⟨hcounted.hour.count_eq.symm.trans_le hle.2, h.hour⟩⟩

/-- **No window of a run is more than full.** -/
lemma WithinLimits.run {steps : List Step} (hsteps : ∀ step ∈ steps, step.operation ≠ .count)
    (hlimits : Limited s.settings perMinute perHour)
    (h : WithinLimits perMinute perHour minuteSetUp hourSetUp s events) :
    WithinLimits perMinute perHour minuteSetUp hourSetUp (after s steps)
      (history s events steps) := by
  refine (run_induction (P := fun s events => Limited s.settings perMinute perHour ∧
    WithinLimits perMinute perHour minuteSetUp hourSetUp s events) (fun step hstep s events h => ?_)
    ⟨hlimits, h⟩).2
  refine ⟨?_, h.2.step h.1 step (hsteps step hstep)⟩
  rw [(step.moves h.1 (hsteps step hstep)).2]
  exact h.1

/-- A run in order: the readings of the clock do not go back, from the two of the set-up on, and
requests are counted by visits only. -/
structure Orderly (minuteSetUp hourSetUp : Reading) (steps : List Step) : Prop where
  inOrder : (minuteSetUp.time :: hourSetUp.time ::
    steps.map fun step => step.reading.time).Pairwise (· ≤ ·)
  notByHand : ∀ step ∈ steps, step.operation ≠ .count ∧ step.operation ≠ .reset

/-- Without a reset among the operations, there is none in the history. -/
lemma not_reset_of_mem_history {steps : List Step}
    (hsteps : ∀ step ∈ steps, step.operation ≠ .reset) :
    ∀ e ∈ history s [] steps, e.reset = false := by
  refine run_induction (P := fun _ events => ∀ e ∈ events, e.reset = false)
    (fun step hstep s events h => List.forall_mem_cons.2 ⟨?_, h⟩) (List.forall_mem_nil _)
  have hoperation := hsteps step hstep
  rw [Step.event]
  cases h : step.operation <;> first | rfl | exact absurd h hoperation

/-- A run whose readings do not go back has a history in order. -/
lemma inOrder_history {steps : List Step}
    (horder : (steps.map fun step => step.reading.time).Pairwise (· ≤ ·))
    (hsetUp : ∀ step ∈ steps, setUp ≤ step.reading.time) :
    ∀ {s events}, InOrder setUp events →
      (∀ step ∈ steps, ∀ e ∈ events, e.time ≤ step.reading.time) →
      InOrder setUp (history s events steps) := by
  induction steps with
  | nil => exact fun h _ => h
  | cons step rest ih =>
      intro s events h hlater
      rw [List.map_cons, List.pairwise_cons] at horder
      rw [List.forall_mem_cons] at hsetUp hlater
      refine ih horder.2 hsetUp.2 ⟨hsetUp.1, hlater.1, h⟩ fun step' hstep' => ?_
      exact List.forall_mem_cons.2
        ⟨horder.1 _ (List.mem_map_of_mem hstep'), hlater.2 step' hstep'⟩

/-- **Every interval of a run.** -/
lemma Orderly.admittedWithin_le {minuteSetUp hourSetUp : Reading} {steps : List Step}
    (h : Orderly minuteSetUp hourSetUp steps) (hlimits : Limited s.settings perMinute perHour)
    (hsetUp : s.counter = .start minuteSetUp.clock hourSetUp.clock) (first : ℚ) :
    admittedWithin first (first + 60000) (history s [] steps) ≤ 2 * perMinute ∧
      admittedWithin first (first + 3600000) (history s [] steps) ≤ 2 * perHour := by
  obtain ⟨hminute, hlater⟩ := List.pairwise_cons.1 h.inOrder
  obtain ⟨hhour, horder⟩ := List.pairwise_cons.1 hlater
  have hinOrder : ∀ setUp : ℤ, (∀ time ∈ steps.map fun step => step.reading.time, setUp ≤ time) →
      InOrder setUp (history s [] steps) := fun setUp hsetUp => inOrder_history horder
    (fun step hstep => hsetUp _ (List.mem_map_of_mem hstep)) trivial (by simp)
  have hminuteOrder := hinOrder _ fun time htime => hminute time (List.mem_cons_of_mem _ htime)
  have hreset : ∀ e ∈ history s [] steps, e.reset = false :=
    not_reset_of_mem_history fun step hstep => (h.notByHand step hstep).2
  have hwithin : WithinLimits perMinute perHour minuteSetUp.time hourSetUp.time (after s steps)
      (history s [] steps) :=
    WithinLimits.run (fun step hstep => (h.notByHand step hstep).1) hlimits
      ⟨counted_start hsetUp, trivial, trivial⟩
  exact ⟨(Crawl.admittedWithin_le first hreset hminuteOrder hwithin.minute).2,
    (Crawl.admittedWithin_le first hreset (hinOrder _ hhour) hwithin.hour).2⟩

end

/-! ## Rows of visits -/

/-- Neither window is over at a moment. -/
def Counter.Current (c : Counter) (now : Binary64) : Prop :=
  minuteLength.lt (now.sub c.minuteStart) = false ∧ hourLength.lt (now.sub c.hourStart) = false

section

variable {perMinute perHour : ℕ} {s : Session} {events : List Event} {first last : ℚ}

lemma Counter.Current.roll_eq {c : Counter} {now : Binary64} (h : c.Current now) :
    c.roll now = c := by
  simp [roll, rollMinute, rollHour, h.1, h.2]

/-- A roll makes both windows current. -/
lemma Counter.current_roll (c : Counter) (reading : Reading) :
    (c.roll reading.clock).Current reading.clock := by
  have hminute := isLength_minuteLength reading.isTime reading.isTime
  have hhour := isLength_hourLength reading.isTime reading.isTime
  unfold Current
  rw [minuteStart_roll, hourStart_roll]
  constructor
  · split
    case isTrue => exact Bool.eq_false_iff.2 (mt hminute.1 (by omega))
    case isFalse h => exact Bool.eq_false_iff.2 h
  · split
    case isTrue => exact Bool.eq_false_iff.2 (mt hhour.1 (by omega))
    case isFalse h => exact Bool.eq_false_iff.2 h

/-- A check makes both windows current. -/
lemma counter_check (hlimits : Limited s.settings perMinute perHour) (reading : Reading) :
    (Step.outcome ⟨reading, .check⟩ s).2.counter = s.counter.roll reading.clock := by
  obtain ⟨hmoves, -⟩ := Step.moves hlimits ⟨reading, .check⟩ (by simp)
  generalize (Step.outcome ⟨reading, .check⟩ s).2.counter = c at hmoves
  cases hmoves with
  | idle hchecked => cases hchecked
  | reset hreset => cases hreset
  | check => rfl
  | visit _ _ hadmitted => cases hadmitted

/-- **As long as there is room, a row of visits is admitted.** -/
lemma admitted_of_visits (reading : Reading) (hfirst : first ≤ reading.time)
    (hlast : (reading.time : ℚ) ≤ last) (n : ℕ) :
    ∀ (s : Session) (events : List Event), Limited s.settings perMinute perHour →
      s.counter.Current reading.clock → s.counter.minute + n ≤ perMinute →
      s.counter.hour + n ≤ perHour →
      (after s (List.replicate n reading.visit)).counter =
          { s.counter with minute := s.counter.minute + n, hour := s.counter.hour + n } ∧
        (after s (List.replicate n reading.visit)).settings = s.settings ∧
        admittedWithin first last (history s events (List.replicate n reading.visit)) =
          admittedWithin first last events + n := by
  induction n with
  | zero => exact fun _ _ _ _ _ _ => ⟨rfl, rfl, rfl⟩
  | succ n ih =>
      intro s events hlimits hcurrent hminute hhour
      obtain ⟨hadmitted, hcounter, hsettings⟩ := visit_of_room hlimits reading
        (by rw [hcurrent.roll_eq]; omega) none none none
      rw [hcurrent.roll_eq, Counter.increment] at hcounter
      obtain ⟨hcounter', hsettings', hadmitted'⟩ := ih (reading.visit.outcome s).2
        (reading.visit.event s :: events) (by rw [Reading.visit, hsettings]; exact hlimits)
        (by rw [Reading.visit, hcounter]; exact hcurrent)
        (by rw [Reading.visit, hcounter]; dsimp only; omega)
        (by rw [Reading.visit, hcounter]; dsimp only; omega)
      rw [List.replicate_succ, after, history]
      refine ⟨?_, hsettings'.trans hsettings, ?_⟩
      · rw [hcounter', Reading.visit, hcounter]
        simp only [Counter.mk.injEq, and_true]
        omega
      · have hin : first ≤ ((reading.visit.event s).time : ℚ) ∧
            ((reading.visit.event s).time : ℚ) ≤ last := ⟨hfirst, hlast⟩
        have hadmitted'' : (reading.visit.event s).admitted = true := hadmitted
        rw [hadmitted', admittedWithin, List.countP_cons_of_pos (by simp [hadmitted'', hin]),
          ← admittedWithin]
        omega

lemma history_append (s : Session) (events : List Event) (steps more : List Step) :
    history s events (steps ++ more) = history (after s steps) (history s events steps) more := by
  induction steps generalizing s events with
  | nil => rfl
  | cons step rest ih => exact ih (step.outcome s).2 (step.event s :: events)

end

/-- The last moment of the first minute. -/
def Reading.endOfMinute : Reading :=
  ⟨.ofInt 60000, 60000, by decide +kernel⟩

/-- The moment after the first minute. -/
def Reading.nextMinute : Reading :=
  ⟨.ofInt 60001, 60001, by decide +kernel⟩

/-- A row of visits at the end of the first minute, and one after a check at the beginning of the
second. -/
def twoRows (n : ℕ) : List Step :=
  List.replicate n Reading.endOfMinute.visit ++
    ⟨Reading.nextMinute, .check⟩ :: List.replicate n Reading.nextMinute.visit

lemma orderly_twoRows (n : ℕ) : Orderly Reading.zero Reading.zero (twoRows n) where
  inOrder := by
    simp only [twoRows, Reading.visit, Reading.zero, Reading.endOfMinute, Reading.nextMinute,
      List.map_append, List.map_cons, List.map_replicate, List.pairwise_cons, List.pairwise_append,
      List.pairwise_replicate, List.mem_append, List.mem_cons, List.mem_replicate]
    grind
  notByHand := by
    simp [twoRows, Reading.visit, or_imp, forall_and]

/-- **Two rows fill two minutes.** -/
lemma admittedWithin_twoRows {perMinute perHour : ℕ} {s : Session}
    (hlimits : Limited s.settings perMinute perHour)
    (hsetUp : s.counter = .start Reading.zero.clock Reading.zero.clock)
    (hhour : 2 * perMinute ≤ perHour) :
    admittedWithin 60000 60001 (history s [] (twoRows perMinute)) = 2 * perMinute := by
  -- the first row fills the minute that is open
  have hcurrent : (Counter.start Reading.zero.clock Reading.zero.clock).Current
      Reading.endOfMinute.clock :=
    ⟨by decide +kernel, by decide +kernel⟩
  have hroom : 0 + perMinute ≤ perHour := by omega
  obtain ⟨hcounter, hsettings, hadmitted⟩ := admitted_of_visits .endOfMinute le_rfl
    (show (60000 : ℚ) ≤ 60001 by norm_num) perMinute s [] hlimits (by rwa [hsetUp])
    (by rw [hsetUp]; exact (Nat.zero_add _).le) (by rw [hsetUp]; exact hroom)
  rw [hsetUp] at hcounter
  rw [twoRows, history_append, history]
  generalize after s (List.replicate perMinute Reading.endOfMinute.visit) = s' at *
  generalize history s [] (List.replicate perMinute Reading.endOfMinute.visit) = events at *
  -- the check begins a new minute; the hour is open still
  have hroll : s'.counter.roll Reading.nextMinute.clock =
      ⟨0, 0 + perMinute, Reading.nextMinute.clock, Reading.zero.clock⟩ := by
    have hminute : minuteLength.lt (Reading.nextMinute.clock.sub Reading.zero.clock) = true := by
      decide +kernel
    have hhour : hourLength.lt (Reading.nextMinute.clock.sub Reading.zero.clock) = false := by
      decide +kernel
    rw [hcounter]
    simp [Counter.roll, Counter.rollMinute, Counter.rollHour, Counter.start, hminute, hhour]
  have hcurrent' := s'.counter.current_roll .nextMinute
  have hlimits' : Limited s'.settings perMinute perHour := by rwa [hsettings]
  have hchecked := counter_check hlimits' .nextMinute
  have hsettings' := (Step.moves hlimits' ⟨.nextMinute, .check⟩ (by simp)).2
  rw [hroll] at hcurrent' hchecked
  -- and the second row fills this minute
  obtain ⟨-, -, hadmitted'⟩ := admitted_of_visits .nextMinute
    (show (60000 : ℚ) ≤ 60001 by norm_num) le_rfl perMinute
    (Step.outcome ⟨.nextMinute, .check⟩ s').2 (Step.event ⟨.nextMinute, .check⟩ s' :: events)
    (by rwa [hsettings']) (by rwa [hchecked]) (by rw [hchecked]; exact (Nat.zero_add _).le)
    (by rw [hchecked]; dsimp only; omega)
  calc admittedWithin 60000 60001 _
      = admittedWithin 60000 60001 (Step.event ⟨.nextMinute, .check⟩ s' :: events) + perMinute :=
        hadmitted'
    _ = admittedWithin 60000 60001 events + perMinute := rfl
    _ = 0 + perMinute + perMinute := congrArg (· + perMinute) hadmitted
    _ = 2 * perMinute := by omega

/-- **No interval sees more than twice the limit, and no less is true.**  Let pacing be switched on
with positive limits, and let the counting be set up at two readings of the clock, the first for the
minute and the second for the hour.

* In every run in order, of whatever operations and whatever the page does, a closed interval as
  long as a minute holds at most twice as many admitted visits as the limit for a minute allows, and
  one as long as an hour at most twice as many as the limit for an hour.
* If the hour allows for two minutes, then there is a run in order that has twice the limit for a
  minute admitted within one millisecond. -/
theorem admitted_at_most_twice {perMinute perHour : ℕ} {s : Session}
    (hlimits : Limited s.settings perMinute perHour) :
    (∀ (minuteSetUp hourSetUp : Reading) (steps : List Step),
      s.counter = .start minuteSetUp.clock hourSetUp.clock →
      Orderly minuteSetUp hourSetUp steps → ∀ first : ℚ,
        admittedWithin first (first + 60000) (history s [] steps) ≤ 2 * perMinute ∧
          admittedWithin first (first + 3600000) (history s [] steps) ≤ 2 * perHour) ∧
    (s.counter = .start Reading.zero.clock Reading.zero.clock → 2 * perMinute ≤ perHour →
      ∃ steps, Orderly Reading.zero Reading.zero steps ∧
        ∃ first, admittedWithin first (first + 1) (history s [] steps) = 2 * perMinute) := by
  refine ⟨fun minuteSetUp hourSetUp steps hsetUp horderly first =>
    horderly.admittedWithin_le hlimits hsetUp first, fun hsetUp hhour => ?_⟩
  refine ⟨twoRows perMinute, orderly_twoRows perMinute, 60000, ?_⟩
  rw [show (60000 : ℚ) + 1 = 60001 by norm_num]
  exact admittedWithin_twoRows hlimits hsetUp hhour

/-- With one request in a minute, two can follow each other within a millisecond, and no minute sees
a third. -/
theorem admitted_at_most_twice_sample :
    ∃ steps, Orderly Reading.zero Reading.zero steps ∧
      (∃ first, admittedWithin first (first + 1) (history sampleSession [] steps) = 2) ∧
      ∀ first, admittedWithin first (first + 60000) (history sampleSession [] steps) ≤ 2 := by
  obtain ⟨hmost, htwice⟩ := admitted_at_most_twice (s := sampleSession) limited_sampleSettings
  obtain ⟨steps, horderly, hfirst⟩ := htwice rfl le_rfl
  exact ⟨steps, horderly, hfirst, fun first => (hmost .zero .zero steps rfl horderly first).1⟩

end Gleaner.Crawl
