import Gleaner.Crawl.Visit
import Gleaner.Proofs.Number.Difference

/-!
# Sessions of the crawler

An operation of the crawler is a function on sessions (`performed`).  What the limits on requests
need to know about the operations is said here once.

**Calm operations.**  Waiting, scrolling, moving the mouse and choosing a name leave the counter and
the settings alone and refuse nothing, whatever the page does (`Calm`).

**Checks and visits.**  Under limits that are set (`Limited`), a check always gives an answer: it
rolls the counter and compares it (`performed_admits`).  A visit is refused by the check alone, with
nothing done beside it (`performed_visit_of_refused`); otherwise it is counted once, also if the
page fails later (`visit_of_admitted`).
-/

namespace Gleaner.Crawl

variable {α β : Type}

/-- How an operation ends, and the session that it leaves. -/
def performed (p : Run α) (s : Session) : Except Trouble α × Session :=
  p.run.run s

lemma performed_bind (p : Run α) (f : α → Run β) (s : Session) :
    performed (p >>= f) s =
      match performed p s with
      | (.ok a, s') => performed (f a) s'
      | (.error t, s') => (.error t, s') := by
  unfold performed
  rw [ExceptT.run_bind, StateT.run_bind]
  rcases p.run.run s with ⟨_ | _, _⟩ <;> rfl

lemma performed_bind_of_ok {p : Run α} {s s' : Session} {a : α} (h : performed p s = (.ok a, s'))
    (f : α → Run β) : performed (p >>= f) s = performed (f a) s' := by
  rw [performed_bind, h]

lemma performed_get (s : Session) : performed (get : Run Session) s = (.ok s, s) :=
  rfl

lemma performed_lift_ok {r : Except Trouble α} {a : α} (h : r = .ok a) (s : Session) :
    performed (Run.lift r) s = (.ok a, s) := by
  subst h
  rfl

lemma performed_discard (p : Run α) (s : Session) :
    performed (discard p) s = ((performed p s).1.map fun _ => (), (performed p s).2) := by
  have hdiscard : (discard p : Run Unit) = p >>= fun _ => pure () := rfl
  rw [hdiscard, performed_bind]
  rcases performed p s with ⟨_ | _, _⟩ <;> rfl

/-! ## Calm operations -/

/-- Whatever happens, the counter and the settings stay as they are, and no request is refused. -/
def Calm (p : Run α) : Prop :=
  ∀ s, (performed p s).2.counter = s.counter ∧ (performed p s).2.settings = s.settings ∧
    (performed p s).1 ≠ .error .tooOften

lemma calm_pure (a : α) : Calm (pure a : Run α) :=
  fun _ => ⟨rfl, rfl, nofun⟩

lemma calm_get : Calm (get : Run Session) :=
  fun _ => ⟨rfl, rfl, nofun⟩

lemma calm_bind {p : Run α} {f : α → Run β} (hp : Calm p) (hf : ∀ a, Calm (f a)) :
    Calm (p >>= f) := by
  intro s
  obtain ⟨hcounter, hsettings, hresult⟩ := hp s
  rw [performed_bind]
  generalize performed p s = r at hcounter hsettings hresult ⊢
  rcases r with ⟨t | a, s'⟩
  · exact ⟨hcounter, hsettings, fun h => hresult (by rw [Except.error.inj h])⟩
  · obtain ⟨hcounter', hsettings', hresult'⟩ := hf a s'
    exact ⟨hcounter'.trans hcounter, hsettings'.trans hsettings, hresult'⟩

lemma calm_discard {p : Run α} (h : Calm p) : Calm (discard p) :=
  calm_bind h fun _ => calm_pure _

lemma calm_ite {c : Prop} [Decidable c] {p q : Run α} (hp : Calm p) (hq : Calm q) :
    Calm (if c then p else q) := by
  split
  · exact hp
  · exact hq

lemma calm_lift {r : Except Trouble α} (h : r ≠ .error .tooOften) : Calm (Run.lift r) := by
  cases r with
  | ok a => exact calm_pure a
  | error t => exact fun s => ⟨rfl, rfl, fun ht => h (by rw [Except.error.inj ht])⟩

lemma calm_draw : Calm draw :=
  fun _ => ⟨rfl, rfl, nofun⟩

lemma calm_wait (ms : Json) : Calm (wait ms) :=
  fun _ => ⟨rfl, rfl, nofun⟩

/-- A page that fails does not refuse a request. -/
lemma calm_call (c : Call) : Calm (call c) := by
  refine calm_bind (fun _ => ⟨rfl, rfl, nofun⟩) fun _ => calm_bind calm_get fun s => ?_
  split
  case h_1 f _ => exact fun _ => ⟨rfl, rfl, fun h => f.foreign (Except.error.inj h)⟩
  case h_2 => exact calm_pure _

lemma need_ne_tooOften (s : Setting) (name : Text) : need s name ≠ .error .tooOften := by
  unfold need
  split <;> nofun

lemma numberOf_ne_tooOften (s : Setting) : numberOf s ≠ .error .tooOften := by
  unfold numberOf
  split <;> nofun

lemma calm_pacing : Calm pacing :=
  calm_bind calm_get fun _ => calm_lift (need_ne_tooOften _ _)

lemma calm_between (low high : Setting) : Calm (between low high) :=
  calm_bind calm_draw fun _ => calm_bind (calm_lift (numberOf_ne_tooOften _)) fun _ =>
    calm_bind (calm_lift (numberOf_ne_tooOften _)) fun _ => calm_pure _

lemma calm_integerBetween (low high : Setting) : Calm (integerBetween low high) :=
  calm_bind (calm_between low high) fun _ => calm_pure _

lemma calm_randomWait (low high : Setting) : Calm (randomWait low high) := by
  have hwait : ∀ low high : Setting, Calm (do wait (← between low high)) := fun low high =>
    calm_bind (calm_between low high) fun _ => calm_wait _
  refine calm_bind calm_pacing fun p => calm_ite ?_ (calm_pure _)
  have hhigh : ∀ low : Setting, Calm (if isOn high then do
      let high ← pure high
      wait (← between low high)
    else do
      let high ← Run.lift (need (look p "random_delay") "max")
      wait (← between low high)) := fun low =>
    calm_ite (calm_bind (calm_pure _) fun _ => hwait _ _)
      (calm_bind (calm_lift (need_ne_tooOften _ _)) fun _ => hwait _ _)
  exact calm_ite (calm_bind (calm_pure _) fun _ => hhigh _)
    (calm_bind (calm_lift (need_ne_tooOften _ _)) fun _ => hhigh _)

lemma calm_scrollTo (height : Setting) (place : Place) : Calm (scrollTo height place) := by
  cases place with
  | top => exact calm_call _
  | middle => exact calm_bind (calm_lift (numberOf_ne_tooOften _)) fun _ => calm_call _
  | bottom => exact calm_call _
  | anywhere => exact fun s => ⟨rfl, rfl, nofun⟩

lemma calm_behaviour : Calm behaviour :=
  calm_bind calm_pacing fun _ => calm_pure _

lemma calm_scroll (height : Setting) : Calm (scroll height) := by
  refine calm_bind calm_behaviour fun b => calm_ite ?_ (calm_pure _)
  refine calm_bind (calm_integerBetween _ _) fun i => ?_
  dsimp only
  split
  · exact calm_bind (calm_scrollTo _ _) fun _ => calm_randomWait _ _
  · exact calm_randomWait _ _

lemma calm_moveTo (endX endY : Binary64) (n : Nat) : Calm (moveTo endX endY n) := by
  induction n with
  | zero => exact calm_pure _
  | succ n ih =>
      exact calm_bind (calm_integerBetween _ _) fun _ => calm_bind (calm_integerBetween _ _)
        fun _ => calm_bind (calm_call _) fun _ => calm_bind (calm_randomWait _ _) fun _ => ih

lemma calm_moveMouse : Calm moveMouse := by
  refine calm_bind calm_behaviour fun b => calm_ite ?_ (calm_pure _)
  exact calm_bind (calm_integerBetween _ _) fun _ => calm_bind (calm_integerBetween _ _) fun _ =>
    calm_bind (calm_integerBetween _ _) fun _ => calm_moveTo _ _ _

lemma calm_hasItems (s : Setting) : Calm (Run.lift (hasItems s)) := by
  refine calm_lift fun h => ?_
  unfold hasItems at h
  split_ifs at h
  · have hnumber := numberOf_ne_tooOften (look s "length")
    generalize numberOf (look s "length") = r at h hnumber
    cases r with
    | ok x => cases h
    | error t =>
        cases h
        exact hnumber rfl
  · cases h

lemma calm_randomItem (s : Setting) : Calm (randomItem s) :=
  calm_bind (calm_integerBetween _ _) fun _ => calm_pure _

lemma calm_userAgent : Calm userAgent := by
  refine calm_bind calm_pacing fun p => ?_
  refine calm_ite (calm_bind calm_get fun _ => calm_pure _) ?_
  exact calm_bind (calm_hasItems _) fun _ => calm_ite (calm_randomItem _) (calm_randomItem _)

lemma calm_proxy : Calm proxy := by
  refine calm_bind calm_pacing fun p => calm_ite (calm_pure _) ?_
  exact calm_bind (calm_hasItems _) fun _ => calm_ite (calm_randomItem _) (calm_pure _)

lemma calm_statistics : Calm statistics := by
  have hwritten : ∀ moment, written? moment ≠ .error .tooOften := by
    intro moment
    unfold written?
    split <;> nofun
  exact calm_bind calm_get fun _ => calm_bind (calm_lift (hwritten _)) fun _ =>
    calm_bind (calm_lift (hwritten _)) fun _ => calm_pure _

/-! ## Checks and visits under limits -/

/-- A setting that stands for a positive integer. -/
structure IsLimit (s : Setting) (n : ℕ) : Prop where
  pos : 0 < n
  isOn : isOn s = true
  number : ∃ x, numberOf s = .ok x ∧ x.toInt? = some n

/-- Pacing is switched on, with limits for each minute and each hour. -/
structure Limited (settings : Json) (perMinute perHour : ℕ) : Prop where
  paced : isPaced (look (some settings) "anti_crawl") = true
  minute : IsLimit (look (look (look (some settings) "anti_crawl") "rate_limit")
    "max_requests_per_minute") perMinute
  hour : IsLimit (look (look (look (some settings) "anti_crawl") "rate_limit")
    "max_requests_per_hour") perHour

/-- What has a part is something. -/
lemma need_of_ne_null {v : Json} (h : v ≠ .null) (name : Text) :
    need (some v) name = .ok (look (some v) name) := by
  unfold need
  split
  case h_1 hnone => cases hnone
  case h_2 hnull => exact absurd (Option.some.inj hnull) h
  case h_3 => rfl

lemma need_eq_look {s : Setting} {name : Text} (h : look s name ≠ none) :
    need s name = .ok (look s name) := by
  cases s with
  | none => exact absurd rfl h
  | some v =>
      refine need_of_ne_null ?_ name
      rintro rfl
      exact h rfl

lemma isReached_of_isLimit {limit : Setting} {n : ℕ} (h : IsLimit limit n) (count : ℕ) :
    isReached count limit = .ok (decide (n ≤ count)) := by
  obtain ⟨x, hx, hn⟩ := h.number
  obtain ⟨s, m, e, rfl, hvalue⟩ := Binary64.exists_of_toInt? hn
  unfold isReached
  rw [if_pos h.isOn, hx]
  have hle : (Binary64.finite s m e).le (.finite false count 0) = decide (n ≤ count) := by
    rw [Bool.eq_iff_iff, Binary64.le_iff rfl rfl, decide_eq_true_iff]
    have hcount : Binary64.value false count 0 = count := by
      simp [Binary64.value, Binary64.signed]
    norm_cast
    rw [hvalue, hcount]
    norm_cast
  show Except.ok _ = _
  rw [hle]

/-- The session after a check: the counter is rolled, and a line may be added to the log. -/
def Session.checked (s : Session) (log : List Text) : Session :=
  { s with counter := s.counter.roll s.clock, log }

section

variable {perMinute perHour : ℕ} {s : Session}

/-- Where pacing is switched on, its settings are found. -/
lemma performed_pacing_of_isPaced (h : isPaced (look (some s.settings) "anti_crawl") = true) :
    performed pacing s = (.ok (look (some s.settings) "anti_crawl"), s) := by
  refine performed_lift_ok (need_eq_look fun hnone => ?_) s
  rw [hnone] at h
  cases h

lemma performed_pacing (h : Limited s.settings perMinute perHour) :
    performed pacing s = (.ok (look (some s.settings) "anti_crawl"), s) :=
  performed_pacing_of_isPaced h.paced

/-- **A check rolls the counter and compares it with the limits.** -/
lemma performed_admits (h : Limited s.settings perMinute perHour) :
    ∃ log, performed admits s = (.ok (decide ((s.counter.roll s.clock).minute < perMinute ∧
      (s.counter.roll s.clock).hour < perHour)), s.checked log) := by
  have hminute : look (look (look (some s.settings) "anti_crawl") "rate_limit")
      "max_requests_per_minute" ≠ none := by
    intro hnone
    have hon := h.minute.isOn
    rw [hnone] at hon
    cases hon
  unfold admits
  rw [performed_bind_of_ok (performed_pacing h), h.paced, if_neg (by decide)]
  change ∃ log, performed (Run.lift (need _ _) >>= _) (s.checked s.log) = _
  rw [performed_bind_of_ok (performed_lift_ok (need_eq_look hminute) _),
    performed_bind_of_ok (performed_lift_ok (isReached_of_isLimit h.minute _) _)]
  by_cases hreached : perMinute ≤ (s.counter.roll s.clock).minute
  · rw [decide_eq_true hreached, if_pos rfl, decide_eq_false (by omega)]
    exact ⟨_, rfl⟩
  · rw [decide_eq_false hreached, if_neg (by decide),
      performed_bind_of_ok (performed_lift_ok (isReached_of_isLimit h.hour _) _)]
    by_cases hreached' : perHour ≤ (s.counter.roll s.clock).hour
    · rw [decide_eq_true hreached', if_pos rfl, decide_eq_false (by omega)]
      exact ⟨_, rfl⟩
    · rw [decide_eq_false hreached', if_neg (by decide), decide_eq_true (by omega)]
      exact ⟨_, rfl⟩

/-- **A refusal does nothing beside the check.** -/
lemma performed_visit_of_refused (h : Limited s.settings perMinute perHour)
    (hrefused : ¬((s.counter.roll s.clock).minute < perMinute ∧
      (s.counter.roll s.clock).hour < perHour)) (url height options : Setting) :
    performed (visit url height options) s = (.error .tooOften, (performed admits s).2) := by
  obtain ⟨log, hadmits⟩ := performed_admits h
  unfold visit
  rw [performed_bind_of_ok (performed_pacing h), performed_bind_of_ok hadmits, hadmits,
    decide_eq_false hrefused]
  rfl

/-- What follows when a visit was counted: nothing of it counts or refuses. -/
lemma calm_afterCount (url height options : Setting) : Calm (do
    randomWait none none
    scroll height
    moveMouse
    let options := options.getD (.obj [])
    let timeout ← Run.lift (need (some options) "timeout")
    let timeout := (orElse timeout (numeral 30000)).getD .null
    call (.goto url (.obj [("waitUntil".toList, "networkidle"), ("timeout".toList, timeout)]))
    return (Json.str "response")) :=
  calm_bind (calm_randomWait _ _) fun _ => calm_bind (calm_scroll _) fun _ =>
    calm_bind calm_moveMouse fun _ => calm_bind (calm_lift (need_ne_tooOften _ _)) fun _ =>
    calm_bind (calm_call _) fun _ => calm_pure _

lemma performed_countRequest_of_isPaced
    (h : isPaced (look (some s.settings) "anti_crawl") = true) :
    ∃ log, performed countRequest s =
      (.ok (), { s with counter := s.counter.increment, log }) := by
  unfold countRequest
  rw [performed_bind_of_ok (performed_pacing_of_isPaced h), if_pos h]
  exact ⟨_, rfl⟩

lemma performed_countRequest (h : Limited s.settings perMinute perHour) :
    ∃ log, performed countRequest s =
      (.ok (), { s with counter := s.counter.increment, log }) :=
  performed_countRequest_of_isPaced h.paced

/-- **An admitted visit is counted once**, be it that the page fails afterwards. -/
lemma visit_of_admitted (h : Limited s.settings perMinute perHour)
    (hadmitted : (s.counter.roll s.clock).minute < perMinute ∧
      (s.counter.roll s.clock).hour < perHour) (url height options : Setting) :
    (performed (visit url height options) s).1 ≠ .error .tooOften ∧
      (performed (visit url height options) s).2.counter =
        (s.counter.roll s.clock).increment ∧
      (performed (visit url height options) s).2.settings = s.settings := by
  obtain ⟨log, hadmits⟩ := performed_admits h
  have hsettings : Limited (s.checked log).settings perMinute perHour := h
  obtain ⟨log', hcount⟩ := performed_countRequest hsettings
  unfold visit
  rw [performed_bind_of_ok (performed_pacing h), performed_bind_of_ok hadmits,
    decide_eq_true hadmitted]
  change (performed (countRequest >>= _) _).1 ≠ _ ∧
    (performed (countRequest >>= _) _).2.counter = _ ∧
    (performed (countRequest >>= _) _).2.settings = _
  rw [performed_bind_of_ok hcount]
  obtain ⟨hcounter, hkept, hresult⟩ := calm_afterCount url height options
    { s.checked log with counter := (s.checked log).counter.increment, log := log' }
  exact ⟨hresult, hcounter, hkept⟩

end

end Gleaner.Crawl
