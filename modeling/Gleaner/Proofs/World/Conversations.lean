import Gleaner.Proofs.World.Exchanges

/-!
# Conversations

Where it matters what a program makes of the answers, it is seen as one side of a conversation.
`Converses p w Q` says that `p`, started in `w`, asks and does not wait, and that `Q` holds of what
it heard and of how it ended.  There is a rule for each effect and for each way of putting programs
together; `converses_bind` puts two conversations one behind the other.

`Asks w rs w'` is the relation of worlds below it: the requests `rs` lead from `w` to `w'`, and they
are all that was added to the record.
-/

namespace Gleaner

variable {α β : Type}

/-- A run from `w` to `w'` has made the requests `rs` and has not waited. -/
structure Asks (w : World) (rs : List Request) (w' : World) : Prop extends Heard w rs w' where
  deeds : w'.deeds = w.deeds ++ rs.map Deed.asked

lemma Asks.trans {w w₁ w₂ : World} {rs rs' : List Request} (h : Asks w rs w₁)
    (h' : Asks w₁ rs' w₂) : Asks w (rs ++ rs') w₂ := by
  refine ⟨h.toHeard.trans h'.toHeard, ?_⟩
  rw [h'.deeds, h.deeds, List.map_append, List.append_assoc]

lemma Asks.of_printed {w w' : World} (h : Printed w w') : Asks w [] w' := by
  rw [Printed] at h
  rw [h]
  exact ⟨⟨(List.append_nil _).symm, rfl, rfl⟩, (List.append_nil _).symm⟩

/-- What is heard later follows what was heard before. -/
lemma Asks.exchanges_append {w w₁ : World} {rs : List Request} (h : Asks w rs w₁)
    (rs' : List Request) :
    w.exchanges (rs ++ rs') = w.exchanges rs ++ w₁.exchanges rs' := by
  rw [Gleaner.exchanges_append, h.exchanges_eq]

lemma exchanges_eq_nil {w : World} {rs : List Request} : w.exchanges rs = [] ↔ rs = [] := by
  cases rs <;> simp [World.exchanges]

/-- How a request ends, by its answer. -/
def Page.result : Page → Except Stop Reply
  | .reply r => .ok r
  | .failure cause message => .error (.fault (.transport cause message))

lemma Page.result_eq_ok_iff {page : Page} {r : Reply} : page.result = .ok r ↔ page = .reply r := by
  cases page <;> simp [Page.result]

lemma Page.failure_of_result {page : Page} {e : Stop} (h : page.result = .error e) :
    ∃ cause message, page = .failure cause message ∧ e = .fault (.transport cause message) := by
  cases page with
  | reply r => cases h
  | failure cause message => exact ⟨cause, message, rfl, (Except.error.inj h).symm⟩

/-- A program asks and does not wait; what it heard and how it ended have a property. -/
def Converses (p : Program α) (w : World)
    (Q : List (Request × Page) → Except Stop α → Prop) : Prop :=
  ∃ rs, Asks w rs (outcome p w).2 ∧ Q (w.exchanges rs) (outcome p w).1

section

variable {p : Program α} {f : α → Program β} {w : World}
  {P : List (Request × Page) → Except Stop α → Prop}
  {Q : List (Request × Page) → Except Stop β → Prop}

/-- A program that only prints hears nothing. -/
lemma converses_of_printed (hw : Printed w (outcome p w).2) (h : P [] (outcome p w).1) :
    Converses p w P :=
  ⟨[], .of_printed hw, h⟩

lemma converses_pure {a : α} (h : P [] (.ok a)) : Converses (pure a) w P :=
  converses_of_printed rfl h

/-- **Two conversations, one behind the other.** -/
lemma converses_bind (hp : Converses p w P)
    (hok : ∀ heard a v, P heard (.ok a) → Converses (f a) v fun more r => Q (heard ++ more) r)
    (hstop : ∀ heard e, P heard (.error e) → Q heard (.error e)) : Converses (p >>= f) w Q := by
  obtain ⟨rs, hasks, hr⟩ := hp
  rw [Converses, outcome_bind]
  generalize outcome p w = r at hasks hr
  rcases r with ⟨e | a, v⟩
  · exact ⟨rs, hasks, hstop _ e hr⟩
  · obtain ⟨rs', hasks', hr'⟩ := hok _ a v hr
    refine ⟨rs ++ rs', hasks.trans hasks', ?_⟩
    rw [hasks.exchanges_append]
    exact hr'

/-- What is printed is not heard. -/
lemma converses_say_bind {g : Unit → Program β} {parts : List Text}
    (h : ∀ v, Converses (g ()) v Q) : Converses (say parts >>= g) w Q := by
  obtain ⟨v, hprinted, hrun⟩ := exists_outcome_say_bind parts g w
  obtain ⟨rs, hasks, hr⟩ := h v
  have hfirst := Asks.of_printed hprinted
  have hexchanges : w.exchanges rs = v.exchanges rs := hfirst.exchanges_append rs
  rw [Converses, hrun]
  exact ⟨rs, hfirst.trans hasks, by rwa [hexchanges]⟩

lemma converses_lift_bind {r : Except Fault α} (hok : ∀ a, r = .ok a → Converses (f a) w Q)
    (hbad : ∀ e, r = .error e → Q [] (.error (.fault e))) :
    Converses (Program.lift r >>= f) w Q := by
  cases r with
  | error e => exact converses_of_printed rfl (hbad e rfl)
  | ok a => exact hok a rfl

/-- **A request is heard with its answer.** -/
lemma converses_ask (r : Request) (w : World) : Converses (ask r.address? r) w fun heard result =>
    heard = [(r, w.answer r)] ∧ result = (w.answer r).result := by
  refine ⟨[r], ⟨((Heard.refl w).ask r).1, ?_⟩, rfl, ?_⟩
  · rw [snd_outcome_ask]
    rfl
  · rw [outcome_ask, World.answer]
    cases (nextPage w r.address?).1 <;> rfl

lemma converses_fetch (url : Json) (timeout : Nat) (w : World) :
    Converses (fetch url timeout) w fun heard result =>
      heard = [(.get url timeout, w.answer (.get url timeout))] ∧
        result = (w.answer (.get url timeout)).result := by
  rw [fetch_eq_ask]
  exact converses_ask _ w

/-- An attempt hears the same and shows a fault as a value. -/
lemma converses_attempt {Q : List (Request × Page) → Except Stop (Except Fault α) → Prop}
    (hp : Converses p w P) (hok : ∀ heard a, P heard (.ok a) → Q heard (.ok (.ok a)))
    (hfault : ∀ heard e, P heard (.error (.fault e)) → Q heard (.ok (.error e)))
    (hexit : ∀ heard code, P heard (.error (.exit code)) → Q heard (.error (.exit code))) :
    Converses (Program.attempt p) w Q := by
  obtain ⟨rs, hasks, hr⟩ := hp
  rw [Converses, outcome_attempt]
  generalize outcome p w = r at hasks hr
  rcases r with ⟨(e | code) | a, v⟩
  · exact ⟨rs, hasks, hfault _ e hr⟩
  · exact ⟨rs, hasks, hexit _ code hr⟩
  · exact ⟨rs, hasks, hok _ a hr⟩

/-- What an attempt to get a page ends with. -/
def Page.received : Page → Except Fault Reply
  | .reply r => .ok r
  | .failure cause message => .error (.transport cause message)

lemma converses_attempt_fetch (url : Json) (timeout : Nat) (w : World) :
    Converses (Program.attempt (fetch url timeout)) w fun heard result => ∃ page,
      heard = [(.get url timeout, page)] ∧ result = .ok page.received := by
  refine converses_attempt (converses_fetch url timeout w) ?_ ?_ ?_
  · rintro heard reply ⟨rfl, hreply⟩
    rw [Page.result_eq_ok_iff.1 hreply.symm]
    exact ⟨_, rfl, rfl⟩
  · rintro heard e ⟨rfl, he⟩
    obtain ⟨cause, message, hpage, hfault⟩ := Page.failure_of_result he.symm
    cases hfault
    rw [hpage]
    exact ⟨_, rfl, rfl⟩
  · rintro heard code ⟨-, he⟩
    obtain ⟨cause, message, -, hexit⟩ := Page.failure_of_result he.symm
    cases hexit

/-- Files are written without a word. -/
lemma converses_writeFile [Platform] (path t : Text) (w : World) :
    Converses (writeFile path t) w fun heard result =>
      heard = [] ∧ (result = .ok () ∨ ∃ e, result = .error (.fault e)) := by
  refine ⟨[], ⟨unasked_writeFile path t w, ?_⟩, rfl, ?_⟩
  · rw [outcome_writeFile, List.map_nil, List.append_nil]
    cases Platform.judged path <;> cases w.files.write path (Platform.held t) <;> rfl
  · have hjudged (t : Text) : Platform.judged t = .ok () ∨
        ∃ e, Platform.judged t = .error (.fault e) := by
      rw [Platform.judged]
      cases Platform.refusal t with
      | none => exact .inl rfl
      | some notice => exact .inr ⟨_, rfl⟩
    rw [outcome_writeFile]
    rcases hjudged path with h | ⟨e, h⟩
    · rw [h]
      cases w.files.write path (Platform.held t) with
      | error e => exact .inr ⟨e, rfl⟩
      | ok files => exact hjudged t
    · rw [h]
      exact .inr ⟨e, rfl⟩

end

end Gleaner
