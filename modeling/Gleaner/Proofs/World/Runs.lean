import Gleaner.Proofs.Json.Drafts
import Gleaner.World.Basic
import Mathlib

/-!
# Runs of programs

A program is a function on worlds.  Four views of its runs are used in proofs.

**Runs that end.**  `Ends p w a w'` says that `p`, started in `w`, ends with the value `a` in the
world `w'`.  Each way of putting programs together has an equivalence that takes such a run apart
(`ends_bind`, `ends_lift`, `ends_attempt` and so on); read from right to left it puts a run
together.

**Runs that only print.**  `Prints p w a` says that `p` ends with the value `a`, and that the world
it leaves differs from `w` in the printed text alone.

**Runs of any kind.**  `Keeps R p` says that whatever happens, the world after `p` is related to the
world before it.  For a preorder `R` it passes through every construction, so that what a long
program keeps follows from what its effects keep.  A property of the last world is carried through a
program by `after_bind`, and past the parts that keep enough by `after_bind_of_keeps` and
`after_then`.

**Runs that do not stop.**  `Returns p` says that `p` ends with a value wherever it starts.
-/

namespace Gleaner

variable {α β : Type}

/-- How a run ends, and the world that it leaves. -/
def outcome (p : Program α) (w : World) : Except Stop α × World :=
  p.run.run w

lemma outcome_bind (p : Program α) (f : α → Program β) (w : World) :
    outcome (p >>= f) w =
      match outcome p w with
      | (.ok a, w') => outcome (f a) w'
      | (.error e, w') => (.error e, w') := by
  unfold outcome
  rw [ExceptT.run_bind, StateT.run_bind]
  rcases p.run.run w with ⟨_ | _, _⟩ <;> rfl

lemma outcome_attempt (p : Program α) (w : World) :
    outcome (Program.attempt p) w =
      match outcome p w with
      | (.ok a, w') => (.ok (.ok a), w')
      | (.error (.fault f), w') => (.ok (.error f), w')
      | (.error (.exit code), w') => (.error (.exit code), w') := by
  unfold outcome Program.attempt
  rw [ExceptT.run_mk, StateT.run_bind]
  rcases p.run.run w with ⟨(_ | _) | _, _⟩ <;> rfl

lemma snd_outcome_attempt (p : Program α) (w : World) :
    (outcome (Program.attempt p) w).2 = (outcome p w).2 := by
  rw [outcome_attempt]
  rcases outcome p w with ⟨(_ | _) | _, _⟩ <;> rfl

/-- A request is recorded, and ends as the page says that the address answers. -/
lemma outcome_ask (address : Option Text) (r : Request) (w : World) :
    outcome (ask address r) w =
      (match (nextPage w address).1 with
        | .reply reply => .ok reply
        | .failure cause message => .error (.fault (.transport cause message)),
      { w with pages := (nextPage w address).2, deeds := w.deeds ++ [Deed.asked r] }) := by
  unfold ask
  rw [outcome_bind, show outcome get w = (.ok w, w) from rfl]
  dsimp only
  rcases nextPage w address with ⟨_ | _, pages⟩ <;> rfl

/-- A request is recorded whatever the address answers. -/
lemma snd_outcome_ask (address : Option Text) (r : Request) (w : World) :
    (outcome (ask address r) w).2 =
      { w with pages := (nextPage w address).2, deeds := w.deeds ++ [Deed.asked r] } := by
  rw [outcome_ask]

/-- A file is written, or nothing changes. -/
lemma outcome_writeDocument (path t : Text) (w : World) :
    outcome (writeDocument path t) w =
      match w.files.write path t with
      | .ok files => (.ok (), { w with files := files })
      | .error f => (.error (.fault f), w) := by
  have hwrite : outcome (writeDocument path t) w =
      outcome (Program.lift (w.files.write path t) >>= fun files =>
        modify fun w => { w with files := files }) w := rfl
  rw [hwrite]
  rcases w.files.write path t with _ | _ <;> rfl

section

variable [Platform]

lemma held_of_refusal_eq_none {t : Text} (h : Platform.refusal t = none) : Platform.held t = t := by
  rw [Platform.held, h, Option.isNone_none, if_pos rfl]

/-- How the writing of a text ends that no file can hold, or can. -/
def Platform.judged (t : Text) : Except Stop Unit :=
  match Platform.refusal t with
  | none => .ok ()
  | some notice => .error (.fault (.unencodable notice))

lemma outcome_requireHeld (t : Text) (w : World) :
    outcome (requireHeld t) w = (Platform.judged t, w) := by
  rw [requireHeld, Platform.judged]
  cases Platform.refusal t <;> rfl

/-- A text is written to its file, or is refused once the file is empty, or nothing changes. -/
lemma outcome_writeFile (path t : Text) (w : World) :
    outcome (writeFile path t) w =
      match Platform.judged path, w.files.write path (Platform.held t) with
      | .ok _, .ok files => (Platform.judged t, { w with files := files })
      | .ok _, .error f => (.error (.fault f), w)
      | .error e, _ => (.error e, w) := by
  rw [writeFile, outcome_bind, outcome_requireHeld]
  cases Platform.judged path with
  | error e => rfl
  | ok u =>
      dsimp only
      rw [outcome_bind, outcome_writeDocument]
      cases w.files.write path (Platform.held t) with
      | error f => rfl
      | ok files => exact outcome_requireHeld t _

/-- The files are as they were, or as after what the file holds was written. -/
lemma snd_outcome_writeFile (path t : Text) (w : World) :
    (outcome (writeFile path t) w).2 = w ∨
      (outcome (writeFile path t) w).2 = (outcome (writeDocument path (Platform.held t)) w).2 := by
  rw [outcome_writeFile, outcome_writeDocument]
  cases Platform.judged path with
  | error e => exact .inl rfl
  | ok u => cases w.files.write path (Platform.held t) <;> exact .inr rfl

/-- A value is written to its file, or as far as there is room, or nothing changes. -/
lemma outcome_storeValue (path : Text) (v : Json) (w : World) :
    outcome (storeValue path v) w =
      match w.files.write path (Json.draft Json.stored Platform.writeRoom v).text with
      | .ok files =>
          (if v.nesting ≤ Platform.writeRoom then .ok () else .error (.fault .deepValue),
            { w with files := files })
      | .error f => (.error (.fault f), w) := by
  rw [storeValue, outcome_bind, outcome_writeDocument]
  rcases w.files.write path _ with _ | _
  · rfl
  · by_cases h : v.nesting ≤ Platform.writeRoom
    · rw [if_pos h, (Json.isFinished_draft Json.stored Platform.writeRoom).2 h]
      rfl
    · rw [if_neg h, Bool.eq_false_iff.2 (mt (Json.isFinished_draft Json.stored _).1 h)]
      rfl

/-- A value for which there is room is written whole. -/
lemma outcome_storeValue_of_nesting_le {v : Json} (h : v.nesting ≤ Platform.writeRoom)
    (path : Text) (w : World) :
    outcome (storeValue path v) w =
      outcome (writeDocument path (Json.write Json.stored v)) w := by
  rw [outcome_storeValue, outcome_writeDocument, Json.text_draft_of_nesting_le h, if_pos h]

lemma snd_outcome_storeValue (path : Text) (v : Json) (w : World) :
    (outcome (storeValue path v) w).2 =
      (outcome (writeDocument path (Json.draft Json.stored Platform.writeRoom v).text) w).2 := by
  rw [outcome_storeValue, outcome_writeDocument]
  rcases w.files.write path _ with _ | _ <;> rfl

end

lemma outcome_ensureFolder (path : Text) (w : World) :
    outcome (ensureFolder path) w =
      match w.files.makeFolder path with
      | .ok files => (.ok (), { w with files := files })
      | .error f => (.error (.fault f), w) := by
  have hmake : outcome (ensureFolder path) w =
      outcome (Program.lift (w.files.makeFolder path) >>= fun files =>
        modify fun w => { w with files := files }) w := rfl
  rw [hmake]
  rcases w.files.makeFolder path with _ | _ <;> rfl

/-! ## Runs that end -/

/-- A run that ends with a value. -/
def Ends (p : Program α) (w : World) (a : α) (w' : World) : Prop :=
  outcome p w = (.ok a, w')

section

variable {w w' : World}

/-- A program has one run from a world. -/
lemma Ends.unique {p : Program α} {a b : α} {w₁ w₂ : World} (h₁ : Ends p w a w₁)
    (h₂ : Ends p w b w₂) : a = b ∧ w₁ = w₂ := by
  have heq := h₁.symm.trans h₂
  exact ⟨Except.ok.inj (Prod.mk.inj heq).1, (Prod.mk.inj heq).2⟩

/-- A run whose value was computed. -/
lemma exists_ends_of_toOption {p : Program α} {a : α} (h : (outcome p w).1.toOption = some a) :
    ∃ w', Ends p w a w' ∧ (outcome p w).2 = w' := by
  unfold Ends
  generalize outcome p w = r at h
  rcases r with ⟨_ | _, w'⟩
  · cases h
  · cases h
    exact ⟨w', rfl, rfl⟩

lemma ends_pure {a b : α} : Ends (pure a) w b w' ↔ a = b ∧ w = w' := by
  show ((Except.ok a : Except Stop α), w) = (.ok b, w') ↔ _
  simp

lemma ends_bind {p : Program α} {f : α → Program β} {b : β} :
    Ends (p >>= f) w b w' ↔ ∃ a w₁, Ends p w a w₁ ∧ Ends (f a) w₁ b w' := by
  unfold Ends
  rw [outcome_bind]
  rcases outcome p w with ⟨_ | a, w₁⟩ <;> simp

/-- What follows a run that has ended goes on from its world. -/
lemma Ends.outcome_bind {p : Program α} {a : α} (h : Ends p w a w') (f : α → Program β) :
    outcome (p >>= f) w = outcome (f a) w' := by
  rw [Gleaner.outcome_bind, h]

lemma ends_discard {p : Program α} {u : Unit} :
    Ends (discard p) w u w' ↔ ∃ a, Ends p w a w' := by
  have hdiscard : (discard p : Program Unit) = p >>= fun _ => pure () := rfl
  simp only [hdiscard, ends_bind, ends_pure, true_and, exists_eq_right]

lemma not_ends_fail {f : Fault} {a : α} : ¬Ends (Program.fail f) w a w' := by
  show ¬((Except.error (.fault f) : Except Stop α), w) = (.ok a, w')
  simp

lemma ends_lift {r : Except Fault α} {a : α} :
    Ends (Program.lift r) w a w' ↔ r = .ok a ∧ w = w' := by
  cases r with
  | error f => simp [Program.lift, not_ends_fail]
  | ok b => simp [Program.lift, ends_pure]

lemma ends_lift_bind {r : Except Fault α} {a : α} (hr : r = .ok a) {f : α → Program β} {b : β} :
    Ends (Program.lift r >>= f) w b w' ↔ Ends (f a) w b w' := by
  subst hr
  rfl

/-- What follows a computation goes on from its value. -/
lemma exists_of_lift_bind {r : Except Fault α} {f : α → Program β} {b : β}
    (h : Ends (Program.lift r >>= f) w b w') : ∃ a, r = .ok a ∧ Ends (f a) w b w' := by
  obtain ⟨a, v, hlift, h⟩ := ends_bind.1 h
  obtain ⟨hr, rfl⟩ := ends_lift.1 hlift
  exact ⟨a, hr, h⟩

/-- A computation that gives a value is this value. -/
lemma lift_bind_eq {r : Except Fault α} {a : α} (hr : r = .ok a) (f : α → Program β) :
    Program.lift r >>= f = f a := by
  subst hr
  rfl

/-- An attempt ends with the value of a run, or with the fault that stopped it. -/
lemma ends_attempt {p : Program α} {r : Except Fault α} :
    Ends (Program.attempt p) w r w' ↔
      (∃ a, r = .ok a ∧ Ends p w a w') ∨
        ∃ f, r = .error f ∧ outcome p w = (.error (.fault f), w') := by
  unfold Ends
  rw [outcome_attempt]
  rcases outcome p w with ⟨(f | code) | a, w₁⟩ <;> simp [eq_comm]

lemma Ends.of_attempt {p : Program α} {a : α} (h : Ends (Program.attempt p) w (.ok a) w') :
    Ends p w a w' := by
  rcases ends_attempt.1 h with ⟨_, hok, hp⟩ | ⟨_, hbad, -⟩
  · cases hok
    exact hp
  · cases hbad

lemma ends_print {parts : List Text} {u : Unit} :
    Ends (print parts) w u w' ↔ { w with out := w.out ++ parts.flatten } = w' := by
  show ((Except.ok () : Except Stop Unit), { w with out := w.out ++ parts.flatten })
    = (.ok u, w') ↔ _
  simp

lemma ends_say {parts : List Text} {u : Unit} :
    Ends (say parts) w u w' ↔
      { w with out := w.out ++ (parts ++ [['\n']]).flatten } = w' :=
  ends_print

lemma ends_fileExists {path : Text} {b : Bool} :
    Ends (fileExists path) w b w' ↔ w.files.present path = .ok b ∧ w = w' :=
  ends_lift

lemma ends_readFile {path t : Text} :
    Ends (readFile path) w t w' ↔ w.files.read path = .ok t ∧ w = w' :=
  ends_lift

/-- A text is written if it is not refused. -/
lemma ends_writeFile [Platform] {path t : Text} {u : Unit} :
    Ends (writeFile path t) w u w' ↔
      Platform.refusal path = none ∧ Platform.refusal t = none ∧
        ∃ files, w.files.write path t = .ok files ∧ { w with files := files } = w' := by
  unfold Ends
  rw [outcome_writeFile, Platform.judged, Platform.judged]
  cases Platform.refusal path with
  | some notice => simp
  | none =>
      cases h : Platform.refusal t with
      | none =>
          rw [held_of_refusal_eq_none h]
          rcases w.files.write path t with _ | _ <;> simp
      | some notice => rcases w.files.write path (Platform.held t) with _ | _ <;> simp

/-- A value is written if there is room for it. -/
lemma ends_storeValue [Platform] {path : Text} {v : Json} {u : Unit} :
    Ends (storeValue path v) w u w' ↔
      v.nesting ≤ Platform.writeRoom ∧
        ∃ files, w.files.write path (Json.write Json.stored v) = .ok files ∧
          { w with files := files } = w' := by
  unfold Ends
  rw [outcome_storeValue]
  by_cases h : v.nesting ≤ Platform.writeRoom
  · rw [Json.text_draft_of_nesting_le h, if_pos h]
    rcases w.files.write path _ with _ | _ <;> simp [h]
  · rw [if_neg h]
    rcases w.files.write path (Json.draft _ _ _).text with _ | _ <;> simp [h]

end

/-- What follows a printed line is run in a world with the same files. -/
lemma exists_of_say_bind {parts : List Text} {f : Unit → Program β} {w w' : World} {b : β}
    {fs : Files} (hw : w.files = fs) (h : Ends (say parts >>= f) w b w') :
    ∃ v, v.files = fs ∧ Ends (f ()) v b w' := by
  obtain ⟨_, v, hsay, h⟩ := ends_bind.1 h
  refine ⟨v, ?_, h⟩
  rw [← ends_say.1 hsay]
  exact hw

/-! ## Runs that only print -/

/-- Two worlds differ in what was printed at most. -/
def Printed (w w' : World) : Prop :=
  w' = { w with out := w'.out }

instance : IsPreorder World Printed where
  refl _ := rfl
  trans _ _ _ h h' := by
    rw [Printed] at h h' ⊢
    rw [h', h]

lemma Printed.files {w w' : World} (h : Printed w w') : w'.files = w.files := by
  rw [h]

lemma Printed.deeds {w w' : World} (h : Printed w w') : w'.deeds = w.deeds := by
  rw [h]

/-- What follows a printed text goes on from a world that differs in the printed text alone. -/
lemma exists_outcome_print_bind (parts : List Text) (f : Unit → Program β) (w : World) :
    ∃ v, Printed w v ∧ outcome (print parts >>= f) w = outcome (f ()) v :=
  ⟨{ w with out := w.out ++ parts.flatten }, rfl, rfl⟩

lemma exists_outcome_say_bind (parts : List Text) (f : Unit → Program β) (w : World) :
    ∃ v, Printed w v ∧ outcome (say parts >>= f) w = outcome (f ()) v :=
  exists_outcome_print_bind _ f w

/-- A run that ends with a value and does nothing but print. -/
def Prints (p : Program α) (w : World) (a : α) : Prop :=
  ∃ w', Ends p w a w' ∧ Printed w w'

lemma prints_pure (a : α) (w : World) : Prints (pure a) w a :=
  ⟨w, ends_pure.2 ⟨rfl, rfl⟩, refl_of Printed w⟩

/-- A line is printed; what follows is run in a world with the same files. -/
lemma prints_say_bind {parts : List Text} {f : Unit → Program β} {w : World} {b : β} {fs : Files}
    (hw : w.files = fs) (h : ∀ v, v.files = fs → Prints (f ()) v b) :
    Prints (say parts >>= f) w b := by
  obtain ⟨w', hends, hprinted⟩ := h { w with out := w.out ++ (parts ++ [['\n']]).flatten } hw
  refine ⟨w', ends_bind.2 ⟨(), _, ends_say.2 rfl, hends⟩, ?_⟩
  rw [Printed] at hprinted ⊢
  rw [hprinted]

lemma prints_bind {p : Program α} {f : α → Program β} {w : World} {a : α} {b : β}
    (hp : Ends p w a w) (hf : Prints (f a) w b) : Prints (p >>= f) w b := by
  obtain ⟨w', hends, hprinted⟩ := hf
  exact ⟨w', ends_bind.2 ⟨a, w, hp, hends⟩, hprinted⟩

/-- A run that stops with a fault and does nothing but print before. -/
def Stops (p : Program α) (w : World) (f : Fault) : Prop :=
  ∃ w', outcome p w = (.error (.fault f), w') ∧ Printed w w'

lemma stops_bind {p : Program α} {w : World} {f : Fault} (h : Stops p w f) (g : α → Program β) :
    Stops (p >>= g) w f := by
  obtain ⟨w', hstop, hprinted⟩ := h
  exact ⟨w', by rw [outcome_bind, hstop], hprinted⟩

/-- A list of runs that change nothing. -/
lemma forall₂_of_ends_mapM {p : α → Program β} {w : World}
    (hstill : ∀ a b w', Ends (p a) w b w' → w' = w) :
    ∀ {as : List α} {bs : List β} {w' : World}, Ends (as.mapM p) w bs w' →
      w' = w ∧ List.Forall₂ (fun a b => Ends (p a) w b w) as bs := by
  intro as
  induction as with
  | nil =>
      intro bs w' h
      obtain ⟨rfl, rfl⟩ := ends_pure.1 h
      exact ⟨rfl, .nil⟩
  | cons a as ih =>
      intro bs w' h
      rw [List.mapM_cons, ends_bind] at h
      obtain ⟨b, w₁, hb, h⟩ := h
      obtain rfl := hstill a b w₁ hb
      rw [ends_bind] at h
      obtain ⟨bs', w₂, hbs, h⟩ := h
      obtain ⟨rfl, rfl⟩ := ends_pure.1 h
      obtain ⟨hw₂, hall⟩ := ih hbs
      exact ⟨hw₂, .cons hb hall⟩

lemma ends_mapM_of_forall {p : α → Program β} {w : World} {b : β} :
    ∀ {as : List α}, (∀ a ∈ as, Ends (p a) w b w) →
      Ends (as.mapM p) w (List.replicate as.length b) w := by
  intro as
  induction as with
  | nil => exact fun _ => ends_pure.2 ⟨rfl, rfl⟩
  | cons a as ih =>
      intro h
      rw [List.mapM_cons]
      exact ends_bind.2 ⟨b, w, h a (by simp), ends_bind.2 ⟨_, w, ih fun c hc => h c (by simp [hc]),
        ends_pure.2 ⟨rfl, rfl⟩⟩⟩

/-! ## Runs of any kind -/

/-- Whatever happens, the world after a program is related to the world before it. -/
def Keeps (R : World → World → Prop) (p : Program α) : Prop :=
  ∀ w, R w (outcome p w).2

lemma Keeps.of_ends {R : World → World → Prop} {p : Program α} (h : Keeps R p) {w w' : World}
    {a : α} (hends : Ends p w a w') : R w w' := by
  have := h w
  rwa [hends] at this

section

variable {R : World → World → Prop}

lemma keeps_attempt {p : Program α} (h : Keeps R p) : Keeps R (Program.attempt p) := by
  intro w
  rw [snd_outcome_attempt]
  exact h w

lemma keeps_ite {c : Prop} [Decidable c] {p q : Program α} (hp : Keeps R p) (hq : Keeps R q) :
    Keeps R (if c then p else q) := by
  split
  · exact hp
  · exact hq

lemma Keeps.mono {S : World → World → Prop} {p : Program α} (h : Keeps R p)
    (hRS : ∀ w w', R w w' → S w w') : Keeps S p :=
  fun w => hRS _ _ (h w)

lemma keeps_storeValue [Platform] {path : Text} {v : Json}
    (h : ∀ t, Keeps R (writeDocument path t)) : Keeps R (storeValue path v) := by
  intro w
  rw [snd_outcome_storeValue]
  exact h _ w

variable [IsPreorder World R]

lemma keeps_pure (a : α) : Keeps R (pure a) :=
  fun w => refl_of R w

lemma keeps_fail (f : Fault) : Keeps R (Program.fail f : Program α) :=
  fun w => refl_of R w

/-- Writing a text keeps what writing its file keeps. -/
lemma keeps_writeFile [Platform] {path t : Text}
    (h : Keeps R (writeDocument path (Platform.held t))) : Keeps R (writeFile path t) := by
  intro w
  rcases snd_outcome_writeFile path t w with hw | hw
  · rw [hw]
    exact refl_of R w
  · rw [hw]
    exact h w

lemma keeps_lift (r : Except Fault α) : Keeps R (Program.lift r) := by
  cases r with
  | error f => exact keeps_fail f
  | ok a => exact keeps_pure a

lemma keeps_bind {p : Program α} {f : α → Program β} (hp : Keeps R p) (hf : ∀ a, Keeps R (f a)) :
    Keeps R (p >>= f) := by
  intro w
  have hw := hp w
  rw [outcome_bind]
  generalize outcome p w = r at hw ⊢
  rcases r with ⟨_ | a, w₁⟩
  · exact hw
  · exact trans_of R hw (hf a w₁)

/-- What follows a computation only has to be looked at for the value that was computed. -/
lemma keeps_lift_bind {r : Except Fault α} {f : α → Program β}
    (h : ∀ a, r = .ok a → Keeps R (f a)) : Keeps R (Program.lift r >>= f) := by
  cases r with
  | error e => exact fun w => refl_of R w
  | ok a => exact h a rfl

lemma keeps_fileExists (path : Text) : Keeps R (fileExists path) :=
  fun w => keeps_lift (w.files.present path) w

lemma keeps_readFile (path : Text) : Keeps R (readFile path) :=
  fun w => keeps_lift (w.files.read path) w

lemma keeps_mapM {p : α → Program β} (h : ∀ a, Keeps R (p a)) :
    ∀ as : List α, Keeps R (as.mapM p) := by
  intro as
  induction as with
  | nil => exact keeps_pure _
  | cons a as ih =>
      rw [List.mapM_cons]
      exact keeps_bind (h a) fun _ => keeps_bind ih fun _ => keeps_pure _

end

/-- What holds of the world that a program leaves holds after it and what follows, if the rest
leaves such a world from wherever the program has ended. -/
lemma after_bind {Q : World → Prop} {p : Program α} {f : α → Program β} {w : World}
    (hp : Q (outcome p w).2) (hf : ∀ a w₁, Ends p w a w₁ → Q (outcome (f a) w₁).2) :
    Q (outcome (p >>= f) w).2 := by
  rw [outcome_bind]
  cases hr : outcome p w with
  | mk r w₁ =>
      cases r with
      | error e =>
          rw [hr] at hp
          exact hp
      | ok a => exact hf a w₁ hr

section

variable {Q : World → Prop} {R : World → World → Prop} (hQ : ∀ v v', R v v' → Q v → Q v')
  {p : Program α} {f : α → Program β} {w : World}

include hQ

/-- A program that keeps enough may come first. -/
lemma after_bind_of_keeps (hw : Q w) (hp : Keeps R p)
    (hf : ∀ a v, Ends p w a v → Q v → Q (outcome (f a) v).2) : Q (outcome (p >>= f) w).2 :=
  after_bind (hQ _ _ (hp w) hw) fun a v hends => hf a v hends (hQ _ _ (hp.of_ends hends) hw)

/-- A program that keeps enough may follow. -/
lemma after_then (hp : Q (outcome p w).2) (hf : ∀ a, Keeps R (f a)) :
    Q (outcome (p >>= f) w).2 := by
  refine after_bind hp fun a v hends => ?_
  rw [hends] at hp
  exact hQ _ _ (hf a v) hp

end

/-! ## Programs that always end with a value

A fault of a part does not escape from an attempt; only an exit would.  `Orderly` programs make no
exits, so an attempt at one of them ends with a value (`returns_attempt`). -/

/-- A program that never ends with an exit code. -/
def Orderly (p : Program α) : Prop :=
  ∀ w code, (outcome p w).1 ≠ .error (.exit code)

/-- A program that ends with a value wherever it starts. -/
def Returns (p : Program α) : Prop :=
  ∀ w, ∃ a w', Ends p w a w'

lemma Returns.orderly {p : Program α} (h : Returns p) : Orderly p := by
  intro w code
  obtain ⟨a, w', hends⟩ := h w
  rw [hends]
  simp

lemma orderly_fail (f : Fault) : Orderly (Program.fail f : Program α) := by
  intro w code h
  cases h

lemma orderly_bind {p : Program α} {f : α → Program β} (hp : Orderly p) (hf : ∀ a, Orderly (f a)) :
    Orderly (p >>= f) := by
  intro w code
  have hw := hp w code
  rw [outcome_bind]
  generalize outcome p w = r at hw ⊢
  rcases r with ⟨_ | a, w₁⟩
  · simpa using hw
  · exact hf a w₁ code

lemma orderly_ite {c : Prop} [Decidable c] {p q : Program α} (hp : Orderly p) (hq : Orderly q) :
    Orderly (if c then p else q) := by
  split
  · exact hp
  · exact hq

lemma returns_pure (a : α) : Returns (pure a) :=
  fun w => ⟨a, w, rfl⟩

lemma returns_bind {p : Program α} {f : α → Program β} (hp : Returns p) (hf : ∀ a, Returns (f a)) :
    Returns (p >>= f) := by
  intro w
  obtain ⟨a, w₁, ha⟩ := hp w
  obtain ⟨b, w₂, hb⟩ := hf a w₁
  exact ⟨b, w₂, ends_bind.2 ⟨a, w₁, ha, hb⟩⟩

lemma orderly_lift (r : Except Fault α) : Orderly (Program.lift r) := by
  cases r with
  | error f => exact orderly_fail f
  | ok a => exact (returns_pure a).orderly

/-- **A fault does not escape from an attempt.** -/
lemma returns_attempt {p : Program α} (h : Orderly p) : Returns (Program.attempt p) := by
  intro w
  have hw := h w
  unfold Ends
  rw [outcome_attempt]
  generalize outcome p w = r at hw ⊢
  rcases r with ⟨(f | code) | a, w₁⟩
  · exact ⟨_, _, rfl⟩
  · exact absurd rfl (hw code)
  · exact ⟨_, _, rfl⟩

lemma returns_print (parts : List Text) : Returns (print parts) :=
  fun _ => ⟨(), _, rfl⟩

lemma returns_say (parts : List Text) : Returns (say parts) :=
  returns_print _

lemma returns_pause (milliseconds : Nat) : Returns (pause milliseconds) :=
  fun _ => ⟨(), _, rfl⟩

lemma orderly_fetch (url : Json) (timeout : Nat) : Orderly (fetch url timeout) := by
  intro w code
  unfold fetch ask
  rw [outcome_bind, show outcome get w = (.ok w, w) from rfl]
  dsimp only
  generalize nextPage w _ = next
  rcases next with ⟨_ | _, pages⟩ <;> nofun

lemma orderly_writeFile [Platform] (path t : Text) : Orderly (writeFile path t) := by
  intro w code
  rw [outcome_writeFile, Platform.judged, Platform.judged]
  cases Platform.refusal path
  · cases w.files.write path (Platform.held t)
    · simp
    · cases Platform.refusal t <;> simp
  · simp

/-! ## Programs that leave the files as they are -/

/-- The files of two worlds are the same. -/
def SameFiles (w w' : World) : Prop :=
  w'.files = w.files

instance : IsPreorder World SameFiles where
  refl _ := rfl
  trans _ _ _ h h' := h'.trans h

lemma sameFiles_print (parts : List Text) : Keeps SameFiles (print parts) :=
  fun _ => rfl

lemma sameFiles_say (parts : List Text) : Keeps SameFiles (say parts) :=
  sameFiles_print _

lemma sameFiles_pause (milliseconds : Nat) : Keeps SameFiles (pause milliseconds) :=
  fun _ => rfl

lemma sameFiles_fetch (url : Json) (timeout : Nat) : Keeps SameFiles (fetch url timeout) := by
  intro w
  unfold fetch
  rw [SameFiles, snd_outcome_ask]

end Gleaner
