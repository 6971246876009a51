import Gleaner.Proofs.World.Exchanges

/-!
# Programs that only ask

Most of what a program does is to print, to wait and to ask for pages.  `Remote` picks out the parts
that do nothing else by the way in which they are put together, so that what such a part leaves
alone is shown once, by induction, and not again for every part.

**What they keep.**  A remote program keeps what printing, waiting and asking keep (`Remote.keeps`):
the files (`Remote.sameFiles`) and the page of all scripts (`Remote.sameIndex`).  Its requests
follow those that were made before (`Remote.asksMore`).

**What they see.**  It does not look at them either.  From two worlds that differ in files and
printed text only, it ends in the same way, in two such worlds (`Remote.alike`).
-/

namespace Gleaner

/-- A program that is put together from printing, waiting and asking. -/
inductive Remote : {α : Type} → Program α → Prop
  | pure {α : Type} (a : α) : Remote (Pure.pure a : Program α)
  | fail {α : Type} (f : Fault) : Remote (Program.fail f : Program α)
  | print (parts : List Text) : Remote (print parts)
  | pause (milliseconds : Nat) : Remote (pause milliseconds)
  | ask (address : Option Text) (r : Request) : Remote (ask address r)
  | bind {α β : Type} {p : Program α} {f : α → Program β} (hp : Remote p)
      (hf : ∀ a, Remote (f a)) : Remote (p >>= f)
  | attempt {α : Type} {p : Program α} (hp : Remote p) : Remote (Program.attempt p)

namespace Remote

variable {α : Type} {p q : Program α}

lemma say (parts : List Text) : Remote (say parts) :=
  .print _

lemma fetch (url : Json) (timeout : Nat) : Remote (fetch url timeout) :=
  .ask _ _

lemma send (url : Text) (timeout : Nat) (payload : Json) : Remote (send url timeout payload) :=
  .ask _ _

lemma lift (r : Except Fault α) : Remote (Program.lift r) := by
  cases r with
  | error f => exact .fail f
  | ok a => exact .pure a

lemma ite {c : Prop} [Decidable c] (hp : Remote p) (hq : Remote q) :
    Remote (if c then p else q) := by
  split
  · exact hp
  · exact hq

lemma requireSuccess (url : Text) (r : Reply) : Remote (requireSuccess url r) :=
  ite (.fail _) (.pure _)

/-! ## What they keep -/

/-- **A remote program keeps what its effects keep.** -/
lemma keeps {R : World → World → Prop} [IsPreorder World R]
    (hprint : ∀ parts, Keeps R (Gleaner.print parts)) (hpause : ∀ ms, Keeps R (Gleaner.pause ms))
    (hask : ∀ address r, Keeps R (Gleaner.ask address r)) (h : Remote p) : Keeps R p := by
  induction h with
  | pure a => exact keeps_pure a
  | fail f => exact keeps_fail f
  | print parts => exact hprint parts
  | pause ms => exact hpause ms
  | ask address r => exact hask address r
  | bind _ _ hp hf => exact keeps_bind hp hf
  | attempt _ hp => exact keeps_attempt hp

lemma sameFiles (h : Remote p) : Keeps SameFiles p := by
  refine h.keeps sameFiles_print sameFiles_pause fun address r w => ?_
  rw [SameFiles, snd_outcome_ask]

end Remote

/-- Two worlds have the same page of all scripts. -/
def SameIndex (w w' : World) : Prop :=
  w'.index = w.index

instance : IsPreorder World SameIndex where
  refl _ := rfl
  trans _ _ _ h h' := h'.trans h

lemma Remote.sameIndex {α : Type} {p : Program α} (h : Remote p) : Keeps SameIndex p := by
  refine h.keeps (fun _ _ => rfl) (fun _ _ => rfl) fun address r w => ?_
  rw [SameIndex, snd_outcome_ask]

/-- The requests of one world are the first of those of another. -/
def AsksMore (w w' : World) : Prop :=
  w.requests <+: w'.requests

instance : IsPreorder World AsksMore where
  refl w := List.prefix_refl w.requests
  trans _ _ _ h h' := List.IsPrefix.trans h h'

lemma Remote.asksMore {α : Type} {p : Program α} (h : Remote p) : Keeps AsksMore p := by
  have hquiet : ∀ w w', Quiet w w' → AsksMore w w' := by
    intro w w' hquiet
    rw [AsksMore, hquiet.requests]
  refine h.keeps (fun parts => (quiet_print parts).mono hquiet)
    (fun ms => (quiet_pause ms).mono hquiet) fun address r w => ?_
  rw [AsksMore, snd_outcome_ask, requests_append_asked]
  exact List.prefix_append _ _

/-! ## What they see -/

/-- Two worlds that differ in their files and in what was printed at most. -/
def Alike (w v : World) : Prop :=
  v = { w with files := v.files, out := v.out }

instance : IsPreorder World Alike where
  refl _ := rfl
  trans _ _ _ h h' := by
    rw [Alike] at h h' ⊢
    rw [h', h]

lemma alike_of_printed {w v : World} (h : Printed w v) : Alike w v := by
  rw [Printed] at h
  rw [Alike, h]

/-- The same request gets the same answer in worlds that are alike. -/
lemma Alike.ask {w v : World} (h : Alike w v) (address : Option Text) (r : Request) :
    (outcome (ask address r) v).1 = (outcome (ask address r) w).1 ∧
      Alike (outcome (ask address r) w).2 (outcome (ask address r) v).2 := by
  have hnext : nextPage v address = nextPage w address :=
    nextPage_congr (by rw [h]) (by rw [h]) address
  rw [outcome_ask, outcome_ask, hnext, Alike]
  rw [Alike] at h
  rw [h]
  exact ⟨rfl, rfl⟩

/-- **A remote program goes the same way from worlds that are alike.** -/
lemma Remote.alike {α : Type} {p : Program α} (hp : Remote p) : ∀ {w v : World}, Alike w v →
    (outcome p v).1 = (outcome p w).1 ∧ Alike (outcome p w).2 (outcome p v).2 := by
  induction hp with
  | pure a => exact fun h => ⟨rfl, h⟩
  | fail f => exact fun h => ⟨rfl, h⟩
  | print parts =>
      intro w v h
      refine ⟨rfl, ?_⟩
      rw [Alike] at h
      rw [h]
      rfl
  | pause ms =>
      intro w v h
      refine ⟨rfl, ?_⟩
      rw [Alike] at h
      rw [h]
      rfl
  | ask address r => exact fun h => h.ask address r
  | @bind _ _ p f _ _ ihp ihf =>
      intro w v h
      obtain ⟨hvalue, hworld⟩ := ihp h
      rw [outcome_bind, outcome_bind]
      generalize outcome p v = rv at hvalue hworld ⊢
      generalize outcome p w = rw at hvalue hworld ⊢
      obtain ⟨r, v₁⟩ := rv
      obtain ⟨_ | a, w₁⟩ := rw
      · cases hvalue
        exact ⟨rfl, hworld⟩
      · cases hvalue
        exact ihf a hworld
  | @attempt _ p _ ihp =>
      intro w v h
      obtain ⟨hvalue, hworld⟩ := ihp h
      rw [outcome_attempt, outcome_attempt]
      generalize outcome p v = rv at hvalue hworld ⊢
      generalize outcome p w = rw at hvalue hworld ⊢
      obtain ⟨r, v₁⟩ := rv
      obtain ⟨(f | code) | a, w₁⟩ := rw <;>
        cases hvalue <;> exact ⟨rfl, hworld⟩

end Gleaner
