import Gleaner.Proofs.Episode.Resuming
import Gleaner.Proofs.Film.Inquiries

/-!
# The page of all scripts is read once

All scrapers share one copy of the page of all scripts.  The first request for it that succeeds
makes the copy, and from then on the page is not asked for again (`allScripts_read_once`).

**One call.**  While there is no copy, a call makes one request, and what comes of it is decided by
the answer (`indexIn`): a page, which is kept, or one of three faults, after which there is still no
copy (`outcome_allScripts_of_none`).  Once there is a copy, a call changes nothing at all
(`outcome_allScripts_of_some`).

**Runs.**  A run is a list of steps of any kind on any number of scrapers, each step in front of a
network of its own.  What a run knows about the past is `firstIndex?`, the page that the first
successful call has given; the copy is this page after every run (`index_afterSteps`), because no
other step touches it.
-/

namespace Gleaner

/-- What the addresses answer, from some moment on. -/
structure Network where
  pages : List (Text × List Page)
  fallback : Page

/-- The world in front of another network. -/
def World.facing (w : World) (n : Network) : World :=
  { w with pages := n.pages, fallback := n.fallback }

namespace Film

/-! ## One call -/

/-- The address of the page of all scripts. -/
def indexUrl : Text :=
  Site.scripts ++ "/all-scripts.html"

/-- The request for the page of all scripts. -/
def indexRequest : Request :=
  .get (.str indexUrl) Site.timeout

/-- The page of all scripts in an answer; the request may have failed, the reply may stand for an
error, and the text may be refused as markup. -/
def indexIn : Page → Except Fault Markup.Node
  | .failure cause message => .error (.transport cause message)
  | .reply r =>
      if 400 ≤ r.status ∧ r.status < 600 then .error (.badStatus r.status r.reason indexUrl)
      else Markup.parse r.text

/-- The world after a request for the page of all scripts, with the copy that is kept then. -/
def afterAsking (w : World) (copy : Option Markup.Node) : World :=
  { w with
    pages := (nextPage w (some indexUrl)).2
    deeds := w.deeds ++ [Deed.asked indexRequest]
    index := copy }

/-- What a call does with a reply: the page in it is kept and given. -/
def keepIndex (r : Reply) : Program Markup.Node := do
  requireSuccess indexUrl r
  let page ← Program.lift (Markup.parse r.text)
  modify fun w => { w with index := some page }
  return page

lemma allScripts_eq :
    allScripts = (do
      match (← get).index with
      | some page => return page
      | none => fetch (.str indexUrl) Site.timeout >>= keepIndex) :=
  rfl

/-- A page that is found is kept; otherwise nothing changes. -/
lemma outcome_keepIndex {w : World} (h : w.index = none) (r : Reply) :
    outcome (keepIndex r) w =
      ((indexIn (.reply r)).mapError Stop.fault,
        { w with index := (indexIn (.reply r)).toOption }) := by
  have hsame : ({ w with index := none } : World) = w := by rw [← h]
  unfold keepIndex requireSuccess indexIn
  by_cases hbad : 400 ≤ r.status ∧ r.status < 600
  · simp only [if_pos hbad]
    rw [show Except.toOption (Except.error _ : Except Fault Markup.Node) = none from rfl, hsame]
    rfl
  · simp only [if_neg hbad]
    rcases Markup.parse r.text with f | page
    · rw [show Except.toOption (Except.error _ : Except Fault Markup.Node) = none from rfl, hsame]
      rfl
    · rfl

/-- A copy is given as it is, and nothing else happens. -/
lemma outcome_allScripts_of_some {w : World} {page : Markup.Node} (h : w.index = some page) :
    outcome allScripts w = (.ok page, w) := by
  rw [allScripts_eq, outcome_bind, show outcome get w = (.ok w, w) from rfl]
  dsimp only
  rw [h]
  rfl

/-- **Without a copy one request is made.**  Its answer decides what the call gives, and what it
gives is kept. -/
lemma outcome_allScripts_of_none {w : World} (h : w.index = none) :
    outcome allScripts w =
      ((indexIn (w.answer indexRequest)).mapError Stop.fault,
        afterAsking w (indexIn (w.answer indexRequest)).toOption) := by
  have haddress : w.answer indexRequest = (nextPage w (some indexUrl)).1 := rfl
  rw [allScripts_eq, outcome_bind, show outcome get w = (.ok w, w) from rfl]
  dsimp only
  rw [h, outcome_bind, fetch, outcome_ask, ← indexRequest, haddress]
  rcases (nextPage w (some indexUrl)).1 with r | ⟨cause, message⟩
  · exact outcome_keepIndex (w := afterAsking w w.index) h r
  · show (_, afterAsking w w.index) = (_, afterAsking w none)
    rw [h]
    rfl

lemma requests_afterAsking (w : World) (copy : Option Markup.Node) :
    (afterAsking w copy).requests = w.requests ++ [indexRequest] := by
  simp [World.requests, afterAsking]

/-! ## Runs -/

/-- What a scraper can be asked to do. -/
inductive Errand where
  | allScripts
  | search (title : Json)
  | scriptOnPage (url : Json)
  | verify (url title : Json)
  | guess (title : Json)
  | download (url : Json)

/-- The world after an errand, be it that it ended or that it stopped. -/
def Errand.after (w : World) : Errand → World
  | .allScripts => (outcome Film.allScripts w).2
  | .search title => (outcome (Film.search title) w).2
  | .scriptOnPage url => (outcome (Film.scriptOnPage url) w).2
  | .verify url title => (outcome (Film.verify url title) w).2
  | .guess title => (outcome (Film.guess title) w).2
  | .download url => (outcome (Film.download url) w).2

/-- A step of a run: a new scraper is made, or one of the scrapers, known by its number, does an
errand in front of the network of the moment. -/
inductive Step where
  | create
  | errand (scraper : Nat) (network : Network) (e : Errand)

/-- The world after a step.  A scraper has nothing of its own that an errand could depend on. -/
def Step.after (w : World) : Step → World
  | .create => w
  | .errand _ network e => e.after (w.facing network)

/-- The page that a step gives, if it is a call for the page of all scripts that succeeds. -/
def Step.index? (w : World) : Step → Option Markup.Node
  | .errand _ network .allScripts => (outcome Film.allScripts (w.facing network)).1.toOption
  | _ => none

/-- The world after a run. -/
def afterSteps (w : World) (steps : List Step) : World :=
  steps.foldl Step.after w

/-- The page that the first successful call of a run for the page of all scripts has given. -/
def firstIndex? (w : World) : List Step → Option Markup.Node
  | [] => none
  | s :: rest => (s.index? w).or (firstIndex? (s.after w) rest)

/-- **A step only changes the copy by a successful call**, and only if there was none. -/
lemma index_step (w : World) (s : Step) : (s.after w).index = w.index.or (s.index? w) := by
  have hquiet : ∀ {α : Type} {p : Program α} (network : Network), Remote p →
      (outcome p (w.facing network)).2.index = w.index.or none := by
    intro α p network hp
    rw [Option.or_none]
    exact hp.sameIndex (w.facing network)
  cases s with
  | create => exact (Option.or_none).symm
  | errand scraper network e =>
      cases e with
      | allScripts =>
          show (outcome allScripts (w.facing network)).2.index =
            w.index.or (outcome allScripts (w.facing network)).1.toOption
          cases h : w.index with
          | some page =>
              rw [outcome_allScripts_of_some (w := w.facing network) h]
              exact h
          | none =>
              rw [outcome_allScripts_of_none (w := w.facing network) h]
              cases indexIn ((w.facing network).answer indexRequest) <;> rfl
      | search title => exact hquiet network (remote_search title)
      | scriptOnPage url => exact hquiet network (remote_scriptOnPage url)
      | verify url title => exact hquiet network (remote_verify url title)
      | guess title => exact hquiet network (remote_guess title)
      | download url => exact hquiet network (remote_download url)

/-- **The copy is what the first successful call has given.** -/
lemma index_afterSteps (steps : List Step) :
    ∀ w : World, (afterSteps w steps).index = w.index.or (firstIndex? w steps) := by
  induction steps with
  | nil => exact fun w => (Option.or_none).symm
  | cons s rest ih =>
      intro w
      have hrest := ih (s.after w)
      rw [index_step, Option.or_assoc] at hrest
      exact hrest

lemma firstIndex?_append (steps more : List Step) :
    ∀ w : World, firstIndex? w (steps ++ more) =
      (firstIndex? w steps).or (firstIndex? (afterSteps w steps) more) := by
  induction steps with
  | nil => exact fun w => rfl
  | cons s rest ih =>
      intro w
      rw [List.cons_append, firstIndex?, ih (s.after w), firstIndex?, Option.or_assoc]
      rfl

/-- **The page of all scripts is read once.**  Let a run start without a copy, take any steps on any
scrapers, and let then a scraper be called for the page of all scripts, in front of any network.

* If no such call has succeeded yet, it makes exactly one request, the one for this page.  What it
  gives is decided by the answer; a page is kept.  If it stops, be it at the request, at the status
  or at the markup, there is still no copy, and no call has succeeded yet when the next one comes.
* If a call has succeeded before, then this call gives the page of the first one that has, it makes
  no request, and changes nothing. -/
theorem allScripts_read_once {w : World} (hfresh : w.index = none) (steps : List Step)
    (scraper : Nat) (network : Network) :
    let v := (afterSteps w steps).facing network
    let called := steps ++ [.errand scraper network .allScripts]
    (firstIndex? w steps = none →
      (outcome allScripts v).1 = (indexIn (v.answer indexRequest)).mapError Stop.fault ∧
      (outcome allScripts v).2.requests = v.requests ++ [indexRequest] ∧
      (∀ page, (outcome allScripts v).1 = .ok page →
        (outcome allScripts v).2.index = some page ∧ firstIndex? w called = some page) ∧
      (∀ stop, (outcome allScripts v).1 = .error stop →
        (outcome allScripts v).2.index = none ∧ firstIndex? w called = none)) ∧
    (∀ page, firstIndex? w steps = some page →
      outcome allScripts v = (.ok page, v) ∧ firstIndex? w called = some page) := by
  intro v called
  have hindex : v.index = firstIndex? w steps := by
    have hrun := index_afterSteps steps w
    rw [hfresh, Option.none_or] at hrun
    exact hrun
  have hcalled : firstIndex? w called =
      (firstIndex? w steps).or (outcome allScripts v).1.toOption := by
    rw [firstIndex?_append]
    show (firstIndex? w steps).or ((outcome allScripts v).1.toOption.or none) = _
    rw [Option.or_none]
  constructor
  · intro hnone
    rw [hcalled, hnone, Option.none_or, outcome_allScripts_of_none (hindex.trans hnone)]
    refine ⟨rfl, requests_afterAsking v _, fun page hpage => ?_, fun stop hstop => ?_⟩
    · cases h : indexIn (v.answer indexRequest) with
      | error f =>
          rw [h] at hpage
          cases hpage
      | ok found =>
          rw [h] at hpage
          cases hpage
          exact ⟨rfl, rfl⟩
    · cases h : indexIn (v.answer indexRequest) with
      | error f => exact ⟨rfl, rfl⟩
      | ok found =>
          rw [h] at hstop
          cases hstop
  · intro page hsome
    rw [hcalled, hsome]
    exact ⟨outcome_allScripts_of_some (hindex.trans hsome), rfl⟩

/-- A network in which no address answers. -/
def downNetwork : Network where
  pages := []
  fallback := .failure .timeout "no answer"

/-- A network in which the page of all scripts is there. -/
def upNetwork : Network where
  pages := [(indexUrl, [.reply ⟨200, "OK", "<a href=\"/Movie Scripts/Rain\">Rain</a>"⟩])]
  fallback := .failure .timeout "no answer"

/-- A first scraper is called in vain, a second one with success, and the first downloads a page. -/
def sampleSteps : List Step :=
  [.errand 0 downNetwork .allScripts, .create, .errand 1 upNetwork .allScripts,
    .errand 0 downNetwork (.download (.str indexUrl))]

/-- After a call in vain the next one asks again; after a success the page comes from the copy,
though no address answers any more. -/
theorem allScripts_read_once_sample :
    Episode.sampleWorld.index = none ∧
    firstIndex? Episode.sampleWorld (sampleSteps.take 2) = none ∧
    (let v := (afterSteps Episode.sampleWorld (sampleSteps.take 2)).facing upNetwork;
      (outcome allScripts v).2.requests = v.requests ++ [indexRequest]) ∧
    ∃ page, firstIndex? Episode.sampleWorld sampleSteps = some page ∧
      (let v := (afterSteps Episode.sampleWorld sampleSteps).facing downNetwork;
        outcome allScripts v = (.ok page, v)) := by
  have hvain : firstIndex? Episode.sampleWorld (sampleSteps.take 2) = none := rfl
  have hsuccess : (firstIndex? Episode.sampleWorld sampleSteps).isSome = true := by
    decide +kernel
  obtain ⟨page, hpage⟩ := Option.isSome_iff_exists.1 hsuccess
  have hasks := (allScripts_read_once rfl (sampleSteps.take 2) 1 upNetwork).1 hvain
  have hgives := (allScripts_read_once rfl sampleSteps 0 downNetwork).2 page hpage
  exact ⟨rfl, hvain, hasks.2.1, page, hpage, hgives.1⟩

end Film

end Gleaner
