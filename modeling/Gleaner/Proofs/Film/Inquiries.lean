import Gleaner.Film.Programs
import Gleaner.Proofs.World.Remote

/-!
# What programs about films ask for

The search for a script and the reading of the chart are remote: they print, wait and ask, and touch
neither a file nor the page of all scripts.  One lemma for each program says so, in the order in
which the programs call each other.

**The search.**  `remote_search`, `remote_verify`, `remote_guess` and `remote_download`.

**The chart.**  `remote_chart` and `remote_withScripts`, which together are all that is done for a
list of films before it is stored.
-/

namespace Gleaner.Film

/-! ## The search -/

lemma remote_scriptOnPage (url : Json) : Remote (scriptOnPage url) := by
  refine .bind (.attempt (.bind (.fetch url Site.timeout) fun reply => ?_)) fun _ => .pure _
  exact .ite (.pure _) (.bind (.lift _) fun page => .pure _)

lemma remote_searchFor (title : Text) : Remote (searchFor title) := by
  refine .bind (.send _ _ _) fun reply => .ite (.pure _) (.bind (.lift _) fun page => ?_)
  split
  · exact .pure _
  · exact .pure _
  · refine .bind (.say _) fun _ => ?_
    split
    · exact .pure _
    · exact remote_scriptOnPage _

lemma remote_search (title : Json) : Remote (search title) := by
  refine .bind (.lift _) fun t => .bind (.attempt (remote_searchFor t)) fun found => ?_
  cases found with
  | error f => exact .bind (.say _) fun _ => .pure _
  | ok url => exact .pure _

lemma remote_verify (url title : Json) : Remote (verify url title) := by
  refine .bind (.attempt (.bind (.fetch url Site.timeout) fun reply => ?_)) fun _ => .pure _
  refine .ite (.pure _) ?_
  split
  · exact .pure _
  · exact .ite (.pure _) (.ite (.bind (.lift _) fun _ => .pure _) (.pure _))

lemma remote_guess (title : Json) : Remote (guess title) :=
  .bind (.lift _) fun _ => .bind (remote_verify _ title) fun _ => .ite (.pure _) (.pure _)

lemma remote_findScript (title : Json) : Remote (findScript title) := by
  refine .bind (remote_guess title) fun guessed => ?_
  cases guessed with
  | none => exact remote_search title
  | some url => exact .pure _

lemma remote_download (url : Json) : Remote (download url) := by
  refine .bind (.attempt (.bind (.fetch url Site.timeout) fun reply =>
    .bind (.requireSuccess _ reply) fun _ => .pure _)) fun got => ?_
  cases got with
  | error f => exact .ite (.bind (.say _) fun _ => .pure _) (.fail f)
  | ok t => exact .pure _

/-! ## The chart -/

lemma remote_chartPage : Remote chartPage :=
  .bind (.fetch _ _) fun reply => .bind (.requireSuccess _ reply) fun _ => .lift _

lemma remote_listings [Platform] : Remote listings := by
  refine .bind (.attempt (.bind remote_chartPage fun _ => .lift _)) fun found => ?_
  cases found with
  | error f => exact .ite (.bind (.say _) fun _ => .pure _) (.fail f)
  | ok ls => exact .pure _

lemma remote_linkedListings : Remote linkedListings :=
  .bind (.attempt remote_chartPage) fun _ => .pure _

lemma remote_details [Platform] (id : Text) : Remote (details id) := by
  refine .bind (.attempt (.bind (.fetch _ _) fun reply =>
    .ite (.pure _) (.bind (.lift _) fun _ => .pure _))) fun found => ?_
  cases found with
  | error f => exact .ite (.pure _) (.fail f)
  | ok d => exact .pure _

lemma remote_moviesFrom [Platform] (total : Nat) (ls : List Listing) :
    ∀ i, Remote (moviesFrom total i ls) := by
  induction ls with
  | nil => exact fun i => .pure _
  | cons l rest ih =>
      intro i
      have hnext : ∀ year : Json, Remote (do
          pause chartDelay
          let more ← moviesFrom total (i + 1) rest
          return ⟨.str l.title, year, .str l.id, .str (Site.film l.id), .null⟩ :: more) :=
        fun year => .bind (.pause _) fun _ => .bind (ih (i + 1)) fun _ => .pure _
      refine .bind (.print _) fun _ => .bind (remote_details l.id) fun d => ?_
      cases d with
      | none => exact .bind (.say _) fun _ => .bind (.pure _) hnext
      | some d => exact .bind (.say _) fun _ => .bind (.pure _) hnext

lemma remote_chart [Platform] : Remote chart := by
  have hnext : ∀ ls : List Listing, Remote (do
      say ["Found ", Text.ofNat ls.length, " movies, fetching details..."]
      moviesFrom ls.length 0 ls) := fun ls => .bind (.say _) fun _ => remote_moviesFrom _ ls 0
  refine .bind (.say _) fun _ => .bind remote_listings fun first => .ite ?_ ?_
  · exact .bind (.say _) fun _ => .bind remote_linkedListings hnext
  · exact .bind (.pure first) hnext

lemma remote_withScripts (total : Nat) (ms : List Movie) :
    ∀ i, Remote (withScripts total i ms) := by
  induction ms with
  | nil => exact fun i => .pure _
  | cons m rest ih =>
      intro i
      exact .bind (.print _) fun _ => .bind (.print _) fun _ =>
        .bind (remote_findScript m.title) fun _ => .bind (.say _) fun _ =>
        .bind (.pause _) fun _ => .bind (ih (i + 1)) fun _ => .pure _

end Gleaner.Film
