import Gleaner.Proofs.Film.Inquiries
import Gleaner.Proofs.Text.Parts

/-!
# The search follows the first of the best results

The search of the site asks for a page of results and visits the page of at most one of them
(`search_follows_first_best`).  Whatever is answered, it ends with an address or without one.

**Scores.**  The best result is kept in a walk over all of them, and only a higher score replaces
it.  So what is left is the first of the results with the highest score, `IsFirstBest`, or nothing
if no score is positive (`bestMatch?_cases`).

**Answers.**  What the two answers hold is put as a function of each: `resultsIn` for the page of
results and `scriptIn` for the page of a film.  A failed request, another status than 200 and a page
that is refused all count as a page with nothing on it, and this is how the program treats them
(`ends_scriptOnPage`, `ends_search`).
-/

namespace Gleaner.Film

open Text

/-! ## Scores -/

section

variable (title : Text)

/-- How well a result agrees with a title in the form in which titles are compared. -/
def agreement (r : Result) : Nat :=
  score title (comparedText r.text)

/-- The first of the results that agree best with a title: those before it agree less, and those
behind it not more. -/
structure IsFirstBest (rs : List Result) (r : Result) : Prop where
  agrees : 0 < agreement title r
  first : ∃ before after, rs = before ++ r :: after ∧
    (∀ x ∈ before, agreement title x < agreement title r) ∧
    ∀ x ∈ after, agreement title x ≤ agreement title r

variable {title} in
/-- A result that agrees less may stand in front. -/
lemma IsFirstBest.cons {rs : List Result} {r x : Result} (h : IsFirstBest title rs r)
    (hx : agreement title x < agreement title r) : IsFirstBest title (x :: rs) r := by
  obtain ⟨before, after, rfl, hbefore, hafter⟩ := h.first
  exact ⟨h.agrees, x :: before, after, rfl, List.forall_mem_cons.2 ⟨hx, hbefore⟩, hafter⟩

/-- A step of the walk: only a higher score replaces the best result so far. -/
def better (best : Text × Nat) (r : Result) : Text × Nat :=
  if best.2 < agreement title r then (r.target, agreement title r) else best

/-- **The walk keeps the first of the best results.**  Either nothing is better than what it starts
with, or it ends with the first of those that agree best. -/
lemma foldl_better (rs : List Result) : ∀ best : Text × Nat,
    ((∀ x ∈ rs, agreement title x ≤ best.2) ∧ rs.foldl (better title) best = best) ∨
    ∃ r, best.2 < agreement title r ∧ IsFirstBest title rs r ∧
      rs.foldl (better title) best = (r.target, agreement title r) := by
  induction rs with
  | nil => exact fun best => .inl ⟨by simp, rfl⟩
  | cons x rs ih =>
      intro best
      rw [List.foldl_cons]
      by_cases hx : best.2 < agreement title x
      · have hstep : better title best x = (x.target, agreement title x) := if_pos hx
        rw [hstep]
        rcases ih (x.target, agreement title x) with ⟨hrest, hfold⟩ | ⟨r, hlt, hr, hfold⟩
        · exact .inr ⟨x, hx, ⟨by omega, [], rs, rfl, by simp, hrest⟩, hfold⟩
        · exact .inr ⟨r, hx.trans hlt, hr.cons hlt, hfold⟩
      · have hstep : better title best x = best := if_neg hx
        rw [hstep]
        rcases ih best with ⟨hrest, hfold⟩ | ⟨r, hlt, hr, hfold⟩
        · exact .inl ⟨List.forall_mem_cons.2 ⟨by omega, hrest⟩, hfold⟩
        · exact .inr ⟨r, hlt, hr.cons (by omega), hfold⟩

end

/-- A positive score is at least the one for the words of a title. -/
lemma sixty_le_score {title text : Text} (h : 0 < score title text) : 60 ≤ score title text := by
  unfold score at h ⊢
  split_ifs at h ⊢ <;> omega

lemma IsFirstBest.mem {title : Text} {rs : List Result} {r : Result} (h : IsFirstBest title rs r) :
    r ∈ rs := by
  obtain ⟨before, after, rfl, -, -⟩ := h.first
  simp

/-- **The best match is the first of the best results**, and there is none exactly if no result
agrees with the title at all. -/
lemma bestMatch?_cases (title : Text) {rs : List Result} (hrs : ∀ r ∈ rs, r.target ≠ []) :
    (bestMatch? title rs = none ∧ ∀ r ∈ rs, agreement title r = 0) ∨
    ∃ r, bestMatch? title rs = some (r.target, agreement title r) ∧ IsFirstBest title rs r := by
  have hmatch : bestMatch? title rs =
      if (rs.foldl (better title) ([], 0)).1.isEmpty || (rs.foldl (better title) ([], 0)).2 < 60
      then none else some (rs.foldl (better title) ([], 0)) := rfl
  rw [hmatch]
  rcases foldl_better title rs ([], 0) with ⟨hnone, hfold⟩ | ⟨r, -, hr, hfold⟩
  · rw [hfold]
    exact .inl ⟨rfl, fun r hr => Nat.le_zero.1 (hnone r hr)⟩
  · have hscore : 60 ≤ agreement title r := sixty_le_score hr.agrees
    rw [hfold]
    refine .inr ⟨r, if_neg ?_, hr⟩
    simp only [Bool.or_eq_true, List.isEmpty_iff, decide_eq_true_eq, not_or, not_lt]
    exact ⟨hrs r hr.mem, hscore⟩

/-! ## Answers -/

/-- A cell at the top of a table. -/
def isTopCell : Markup.Node → Bool :=
  Markup.Node.withAttribute "td" "valign" "top"

/-- The cell of a page that holds the results: the second cell at the top of the first table that
has two of them. -/
def IsResultCell (page cell : Markup.Node) : Prop :=
  ∃ before table after, page.findAll (Markup.Node.isElement "table") = before ++ table :: after ∧
    (∀ t ∈ before, (t.findAll isTopCell).length < 2) ∧ (table.findAll isTopCell)[1]? = some cell

lemma resultBlock?_eq_some_iff {page cell : Markup.Node} :
    resultBlock? page = some cell ↔ IsResultCell page cell := by
  rw [resultBlock?, List.findSome?_eq_some_iff, IsResultCell]
  simp only [List.getElem?_eq_none_iff, isTopCell, Nat.lt_succ_iff]
  constructor
  · rintro ⟨before, table, after, hpage, hcell, hbefore⟩
    exact ⟨before, table, after, hpage, hbefore, hcell⟩
  · rintro ⟨before, table, after, hpage, hbefore, hcell⟩
    exact ⟨before, table, after, hpage, hcell, hbefore⟩

/-- The results that an answer holds. -/
def resultsIn : Page → List Result
  | .reply reply =>
      if reply.status ≠ 200 then []
      else
        match Markup.parse reply.text with
        | .ok page => ((resultBlock? page).map results).getD []
        | .error _ => []
  | .failure _ _ => []

/-- The address of a script that an answer holds. -/
def scriptIn : Page → Option Text
  | .reply reply =>
      if reply.status ≠ 200 then none
      else (Markup.parse reply.text).toOption.bind fun page =>
        (page.linkBelow? "script-details" "/scripts").map fun t => Site.scripts ++ t
  | .failure _ _ => none

/-- An answer with the status 200 and a page that is not refused, on which a cell holds the
results. -/
def Shows (answer : Page) (rs : List Result) : Prop :=
  ∃ reply page cell, answer = .reply reply ∧ reply.status = 200 ∧
    Markup.parse reply.text = .ok page ∧ IsResultCell page cell ∧ rs = results cell

lemma Shows.resultsIn_eq {answer : Page} {rs : List Result} (h : Shows answer rs) :
    resultsIn answer = rs := by
  obtain ⟨reply, page, cell, rfl, hstatus, hpage, hcell, rfl⟩ := h
  simp [resultsIn, hstatus, hpage, resultBlock?_eq_some_iff.2 hcell]

/-- An answer with results on it shows them. -/
lemma shows_resultsIn {answer : Page} {r : Result} (h : r ∈ resultsIn answer) :
    Shows answer (resultsIn answer) := by
  cases answer with
  | failure cause message => simp [resultsIn] at h
  | reply reply =>
      by_cases hstatus : reply.status = 200
      · cases hpage : Markup.parse reply.text with
        | error f => simp [resultsIn, hstatus, hpage] at h
        | ok page =>
            cases hcell : resultBlock? page with
            | none => simp [resultsIn, hstatus, hpage, hcell] at h
            | some cell =>
                have hblock := resultBlock?_eq_some_iff.1 hcell
                refine ⟨reply, page, cell, rfl, hstatus, hpage, hblock, ?_⟩
                simp [resultsIn, hstatus, hpage, hcell]
      · simp [resultsIn, hstatus] at h

/-- Every result leads somewhere. -/
lemma target_ne_nil {answer : Page} {r : Result} (h : r ∈ resultsIn answer) : r.target ≠ [] := by
  obtain ⟨_, _, cell, -, -, -, -, hrs⟩ := shows_resultsIn h
  rw [hrs, results, List.mem_filterMap] at h
  obtain ⟨⟨link, target⟩, -, hresult⟩ := h
  simp only [Option.ite_none_right_eq_some, Option.some.injEq] at hresult
  obtain ⟨hfilm, rfl⟩ := hresult
  rintro rfl
  exact absurd hfilm (by decide)

/-! ## Requests -/

/-- The request for the results of a title. -/
def searchRequest (title : Text) : Request :=
  .post (Site.scripts ++ "/search.php") Site.timeout
    (Json.object [("search_query", .str (Text.strip title)), ("submit", "Go!")])

/-- The request for the page of a film that a link leads to; a link that begins with a stroke leads
to a page of the site. -/
def introRequest (target : Text) : Request :=
  .get (.str (if Text.startsWith target "/" then Site.scripts ++ target else target)) Site.timeout

/-- **The page of a film is asked for once, and its answer decides what is found.** -/
lemma ends_scriptOnPage (url : Json) (w : World) : ∃ w',
    Ends (scriptOnPage url) w (scriptIn (w.answer (.get url Site.timeout))) w' ∧
      Heard w [.get url Site.timeout] w' := by
  have hheard := ((Heard.refl w).ask (.get url Site.timeout)).1
  refine ⟨_, ?_, hheard⟩
  unfold Ends scriptOnPage
  rw [fetch_eq_ask, outcome_bind, outcome_attempt, outcome_bind, outcome_ask, World.answer]
  rcases (nextPage w (Request.get url Site.timeout).address?).1 with reply | ⟨cause, message⟩
  · dsimp only [scriptIn]
    split_ifs with hstatus
    · rfl
    · cases Markup.parse reply.text with
      | error f => rfl
      | ok page => rfl
  · rfl

/-- The request for the page of the best result, if there is one. -/
def bestRequest? (title : Text) (rs : List Result) : Option Request :=
  (bestMatch? (comparedTitle title) rs).map fun best => introRequest best.1

/-- The visit that an answer to a search leads to, if there is one. -/
def visit? (title : Text) (answer : Page) : Option Request :=
  bestRequest? title (resultsIn answer)

/-- There is no visit exactly if no result agrees with the title at all. -/
lemma visit?_eq_none_iff {title : Text} {answer : Page} : visit? title answer = none ↔
    ∀ r ∈ resultsIn answer, agreement (comparedTitle title) r = 0 := by
  rw [visit?, bestRequest?, Option.map_eq_none_iff]
  rcases bestMatch?_cases (comparedTitle title) fun r (hr : r ∈ resultsIn answer) =>
    target_ne_nil hr with ⟨hnone, hall⟩ | ⟨r, hsome, hr⟩
  · exact iff_of_true hnone hall
  · rw [hsome]
    exact iff_of_false (by simp) fun hall => hr.agrees.ne' (hall r hr.mem)

/-- A visit is to the page of the first of the best results. -/
lemma exists_of_visit? {title : Text} {answer : Page} {q : Request}
    (h : visit? title answer = some q) :
    ∃ r, IsFirstBest (comparedTitle title) (resultsIn answer) r ∧ q = introRequest r.target := by
  rw [visit?, bestRequest?] at h
  rcases bestMatch?_cases (comparedTitle title) fun r (hr : r ∈ resultsIn answer) =>
    target_ne_nil hr with ⟨hnone, -⟩ | ⟨r, hsome, hr⟩
  · rw [hnone] at h
    cases h
  · rw [hsome] at h
    cases h
    exact ⟨r, hr, rfl⟩

/-- What the search does with the results of a page. -/
def follow (title : Text) : Option (List Result) → Program (Option Text)
  | none | some [] => return none
  | some rs => do
      say [Json.literal (.arr (rs.map Result.toJson))]
      match bestMatch? (comparedTitle title) rs with
      | none => return none
      | some (target, _) =>
          let url := if Text.startsWith target "/" then Site.scripts ++ target else target
          scriptOnPage (.str url)

/-- What the search does with a reply. -/
def consider (title : Text) (reply : Reply) : Program (Option Text) := do
  if reply.status ≠ 200 then return none
  let page ← Program.lift (Markup.parse reply.text)
  follow title ((resultBlock? page).map results)

/-- What the search gives: a fault is reported. -/
def report : Except Fault (Option Text) → Program (Option Text)
  | .ok url => return url
  | .error f => do
      say ["Search error: ", f.message]
      return none

lemma search_eq (title : Text) :
    search (.str title) = Program.attempt (ask (searchRequest title).address? (searchRequest title)
      >>= consider title) >>= report :=
  rfl

/-- **The page of the best result is asked for**, and nothing else. -/
lemma ends_follow (title : Text) (found : Option (List Result)) (v : World) : ∃ v',
    Ends (follow title found) v
      ((bestRequest? title (found.getD [])).bind fun q => scriptIn (v.answer q)) v' ∧
    Heard v (bestRequest? title (found.getD [])).toList v' := by
  rcases found with _ | _ | ⟨first, more⟩
  · exact ⟨v, rfl, Heard.refl v⟩
  · exact ⟨v, rfl, Heard.refl v⟩
  · obtain ⟨_, v₁, hsay⟩ := returns_say
      [Json.literal (.arr ((first :: more).map Result.toJson))] v
    have hbefore : Heard v [] v₁ := unasked_of_quiet v v₁ ((quiet_say _).of_ends hsay)
    rw [Option.getD_some, bestRequest?]
    simp only [follow, hsay.outcome_bind, Ends]
    cases bestMatch? (comparedTitle title) (first :: more) with
    | none => exact ⟨v₁, rfl, hbefore⟩
    | some best =>
        obtain ⟨v', hends, hheard⟩ := ends_scriptOnPage (.str (if Text.startsWith best.1 "/" then
          Site.scripts ++ best.1 else best.1)) v₁
        have hanswer : v₁.answer (introRequest best.1) = v.answer (introRequest best.1) :=
          congrArg Prod.fst (nextPage_congr hbefore.pages hbefore.fallback _)
        refine ⟨v', ?_, hbefore.trans hheard⟩
        rw [Option.map_some, Option.bind_some, ← hanswer]
        exact hends

/-- A reply leads to the page of its best result, if it is a page with results and not refused. -/
lemma ends_consider (title : Text) (reply : Reply) (v : World) : ∃ r v',
    Ends (Program.attempt (consider title reply)) v r v' ∧
      r.toOption.join = (visit? title (.reply reply)).bind (fun q => scriptIn (v.answer q)) ∧
      Heard v (visit? title (.reply reply)).toList v' := by
  unfold consider visit?
  by_cases hstatus : reply.status ≠ 200
  · rw [resultsIn, if_pos hstatus, if_pos hstatus]
    exact ⟨_, v, rfl, rfl, Heard.refl v⟩
  · rw [resultsIn, if_neg hstatus, if_neg hstatus]
    cases Markup.parse reply.text with
    | error f => exact ⟨_, v, rfl, rfl, Heard.refl v⟩
    | ok page =>
        obtain ⟨v', hends, hheard⟩ := ends_follow title ((resultBlock? page).map results) v
        exact ⟨.ok _, v', ends_attempt.2 (.inl ⟨_, rfl, hends⟩), rfl, hheard⟩

lemma ends_report (r : Except Fault (Option Text)) (v : World) :
    ∃ v', Ends (report r) v r.toOption.join v' ∧ Unasked v v' := by
  cases r with
  | ok url => exact ⟨v, rfl, Heard.refl v⟩
  | error f => exact ⟨_, rfl, unasked_say _ v⟩

/-- **A search asks for the results and then for the page of the best one**, and the two answers
decide what it finds. -/
lemma ends_search (title : Text) (w : World) : ∃ w',
    Ends (search (.str title)) w ((visit? title (w.answer (searchRequest title))).bind fun q =>
      scriptIn ((w.turn (searchRequest title)).answer q)) w' ∧
    Heard w (searchRequest title :: (visit? title (w.answer (searchRequest title))).toList) w' := by
  have hask := outcome_ask (searchRequest title).address? (searchRequest title) w
  have hheard := ((Heard.refl w).ask (searchRequest title)).1
  rw [snd_outcome_ask] at hheard
  rw [← World.answer] at hask
  generalize ({ w with pages := _, deeds := _ } : World) = w₁ at hask hheard
  rw [search_eq]
  generalize w.answer (searchRequest title) = answer at hask ⊢
  cases answer with
  | failure cause message =>
      obtain ⟨w', hreport, hunasked⟩ := ends_report (.error (.transport cause message)) w₁
      refine ⟨w', ends_bind.2 ⟨.error _, w₁, ends_attempt.2 (.inr ⟨_, rfl, ?_⟩), hreport⟩,
        hheard.unasked hunasked⟩
      rw [outcome_bind, hask]
  | reply reply =>
      obtain ⟨r, w₂, hconsider, hr, hvisit⟩ := ends_consider title reply w₁
      obtain ⟨w', hreport, hunasked⟩ := ends_report r w₂
      have hattempt : Ends (Program.attempt (ask (searchRequest title).address?
          (searchRequest title) >>= consider title)) w r w₂ := by
        have hreply : Ends (ask (searchRequest title).address? (searchRequest title)) w reply w₁ :=
          hask
        rw [Ends, outcome_attempt, hreply.outcome_bind, ← outcome_attempt]
        exact hconsider
      have hanswer : ∀ q, (w.turn (searchRequest title)).answer q = w₁.answer q := fun q =>
        (congrArg Prod.fst (nextPage_congr hheard.pages hheard.fallback _)).symm
      simp only [hanswer, ← hr]
      exact ⟨w', ends_bind.2 ⟨r, w₂, hattempt, hreport⟩, (hheard.trans hvisit).unasked hunasked⟩

/-! ## The result -/

lemma startsWith_of_linkBelow? {page : Markup.Node} {c start t : Text}
    (h : page.linkBelow? c start = some t) : start <+: t := by
  unfold Markup.Node.linkBelow? at h
  split at h
  · obtain ⟨link, hlink, rfl⟩ := Option.map_eq_some_iff.1 h
    have hstart := List.find?_some hlink
    exact startsWith_iff.1 hstart
  · cases h

/-- An address that is found leads to the scripts of the site. -/
lemma prefix_of_scriptIn {answer : Page} {url : Text} (h : scriptIn answer = some url) :
    "https://imsdb.com/scripts".toList <+: url := by
  cases answer with
  | failure cause message => cases h
  | reply reply =>
      simp only [scriptIn, Option.ite_none_left_eq_some, Option.bind_eq_some_iff,
        Option.map_eq_some_iff] at h
      obtain ⟨-, page, -, t, ht, rfl⟩ := h
      exact (List.prefix_append_right_inj Site.scripts).2 (startsWith_of_linkBelow? ht)

/-- **The search follows the first of the best results, and never fails.**  Whatever the site
answers, a search for a title ends.  It sends one request for the results and visits one page more
at most.

* There is a visit exactly if the results came with the status 200, on a page that is not refused,
  and some result in the cell of results agrees with the title.
* The visit is to the page of the first of the results that agree best.
* What is found is the address of a script on the page that was visited; it leads to the scripts of
  the site.
-/
theorem search_follows_first_best (title : Text) (w : World) : ∃ found w' visits,
    Ends (search (.str title)) w found w' ∧
    w'.requests = w.requests ++ searchRequest title :: visits ∧ visits.length ≤ 1 ∧
    (visits ≠ [] ↔ ∃ rs, Shows (w.answer (searchRequest title)) rs ∧
      ∃ r ∈ rs, 0 < agreement (comparedTitle title) r) ∧
    (∀ q ∈ visits, ∃ rs r, Shows (w.answer (searchRequest title)) rs ∧
      IsFirstBest (comparedTitle title) rs r ∧ q = introRequest r.target) ∧
    (∀ url, found = some url ↔
      ∃ q ∈ visits, scriptIn ((w.turn (searchRequest title)).answer q) = some url) ∧
    ∀ url, found = some url → "https://imsdb.com/scripts".toList <+: url := by
  obtain ⟨w', hends, hheard⟩ := ends_search title w
  refine ⟨_, w', _, hends, hheard.requests, Option.length_toList_le, ?_, ?_, fun url => ?_,
    fun url h => ?_⟩
  · rw [ne_eq, Option.toList_eq_nil_iff, visit?_eq_none_iff, not_forall]
    constructor
    · rintro ⟨r, hr⟩
      rw [Classical.not_imp] at hr
      exact ⟨_, shows_resultsIn hr.1, r, hr.1, Nat.pos_of_ne_zero hr.2⟩
    · rintro ⟨rs, hshows, r, hr, hpos⟩
      exact ⟨r, fun h => hpos.ne' (h (hshows.resultsIn_eq ▸ hr))⟩
  · intro q hq
    obtain ⟨r, hr, rfl⟩ := exists_of_visit? (Option.mem_toList.1 hq)
    exact ⟨_, r, shows_resultsIn hr.mem, hr, rfl⟩
  · simp only [Option.bind_eq_some_iff, Option.mem_toList]
  · obtain ⟨q, -, hq⟩ := Option.bind_eq_some_iff.1 h
    exact prefix_of_scriptIn hq

/-- A page of results.  Its first table has one cell at the top; the second cell of the next one has
a link that leads to no film, and two results that agree equally well with `The Heat`. -/
def tiedResults : Text :=
  "<table><td valign=top>Menu</td></table><table><td valign=top></td><td valign=top>
    <a href=/all>Heat</a><a href=/movie/1>Heat Wave</a><a href=/movie/2>Body Heat</a></td></table>"

example : (visit? "The Heat" (.reply ⟨200, "OK", tiedResults⟩)).bind Request.address? =
    some "https://imsdb.com/movie/1".toList := by
  decide +kernel

end Gleaner.Film
