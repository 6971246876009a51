import Gleaner.Proofs.World.Runs

/-!
# What a run asks for and what it hears

The record of a run has its requests and not the answers.  But the answers can be found again: the
pages of the first world decide them.

**Exchanges.**  `World.exchanges` goes through a list of requests and gives each of them with its
answer.  `Heard w rs w'` says that a run came from `w` to `w'` by the requests `rs`; one more
request makes one more exchange (`Heard.ask`), and runs can be put together (`Heard.trans`).
`Answered w w' r page` is the view of it that results are stated in: between `w` and `w'` the request
`r` was made and `page` was the answer.  What was answered in a part of a run was answered in the
whole of it (`Answered.earlier`, `Answered.later`).

**Quiet programs.**  `Quiet` worlds have the same files, requests and pages.  Programs that print
and wait are quiet, so that they need no thought in proofs about files and requests.  `Unasked`
worlds may differ in their files; this is kept by writing too.
-/

namespace Gleaner

/-! ## Exchanges -/

/-- The address that a request is for; what is no text is no address that is known. -/
def Request.address? : Request → Option Text
  | .get (.str url) _ => some url
  | .get _ _ => none
  | .post url _ _ => some ("POST " ++ url)

/-- The answer to a request. -/
def World.answer (w : World) (r : Request) : Page :=
  (nextPage w r.address?).1

/-- The world after a request, as far as later answers are concerned. -/
def World.turn (w : World) (r : Request) : World :=
  { w with pages := (nextPage w r.address?).2 }

/-- Requests that are made one after the other, each with its answer. -/
def World.exchanges (w : World) : List Request → List (Request × Page)
  | [] => []
  | r :: rest => (r, w.answer r) :: (w.turn r).exchanges rest

/-- A run from `w` to `w'` has made the requests `rs`. -/
structure Heard (w : World) (rs : List Request) (w' : World) : Prop where
  requests : w'.requests = w.requests ++ rs
  pages : w'.pages = (rs.foldl World.turn w).pages
  fallback : w'.fallback = w.fallback

/-- In a run from `w` to `w'` a request was made and answered by a page. -/
def Answered (w w' : World) (r : Request) (page : Page) : Prop :=
  ∃ rs, w'.requests = w.requests ++ rs ∧ (r, page) ∈ w.exchanges rs

lemma Heard.refl (w : World) : Heard w [] w :=
  ⟨(List.append_nil _).symm, rfl, rfl⟩

lemma fallback_foldl_turn (rs : List Request) (w : World) :
    (rs.foldl World.turn w).fallback = w.fallback := by
  induction rs generalizing w with
  | nil => rfl
  | cons r rs ih => exact ih (w.turn r)

lemma exchanges_append (rs rs' : List Request) (w : World) :
    w.exchanges (rs ++ rs') = w.exchanges rs ++ (rs.foldl World.turn w).exchanges rs' := by
  induction rs generalizing w with
  | nil => rfl
  | cons r rs ih => exact congrArg (List.cons _) (ih (w.turn r))

lemma nextPage_congr {w w' : World} (hpages : w'.pages = w.pages)
    (hfallback : w'.fallback = w.fallback) (address : Option Text) :
    nextPage w' address = nextPage w address := by
  cases address with
  | none => rw [nextPage, nextPage, hpages, hfallback]
  | some t => rw [nextPage, nextPage, hpages, hfallback]

/-- **The pages decide what is answered** to requests and after them. -/
lemma exchanges_congr {w w' : World} (hpages : w'.pages = w.pages)
    (hfallback : w'.fallback = w.fallback) (rs : List Request) :
    w'.exchanges rs = w.exchanges rs ∧
      (rs.foldl World.turn w').pages = (rs.foldl World.turn w).pages := by
  induction rs generalizing w w' with
  | nil => exact ⟨rfl, hpages⟩
  | cons r rs ih =>
      have hnext := nextPage_congr hpages hfallback r.address?
      have hturn : (w'.turn r).pages = (w.turn r).pages := congrArg Prod.snd hnext
      obtain ⟨hrest, hpages'⟩ := ih hturn hfallback
      refine ⟨?_, hpages'⟩
      rw [World.exchanges, World.answer, hnext, hrest]
      rfl

lemma requests_append_asked (w : World) (r : Request) (pages : List (Text × List Page)) :
    World.requests { w with pages := pages, deeds := w.deeds ++ [Deed.asked r] } =
      w.requests ++ [r] := by
  simp [World.requests]

section

variable {w w₁ : World} {rs : List Request}

/-- **One more request makes one more exchange.** -/
lemma Heard.ask (h : Heard w rs w₁) (r : Request) :
    Heard w (rs ++ [r]) (outcome (ask r.address? r) w₁).2 ∧
      (r, w₁.answer r) ∈ w.exchanges (rs ++ [r]) := by
  have hnext : nextPage w₁ r.address? = nextPage (rs.foldl World.turn w) r.address? :=
    nextPage_congr h.pages (h.fallback.trans (fallback_foldl_turn rs w).symm) _
  refine ⟨⟨?_, ?_, ?_⟩, ?_⟩
  · rw [snd_outcome_ask, requests_append_asked, h.requests, List.append_assoc]
  · rw [snd_outcome_ask, List.foldl_append, hnext]
    rfl
  · rw [snd_outcome_ask]
    exact h.fallback
  · rw [exchanges_append, World.answer, hnext]
    exact List.mem_append_right _ List.mem_cons_self

lemma answer_of_ends_ask {r : Request} {reply : Reply} {w₂ : World}
    (h : Ends (ask r.address? r) w₁ reply w₂) : w₁.answer r = .reply reply := by
  unfold Ends Gleaner.ask at h
  rw [outcome_bind, show outcome get w₁ = (.ok w₁, w₁) from rfl] at h
  dsimp only at h
  rw [World.answer]
  generalize nextPage w₁ r.address? = next at h ⊢
  rcases next with ⟨answer | ⟨cause, message⟩, pages⟩
  · cases h
    rfl
  · cases h

/-- A request that ends with a reply was answered by it. -/
lemma Heard.answered (h : Heard w rs w₁) {r : Request} {reply : Reply} {w₂ : World}
    (hends : Ends (Gleaner.ask r.address? r) w₁ reply w₂) : Answered w w₂ r (.reply reply) := by
  obtain ⟨hheard, hmem⟩ := h.ask r
  rw [hends] at hheard
  rw [answer_of_ends_ask hends] at hmem
  exact ⟨_, hheard.requests, hmem⟩

lemma fetch_eq_ask (url : Json) (timeout : Nat) :
    fetch url timeout = ask (Request.get url timeout).address? (.get url timeout) := by
  cases url <;> rfl

/-- After a run the same is answered as after its requests. -/
lemma Heard.exchanges_eq (h : Heard w rs w₁) (rs' : List Request) :
    w₁.exchanges rs' = (rs.foldl World.turn w).exchanges rs' :=
  (exchanges_congr h.pages (h.fallback.trans (fallback_foldl_turn rs w).symm) rs').1

/-- **Runs can be put together.** -/
lemma Heard.trans (h : Heard w rs w₁) {rs' : List Request} {w₂ : World} (h' : Heard w₁ rs' w₂) :
    Heard w (rs ++ rs') w₂ := by
  have hfallback := h.fallback.trans (fallback_foldl_turn rs w).symm
  refine ⟨?_, ?_, h'.fallback.trans h.fallback⟩
  · rw [h'.requests, h.requests, List.append_assoc]
  · rw [h'.pages, List.foldl_append, (exchanges_congr h.pages hfallback rs').2]

/-- What was answered after a run was answered in the longer one. -/
lemma Answered.earlier (h : Heard w rs w₁) {r : Request} {page : Page} {w₂ : World}
    (hanswered : Answered w₁ w₂ r page) : Answered w w₂ r page := by
  obtain ⟨qs, hqs, hmem⟩ := hanswered
  refine ⟨rs ++ qs, by rw [hqs, h.requests, List.append_assoc], ?_⟩
  rw [exchanges_append, ← h.exchanges_eq]
  exact List.mem_append_right _ hmem

/-- What was answered stays answered. -/
lemma Answered.later (h : Heard w rs w₁) {r : Request} {page : Page}
    (hanswered : Answered w w₁ r page) {rs' : List Request} {w₂ : World}
    (h' : Heard w (rs ++ rs') w₂) : Answered w w₂ r page := by
  obtain ⟨qs, hqs, hmem⟩ := hanswered
  obtain rfl : rs = qs := List.append_cancel_left (h.requests.symm.trans hqs)
  refine ⟨_, h'.requests, ?_⟩
  rw [exchanges_append]
  exact List.mem_append_left _ hmem

end

/-! ## Quiet programs -/

/-- Two worlds with the same files, requests and pages. -/
structure Quiet (w w' : World) : Prop where
  files : w'.files = w.files
  requests : w'.requests = w.requests
  pages : w'.pages = w.pages
  fallback : w'.fallback = w.fallback

instance : IsPreorder World Quiet where
  refl _ := ⟨rfl, rfl, rfl, rfl⟩
  trans _ _ _ h h' := ⟨h'.files.trans h.files, h'.requests.trans h.requests,
    h'.pages.trans h.pages, h'.fallback.trans h.fallback⟩

lemma quiet_print (parts : List Text) : Keeps Quiet (print parts) :=
  fun _ => ⟨rfl, rfl, rfl, rfl⟩

lemma quiet_say (parts : List Text) : Keeps Quiet (say parts) :=
  quiet_print _

lemma quiet_pause (milliseconds : Nat) : Keeps Quiet (pause milliseconds) := by
  refine fun w => ⟨rfl, ?_, rfl, rfl⟩
  show List.filterMap _ (w.deeds ++ [Deed.paused milliseconds]) = _
  simp [World.requests]

lemma Heard.quiet {w w₁ w₂ : World} {rs : List Request} (h : Heard w rs w₁) (hquiet : Quiet w₁ w₂) :
    Heard w rs w₂ :=
  ⟨hquiet.requests.trans h.requests, hquiet.pages.trans h.pages, hquiet.fallback.trans h.fallback⟩

lemma Answered.quiet {w w₁ w₂ : World} {r : Request} {page : Page} (h : Answered w w₁ r page)
    (hquiet : Quiet w₁ w₂) : Answered w w₂ r page := by
  obtain ⟨rs, hrs, hmem⟩ := h
  exact ⟨rs, hquiet.requests.trans hrs, hmem⟩

/-- No request lies between two worlds. -/
def Unasked (w w' : World) : Prop :=
  Heard w [] w'

instance : IsPreorder World Unasked where
  refl := Heard.refl
  trans _ _ _ h h' := Heard.trans h h'

lemma Heard.unasked {w w₁ w₂ : World} {rs : List Request} (h : Heard w rs w₁)
    (h' : Unasked w₁ w₂) : Heard w rs w₂ := by
  simpa using h.trans h'

lemma unasked_of_quiet (w w' : World) (h : Quiet w w') : Unasked w w' :=
  (Heard.refl w).quiet h

lemma unasked_say (parts : List Text) : Keeps Unasked (say parts) :=
  (quiet_say parts).mono unasked_of_quiet

lemma unasked_writeDocument (path t : Text) : Keeps Unasked (writeDocument path t) := by
  intro w
  rw [outcome_writeDocument]
  cases w.files.write path t with
  | error f => exact Heard.refl w
  | ok fs => exact ⟨(List.append_nil _).symm, rfl, rfl⟩

lemma unasked_writeFile [Platform] (path t : Text) : Keeps Unasked (writeFile path t) :=
  keeps_writeFile (unasked_writeDocument path _)

lemma unasked_ensureFolder (path : Text) : Keeps Unasked (ensureFolder path) := by
  intro w
  rw [outcome_ensureFolder]
  cases w.files.makeFolder path with
  | error f => exact Heard.refl w
  | ok fs => exact ⟨(List.append_nil _).symm, rfl, rfl⟩

end Gleaner
