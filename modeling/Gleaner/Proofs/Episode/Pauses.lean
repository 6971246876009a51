import Gleaner.Proofs.Episode.Resuming
import Gleaner.Proofs.World.Conversations

/-!
# Pauses between episodes

A round of downloads waits for `delay` milliseconds behind the requests for an episode, but not if
the episode is given up.  So the requests for two episodes may follow one another without a pause.

* `Attended` says what one step of a round can do towards the outside, and `attended_collectOne`
  that it does nothing else.  `GivenUp` is said of what was heard, without the step.
* `Polite` is a property of the record of a round, in which every deed has the position of its
  episode.  `polite_tagged_iff` reads it off the parts of the record.
* `polite_iff_givenUp_last` puts both together: it says which rounds are polite.
* `requests_without_pause` is a round that is not.
-/

namespace Gleaner.Episode

/-! ## What is heard about an episode -/

/-- A page is answered, but with another status than that of success. -/
def Refused (page : Page) : Prop :=
  ∃ reply, page = .reply reply ∧ reply.status ≠ 200

/-- A page is answered by a transcript. -/
def ShowsTranscript (page : Page) : Prop :=
  ∃ reply, page = .reply reply ∧ reply.status = 200 ∧ isTranscriptPage reply.text = true

/-- After what was heard an episode is given up: the page that was asked for last is refused, or the
page of the episode links to no transcript and shows none when it is asked for again. -/
def GivenUp (heard : List (Request × Page)) : Prop :=
  (∃ front q page, heard = front ++ [(q, page)] ∧ Refused page) ∨
    ∃ q reply page, heard = [(q, .reply reply), (q, page)] ∧
      linkOnPage? (.str reply.text) = .ok none ∧ ¬ShowsTranscript page

lemma givenUp_append {front : List (Request × Page)} {q : Request} {page : Page} :
    GivenUp (front ++ [(q, page)]) ↔ Refused page ∨
      ∃ reply, front = [(q, .reply reply)] ∧ linkOnPage? (.str reply.text) = .ok none ∧
        ¬ShowsTranscript page := by
  constructor
  · rintro (⟨front', q', page', heq, hrefused⟩ | ⟨q', reply, page', heq, hlink, hno⟩)
    · obtain ⟨-, hlast⟩ := List.append_inj' heq rfl
      cases hlast
      exact .inl hrefused
    · have hsplit : front ++ [(q, page)] = [(q', .reply reply)] ++ [(q', page')] := heq
      obtain ⟨hfront, hlast⟩ := List.append_inj' hsplit rfl
      cases hlast
      exact .inr ⟨reply, hfront, hlink, hno⟩
  · rintro (hrefused | ⟨reply, rfl, hlink, hno⟩)
    · exact .inl ⟨front, q, page, rfl, hrefused⟩
    · exact .inr ⟨q, reply, page, rfl, hlink, hno⟩

lemma givenUp_singleton {q : Request} {page : Page} : GivenUp [(q, page)] ↔ Refused page := by
  have h : GivenUp ([] ++ [(q, page)]) ↔ _ := givenUp_append
  simpa using h

lemma refused_reply {reply : Reply} : Refused (.reply reply) ↔ reply.status ≠ 200 := by
  simp [Refused]

lemma not_refused_failure {cause : Transport} {message : Text} :
    ¬Refused (.failure cause message) := by
  simp [Refused]

/-! ## Searching and downloading -/

lemma converses_transcriptPage? (url : Json) (w : World) :
    Converses (transcriptPage? url) w fun heard result => ∃ page own,
      heard = [(.get url Site.timeout, page)] ∧ result = .ok own ∧
        (own.isSome = true ↔ ShowsTranscript page) := by
  refine converses_bind (converses_attempt_fetch url Site.timeout w) ?_ ?_
  · rintro heard r v ⟨page, rfl, hr⟩
    cases hr
    cases page with
    | reply reply =>
        refine converses_pure ⟨_, _, rfl, rfl, ?_⟩
        split_ifs with h
        · exact ⟨fun _ => ⟨reply, rfl, h⟩, fun _ => rfl⟩
        · refine iff_of_false (by simp) ?_
          rintro ⟨_, hreply, htranscript⟩
          cases hreply
          exact h htranscript
    | failure cause message =>
        refine converses_pure ⟨_, _, rfl, rfl, iff_of_false (by simp) ?_⟩
        rintro ⟨_, hreply, -⟩
        cases hreply
  · rintro heard e ⟨page, -, hr⟩
    cases hr

/-- What was heard when a search for an address ended. -/
def SearchHeard (heard : List (Request × Page)) : Except Stop Search → Prop
  | .ok (.found ..) =>
      ∀ q reply, heard = [(q, .reply reply)] → linkOnPage? (.str reply.text) ≠ .ok none
  | .ok .abandoned => GivenUp heard
  | .error (.fault _) => heard ≠ [] ∧ ¬GivenUp heard
  | .error (.exit _) => False

lemma converses_searchAddress (page known : Json) (w : World) :
    Converses (searchAddress page known) w SearchHeard := by
  unfold searchAddress
  split
  case isTrue => exact converses_pure fun _ _ h => by cases h
  case isFalse =>
    refine converses_bind (converses_fetch page Site.timeout w) ?_ ?_
    · rintro heard reply v ⟨rfl, hreply⟩
      rw [Page.result_eq_ok_iff.1 hreply.symm]
      split
      case isTrue hstatus =>
        exact converses_say_bind fun v =>
          converses_pure (givenUp_singleton.2 (refused_reply.2 hstatus))
      case isFalse hstatus =>
        refine converses_lift_bind (fun link hlink => ?_) fun e _ => ?_
        · cases link with
          | some url =>
              refine converses_pure fun q r h hnone => ?_
              cases h
              rw [hlink] at hnone
              cases hnone
          | none =>
              refine converses_bind (converses_transcriptPage? page v) ?_ ?_
              · rintro heard own v' ⟨second, own', rfl, hown, hshows⟩
                cases hown
                cases own with
                | some t => exact converses_pure fun q r h => by cases h
                | none =>
                    refine converses_say_bind fun v => converses_pure (.inr ⟨_, reply, second, rfl,
                      hlink, fun h => ?_⟩)
                    cases hshows.2 h
              · rintro heard e ⟨_, _, -, hown, -⟩
                cases hown
        · exact ⟨by simp, fun h => hstatus (refused_reply.1 (givenUp_singleton.1 h))⟩
    · rintro heard e ⟨rfl, he⟩
      obtain ⟨cause, message, hpage, rfl⟩ := Page.failure_of_result he.symm
      rw [hpage]
      exact ⟨by simp, fun h => not_refused_failure (givenUp_singleton.1 h)⟩

/-- What was heard when a download ended: one page.  A pause is due unless it is refused. -/
def DownloadHeard (url : Json) (heard : List (Request × Page)) : Except Stop (Bool × Bool) → Prop
  | .ok (_, due) => ∃ page, heard = [(.get url Site.timeout, page)] ∧ (due = false ↔ Refused page)
  | .error (.fault _) => ∃ page, heard = [(.get url Site.timeout, page)] ∧ ¬Refused page
  | .error (.exit _) => False

lemma converses_download [Platform] (url title : Json) (code : Text) (w : World) :
    Converses (download url code title) w (DownloadHeard url) := by
  refine converses_bind (converses_fetch url Site.timeout w) ?_ ?_
  · rintro heard reply v ⟨rfl, hreply⟩
    rw [Page.result_eq_ok_iff.1 hreply.symm]
    split
    case isTrue hstatus =>
      exact converses_say_bind fun v =>
        converses_pure ⟨_, rfl, fun _ => refused_reply.2 hstatus, fun _ => rfl⟩
    case isFalse hstatus =>
      have hnot : ¬Refused (.reply reply) := mt refused_reply.1 hstatus
      refine converses_lift_bind (fun fountain _ => ?_) fun e _ => ⟨_, rfl, hnot⟩
      split
      case isTrue =>
        refine converses_lift_bind (fun path _ => ?_) fun e _ => ⟨_, rfl, hnot⟩
        refine converses_bind (converses_writeFile path fountain v) ?_ ?_
        · rintro heard u v' ⟨rfl, -⟩
          exact converses_say_bind fun v =>
            converses_pure ⟨_, rfl, by simp [hnot]⟩
        · rintro heard e ⟨rfl, he | ⟨f, he⟩⟩
          · cases he
          · cases he
            exact ⟨_, rfl, hnot⟩
      case isFalse =>
        exact converses_say_bind fun v => converses_pure ⟨_, rfl, by simp [hnot]⟩
  · rintro heard e ⟨rfl, he⟩
    obtain ⟨cause, message, hpage, rfl⟩ := Page.failure_of_result he.symm
    rw [hpage]
    exact ⟨_, rfl, not_refused_failure⟩

/-! ## One episode -/

/-- What a step can do towards the outside: nothing, or requests with a pause behind them, or
requests without a pause if the episode is given up. -/
inductive Attended (w w' : World) : Prop where
  | nothing (deeds : w'.deeds = w.deeds)
  | givenUp (rs : List Request) (heard : GivenUp (w.exchanges rs))
      (deeds : w'.deeds = w.deeds ++ rs.map Deed.asked)
  | paused (rs : List Request) (ne_nil : rs ≠ []) (heard : ¬GivenUp (w.exchanges rs))
      (deeds : w'.deeds = w.deeds ++ rs.map Deed.asked ++ [Deed.paused delay])

section

variable {α β : Type} {w v w' : World}

lemma Attended.of_printed (h : Attended v w') (hprinted : Printed w v) : Attended w w' := by
  rw [Printed] at hprinted
  have hexchanges : ∀ rs, v.exchanges rs = w.exchanges rs := fun rs =>
    (exchanges_congr (by rw [hprinted]) (by rw [hprinted]) rs).1
  have hdeeds : v.deeds = w.deeds := by rw [hprinted]
  rcases h with h | ⟨rs, hheard, h⟩ | ⟨rs, hne, hheard, h⟩
  · exact .nothing (h.trans hdeeds)
  · exact .givenUp rs (hexchanges rs ▸ hheard) (hdeeds ▸ h)
  · exact .paused rs hne (hexchanges rs ▸ hheard) (hdeeds ▸ h)

lemma attended_lift_bind {r : Except Fault α} {f : α → Program β}
    (h : ∀ a, Attended w (outcome (f a) w).2) :
    Attended w (outcome (Program.lift r >>= f) w).2 := by
  cases r with
  | error e => exact .nothing rfl
  | ok a => exact h a

lemma attended_print_bind {parts : List Text} {f : Unit → Program β}
    (h : ∀ v, Attended v (outcome (f ()) v).2) :
    Attended w (outcome (print parts >>= f) w).2 := by
  obtain ⟨v, hprinted, hrun⟩ := exists_outcome_print_bind parts f w
  rw [hrun]
  exact (h v).of_printed hprinted

end

section

variable [Platform]

lemma attended_collectNew (entry page known title : Json) (code : Text) (w : World) :
    Attended w (outcome (collectNew entry page known code title) w).2 := by
  unfold collectNew
  obtain ⟨rs, hasks, hheard⟩ := converses_searchAddress page known w
  rw [outcome_bind, outcome_attempt]
  generalize outcome (searchAddress page known) w = r at hasks hheard
  rcases r with ⟨(f | _) | (⟨url, isNew⟩ | _), w₁⟩
  · refine .paused rs (fun h => hheard.1 (exchanges_eq_nil.2 h)) hheard.2 ?_
    show w₁.deeds ++ [Deed.paused delay] = _
    rw [hasks.deeds]
  · exact hheard.elim
  · obtain ⟨rs', hasks', hheard'⟩ := converses_download url title code w₁
    have hgivenUp : ∀ {q : Request} {last : Page}, w₁.exchanges rs' = [(q, last)] →
        rs ++ rs' ≠ [] ∧ (GivenUp (w.exchanges (rs ++ rs')) ↔ Refused last) := by
      intro q last hlast
      constructor
      · rintro hnil
        obtain ⟨-, rfl⟩ := List.append_eq_nil_iff.1 hnil
        cases hlast
      · rw [hasks.exchanges_append, hlast, givenUp_append]
        refine or_iff_left ?_
        rintro ⟨reply, hfirst, hlink, -⟩
        exact hheard _ _ hfirst hlink
    dsimp only
    rw [outcome_bind, outcome_attempt]
    have hdeeds := (hasks.trans hasks').deeds
    generalize outcome (download url code title) w₁ = r at hdeeds hheard'
    rcases r with ⟨(f | _) | ⟨stored, due⟩, w₂⟩
    · obtain ⟨last, hlast, hrefused⟩ := hheard'
      obtain ⟨hne, hiff⟩ := hgivenUp hlast
      refine .paused (rs ++ rs') hne (mt hiff.1 hrefused) ?_
      show w₂.deeds ++ [Deed.paused delay] = _
      rw [hdeeds]
    · exact hheard'.elim
    · obtain ⟨last, hlast, hdue⟩ := hheard'
      obtain ⟨hne, hiff⟩ := hgivenUp hlast
      cases due with
      | true =>
          refine .paused (rs ++ rs') hne (fun h => ?_) ?_
          · cases hdue.2 (hiff.1 h)
          · show w₂.deeds ++ [Deed.paused delay] = _
            rw [hdeeds]
      | false => exact .givenUp (rs ++ rs') (hiff.2 (hdue.1 rfl)) hdeeds
  · exact .givenUp rs hheard hasks.deeds

/-- **A step waits behind its requests, unless the episode is given up.** -/
lemma attended_collectOne (i total : Nat) (entry : Json) (w : World) :
    Attended w (outcome (collectOne i total entry) w).2 := by
  refine attended_lift_bind fun season => attended_lift_bind fun number =>
    attended_lift_bind fun title => attended_lift_bind fun page => attended_lift_bind fun known =>
    attended_lift_bind fun code => attended_print_bind fun v => ?_
  have hnew := attended_collectNew entry page known title code
  split
  · exact .nothing rfl
  · split
    · refine attended_lift_bind fun path => ?_
      show Attended v (outcome (Program.lift (v.files.present path) >>= _) v).2
      refine attended_lift_bind fun there => ?_
      split
      · exact .nothing rfl
      · exact hnew v
    · exact hnew v

end

/-! ## The record of a round -/

/-- Deeds in parts, one for each episode, each deed with the position of its episode. -/
def tagged : Nat → List (List Deed) → List (Nat × Deed)
  | _, [] => []
  | i, part :: rest => part.map (i, ·) ++ tagged (i + 1) rest

/-- Between a request for an episode and one for a later episode lies a pause of the set length. -/
def Polite (record : List (Nat × Deed)) : Prop :=
  ∀ before between after i j r r', record =
    before ++ (i, Deed.asked r) :: (between ++ (j, Deed.asked r') :: after) → i < j →
    ∃ k, (k, Deed.paused delay) ∈ between

/-- There is a request among some deeds. -/
def HasRequest (deeds : List Deed) : Prop :=
  ∃ r, Deed.asked r ∈ deeds

/-- Requests, and a pause behind them or none. -/
inductive IsPart : List Deed → Prop where
  | requests (rs : List Request) : IsPart (rs.map Deed.asked)
  | paused {rs : List Request} (ne_nil : rs ≠ []) :
      IsPart (rs.map Deed.asked ++ [Deed.paused delay])

lemma map_snd_tagged (parts : List (List Deed)) :
    ∀ i, (tagged i parts).map Prod.snd = parts.flatten := by
  induction parts with
  | nil => exact fun i => rfl
  | cons part rest ih =>
      intro i
      rw [tagged, List.map_append, List.map_map, ih, List.flatten_cons]
      congr 1
      exact List.map_id part

lemma mem_tagged {parts : List (List Deed)} : ∀ {i k : Nat} {d : Deed},
    (k, d) ∈ tagged i parts ↔ ∃ n part, k = i + n ∧ parts[n]? = some part ∧ d ∈ part := by
  induction parts with
  | nil => simp [tagged]
  | cons part rest ih =>
      intro i k d
      rw [tagged, List.mem_append, ih]
      constructor
      · rintro (h | ⟨n, part', rfl, hpart, hd⟩)
        · obtain ⟨d', hd, heq⟩ := List.mem_map.1 h
          cases heq
          exact ⟨0, part, rfl, rfl, hd⟩
        · exact ⟨n + 1, part', by omega, hpart, hd⟩
      · rintro ⟨n, part', rfl, hpart, hd⟩
        cases n with
        | zero =>
            cases hpart
            exact .inl (List.mem_map.2 ⟨d, hd, rfl⟩)
        | succ n => exact .inr ⟨n, part', by omega, hpart, hd⟩

/-- In a part, only requests have something behind them. -/
lemma IsPart.pairwise {part : List Deed} (h : IsPart part) :
    part.Pairwise fun d _ => ∃ r, d = Deed.asked r := by
  have hrequests : ∀ rs : List Request,
      (rs.map Deed.asked).Pairwise fun d _ => ∃ r, d = Deed.asked r := fun rs =>
    List.pairwise_map.2 (List.pairwise_of_forall fun r _ => ⟨r, rfl⟩)
  cases h with
  | requests rs => exact hrequests rs
  | @paused rs ne_nil =>
      refine List.pairwise_append.2 ⟨hrequests rs, List.pairwise_singleton _ _, fun d hd _ _ => ?_⟩
      obtain ⟨r, -, rfl⟩ := List.mem_map.1 hd
      exact ⟨r, rfl⟩

/-- **The record is in order**: later deeds belong to later episodes, or to the same one if they
follow a request. -/
lemma pairwise_tagged {parts : List (List Deed)} (h : ∀ part ∈ parts, IsPart part) :
    ∀ i, (tagged i parts).Pairwise fun a b => a.1 < b.1 ∨ a.1 = b.1 ∧ ∃ r, a.2 = Deed.asked r := by
  induction parts with
  | nil => exact fun i => .nil
  | cons part rest ih =>
      intro i
      refine List.pairwise_append.2 ⟨?_, ih (fun p hp => h p (by simp [hp])) (i + 1), ?_⟩
      · exact List.pairwise_map.2 ((h part (by simp)).pairwise.imp fun hasked => .inr ⟨rfl, hasked⟩)
      · rintro a ha ⟨k, d⟩ hb
        obtain ⟨d', -, rfl⟩ := List.mem_map.1 ha
        obtain ⟨n, -, rfl, -⟩ := mem_tagged.1 hb
        exact .inl (by simp only; omega)

/-- What is done next begins with a request. -/
lemma tagged_eq_cons {parts : List (List Deed)} (h : ∀ part ∈ parts, IsPart part) :
    ∀ {i : Nat}, tagged i parts ≠ [] →
      ∃ k r rest, i ≤ k ∧ tagged i parts = (k, Deed.asked r) :: rest := by
  induction parts with
  | nil => exact fun hne => absurd rfl hne
  | cons part rest ih =>
      intro i hne
      have hrest := @ih (fun p hp => h p (by simp [hp])) (i + 1)
      rw [tagged] at hne ⊢
      cases h part (by simp) with
      | requests rs =>
          cases rs with
          | nil =>
              obtain ⟨k, r, more, hk, heq⟩ := hrest hne
              exact ⟨k, r, more, by omega, heq⟩
          | cons r rs => exact ⟨i, r, _, le_rfl, rfl⟩
      | @paused rs ne_nil =>
          obtain ⟨r, rs, rfl⟩ := List.exists_cons_of_ne_nil ne_nil
          exact ⟨i, r, _, le_rfl, rfl⟩

lemma Polite.of_append {front record : List (Nat × Deed)} (h : Polite (front ++ record)) :
    Polite record := by
  intro before between after i j r r' heq
  exact h (front ++ before) between after i j r r' (by rw [heq, List.append_assoc])

/-- **A record is polite if no request follows requests without a pause**, and only then. -/
lemma polite_tagged_iff {parts : List (List Deed)} (h : ∀ part ∈ parts, IsPart part) (i : Nat) :
    Polite (tagged i parts) ↔ parts.Pairwise fun part part' =>
      HasRequest part → HasRequest part' → Deed.paused delay ∈ part := by
  constructor
  · intro hpolite
    induction parts generalizing i with
    | nil => exact .nil
    | cons part rest ih =>
        have hrest : ∀ p ∈ rest, IsPart p := fun p hp => h p (by simp [hp])
        refine .cons (fun part' hpart' hasks hasks' => ?_) (ih hrest (i + 1) hpolite.of_append)
        cases h part (by simp) with
        | paused ne_nil => simp
        | requests rs =>
            -- the next deed is a request, and nothing lies between it and the last one
            obtain ⟨r, hr⟩ := hasks
            obtain ⟨rs, last, rfl⟩ := (List.eq_nil_or_concat' rs).resolve_left (by
              rintro rfl
              cases hr)
            have hne : tagged (i + 1) rest ≠ [] := by
              obtain ⟨r', hr'⟩ := hasks'
              obtain ⟨n, hn⟩ := List.getElem?_of_mem hpart'
              exact List.ne_nil_of_mem (mem_tagged.2 ⟨n, part', rfl, hn, hr'⟩)
            obtain ⟨k, r', more, hk, heq⟩ := tagged_eq_cons hrest hne
            obtain ⟨_, hnone⟩ := hpolite ((rs.map Deed.asked).map (i, ·)) [] more i k last r'
              (by rw [tagged, heq]; simp) (by omega)
            cases hnone
  · intro hpairs before between after k l r r' heq hkl
    have horder := pairwise_tagged h i
    have hmem : ∀ {k : Nat} {d : Deed}, (k, d) ∈ tagged i parts →
        ∃ n part, k = i + n ∧ parts[n]? = some part ∧ d ∈ part := mem_tagged.1
    obtain ⟨n, part, rfl, hpart, hr⟩ := hmem (k := k) (d := .asked r) (by rw [heq]; simp)
    obtain ⟨m, part', rfl, hpart', hr'⟩ := hmem (k := l) (d := .asked r') (by rw [heq]; simp)
    have hpause : (i + n, Deed.paused delay) ∈ tagged i parts := by
      refine mem_tagged.2 ⟨n, part, rfl, hpart, ?_⟩
      obtain ⟨hn, rfl⟩ := List.getElem?_eq_some_iff.1 hpart
      obtain ⟨hm, rfl⟩ := List.getElem?_eq_some_iff.1 hpart'
      exact List.pairwise_iff_getElem.1 hpairs n m hn hm (by omega) ⟨r, hr⟩ ⟨r', hr'⟩
    refine ⟨i + n, ?_⟩
    -- the pause stands behind the first request and in front of the second one
    rw [heq] at horder hpause
    simp only [List.pairwise_append, List.pairwise_cons, List.mem_append, List.mem_cons] at horder
    simp only [List.mem_append, List.mem_cons, Prod.mk.injEq, reduceCtorEq, and_false,
      false_or] at hpause
    rcases hpause with hbefore | hbetween | hafter
    · rcases horder.2.2 _ hbefore (i + n, Deed.asked r) (.inl rfl) with hlt | ⟨-, _, hasked⟩
      · exact absurd hlt (lt_irrefl _)
      · cases hasked
    · exact hbetween
    · rcases horder.2.1.2.2.1.1 _ hafter with hlt | ⟨heq, -⟩
      · simp only at hlt
        omega
      · simp only at heq
        omega

/-! ## Rounds -/

/-- The time that a round spends on one episode. -/
structure Visit where
  start : World
  finish : World

/-- What is done for the episode. -/
def Visit.deeds (v : Visit) : List Deed :=
  v.finish.deeds.drop v.start.deeds.length

/-- What is heard about the episode. -/
def Visit.heard (v : Visit) : List (Request × Page) :=
  v.start.exchanges (v.finish.requests.drop v.start.requests.length)

section

variable {v : Visit}

lemma Visit.deeds_eq {ds : List Deed} (h : v.finish.deeds = v.start.deeds ++ ds) :
    v.deeds = ds := by
  rw [Visit.deeds, h, List.drop_left]

lemma Visit.heard_eq {ds : List Deed} {rs : List Request}
    (h : v.finish.deeds = v.start.deeds ++ ds)
    (hds : ds = rs.map Deed.asked ∨ ds = rs.map Deed.asked ++ [Deed.paused delay]) :
    v.heard = v.start.exchanges rs := by
  have hrequests : v.finish.requests = v.start.requests ++ rs := by
    rw [World.requests, h, List.filterMap_append]
    rcases hds with rfl | rfl <;> simp [World.requests]
  rw [Visit.heard, hrequests, List.drop_left]

/-- **One visit**: what it does, and that it lacks a pause if the episode is given up. -/
lemma Visit.isPart_deeds (h : Attended v.start v.finish) :
    v.finish.deeds = v.start.deeds ++ v.deeds ∧ IsPart v.deeds ∧
      (HasRequest v.deeds → (GivenUp v.heard ↔ Deed.paused delay ∉ v.deeds)) := by
  rcases h with h | ⟨rs, hheard, h⟩ | ⟨rs, hne, hheard, h⟩
  · have hdeeds : v.deeds = [] := Visit.deeds_eq (by rw [h, List.append_nil])
    refine ⟨by rw [hdeeds, h, List.append_nil], hdeeds ▸ .requests [], fun ⟨_, hr⟩ => ?_⟩
    rw [hdeeds] at hr
    cases hr
  · rw [Visit.heard_eq h (.inl rfl), Visit.deeds_eq h]
    exact ⟨h, .requests rs, fun _ => iff_of_true hheard (by simp)⟩
  · rw [List.append_assoc] at h
    rw [Visit.heard_eq h (.inr rfl), Visit.deeds_eq h]
    exact ⟨h, .paused hne, fun _ => iff_of_false hheard (by simp)⟩

end

section

variable [Platform]

/-- The visits of a round: one episode after the other, up to one that fails. -/
def visitsFrom (total : Nat) : Nat → List Json → World → List Visit
  | _, [], _ => []
  | i, entry :: rest, w =>
      let step := outcome (collectOne i total entry) w
      ⟨w, step.2⟩ :: if step.1.isOk then visitsFrom total (i + 1) rest step.2 else []

lemma exists_of_mem_visitsFrom {total : Nat} {entries : List Json} {v : Visit} : ∀ {i : Nat}
    {w : World}, v ∈ visitsFrom total i entries w →
    ∃ i' entry, v.finish = (outcome (collectOne i' total entry) v.start).2 := by
  induction entries with
  | nil => exact fun h => by cases h
  | cons entry rest ih =>
      intro i w h
      rw [visitsFrom, List.mem_cons] at h
      rcases h with rfl | h
      · exact ⟨i, entry, rfl⟩
      · split at h
        · exact ih h
        · cases h

lemma attended_of_mem_visitsFrom {total i : Nat} {entries : List Json} {w : World} {v : Visit}
    (h : v ∈ visitsFrom total i entries w) : Attended v.start v.finish := by
  obtain ⟨i', entry, hfinish⟩ := exists_of_mem_visitsFrom h
  rw [hfinish]
  exact attended_collectOne i' total entry v.start

/-- A round does what its visits do. -/
lemma deeds_collectFrom (total : Nat) (entries : List Json) : ∀ (i : Nat) (w : World),
    (outcome (collectFrom total i entries) w).2.deeds =
      w.deeds ++ ((visitsFrom total i entries w).map Visit.deeds).flatten := by
  induction entries with
  | nil => exact fun i w => (List.append_nil _).symm
  | cons entry rest ih =>
      intro i w
      obtain ⟨hdeeds, -⟩ := Visit.isPart_deeds (v := ⟨w, _⟩) (attended_collectOne i total entry w)
      rw [collectFrom, outcome_bind, outcome_attempt, visitsFrom]
      generalize outcome (collectOne i total entry) w = r at hdeeds ⊢
      rcases r with ⟨(f | code) | ⟨entry', success⟩, w₁⟩
      · exact hdeeds.trans (congrArg _ (List.append_nil _).symm)
      · exact hdeeds.trans (congrArg _ (List.append_nil _).symm)
      · have hrest : (outcome (collectFrom total (i + 1) rest >>= fun r =>
            pure (r.cons entry' success)) w₁).2 =
              (outcome (collectFrom total (i + 1) rest) w₁).2 := by
          rw [outcome_bind]
          rcases outcome (collectFrom total (i + 1) rest) w₁ with ⟨e | r, w₂⟩ <;> rfl
        calc (outcome (collectFrom total (i + 1) rest >>= fun r =>
              pure (r.cons entry' success)) w₁).2.deeds
            = w₁.deeds ++ ((visitsFrom total (i + 1) rest w₁).map Visit.deeds).flatten := by
              rw [hrest, ih]
          _ = _ := by
              rw [hdeeds, List.append_assoc]
              rfl

/-- The visits of a round of downloads. -/
def visits (entries : List Json) (w : World) : List Visit :=
  visitsFrom entries.length 0 entries w

/-- The record of a round: what is done, and for which episode. -/
def roundRecord (entries : List Json) (w : World) : List (Nat × Deed) :=
  tagged 0 ((visits entries w).map Visit.deeds)

/-- **A round is polite unless an episode that was given up is followed by a request.**  For every
list and every network,

* the record, without the positions of the episodes, is what the round adds to the deeds;
* there is a pause between the requests for an episode and those for later ones exactly if no
  request for a later episode follows one that was given up;
* among the episodes with requests, those that were given up are the ones without a pause. -/
theorem polite_iff_givenUp_last (entries : List Json) (w : World) :
    (outcome (collectRound (.arr entries)) w).2.deeds =
      w.deeds ++ (roundRecord entries w).map Prod.snd ∧
    (Polite (roundRecord entries w) ↔ (visits entries w).Pairwise fun v v' =>
      HasRequest v.deeds → HasRequest v'.deeds → ¬GivenUp v.heard) ∧
    ∀ v ∈ visits entries w, HasRequest v.deeds →
      (GivenUp v.heard ↔ Deed.paused delay ∉ v.deeds) := by
  have hvisit := fun v (hv : v ∈ visits entries w) =>
    Visit.isPart_deeds (attended_of_mem_visitsFrom hv)
  refine ⟨?_, ?_, fun v hv => (hvisit v hv).2.2⟩
  · rw [roundRecord, map_snd_tagged]
    exact deeds_collectFrom entries.length entries 0 w
  · rw [roundRecord, polite_tagged_iff (List.forall_mem_map.2 fun v hv => (hvisit v hv).2.1),
      List.pairwise_map]
    refine List.Pairwise.iff_of_mem fun {v v'} hv _ => forall_congr' fun hasks => ?_
    rw [(hvisit v hv).2.2 hasks, not_not]

end

/-- Two episodes that are not there are asked for one right behind the other. -/
theorem requests_without_pause :
    let entry (number : Int) (page : Text) := Json.object [("title", "Pilot"), ("season", .int 1),
      ("episode_num", .int number), ("imsdb_url", .str page), ("transcript_url", "")]
    let w := { sampleWorld with pages := [], fallback := .reply ⟨404, "Not Found", []⟩ }
    roundRecord [entry 1 "first", entry 2 "second"] w =
      [(0, .asked (.get "first" Site.timeout)), (1, .asked (.get "second" Site.timeout))] ∧
    ¬Polite (roundRecord [entry 1 "first", entry 2 "second"] w) := by
  intro entry w
  have hrecord : roundRecord [entry 1 "first", entry 2 "second"] w =
      [(0, .asked (.get "first" Site.timeout)), (1, .asked (.get "second" Site.timeout))] := by
    rfl
  refine ⟨hrecord, fun hpolite => ?_⟩
  obtain ⟨_, hnone⟩ := hpolite [] [] [] 0 1 _ _ hrecord (by decide)
  cases hnone

end Gleaner.Episode
