import Gleaner.Note.Client
import Gleaner.Proofs.Json.Shapes
import Gleaner.Proofs.Json.Stored
import Gleaner.Proofs.World.Exchanges

/-!
# Replies of the note service

Every request of the note service looks into its reply to show it, and then returns it.  A member
that is missing has a default; one that is null has none, and stops the request.

* `TellsIf p a C` says that `p` only prints, and that it ends, with the value `a`, exactly if `C`
  holds.  There is a rule for each effect, so that the condition of a program is read off its text;
  the shapes (`IsNote`, `IsListing` and so on) are these conditions in short.
* `Errand` — the requests of the service.  `Errand.Fits` is the shape of the replies to each of
  them, and `Errand.lasting_fits` says that a reply still fits if members are left out of it.
* `reply_returned_iff` says which replies are returned.  Half of a surrogate pair cannot be shown;
  of a reply with one in its text it is only said that nothing else than its value is returned.
* `null_member_stops` is a reply that is not, whatever was asked for.
-/

namespace Gleaner.Note

open Json

/-! ## Showing -/

variable {α β : Type} {C D : Prop}

/-- A program only prints.  It ends with a value if `C` holds, and is stopped by a fault if not. -/
def TellsIf (p : Program α) (a : α) (C : Prop) : Prop :=
  ∀ w, C ∧ Prints p w a ∨ ¬C ∧ ∃ f, f.isConnection = false ∧ Stops p w f

lemma TellsIf.congr {p : Program α} {a : α} (h : TellsIf p a C) (hCD : C ↔ D) : TellsIf p a D := by
  intro w
  rw [← hCD]
  exact h w

lemma tellsIf_pure (a : α) : TellsIf (pure a) a True :=
  fun w => .inl ⟨trivial, prints_pure a w⟩

/-- One showing behind the other. -/
lemma tellsIf_then {p : Program Unit} {f : Unit → Program β} {b : β} (hp : TellsIf p () C)
    (hf : TellsIf (f ()) b D) : TellsIf (p >>= f) b (C ∧ D) := by
  intro w
  rcases hp w with ⟨hC, v, hends, hprinted⟩ | ⟨hC, e, he, hstops⟩
  · rcases hf v with ⟨hD, v', hends', hprinted'⟩ | ⟨hD, e, he, v', hstops, hprinted'⟩
    · exact .inl ⟨⟨hC, hD⟩, v', ends_bind.2 ⟨(), v, hends, hends'⟩,
        trans_of Printed hprinted hprinted'⟩
    · exact .inr ⟨fun h => hD h.2, e, he, v', by rw [hends.outcome_bind, hstops],
        trans_of Printed hprinted hprinted'⟩
  · exact .inr ⟨fun h => hC h.1, e, he, stops_bind hstops f⟩

lemma tellsIf_say (parts : List Text) : TellsIf (say parts) () True :=
  fun _ => .inl ⟨trivial, _, ends_say.2 rfl, rfl⟩

lemma tellsIf_say_bind {parts : List Text} {f : Unit → Program β} {b : β}
    (hf : TellsIf (f ()) b C) : TellsIf (say parts >>= f) b C :=
  (tellsIf_then (tellsIf_say parts) hf).congr (iff_of_eq (true_and _))

lemma tellsIf_lift_bind {r : Except Fault α} {f : α → Program β} {b : β} {C : α → Prop}
    (hbad : ∀ e, r = .error e → e.isConnection = false)
    (hf : ∀ a, r = .ok a → TellsIf (f a) b (C a)) :
    TellsIf (Program.lift r >>= f) b (∃ a, r = .ok a ∧ C a) := by
  intro w
  cases r with
  | error e => exact .inr ⟨by simp, e, hbad e rfl, w, rfl, rfl⟩
  | ok a => exact (hf a rfl).congr (by simp) w

lemma tellsIf_ite {c : Prop} [Decidable c] {p q : Program β} {b : β} (hp : TellsIf p b C)
    (hq : TellsIf q b D) : TellsIf (if c then p else q) b (if c then C else D) := by
  split
  · exact hp
  · exact hq

section

variable {v d : Json} {name : Text} {b : β}

/-- A member is asked of an object. -/
lemma tellsIf_member_bind_of {f : Json → Program β}
    (hf : v.IsObject → TellsIf (f ((v.member? name).getD d)) b C) :
    TellsIf (member v name d >>= f) b (v.IsObject ∧ C) := by
  by_cases h : v.IsObject
  · rw [member, getD_eq_ok h]
    exact (hf h).congr (by simp [h])
  · rw [member, getD_eq_error h]
    exact fun w => .inr ⟨fun hC => h hC.1, _, rfl, w, rfl, rfl⟩

lemma tellsIf_member_bind {f : Json → Program β}
    (hf : TellsIf (f ((v.member? name).getD d)) b C) :
    TellsIf (member v name d >>= f) b (v.IsObject ∧ C) :=
  tellsIf_member_bind_of fun _ => hf

lemma tellsIf_shown_bind {f : Text → Program β}
    (hf : TellsIf (f ((v.member? name).getD d).display) b C) :
    TellsIf (shown v name d >>= f) b (v.IsObject ∧ C) := by
  have h : shown v name d >>= f = member v name d >>= fun u => f u.display := by
    rw [shown, bind_assoc]
    rfl
  rw [h]
  exact tellsIf_member_bind hf

end

/-! ## Notes and lists of notes -/

/-- A note, as its author and its numbers are shown. -/
def IsNote : Json → Prop :=
  Record [("user", IsObject), ("interactInfo", IsObject)]

/-- A note in a list. -/
def IsEntry : Json → Prop :=
  Record [("noteCard", IsNote)]

/-- A list of notes. -/
def IsListing (v : Json) : Prop :=
  ∃ es, v.items = .ok es ∧ ∀ e ∈ es, IsEntry e

lemma isNote_empty : IsNote (.obj []) :=
  record_empty

lemma isNote_iff {v : Json} : IsNote v ↔ IsObject ((v.member? "user").getD (.obj [])) ∧
    IsObject ((v.member? "interactInfo").getD (.obj [])) ∧ v.IsObject := by
  rw [IsNote, record_cons_iff isObject_empty, record_cons_iff isObject_empty, record_nil_iff]

lemma tellsIf_showEntry (listing : Listing) (i : Nat) (feed : Json) :
    TellsIf (showEntry listing i feed) () (IsEntry feed) := by
  cases listing with
  | brief =>
      refine (tellsIf_member_bind <| tellsIf_member_bind <| tellsIf_member_bind <|
        tellsIf_shown_bind <| tellsIf_say_bind <| tellsIf_shown_bind <| tellsIf_say_bind <|
        tellsIf_shown_bind <| tellsIf_say_bind <| tellsIf_say []).congr ?_
      rw [IsEntry, record_cons_iff isNote_empty, record_nil_iff, isNote_iff]
      tauto
  | full =>
      refine (tellsIf_member_bind <| tellsIf_member_bind <| tellsIf_member_bind <|
        tellsIf_shown_bind <| tellsIf_say_bind <| tellsIf_shown_bind <| tellsIf_say_bind <|
        tellsIf_shown_bind <| tellsIf_shown_bind <| tellsIf_shown_bind <| tellsIf_say_bind <|
        tellsIf_shown_bind <| tellsIf_say_bind <| tellsIf_shown_bind <| tellsIf_say_bind <|
        tellsIf_say []).congr ?_
      rw [IsEntry, record_cons_iff isNote_empty, record_nil_iff, isNote_iff]
      tauto

/-- **A list is shown whole if all its notes are.** -/
lemma tellsIf_showEntries (listing : Listing) (es : List Json) : ∀ i,
    TellsIf (showEntries listing i es) () (∀ e ∈ es, IsEntry e) := by
  induction es with
  | nil => exact fun i => (tellsIf_pure ()).congr (by simp)
  | cons e rest ih =>
      exact fun i => (tellsIf_then (tellsIf_showEntry listing i e) (ih (i + 1))).congr
        List.forall_mem_cons.symm

lemma isConnection_of_size {v : Json} {e : Fault} (h : v.size = .error e) :
    e.isConnection = false := by
  cases v <;> cases h <;> rfl

lemma isConnection_of_items {v : Json} {e : Fault} (h : v.items = .error e) :
    e.isConnection = false := by
  cases v <;> cases h <;> rfl

lemma isConnection_of_firstItems {v : Json} {n : Nat} {e : Fault}
    (h : v.firstItems n = .error e) : e.isConnection = false := by
  cases v <;> cases h <;> rfl

lemma exists_size_of_items {v : Json} {es : List Json} (h : v.items = .ok es) :
    ∃ n, v.size = .ok n := by
  cases v <;> cases h <;> exact ⟨_, rfl⟩

lemma exists_size_of_firstItems {v : Json} {n : Nat} {es : List Json}
    (h : v.firstItems n = .ok es) : ∃ n, v.size = .ok n := by
  cases v <;> cases h <;> exact ⟨_, rfl⟩

lemma isListing_empty : IsListing (.arr []) :=
  ⟨[], rfl, by simp⟩

lemma tellsIf_showList (listing : Listing) {v : Json} (heading : Text → Text) (h : v.IsObject) :
    TellsIf (showList listing v heading) () (v.Member "data" (Record [("feeds", IsListing)])) := by
  refine (tellsIf_member_bind <| tellsIf_member_bind <|
    tellsIf_lift_bind (fun _ => isConnection_of_size) fun count _ => tellsIf_say_bind <|
    tellsIf_lift_bind (fun _ => isConnection_of_items) fun es _ =>
    tellsIf_showEntries listing es 1).congr ?_
  rw [member_iff record_empty, record_cons_iff isListing_empty, record_nil_iff]
  constructor
  · rintro ⟨-, hdata, n, -, hlist⟩
    exact ⟨hlist, hdata⟩
  · rintro ⟨⟨es, hitems, hes⟩, hdata⟩
    obtain ⟨n, hn⟩ := exists_size_of_items hitems
    exact ⟨h, hdata, n, hn, es, hitems, hes⟩

/-! ## One note -/

/-- A comment. -/
def IsComment : Json → Prop :=
  Record [("userInfo", IsObject)]

/-- A list whose first items are comments. -/
def IsThread (v : Json) : Prop :=
  v.isTruthy = true → ∃ es, v.firstItems 5 = .ok es ∧ ∀ e ∈ es, IsComment e

lemma tellsIf_showComment (c : Json) : TellsIf (showComment c) () (IsComment c) := by
  refine (tellsIf_member_bind <| tellsIf_shown_bind <| tellsIf_shown_bind <| tellsIf_say _).congr ?_
  rw [IsComment, record_cons_iff isObject_empty, record_nil_iff]
  tauto

lemma tellsIf_forM_showComment (cs : List Json) :
    TellsIf (cs.forM showComment) () (∀ c ∈ cs, IsComment c) := by
  induction cs with
  | nil => exact (tellsIf_pure ()).congr (by simp)
  | cons c rest ih =>
      exact (tellsIf_then (tellsIf_showComment c) ih).congr List.forall_mem_cons.symm

lemma isThread_empty : IsThread (.arr []) := by
  intro h
  cases h

/-- The comments of a note. -/
def IsDiscussion : Json → Prop :=
  Record [("list", IsThread)]

lemma isDiscussion_empty : IsDiscussion (.obj []) :=
  record_empty

lemma tellsIf_showComments (comments : Json) :
    TellsIf (showComments comments) () (IsDiscussion comments) := by
  rw [IsDiscussion, record_cons_iff isThread_empty, record_nil_iff, and_comm]
  refine (tellsIf_member_bind <| tellsIf_ite (tellsIf_lift_bind (fun _ => isConnection_of_size)
    fun count _ => tellsIf_say_bind <| tellsIf_lift_bind (fun _ => isConnection_of_firstItems)
    fun es _ => tellsIf_forM_showComment es) (tellsIf_pure ())).congr (and_congr_right fun _ => ?_)
  rw [IsThread]
  generalize (comments.member? "list").getD (.arr []) = list
  split
  case isTrue htruthy =>
    constructor
    · rintro ⟨n, -, hlist⟩ -
      exact hlist
    · intro hlist
      obtain ⟨es, hitems, hes⟩ := hlist htruthy
      obtain ⟨n, hn⟩ := exists_size_of_firstItems hitems
      exact ⟨n, hn, es, hitems, hes⟩
  case isFalse htruthy => exact iff_of_true trivial fun h => absurd h htruthy

lemma tellsIf_showNote (note comments : Json) :
    TellsIf (showNote note comments) () (IsNote note ∧ IsDiscussion comments) := by
  refine (tellsIf_say_bind <| tellsIf_shown_bind <| tellsIf_say_bind <| tellsIf_member_bind <|
    tellsIf_shown_bind <| tellsIf_say_bind <| tellsIf_shown_bind <| tellsIf_say_bind <|
    tellsIf_shown_bind <| tellsIf_say_bind <| tellsIf_member_bind <| tellsIf_then
    (tellsIf_shown_bind <| tellsIf_shown_bind <| tellsIf_shown_bind <| tellsIf_say _)
    (tellsIf_showComments comments)).congr ?_
  rw [isNote_iff]
  tauto

lemma tellsIf_showError (v : Json) (heading : Text) :
    TellsIf (showError v heading) () v.IsObject :=
  (tellsIf_shown_bind (tellsIf_say _)).congr (and_true _ ▸ Iff.rfl)

/-! ## Requests -/

/-- A reply reports success. -/
def Succeeds (v : Json) : Prop :=
  ∃ u, v.member? "success" = some u ∧ u.isTruthy = true

lemma succeeds_iff {v : Json} :
    Succeeds v ↔ ((v.member? "success").getD .null).isTruthy = true := by
  rw [Succeeds]
  cases v.member? "success" <;> simp [Json.isTruthy]

/-- A reply is shown by whether it reports success. -/
lemma tellsIf_isSuccess_bind {v : Json} {f : Bool → Program β} {b : β}
    (hyes : v.IsObject → TellsIf (f true) b C) (hno : v.IsObject → TellsIf (f false) b True) :
    TellsIf (isSuccess v >>= f) b (v.IsObject ∧ (Succeeds v → C)) := by
  have hbind : isSuccess v >>= f = member v "success" .null >>= fun u => f u.isTruthy := by
    rw [isSuccess, bind_assoc]
    rfl
  rw [hbind, succeeds_iff]
  refine tellsIf_member_bind_of fun hv => ?_
  cases ((v.member? "success").getD .null).isTruthy with
  | true => exact (hyes hv).congr (by simp)
  | false => exact (hno hv).congr (by simp)

lemma tellsIf_return {p : Program Unit} {v : Json} (hp : TellsIf p () C) :
    TellsIf (p >>= fun _ => pure v) v C :=
  (tellsIf_then hp (tellsIf_pure v)).congr (iff_of_eq (and_true C))

lemma tellsIf_refused {v : Json} (heading : Text) (hv : v.IsObject) :
    TellsIf (showError v heading >>= fun _ => pure v) v True :=
  (tellsIf_return (tellsIf_showError v heading)).congr (iff_true_intro hv)

/-- What can be asked of the service. -/
inductive Errand where
  | status
  | search (q : Query)
  | detail (id token comments : Json)
  | feeds
  | publish (title content images tags : Json)

namespace Errand

/-- What an errand does. -/
def run [Platform] : Errand → Program Json
  | .status => Note.status
  | .search q => Note.search q
  | .detail id token comments => Note.detail id token comments
  | .feeds => Note.feeds
  | .publish title content images tags => Note.publish title content images tags

/-- The request of an errand. -/
def request : Errand → Request
  | .status => .get (.str (base ++ "/api/v1/login/status")) timeout
  | .search q => .post (base ++ "/api/v1/feeds/search") timeout
      (Json.object [("keyword", q.keyword), ("filters", Json.object [("sort_by", q.order),
        ("note_type", q.kind), ("publish_time", q.time)])])
  | .detail id token comments => .post (base ++ "/api/v1/feeds/detail") timeout
      (Json.object [("feed_id", id), ("xsec_token", token), ("load_all_comments", comments)])
  | .feeds => .get (.str (base ++ "/api/v1/feeds/list")) timeout
  | .publish title content images tags => .post (base ++ "/api/v1/publish") publishTimeout
      (payload title content images tags)

/-- What comes with a reply that reports success. -/
def Holds : Errand → Json → Prop
  | .status | .publish .. => IsObject
  | .search _ | .feeds => Record [("feeds", IsListing)]
  | .detail .. => Record [("data", Record [("note", IsNote), ("comments", IsDiscussion)])]

/-- The shape of the replies that can be shown: objects, and below an object what is looked into is
missing or an object again. -/
structure Fits (e : Errand) (v : Json) : Prop where
  isObject : v.IsObject
  data : Succeeds v → v.Member "data" e.Holds

lemma holds_empty (e : Errand) : e.Holds (.obj []) := by
  cases e with
  | status | publish => exact isObject_empty
  | search | feeds | detail => exact record_empty

lemma fits_iff {e : Errand} {v : Json} :
    e.Fits v ↔ v.IsObject ∧ (Succeeds v → v.Member "data" e.Holds) :=
  ⟨fun ⟨h, hd⟩ => ⟨h, hd⟩, fun ⟨h, hd⟩ => ⟨h, hd⟩⟩

/-- **Every errand asks once and shows the value of the reply.** -/
lemma exists_run_eq [Platform] (e : Errand) : ∃ (notice : Text) (body : Json → Program Json),
    e.run = connected notice (ask e.request.address? e.request >>= fun reply =>
      valueOf reply >>= body) ∧ ∀ v, TellsIf (body v) v (e.Fits v) := by
  simp only [fits_iff]
  cases e with
  | status =>
      refine ⟨_, _, rfl, fun v => tellsIf_isSuccess_bind (fun hv => ?_) (tellsIf_refused _)⟩
      rw [member_iff (holds_empty _)]
      refine (tellsIf_member_bind <| tellsIf_member_bind <| tellsIf_ite
        (tellsIf_shown_bind <| tellsIf_say_bind <| tellsIf_pure v)
        (tellsIf_say_bind <| tellsIf_pure v)).congr ?_
      split <;> simp [hv, Holds]
  | search q =>
      exact ⟨_, _, rfl, fun v => tellsIf_isSuccess_bind
        (fun hv => tellsIf_return (tellsIf_showList .full _ hv)) (tellsIf_refused _)⟩
  | detail id token comments =>
      refine ⟨_, _, rfl, fun v => tellsIf_isSuccess_bind (fun hv => ?_) (tellsIf_refused _)⟩
      rw [member_iff (holds_empty _)]
      refine (tellsIf_member_bind <| tellsIf_member_bind <| tellsIf_member_bind <|
        tellsIf_member_bind <| tellsIf_return (tellsIf_showNote _ _)).congr ?_
      rw [Holds, record_cons_iff record_empty, record_cons_iff isNote_empty,
        record_cons_iff isDiscussion_empty, record_nil_iff, record_nil_iff]
      tauto
  | feeds =>
      exact ⟨_, _, rfl, fun v => tellsIf_isSuccess_bind
        (fun hv => tellsIf_return (tellsIf_showList .brief _ hv)) (tellsIf_refused _)⟩
  | publish title content images tags =>
      refine ⟨_, _, rfl, fun v => tellsIf_isSuccess_bind (fun hv => ?_) (tellsIf_refused _)⟩
      rw [member_iff (holds_empty _)]
      refine (tellsIf_say_bind <| tellsIf_member_bind <| tellsIf_shown_bind <| tellsIf_say_bind <|
        tellsIf_pure v).congr ?_
      simp [hv, Holds]

end Errand

/-! ## Members that are left out -/

lemma lasting_isNote : Lasting IsNote :=
  lasting_record (by simp [lasting_isObject])

lemma lasting_isEntry : Lasting IsEntry :=
  lasting_record (by simp [lasting_isNote])

lemma lasting_isComment : Lasting IsComment :=
  lasting_record (by simp [lasting_isObject])

lemma lasting_isListing : Lasting IsListing := by
  rintro v v' h ⟨es, hitems, hes⟩
  cases h with
  | whole => exact ⟨es, hitems, hes⟩
  | @object ms ms' source there inner =>
      -- names of members are no notes, so there are none
      have hms : ms = [] := by
        cases ms with
        | nil => rfl
        | cons m rest =>
            cases hitems
            cases (hes (.str m.1) (by simp)).1
      rw [eq_nil_of_forall_find? there hms]
      exact ⟨[], rfl, by simp⟩
  | list inner =>
      cases hitems
      exact ⟨_, rfl, lasting_isEntry.forall₂ inner hes⟩

lemma lasting_isThread : Lasting IsThread := by
  intro v v' h hv htruthy
  obtain ⟨es, hitems, hes⟩ := hv (h.isTruthy htruthy)
  cases h with
  | whole => exact ⟨es, hitems, hes⟩
  | object => cases hitems
  | list inner =>
      cases hitems
      exact ⟨_, rfl, lasting_isComment.forall₂ (List.forall₂_take 5 inner) hes⟩

lemma lasting_isDiscussion : Lasting IsDiscussion :=
  lasting_record (by simp [lasting_isThread])

lemma Errand.lasting_holds (e : Errand) : Lasting e.Holds := by
  cases e with
  | status | publish => exact lasting_isObject
  | search | feeds => exact lasting_record (by simp [lasting_isListing])
  | detail =>
      have hinner : Lasting (Record [("note", IsNote), ("comments", IsDiscussion)]) :=
        lasting_record (by simp [lasting_isNote, lasting_isDiscussion])
      exact lasting_record (List.forall_mem_singleton.2 hinner)

/-- **A reply that fits still fits where members are left out of it.** -/
lemma Errand.lasting_fits (e : Errand) : Lasting e.Fits := by
  rintro v v' h ⟨hobject, hdata⟩
  refine ⟨lasting_isObject v v' h hobject, fun ⟨u', hu', htruthy⟩ => ?_⟩
  obtain ⟨u, hu, hpruned⟩ := h.exists_member? hu'
  exact e.lasting_holds.member _ v v' h (hdata ⟨u, hu, hpruned.isTruthy htruthy⟩)

/-! ## The end of an errand -/

/-- A run that is not stopped by the connection is run as it is. -/
lemma outcome_connected {notice : Text} {t : Program α} {w : World}
    (h : ∀ f w', outcome t w = (.error (.fault f), w') → f.isConnection = false) :
    outcome (connected notice t) w = outcome t w := by
  rw [connected, outcome_bind, outcome_attempt]
  generalize outcome t w = r at h ⊢
  rcases r with ⟨(f | code) | a, w'⟩
  · have hf := h f w' rfl
    dsimp only
    rw [hf]
    rfl
  · rfl
  · rfl

lemma isConnection_of_parse [Platform] {t : Text} {e : Fault} (h : Json.parse t = .error e) :
    e.isConnection = false := by
  rw [Json.parse] at h
  cases hread : Json.read Json.lenient t with
  | ok v =>
      rw [hread] at h
      cases h
  | error refusal =>
      rw [hread] at h
      cases h
      cases refusal <;> rfl

/-- A request that is answered by a reply goes on with it. -/
lemma exists_ends_ask {r : Request} {w : World} {reply : Reply} (h : w.answer r = .reply reply) :
    ∃ w₁, Ends (ask r.address? r) w reply w₁ ∧ w₁.deeds = w.deeds ++ [Deed.asked r] := by
  refine ⟨(outcome (ask r.address? r) w).2, ?_, by rw [outcome_ask]⟩
  rw [World.answer] at h
  rw [Ends, outcome_ask, h]

/-- **An errand ends with the value of the reply if its shape fits**, and is stopped if not. -/
lemma Errand.run_cases [Platform] (e : Errand) {w : World} {reply : Reply}
    (h : w.answer e.request = .reply reply) :
    (outcome e.run w).2.deeds = w.deeds ++ [Deed.asked e.request] ∧
      ((∃ v, Json.parse reply.text = .ok v ∧ e.Fits v ∧ (outcome e.run w).1 = .ok v) ∨
        (∀ v, Json.parse reply.text = .ok v → ¬e.Fits v) ∧
          ∃ f, (outcome e.run w).1 = .error (.fault f)) := by
  obtain ⟨notice, body, hrun, hbody⟩ := e.exists_run_eq
  obtain ⟨w₁, hends, hdeeds⟩ := exists_ends_ask h
  have hreply : (∃ v, Json.parse reply.text = .ok v ∧ e.Fits v ∧
        Prints (valueOf reply >>= body) w₁ v) ∨
      (∀ v, Json.parse reply.text = .ok v → ¬e.Fits v) ∧
        ∃ f, f.isConnection = false ∧ Stops (valueOf reply >>= body) w₁ f := by
    rw [valueOf]
    cases hparse : Json.parse reply.text with
    | error f => exact .inr ⟨by simp, f, isConnection_of_parse hparse, w₁, rfl, rfl⟩
    | ok v =>
        rcases hbody v w₁ with ⟨hfits, hprints⟩ | ⟨hfits, hstops⟩
        · exact .inl ⟨v, rfl, hfits, hprints⟩
        · refine .inr ⟨fun v' hv' => ?_, hstops⟩
          cases hv'
          exact hfits
  have hask := hends.outcome_bind fun reply => valueOf reply >>= body
  rcases hreply with ⟨v, hparse, hfits, w₂, hv, hprinted⟩ | ⟨hno, f, hf, w₂, hstop, hprinted⟩
  · rw [hrun, outcome_connected (by rw [hask, hv]; simp), hask, hv]
    exact ⟨hprinted.deeds.trans hdeeds, .inl ⟨v, hparse, hfits, rfl⟩⟩
  · rw [hrun, outcome_connected (by rw [hask, hstop]; simp [hf]), hask, hstop]
    exact ⟨hprinted.deeds.trans hdeeds, .inr ⟨hno, f, rfl⟩⟩

/-- **A reply is returned if what is looked into is missing or of its kind.**  An errand whose
request is answered by a reply

* makes this request and does nothing else towards the outside;
* does not end the program;
* ends with no other value than that of the reply, and only if its shape fits;
* returns the value of every reply that fits, if no half of a surrogate pair is left in its text,
  which could not be shown;
* still returns the value of such a reply if members are left out of one that fits, at any depth. -/
theorem reply_returned_iff [Platform] (e : Errand) {w : World} {reply : Reply}
    (h : w.answer e.request = .reply reply) :
    (outcome e.run w).2.deeds = w.deeds ++ [Deed.asked e.request] ∧
    (∀ code, (outcome e.run w).1 ≠ .error (.exit code)) ∧
    (∀ v, (outcome e.run w).1 = .ok v → Json.parse reply.text = .ok v ∧ e.Fits v) ∧
    (Json.Whole reply.text →
      (∀ v, (outcome e.run w).1 = .ok v ↔ Json.parse reply.text = .ok v ∧ e.Fits v) ∧
      ∀ v v', e.Fits v → Pruned v v' → Json.parse reply.text = .ok v' →
        (outcome e.run w).1 = .ok v') := by
  obtain ⟨hdeeds, hcases⟩ := e.run_cases h
  have hiff : ∀ v, (outcome e.run w).1 = .ok v ↔ Json.parse reply.text = .ok v ∧ e.Fits v := by
    intro v
    rcases hcases with ⟨u, hparse, hfits, hend⟩ | ⟨hno, f, hend⟩
    · rw [hend, hparse]
      constructor
      · intro heq
        cases heq
        exact ⟨rfl, hfits⟩
      · rintro ⟨heq, -⟩
        cases heq
        rfl
    · rw [hend]
      exact iff_of_false (by simp) fun hv => hno v hv.1 hv.2
  refine ⟨hdeeds, fun code => ?_, fun v => (hiff v).1, fun _ => ⟨hiff, ?_⟩⟩
  · rcases hcases with ⟨v, -, -, hend⟩ | ⟨-, f, hend⟩ <;> simp [hend]
  · intro v v' hfits hpruned hparse
    exact (hiff v').2 ⟨hparse, e.lasting_fits v v' hpruned hfits⟩

/-- A world in which every address answers one value. -/
def answering (v : Json) : World where
  pages := []
  fallback := .reply ⟨200, "OK", Json.write Json.stored v⟩
  files := ⟨[], []⟩
  now := ⟨2024, 1, 1, 0, 0, 0⟩
  display := none
  screen := ⟨[], [], none, none, none⟩
  index := none
  out := []
  err := []
  deeds := []
  calls := []

lemma answer_answering (v : Json) (r : Request) :
    (answering v).answer r = .reply ⟨200, "OK", Json.write Json.stored v⟩ := by
  rw [World.answer]
  cases r.address? <;> rfl

/-- One note without a title, without numbers and with an author of unknown name. -/
def sampleReply : Json :=
  Json.object [("success", .bool true), ("data", Json.object [("feeds",
    .arr [Json.object [("noteCard", Json.object [("user", .obj [])])]])])]

lemma readable_sampleReply : Readable lenient 0 sampleReply := by
  refine .obj (by decide) (by decide) (List.forall_mem_cons.2 ⟨.bool true, ?_⟩)
  refine List.forall_mem_singleton.2 (.obj (by decide) (by decide) ?_)
  refine List.forall_mem_singleton.2 (.arr (by decide) ?_)
  refine List.forall_mem_singleton.2 (.obj (by decide) (by decide) ?_)
  refine List.forall_mem_singleton.2 (.obj (by decide) (by decide) ?_)
  exact List.forall_mem_singleton.2 (.obj (by decide) (by decide) (by simp))

lemma parse_sampleReply : Json.parse (Json.write Json.stored sampleReply) = .ok sampleReply := by
  refine Json.parse_write_of_exact readable_sampleReply ?_
  refine .obj (List.forall_mem_cons.2 ⟨.bool true, List.forall_mem_singleton.2 (.obj ?_)⟩)
  refine List.forall_mem_singleton.2 (.arr (List.forall_mem_singleton.2 (.obj ?_)))
  exact List.forall_mem_singleton.2 (.obj (List.forall_mem_singleton.2 (.obj (by simp))))

lemma fits_sampleReply (q : Query) : (Errand.search q).Fits sampleReply := by
  refine ⟨rfl, fun _ data hdata => ?_⟩
  cases hdata
  refine ⟨rfl, List.forall_mem_singleton.2 fun list hlist => ?_⟩
  cases hlist
  refine ⟨_, rfl, List.forall_mem_singleton.2 ⟨rfl, List.forall_mem_singleton.2
    fun card hcard => ?_⟩⟩
  cases hcard
  refine ⟨rfl, List.forall_mem_cons.2 ⟨fun user huser => ?_, List.forall_mem_singleton.2
    fun interact hinteract => ?_⟩⟩
  · cases huser
    rfl
  · cases hinteract

/-- A search returns a reply in which members are missing. -/
theorem reply_returned_sample :
    let q : Query := ⟨"tea", "综合", "不限", "不限"⟩
    (answering sampleReply).answer (Errand.search q).request =
      .reply ⟨200, "OK", Json.write Json.stored sampleReply⟩ ∧
    (outcome (search q) (answering sampleReply)).1 = .ok sampleReply := by
  intro q
  have hanswer := answer_answering sampleReply (Errand.search q).request
  obtain ⟨-, -, -, hwhole⟩ := reply_returned_iff (.search q) hanswer
  exact ⟨hanswer, ((hwhole (whole_write readable_sampleReply)).1 sampleReply).2
    ⟨parse_sampleReply, fits_sampleReply q⟩⟩

/-- A reply that reports success and has nothing to show. -/
def nullReply : Json :=
  Json.object [("success", .bool true), ("data", .null)]

lemma not_fits_nullReply (e : Errand) : ¬e.Fits nullReply := by
  rintro ⟨-, hdata⟩
  have hnull := hdata ⟨.bool true, rfl, rfl⟩ .null rfl
  cases e with
  | status | publish => cases hnull
  | search | feeds | detail => cases hnull.1

lemma parse_nullReply : Json.parse (Json.write Json.stored nullReply) = .ok nullReply := by
  refine Json.parse_write_of_exact (.obj (by decide) (by decide) ?_) (.obj ?_)
  · exact List.forall_mem_cons.2 ⟨.bool true, List.forall_mem_singleton.2 .null⟩
  · exact List.forall_mem_cons.2 ⟨.bool true, List.forall_mem_singleton.2 .null⟩

/-- An object in which one member is null is returned by no errand. -/
theorem null_member_stops :
    let w := answering nullReply
    Json.parse (Json.write Json.stored nullReply) = .ok nullReply ∧ nullReply.IsObject ∧
    (∃ f, (outcome status w).1 = .error (.fault f)) ∧
    (∃ f, (outcome (search ⟨"tea", "综合", "不限", "不限"⟩) w).1 = .error (.fault f)) ∧
    (∃ f, (outcome (detail "id" "token" (.bool false)) w).1 = .error (.fault f)) ∧
    (∃ f, (outcome feeds w).1 = .error (.fault f)) ∧
    ∃ f, (outcome (publish "title" "text" "image" .null) w).1 = .error (.fault f) := by
  have hstop (e : Errand) : ∃ f, (outcome e.run (answering nullReply)).1 = .error (.fault f) := by
    obtain ⟨-, ⟨v, hv, hfits, -⟩ | ⟨-, hfault⟩⟩ :=
      e.run_cases (answer_answering nullReply e.request)
    · cases parse_nullReply.symm.trans hv
      exact absurd hfits (not_fits_nullReply e)
    · exact hfault
  exact ⟨parse_nullReply, rfl, hstop .status, hstop (.search _), hstop (.detail ..), hstop .feeds,
    hstop (.publish ..)⟩

end Gleaner.Note
