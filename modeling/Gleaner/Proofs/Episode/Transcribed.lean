import Gleaner.Proofs.Episode.Rounds
import Gleaner.Proofs.Screenplay.Surroundings
import Gleaner.Proofs.World.Exchanges

/-!
# What is stored as a transcript

A round of downloads asks for many pages, and not all of them have a transcript.  Whatever it has
stored at its end was made from a page that was answered during the round and has a preformatted
part (`transcribes_collectRound`).

**Pages.**  A page without a part is converted to nothing (`apply_of_no_part`), and nothing is too
short to be kept (`isTranscriptPage_of_isSubstantial`).

**Runs.**  `Transcribes w w'` says of two worlds of a run that every file holds what it held or what
such a page was converted to, or is empty if no file can hold that.  It is a preorder.  A download
keeps it, and so a whole round does.
-/

namespace Gleaner.Episode

open Screenplay

/-! ## Pages -/

/-- A page on which no part is opened. -/
lemma preformatted?_of_isTranscriptPage {page : Text} (h : isTranscriptPage page = false) :
    preformatted? page = none := by
  obtain ⟨hopening, hattributed⟩ := Bool.or_eq_false_iff.1 h
  exact preformatted?_eq_none (Text.contains_eq_false_iff.1 hopening)
    (Text.contains_eq_false_iff.1 hattributed)

/-- **A page without a part is converted to nothing.** -/
lemma apply_of_no_part {page : Text} (h : isTranscriptPage page = false) :
    transcript.apply page = .ok [] := by
  have hpart : transcript.part? page = none := by
    rw [Conversion.part?, preformatted?_of_isTranscriptPage h]
    rfl
  rw [Conversion.apply, hpart, Conversion.text_of_none hpart]
  rfl

/-- What is worth keeping was made from a part. -/
lemma isTranscriptPage_of_isSubstantial {page content : Text}
    (happly : transcript.apply page = .ok content) (h : isSubstantial content = true) :
    isTranscriptPage page = true := by
  by_contra hpage
  rw [apply_of_no_part (Bool.eq_false_iff.2 hpage)] at happly
  cases happly
  exact absurd h (by decide)

/-! ## Runs -/

/-- A text that a run from `w` to `w'` may store: what a page with a preformatted part was converted
to that an address has answered during the run. -/
def IsTranscribed (w w' : World) (content : Text) : Prop :=
  ∃ url reply, Answered w w' (.get url Site.timeout) (.reply reply) ∧
    isTranscriptPage reply.text = true ∧ transcript.apply reply.text = .ok content ∧
    isSubstantial content = true

lemma IsTranscribed.mono {w w' v v' : World} {content : Text} (h : IsTranscribed w w' content)
    (hanswered : ∀ r page, Answered w w' r page → Answered v v' r page) :
    IsTranscribed v v' content := by
  obtain ⟨url, reply, hreply, hpage⟩ := h
  exact ⟨url, reply, hanswered _ _ hreply, hpage⟩

variable [Platform]

/-- A run came from `w` to `w'`, and every file holds what it held, or a text of this kind as far as
a file can hold it. -/
structure Transcribes (w w' : World) : Prop where
  heard : ∃ rs, Heard w rs w'
  stored : ∀ path content, w'.files.content? path = some content →
    w.files.content? path = some content ∨ ∃ t, IsTranscribed w w' t ∧ content = Platform.held t

/-- Without writing it is enough to know of the requests. -/
lemma Transcribes.of_sameFiles {w w' : World} {rs : List Request} (hheard : Heard w rs w')
    (hfiles : SameFiles w w') : Transcribes w w' := by
  refine ⟨⟨rs, hheard⟩, fun path content h => .inl ?_⟩
  rwa [hfiles] at h

instance : IsPreorder World Transcribes where
  refl w := .of_sameFiles (Heard.refl w) rfl
  trans w₁ w₂ w₃ h h' := by
    obtain ⟨rs, hheard⟩ := h.heard
    obtain ⟨rs', hheard'⟩ := h'.heard
    refine ⟨⟨_, hheard.trans hheard'⟩, fun path content hc => ?_⟩
    rcases h'.stored path content hc with hold | hnew
    · -- it was there in between, and what was answered by then stays answered
      refine (h.stored path content hold).imp_right fun ⟨t, hmade, hheld⟩ => ⟨t, ?_, hheld⟩
      exact hmade.mono fun _ _ hr => hr.later hheard (hheard.trans hheard')
    · obtain ⟨t, hmade, hheld⟩ := hnew
      exact .inr ⟨t, hmade.mono fun _ _ hr => hr.earlier hheard, hheld⟩

lemma keptByEffects_transcribes : KeptByEffects Transcribes where
  print parts w := .of_sameFiles ((Heard.refl w).quiet (quiet_print parts w)) rfl
  pause ms w := .of_sameFiles ((Heard.refl w).quiet (quiet_pause ms w)) rfl
  fetch url timeout w := by
    have hfiles := sameFiles_fetch url timeout w
    rw [fetch_eq_ask] at hfiles ⊢
    exact .of_sameFiles ((Heard.refl w).ask (.get url timeout)).1 hfiles

/-- A text that may be stored is written. -/
lemma Transcribes.writeFile {w v : World} (h : Transcribes w v) {content : Text}
    (hcontent : IsTranscribed w v content) (path : Text) :
    Transcribes w (outcome (writeFile path content) v).2 := by
  rcases snd_outcome_writeFile path content v with hv | hv
  · rwa [hv]
  · rw [hv, outcome_writeDocument]
    cases hwrite : v.files.write path (Platform.held content) with
    | error f => exact h
    | ok fs =>
        obtain ⟨rs, hheard⟩ := h.heard
        refine ⟨⟨rs, hheard.requests, hheard.pages, hheard.fallback⟩, fun p c hc => ?_⟩
        rcases Files.content?_of_write hwrite hc with hold | hnew
        · exact h.stored p c hold
        · exact .inr ⟨content, hcontent, hnew⟩

/-- **A download stores what the page of its address was converted to**, and only if the page has a
preformatted part. -/
lemma transcribes_download (url : Json) (code : Text) (title : Json) :
    Keeps Transcribes (download url code title) := by
  intro w
  have hsay : ∀ (parts : List Text) (done : Bool × Bool),
      Keeps Transcribes (do say parts; return done) := fun parts done =>
    keeps_bind (keptByEffects_transcribes.say parts) fun _ => keeps_pure _
  have hstep : ∀ v v', Transcribes v v' → Transcribes w v → Transcribes w v' :=
    fun _ _ h hv => trans_of Transcribes hv h
  refine after_bind_of_keeps hstep (refl_of Transcribes w)
    (keptByEffects_transcribes.fetch url Site.timeout) fun reply v hfetch hv => ?_
  rw [fetch_eq_ask] at hfetch
  have hreply : Answered w v (.get url Site.timeout) (.reply reply) :=
    (Heard.refl w).answered hfetch
  split
  case isTrue => exact hstep _ _ (hsay _ _ v) hv
  case isFalse =>
    refine after_bind_of_keeps hstep hv (keeps_lift _) fun fountain v₁ hlift hv₁ => ?_
    obtain ⟨hfountain, rfl⟩ := ends_lift.1 hlift
    split
    case isTrue hlong =>
      refine after_bind_of_keeps hstep hv (keeps_lift _) fun path v₂ hlift _ => ?_
      obtain ⟨-, rfl⟩ := ends_lift.1 hlift
      have hpage := isTranscriptPage_of_isSubstantial hfountain hlong
      exact after_then hstep (hv.writeFile ⟨url, reply, hreply, hpage, hfountain, hlong⟩ path)
        fun _ => hsay _ _
    case isFalse => exact hstep _ _ (hsay _ _ v) hv

/-- **Whatever a round stores was made from a page with a preformatted part.** -/
lemma transcribes_collectRound (list : Json) : Keeps Transcribes (collectRound list) :=
  keeps_bind (keeps_lift _) fun entries =>
    keeps_collectFrom_of_download keptByEffects_transcribes
      (fun _ _ code title url _ => transcribes_download url code title) entries.length entries 0

end Gleaner.Episode
