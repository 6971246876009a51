import Gleaner.Proofs.Episode.Transcribed
import Gleaner.Proofs.Film.Rounds

/-!
# Pages without a preformatted part

Pages of episodes and of films are converted by almost the same rules.  They differ for a page
without a preformatted part: nothing is made of it as a transcript, while as a screenplay it is
taken whole.  So such a page is never stored as a transcript, and it is stored as a screenplay
exactly if more than fifty characters are left of all of it (`whole_page_saved_iff_long`).
-/

namespace Gleaner.Film

open Screenplay

/-- **A page without a preformatted part is stored as a screenplay exactly if it is long, and never
as a transcript.**  As a transcript it is converted to nothing, and every text that a round of
downloads stores as one was made from a page with a part, and is this text unless no file can hold
it.  As a screenplay it is converted as if all of it were the part, and this is kept if it has more
than fifty characters.  The screenplays that are new after a run are those of the films whose file
can be made and whose page, with a part or without, was converted to a text that is kept. -/
theorem whole_page_saved_iff_long [Platform] {page : Text}
    (hpage : Episode.isTranscriptPage page = false) (list : Json) (w : World) :
    (transcript.apply page = .ok [] ∧
      ∀ path content,
        (outcome (Episode.collectRound list) w).2.files.content? path = some content →
        w.files.content? path ≠ some content →
        ∃ t, Episode.IsTranscribed w (outcome (Episode.collectRound list) w).2 t ∧
          content = Platform.held t) ∧
    film.apply page = film.apply (inPage [] page []) ∧
    ((screenplay? page).isSome = true ↔
      ∃ t, film.apply (inPage [] page []) = .ok t ∧ 50 < (Text.strip t).length) ∧
    (outcome collect w).2.requests = w.requests ++ (wantedFilms w).map scriptRequest ∧
    newScreenplays w (outcome collect w).2 =
      ((writtenBy (outcome survey w).2.files (wantedFilms w)
        (w.exchanges ((wantedFilms w).map scriptRequest))).map fun p =>
          screenplayPath p.1).toFinset := by
  have hwhole : film.apply page = film.apply (inPage [] page []) :=
    apply_eq_apply_inPage rfl (Episode.preformatted?_of_isTranscriptPage hpage)
  obtain ⟨hheard, hnew⟩ := newScreenplays_collect w
  refine ⟨⟨Episode.apply_of_no_part hpage, fun path content hc hold => ?_⟩, hwhole, ?_,
    hheard.requests, hnew⟩
  · exact ((Episode.transcribes_collectRound list w).stored path content hc).resolve_left hold
  · rw [← hwhole]
    exact isSome_screenplay?_iff

/-- A page that says that there is no screenplay. -/
def noticePage : Text :=
  "<body><h1>Not available</h1><p>This screenplay was removed by its owner.</p></body>"

/-- A world with a list of two films; the pages of both have no screenplay. -/
def noticeWorld : World :=
  { Episode.sampleWorld with
    pages := [("one", [.reply ⟨200, "OK", noticePage⟩]),
      ("two", [.reply ⟨200, "OK", "<p>Not available</p>"⟩])]
    files := ⟨["screenplays"], [(listFile, Json.write Json.stored (.arr [
      Json.object [("title", "Heat"), ("year", .int 1995), ("imsdb_url", "one")],
      Json.object [("title", "Alien"), ("year", .int 1979), ("imsdb_url", "two")]]))]⟩ }

/-- The path of the one transcript in the world of an episode. -/
def pilotPath : Text :=
  Episode.Fields.path ⟨1, 2, "Pilot, part 1", "page", []⟩

/-- The notice as a transcript and as a screenplay, a round that stores a transcript, and the run
that meets the notice: the film with the long page is saved. -/
theorem whole_page_saved_iff_long_sample :
    (transcript.apply noticePage = .ok [] ∧
      ∃ t, Episode.IsTranscribed Episode.sampleWorld (outcome (Episode.collectRound
        (.arr [Episode.sampleEntry])) Episode.sampleWorld).2 t) ∧
    (screenplay? noticePage).isSome = true ∧
    (outcome collect noticeWorld).2.requests.length = 2 ∧
    newScreenplays noticeWorld (outcome collect noticeWorld).2 =
      {"screenplays/Heat (1995).fountain".toList} := by
  have hpage : Episode.isTranscriptPage noticePage = false := by decide +kernel
  obtain ⟨⟨hnothing, hstores⟩, -, hkept, -⟩ :=
    whole_page_saved_iff_long hpage (.arr [Episode.sampleEntry]) Episode.sampleWorld
  obtain ⟨-, -, -, hrequests, hnew⟩ := whole_page_saved_iff_long hpage .null noticeWorld
  refine ⟨⟨hnothing, ?_⟩, hkept.2 ?_, ?_, hnew.trans ?_⟩
  · have hstored : ((outcome (Episode.collectRound (.arr [Episode.sampleEntry]))
        Episode.sampleWorld).2.files.content? pilotPath).isSome = true := by decide +kernel
    have hfree : Episode.sampleWorld.files.content? pilotPath = none := by decide +kernel
    obtain ⟨content, hcontent⟩ := Option.isSome_iff_exists.1 hstored
    obtain ⟨t, ht, -⟩ := hstores pilotPath content hcontent (by simp [hfree])
    exact ⟨t, ht⟩
  · exact ⟨"Not availableThis screenplay was removed by its owner.", by decide +kernel, by decide⟩
  · rw [hrequests]
    decide +kernel
  · decide +kernel

/-- **A notice is saved as a screenplay**: there is no preformatted part on its page, and after the
run there is a new screenplay. -/
theorem notice_saved_as_screenplay :
    Episode.isTranscriptPage noticePage = false ∧
    (outcome collect noticeWorld).2.EndsWith (roundReport 1 1) ∧
    (outcome collect noticeWorld).2.files.content? "screenplays/Heat (1995).fountain" =
      some "Not availableThis screenplay was removed by its owner.".toList := by
  decide +kernel

end Gleaner.Film
