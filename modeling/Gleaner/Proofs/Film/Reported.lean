import Gleaner.Proofs.Film.Rounds

/-!
# How many screenplays are reported

At its end the collector of screenplays reports how many films it has converted.  It counts films,
while what stays on the disk are files.  Films with the same name have the same file, and a film
whose screenplay no file can hold leaves an empty one and is not counted.  So the number is right
exactly if the films have different names, once the empty files are added to it
(`reported_eq_new_iff_nodup`).
-/

namespace Gleaner.Film

section

variable {w w' : World}

/-- There are as many paths as films exactly if the names of the films differ. -/
lemma card_screenplayPaths (ms : List Movie) :
    (ms.map screenplayPath).toFinset.card = ms.length ↔ (ms.map Movie.safeName).Nodup := by
  have hpath : ms.map screenplayPath =
      (ms.map Movie.safeName).map fun t => Path.join folder (t ++ ".fountain") := by
    rw [List.map_map]
    rfl
  have hinjective : Function.Injective fun t : Text => Path.join folder (t ++ ".fountain") :=
    (Path.join_injective isName_folder.ne_nil).comp (List.append_left_injective _)
  rw [← List.nodup_map_iff hinjective, ← hpath, ← List.length_map (f := screenplayPath)]
  exact Multiset.toFinset_card_eq_card_iff_nodup (m := Multiset.ofList (ms.map screenplayPath))

/-- The report comes last, and no file has changed. -/
lemma endsWith_of_sumUpRound {total wanted converted : Nat}
    (h : Ends (sumUpRound total wanted converted) w () w') :
    w'.files = w.files ∧ w'.EndsWith (roundReport converted (wanted - converted)) := by
  obtain ⟨v, hv, h⟩ := exists_of_say_bind rfl h
  obtain ⟨v, hv, h⟩ := exists_of_say_bind hv h
  obtain ⟨v, hv, h⟩ := exists_of_say_bind hv h
  obtain ⟨hfiles, hlines⟩ := endsWith_of_forM_say h
  exact ⟨hfiles.trans hv, hlines⟩

variable [Platform]

/-- The films whose screenplay a run saves, in the order of the list. -/
def savedFilms (w : World) : List Movie :=
  savedOf (writtenFilms w)

/-- The films whose file a run makes, only to find that no file can hold the screenplay. -/
def emptiedFilms (w : World) : List Movie :=
  emptiedOf (writtenFilms w)

/-- A run that ends has found nothing to do, or reports how many films it has saved. -/
lemma report_of_collect (h : Ends collect w () w') :
    (∀ p ∈ writtenFilms w, Wanted w p.1) ∧
    (w'.EndsWith nothingLeft ∧ writtenFilms w = [] ∨
      ∃ failed, w'.EndsWith (roundReport (savedFilms w).length failed)) := by
  rw [collect_eq] at h
  obtain ⟨⟨total, wanted⟩, v, hsurvey, h⟩ := ends_bind.1 h
  refine ⟨fun p => wanted_of_mem_writtenFilms hsurvey, ?_⟩
  dsimp only at h
  split at h
  case isTrue hempty =>
    obtain ⟨-, hlines⟩ := endsWith_of_forM_say h
    rw [writtenFilms_eq hsurvey, List.isEmpty_iff.1 hempty]
    exact .inl ⟨hlines, rfl⟩
  case isFalse =>
    obtain ⟨saved, v₁, hsaved, h⟩ := ends_bind.1 h
    obtain ⟨v₂, hround, -, -⟩ := ends_round hsurvey
    obtain ⟨rfl, rfl⟩ := hsaved.unique hround
    exact .inr ⟨_, (endsWith_of_sumUpRound h).2⟩

/-- **The number of reported successes is that of the new screenplays, exactly if no two of the
films have the same name.**  After every run that ends, the new files in the folder of screenplays
are those of the films for which something was written; these are listed films with an address whose
screenplay was not there.  The run has found nothing to do, and has written nothing, or it ends with
a report, and the number of successes in it is the number of films that were saved.  The other films
that were written have left an empty file, because no file can hold their screenplays; together they
are as many as the new files exactly if all their names differ.  Where every text can be held, this
is the number of successes. -/
theorem reported_eq_new_iff_nodup (h : Ends collect w () w') :
    (∀ p ∈ writtenFilms w, Wanted w p.1) ∧
    newScreenplays w w' = ((writtenFilms w).map fun p => screenplayPath p.1).toFinset ∧
    (w'.EndsWith nothingLeft ∧ writtenFilms w = [] ∨
      ∃ n failed, w'.EndsWith (roundReport n failed) ∧ n = (savedFilms w).length ∧
        ((newScreenplays w w').card = n + (emptiedFilms w).length ↔
          ((writtenFilms w).map fun p => p.1.safeName).Nodup) ∧
        ((∀ p ∈ writtenFilms w, Platform.refusal p.2 = none) →
          ((newScreenplays w w').card = n ↔ ((savedFilms w).map Movie.safeName).Nodup))) := by
  obtain ⟨hwanted, hreport⟩ := report_of_collect h
  have hnew : newScreenplays w w' =
      (((writtenFilms w).map Prod.fst).map screenplayPath).toFinset := by
    have hrun : (outcome collect w).2 = w' := congrArg Prod.snd h
    rw [← hrun, (newScreenplays_collect w).2, List.map_map]
    rfl
  have hcard := card_screenplayPaths ((writtenFilms w).map Prod.fst)
  rw [← hnew, List.length_map, List.map_map] at hcard
  refine ⟨hwanted, by rw [hnew, List.map_map]; rfl, hreport.imp_right ?_⟩
  rintro ⟨failed, hlines⟩
  refine ⟨_, failed, hlines, rfl, ?_, fun hheld => ?_⟩
  · rw [savedFilms, emptiedFilms, length_savedOf_add_emptiedOf]
    exact hcard
  · rw [savedFilms, savedOf_of_held hheld, List.length_map, List.map_map]
    exact hcard

end

/-- The world of two films whose titles differ by one sign, from different years. -/
def remakeWorld : World :=
  { twinWorld with
    files := ⟨["screenplays"], [(listFile, Json.write Json.stored (.arr [
      Json.object [("title", "Us/Them"), ("year", .int 1999), ("imsdb_url", "one")],
      Json.object [("title", "Us:Them"), ("year", .int 2001), ("imsdb_url", "two")]]))]⟩ }

/-- Both films are reported, and both are there. -/
theorem reported_eq_new_iff_nodup_sample :
    Ends collect remakeWorld () (outcome collect remakeWorld).2 ∧
    (outcome collect remakeWorld).2.EndsWith (roundReport 2 0) ∧
    (newScreenplays remakeWorld (outcome collect remakeWorld).2).card = 2 := by
  have hrun : (outcome collect remakeWorld).1.toOption = some () ∧
      (outcome collect remakeWorld).2.EndsWith (roundReport 2 0) ∧
      (savedFilms remakeWorld).map Movie.safeName =
        ["Us-Them (1999)".toList, "Us-Them (2001)".toList] := by decide +kernel
  obtain ⟨hend, hlines, hnames⟩ := hrun
  obtain ⟨w', hends, rfl⟩ := exists_ends_of_toOption hend
  refine ⟨hends, hlines, ?_⟩
  have hlength : (savedFilms remakeWorld).length = 2 := by
    rw [← List.length_map (f := Movie.safeName), hnames]
    rfl
  obtain ⟨-, -, ⟨-, hnone⟩ | ⟨n, failed, -, hn, -, hiff⟩⟩ := reported_eq_new_iff_nodup hends
  · rw [savedFilms, hnone] at hnames
    cases hnames
  · rw [hlength] at hn
    rw [hn] at hiff
    refine (hiff fun _ _ => rfl).2 ?_
    rw [hnames]
    decide

/-- **Two films can be reported where one file is new**: the second one is written over the first
one, which has the same name. -/
theorem two_reported_one_new :
    Ends collect twinWorld () (outcome collect twinWorld).2 ∧
    (outcome collect twinWorld).2.EndsWith (roundReport 2 0) ∧
    newScreenplays twinWorld (outcome collect twinWorld).2 =
      {"screenplays/Us-Them (1999).fountain".toList} := by
  have hrun : (outcome collect twinWorld).1.toOption = some () ∧
      (outcome collect twinWorld).2.EndsWith (roundReport 2 0) ∧
      newScreenplays twinWorld (outcome collect twinWorld).2 =
        {"screenplays/Us-Them (1999).fountain".toList} := by decide +kernel
  obtain ⟨hend, hlines, hnew⟩ := hrun
  obtain ⟨w', hends, rfl⟩ := exists_ends_of_toOption hend
  exact ⟨hends, hlines, hnew⟩

end Gleaner.Film
