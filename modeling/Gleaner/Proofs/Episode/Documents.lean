import Gleaner.Episode.Printing
import Gleaner.Proofs.Episode.ListKept
import Gleaner.Proofs.World.LastLines

/-!
# Documents are made once

The printing program makes a document of every stored transcript that has none.  What a document
looks like is left to the renderer; the program relies on one promise of it, that a page which can
be rendered once can be rendered always (`Renderer.steady`).

**Names.**  A transcript lies in the folder under a name with its own suffix, and its document
beside it (`IsTranscript`).  Two transcripts can share a document: one whose name is nothing but the
suffix, and one whose name has the suffix twice.

**One transcript.**  It is pending if it has no document and one can be made.  A step makes the
document of a pending transcript and leaves the files alone otherwise (`exists_step`).

**All transcripts.**  A document never makes a transcript pending, nor changes one.  So after a run
no transcript is pending (`exists_ends_printFrom`), and the next run finds nothing to do, in
whatever order the two runs go through the folder (`documents_made_once`).
-/

namespace Gleaner.Episode

/-! ## Names -/

/-- The stored transcripts. -/
def transcripts [Platform] (fs : Files) : List Text :=
  fs.list folder ".fountain"

lemma mem_transcripts [Platform] {fs : Files} {path : Text} :
    path ∈ transcripts fs ↔ path ∈ fs.contents.map (·.1) ++ fs.folders ∧
      Path.parent path = folder ∧ Text.endsWith (Path.name path) ".fountain" = true := by
  rw [transcripts, Files.list, (Platform.arrange_perm _).mem_iff, List.mem_filter,
    Bool.and_eq_true, beq_iff_eq]

/-- Platforms list the same transcripts, each in its own order. -/
lemma transcripts_perm (here there : Platform) (fs : Files) :
    (@transcripts here fs).Perm (@transcripts there fs) :=
  (here.arrange_perm _).trans (there.arrange_perm _).symm

/-- The path of the document of a transcript. -/
def documentOf (path : Text) : Text :=
  Path.withSuffix path ".pdf"

/-- A transcript lies in the folder, and so does its document, under a name of another kind that is
not too long. -/
structure IsTranscript (path : Text) : Prop where
  inFolder : ∃ name, Path.IsName name ∧ Text.endsWith name ".fountain" = true ∧
    path = Path.join folder name
  document : ∃ name, Path.IsName name ∧ Text.endsWith name ".fountain" = false ∧
    Path.byteLength name ≤ Path.maxPart ∧ documentOf path = Path.join folder name
  noNull : List.contains path '\x00' = false → List.contains (documentOf path) '\x00' = false

/-- A name that ends like a document does not end like a transcript. -/
lemma endsWith_fountain_of_document (t : Text) :
    Text.endsWith (t ++ ".pdf".toList) ".fountain" = false := by
  refine Bool.eq_false_iff.2 fun h => ?_
  obtain ⟨front, hfront⟩ := List.isSuffixOf_iff_suffix.1 h
  have hlast := congrArg List.getLast? hfront
  rw [List.getLast?_append, List.getLast?_append,
    show ".fountain".toList.getLast? = some 'n' by decide,
    show ".pdf".toList.getLast? = some 'f' by decide] at hlast
  cases hlast

/-- The stem of a transcript is its name without the suffix, or the whole name if it is nothing but
the suffix. -/
lemma splitSuffix_fountain (t : Text) :
    (Path.splitSuffix (t ++ ".fountain".toList)).1 = if t = [] then ".fountain".toList else t := by
  split_ifs with ht
  · rw [ht]
    exact congrArg Prod.fst (Path.splitSuffix_dot (by decide))
  · exact congrArg Prod.fst (Path.splitSuffix_append ht (by decide) (by decide))

lemma mem_of_mem_stem {t : Text} {c : Char}
    (h : c ∈ (Path.splitSuffix (t ++ ".fountain".toList)).1) : c ∈ t ++ ".fountain".toList := by
  rw [splitSuffix_fountain] at h
  split_ifs at h
  · exact List.mem_append_right t h
  · exact List.mem_append_left _ h

lemma byteLength_document_le {t : Text}
    (h : Path.byteLength (t ++ ".fountain".toList) ≤ Path.maxPart) :
    Path.byteLength ((Path.splitSuffix (t ++ ".fountain".toList)).1 ++ ".pdf".toList) ≤
      Path.maxPart := by
  rw [splitSuffix_fountain]
  split_ifs
  · decide
  · rw [Path.byteLength_append] at h ⊢
    exact (Nat.add_le_add_left (by decide) _).trans h

lemma isTranscript_of_mem [Platform] {fs : Files} {path : Text} (h : path ∈ transcripts fs)
    (hshort : Path.byteLength (Path.name path) ≤ Path.maxPart) : IsTranscript path := by
  obtain ⟨-, hparent, hending⟩ := mem_transcripts.1 h
  obtain ⟨name, hstroke, rfl⟩ := Path.exists_join_of_parent isName_folder hparent
  rw [Path.name_join isName_folder hstroke] at hending hshort
  obtain ⟨t, rfl⟩ := List.isSuffixOf_iff_suffix.1 hending
  have hdocument := Path.withSuffix_join isName_folder hstroke ".pdf"
  refine ⟨⟨_, Path.isName_of_length (by simp) hstroke, hending, rfl⟩,
    ⟨_, ?_, endsWith_fountain_of_document _, byteLength_document_le hshort, hdocument⟩, ?_⟩
  · refine Path.isName_of_length (by simp) fun hmem => ?_
    rcases List.mem_append.1 hmem with hmem | hmem
    · exact hstroke (mem_of_mem_stem hmem)
    · exact absurd hmem (by decide)
  · intro hnull
    rw [documentOf, hdocument]
    rw [Path.join_eq isName_folder.ne_nil] at hnull ⊢
    simp only [List.contains_eq_mem, decide_eq_false_iff_not, List.mem_append, List.mem_cons,
      not_or] at hnull ⊢
    refine ⟨hnull.1, hnull.2.1, fun hmem => ?_, by decide⟩
    exact (List.mem_append.1 (mem_of_mem_stem hmem)).elim hnull.2.2.1 hnull.2.2.2

/-! ## One transcript -/

variable {r : Renderer} {fs : Files} {path : Text}

/-- A file that is the document of a transcript. -/
def MadeFrom (r : Renderer) (fs : Files) (path : Text) (file : Text × Text) : Prop :=
  file.1 = documentOf path ∧
    ∃ content w, fs.read path = .ok content ∧ r.draw w (pageOf path content) = .ok file.2

/-- A transcript of which a document can be made. -/
def Printable (r : Renderer) (fs : Files) (path : Text) : Prop :=
  ∃ content w, fs.read path = .ok content ∧ (r.draw w (pageOf path content)).isOk = true

/-- A transcript that has no document although one can be made. -/
def Pending (r : Renderer) (fs : Files) (path : Text) : Prop :=
  fs.present (documentOf path) = .ok false ∧ Printable r fs path

lemma MadeFrom.printable {file : Text × Text} (h : MadeFrom r fs path file) :
    Printable r fs path := by
  obtain ⟨-, content, w, hread, hdraw⟩ := h
  exact ⟨content, w, hread, by rw [hdraw]; rfl⟩

/-- A steady renderer makes the document in every world. -/
lemma Printable.exists_draw (h : Printable r fs path) (w : World) :
    ∃ content document, fs.read path = .ok content ∧
      r.draw w (pageOf path content) = .ok document := by
  obtain ⟨content, v, hread, hok⟩ := h
  rw [r.steady v w] at hok
  cases hdraw : r.draw w (pageOf path content) with
  | error f =>
      rw [hdraw] at hok
      cases hok
  | ok document => exact ⟨content, document, hread, hdraw⟩

namespace IsTranscript

lemma exists_present (h : IsTranscript path) (fs : Files) :
    ∃ b, fs.present (documentOf path) = .ok b := by
  obtain ⟨name, hname, -, hlength, hdocument⟩ := h.document
  rw [hdocument]
  exact Files.exists_present_join isName_folder byteLength_folder_le hname hlength

/-- A document that is not there can be written beside a transcript that can be read, as a new file
behind the others. -/
lemma write_of_absent (h : IsTranscript path) {content : Text} (hread : fs.read path = .ok content)
    (habsent : fs.present (documentOf path) = .ok false) (document : Text) :
    fs.content? (documentOf path) = none ∧
      fs.write (documentOf path) document = .ok (fs.adding [(documentOf path, document)]) := by
  obtain ⟨hnull, place, _, hres, -⟩ := Files.read_eq_ok_iff.1 hread
  have hnull' := h.noNull hnull
  obtain ⟨source, hsource, -, hpath⟩ := h.inFolder
  rw [hpath] at hres
  have hthere := Files.isFolder_of_resolve_join isName_folder hsource hres
  obtain ⟨name, hname, -, hlength, hdocument⟩ := h.document
  rw [hdocument] at habsent hnull' ⊢
  have hfree := Files.content?_of_present_join isName_folder byteLength_folder_le hname hthere
    hnull' habsent
  obtain ⟨fs', hwrite⟩ := Files.exists_write_of_absent isName_folder byteLength_folder_le hname
    hlength hnull' hthere habsent document
  refine ⟨hfree, ?_⟩
  rw [hwrite, Files.eq_of_write_join isName_folder byteLength_folder_le hname hwrite,
    Files.set_of_lookup_eq_none document hfree, Files.adding]

/-- No document is a transcript. -/
lemma documentOf_ne {path' : Text} (h : IsTranscript path) (h' : IsTranscript path') :
    documentOf path' ≠ path := by
  obtain ⟨name, -, hending, rfl⟩ := h.inFolder
  obtain ⟨name', -, hending', -, hdocument⟩ := h'.document
  rw [hdocument]
  intro heq
  rw [Path.join_injective isName_folder.ne_nil heq, hending] at hending'
  cases hending'

end IsTranscript

/-- The files with the document of a transcript. -/
def withDocument (r : Renderer) (w : World) (path : Text) : Except Fault Files := do
  let content ← w.files.read path
  let document ← r.draw w (pageOf path content)
  w.files.write (documentOf path) document

/-- An attempt at a document changes the files or ends with a fault. -/
lemma outcome_attempted (r : Renderer) (path : Text) (w : World) :
    outcome (do
        let content ← readFile path
        r.render (pageOf path content) (documentOf path)) w =
      match withDocument r w path with
      | .ok files => (.ok (), { w with files := files })
      | .error f => (.error (.fault f), w) := by
  cases hread : w.files.read path with
  | error f =>
      have hstop : outcome (readFile path) w = (.error (.fault f), w) := by
        show outcome (Program.lift (w.files.read path)) w = _
        rw [hread]
        rfl
      have hwith : withDocument r w path = .error f := by
        simp only [withDocument, hread, bind, Except.bind]
      rw [outcome_bind, hstop, hwith]
  | ok content =>
      have hends : Ends (readFile path) w content w := ends_readFile.2 ⟨hread, rfl⟩
      have hrender : outcome (r.render (pageOf path content) (documentOf path)) w =
          outcome (Program.lift (r.draw w (pageOf path content)) >>=
            fun document => writeDocument (documentOf path) document) w := rfl
      rw [hends.outcome_bind, hrender]
      cases hdraw : r.draw w (pageOf path content) with
      | error f =>
          have hwith : withDocument r w path = .error f := by
            simp only [withDocument, hread, hdraw, bind, Except.bind]
          rw [hwith]
          rfl
      | ok document =>
          have hwith : withDocument r w path = w.files.write (documentOf path) document := by
            simp only [withDocument, hread, hdraw, bind, Except.bind]
          rw [lift_bind_eq rfl, hwith]
          exact outcome_writeDocument _ _ w

lemma ends_printOne_of_ok {w : World} {files : Files} (h : withDocument r w path = .ok files) :
    Ends (r.printOne path (documentOf path)) w true { w with files := files } := by
  refine ends_bind.2 ⟨.ok (), _, ends_attempt.2 (.inl ⟨(), rfl, ?_⟩), ends_pure.2 ⟨rfl, rfl⟩⟩
  rw [Ends, outcome_attempted, h]

lemma prints_printOne_of_error {w : World} {f : Fault} (h : withDocument r w path = .error f) :
    Prints (r.printOne path (documentOf path)) w false := by
  refine prints_bind (ends_attempt.2 (.inr ⟨f, rfl, ?_⟩)) ?_
  · rw [outcome_attempted, h]
  · exact prints_say_bind rfl fun v _ => prints_pure false v

/-- The document of a transcript that has none is made exactly if it can be. -/
lemma withDocument_of_absent (h : IsTranscript path) {w : World}
    (habsent : w.files.present (documentOf path) = .ok false) :
    (∃ f, withDocument r w path = .error f ∧ ¬Printable r w.files path) ∨
      ∃ file, withDocument r w path = .ok (w.files.adding [file]) ∧
        MadeFrom r w.files path file ∧ w.files.content? file.1 = none := by
  unfold withDocument
  by_cases hprintable : Printable r w.files path
  · obtain ⟨content, document, hread, hdraw⟩ := hprintable.exists_draw w
    obtain ⟨hfree, hwrite⟩ := h.write_of_absent hread habsent document
    refine .inr ⟨(documentOf path, document), ?_, ⟨rfl, content, w, hread, hdraw⟩, hfree⟩
    simp only [hread, hdraw, hwrite, bind, Except.bind]
  · refine .inl ?_
    cases hread : w.files.read path with
    | error f => exact ⟨f, rfl, hprintable⟩
    | ok content =>
        cases hdraw : r.draw w (pageOf path content) with
        | error f => exact ⟨f, by simp only [hdraw, bind, Except.bind], hprintable⟩
        | ok document => exact absurd ⟨content, w, hread, by rw [hdraw]; rfl⟩ hprintable

/-! ## What a run adds -/

/-- The documents that a run over some transcripts adds: each under a name of its own that was free,
made of a transcript that was pending.  Afterwards none of the transcripts is pending. -/
structure Adds (r : Renderer) (paths : List Text) (fs : Files) (new : List (Text × Text))
    (fs' : Files) : Prop where
  files : fs' = fs.adding new
  nodup : (new.map (·.1)).Nodup
  free : ∀ file ∈ new, fs.content? file.1 = none
  made : ∀ file ∈ new, ∃ path ∈ paths, Pending r fs path ∧ MadeFrom r fs path file
  settled : ∀ path ∈ paths, ¬Pending r fs' path

section

variable {paths more : List Text} {new new' : List (Text × Text)} {fs' fs'' : Files}

lemma Adds.nil (r : Renderer) (fs : Files) : Adds r [] fs [] fs where
  files := (fs.adding_nil).symm
  nodup := List.nodup_nil
  free := by simp
  made := by simp
  settled := by simp

/-- A transcript that is not pending adds nothing. -/
lemma Adds.of_not_pending (h : ¬Pending r fs path) : Adds r [path] fs [] fs where
  files := (fs.adding_nil).symm
  nodup := List.nodup_nil
  free := by simp
  made := by simp
  settled := by simpa using h

/-- Transcripts none of which is pending add nothing. -/
lemma Adds.eq_nil (h : Adds r paths fs new fs') (hsettled : ∀ path ∈ paths, ¬Pending r fs path) :
    new = [] := by
  refine List.eq_nil_iff_forall_not_mem.2 fun file hfile => ?_
  obtain ⟨path, hpath, hpending, -⟩ := h.made file hfile
  exact hsettled path hpath hpending

/-- **Documents do not change transcripts.** -/
lemma Adds.read_iff (h : Adds r paths fs new fs') (hpaths : ∀ path ∈ paths, IsTranscript path)
    (hpath : IsTranscript path) {t : Text} : fs'.read path = .ok t ↔ fs.read path = .ok t := by
  have hfolders : fs'.folders = fs.folders := by rw [h.files, Files.adding]
  have hcontent : fs'.content? path = fs.content? path := by
    rw [h.files]
    refine Files.content?_adding_of_notMem fun file hfile => ?_
    obtain ⟨source, hsource, -, hmade⟩ := h.made file hfile
    rw [hmade.1]
    exact hpath.documentOf_ne (hpaths source hsource)
  obtain ⟨name, hname, -, rfl⟩ := hpath.inFolder
  exact ⟨Files.read_of_content?_eq isName_folder byteLength_folder_le hname hfolders.symm
      hcontent.symm,
    Files.read_of_content?_eq isName_folder byteLength_folder_le hname hfolders hcontent⟩

/-- **Documents do not make a transcript pending.** -/
lemma Adds.pending (h : Adds r paths fs new fs') (hpaths : ∀ path ∈ paths, IsTranscript path)
    (hpath : IsTranscript path) (hpending : Pending r fs' path) : Pending r fs path := by
  obtain ⟨habsent, content, w, hread, hok⟩ := hpending
  refine ⟨?_, content, w, (h.read_iff hpaths hpath).1 hread, hok⟩
  obtain ⟨b, hb⟩ := hpath.exists_present fs
  cases b with
  | false => exact hb
  | true =>
      have hgrows : Files.Grows fs fs' := by
        rw [h.files]
        exact .adding fs new
      rw [hgrows.present hb] at habsent
      cases habsent

lemma Adds.append (h : Adds r paths fs new fs') (h' : Adds r more fs' new' fs'')
    (hpaths : ∀ path ∈ paths, IsTranscript path) (hmore : ∀ path ∈ more, IsTranscript path) :
    Adds r (paths ++ more) fs (new ++ new') fs'' := by
  have hfree : ∀ file ∈ new', fs.content? file.1 = none ∧ new.lookup file.1 = none := by
    intro file hfile
    have hnone := h'.free file hfile
    rw [h.files, Files.content?_adding, Option.or_eq_none_iff] at hnone
    exact hnone
  constructor
  case files => rw [h'.files, h.files, Files.adding_adding]
  case nodup =>
    rw [List.map_append, List.nodup_append]
    refine ⟨h.nodup, h'.nodup, ?_⟩
    intro p hp q hq heq
    obtain ⟨file, hfile, rfl⟩ := List.mem_map.1 hp
    obtain ⟨file', hfile', rfl⟩ := List.mem_map.1 hq
    have hne := List.lookup_eq_none_iff.1 (hfree file' hfile').2 file hfile
    exact bne_iff_ne.1 hne heq.symm
  case free =>
    intro file hfile
    rcases List.mem_append.1 hfile with hfile | hfile
    · exact h.free file hfile
    · exact (hfree file hfile).1
  case made =>
    intro file hfile
    rcases List.mem_append.1 hfile with hfile | hfile
    · obtain ⟨path, hpath, hmade⟩ := h.made file hfile
      exact ⟨path, List.mem_append_left _ hpath, hmade⟩
    · obtain ⟨path, hpath, hpending, hname, content, w, hread, hdraw⟩ := h'.made file hfile
      refine ⟨path, List.mem_append_right _ hpath, h.pending hpaths (hmore path hpath) hpending,
        hname, content, w, ?_, hdraw⟩
      exact (h.read_iff hpaths (hmore path hpath)).1 hread
  case settled =>
    intro path hpath hpending
    rcases List.mem_append.1 hpath with hpath | hpath
    · exact h.settled path hpath (h'.pending hmore (hpaths path hpath) hpending)
    · exact h'.settled path hpath hpending

/-- A document that is made settles its transcript. -/
lemma Adds.of_made {file : Text × Text} (h : IsTranscript path) (hpending : Pending r fs path)
    (hmade : MadeFrom r fs path file) (hfree : fs.content? file.1 = none) :
    Adds r [path] fs [file] (fs.adding [file]) where
  files := rfl
  nodup := by simp
  free := by simpa using hfree
  made := by
    intro f hf
    rw [List.mem_singleton.1 hf]
    exact ⟨path, List.mem_singleton_self path, hpending, hmade⟩
  settled := by
    intro p hp
    rw [List.mem_singleton.1 hp]
    rintro ⟨habsent, -⟩
    obtain ⟨hname, content, w, hread, hdraw⟩ := hmade
    obtain ⟨-, hwrite⟩ := h.write_of_absent hread hpending.1 file.2
    rw [← hname] at hwrite habsent
    rw [Files.present_of_write hwrite] at habsent
    cases habsent

/-- A folder lists the same transcripts beside new documents. -/
lemma Adds.transcripts_eq [Platform] (h : Adds r paths fs new fs')
    (hpaths : ∀ path ∈ paths, IsTranscript path) : transcripts fs' = transcripts fs := by
  rw [transcripts, transcripts, h.files]
  refine Files.list_adding fun file hfile => ?_
  obtain ⟨path, hpath, -, hname, -⟩ := h.made file hfile
  obtain ⟨name, hisName, hending, -, hdocument⟩ := (hpaths path hpath).document
  rw [hname, hdocument, Path.name_join isName_folder hisName.noStroke]
  exact hending

end

/-! ## Runs -/

/-- How many transcripts were counted. -/
def Tally.total (tally : Tally) : Nat :=
  tally.successful + tally.skipped + tally.failed

/-- The lines that a run over a number of transcripts prints last. -/
def Tally.report (tally : Tally) (total : Nat) : List (List Text) :=
  if total = 0 then [["No .fountain files found in ", folder]] else tally.summary total

/-- **One step.**  A transcript is counted once, and as printed exactly if a document is added. -/
lemma exists_step (r : Renderer) (h : IsTranscript path) (total i : Nat) (rest : List Text)
    (tally : Tally) (w : World) :
    ∃ v new tally', outcome (r.printFrom total i (path :: rest) tally) w =
        outcome (r.printFrom total (i + 1) rest tally') v ∧
      Adds r [path] w.files new v.files ∧ tally'.total = tally.total + 1 ∧
      tally'.successful = tally.successful + new.length := by
  obtain ⟨b, hb⟩ := h.exists_present w.files
  have hexists : Ends (fileExists (documentOf path)) w b w := ends_fileExists.2 ⟨hb, rfl⟩
  have hrun : outcome (r.printFrom total i (path :: rest) tally) w = _ := hexists.outcome_bind _
  rw [hrun]
  cases b with
  | true =>
      rw [if_pos rfl]
      obtain ⟨v, hv, hrun⟩ := exists_outcome_say_bind _ _ w
      refine ⟨v, [], _, hrun, ?_, ?_, rfl⟩
      · rw [hv.files]
        refine .of_not_pending fun hpending => ?_
        rw [hpending.1] at hb
        cases hb
      · simp only [Tally.total]
        omega
  | false =>
      rw [if_neg (by decide)]
      obtain ⟨v, hv, hrun⟩ := exists_outcome_print_bind _ _ w
      rw [hrun]
      rw [← hv.files] at hb
      rcases withDocument_of_absent (r := r) h hb with ⟨f, hfail, hnot⟩ | ⟨file, hok, hmade, hfree⟩
      · obtain ⟨v₁, hone, hv₁⟩ := prints_printOne_of_error hfail
        obtain ⟨v₂, hv₂, hrun⟩ := exists_outcome_say_bind ["✗"] _ v₁
        refine ⟨v₂, [], _, (hone.outcome_bind _).trans hrun, ?_, ?_, rfl⟩
        · rw [hv₂.files, hv₁.files, ← hv.files]
          exact .of_not_pending fun hpending => hnot hpending.2
        · simp only [Tally.total]
          omega
      · have hone := ends_printOne_of_ok hok
        obtain ⟨v₂, hv₂, hrun⟩ := exists_outcome_say_bind ["✓"] _ { v with files := _ }
        refine ⟨v₂, [file], _, (hone.outcome_bind _).trans hrun, ?_, ?_, rfl⟩
        · rw [hv₂.files, ← hv.files]
          exact .of_made h ⟨hb, hmade.printable⟩ hmade hfree
        · simp only [Tally.total]
          omega

/-- **A whole list.**  Every transcript is counted, and the documents that were added are those that
were counted as printed. -/
lemma exists_ends_printFrom (r : Renderer) (total : Nat) {paths : List Text}
    (h : ∀ path ∈ paths, IsTranscript path) : ∀ (i : Nat) (tally : Tally) (w : World),
      ∃ w' new tally', Ends (r.printFrom total i paths tally) w tally' w' ∧
        Adds r paths w.files new w'.files ∧ tally'.total = tally.total + paths.length ∧
        tally'.successful = tally.successful + new.length := by
  induction paths with
  | nil => exact fun i tally w => ⟨w, [], tally, ends_pure.2 ⟨rfl, rfl⟩, .nil r w.files, rfl, rfl⟩
  | cons path rest ih =>
      intro i tally w
      have hpath : IsTranscript path := h path (by simp)
      have hrest : ∀ p ∈ rest, IsTranscript p := fun p hp => h p (by simp [hp])
      obtain ⟨v, new, tally₁, hstep, hadds, htotal, hsuccessful⟩ :=
        exists_step r hpath total i rest tally w
      obtain ⟨w', more, tally', hends, hadds', htotal', hsuccessful'⟩ := ih hrest (i + 1) tally₁ v
      refine ⟨w', new ++ more, tally', hstep.trans hends, ?_, ?_, ?_⟩
      · exact hadds.append hadds' (by simpa using hpath) hrest
      · rw [htotal', htotal, List.length_cons]
        omega
      · rw [hsuccessful', hsuccessful, List.length_append, Nat.add_assoc]

/-- What is done about the transcripts that were listed. -/
def printListed (r : Renderer) (paths : List Text) : Program Unit := do
  if paths.isEmpty then
    say ["No .fountain files found in ", folder]
  else do
    say ["\nFound ", Text.ofNat paths.length, " fountain files"]
    let tally ← r.printFrom paths.length 0 paths ⟨0, 0, 0⟩
    (tally.summary paths.length).forM say

/-- A run prints three lines and goes on with the transcripts. -/
lemma exists_printListed [Platform] (r : Renderer) (w : World) :
    ∃ v, Printed w v ∧ outcome r.printAll w = outcome (printListed r (transcripts w.files)) v := by
  unfold Renderer.printAll
  obtain ⟨v₁, hv₁, hrun₁⟩ := exists_outcome_say_bind [ruler] _ w
  obtain ⟨v₂, hv₂, hrun₂⟩ := exists_outcome_say_bind ["South Park Fountain to PDF Converter"] _ v₁
  obtain ⟨v₃, hv₃, hrun₃⟩ := exists_outcome_say_bind [ruler] _ v₂
  have hv : Printed w v₃ := trans_of Printed (trans_of Printed hv₁ hv₂) hv₃
  have hget : Ends (get : Program World) v₃ v₃ v₃ := rfl
  refine ⟨v₃, hv, ?_⟩
  rw [hrun₁, hrun₂, hrun₃, hget.outcome_bind, transcripts, ← hv.files]
  rfl

lemma exists_ends_printListed (r : Renderer) {paths : List Text}
    (h : ∀ path ∈ paths, IsTranscript path) (w : World) :
    ∃ (w' : World) (new : List (Text × Text)) (tally : Tally),
      Ends (printListed r paths) w () w' ∧ Adds r paths w.files new w'.files ∧
      tally.total = paths.length ∧ tally.successful = new.length ∧
      w'.EndsWith (tally.report paths.length) := by
  unfold printListed
  cases paths with
  | nil =>
      obtain ⟨v, hsay, hv⟩ : ∃ v, Ends (say ["No .fountain files found in ", folder]) w () v ∧
          Printed w v := ⟨_, ends_say.2 rfl, rfl⟩
      refine ⟨v, [], ⟨0, 0, 0⟩, hsay, ?_, rfl, rfl, endsWith_of_say (endsWith_nil w) hsay⟩
      rw [hv.files]
      exact .nil r w.files
  | cons path rest =>
      generalize hpaths : path :: rest = paths at h ⊢
      have hne : paths ≠ [] := by simp [← hpaths]
      rw [if_neg (by simpa using hne)]
      obtain ⟨v, hv, hrun⟩ := exists_outcome_say_bind
        ["\nFound ", Text.ofNat paths.length, " fountain files"] _ w
      obtain ⟨v₁, new, tally, hends, hadds, htotal, hsuccessful⟩ :=
        exists_ends_printFrom r paths.length h 0 ⟨0, 0, 0⟩ v
      obtain ⟨w', hlines, hw', hlast⟩ :=
        exists_ends_forM_say (tally.summary paths.length) (endsWith_nil v₁)
      refine ⟨w', new, tally, ?_, ?_, ?_, ?_, ?_⟩
      · rw [Ends, hrun, hends.outcome_bind, hlines]
      · rwa [hw'.files, ← hv.files]
      · simpa [Tally.total] using htotal
      · simpa using hsuccessful
      · rw [Tally.report, if_neg (by simpa using hne)]
        exact hlast

lemma exists_ends_printAll [Platform] (r : Renderer) {w : World}
    (h : ∀ path ∈ transcripts w.files, IsTranscript path) :
    ∃ (w' : World) (new : List (Text × Text)) (tally : Tally), Ends r.printAll w () w' ∧
      Adds r (transcripts w.files) w.files new w'.files ∧
      tally.total = (transcripts w.files).length ∧ tally.successful = new.length ∧
      w'.EndsWith (tally.report (transcripts w.files).length) := by
  obtain ⟨v, hv, hrun⟩ := exists_printListed r w
  obtain ⟨w', new, tally, hends, hadds, hcounts⟩ := exists_ends_printListed r h v
  rw [hv.files] at hadds
  exact ⟨w', new, tally, hrun.trans hends, hadds, hcounts⟩

/-- **Documents are made once, and every transcript is accounted for.**  Let no transcript have a
name that is too long for a file.  Then the program ends, with any renderer.  It adds documents and
changes nothing else, the counts that it prints last add up to the number of transcripts, as many
are counted as printed as there are new documents, and every transcript of which a document can be
made has one.  Whenever it is run again on these files, in whatever order they are listed then, it
ends, prints none, and leaves the files as they are. -/
theorem documents_made_once [here : Platform] (r : Renderer) {w : World}
    (hshort : ∀ path ∈ transcripts w.files, Path.byteLength (Path.name path) ≤ Path.maxPart) :
    ∃ (w₁ : World) (new : List (Text × Text)) (tally : Tally), Ends r.printAll w () w₁ ∧
      Adds r (transcripts w.files) w.files new w₁.files ∧
      tally.total = (transcripts w.files).length ∧ tally.successful = new.length ∧
      w₁.EndsWith (tally.report (transcripts w.files).length) ∧
      (∀ path ∈ transcripts w.files, Printable r w.files path →
        w₁.files.present (documentOf path) = .ok true) ∧
      ∀ (later : Platform) (w₂ : World), w₂.files = w₁.files → ∃ (w₃ : World) (tally₂ : Tally),
        Ends (@Renderer.printAll later r) w₂ () w₃ ∧ w₃.files = w₁.files ∧
        tally₂.total = (transcripts w.files).length ∧ tally₂.successful = 0 ∧
        w₃.EndsWith (tally₂.report (transcripts w.files).length) := by
  have hall : ∀ path ∈ transcripts w.files, IsTranscript path := fun path hpath =>
    isTranscript_of_mem hpath (hshort path hpath)
  obtain ⟨w₁, new, tally, hends, hadds, htotal, hsuccessful, hlast⟩ := exists_ends_printAll r hall
  refine ⟨w₁, new, tally, hends, hadds, htotal, hsuccessful, hlast, ?_, ?_⟩
  · rintro path hpath ⟨content, v, hread, hok⟩
    obtain ⟨b, hb⟩ := (hall path hpath).exists_present w₁.files
    cases b with
    | true => exact hb
    | false =>
        have hread₁ := (hadds.read_iff hall (hall path hpath)).2 hread
        exact absurd ⟨hb, content, v, hread₁, hok⟩ (hadds.settled path hpath)
  · intro later w₂ hw₂
    have hsame : transcripts w₂.files = transcripts w.files := hw₂ ▸ hadds.transcripts_eq hall
    have hperm := transcripts_perm later here w.files
    obtain ⟨w₃, new₂, tally₂, hends₂, hadds₂, htotal₂, hsuccessful₂, hlast₂⟩ :=
      exists_ends_printAll r fun path hpath => hall path (hperm.mem_iff.1 (hsame ▸ hpath))
    rw [hsame] at hadds₂ htotal₂ hlast₂
    -- nothing was left pending, so nothing is added
    obtain rfl := hadds₂.eq_nil fun path hpath =>
      hw₂ ▸ hadds.settled path (hperm.mem_iff.1 hpath)
    refine ⟨w₃, tally₂, hends₂, ?_, htotal₂, hsuccessful₂, hlast₂⟩
    rw [hadds₂.files, Files.adding_nil, hw₂]

/-- A folder with two transcripts that share a document, one that cannot be rendered, one that has
its document, and a folder that is named like a transcript. -/
def shelf : World :=
  { sampleWorld with
    files := ⟨["transcripts", "transcripts/D.fountain"], [
      ("transcripts/.fountain", "INT. STREET"), ("transcripts/.fountain.fountain", "INT. SCHOOL"),
      ("transcripts/A.fountain", "__RENDER_FAIL__"), ("transcripts/B.fountain", "Hi."),
      ("transcripts/B.pdf", "PDF")]⟩ }

/-- One of the two gets the document and the other is passed over; a second run makes none. -/
theorem documents_made_once_sample :
    (∀ path ∈ transcripts shelf.files, Path.byteLength (Path.name path) ≤ Path.maxPart) ∧
    (transcripts shelf.files).length = 5 ∧
    ∃ (w₁ : World) (tally : Tally), Ends plain.printAll shelf () w₁ ∧ tally.total = 5 ∧
      w₁.EndsWith (tally.report 5) ∧ w₁.files.present "transcripts/.fountain.pdf" = .ok true ∧
      ∃ (w₂ : World) (tally₂ : Tally), Ends plain.printAll w₁ () w₂ ∧ w₂.files = w₁.files ∧
        tally₂.successful = 0 := by
  have hshort : ∀ path ∈ transcripts shelf.files,
      Path.byteLength (Path.name path) ≤ Path.maxPart := by
    have hall : ∀ path ∈ shelf.files.contents.map (·.1) ++ shelf.files.folders,
        Path.byteLength (Path.name path) ≤ Path.maxPart := by
      decide +kernel
    exact fun path hpath => hall path (mem_transcripts.1 hpath).1
  have hlength : (transcripts shelf.files).length = 5 := by
    decide +kernel
  obtain ⟨w₁, new, tally, hends, -, htotal, -, hlast, hthere, hagain⟩ :=
    documents_made_once plain hshort
  rw [hlength] at htotal hlast
  obtain ⟨w₂, tally₂, hends₂, hfiles, -, hnone, -⟩ := hagain _ w₁ rfl
  refine ⟨hshort, hlength, w₁, tally, hends, htotal, hlast, ?_, w₂, tally₂, hends₂, hfiles, hnone⟩
  refine hthere "transcripts/.fountain" (mem_transcripts.2 (by decide +kernel)) ?_
  exact ⟨"INT. STREET", shelf, by decide +kernel, by decide +kernel⟩

end Gleaner.Episode
