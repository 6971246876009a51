import Gleaner.Markup.Node
import Gleaner.Proofs.Markup.Scanning
import Gleaner.Proofs.Screenplay.Reading
import Gleaner.Screenplay.PrintedPage

/-!
# What the printed page shows

A page is written without escaping anything, and it is read as markup.  So what a reader of the page
finds in its blocks need not be what the script says.  For texts that open no markup it is the
script with its references replaced, and the page shows the script itself exactly if there is
nothing to replace: `page_shows_script_iff`.

**Lines.**  Every line between the first and the last one is read as one node: `Sets`.  The scanner
takes the line apart whatever follows it, and the tokens add the node to the body of the page
whatever stands there before (`Adds`).  This is shown for blocks (`sets_block`) and for the header
(`sets_header`), and from it the tree of the page follows by induction on its lines (`parse_page`).

**Blocks.**  A reader looks for the blocks in the body of the tree.  The header is none
(`blocksOf_headerNode`), and each block is found with its class and its text (`found_blockNodes`).
-/

namespace Gleaner.Text

lemma cut?_append {sep : Char} {a : Text} (ha : sep ∉ a) (b : Text) :
    cut? sep (a ++ sep :: b) = some (a, b) := by
  induction a with
  | nil => simp [cut?]
  | cons c a ih =>
      rw [List.mem_cons, not_or] at ha
      simp [cut?, Ne.symm ha.1, ih ha.2]

/-- Joined lines, of which there are a first and a last one. -/
lemma join_between (sep : Char) (first last : Text) (ls : List Text) :
    join [sep] (first :: (ls ++ [last])) = first ++ (ls.flatMap (sep :: ·) ++ sep :: last) := by
  induction ls generalizing first with
  | nil =>
      rw [List.nil_append, join_cons [sep] first (by simp), List.append_assoc]
      rfl
  | cons l ls ih =>
      rw [List.cons_append, join_cons [sep] first (by simp), ih]
      simp

end Gleaner.Text

namespace Gleaner.Markup.Token

open Text

/-! ## The tags of a page -/

section

variable {v rest : Text}

/-- The class of a block, behind the name of its tag. -/
lemma attributes_class (hv : '"' ∉ v) (rest : Text) {n : Nat} (hn : 2 ≤ n) :
    Tag.attributes ' ' n ("class=\"".toList ++ (v ++ '"' :: '>' :: rest)) =
      ([("class".toList, v)], '>' :: rest) := by
  obtain ⟨n, rfl⟩ := Nat.exists_eq_add_of_le' hn
  have hcut := cut?_append hv ('>' :: rest)
  have hvalue : Tag.value? ('=' :: '"' :: (v ++ '"' :: '>' :: rest)) =
      some (v, '"', '>' :: rest) := by
    simp [Tag.value?, stripLeft, isBlank, hcut]
  have hname : ('l' :: 'a' :: 's' :: 's' :: '=' :: '"' :: (v ++ '"' :: '>' :: rest)).takeWhile
      (fun c => !Tag.isAttributeEnd c) = ['l', 'a', 's', 's'] := rfl
  have hend : Tag.attributes '"' (n + 1) ('>' :: rest) = ([], '>' :: rest) := rfl
  have hskip : Tag.skipDividers '"' ('>' :: rest) = ('"', '>' :: rest) := rfl
  simp [Tag.attributes, hname, hvalue, hskip, hend, Tag.isDivider, isBlank]

lemma openingTag_div {tail : Text} {written attributes : List (Text × Text)}
    (hwritten : Tag.attributes ' ' (List.length ('c' :: tail)) ('c' :: tail) =
      (written, '>' :: rest))
    (hresolve : Tag.resolve written = .ok attributes) :
    openingTag ("div c".toList ++ tail) = .ok (.tokens [.opening "div" attributes false] rest) := by
  have hname : ("div c".toList ++ tail).takeWhile (fun c => !Tag.isNameEnd c) = "div".toList := rfl
  have hafter : ("div c".toList ++ tail).drop "div".toList.length = " c".toList ++ tail := rfl
  have hdividers : (" c".toList ++ tail).takeWhile (fun c => isBlank c || c == '/') = [' '] := rfl
  have hbody : (" c".toList ++ tail).drop [' '].length = 'c' :: tail := rfl
  have hlast : ("div".toList ++ [' ']).getLast?.getD 'x' = ' ' := rfl
  have hlower : lower "div".toList = "div".toList := rfl
  unfold openingTag
  simp only [hname, hafter, hdividers, hbody, hlast, hwritten, hresolve, hlower]
  rfl

/-- The opening tag of a block. -/
lemma piece?_div (hv : '"' ∉ v) (hresolve : Tag.resolve [("class", v)] = .ok [("class", v)])
    (rest : Text) : piece? ("div class=\"".toList ++ (v ++ "\">".toList) ++ rest) =
      .ok (some (.tokens [.opening "div" [("class", v)] false] rest)) := by
  have hopening := openingTag_div (attributes_class hv rest (by simp)) hresolve
  have hpiece : ∀ t : Text, piece? ('d' :: t) = (openingTag ('d' :: t)).map some := fun _ => rfl
  rw [List.append_assoc, List.append_assoc]
  exact (hpiece _).trans (congrArg (Except.map some) hopening)

end

end Gleaner.Markup.Token

namespace Gleaner.Markup.Builder

open Text Token

/-! ## Building the body of a page -/

/-- The nodes that running text makes. -/
def textNodes (t : Text) : List Node :=
  if t.isEmpty then [] else [.text .running (condensed [] t)]

lemma addText_addText (b : Builder) (s t : Text) :
    (b.addText s).addText t = b.addText (s ++ t) := by
  simp [addText]

/-- Text tokens in a row make one text. -/
lemma foldl_texts (texts : List Text) (b : Builder) : (texts.flatMap ofText).foldl step b =
    if texts.flatten.isEmpty then b else b.addText texts.flatten := by
  induction texts generalizing b with
  | nil => rfl
  | cons t texts ih =>
      rw [List.flatMap_cons, List.foldl_append, List.flatten_cons, ih]
      cases t with
      | nil => rfl
      | cons c t =>
          cases texts.flatten with
          | nil => simp [ofText, step]
          | cons d u => simp [ofText, step, addText_addText]

/-- The newline between two lines of a page. -/
def lineEnd : Node := .text .running ['\n']

/-- The head of a printed page. -/
def pageHead : Node :=
  .element "head" [] [.element "meta" [("charset", "utf-8")] []]

/-- Inside the body of a printed page, with these nodes in it, last first. -/
def inBody (cs : List Node) : Builder where
  frames := [⟨"body", [], cs⟩, ⟨"html", [], [pageHead]⟩, ⟨"[document]", [], []⟩]
  pending := none
  closed := ["meta"]

/-- Tokens that add a node to the body of a page, on a line of its own. -/
def Adds (ts : List Token) (n : Node) : Prop :=
  ∀ cs, (Token.text ['\n'] :: ts).foldl step (inBody cs) = inBody (n :: lineEnd :: cs)

/-- **A block adds one node to the body.** -/
lemma adds_block (attributes : List (Text × Text)) (texts : List Text) :
    Adds (.opening "div" attributes false :: (texts.flatMap ofText ++ [.closing "div"]))
      (.element "div" attributes (textNodes texts.flatten)) := by
  intro cs
  rw [List.foldl_cons, List.foldl_cons, List.foldl_append, foldl_texts]
  cases texts.flatten <;> rfl

lemma adds_header (attributes : List (Text × Text)) (texts : List Text) :
    Adds (.opening "div" attributes false :: .opening "h1" [] false ::
        (texts.flatMap ofText ++ [.closing "h1", .closing "div"]))
      (.element "div" attributes [.element "h1" [] (textNodes texts.flatten)]) := by
  intro cs
  rw [List.foldl_cons, List.foldl_cons, List.foldl_cons, List.foldl_append, foldl_texts]
  cases texts.flatten <;> rfl

/-- The tree of a printed page. -/
def pageTree (ns : List Node) : Node :=
  .element "[document]" [] [.element "html" [] [pageHead,
    .element "body" [] (ns.flatMap (fun n => [lineEnd, n]) ++ [lineEnd])]]

/-- The tokens of the first line of a page. -/
def topTokens : List Token := [
  .opening "html" [] false, .opening "head" [] false, .opening "meta" [("charset", "utf-8")] false,
  .closing "head", .opening "body" [] false]

/-- The tokens of the last line of a page, and of the newline in front of it. -/
def bottomTokens : List Token := [.text ['\n'], .closing "body", .closing "html"]

/-- The tree of a page whose lines have added these nodes. -/
lemma ofTokens_page {ts : List Token} {ns : List Node}
    (h : ts.foldl step (inBody []) = inBody (ns.flatMap fun n => [lineEnd, n]).reverse) :
    Node.ofTokens (topTokens ++ ts ++ bottomTokens) = pageTree ns := by
  have htop : topTokens.foldl step empty = inBody [] := rfl
  have hbottom : ∀ cs, ((bottomTokens.foldl step (inBody cs)).flush).frames =
      [⟨"[document]", [], [.element "html" [] [pageHead,
        .element "body" [] (lineEnd :: cs).reverse]]⟩] := fun _ => rfl
  unfold Node.ofTokens
  rw [List.foldl_append, List.foldl_append, htop, h]
  simp only [hbottom, List.reverse_cons, List.reverse_reverse]
  rfl

end Gleaner.Markup.Builder

namespace Gleaner.Screenplay

open Text Markup Markup.Token Markup.Builder

/-! ## The lines of a page -/

/-- A line of a page that is read as one node. -/
structure Sets (l : Text) (n : Node) : Prop where
  opens : ∃ tail, l = '<' :: tail
  reads : ∀ {rest more}, Scans rest more → ∃ ts, Scans (l ++ rest) (ts ++ more) ∧ Adds ts n

/-- The names of blocks can be written in a tag. -/
lemma writable_blockName {k : ElementKind} {name : Text} (h : blockName? k = some name) :
    '"' ∉ name ∧ Tag.resolve [("class", name)] = .ok [("class", name)] := by
  cases k with
  | title => cases h
  | sceneHeading | transition | character | parenthetical | dialogue | action =>
      cases h
      exact ⟨by decide, rfl⟩

/-- The node of a block. -/
def blockNode (name t : Text) : Node :=
  .element "div" [("class", name)] (textNodes (reread t))

/-- **The block of a tagless text is read as one node.** -/
lemma sets_block {k : ElementKind} {name t : Text} (hname : blockName? k = some name)
    (ht : isTagless t = true) :
    Sets (cat ["<div class=\"", name, "\">", t, "</div>"]) (blockNode name t) where
  opens := ⟨_, rfl⟩
  reads := by
    intro rest more h
    obtain ⟨hquote, hresolve⟩ := writable_blockName hname
    have hclose := h.tag "/div>" (.closing "div") rfl rfl
    obtain ⟨texts, htexts, hscans⟩ := reads_of_isTagless hclose ht
    have hopen := hscans.tag _ _ (piece?_div hquote hresolve _) rfl
    have hline : cat ["<div class=\"", name, "\">", t, "</div>"] ++ rest =
        '<' :: ("div class=\"".toList ++ (name ++ "\">".toList) ++
          (t ++ '<' :: ("/div>".toList ++ rest))) := by
      simp only [cat, List.flatten_cons, List.flatten_nil, List.append_nil, List.append_assoc]
      rfl
    refine ⟨.opening "div" [("class", name)] false :: (texts.flatMap ofText ++ [.closing "div"]),
      ?_, ?_⟩
    · rw [hline, List.cons_append, List.append_assoc (texts.flatMap ofText)]
      exact hopen
    · rw [blockNode, ← htexts]
      exact adds_block [("class", name)] texts

/-- The node of the header. -/
def headerNode (title : Text) : Node :=
  .element "div" [("class", "title-header")] [.element "h1" [] (textNodes (reread title))]

/-- **The header with a tagless title is read as one node.** -/
lemma sets_header {title : Text} (ht : isTagless title = true) :
    Sets (cat ["<div class=\"title-header\"><h1>", title, "</h1></div>"]) (headerNode title) where
  opens := ⟨_, rfl⟩
  reads := by
    intro rest more h
    have hclose := (h.tag "/div>" (.closing "div") rfl rfl).tag "/h1>" (.closing "h1") rfl rfl
    obtain ⟨texts, htexts, hscans⟩ := reads_of_isTagless hclose ht
    have hopen := (hscans.tag "h1>" (.opening "h1" [] false) rfl rfl).tag _ _
      (piece?_div (v := "title-header") (by decide) rfl _) rfl
    have hline : cat ["<div class=\"title-header\"><h1>", title, "</h1></div>"] ++ rest =
        '<' :: ("div class=\"".toList ++ ("title-header".toList ++ "\">".toList) ++
          '<' :: ("h1>".toList ++ (title ++
            '<' :: ("/h1>".toList ++ '<' :: ("/div>".toList ++ rest))))) := by
      simp only [cat, List.flatten_cons, List.flatten_nil, List.append_nil, List.append_assoc]
      rfl
    refine ⟨.opening "div" [("class", "title-header")] false :: .opening "h1" [] false ::
      (texts.flatMap ofText ++ [.closing "h1", .closing "div"]), ?_, ?_⟩
    · rw [hline, List.cons_append, List.cons_append, List.append_assoc (texts.flatMap ofText)]
      exact hopen
    · rw [headerNode, ← htexts]
      exact adds_header [("class", "title-header")] texts

/-- A newline in front of a tag is a text of its own. -/
lemma scans_newline {rest : Text} {more : List Token} (h : Scans ('<' :: rest) more) :
    Scans ('\n' :: '<' :: rest) (.text ['\n'] :: more) := by
  have hrun : ∀ c ∈ ['\n'], isMark c = false := by simp [isMark]
  exact h.running rfl hrun

/-- **The lines of a page are read as one node each**, with newlines between them. -/
lemma exists_scans_lines {ls : List Text} {ns : List Node} (h : List.Forall₂ Sets ls ns) :
    ∃ ts, Scans (ls.flatMap ('\n' :: ·) ++ '\n' :: pageBottom) (ts ++ bottomTokens) ∧
      ∀ cs, ts.foldl step (inBody cs) =
        inBody ((ns.flatMap fun n => [lineEnd, n]).reverse ++ cs) := by
  induction h with
  | nil =>
      have hbottom : Scans ('<' :: "/body></html>".toList) [.closing "body", .closing "html"] :=
        (scans_nil.tag "/html>" (.closing "html") rfl rfl).tag "/body>" (.closing "body") rfl rfl
      exact ⟨[], scans_newline hbottom, fun _ => rfl⟩
  | @cons l n ls ns hl _ ih =>
      obtain ⟨later, hlater, hlaterBuild⟩ := ih
      obtain ⟨ts, hts, hbuild⟩ := hl.reads hlater
      obtain ⟨tail, rfl⟩ := hl.opens
      refine ⟨.text ['\n'] :: ts ++ later, ?_, fun cs => ?_⟩
      · have hline := scans_newline hts
        simpa using hline
      · rw [List.foldl_append, hbuild, hlaterBuild]
        simp

/-- The tree of a page whose lines are read as one node each. -/
lemma parse_page {ls : List Text} {ns : List Node} (h : List.Forall₂ Sets ls ns) :
    parse (join ['\n'] (pageTop :: (ls ++ [pageBottom]))) = .ok (pageTree ns) := by
  obtain ⟨ts, hscans, hbuild⟩ := exists_scans_lines h
  have hbody := hscans.tag "body>" (.opening "body" [] false) rfl rfl
  have hhead := hbody.tag "/head>" (.closing "head") rfl rfl
  have hmeta := hhead.tag "meta charset=\"utf-8\">"
    (.opening "meta" [("charset", "utf-8")] false) rfl rfl
  have htop := (hmeta.tag "head>" (.opening "head" [] false) rfl rfl).tag "html>"
    (.opening "html" [] false) rfl rfl
  change Scans (pageTop ++ (ls.flatMap ('\n' :: ·) ++ '\n' :: pageBottom))
      (topTokens ++ (ts ++ bottomTokens)) at htop
  rw [parse, join_between, htop.scan, ← List.append_assoc]
  exact congrArg Except.ok (ofTokens_page (by simpa using hbuild []))

/-! ## What a reader of the page finds -/

/-- The classes of blocks. -/
def blockNames : List Text := [
  "scene-heading", "transition", "character", "parenthetical", "dialogue", "action"]

/-- A block of a page. -/
def isBlock (n : Node) : Bool :=
  n.isElement "div" && n.classes.any fun c => blockNames.contains c

/-- The blocks in the body of a page, each with its classes and the text that it shows. -/
def shownBlocks (tree : Node) : List (List Text × Text) :=
  match tree.find? (Node.isElement "body") with
  | some body => (body.findAll isBlock).map fun n => (n.classes, n.shownText)
  | none => []

/-- The blocks among nodes and below them. -/
def blocksOf (ns : List Node) : List Node :=
  (Node.descendantsOf ns).filter fun m => m.name?.isSome && isBlock m

lemma blocksOf_cons (n : Node) (ns : List Node) :
    blocksOf (n :: ns) = blocksOf [n] ++ blocksOf ns := by
  have hcons : Node.descendantsOf (n :: ns) = Node.descendantsOf [n] ++ Node.descendantsOf ns := by
    simp [Node.descendantsOf]
  rw [blocksOf, hcons, List.filter_append]
  rfl

/-- The blocks that are found in a page are those in its lines. -/
lemma shownBlocks_pageTree (ns : List Node) : shownBlocks (pageTree ns) =
    (ns.flatMap fun n => blocksOf [n]).map fun n => (n.classes, n.shownText) := by
  have hbody : (pageTree ns).find? (Node.isElement "body") =
      some (.element "body" [] (ns.flatMap (fun n => [lineEnd, n]) ++ [lineEnd])) := rfl
  have hblocks : blocksOf (ns.flatMap (fun n => [lineEnd, n]) ++ [lineEnd]) =
      ns.flatMap fun n => blocksOf [n] := by
    clear hbody
    induction ns with
    | nil => rfl
    | cons n ns ih =>
        have hend : blocksOf [lineEnd] = [] := rfl
        have hlines : (n :: ns).flatMap (fun n => [lineEnd, n]) ++ [lineEnd] =
            lineEnd :: n :: (ns.flatMap (fun n => [lineEnd, n]) ++ [lineEnd]) := rfl
        rw [hlines, blocksOf_cons, blocksOf_cons n, hend, List.nil_append, ih, List.flatMap_cons]
  rw [shownBlocks, hbody, ← hblocks]
  rfl

lemma blocksOf_headerNode (title : Text) : blocksOf [headerNode title] = [] := by
  rw [headerNode, textNodes]
  split_ifs <;> rfl

lemma blocksOf_blockNode {k : ElementKind} {name : Text} (h : blockName? k = some name) (t : Text) :
    blocksOf [blockNode name t] = [blockNode name t] := by
  rw [blockNode, textNodes]
  cases k with
  | title => cases h
  | sceneHeading | transition | character | parenthetical | dialogue | action =>
      cases h
      split_ifs <;> rfl

lemma classes_blockNode {k : ElementKind} {name : Text} (h : blockName? k = some name) (t : Text) :
    (blockNode name t).classes = [name] := by
  cases k with
  | title => cases h
  | sceneHeading | transition | character | parenthetical | dialogue | action =>
      cases h
      rfl

/-- What a page shows of a tagless text: references are replaced, and if only white space is left
then it is condensed. -/
def shown (t : Text) : Text :=
  if (reread t).isEmpty then [] else condensed [] (reread t)

lemma shownText_blockNode (name t : Text) : (blockNode name t).shownText = shown t := by
  rw [blockNode, textNodes, shown]
  split_ifs
  · rfl
  · exact List.append_nil _

/-! ## The result -/

/-- The blocks of elements, each with its class and what is made of its text. -/
def blocksWith (f : Text → Text) (es : List Element) : List (List Text × Text) :=
  es.filterMap fun e => (blockName? e.kind).map fun name => ([name], f e.text)

lemma blockName?_eq_none_iff {k : ElementKind} : blockName? k = none ↔ k = .title := by
  cases k <;> simp [blockName?]

lemma ne_title_of_blockName? {k : ElementKind} {name : Text} (h : blockName? k = some name) :
    k ≠ .title := by
  rintro rfl
  cases h

/-- The nodes of the blocks of elements. -/
def blockNodes (es : List Element) : List Node :=
  es.filterMap fun e => (blockName? e.kind).map fun name => blockNode name e.text

lemma sets_blocks {es : List Element}
    (h : ∀ e ∈ es, e.kind ≠ .title → isTagless e.text = true) :
    List.Forall₂ Sets (es.filterMap block?) (blockNodes es) := by
  induction es with
  | nil => exact .nil
  | cons e es ih =>
      have hrest := ih fun d hd => h d (List.mem_cons_of_mem e hd)
      rw [blockNodes, List.filterMap_cons, List.filterMap_cons, block?]
      cases hname : blockName? e.kind with
      | none => exact hrest
      | some name =>
          have hkind : e.kind ≠ .title := ne_title_of_blockName? hname
          exact .cons (sets_block hname (h e List.mem_cons_self hkind)) hrest

/-- Every block is found, with its class and what is shown of its text. -/
lemma found_blockNodes (es : List Element) :
    ((blockNodes es).flatMap fun n => blocksOf [n]).map (fun n => (n.classes, n.shownText)) =
      blocksWith shown es := by
  induction es with
  | nil => rfl
  | cons e es ih =>
      rw [blockNodes] at ih ⊢
      rw [blocksWith, List.filterMap_cons, List.filterMap_cons]
      cases hname : blockName? e.kind with
      | none => exact ih
      | some name =>
          simp only [Option.map_some, List.flatMap_cons, List.map_append, ih,
            blocksOf_blockNode hname, List.map_cons, List.map_nil, classes_blockNode hname,
            shownText_blockNode]
          rfl

/-- **A page of tagless texts shows its elements in order**, each with its references replaced. -/
lemma shownBlocks_pageOf {title : Text} {es : List Element} (htitle : isTagless title = true)
    (htexts : ∀ e ∈ es, e.kind ≠ .title → isTagless e.text = true) :
    (parse (pageOf title es)).map shownBlocks = .ok (blocksWith shown es) := by
  obtain ⟨headers, hheaders, hnone⟩ : ∃ headers, List.Forall₂ Sets (header title) headers ∧
      (headers.flatMap fun n => blocksOf [n]) = [] := by
    rw [header]
    split_ifs
    · exact ⟨[], .nil, rfl⟩
    · exact ⟨[headerNode title], .cons (sets_header htitle) .nil, by simp [blocksOf_headerNode]⟩
  have htree := parse_page (List.rel_append hheaders (sets_blocks htexts))
  rw [pageOf, htree]
  refine congrArg Except.ok ?_
  rw [shownBlocks_pageTree, List.flatMap_append, hnone, List.nil_append, found_blockNodes]

/-- A title, or an element whose text is its line or has been stripped. -/
def ReadsLine (line : Text) (e : Element) : Prop :=
  e.kind = .title ∨ e.text = line ∨ ∃ t, e.text = strip t

lemma readsLine_classify (line : Text) (later : List Text) :
    ReadsLine line (classify line later) := by
  unfold classify
  split_ifs
  · exact .inl rfl
  · exact .inr (.inl rfl)
  · exact .inr (.inl rfl)
  · exact .inr (.inr ⟨_, rfl⟩)
  · exact .inr (.inl rfl)
  · exact .inr (.inl rfl)
  · exact .inr (.inr ⟨_, rfl⟩)
  · exact .inr (.inr ⟨_, rfl⟩)
  · exact .inr (.inr ⟨_, rfl⟩)

/-- The text of an element is empty or has more in it than blanks. -/
lemma solid_of_mem_elements {content : Text} {e : Element} (h : e ∈ elements content)
    (hkind : e.kind ≠ .title) : e.text = [] ∨ ∃ c ∈ e.text, isBlank c = false := by
  have hstrip : ∀ t : Text, strip t = [] ∨ ∃ c ∈ strip t, isBlank c = false := by
    intro t
    cases ht : strip t with
    | nil => exact .inl rfl
    | cons c u => exact .inr ⟨c, List.mem_cons_self, (trimmed_strip t).head c (by simp [ht])⟩
  rw [elements_eq_classified] at h
  obtain ⟨line, hline, later, rfl⟩ := exists_readAs_of_mem_classified h
  obtain ⟨l, hl, rfl⟩ := List.mem_map.1 hline
  rcases readsLine_classify (stripRight l) later with htitle | hsame | ⟨t, ht⟩
  · exact absurd htitle hkind
  · rw [hsame]
    rcases hstrip (stripRight l) with hnil | ⟨c, hc, hblank⟩
    · rw [strip_stripRight] at hnil
      exact absurd hnil (mem_notBlank.1 hl).2
    · exact .inr ⟨c, mem_of_mem_strip hc, hblank⟩
  · exact ht ▸ hstrip t

lemma isBlank_of_isPlainSpace {c : Char} (h : isPlainSpace c = true) : isBlank c = true := by
  simp only [isPlainSpace, Bool.or_eq_true, beq_iff_eq] at h
  rcases h with (((rfl | rfl) | rfl) | rfl) | rfl <;> rfl

/-- A text that is more than blanks is shown as it is only if it has no references to replace. -/
lemma shown_eq_iff {t : Text} (h : t = [] ∨ ∃ c ∈ t, isBlank c = false) :
    shown t = t ↔ reread t = t := by
  rcases h with rfl | ⟨c, hc, hblank⟩
  · exact ⟨fun _ => rfl, fun _ => rfl⟩
  · rw [shown]
    by_cases hempty : reread t = []
    · simp [hempty]
    by_cases hspace : (reread t).all isPlainSpace = true
    · -- one blank is left, and `t` is something else
      have hone : ∀ d, isBlank d = true → [d] ≠ t := by
        rintro d hd rfl
        rw [List.mem_singleton.1 hc, hd] at hblank
        cases hblank
      have hnot : reread t ≠ t := by
        intro hsame
        rw [hsame, List.all_eq_true] at hspace
        rw [isBlank_of_isPlainSpace (hspace c hc)] at hblank
        cases hblank
      have hcondensed : condensed [] (reread t) =
          if List.contains (reread t) '\n' then ['\n'] else [' '] := by
        rw [condensed, hspace]
        rfl
      refine iff_of_false ?_ hnot
      rw [if_neg (by simpa using hempty), hcondensed]
      cases List.contains (reread t) '\n' with
      | true => exact hone '\n' rfl
      | false => exact hone ' ' rfl
    · simp [hempty, condensed, hspace]

lemma blocksWith_eq_iff {f : Text → Text} {es : List Element} :
    blocksWith f es = blocksWith id es ↔ ∀ e ∈ es, e.kind ≠ .title → f e.text = e.text := by
  induction es with
  | nil => simp [blocksWith]
  | cons e es ih =>
      rw [List.forall_mem_cons, ← ih, blocksWith, blocksWith, List.filterMap_cons,
        List.filterMap_cons]
      cases hname : blockName? e.kind with
      | none =>
          have hkind : e.kind = .title := blockName?_eq_none_iff.1 hname
          simp [hkind, blocksWith]
      | some name =>
          have hkind : e.kind ≠ .title := ne_title_of_blockName? hname
          simp [hkind, blocksWith]

/-- **The page shows the script exactly if there are no references to replace.**  This is about
scripts whose texts are tagless, the title that stands in the header among them.  Such a page can be
read.  Its blocks are the elements of the script other than titles, in order, each with its class
and with its text, in which references are replaced. -/
theorem page_shows_script_iff {content : Text}
    (htitle : isTagless (namedTitle (elements content)) = true)
    (htexts : ∀ e ∈ elements content, e.kind ≠ .title → isTagless e.text = true) :
    (parse (page content [])).map shownBlocks = .ok (blocksWith shown (elements content)) ∧
    ((parse (page content [])).map shownBlocks = .ok (blocksWith id (elements content)) ↔
      ∀ e ∈ elements content, e.kind ≠ .title → reread e.text = e.text) := by
  have hshown : (parse (page content [])).map shownBlocks =
      .ok (blocksWith shown (elements content)) := shownBlocks_pageOf htitle htexts
  refine ⟨hshown, ?_⟩
  rw [hshown, Except.ok.injEq, blocksWith_eq_iff]
  exact forall₂_congr fun e he => forall_congr' fun hkind =>
    shown_eq_iff (solid_of_mem_elements he hkind)

/-- A script with brackets that open nothing, an ampersand by itself, and two references. -/
def plainScript : Text :=
  "Title: Q&A\nINT. HALL\n5 < 6 & 7 > 6\n&copy; Tom &#65;\nCUT TO:"

/-- The references are replaced, and all else is shown as it is. -/
theorem page_shows_script_iff_sample :
    isTagless (namedTitle (elements plainScript)) = true ∧
    (∀ e ∈ elements plainScript, e.kind ≠ .title → isTagless e.text = true) ∧
    (parse (page plainScript [])).map shownBlocks = .ok [
      (["scene-heading".toList], "INT. HALL"), (["action".toList], "5 < 6 & 7 > 6"),
      (["action".toList], "© Tom A"), (["transition".toList], "CUT TO:")] := by
  have htitle : isTagless (namedTitle (elements plainScript)) = true := by decide +kernel
  have htexts : ∀ e ∈ elements plainScript, e.kind ≠ .title → isTagless e.text = true := by
    decide +kernel
  refine ⟨htitle, htexts, (page_shows_script_iff htitle htexts).1.trans ?_⟩
  decide +kernel

/-- **A page does not always show the script.**  An ampersand that the script writes out as a
reference is shown as an ampersand, and what looks like a tag is not shown. -/
theorem page_alters_script :
    (parse (page "Tom &amp; Ann" [])).map shownBlocks = .ok [(["action".toList], "Tom & Ann")] ∧
    blocksWith id (elements "Tom &amp; Ann") = [(["action".toList], "Tom &amp; Ann".toList)] ∧
    (parse (page "x <b>y</b>" [])).map shownBlocks = .ok [(["action".toList], "x y")] ∧
    blocksWith id (elements "x <b>y</b>") = [(["action".toList], "x <b>y</b>".toList)] := by
  decide +kernel

end Gleaner.Screenplay
