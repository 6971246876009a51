import Gleaner.Proofs.Json.Stored

/-!
# Values and the room for them

A value is written piece by piece, and the writer gives up where arrays and objects lie deeper
inside each other than there is room.

**Drafts.**  A draft is the beginning of the text of its value (`draftOf_draft`), and it is finished
exactly if the value has room (`isFinished_draft`).

**Reading.**  What was read lies no deeper than the reader goes (`nesting_le_of_parse`), and a value
keeps to the bounds of the reader exactly if it would without a bound of its depth and has room
(`readable_lenient_iff`).
-/

namespace Gleaner.Json

/-! ## Nesting -/

lemma nestingOfItems_le_iff {vs : List Json} {n : Nat} :
    nestingOfItems vs ≤ n ↔ ∀ v ∈ vs, nesting v ≤ n := by
  induction vs with
  | nil => simp [nestingOfItems]
  | cons v vs ih => rw [nestingOfItems, max_le_iff, ih, List.forall_mem_cons]

lemma nestingOfMembers_le_iff {ms : List (Text × Json)} {n : Nat} :
    nestingOfMembers ms ≤ n ↔ ∀ m ∈ ms, nesting m.2 ≤ n := by
  induction ms with
  | nil => simp [nestingOfMembers]
  | cons m ms ih => rw [nestingOfMembers, max_le_iff, ih, List.forall_mem_cons]

lemma nesting_arr_le_iff {vs : List Json} {n : Nat} :
    nesting (.arr vs) ≤ n ↔ 0 < n ∧ ∀ v ∈ vs, nesting v ≤ n - 1 := by
  rw [nesting, ← nestingOfItems_le_iff]
  omega

lemma nesting_obj_le_iff {ms : List (Text × Json)} {n : Nat} :
    nesting (.obj ms) ≤ n ↔ 0 < n ∧ ∀ m ∈ ms, nesting m.2 ≤ n - 1 := by
  rw [nesting, ← nestingOfMembers_le_iff]
  omega

/-! ## Drafts -/

/-- A draft of a text: its beginning, and all of it once it is finished. -/
structure Draft.Of (d : Draft) (t : Text) : Prop where
  begins : d.text <+: t
  eq_of_isFinished : d.isFinished = true → d.text = t

namespace Draft

lemma of_piece (t : Text) : (piece t).Of t :=
  ⟨List.prefix_rfl, fun _ => rfl⟩

lemma of_givenUp (t : Text) : givenUp.Of t :=
  ⟨List.nil_prefix, nofun⟩

lemma isFinished_append (a b : Draft) :
    (a ++ b).isFinished = (a.isFinished && b.isFinished) := by
  change (append a b).isFinished = _
  cases h : a.isFinished <;> simp [append, h]

/-- Drafts one behind the other are a draft of the texts one behind the other. -/
lemma Of.append {a b : Draft} {s t : Text} (ha : a.Of s) (hb : b.Of t) : (a ++ b).Of (s ++ t) := by
  change (Draft.append a b).Of (s ++ t)
  cases h : a.isFinished with
  | false =>
      rw [Draft.append, h, if_neg Bool.false_ne_true]
      exact ⟨ha.begins.trans (List.prefix_append s t), fun hfalse => by simp [h] at hfalse⟩
  | true =>
      rw [Draft.append, h, if_pos rfl, ha.eq_of_isFinished h]
      exact ⟨(List.prefix_append_right_inj s).2 hb.begins,
        fun hfinished => congrArg (s ++ ·) (hb.eq_of_isFinished hfinished)⟩

lemma of_ite {p : Prop} [Decidable p] {d : Draft} {t : Text} (h : d.Of t) :
    (if p then d else givenUp).Of t := by
  split
  · exact h
  · exact of_givenUp t

end Draft

section

variable (style : Style) (room : Nat)

mutual

lemma draftOf_draftAt (depth : Nat) :
    ∀ v : Json, (draftAt style room depth v).Of (writeAt style depth v)
  | .null | .bool _ | .int _ | .real _ | .str _ => Draft.of_piece _
  | .arr [] => Draft.of_ite (Draft.of_piece _)
  | .arr (v :: vs) => by
      have hv := draftOf_draftAt (depth + 1) v
      have hvs := draftOf_draftItems (depth + 1) vs
      rw [draftAt, writeAt, List.append_assoc _ (lineBreak style depth)]
      exact Draft.of_ite ((((Draft.of_piece _).append hv).append hvs).append (Draft.of_piece _))
  | .obj [] => Draft.of_ite (Draft.of_piece _)
  | .obj ((name, v) :: ms) => by
      have hv := draftOf_draftAt (depth + 1) v
      have hms := draftOf_draftMembers (depth + 1) ms
      rw [draftAt, writeAt, List.append_assoc _ (lineBreak style depth)]
      exact Draft.of_ite ((((Draft.of_piece _).append hv).append hms).append (Draft.of_piece _))

lemma draftOf_draftItems (depth : Nat) :
    ∀ vs : List Json, (draftItems style room depth vs).Of (writeItems style depth vs)
  | [] => Draft.of_piece _
  | v :: vs => ((Draft.of_piece _).append (draftOf_draftAt depth v)).append
      (draftOf_draftItems depth vs)

lemma draftOf_draftMembers (depth : Nat) :
    ∀ ms : List (Text × Json), (draftMembers style room depth ms).Of (writeMembers style depth ms)
  | [] => Draft.of_piece _
  | (_, v) :: ms => ((Draft.of_piece _).append (draftOf_draftAt depth v)).append
      (draftOf_draftMembers depth ms)

end

/-- **A draft is the beginning of the text of its value**, and all of it once it is finished. -/
lemma draftOf_draft (v : Json) : (draft style room v).Of (write style v) :=
  draftOf_draftAt style room 0 v

mutual

/-- A draft at a depth is finished exactly if there is room for the value behind that depth. -/
lemma isFinished_draftAt (depth : Nat) :
    ∀ v : Json, (draftAt style room depth v).isFinished = true ↔ nesting v ≤ room - depth
  | .null | .bool _ | .int _ | .real _ | .str _ => iff_of_true rfl (Nat.zero_le _)
  | .arr [] => by
      rw [draftAt, nesting, nestingOfItems]
      split <;> simp [Draft.piece, Draft.givenUp] <;> omega
  | .arr (v :: vs) => by
      have hv := isFinished_draftAt (depth + 1) v
      have hvs := isFinished_draftItems (depth + 1) vs
      rw [draftAt, nesting_arr_le_iff, List.forall_mem_cons]
      split
      · simp only [Draft.isFinished_append, Bool.and_eq_true, hv, hvs, Draft.piece, true_and,
          and_true, Nat.sub_sub]
        exact ⟨fun h => ⟨by omega, h⟩, And.right⟩
      · exact iff_of_false nofun (by omega)
  | .obj [] => by
      rw [draftAt, nesting, nestingOfMembers]
      split <;> simp [Draft.piece, Draft.givenUp] <;> omega
  | .obj ((_, v) :: ms) => by
      have hv := isFinished_draftAt (depth + 1) v
      have hms := isFinished_draftMembers (depth + 1) ms
      rw [draftAt, nesting_obj_le_iff, List.forall_mem_cons]
      split
      · simp only [Draft.isFinished_append, Bool.and_eq_true, hv, hms, Draft.piece, true_and,
          and_true, Nat.sub_sub]
        exact ⟨fun h => ⟨by omega, h⟩, And.right⟩
      · exact iff_of_false nofun (by omega)

lemma isFinished_draftItems (depth : Nat) : ∀ vs : List Json,
    (draftItems style room depth vs).isFinished = true ↔ ∀ v ∈ vs, nesting v ≤ room - depth
  | [] => iff_of_true rfl (by simp)
  | v :: vs => by
      rw [draftItems, Draft.isFinished_append, Draft.isFinished_append, List.forall_mem_cons,
        Bool.and_eq_true, Bool.and_eq_true, isFinished_draftAt depth v,
        isFinished_draftItems depth vs]
      simp [Draft.piece]

lemma isFinished_draftMembers (depth : Nat) : ∀ ms : List (Text × Json),
    (draftMembers style room depth ms).isFinished = true ↔ ∀ m ∈ ms, nesting m.2 ≤ room - depth
  | [] => iff_of_true rfl (by simp)
  | (_, v) :: ms => by
      rw [draftMembers, Draft.isFinished_append, Draft.isFinished_append, List.forall_mem_cons,
        Bool.and_eq_true, Bool.and_eq_true, isFinished_draftAt depth v,
        isFinished_draftMembers depth ms]
      simp [Draft.piece]

end

/-- **A draft is finished exactly if there is room for its value.** -/
lemma isFinished_draft {v : Json} :
    (draft style room v).isFinished = true ↔ nesting v ≤ room :=
  isFinished_draftAt style room 0 v

end

lemma text_draft_of_nesting_le {style : Style} {room : Nat} {v : Json} (h : nesting v ≤ room) :
    (draft style room v).text = write style v :=
  (draftOf_draft style room v).eq_of_isFinished ((isFinished_draft style room).2 h)

/-! ## Room for what is read -/

/-- A value that is readable without a bound of its depth is readable exactly if it has room. -/
lemma readable_iff {dialect : Dialect} {most : Nat} (hmost : dialect.maxDepth = some most)
    {depth : Nat} {v : Json} (hdepth : depth ≤ most) :
    Readable dialect depth v ↔
      Readable { dialect with maxDepth := none } depth v ∧ nesting v ≤ most - depth := by
  have hroom (depth : Nat) : dialect.hasRoom depth = true ↔ depth < most := by
    simp [Dialect.hasRoom, hmost]
  constructor
  · intro h
    induction h with
    | null => exact ⟨.null, Nat.zero_le _⟩
    | bool b => exact ⟨.bool b, Nat.zero_le _⟩
    | int digits => exact ⟨.int digits, Nat.zero_le _⟩
    | real x => exact ⟨.real x, Nat.zero_le _⟩
    | str t => exact ⟨.str t, Nat.zero_le _⟩
    | arr room _ ih =>
        have hlt := (hroom _).1 room
        refine ⟨.arr rfl fun v hv => (ih v hv hlt).1, nesting_arr_le_iff.2 ⟨by omega, ?_⟩⟩
        exact fun v hv => (ih v hv hlt).2
    | obj room nodup _ ih =>
        have hlt := (hroom _).1 room
        refine ⟨.obj rfl nodup fun m hm => (ih m hm hlt).1, nesting_obj_le_iff.2 ⟨by omega, ?_⟩⟩
        exact fun m hm => (ih m hm hlt).2
  · rintro ⟨h, hnesting⟩
    induction h with
    | null => exact .null
    | bool b => exact .bool b
    | int digits => exact .int digits
    | real x => exact .real x
    | str t => exact .str t
    | arr _ _ ih =>
        obtain ⟨hpos, hitems⟩ := nesting_arr_le_iff.1 hnesting
        exact .arr ((hroom _).2 (by omega)) fun v hv => ih v hv (by omega) (hitems v hv)
    | obj _ nodup _ ih =>
        obtain ⟨hpos, hvalues⟩ := nesting_obj_le_iff.1 hnesting
        exact .obj ((hroom _).2 (by omega)) nodup fun m hm => ih m hm (by omega) (hvalues m hm)

section

variable [Platform]

lemma readable_lenient_iff {v : Json} :
    Readable lenient 0 v ↔
      Readable { lenient with maxDepth := none } 0 v ∧ nesting v ≤ Platform.readRoom :=
  readable_iff rfl (Nat.zero_le _)

/-- What can be read can be written. -/
lemma Readable.nesting_le_writeRoom {v : Json} (h : Readable lenient 0 v) :
    nesting v ≤ Platform.writeRoom :=
  (readable_lenient_iff.1 h).2.trans Platform.readRoom_le_writeRoom

/-- **What was read lies no deeper than the reader goes.** -/
lemma nesting_le_of_parse {t : Text} {v : Json} (h : parse t = .ok v) :
    nesting v ≤ Platform.readRoom :=
  (readable_lenient_iff.1 (readable_of_parse h)).2

end

end Gleaner.Json
