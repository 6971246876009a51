import Gleaner.Json.Access
import Gleaner.Proofs.Json.Reread

/-!
# Lists that are read, changed and stored

A program reads a list, changes some of its members and stores it again.  Three facts carry such a
list from one run to the next.

**What was read is readable.**  The reader only makes values that keep to its own bounds
(`readable_of_parse`) and whose numbers have their one form (`exact_of_parse`), and setting a member
keeps both (`Readable.put`, `Exact.put`).

**What was stored is read.**  `parse_write` reads such a value from its stored text, and
`parse_write_of_exact` finds it unchanged.

**Stored texts are plain.**  They hold newlines, blanks and visible characters of ASCII only
(`all_isPlain_write`), so that reading a file as lines does not change them, and no half of a
surrogate pair stands alone in them (`whole_write`).
-/

namespace Gleaner

/-! ## Computations that may fail -/

lemma exists_of_map_eq_ok {ε α β : Type} {x : Except ε α} {f : α → β} {b : β}
    (h : x.map f = .ok b) : ∃ a, x = .ok a ∧ f a = b := by
  cases x with
  | error e => cases h
  | ok a =>
      cases h
      exact ⟨a, rfl, rfl⟩

lemma bind_eq_ok {ε α β : Type} {x : Except ε α} {f : α → Except ε β} {b : β}
    (h : x >>= f = .ok b) : ∃ a, x = .ok a ∧ f a = .ok b := by
  cases x with
  | error e => cases h
  | ok a => exact ⟨a, rfl, h⟩

lemma forall₂_of_mapM_eq_ok {α β ε : Type} {g : α → Except ε β} :
    ∀ {as : List α} {bs : List β}, as.mapM g = .ok bs →
      List.Forall₂ (fun a b => g a = .ok b) as bs := by
  intro as
  induction as with
  | nil =>
      intro bs h
      cases h
      exact .nil
  | cons a as ih =>
      intro bs h
      rw [List.mapM_cons] at h
      obtain ⟨b, hb, h⟩ := bind_eq_ok h
      obtain ⟨bs', hbs, h⟩ := bind_eq_ok h
      cases h
      exact .cons hb (ih hbs)

lemma exists_mem_of_mapM_eq_ok {α β ε : Type} {g : α → Except ε β} {as : List α} {bs : List β}
    (h : as.mapM g = .ok bs) : ∀ b ∈ bs, ∃ a ∈ as, g a = .ok b := by
  have hall := forall₂_of_mapM_eq_ok h
  clear h
  induction hall with
  | nil => simp
  | @cons a b as bs hab _ ih =>
      intro c hc
      rcases List.mem_cons.1 hc with rfl | hc
      · exact ⟨a, List.mem_cons_self, hab⟩
      · obtain ⟨a', ha', hac⟩ := ih c hc
        exact ⟨a', List.mem_cons_of_mem a ha', hac⟩

end Gleaner

namespace Gleaner.Json

open Text

/-! ## What was read is readable -/

lemma mem_insert {name : Text} {v : Json} {ms : List (Text × Json)} {m : Text × Json}
    (h : m ∈ insert name v ms) : m ∈ ms ∨ m.2 = v := by
  induction ms with
  | nil =>
      rw [insert, List.mem_singleton] at h
      exact .inr (by rw [h])
  | cons n ms ih =>
      rw [insert] at h
      split at h
      · rcases List.mem_cons.1 h with rfl | h
        · exact .inr rfl
        · exact .inl (List.mem_cons_of_mem n h)
      · rcases List.mem_cons.1 h with rfl | h
        · exact .inl (by simp)
        · exact (ih h).imp_left (List.mem_cons_of_mem n)

lemma map_fst_insert (name : Text) (v : Json) (ms : List (Text × Json)) :
    (insert name v ms).map Prod.fst =
      if name ∈ ms.map Prod.fst then ms.map Prod.fst else ms.map Prod.fst ++ [name] := by
  induction ms with
  | nil => rfl
  | cons m ms ih =>
      by_cases hm : m.1 = name
      · simp [insert, hm]
      · rw [insert, if_neg hm, List.map_cons, ih]
        simp only [List.map_cons, List.mem_cons, Ne.symm hm, false_or]
        split_ifs <;> rfl

lemma nodup_insert {name : Text} (v : Json) {ms : List (Text × Json)}
    (h : (ms.map Prod.fst).Nodup) : ((insert name v ms).map Prod.fst).Nodup := by
  rw [map_fst_insert]
  split_ifs with hmem
  · exact h
  · refine List.nodup_append.2 ⟨h, List.nodup_singleton name, ?_⟩
    rintro a ha b hb rfl
    exact hmem (List.mem_singleton.1 hb ▸ ha)

section

variable {dialect : Dialect}

lemma forall_mem_insert {P : Json → Prop} (name : Text) {v : Json} {ms : List (Text × Json)}
    (hms : ∀ m ∈ ms, P m.2) (hv : P v) : ∀ m ∈ insert name v ms, P m.2 := by
  intro m hm
  rcases mem_insert hm with hm | hm
  · exact hms m hm
  · rw [hm]
    exact hv

/-- An object with a member set keeps to the bounds if the member does. -/
lemma Readable.put {depth : Nat} {entry v : Json} (h : Readable dialect depth entry)
    (name : Text) (hv : Readable dialect (depth + 1) v) :
    Readable dialect depth (entry.put name v) := by
  cases h with
  | obj room nodup values =>
      exact .obj room (nodup_insert v nodup) (forall_mem_insert name values hv)
  | null => exact .null
  | bool b => exact .bool b
  | int digits => exact .int digits
  | real x => exact .real x
  | str t => exact .str t
  | arr room items => exact .arr room items

lemma Exact.put {entry v : Json} (h : Exact entry) (name : Text) (hv : Exact v) :
    Exact (entry.put name v) := by
  cases h with
  | obj values => exact .obj (forall_mem_insert name values hv)
  | null => exact .null
  | bool b => exact .bool b
  | int n => exact .int n
  | real normal => exact .real normal
  | str t => exact .str t
  | arr items => exact .arr items

lemma allDigits_takeWhile (t : Text) : AllDigits (t.takeWhile Char.isDigit) :=
  fun _ hc => List.mem_takeWhile_imp hc

lemma allDigits_wholeDigits (t : Text) : AllDigits (wholeDigits t) := by
  unfold wholeDigits
  split
  · exact allDigits_zeros 1
  · exact allDigits_takeWhile t

/-- What the reader makes of a word or a numeral. -/
inductive IsScalar (dialect : Dialect) : Json → Prop where
  | null : IsScalar dialect .null
  | bool (b : Bool) : IsScalar dialect (.bool b)
  | int {n : Int} (digits : HasDigitsFor dialect n) : IsScalar dialect (.int n)
  | real {x : Binary64} (normal : x.IsNormal) : IsScalar dialect (.real x)

lemma isScalar_of_numberOf {negative : Bool} {whole fraction : Text}
    {exponent : Option (Text × Text)} {v : Json} (hne : whole ≠ []) (hall : AllDigits whole)
    (h : numberOf dialect negative whole fraction exponent = .ok v) : IsScalar dialect v := by
  unfold numberOf at h
  split at h
  case isTrue =>
    split at h
    case isTrue => cases h
    case isFalse hlength =>
      cases h
      exact .int (hasDigitsFor_digitsValue negative hne hall (by simpa using hlength))
  case isFalse =>
    cases h
    exact .real (Binary64.isNormal_ofDecimal _ _ _)

lemma isScalar_of_readNumber {position : Nat} {t : Text} {s : Step Json}
    (h : readNumber dialect position t = .ok s) : IsScalar dialect s.value := by
  simp only [readNumber] at h
  generalize (t.head? == some '-') = negative at h
  have hall := allDigits_wholeDigits (t.drop (if negative then 1 else 0))
  generalize wholeDigits (t.drop (if negative then 1 else 0)) = whole at h hall
  by_cases hwhole : whole.isEmpty = true
  · rw [if_pos hwhole] at h
    cases h
  · rw [if_neg hwhole] at h
    obtain ⟨v, hv, rfl⟩ := exists_of_map_eq_ok h
    exact isScalar_of_numberOf (by simpa using hwhole) hall hv

lemma isScalar_of_readScalar {position : Nat} {t : Text} {s : Step Json}
    (h : readScalar dialect position t = .ok s) : IsScalar dialect s.value := by
  simp only [readScalar] at h
  split at h
  · cases h
    exact .null
  split at h
  · cases h
    exact .bool true
  split at h
  · cases h
    exact .bool false
  split at h
  · split at h
    · cases h
      exact .real trivial
    split at h
    · cases h
      exact .real trivial
    split at h
    · cases h
      exact .real trivial
    exact isScalar_of_readNumber h
  · exact isScalar_of_readNumber h

lemma IsScalar.readable {v : Json} (h : IsScalar dialect v) (depth : Nat) :
    Readable dialect depth v := by
  cases h with
  | null => exact .null
  | bool b => exact .bool b
  | int digits => exact .int digits
  | real normal => exact .real _

lemma IsScalar.exact {v : Json} (h : IsScalar dialect v) : Exact v := by
  cases h with
  | null => exact .null
  | bool b => exact .bool b
  | int digits => exact .int _
  | real normal => exact .real normal

/-- What a step of the reader can do: it reads a text, or a word or numeral, or it goes into an
array or an object for which there is room. -/
lemma readValue_cases {depth position fuel : Nat} {t : Text} {s : Step Json}
    (h : readValue dialect depth position (fuel + 1) t = .ok s) :
    (∃ name, s.value = .str name) ∨ readScalar dialect position t = .ok s ∨
      dialect.hasRoom depth = true ∧
        (s.value = .obj [] ∨ s.value = .arr [] ∨
          (∃ q next, readMembers dialect (depth + 1) [] q fuel next = .ok s) ∨
          ∃ q next, readItems dialect (depth + 1) [] q fuel next = .ok s) := by
  rw [readValue.eq_def] at h
  dsimp only at h
  split at h
  · obtain ⟨name, -, h⟩ := bind_eq_ok h
    cases h
    exact .inl ⟨name.value, rfl⟩
  · split at h
    case isTrue => cases h
    case isFalse hroom =>
      refine .inr (.inr ⟨by simpa using hroom, ?_⟩)
      split at h
      · cases h
        exact .inl rfl
      · exact .inr (.inr (.inl ⟨_, _, h⟩))
  · split at h
    case isTrue => cases h
    case isFalse hroom =>
      refine .inr (.inr ⟨by simpa using hroom, ?_⟩)
      split at h
      · cases h
        exact .inr (.inl rfl)
      · exact .inr (.inr (.inr ⟨_, _, h⟩))
  · exact .inr (.inl h)

/-- What a step of the reader can do to an array: it ends, or it goes on with one item more. -/
lemma readItems_cases {depth position fuel : Nat} {seen : List Json} {t : Text} {s : Step Json}
    (h : readItems dialect depth seen position (fuel + 1) t = .ok s) :
    ∃ v, readValue dialect depth position fuel t = .ok v ∧
      (s.value = .arr (v.value :: seen).reverse ∨
        ∃ q next, readItems dialect depth (v.value :: seen) q fuel next = .ok s) := by
  rw [readItems] at h
  obtain ⟨v, hv, h⟩ := bind_eq_ok h
  refine ⟨v, hv, ?_⟩
  dsimp only at h
  split at h
  · cases h
    exact .inl rfl
  · exact .inr ⟨_, _, h⟩
  · cases h

/-- The same for an object and its members. -/
lemma readMembers_cases {depth position fuel : Nat} {seen : List (Text × Json)} {t : Text}
    {s : Step Json} (h : readMembers dialect depth seen position (fuel + 1) t = .ok s) :
    ∃ name q next v, readValue dialect depth q fuel next = .ok v ∧
      (s.value = .obj (insert name v.value seen) ∨
        ∃ q next, readMembers dialect depth (insert name v.value seen) q fuel next = .ok s) := by
  rw [readMembers.eq_def] at h
  dsimp only at h
  split at h
  case h_2 => cases h
  case h_1 =>
    obtain ⟨name, -, h⟩ := bind_eq_ok h
    split at h
    case h_2 => cases h
    case h_1 after _ =>
      obtain ⟨v, hv, h⟩ := bind_eq_ok h
      refine ⟨name.value, _, _, v, hv, ?_⟩
      split at h
      · cases h
        exact .inl rfl
      · exact .inr ⟨_, _, h⟩
      · cases h

/-- A property of values and the number of those around them that every step of the reader keeps. -/
structure Built (dialect : Dialect) (P : Nat → Json → Prop) : Prop where
  str (depth : Nat) (t : Text) : P depth (.str t)
  scalar {v : Json} (h : IsScalar dialect v) (depth : Nat) : P depth v
  arr {depth : Nat} {vs : List Json} (room : dialect.hasRoom depth = true)
    (items : ∀ v ∈ vs, P (depth + 1) v) : P depth (.arr vs)
  obj {depth : Nat} {ms : List (Text × Json)} (room : dialect.hasRoom depth = true)
    (nodup : (ms.map Prod.fst).Nodup) (values : ∀ m ∈ ms, P (depth + 1) m.2) : P depth (.obj ms)

/-- **What every step of the reader keeps holds of what it reads.**  By induction on the steps, for
values, the items of arrays and the members of objects at once. -/
lemma Built.of_read {P : Nat → Json → Prop} (hP : Built dialect P) (fuel : Nat) :
    (∀ depth position t s, readValue dialect depth position fuel t = .ok s → P depth s.value) ∧
    (∀ depth seen position t s, dialect.hasRoom depth = true → (∀ v ∈ seen, P (depth + 1) v) →
      readItems dialect (depth + 1) seen position fuel t = .ok s → P depth s.value) ∧
    (∀ depth seen position t s, dialect.hasRoom depth = true → (seen.map Prod.fst).Nodup →
      (∀ m ∈ seen, P (depth + 1) m.2) →
      readMembers dialect (depth + 1) seen position fuel t = .ok s → P depth s.value) := by
  induction fuel with
  | zero =>
      refine ⟨?_, ?_, ?_⟩
      · intro depth position t s h
        cases h
      · intro depth seen position t s _ _ h
        cases h
      · intro depth seen position t s _ _ _ h
        cases h
  | succ fuel ih =>
      obtain ⟨ihValue, ihItems, ihMembers⟩ := ih
      refine ⟨?_, ?_, ?_⟩
      · intro depth position t s h
        rcases readValue_cases h with ⟨name, hs⟩ | hscalar | ⟨hroom, hs | hs | ⟨q, next, hms⟩ |
          ⟨q, next, hvs⟩⟩
        · exact hs ▸ hP.str depth name
        · exact hP.scalar (isScalar_of_readScalar hscalar) depth
        · exact hs ▸ hP.obj hroom List.nodup_nil (by simp)
        · exact hs ▸ hP.arr hroom (by simp)
        · exact ihMembers depth [] q next s hroom List.nodup_nil (by simp) hms
        · exact ihItems depth [] q next s hroom (by simp) hvs
      · intro depth seen position t s hroom hseen h
        obtain ⟨v, hv, hend | ⟨q, next, hmore⟩⟩ := readItems_cases h
        all_goals
          have hall : ∀ u ∈ v.value :: seen, P (depth + 1) u :=
            List.forall_mem_cons.2 ⟨ihValue _ _ _ _ hv, hseen⟩
        · rw [hend]
          exact hP.arr hroom fun u hu => hall u (List.mem_reverse.1 hu)
        · exact ihItems depth _ q next s hroom hall hmore
      · intro depth seen position t s hroom hnodup hseen h
        obtain ⟨name, q, next, v, hv, hend | ⟨q, next, hmore⟩⟩ := readMembers_cases h
        all_goals
          have hall := forall_mem_insert name hseen (ihValue _ _ _ _ hv)
        · rw [hend]
          exact hP.obj hroom (nodup_insert _ hnodup) hall
        · exact ihMembers depth _ q next s hroom (nodup_insert _ hnodup) hall hmore

lemma built_readable : Built dialect (Readable dialect) where
  str _ t := .str t
  scalar h depth := h.readable depth
  arr := .arr
  obj := .obj

lemma built_exact : Built dialect fun _ v => Exact v where
  str _ t := .str t
  scalar h _ := h.exact
  arr _ items := .arr items
  obj _ _ values := .obj values

end

/-! ## The characters of stored texts -/

/-- A newline, a blank or a visible character of ASCII. -/
def isPlain (c : Char) : Bool :=
  c == '\n' || (0x20 ≤ c.toNat && c.toNat < 0x7f)

lemma isPlain_of_isDigit {c : Char} (h : c.isDigit = true) : isPlain c = true := by
  simp only [Char.isDigit, ge_iff_le, decide_eq_true_eq, UInt32.le_iff_toNat_le,
    Bool.and_eq_true] at h
  have hlow : 48 ≤ c.toNat := h.1
  have hhigh : c.toNat ≤ 57 := h.2
  simp only [isPlain, Bool.or_eq_true, Bool.and_eq_true, decide_eq_true_eq]
  exact .inr ⟨by omega, by omega⟩

lemma all_isPlain_of_allDigits {t : Text} (h : AllDigits t) : t.all isPlain = true :=
  List.all_eq_true.2 fun c hc => isPlain_of_isDigit (h c hc)

lemma all_isPlain_numeral (negative : Bool) {whole fraction : Text} (exponent : Option Exponent)
    (hwhole : IsWhole whole) (hfraction : AllDigits fraction) :
    (numeral negative whole fraction exponent).all isPlain = true := by
  have hsign : ((if negative then ['-'] else []) : Text).all isPlain = true := by
    cases negative <;> rfl
  have hpointed : (pointed fraction).all isPlain = true := by
    cases fraction with
    | nil => rfl
    | cons c fraction =>
        rw [pointed, if_neg (by simp), List.all_cons, all_isPlain_of_allDigits hfraction]
        rfl
  have hmarked : (marked exponent).all isPlain = true := by
    cases exponent with
    | none => rfl
    | some e =>
        have hdigits := all_isPlain_of_allDigits e.allDigits
        cases hneg : e.negative <;> simp [marked, Exponent.text, hneg, hdigits, isPlain]
  rw [numeral, List.all_append, List.all_append, List.all_append, hsign, hpointed, hmarked,
    all_isPlain_of_allDigits hwhole.allDigits]
  rfl

lemma all_isPlain_ofInt (n : Int) : (ofInt n).all isPlain = true := by
  rw [ofInt_eq_numeral]
  exact all_isPlain_numeral _ _ (isWhole_ofNat _) (by simp [AllDigits])

lemma all_isPlain_storedNumber (x : Binary64) : (storedNumber.write x).all isPlain = true := by
  cases x with
  | nan => rfl
  | infinite negative => cases negative <;> rfl
  | finite negative m e =>
      obtain ⟨whole, fraction, exponent, hwhole, hfraction, -, htext, -⟩ :=
        exists_numeral_write negative m e
      rw [htext]
      exact all_isPlain_numeral _ _ hwhole hfraction

lemma isPlain_digitChar {n : Nat} (hn : n < 16) : isPlain (Nat.digitChar n) = true := by
  interval_cases n <;> rfl

lemma all_isPlain_unitEscape {n : Nat} (hn : n < 0x10000) : (unitEscape n).all isPlain = true := by
  have hslash : isPlain '\\' = true := rfl
  have hu : isPlain 'u' = true := rfl
  rw [unitEscape, hexDigits_four hn]
  simp [hslash, hu, isPlain_digitChar (Nat.mod_lt _ (by decide : 16 > 0)),
    isPlain_digitChar (show n / 16 / 16 / 16 < 16 by omega)]

lemma isPlain_of_escapeChar? {e c : Char} (h : escapeChar? e = some c) : isPlain e = true := by
  unfold escapeChar? at h
  split_ifs at h with hquote hslash hstroke hb hf hn hr ht
  all_goals subst e; rfl

lemma all_isPlain_writeChar (c : Char) : (writeChar true c).all isPlain = true := by
  rcases writeChar_cases true c with ⟨e, he, hc, h⟩ | ⟨hc, h⟩ | ⟨hc, h⟩ | ⟨-, -, hlow, hhigh, h⟩
  all_goals rw [h]
  · simp only [List.all_cons, List.all_nil, Bool.and_true, isPlain_of_escapeChar? hc]
    rfl
  · exact all_isPlain_unitEscape hc
  · have hbound := toNat_lt c
    rw [pairEscape, List.all_append, all_isPlain_unitEscape (by omega),
      all_isPlain_unitEscape (by omega)]
    rfl
  · simp [isPlain, hlow, hhigh rfl]

lemma all_isPlain_writeString (t : Text) : (writeString true t).all isPlain = true := by
  have hbody : (t.flatMap (writeChar true)).all isPlain = true := by
    simp [List.all_flatMap, all_isPlain_writeChar]
  rw [writeString, List.all_append, List.all_append, hbody]
  rfl

lemma all_isPlain_lineBreak (style : Style) (depth : Nat) :
    (lineBreak style depth).all isPlain = true := by
  unfold lineBreak
  split
  · rfl
  · simp [isPlain]

lemma all_isPlain_colon (style : Style) : (colon style).all isPlain = true := by
  unfold colon
  split <;> rfl

mutual

/-- The text of a value has plain characters only. -/
lemma all_isPlain_writeAt {style : Style} (hstyle : style.Plain) (hascii : style.ascii = true)
    (level : Nat) : ∀ v : Json, (writeAt style level v).all isPlain = true
  | .null => rfl
  | .bool true => rfl
  | .bool false => rfl
  | .int n => by
      rw [writeAt, hstyle.integer]
      exact all_isPlain_ofInt n
  | .real x => by
      rw [writeAt, hstyle.number]
      exact all_isPlain_storedNumber x
  | .str t => by
      rw [writeAt, hascii]
      exact all_isPlain_writeString t
  | .arr [] => rfl
  | .arr (v :: vs) => by
      have hv := all_isPlain_writeAt hstyle hascii (level + 1) v
      have hvs := all_isPlain_writeItems hstyle hascii (level + 1) vs
      simp [writeAt_arr_cons, hv, hvs, all_isPlain_lineBreak, isPlain]
  | .obj [] => rfl
  | .obj ((name, v) :: ms) => by
      have hv := all_isPlain_writeAt hstyle hascii (level + 1) v
      have hms := all_isPlain_writeMembers hstyle hascii (level + 1) ms
      simp [writeAt_obj_cons, hv, hms, hascii, all_isPlain_writeString, all_isPlain_colon,
        all_isPlain_lineBreak, isPlain]

lemma all_isPlain_writeItems {style : Style} (hstyle : style.Plain) (hascii : style.ascii = true)
    (level : Nat) :
    ∀ vs : List Json, (writeItems style level vs).all isPlain = true
  | [] => rfl
  | v :: vs => by
      have hv := all_isPlain_writeAt hstyle hascii level v
      have hvs := all_isPlain_writeItems hstyle hascii level vs
      simp [writeItems, hv, hvs, all_isPlain_lineBreak, isPlain]

lemma all_isPlain_writeMembers {style : Style} (hstyle : style.Plain) (hascii : style.ascii = true)
    (level : Nat) :
    ∀ ms : List (Text × Json), (writeMembers style level ms).all isPlain = true
  | [] => rfl
  | (name, v) :: ms => by
      have hv := all_isPlain_writeAt hstyle hascii level v
      have hms := all_isPlain_writeMembers hstyle hascii level ms
      simp [writeMembers, hv, hms, hascii, all_isPlain_writeString, all_isPlain_colon,
        all_isPlain_lineBreak, isPlain]

end

lemma all_isPlain_write (v : Json) : (write stored v).all isPlain = true :=
  all_isPlain_writeAt plain_stored rfl 0 v

lemma toNat_lt_of_mem_write {v : Json} : ∀ c ∈ write stored v, c.toNat < 128 := by
  intro c hc
  have hplain := List.all_eq_true.1 (all_isPlain_write v) c hc
  simp only [isPlain, Bool.or_eq_true, beq_iff_eq, Bool.and_eq_true, decide_eq_true_eq] at hplain
  rcases hplain with rfl | ⟨-, hlt⟩
  · decide
  · omega

/-! ## Reading and storing -/

/-- What the reader keeps to does not depend on what it takes for half of a pair. -/
lemma Readable.withHalf {dialect : Dialect} {depth : Nat} {v : Json} (half : Char)
    (h : Readable dialect depth v) : Readable { dialect with half } depth v := by
  induction h with
  | null => exact .null
  | bool b => exact .bool b
  | int digits => exact .int digits
  | real x => exact .real x
  | str t => exact .str t
  | arr room _ ih => exact .arr room ih
  | obj room nodup _ ih => exact .obj room nodup ih

section

variable [Platform]

lemma parse_eq_ok_iff {t : Text} {v : Json} : parse t = .ok v ↔ read lenient t = .ok v := by
  rw [parse]
  cases read lenient t with
  | error r => exact iff_of_false nofun nofun
  | ok u => exact ⟨fun h => by cases h; rfl, fun h => by cases h; rfl⟩

/-- There is room for a list of objects. -/
lemma hasRoom_lenient {depth : Nat} (h : depth < 2) : lenient.hasRoom depth = true :=
  decide_eq_true (h.trans_le Platform.two_le_readRoom)

lemma Built.of_parse {P : Nat → Json → Prop} (hP : Built lenient P) {t : Text} {v : Json}
    (h : parse t = .ok v) : P 0 v := by
  have hread := parse_eq_ok_iff.1 h
  unfold read at hread
  split at hread
  case isTrue => cases hread
  case isFalse =>
    obtain ⟨s, hs, hread⟩ := bind_eq_ok hread
    dsimp only at hread
    split at hread
    case isTrue =>
      cases hread
      exact (hP.of_read _).1 0 _ _ s hs
    case isFalse => cases hread

/-- What a text is read as keeps to the bounds of the reader. -/
lemma readable_of_parse {t : Text} {v : Json} (h : parse t = .ok v) : Readable lenient 0 v :=
  built_readable.of_parse h

/-- The numbers in what a text is read as have their one form. -/
lemma exact_of_parse {t : Text} {v : Json} (h : parse t = .ok v) : Exact v :=
  built_exact.of_parse h

/-- **A value is read from its stored text.** -/
lemma parse_write {v : Json} (h : Readable lenient 0 v) :
    parse (write stored v) = .ok (reread v) :=
  parse_eq_ok_iff.2 (read_write plain_stored.scalar (rereads_of_readable plain_stored rfl h))

/-- A value is read from its stored text as it was, if its numbers have their one form. -/
lemma parse_write_of_exact {v : Json} (h : Readable lenient 0 v) (hexact : Exact v) :
    parse (write stored v) = .ok v := by
  rw [parse_write h, reread_of_exact hexact]

/-- A text whose value has no half of a surrogate pair left in it: whatever character is taken for
such a half, the text is read as the same value. -/
def Whole (t : Text) : Prop :=
  ∀ half, read { lenient with half } t = read lenient t

/-- **Stored texts are whole.** -/
lemma whole_write {v : Json} (h : Readable lenient 0 v) : Whole (write stored v) := by
  intro half
  rw [read_write plain_stored.scalar (rereads_of_readable plain_stored rfl h),
    read_write plain_stored.scalar (rereads_of_readable plain_stored rfl (h.withHalf half))]

end

/-- A text with half of a pair is not whole. -/
example : ¬Whole "\"\\ud83d\"" := by
  intro h
  have hsame := congrArg (fun r => r.toOption.map (write stored)) (h 'a')
  revert hsame
  decide +kernel

/-! ## Members after a change -/

lemma item_eq_ok_iff {v w : Json} {name : Text} :
    v.item name = .ok w ↔ ∃ ms, v = .obj ms ∧ find? name ms = some w := by
  constructor
  · intro h
    cases v with
    | obj ms =>
        refine ⟨ms, rfl, ?_⟩
        cases hm : find? name ms with
        | none => simp [item, hm] at h
        | some u => simpa [item, hm] using h
    | _ => simp [item] at h
  · rintro ⟨ms, rfl, hm⟩
    simp [item, hm]

lemma mem_of_find?_eq_some {name : Text} {v : Json} {ms : List (Text × Json)}
    (h : find? name ms = some v) : (name, v) ∈ ms := by
  induction ms with
  | nil => cases h
  | cons m ms ih =>
      obtain ⟨k, u⟩ := m
      rw [find?] at h
      split_ifs at h with hk
      · cases h
        rw [hk]
        exact List.mem_cons_self
      · exact List.mem_cons_of_mem _ (ih h)

lemma find?_insert (name other : Text) (v : Json) (ms : List (Text × Json)) :
    find? other (insert name v ms) = if other = name then some v else find? other ms := by
  induction ms with
  | nil =>
      simp only [insert, find?]
      split_ifs <;> simp_all
  | cons m ms ih =>
      obtain ⟨k, u⟩ := m
      rw [insert]
      split_ifs with hk hother hother
      · simp [find?, hk, hother]
      · rw [find?, find?, if_neg (fun h => hother (h.symm.trans hk)),
          if_neg (fun h => hother (h.symm.trans hk))]
      · rw [find?, if_neg (fun h => hk (h.trans hother)), ih, if_pos hother]
      · rw [find?, find?, ih, if_neg hother]

/-- A member that was set is there, and the others are as they were. -/
lemma item_put {entry u : Json} {name other : Text} (h : entry.item other = .ok u) (v : Json) :
    (entry.put name v).item other = .ok (if other = name then v else u) := by
  obtain ⟨ms, rfl, hm⟩ := item_eq_ok_iff.1 h
  refine item_eq_ok_iff.2 ⟨_, rfl, ?_⟩
  rw [find?_insert, hm]
  split_ifs <;> rfl

lemma item_put_of_ne (entry v : Json) {name other : Text} (h : other ≠ name) :
    (entry.put name v).item other = entry.item other := by
  cases entry with
  | obj ms => simp only [put, item, find?_insert, if_neg h]
  | _ => rfl

lemma find?_rereadMembers (name : Text) (ms : List (Text × Json)) :
    find? name (rereadMembers ms) = (find? name ms).map reread := by
  induction ms with
  | nil => rfl
  | cons m ms ih =>
      rw [rereadMembers, find?, find?]
      split_ifs
      · rfl
      · exact ih

/-- The members of a value that is read again. -/
lemma item_reread {entry u : Json} {name : Text} (h : entry.item name = .ok u) :
    (reread entry).item name = .ok (reread u) := by
  obtain ⟨ms, rfl, hm⟩ := item_eq_ok_iff.1 h
  refine item_eq_ok_iff.2 ⟨_, by rw [reread], ?_⟩
  rw [find?_rereadMembers, hm]
  rfl

end Gleaner.Json
