import Gleaner.Fault
import Gleaner.Proofs.Json.Numeral

/-!
# Values that are read back from their text

Writing a value and reading the text gives the value back, its numbers as their numerals stand for.

**Strings.**  `readString_writeChar` is the step: the reader takes the written form of one
character, be it the character itself, an escape or the two escapes of a surrogate pair, for that
character.

**Values.**  `ReadsAs style dialect depth v u` says that a value `v` inside `depth` others is read
from its text as `u`.  An array is read as what its items are read as, and an object as what its
members are read as, one put after the other (`ReadsAs.arr`, `ReadsAs.obj`).  The reader counts its
steps; twice the length of the text that lies ahead is always enough.

**Values that come back.**  `Readable dialect depth v` says that a value inside `depth` others keeps
to the bounds of the reader: its integers are not too long, it does not hold others too deep, and no
object names a member twice.  `rereads_of_readable` reads such a value back by induction over it.
-/

namespace Gleaner.Text

/-! ## Hexadecimal digits -/

lemma hexDigits_succ {width : Nat} (hwidth : 0 < width) (n : Nat) :
    hexDigits (width + 1) n = hexDigits width (n / 16) ++ [Nat.digitChar (n % 16)] := by
  obtain ⟨width, rfl⟩ := Nat.exists_eq_add_of_lt hwidth
  by_cases hn : n < 16
  · rw [Nat.div_eq_of_lt hn, Nat.mod_eq_of_lt hn]
    simp only [hexDigits, Nat.toDigits_of_lt_base hn, Nat.toDigits_zero, List.length_singleton]
    rw [show 0 + width + 1 + 1 - 1 = width + 1 by omega, show 0 + width + 1 - 1 = width by omega,
      List.replicate_succ']
  · simp only [hexDigits, Nat.toDigits_of_base_le (by decide : 1 < 16) (Nat.le_of_not_lt hn),
      List.length_append, List.length_singleton, Nat.add_sub_add_right, List.append_assoc]

/-- Four digits are enough for a code unit. -/
lemma hexDigits_four {n : Nat} (hn : n < 0x10000) :
    hexDigits 4 n = [Nat.digitChar (n / 16 / 16 / 16), Nat.digitChar (n / 16 / 16 % 16),
      Nat.digitChar (n / 16 % 16), Nat.digitChar (n % 16)] := by
  have hlast : hexDigits 1 (n / 16 / 16 / 16) = [Nat.digitChar (n / 16 / 16 / 16)] := by
    rw [hexDigits, Nat.toDigits_of_lt_base (by omega)]
    rfl
  rw [hexDigits_succ (by decide), hexDigits_succ (by decide), hexDigits_succ (by decide), hlast]
  rfl

end Gleaner.Text

namespace Gleaner.Json

open Text

lemma hexValue?_digitChar {n : Nat} (hn : n < 16) : hexValue? (Nat.digitChar n) = some n := by
  interval_cases n <;> rfl

/-- The four digits of a code unit are read as that unit. -/
lemma hex4?_digits {n : Nat} (hn : n < 0x10000) :
    hex4? (Nat.digitChar (n / 16 / 16 / 16)) (Nat.digitChar (n / 16 / 16 % 16))
      (Nat.digitChar (n / 16 % 16)) (Nat.digitChar (n % 16)) = some n := by
  simp only [hex4?, hexValue?_digitChar (show n / 16 / 16 / 16 < 16 by omega),
    hexValue?_digitChar (Nat.mod_lt _ (by decide : 16 > 0)), Option.bind_eq_bind, Option.bind_some,
    Option.pure_def, Option.some.injEq]
  omega

/-! ## Strings -/

lemma toNat_lt (c : Char) : c.toNat < 0x110000 := by
  have := c.valid
  simp only [UInt32.isValidChar, Nat.isValidChar] at this
  simp only [Char.toNat]
  omega

lemma isHighSurrogate_eq_false {c : Char} : isHighSurrogate c.toNat = false := by
  have := c.valid
  simp only [UInt32.isValidChar, Nat.isValidChar] at this
  simp only [isHighSurrogate, Bool.and_eq_false_iff, decide_eq_false_iff_not, Char.toNat]
  omega

lemma charOf_toNat (half c : Char) : charOf half c.toNat = c := by
  have := c.valid
  simp only [UInt32.isValidChar, Nat.isValidChar] at this
  rw [charOf, if_neg, Char.ofNat_toNat]
  simp only [Bool.and_eq_true, decide_eq_true_eq, Char.toNat]
  omega

/-- The four digits of a unit are read as that unit. -/
lemma readUnit_hexDigits (position : Nat) {n : Nat} (hn : n < 0x10000) {rest : Text}
    (hrest : rest ≠ []) : readUnit position (hexDigits 4 n ++ rest) = .ok (n, rest) := by
  rw [hexDigits_four hn]
  simp [readUnit, hex4?_digits hn, hrest]

section

variable (half : Char) (start position : Nat)

/-- The escape of a character of the basic plane. -/
lemma readEscape_unitEscape {c : Char} (hc : c.toNat < 0x10000) {rest : Text} (hrest : rest ≠ []) :
    readEscape half start position ('u' :: (hexDigits 4 c.toNat ++ rest)) =
      .ok ⟨c, position + 6, rest⟩ := by
  rw [readEscape, if_pos rfl, readUnit_hexDigits _ hc hrest]
  simp [Except.bind, bind, readPair, isHighSurrogate_eq_false, charOf_toNat]

/-- The escapes of the two halves of a pair. -/
lemma readEscape_pair {high low : Nat} (hhigh : isHighSurrogate high = true)
    (hlow : isLowSurrogate low = true) {rest : Text} (hrest : rest ≠ []) :
    readEscape half start position ('u' :: (hexDigits 4 high ++ (unitEscape low ++ rest))) =
      .ok ⟨Char.ofNat (0x10000 + (high - 0xd800) * 0x400 + (low - 0xdc00)), position + 12,
        rest⟩ := by
  have hh : high < 0x10000 := by
    simp only [isHighSurrogate, Bool.and_eq_true, decide_eq_true_eq] at hhigh
    omega
  have hl : low < 0x10000 := by
    simp only [isLowSurrogate, Bool.and_eq_true, decide_eq_true_eq] at hlow
    omega
  have hsecond : Text.afterFront? ['\\', 'u'] (unitEscape low ++ rest) =
      some (hexDigits 4 low ++ rest) := by
    simp [unitEscape, afterFront?]
  have hlong : ¬(hexDigits 4 low ++ rest).length ≤ 4 := by
    have := List.length_pos_iff.2 hrest
    rw [hexDigits_four hl, List.length_append]
    simp only [List.length_cons, List.length_nil]
    omega
  rw [readEscape, if_pos rfl, readUnit_hexDigits _ hh (by simp [unitEscape])]
  simp only [bind, Except.bind, readPair, hhigh, if_true, hsecond, hlong, if_false,
    readUnit_hexDigits _ hl hrest, hlow]
  rfl

/-- The halves of a pair make up the character again. -/
lemma readEscape_pairEscape {c : Char} (hc : 0x10000 ≤ c.toNat) {rest : Text} (hrest : rest ≠ []) :
    readEscape half start position ((pairEscape c.toNat ++ rest).tail) =
      .ok ⟨c, position + 12, rest⟩ := by
  have hbound := toNat_lt c
  obtain ⟨high, hhigh⟩ : ∃ high, high = 0xd800 + (c.toNat - 0x10000) / 0x400 := ⟨_, rfl⟩
  obtain ⟨low, hlow⟩ : ∃ low, low = 0xdc00 + (c.toNat - 0x10000) % 0x400 := ⟨_, rfl⟩
  have hsplit : (pairEscape c.toNat ++ rest).tail =
      'u' :: (hexDigits 4 high ++ (unitEscape low ++ rest)) := by
    rw [pairEscape, ← hhigh, ← hlow, unitEscape]
    simp
  have hisHigh : isHighSurrogate high = true := by
    simp only [isHighSurrogate, Bool.and_eq_true, decide_eq_true_eq]
    omega
  have hisLow : isLowSurrogate low = true := by
    simp only [isLowSurrogate, Bool.and_eq_true, decide_eq_true_eq]
    omega
  have hfull : 0x10000 + (high - 0xd800) * 0x400 + (low - 0xdc00) = c.toNat := by omega
  rw [hsplit, readEscape_pair half start position hisHigh hisLow hrest, hfull, Char.ofNat_toNat]

/-- A one-letter escape. -/
lemma readEscape_letter {e c : Char} (he : e ≠ 'u') (hc : escapeChar? e = some c) (rest : Text) :
    readEscape half start position (e :: rest) = .ok ⟨c, position + 2, rest⟩ := by
  rw [readEscape, if_neg he, hc]

/-- The four written forms of a character: a letter behind a backslash, one escape, the two escapes
of a pair, and the character itself. -/
lemma writeChar_cases (ascii : Bool) (c : Char) :
    (∃ e, e ≠ 'u' ∧ escapeChar? e = some c ∧ writeChar ascii c = ['\\', e]) ∨
      (c.toNat < 0x10000 ∧ writeChar ascii c = unitEscape c.toNat) ∨
      (0x10000 ≤ c.toNat ∧ writeChar ascii c = pairEscape c.toNat) ∨
      (c ≠ '"' ∧ c ≠ '\\' ∧ 0x20 ≤ c.toNat ∧ (ascii = true → c.toNat < 0x7f) ∧
        writeChar ascii c = [c]) := by
  by_cases hshort : c = '"' ∨ c = '\\' ∨ c = '\n' ∨ c = '\r' ∨ c = '\t' ∨ c = '\x08' ∨ c = '\x0c'
  · left
    rcases hshort with rfl | rfl | rfl | rfl | rfl | rfl | rfl
    · exact ⟨'"', by decide, rfl, rfl⟩
    · exact ⟨'\\', by decide, rfl, rfl⟩
    · exact ⟨'n', by decide, rfl, rfl⟩
    · exact ⟨'r', by decide, rfl, rfl⟩
    · exact ⟨'t', by decide, rfl, rfl⟩
    · exact ⟨'b', by decide, rfl, rfl⟩
    · exact ⟨'f', by decide, rfl, rfl⟩
  · simp only [not_or] at hshort
    obtain ⟨hquote, hslash, hnewline, hreturn, htab, hback, hfeed⟩ := hshort
    right
    rw [writeChar, if_neg hquote, if_neg hslash, if_neg hnewline, if_neg hreturn, if_neg htab,
      if_neg hback, if_neg hfeed]
    split_ifs with hcontrol hascii hplane
    · exact .inl ⟨by omega, rfl⟩
    · exact .inl ⟨hplane, rfl⟩
    · exact .inr (.inl ⟨by omega, rfl⟩)
    · refine .inr (.inr ⟨hquote, hslash, by omega, fun h => ?_, rfl⟩)
      simpa [h] using hascii

/-- **The written form of a character is read as that character.** -/
lemma readString_writeChar (seen : Text) (fuel : Nat) (ascii : Bool) (c : Char) {rest : Text}
    (hrest : rest ≠ []) :
    ∃ p, readString half start seen position (fuel + 1) (writeChar ascii c ++ rest) =
      readString half start (c :: seen) p fuel rest := by
  -- whatever is written behind a backslash is an escape
  have hescape : ∀ {t : Text} {p : Nat},
      readEscape half start position (t ++ rest) = .ok ⟨c, p, rest⟩ →
      ∃ p, readString half start seen position (fuel + 1) ('\\' :: t ++ rest) =
        readString half start (c :: seen) p fuel rest := by
    intro t p h
    refine ⟨p, ?_⟩
    rw [List.cons_append, readString, if_neg (by decide), if_pos rfl, h]
    rfl
  rcases writeChar_cases ascii c with ⟨e, he, hc, h⟩ | ⟨hc, h⟩ | ⟨hc, h⟩ |
    ⟨hquote, hslash, hc, -, h⟩
  all_goals rw [h]
  · exact hescape (readEscape_letter half start position he hc rest)
  · exact hescape (readEscape_unitEscape half start position hc hrest)
  · exact hescape (readEscape_pairEscape half start position hc hrest)
  · refine ⟨position + 1, ?_⟩
    rw [List.singleton_append, readString, if_neg hquote, if_neg hslash, if_neg (by omega)]

end

lemma writeChar_ne_nil (ascii : Bool) (c : Char) : writeChar ascii c ≠ [] := by
  rcases writeChar_cases ascii c with ⟨_, _, _, h⟩ | ⟨_, h⟩ | ⟨_, h⟩ | ⟨_, _, _, _, h⟩
  all_goals rw [h]
  · simp
  · exact List.cons_ne_nil _ _
  · exact List.append_ne_nil_of_left_ne_nil (List.cons_ne_nil _ _) _
  · simp

lemma length_le_length_flatMap_writeChar (ascii : Bool) (t : Text) :
    t.length ≤ (t.flatMap (writeChar ascii)).length := by
  induction t with
  | nil => simp
  | cons c t ih =>
      have := List.length_pos_iff.2 (writeChar_ne_nil ascii c)
      rw [List.flatMap_cons, List.length_append, List.length_cons]
      omega

/-- The characters of a string are read one after the other, up to the closing quote. -/
lemma readString_flatMap (half : Char) (ascii : Bool) (start : Nat) (rest : Text) :
    ∀ (t seen : Text) (position fuel : Nat), t.length < fuel →
      Reads (readString half start seen position fuel (t.flatMap (writeChar ascii) ++ '"' :: rest))
        (seen.reverse ++ t) rest := by
  intro t
  induction t with
  | nil =>
      intro seen position fuel hfuel
      obtain ⟨fuel, rfl⟩ := Nat.exists_eq_add_of_lt hfuel
      exact ⟨position + 1, by simp [readString]⟩
  | cons c t ih =>
      intro seen position fuel hfuel
      obtain ⟨fuel, rfl⟩ := Nat.exists_eq_add_one_of_ne_zero (by omega : fuel ≠ 0)
      rw [List.length_cons] at hfuel
      obtain ⟨p, hstep⟩ := readString_writeChar half start position seen fuel ascii c
        (show t.flatMap (writeChar ascii) ++ '"' :: rest ≠ [] by simp)
      rw [List.flatMap_cons, List.append_assoc, hstep]
      simpa using ih (c :: seen) p fuel (by omega)

/-- **A string is read back from its text.** -/
lemma readString_writeString (half : Char) (ascii : Bool) (start position : Nat) (t rest : Text) :
    Reads (readString half start [] position
      ((t.flatMap (writeChar ascii) ++ '"' :: rest).length + 1)
      (t.flatMap (writeChar ascii) ++ '"' :: rest)) t rest := by
  have hlength := length_le_length_flatMap_writeChar ascii t
  refine readString_flatMap half ascii start rest t [] position _ ?_
  rw [List.length_append]
  omega

/-! ## White space -/

lemma skip_append {s : Text} (hs : ∀ c ∈ s, isSpace c = true) (position : Nat) (t : Text) :
    skip position (s ++ t) = skip (position + s.length) t := by
  induction s generalizing position with
  | nil => rfl
  | cons c s ih =>
      rw [List.cons_append, skip, if_pos (hs c (by simp)), ih (fun d hd => hs d (by simp [hd])),
        List.length_cons]
      congr 1
      omega

/-- A text that begins with neither white space, the end of an array nor a byte order mark. -/
def Begins (t : Text) : Prop :=
  ∃ c rest, t = c :: rest ∧ isSpace c = false ∧ c ≠ ']' ∧ c ≠ '\ufeff'

lemma skip_cons {c : Char} (hc : isSpace c = false) (position : Nat) (rest : Text) :
    skip position (c :: rest) = (position, c :: rest) := by
  rw [skip, hc]
  rfl

lemma isSpace_of_mem_lineBreak {style : Style} {depth : Nat} :
    ∀ c ∈ lineBreak style depth, isSpace c = true := by
  intro c hc
  unfold lineBreak at hc
  split at hc
  · simp at hc
  · rcases List.mem_cons.1 hc with rfl | hc
    · rfl
    · rw [List.eq_of_mem_replicate hc]
      rfl

/-- The break before an item is skipped. -/
lemma skip_lineBreak (style : Style) (depth position : Nat) {c : Char} (hc : isSpace c = false)
    (rest : Text) :
    ∃ p, skip position (lineBreak style depth ++ c :: rest) = (p, c :: rest) :=
  ⟨_, by rw [skip_append isSpace_of_mem_lineBreak, skip_cons hc]⟩

/-! ## Steps of the reader -/

section

variable {dialect : Dialect} {depth position fuel : Nat}

/-- A string. -/
lemma readValue_string {name t rest : Text} {p : Nat}
    (h : readString dialect.half position [] (position + 1) (t.length + 1) t =
      .ok ⟨name, p, rest⟩) :
    readValue dialect depth position (fuel + 1) ('"' :: t) = .ok ⟨.str name, p, rest⟩ := by
  simp only [readValue, h, bind, Except.bind]
  rfl

/-- An array without items. -/
lemma readValue_arrayNil (hroom : dialect.hasRoom depth = true) (rest : Text) :
    Reads (readValue dialect depth position (fuel + 1) ('[' :: ']' :: rest)) (.arr []) rest := by
  refine ⟨position + 1 + 1, ?_⟩
  simp only [readValue, hroom, skip_cons (c := ']') (by decide)]
  rfl

/-- An array with items. -/
lemma readValue_array (hroom : dialect.hasRoom depth = true) {p : Nat} {t : Text} {c : Char}
    {more : Text} (hskip : skip (position + 1) t = (p, c :: more)) (hc : c ≠ ']') :
    readValue dialect depth position (fuel + 1) ('[' :: t) =
      readItems dialect (depth + 1) [] p fuel (c :: more) := by
  simp only [readValue, hroom, hskip, Bool.not_true, Bool.false_eq_true, if_false]
  split
  case h_1 h => exact absurd (List.cons.inj h).1 hc
  case h_2 => rfl

/-- An object without members. -/
lemma readValue_objectNil (hroom : dialect.hasRoom depth = true) (rest : Text) :
    Reads (readValue dialect depth position (fuel + 1) ('{' :: '}' :: rest)) (.obj []) rest := by
  refine ⟨position + 1 + 1, ?_⟩
  simp only [readValue, hroom, skip_cons (c := '}') (by decide)]
  rfl

/-- An object with members. -/
lemma readValue_object (hroom : dialect.hasRoom depth = true) {p : Nat} {t : Text} {c : Char}
    {more : Text} (hskip : skip (position + 1) t = (p, c :: more)) (hc : c ≠ '}') :
    readValue dialect depth position (fuel + 1) ('{' :: t) =
      readMembers dialect (depth + 1) [] p fuel (c :: more) := by
  simp only [readValue, hroom, hskip, Bool.not_true, Bool.false_eq_true, if_false]
  split
  case h_1 h => exact absurd (List.cons.inj h).1 hc
  case h_2 => rfl

/-- The last item of an array. -/
lemma readItems_close {seen : List Json} {v : Json} {p q : Nat} {t rest after : Text}
    (hv : readValue dialect depth position fuel t = .ok ⟨v, p, rest⟩)
    (hrest : skip p rest = (q, ']' :: after)) :
    readItems dialect depth seen position (fuel + 1) t =
      .ok ⟨.arr (v :: seen).reverse, q + 1, after⟩ := by
  simp only [readItems, hv, bind, Except.bind, hrest]
  rfl

/-- An item of an array with another behind it. -/
lemma readItems_comma {seen : List Json} {v : Json} {p q u : Nat} {t rest after next : Text}
    (hv : readValue dialect depth position fuel t = .ok ⟨v, p, rest⟩)
    (hrest : skip p rest = (q, ',' :: after)) (hnext : skip (q + 1) after = (u, next)) :
    readItems dialect depth seen position (fuel + 1) t =
      readItems dialect depth (v :: seen) u fuel next := by
  simp only [readItems, hv, bind, Except.bind, hrest, hnext]

/-- The last member of an object. -/
lemma readMembers_close {seen : List (Text × Json)} {name : Text} {v : Json} {p q u p' w : Nat}
    {t rest after next rest' after' : Text}
    (hname : readString dialect.half position [] (position + 1) (t.length + 1) t =
      .ok ⟨name, p, rest⟩)
    (hrest : skip p rest = (q, ':' :: after)) (hnext : skip (q + 1) after = (u, next))
    (hv : readValue dialect depth u fuel next = .ok ⟨v, p', rest'⟩)
    (hrest' : skip p' rest' = (w, '}' :: after')) :
    readMembers dialect depth seen position (fuel + 1) ('"' :: t) =
      .ok ⟨.obj (insert name v seen), w + 1, after'⟩ := by
  simp only [readMembers, hname, bind, Except.bind, hrest, hnext, hv, hrest']
  rfl

/-- A member of an object with another behind it. -/
lemma readMembers_comma {seen : List (Text × Json)} {name : Text} {v : Json} {p q u p' w x : Nat}
    {t rest after next rest' after' next' : Text}
    (hname : readString dialect.half position [] (position + 1) (t.length + 1) t =
      .ok ⟨name, p, rest⟩)
    (hrest : skip p rest = (q, ':' :: after)) (hnext : skip (q + 1) after = (u, next))
    (hv : readValue dialect depth u fuel next = .ok ⟨v, p', rest'⟩)
    (hrest' : skip p' rest' = (w, ',' :: after')) (hnext' : skip (w + 1) after' = (x, next')) :
    readMembers dialect depth seen position (fuel + 1) ('"' :: t) =
      readMembers dialect depth (insert name v seen) x fuel next' := by
  simp only [readMembers, hname, bind, Except.bind, hrest, hnext, hv, hrest', hnext']

end

/-! ## Values -/

mutual

/-- A value with its numbers as they are read from their text. -/
def reread : Json → Json
  | .null => .null
  | .bool b => .bool b
  | .int n => .int n
  | .real x => .real (rereadReal x)
  | .str t => .str t
  | .arr vs => .arr (rereadItems vs)
  | .obj ms => .obj (rereadMembers ms)
termination_by structural v => v

/-- The items of an array, reread. -/
def rereadItems : List Json → List Json
  | [] => []
  | v :: rest => reread v :: rereadItems rest
termination_by structural vs => vs

/-- The members of an object, their values reread. -/
def rereadMembers : List (Text × Json) → List (Text × Json)
  | [] => []
  | (name, v) :: rest => (name, reread v) :: rereadMembers rest
termination_by structural ms => ms

end

lemma rereadItems_eq_map (vs : List Json) : rereadItems vs = vs.map reread := by
  induction vs with
  | nil => rfl
  | cons v vs ih => rw [rereadItems, ih, List.map_cons]

/-- A value inside `depth` others that keeps to the bounds of the reader. -/
inductive Readable (dialect : Dialect) : Nat → Json → Prop where
  | null {depth : Nat} : Readable dialect depth .null
  | bool {depth : Nat} (b : Bool) : Readable dialect depth (.bool b)
  | int {depth : Nat} {n : Int} (digits : HasDigitsFor dialect n) : Readable dialect depth (.int n)
  | real {depth : Nat} (x : Binary64) : Readable dialect depth (.real x)
  | str {depth : Nat} (t : Text) : Readable dialect depth (.str t)
  | arr {depth : Nat} {vs : List Json} (room : dialect.hasRoom depth = true)
      (items : ∀ v ∈ vs, Readable dialect (depth + 1) v) : Readable dialect depth (.arr vs)
  | obj {depth : Nat} {ms : List (Text × Json)} (room : dialect.hasRoom depth = true)
      (nodup : (ms.map Prod.fst).Nodup) (values : ∀ m ∈ ms, Readable dialect (depth + 1) m.2) :
      Readable dialect depth (.obj ms)

/-- A value all of whose numbers have their one form. -/
inductive Exact : Json → Prop where
  | null : Exact .null
  | bool (b : Bool) : Exact (.bool b)
  | int (n : Int) : Exact (.int n)
  | real {x : Binary64} (normal : x.IsNormal) : Exact (.real x)
  | str (t : Text) : Exact (.str t)
  | arr {vs : List Json} (items : ∀ v ∈ vs, Exact v) : Exact (.arr vs)
  | obj {ms : List (Text × Json)} (values : ∀ m ∈ ms, Exact m.2) : Exact (.obj ms)

lemma rereadMembers_eq_map (ms : List (Text × Json)) :
    rereadMembers ms = ms.map fun m => (m.1, reread m.2) := by
  induction ms with
  | nil => rfl
  | cons m ms ih => rw [rereadMembers, ih, List.map_cons]

/-- **Reading a value again does not change it, if its numbers have their one form.** -/
lemma reread_of_exact {v : Json} (h : Exact v) : reread v = v := by
  induction h with
  | null => rfl
  | bool b => rfl
  | int n => rfl
  | real normal => rw [reread, rereadReal_of_isNormal normal]
  | str t => rfl
  | arr _ ih => rw [reread, rereadItems_eq_map, List.map_congr_left ih, List.map_id']
  | obj _ ih =>
      have hsame : ∀ m ∈ _, (m.1, reread m.2) = m := fun m hm => Prod.ext rfl (ih m hm)
      rw [reread, rereadMembers_eq_map, List.map_congr_left hsame, List.map_id']

/-- The styles that write integers as their digits and numbers as in stored lists. -/
structure Style.Plain (style : Style) : Prop where
  integer : style.integer = Text.ofInt
  number : style.number = storedNumber

lemma plain_stored : stored.Plain :=
  ⟨rfl, rfl⟩

/-- A value is read as another one from its text, whatever stands before and behind it, once the
reader may take two steps for each character ahead. -/
def ReadsAs (style : Style) (dialect : Dialect) (depth : Nat) (v u : Json) : Prop :=
  ∀ (level position fuel : Nat) (rest : Text), EndsNumeral rest →
    2 * (writeAt style level v ++ rest).length ≤ fuel →
      Reads (readValue dialect depth position fuel (writeAt style level v ++ rest)) u rest

/-- A text that the reader takes for a word or a numeral. -/
def BeginsScalar (t : Text) : Prop :=
  ∃ c rest, t = c :: rest ∧ isSpace c = false ∧ c ≠ ']' ∧ c ≠ '\ufeff' ∧ c ≠ '"' ∧ c ≠ '{' ∧ c ≠ '['

lemma BeginsScalar.begins {t : Text} (h : BeginsScalar t) : Begins t := by
  obtain ⟨c, rest, rfl, hspace, hclose, hmark, -⟩ := h
  exact ⟨c, rest, rfl, hspace, hclose, hmark⟩

lemma readValue_scalar (dialect : Dialect) (depth position fuel : Nat) {t : Text}
    (ht : BeginsScalar t) (rest : Text) :
    readValue dialect depth position (fuel + 1) (t ++ rest) =
      readScalar dialect position (t ++ rest) := by
  obtain ⟨c, t, rfl, -, -, -, hquote, hbrace, hbracket⟩ := ht
  rw [List.cons_append, readValue]
  · exact fun _ h => hquote (List.cons.inj h).1
  · exact fun _ h => hbrace (List.cons.inj h).1
  · exact fun _ h => hbracket (List.cons.inj h).1

lemma beginsScalar_of_isDigit {c : Char} (hc : c = '-' ∨ c.isDigit = true) (rest : Text) :
    BeginsScalar (c :: rest) := by
  have hne : ∀ d : Char, d ≠ '-' → d.isDigit = false → c ≠ d := by
    rintro d hminus hdigit rfl
    rcases hc with hc | hc
    · exact hminus hc
    · simp [hdigit] at hc
  refine ⟨c, rest, rfl, ?_, hne _ (by decide) rfl, hne _ (by decide) rfl, hne _ (by decide) rfl,
    hne _ (by decide) rfl, hne _ (by decide) rfl⟩
  simp [isSpace, hne ' ' (by decide) rfl, hne '\t' (by decide) rfl, hne '\n' (by decide) rfl,
    hne '\r' (by decide) rfl]

lemma beginsScalar_numeral (negative : Bool) {whole : Text} (fraction : Text)
    (exponent : Option Exponent) (hwhole : IsWhole whole) :
    BeginsScalar (numeral negative whole fraction exponent) := by
  obtain ⟨c, t, rfl⟩ := List.exists_cons_of_ne_nil hwhole.ne_nil
  cases negative with
  | true => exact beginsScalar_of_isDigit (.inl rfl) _
  | false => exact beginsScalar_of_isDigit (.inr (hwhole.allDigits c (by simp))) _

lemma beginsScalar_ofInt (n : Int) : BeginsScalar (ofInt n) := by
  rw [ofInt_eq_numeral]
  exact beginsScalar_numeral _ _ _ (isWhole_ofNat _)

lemma beginsScalar_storedNumber (x : Binary64) : BeginsScalar (storedNumber.write x) := by
  cases x with
  | nan => exact ⟨'N', _, rfl, by decide⟩
  | infinite negative =>
      cases negative with
      | true => exact ⟨'-', _, rfl, by decide⟩
      | false => exact ⟨'I', _, rfl, by decide⟩
  | finite negative m e =>
      obtain ⟨whole, fraction, exponent, hwhole, -, -, htext, -⟩ :=
        exists_numeral_write negative m e
      rw [htext]
      exact beginsScalar_numeral _ _ _ hwhole

lemma writeAt_arr_cons (style : Style) (level : Nat) (v : Json) (vs : List Json) :
    writeAt style level (.arr (v :: vs)) =
      '[' :: (lineBreak style (level + 1) ++ (writeAt style (level + 1) v ++
        (writeItems style (level + 1) vs ++ (lineBreak style level ++ [']'])))) := by
  simp [writeAt]

lemma writeAt_obj_cons (style : Style) (level : Nat) (m : Text × Json) (ms : List (Text × Json)) :
    writeAt style level (.obj (m :: ms)) =
      '{' :: (lineBreak style (level + 1) ++ (writeString style.ascii m.1 ++ (colon style ++
        (writeAt style (level + 1) m.2 ++ (writeMembers style (level + 1) ms ++
          (lineBreak style level ++ ['}'])))))) := by
  simp [writeAt]

/-- The styles whose numbers are taken for words or numerals. -/
structure Style.Scalar (style : Style) : Prop where
  integer (n : Int) : BeginsScalar (style.integer n)
  number (x : Binary64) : BeginsScalar (style.number.write x)

lemma Style.Plain.scalar {style : Style} (h : style.Plain) : style.Scalar where
  integer n := by
    rw [h.integer]
    exact beginsScalar_ofInt n
  number x := by
    rw [h.number]
    exact beginsScalar_storedNumber x

section

variable {style : Style} {dialect : Dialect}

/-- Every written value begins with a character that is no white space. -/
lemma begins_writeAt (hstyle : style.Scalar) (level : Nat) (v : Json) :
    Begins (writeAt style level v) := by
  cases v with
  | null => exact ⟨'n', _, rfl, by decide⟩
  | bool b =>
      cases b with
      | true => exact ⟨'t', _, rfl, by decide⟩
      | false => exact ⟨'f', _, rfl, by decide⟩
  | int n => exact (hstyle.integer n).begins
  | real x => exact (hstyle.number x).begins
  | str t => exact ⟨'"', _, rfl, by decide⟩
  | arr vs =>
      cases vs with
      | nil => exact ⟨'[', _, rfl, by decide⟩
      | cons v vs => exact ⟨'[', _, writeAt_arr_cons style level v vs, by decide⟩
  | obj ms =>
      cases ms with
      | nil => exact ⟨'{', _, rfl, by decide⟩
      | cons m ms => exact ⟨'{', _, writeAt_obj_cons style level m ms, by decide⟩

/-- The break before a value is skipped. -/
lemma skip_lineBreak_writeAt (hstyle : style.Scalar) (depth position level : Nat) (v : Json)
    (rest : Text) :
    ∃ p, skip position (lineBreak style depth ++ (writeAt style level v ++ rest)) =
      (p, writeAt style level v ++ rest) := by
  obtain ⟨c, t, ht, hspace, -⟩ := begins_writeAt hstyle level v
  rw [ht]
  exact skip_lineBreak style depth position hspace (t ++ rest)

lemma ReadsAs.scalar {depth : Nat} {v u : Json} {t : Text} (ht : BeginsScalar t)
    (hwrite : ∀ level, writeAt style level v = t)
    (hread : ∀ position rest, EndsNumeral rest →
      Reads (readScalar dialect position (t ++ rest)) u rest) :
    ReadsAs style dialect depth v u := by
  intro level position fuel rest hrest hfuel
  rw [hwrite] at hfuel ⊢
  have hpos : 0 < (t ++ rest).length := by
    obtain ⟨c, t, rfl, -⟩ := ht
    simp
  obtain ⟨fuel, rfl⟩ := Nat.exists_eq_add_one_of_ne_zero (show fuel ≠ 0 by omega)
  rw [readValue_scalar dialect depth position fuel ht rest]
  exact hread position rest hrest

lemma endsNumeral_cons {c : Char} (hc : c.isDigit = false ∧ c ≠ '.' ∧ c ≠ 'e' ∧ c ≠ 'E')
    (rest : Text) : EndsNumeral (c :: rest) := by
  intro d hd
  obtain rfl : c = d := by simpa using hd
  exact hc

lemma endsNumeral_lineBreak (style : Style) (depth : Nat) {rest : Text} (h : EndsNumeral rest) :
    EndsNumeral (lineBreak style depth ++ rest) := by
  unfold lineBreak
  split
  · exact h
  · exact endsNumeral_cons (by decide) _

/-- The items of an array are read one after the other, up to the closing bracket. -/
lemma readItems_writeItems (hstyle : style.Scalar) {depth : Nat} (level out : Nat) (rest : Text)
    {vs us : List Json} (h : List.Forall₂ (ReadsAs style dialect depth) vs us) :
    ∀ {v u : Json}, ReadsAs style dialect depth v u →
      ∀ (seen : List Json) (position fuel : Nat) (t : Text),
        t = writeAt style level v ++
          (writeItems style level vs ++ (lineBreak style out ++ ']' :: rest)) →
        2 * t.length + 1 ≤ fuel →
        Reads (readItems dialect depth seen position fuel t) (.arr (seen.reverse ++ u :: us))
          rest := by
  induction h with
  | nil =>
      rintro v u hv seen position fuel t rfl hfuel
      obtain ⟨fuel, rfl⟩ := Nat.exists_eq_add_one_of_ne_zero (show fuel ≠ 0 by omega)
      rw [writeItems, List.nil_append] at hfuel ⊢
      obtain ⟨p, hread⟩ := hv level position fuel (lineBreak style out ++ ']' :: rest)
        (endsNumeral_lineBreak style out (endsNumeral_cons (by decide) _)) (by omega)
      obtain ⟨q, hskip⟩ := skip_lineBreak style out p (by decide : isSpace ']' = false) rest
      refine ⟨q + 1, ?_⟩
      rw [readItems_close hread hskip, List.reverse_cons]
  | @cons w x vs us hw _ ih =>
      rintro v u hv seen position fuel t rfl hfuel
      obtain ⟨fuel, rfl⟩ := Nat.exists_eq_add_one_of_ne_zero (show fuel ≠ 0 by omega)
      obtain ⟨next, hnext⟩ : ∃ next, next = writeAt style level w ++
          (writeItems style level vs ++ (lineBreak style out ++ ']' :: rest)) := ⟨_, rfl⟩
      have htail : writeItems style level (w :: vs) ++ (lineBreak style out ++ ']' :: rest) =
          ',' :: (lineBreak style level ++ next) := by
        simp [writeItems, hnext]
      rw [htail] at hfuel ⊢
      obtain ⟨p, hread⟩ := hv level position fuel
        (',' :: (lineBreak style level ++ next)) (endsNumeral_cons (by decide) _) (by omega)
      obtain ⟨q, hskip⟩ : ∃ q, skip (p + 1) (lineBreak style level ++ next) = (q, next) :=
        hnext ▸ skip_lineBreak_writeAt hstyle level (p + 1) level w _
      rw [readItems_comma hread (skip_cons (c := ',') (by decide) p _) hskip]
      have hlength : 2 * next.length + 1 ≤ fuel := by
        simp only [List.length_append, List.length_cons] at hfuel
        omega
      simpa using ih hw (u :: seen) q fuel next hnext hlength

lemma insert_of_notMem {name : Text} {ms : List (Text × Json)} (h : name ∉ ms.map Prod.fst)
    (v : Json) : insert name v ms = ms ++ [(name, v)] := by
  induction ms with
  | nil => rfl
  | cons m ms ih =>
      rw [List.map_cons, List.mem_cons, not_or] at h
      rw [insert, if_neg (Ne.symm h.1), ih h.2, List.cons_append]

/-- Members that are put one after the other; of a repeated name the last value stays. -/
def putAll (seen : List (Text × Json)) (ms : List (Text × Json)) : List (Text × Json) :=
  ms.foldl (fun seen m => insert m.1 m.2 seen) seen

/-- Distinct names all find a place of their own. -/
lemma putAll_of_nodup {seen ms : List (Text × Json)}
    (h : (seen.map Prod.fst ++ ms.map Prod.fst).Nodup) : putAll seen ms = seen ++ ms := by
  induction ms generalizing seen with
  | nil => rw [List.append_nil]; rfl
  | cons m ms ih =>
      have hnew : m.1 ∉ seen.map Prod.fst := fun hm =>
        List.disjoint_of_nodup_append h hm (by simp)
      rw [putAll, List.foldl_cons, ← putAll, insert_of_notMem hnew, ih (by simpa using h),
        List.append_assoc, List.singleton_append]

lemma exists_colon_eq (style : Style) :
    ∃ gap, colon style = ':' :: gap ∧ ∀ c ∈ gap, isSpace c = true := by
  unfold colon
  split
  · exact ⟨[], rfl, by simp⟩
  · exact ⟨[' '], rfl, by simp [isSpace]⟩

lemma writeString_append (ascii : Bool) (t rest : Text) :
    writeString ascii t ++ rest = '"' :: (t.flatMap (writeChar ascii) ++ '"' :: rest) := by
  simp [writeString]

/-- A name and the colon behind it are read, up to the value. -/
lemma readString_name (hstyle : style.Scalar) (position level : Nat) (name : Text) (v : Json)
    {rest t : Text}
    (ht : writeString style.ascii name ++ (colon style ++ (writeAt style level v ++ rest)) =
      '"' :: t) :
    ∃ p q u more after,
      readString dialect.half position [] (position + 1) (t.length + 1) t = .ok ⟨name, p, more⟩ ∧
      skip p more = (q, ':' :: after) ∧
      skip (q + 1) after = (u, writeAt style level v ++ rest) := by
  rw [writeString_append] at ht
  obtain rfl := (List.cons.inj ht).2
  obtain ⟨gap, hcolon, hgap⟩ := exists_colon_eq style
  obtain ⟨p, hname⟩ := readString_writeString dialect.half style.ascii position (position + 1) name
    (colon style ++ (writeAt style level v ++ rest))
  obtain ⟨c, t, hv, hspace, -⟩ := begins_writeAt hstyle level v
  refine ⟨p, p, p + 1 + gap.length, _, gap ++ (writeAt style level v ++ rest), hname, ?_, ?_⟩
  · rw [hcolon, List.cons_append, skip_cons (by decide)]
  · rw [skip_append hgap, hv, List.cons_append, skip_cons hspace]

/-- A member is read; what stands behind it decides whether the object ends or goes on. -/
lemma readMembers_writeMember (hstyle : style.Scalar) {depth : Nat} {m : Text × Json} {v : Json}
    (hm : ReadsAs style dialect depth m.2 v) (level position : Nat) {fuel : Nat} {after t : Text}
    (hafter : EndsNumeral after)
    (ht : t = writeString style.ascii m.1 ++ (colon style ++ (writeAt style level m.2 ++ after)))
    (hfuel : 2 * t.length ≤ fuel) :
    ∃ p, ∀ seen : List (Text × Json),
      (∀ {w : Nat} {rest : Text}, skip p after = (w, '}' :: rest) →
        readMembers dialect depth seen position (fuel + 1) t =
          .ok ⟨.obj (insert m.1 v seen), w + 1, rest⟩) ∧
      ∀ {w x : Nat} {rest next : Text}, skip p after = (w, ',' :: rest) →
        skip (w + 1) rest = (x, next) →
        readMembers dialect depth seen position (fuel + 1) t =
          readMembers dialect depth (insert m.1 v seen) x fuel next := by
  have hlength : 2 * (writeAt style level m.2 ++ after).length ≤ fuel := by
    rw [ht] at hfuel
    simp only [List.length_append] at hfuel ⊢
    omega
  obtain ⟨t, rfl⟩ : ∃ t', t = '"' :: t' := ⟨_, ht.trans (writeString_append _ _ _)⟩
  obtain ⟨p, q, u, more, rest, hname, hcolon, hvalue⟩ :=
    readString_name hstyle position level m.1 m.2 ht.symm
  obtain ⟨p', hread⟩ := hm level u fuel after hafter hlength
  exact ⟨p', fun seen => ⟨readMembers_close hname hcolon hvalue hread,
    readMembers_comma hname hcolon hvalue hread⟩⟩

/-- A member that is read as one of the same name. -/
def MemberReadsAs (style : Style) (dialect : Dialect) (depth : Nat) (m n : Text × Json) : Prop :=
  n.1 = m.1 ∧ ReadsAs style dialect depth m.2 n.2

/-- The members of an object are read one after the other, up to the closing brace. -/
lemma readMembers_writeMembers (hstyle : style.Scalar) {depth : Nat} (level out : Nat)
    (rest : Text) {ms ns : List (Text × Json)}
    (h : List.Forall₂ (MemberReadsAs style dialect depth) ms ns) :
    ∀ {m n : Text × Json}, MemberReadsAs style dialect depth m n →
      ∀ (seen : List (Text × Json)) (position fuel : Nat) (t : Text),
        t = writeString style.ascii m.1 ++ (colon style ++ (writeAt style level m.2 ++
          (writeMembers style level ms ++ (lineBreak style out ++ '}' :: rest)))) →
        2 * t.length + 1 ≤ fuel →
        Reads (readMembers dialect depth seen position fuel t) (.obj (putAll seen (n :: ns)))
          rest := by
  induction h with
  | nil =>
      rintro m ⟨name, v⟩ ⟨rfl, hm⟩ seen position fuel t ht hfuel
      obtain ⟨fuel, rfl⟩ := Nat.exists_eq_add_one_of_ne_zero (show fuel ≠ 0 by omega)
      rw [writeMembers, List.nil_append] at ht
      obtain ⟨p, hstep⟩ := readMembers_writeMember hstyle hm level position
        (endsNumeral_lineBreak style out (endsNumeral_cons (by decide) _)) ht
        (Nat.le_of_succ_le_succ hfuel)
      obtain ⟨w, hskip⟩ := skip_lineBreak style out p (by decide : isSpace '}' = false) rest
      exact ⟨w + 1, (hstep seen).1 hskip⟩
  | @cons k l ms ns hk _ ih =>
      rintro m ⟨name, v⟩ ⟨rfl, hm⟩ seen position fuel t ht hfuel
      obtain ⟨fuel, rfl⟩ := Nat.exists_eq_add_one_of_ne_zero (show fuel ≠ 0 by omega)
      obtain ⟨next, hnext⟩ : ∃ next, next = writeString style.ascii k.1 ++ (colon style ++
          (writeAt style level k.2 ++ (writeMembers style level ms ++
            (lineBreak style out ++ '}' :: rest)))) := ⟨_, rfl⟩
      have htail : writeMembers style level (k :: ms) ++ (lineBreak style out ++ '}' :: rest) =
          ',' :: (lineBreak style level ++ next) := by
        simp [writeMembers, hnext]
      rw [htail] at ht
      obtain ⟨p, hstep⟩ := readMembers_writeMember hstyle hm level position
        (endsNumeral_cons (by decide) _) ht (Nat.le_of_succ_le_succ hfuel)
      obtain ⟨x, hskip⟩ : ∃ x, skip (p + 1) (lineBreak style level ++ next) = (x, next) := by
        rw [hnext, writeString_append]
        exact skip_lineBreak style level (p + 1) (by decide) _
      have hlength : 2 * next.length + 1 ≤ fuel := by
        rw [ht] at hfuel
        simp only [List.length_append, List.length_cons] at hfuel
        omega
      rw [(hstep seen).2 (skip_cons (c := ',') (by decide) p _) hskip]
      exact ih hk (insert m.1 v seen) x fuel next hnext hlength

lemma ReadsAs.str (style : Style) (dialect : Dialect) (depth : Nat) (t : Text) :
    ReadsAs style dialect depth (.str t) (.str t) := by
  intro level position fuel rest hrest hfuel
  rw [writeAt, writeString_append] at hfuel ⊢
  rw [List.length_cons] at hfuel
  obtain ⟨fuel, rfl⟩ := Nat.exists_eq_add_one_of_ne_zero (show fuel ≠ 0 by omega)
  obtain ⟨p, hread⟩ :=
    readString_writeString dialect.half style.ascii position (position + 1) t rest
  exact ⟨p, readValue_string hread⟩

/-- **An array is read as what its items are read as.** -/
lemma ReadsAs.arr (hstyle : style.Scalar) {depth : Nat} {vs us : List Json}
    (hroom : dialect.hasRoom depth = true)
    (h : List.Forall₂ (ReadsAs style dialect (depth + 1)) vs us) :
    ReadsAs style dialect depth (.arr vs) (.arr us) := by
  intro level position fuel rest _ hfuel
  cases h with
  | nil =>
      rw [show writeAt style level (.arr []) = ['[', ']'] from rfl, List.length_append] at hfuel
      obtain ⟨fuel, rfl⟩ := Nat.exists_eq_add_one_of_ne_zero
        (show fuel ≠ 0 by rw [List.length_cons] at hfuel; omega)
      exact readValue_arrayNil hroom rest
  | @cons v u vs us hv hvs =>
      obtain ⟨t, ht⟩ : ∃ t, t = writeAt style (level + 1) v ++
          (writeItems style (level + 1) vs ++ (lineBreak style level ++ ']' :: rest)) := ⟨_, rfl⟩
      have htext : writeAt style level (.arr (v :: vs)) ++ rest =
          '[' :: (lineBreak style (level + 1) ++ t) := by
        simp [writeAt_arr_cons, ht]
      rw [htext] at hfuel ⊢
      simp only [List.length_cons, List.length_append] at hfuel
      obtain ⟨fuel, rfl⟩ := Nat.exists_eq_add_one_of_ne_zero (show fuel ≠ 0 by omega)
      -- the first item does not begin with a closing bracket, so the array is not taken for empty
      obtain ⟨c, more, hbegin, hspace, hclose, -⟩ := begins_writeAt hstyle (level + 1) v
      obtain ⟨p, hskip⟩ : ∃ p, skip (position + 1) (lineBreak style (level + 1) ++ t) = (p, t) :=
        ht ▸ skip_lineBreak_writeAt hstyle (level + 1) (position + 1) (level + 1) v _
      have hread := readItems_writeItems hstyle (level + 1) level rest hvs hv [] p fuel t ht
        (by omega)
      obtain ⟨more, rfl⟩ : ∃ more, t = c :: more := ⟨_, by rw [ht, hbegin]; rfl⟩
      rw [readValue_array hroom hskip hclose]
      exact hread

/-- **An object is read as what its members are read as, one put after the other.** -/
lemma ReadsAs.obj (hstyle : style.Scalar) {depth : Nat} {ms ns : List (Text × Json)}
    (hroom : dialect.hasRoom depth = true)
    (h : List.Forall₂ (MemberReadsAs style dialect (depth + 1)) ms ns) :
    ReadsAs style dialect depth (.obj ms) (.obj (putAll [] ns)) := by
  intro level position fuel rest _ hfuel
  cases h with
  | nil =>
      rw [show writeAt style level (.obj []) = ['{', '}'] from rfl, List.length_append] at hfuel
      obtain ⟨fuel, rfl⟩ := Nat.exists_eq_add_one_of_ne_zero
        (show fuel ≠ 0 by rw [List.length_cons] at hfuel; omega)
      exact readValue_objectNil hroom rest
  | @cons m n ms ns hm hms =>
      obtain ⟨t, ht⟩ : ∃ t, t = writeString style.ascii m.1 ++ (colon style ++
          (writeAt style (level + 1) m.2 ++ (writeMembers style (level + 1) ms ++
            (lineBreak style level ++ '}' :: rest)))) := ⟨_, rfl⟩
      have htext : writeAt style level (.obj (m :: ms)) ++ rest =
          '{' :: (lineBreak style (level + 1) ++ t) := by
        simp [writeAt_obj_cons, ht]
      rw [htext] at hfuel ⊢
      simp only [List.length_cons, List.length_append] at hfuel
      obtain ⟨fuel, rfl⟩ := Nat.exists_eq_add_one_of_ne_zero (show fuel ≠ 0 by omega)
      have hread := fun p => readMembers_writeMembers hstyle (level + 1) level rest hms hm [] p
        fuel t ht (by omega)
      obtain ⟨more, rfl⟩ : ∃ more, t = '"' :: more := ⟨_, ht.trans (writeString_append _ _ _)⟩
      obtain ⟨p, hskip⟩ := skip_lineBreak style (level + 1) (position + 1)
        (by decide : isSpace '"' = false) more
      rw [readValue_object hroom hskip (by decide)]
      exact hread p

/-- The words for nothing, true and false are read as they are. -/
lemma ReadsAs.null (style : Style) (dialect : Dialect) (depth : Nat) :
    ReadsAs style dialect depth .null .null := by
  refine ReadsAs.scalar (t := "null".toList) ⟨'n', _, rfl, by decide⟩ (fun _ => rfl) ?_
  intro position rest _
  exact ⟨position + 4, by simp [readScalar, afterFront?]⟩

lemma ReadsAs.bool (style : Style) (dialect : Dialect) (depth : Nat) (b : Bool) :
    ReadsAs style dialect depth (.bool b) (.bool b) := by
  refine ReadsAs.scalar (t := writeAt style 0 (.bool b)) ?_ ?_ ?_
  · cases b with
    | true => exact ⟨'t', _, rfl, by decide⟩
    | false => exact ⟨'f', _, rfl, by decide⟩
  · intro level
    cases b <;> rfl
  · intro position rest _
    refine ⟨position + (writeAt style 0 (.bool b)).length, ?_⟩
    cases b <;> simp [readScalar, afterFront?, writeAt]

/-- **A whole text is read as its value is.** -/
lemma read_write (hstyle : style.Scalar) {v u : Json} (h : ReadsAs style dialect 0 v u) :
    read dialect (write style v) = .ok u := by
  obtain ⟨c, t, ht, hspace, -, hmark⟩ := begins_writeAt hstyle 0 v
  obtain ⟨p, hread⟩ := h 0 0 (2 * (writeAt style 0 v).length + 2) [] (by simp [EndsNumeral])
    (by simp)
  rw [List.append_nil, ht] at hread
  rw [write, ht, read, List.head?_cons, if_neg (by simpa using hmark), skip_cons hspace]
  simp only [hread, bind, Except.bind]
  rfl

/-- A value is read back from its text. -/
def Rereads (style : Style) (dialect : Dialect) (depth : Nat) (v : Json) : Prop :=
  ReadsAs style dialect depth v (reread v)

lemma Rereads.arr (hstyle : style.Scalar) {depth : Nat} {vs : List Json}
    (hroom : dialect.hasRoom depth = true) (hvs : ∀ v ∈ vs, Rereads style dialect (depth + 1) v) :
    Rereads style dialect depth (.arr vs) := by
  rw [Rereads, reread, rereadItems_eq_map]
  refine ReadsAs.arr hstyle hroom ?_
  rw [List.forall₂_map_right_iff, List.forall₂_same]
  exact hvs

lemma Rereads.obj (hstyle : style.Scalar) {depth : Nat} {ms : List (Text × Json)}
    (hroom : dialect.hasRoom depth = true) (hnodup : (ms.map Prod.fst).Nodup)
    (hms : ∀ m ∈ ms, Rereads style dialect (depth + 1) m.2) :
    Rereads style dialect depth (.obj ms) := by
  have hnames : (rereadMembers ms).map Prod.fst = ms.map Prod.fst := by
    rw [rereadMembers_eq_map, List.map_map]
    rfl
  have hputAll : putAll [] (rereadMembers ms) = rereadMembers ms :=
    putAll_of_nodup (by rwa [List.map_nil, List.nil_append, hnames])
  rw [Rereads, reread, ← hputAll]
  refine ReadsAs.obj hstyle hroom ?_
  rw [rereadMembers_eq_map, List.forall₂_map_right_iff, List.forall₂_same]
  exact fun m hm => ⟨rfl, hms m hm⟩

/-- **A value that keeps to the bounds of the reader is read back from its text.** -/
lemma rereads_of_readable (hstyle : style.Plain) (hdialect : dialect.nonFinite = true) {depth : Nat}
    {v : Json} (h : Readable dialect depth v) : Rereads style dialect depth v := by
  induction h with
  | null => exact ReadsAs.null style dialect _
  | bool b => exact ReadsAs.bool style dialect _ b
  | @int depth n digits =>
      refine ReadsAs.scalar (beginsScalar_ofInt n) (fun _ => by rw [writeAt, hstyle.integer]) ?_
      intro position rest hrest
      rw [ofInt_eq_numeral, readScalar_numeral _ _ _ _ _ _ (isWhole_ofNat _), ← ofInt_eq_numeral]
      exact readNumber_ofInt dialect position digits hrest
  | real x =>
      refine ReadsAs.scalar (beginsScalar_storedNumber x)
        (fun _ => by rw [writeAt, hstyle.number]) ?_
      intro position rest hrest
      exact readScalar_storedNumber hdialect position x hrest
  | str t => exact ReadsAs.str style dialect _ t
  | arr room items ih => exact Rereads.arr hstyle.scalar room ih
  | obj room nodup values ih => exact Rereads.obj hstyle.scalar room nodup ih

end

end Gleaner.Json
