import Gleaner.Json.Reader
import Gleaner.Json.Writer
import Gleaner.Proofs.Number.Shortest

/-!
# Numerals that are read back

The reader of numerals takes a sign, digits that do not begin with a needless zero, a fraction and
an exponent.  `numeral` puts these parts together, and `readNumber_numeral` says that the reader
takes exactly the parts apart again, as long as what follows cannot make the numeral longer.

* Integers are written as such numerals (`ofInt_eq_numeral`), so they are read back as they are.
* A number with a fraction is written in one of four layouts.  All of them are such numerals
  (`exists_numeral_write`), and what is read back is `rereadReal`: the number that the decimal
  digits stand for.  This is the number that was written, if it has its one form
  (`rereadReal_of_isNormal`).
-/

namespace Gleaner.Text

/-! ## Digits -/

/-- Nothing but the ten digits of ASCII. -/
def AllDigits (t : Text) : Prop :=
  ∀ c ∈ t, c.isDigit = true

lemma digitValue?_of_isDigit {c : Char} (h : c.isDigit = true) :
    digitValue? c = some (c.toNat - '0'.toNat) := by
  have hlt : c.toNat < 128 := by
    simp only [Char.isDigit, ge_iff_le, decide_eq_true_eq, UInt32.le_iff_toNat_le,
      Bool.and_eq_true] at h
    exact lt_of_le_of_lt h.2 (by decide)
  simp [digitValue?, hlt, h]

/-- The value of a run of digits, as the library has it. -/
lemma digitsValue_eq_ofDigitChars {t : Text} (h : AllDigits t) :
    digitsValue t = Nat.ofDigitChars 10 t 0 := by
  rw [digitsValue, Nat.ofDigitChars_eq_foldl]
  apply List.foldl_ext
  intro n c hc
  rw [digitValue?_of_isDigit (h c hc), Option.getD_some]

lemma allDigits_append {s t : Text} (hs : AllDigits s) (ht : AllDigits t) : AllDigits (s ++ t) := by
  intro c hc
  rcases List.mem_append.1 hc with hc | hc
  · exact hs c hc
  · exact ht c hc

lemma allDigits_zeros (n : Nat) : AllDigits (List.replicate n '0') := by
  intro c hc
  rw [List.eq_of_mem_replicate hc]
  rfl

lemma allDigits_ofNat (n : Nat) : AllDigits (ofNat n) :=
  fun _ hc => Nat.isDigit_of_mem_toDigits (by decide) (by decide) hc

@[simp] lemma digitsValue_ofNat (n : Nat) : digitsValue (ofNat n) = n := by
  rw [digitsValue_eq_ofDigitChars (allDigits_ofNat n), ofNat, Nat.ofDigitChars_ten_toDigits]

lemma digitsValue_append {s t : Text} (hs : AllDigits s) (ht : AllDigits t) :
    digitsValue (s ++ t) = 10 ^ t.length * digitsValue s + digitsValue t := by
  rw [digitsValue_eq_ofDigitChars (allDigits_append hs ht), digitsValue_eq_ofDigitChars hs,
    digitsValue_eq_ofDigitChars ht, Nat.ofDigitChars_append, Nat.ofDigitChars_eq_ofDigitChars_zero]

lemma ofNat_ne_nil (n : Nat) : ofNat n ≠ [] :=
  Nat.toDigits_ne_nil

/-- The digits of a number that is not zero do not begin with a zero. -/
lemma head?_ofNat : ∀ {n : Nat}, n ≠ 0 → (ofNat n).head? ≠ some '0' := by
  intro n
  induction n using Nat.strong_induction_on with
  | _ n ih =>
      intro hn
      rw [ofNat]
      by_cases hsmall : n < 10
      · rw [Nat.toDigits_of_lt_base hsmall]
        revert hn
        interval_cases n <;> decide
      · rw [Nat.toDigits_of_base_le (by decide) (by omega),
          List.head?_append_of_ne_nil _ Nat.toDigits_ne_nil]
        exact ih (n / 10) (by omega) (by omega)

/-- As many digits as a run has are enough for its value. -/
lemma length_ofNat_digitsValue_le {t : Text} (hne : t ≠ []) (h : AllDigits t) :
    (ofNat (digitsValue t)).length ≤ t.length := by
  rw [ofNat, Nat.length_toDigits_le_iff (by decide) (List.length_pos_iff.2 hne)]
  clear hne
  induction t using List.reverseRecOn with
  | nil => simp [digitsValue]
  | append_singleton t c ih =>
      have hc : c.isDigit = true := h c (by simp)
      have ht : AllDigits t := fun d hd => h d (by simp [hd])
      have hval : digitsValue [c] < 10 := by
        simp only [digitsValue, List.foldl_cons, List.foldl_nil, digitValue?_of_isDigit hc,
          Option.getD_some]
        simp only [Char.isDigit, ge_iff_le, decide_eq_true_eq, UInt32.le_iff_toNat_le,
          Bool.and_eq_true] at hc
        have h9 : c.toNat ≤ 57 := hc.2
        have h0 : '0'.toNat = 48 := rfl
        omega
      have hone : AllDigits [c] := fun d hd => h d (by simp [List.mem_singleton.1 hd])
      rw [digitsValue_append ht hone, List.length_append, List.length_singleton, pow_succ]
      have := ih ht
      omega

end Gleaner.Text

namespace Gleaner.Json

open Text

/-! ## The parts of a numeral -/

/-- Digits that do not begin with a needless zero. -/
def IsWhole (t : Text) : Prop :=
  t = ['0'] ∨ (t ≠ [] ∧ AllDigits t ∧ t.head? ≠ some '0')

/-- An exponent: a sign and at least one digit. -/
structure Exponent where
  negative : Bool
  digits : Text
  digits_ne_nil : digits ≠ []
  allDigits : AllDigits digits

/-- The text of an exponent, with its mark. -/
def Exponent.text (e : Exponent) : Text :=
  'e' :: (if e.negative then '-' else '+') :: e.digits

/-- The sign and the digits of an exponent. -/
def Exponent.parts (e : Exponent) : Text × Text :=
  ([if e.negative then '-' else '+'], e.digits)

/-- The exponent as a number. -/
def Exponent.value (e : Exponent) : Int :=
  if e.negative then -(digitsValue e.digits : Int) else digitsValue e.digits

/-- A fraction with its point; nothing if there are no digits. -/
def pointed (fraction : Text) : Text :=
  if fraction.isEmpty then [] else '.' :: fraction

/-- The text of an exponent that may be missing. -/
def marked (exponent : Option Exponent) : Text :=
  (exponent.map Exponent.text).getD []

/-- A numeral from its parts. -/
def numeral (negative : Bool) (whole fraction : Text) (exponent : Option Exponent) : Text :=
  (if negative then ['-'] else []) ++ (whole ++ (pointed fraction ++ marked exponent))

/-- The value of a numeral with a fraction or an exponent. -/
def numeralValue (negative : Bool) (whole fraction : Text) (exponent : Option Exponent) :
    Binary64 :=
  Binary64.ofDecimal negative (digitsValue (whole ++ fraction))
    ((exponent.map Exponent.value).getD 0 - fraction.length)

/-- What follows cannot make a numeral longer. -/
def EndsNumeral (rest : Text) : Prop :=
  ∀ c ∈ rest.head?, c.isDigit = false ∧ c ≠ '.' ∧ c ≠ 'e' ∧ c ≠ 'E'

/-- What follows is no further digit. -/
def NoDigit (rest : Text) : Prop :=
  ∀ c ∈ rest.head?, c.isDigit = false

lemma EndsNumeral.noDigit {rest : Text} (h : EndsNumeral rest) : NoDigit rest :=
  fun c hc => (h c hc).1

lemma takeWhile_isDigit_append {t rest : Text} (ht : AllDigits t) (hrest : NoDigit rest) :
    (t ++ rest).takeWhile Char.isDigit = t := by
  rw [List.takeWhile_append_of_pos ht]
  cases rest with
  | nil => simp
  | cons c rest => simp [hrest c rfl]

lemma wholeDigits_append {t rest : Text} (ht : IsWhole t) (hrest : NoDigit rest) :
    wholeDigits (t ++ rest) = t := by
  rcases ht with rfl | ⟨hne, hall, hhead⟩
  · rfl
  · obtain ⟨c, t, rfl⟩ := List.exists_cons_of_ne_nil hne
    have hc : c ≠ '0' := by simpa using hhead
    rw [wholeDigits]
    · exact takeWhile_isDigit_append hall hrest
    · intro more h
      exact hc (List.cons.inj h).1

lemma fractionDigits_pointed {fraction rest : Text} (h : AllDigits fraction)
    (hrest : NoDigit rest) (hpoint : rest.head? ≠ some '.') :
    fractionDigits (pointed fraction ++ rest) = fraction := by
  cases fraction with
  | nil =>
      rw [pointed, List.isEmpty_nil, if_pos rfl, List.nil_append, fractionDigits]
      intro more h
      rw [h] at hpoint
      exact hpoint rfl
  | cons c fraction => exact takeWhile_isDigit_append h hrest

lemma exponentPart?_text (e : Exponent) {rest : Text} (hrest : NoDigit rest) :
    exponentPart? (e.text ++ rest) = some e.parts := by
  have htake := takeWhile_isDigit_append e.allDigits hrest
  cases hneg : e.negative <;>
    simp [Exponent.text, Exponent.parts, exponentPart?, hneg, htake, e.digits_ne_nil]

lemma exponentPart?_of_endsNumeral {rest : Text} (h : EndsNumeral rest) :
    exponentPart? rest = none := by
  cases rest with
  | nil => rfl
  | cons c rest =>
      obtain ⟨-, -, he, hE⟩ := h c rfl
      simp [exponentPart?, he, hE]

/-- The exponent of a numeral is found again, or its absence. -/
lemma exponentPart?_marked (exponent : Option Exponent) {rest : Text} (h : EndsNumeral rest) :
    exponentPart? (marked exponent ++ rest) =
      exponent.map Exponent.parts := by
  cases exponent with
  | none => exact exponentPart?_of_endsNumeral h
  | some e => exact exponentPart?_text e h.noDigit

lemma head?_marked (exponent : Option Exponent) {rest : Text} (h : EndsNumeral rest) :
    ∀ c ∈ (marked exponent ++ rest).head?, c.isDigit = false ∧ c ≠ '.' := by
  intro c hc
  cases exponent with
  | none => exact ⟨(h c hc).1, (h c hc).2.1⟩
  | some e =>
      cases hc
      exact ⟨rfl, by decide⟩

lemma noDigit_pointed (fraction : Text) {rest : Text} (h : NoDigit rest) :
    NoDigit (pointed fraction ++ rest) := by
  cases fraction with
  | nil => exact h
  | cons d fraction =>
      intro c hc
      cases hc
      rfl

lemma IsWhole.ne_nil {t : Text} (h : IsWhole t) : t ≠ [] := by
  rcases h with rfl | h
  · simp
  · exact h.1

lemma IsWhole.allDigits {t : Text} (h : IsWhole t) : AllDigits t := by
  rcases h with rfl | h
  · exact allDigits_zeros 1
  · exact h.2.1

lemma length_pointed (fraction : Text) :
    (if fraction.isEmpty then 0 else fraction.length + 1) = (pointed fraction).length := by
  cases fraction <;> rfl

/-- A reader that gives a value and leaves a text, wherever it started. -/
def Reads {α : Type} (r : Except Refusal (Step α)) (value : α) (rest : Text) : Prop :=
  ∃ position, r = .ok ⟨value, position, rest⟩

lemma numberOf_real (dialect : Dialect) (negative : Bool) (whole fraction : Text)
    (exponent : Option Exponent) (h : ¬(fraction = [] ∧ exponent = none)) :
    numberOf dialect negative whole fraction (exponent.map Exponent.parts) =
      .ok (.real (numeralValue negative whole fraction exponent)) := by
  cases exponent with
  | none =>
      have hfraction : fraction ≠ [] := fun hnil => h ⟨hnil, rfl⟩
      simp [numberOf, hfraction, numeralValue]
  | some e =>
      cases hneg : e.negative <;>
        simp [numberOf, numeralValue, Exponent.parts, Exponent.value, hneg]

/-- Digits do not look like a sign. -/
lemma head?_numeral (negative : Bool) {whole : Text} (fraction : Text) (exponent : Option Exponent)
    (rest : Text) (hwhole : IsWhole whole) :
    ((numeral negative whole fraction exponent ++ rest).head? == some '-') = negative := by
  cases negative with
  | true => rfl
  | false =>
      obtain ⟨c, t, rfl⟩ := List.exists_cons_of_ne_nil hwhole.ne_nil
      have hc : c.isDigit = true := hwhole.allDigits c (by simp)
      have hsign : c ≠ '-' := fun h => by simp [h] at hc
      simpa [numeral] using hsign

/-- **The reader takes a numeral apart into the parts that it was made of.** -/
lemma readNumber_numeral (dialect : Dialect) (position : Nat) (negative : Bool)
    {whole fraction rest : Text} (exponent : Option Exponent) (hwhole : IsWhole whole)
    (hfraction : AllDigits fraction) (hrest : EndsNumeral rest) :
    readNumber dialect position (numeral negative whole fraction exponent ++ rest) =
      (numberOf dialect negative whole fraction (exponent.map Exponent.parts)).map fun v =>
        ⟨v, position + (numeral negative whole fraction exponent).length, rest⟩ := by
  set tail := marked exponent ++ rest with htail
  have hexp := exponentPart?_marked exponent hrest
  have hmark := head?_marked exponent hrest
  rw [← htail] at hexp hmark
  have hnodigit : NoDigit tail := fun c hc => (hmark c hc).1
  have hfrac : fractionDigits (pointed fraction ++ tail) = fraction :=
    fractionDigits_pointed hfraction hnodigit fun h => (hmark '.' h).2 rfl
  have hw := wholeDigits_append hwhole (noDigit_pointed fraction hnodigit)
  have hsplit : numeral negative whole fraction exponent ++ rest =
      (if negative then ['-'] else []) ++ (whole ++ (pointed fraction ++ tail)) := by
    simp [numeral, htail]
  have hhead := head?_numeral negative fraction exponent rest hwhole
  have hafterSign : (numeral negative whole fraction exponent ++ rest).drop
      (if negative then 1 else 0) = whole ++ (pointed fraction ++ tail) := by
    rw [hsplit]
    cases negative <;> rfl
  have hafterWhole : (numeral negative whole fraction exponent ++ rest).drop
      ((if negative then 1 else 0) + whole.length) = pointed fraction ++ tail := by
    rw [← List.drop_drop, hafterSign, List.drop_left]
  have hlength : (if negative then 1 else 0) + whole.length + (pointed fraction).length +
      (marked exponent).length = (numeral negative whole fraction exponent).length := by
    cases negative <;> simp [numeral] <;> omega
  simp only [readNumber, hhead, hafterSign, hw, hafterWhole, hfrac, length_pointed, List.drop_left,
    hexp]
  rw [if_neg (by simpa using hwhole.ne_nil)]
  cases exponent with
  | none =>
      simp only [marked, Option.map_none, Option.getD_none, List.length_nil] at hlength ⊢
      simp only [hlength, List.drop_left]
  | some e =>
      have hmarked : 1 + 1 + e.digits.length = (marked (some e)).length := by
        simp only [marked, Exponent.text, Option.map_some, Option.getD_some, List.length_cons]
        omega
      simp only [Option.map_some, Exponent.parts, List.length_singleton, hmarked, hlength,
        List.drop_left]

/-! ## Integers -/

lemma isWhole_ofNat (n : Nat) : IsWhole (ofNat n) := by
  by_cases hn : n = 0
  · subst hn
    exact .inl rfl
  · exact .inr ⟨ofNat_ne_nil n, allDigits_ofNat n, head?_ofNat hn⟩

/-- An integer is written as a numeral without a fraction and an exponent. -/
lemma ofInt_eq_numeral (n : Int) :
    ofInt n = numeral (decide (n < 0)) (ofNat n.natAbs) [] none := by
  by_cases hn : n < 0 <;> simp [ofInt, numeral, pointed, marked, hn]

/-- An integer of which a reader takes all digits. -/
def HasDigitsFor (dialect : Dialect) (n : Int) : Prop :=
  ∀ most ∈ dialect.maxDigits, (ofNat n.natAbs).length ≤ most

instance (dialect : Dialect) (n : Int) : Decidable (HasDigitsFor dialect n) :=
  inferInstanceAs (Decidable (∀ most ∈ dialect.maxDigits, (ofNat n.natAbs).length ≤ most))

/-- **An integer is read back from its digits.** -/
lemma readNumber_ofInt (dialect : Dialect) (position : Nat) {n : Int} {rest : Text}
    (hn : HasDigitsFor dialect n) (hrest : EndsNumeral rest) :
    Reads (readNumber dialect position (ofInt n ++ rest)) (.int n) rest := by
  refine ⟨position + (ofInt n).length, ?_⟩
  rw [ofInt_eq_numeral, readNumber_numeral dialect position _ none (isWhole_ofNat _)
    (by simp [AllDigits]) hrest]
  have hmost : (dialect.maxDigits.map fun most =>
      decide (most < (ofNat n.natAbs).length)).getD false = false := by
    cases hd : dialect.maxDigits with
    | none => rfl
    | some most => simpa using hn most hd
  have hvalue : (if decide (n < 0) = true then -(n.natAbs : Int) else n.natAbs) = n := by
    split <;> grind
  simp only [numberOf, Option.map_none, List.isEmpty_nil, Option.isNone_none, Bool.and_self,
    if_true, hmost, digitsValue_ofNat, hvalue]
  rfl

/-- An integer that was read has no more digits than the reader takes. -/
lemma hasDigitsFor_digitsValue {dialect : Dialect} {whole : Text} (negative : Bool)
    (hne : whole ≠ []) (hall : AllDigits whole)
    (h : (dialect.maxDigits.map fun most => decide (most < whole.length)).getD false = false) :
    HasDigitsFor dialect (if negative then -(digitsValue whole : Int) else digitsValue whole) := by
  intro most hmost
  have hle : whole.length ≤ most := by
    simpa [Option.mem_def.1 hmost] using h
  have habs : (if negative then -(digitsValue whole : Int) else digitsValue whole).natAbs =
      digitsValue whole := by
    cases negative <;> simp
  rw [habs]
  exact (length_ofNat_digitsValue_le hne hall).trans hle

/-- A numeral is none of the words, so it is read as a number. -/
lemma readScalar_numeral (dialect : Dialect) (position : Nat) (negative : Bool) {whole : Text}
    (fraction : Text) (exponent : Option Exponent) (rest : Text) (hwhole : IsWhole whole) :
    readScalar dialect position (numeral negative whole fraction exponent ++ rest) =
      readNumber dialect position (numeral negative whole fraction exponent ++ rest) := by
  obtain ⟨c, t, rfl⟩ := List.exists_cons_of_ne_nil hwhole.ne_nil
  have hc : c.isDigit = true := hwhole.allDigits c (by simp)
  have hletter : ∀ d : Char, d.isDigit = false → d ≠ c := by
    rintro d hd rfl
    simp [hd] at hc
  have hn := hletter 'n' rfl
  have ht := hletter 't' rfl
  have hf := hletter 'f' rfl
  have hN := hletter 'N' rfl
  have hI := hletter 'I' rfl
  have hminus := hletter '-' rfl
  cases negative <;>
    simp [readScalar, numeral, afterFront?, hn, ht, hf, hN, hI, hminus]

/-! ## Numbers with a fraction or an exponent -/

/-- A numeral without its sign that has a fraction or an exponent and stands for
`digits * 10 ^ scale`. -/
def IsUnsignedReal (t : Text) (digits : Nat) (scale : Int) : Prop :=
  ∃ whole fraction exponent, IsWhole whole ∧ AllDigits fraction ∧
    ¬(fraction = [] ∧ exponent = none) ∧ t = whole ++ (pointed fraction ++ marked exponent) ∧
    ∀ negative, numeralValue negative whole fraction exponent =
      Binary64.ofDecimal negative digits scale

lemma digitsValue_append_zero (t : Text) : digitsValue (t ++ ['0']) = digitsValue t * 10 := by
  rw [digitsValue, List.foldl_append, ← digitsValue, Nat.mul_comm]
  rfl

lemma digitsValue_zeros (n : Nat) : digitsValue (List.replicate n '0') = 0 := by
  induction n with
  | zero => rfl
  | succ n ih => rw [List.replicate_succ', digitsValue_append_zero, ih, Nat.zero_mul]

/-- Zeros in front of digits do not count. -/
lemma digitsValue_zeros_append (n : Nat) {t : Text} (ht : AllDigits t) :
    digitsValue (List.replicate n '0' ++ t) = digitsValue t := by
  rw [digitsValue_append (allDigits_zeros n) ht, digitsValue_zeros, Nat.mul_zero, Nat.zero_add]

/-- Zeros behind digits may be moved into the exponent. -/
lemma ofDecimal_append_zeros (negative : Bool) (t : Text) (n : Nat) (scale : Int) :
    Binary64.ofDecimal negative (digitsValue (t ++ List.replicate n '0')) scale =
      Binary64.ofDecimal negative (digitsValue t) (scale + n) := by
  induction n generalizing scale with
  | zero => simp
  | succ n ih =>
      rw [List.replicate_succ', ← List.append_assoc, digitsValue_append_zero,
        Binary64.ofDecimal_mul_ten, ih, add_right_comm, add_assoc, Nat.cast_succ]

lemma AllDigits.sublist {s t : Text} (ht : AllDigits t) (h : s.Sublist t) : AllDigits s :=
  fun c hc => ht c (h.subset hc)

lemma isWhole_take {t : Text} (hne : t ≠ []) (ht : AllDigits t) {n : Nat} (hn : 0 < n)
    (h : t.head? ≠ some '0' ∨ n = 1) : IsWhole (t.take n) := by
  obtain ⟨c, t, rfl⟩ := List.exists_cons_of_ne_nil hne
  obtain ⟨n, rfl⟩ := Nat.exists_eq_add_of_lt hn
  rw [Nat.zero_add, List.take_succ_cons]
  by_cases hc : c = '0'
  · obtain rfl : n = 0 := by simpa [hc] using h
    exact .inl (by rw [hc, List.take_zero])
  · exact .inr ⟨by simp, AllDigits.sublist ht ((List.take_sublist n t).cons_cons c),
      by simpa using hc⟩

/-- The four layouts of digits are numerals, none of them that of an integer. -/
lemma isUnsignedReal_writeDigits {l : Layout} (hl : l.pointZero = true) {digits : Nat}
    {exponent : Int} (h : digits ≠ 0 ∨ exponent = 0) :
    IsUnsignedReal (l.writeDigits digits exponent) digits exponent := by
  have hne := ofNat_ne_nil digits
  have hall := allDigits_ofNat digits
  have hlen : 0 < (ofNat digits).length := List.length_pos_iff.2 hne
  simp only [Layout.writeDigits, hl]
  split
  case isTrue =>
    split
    case isTrue hexp =>
      refine ⟨ofNat digits ++ List.replicate exponent.toNat '0', ['0'], none, ?_, allDigits_zeros 1,
        by simp, by simp [pointed, marked], fun negative => ?_⟩
      · rcases h with hd | rfl
        · refine .inr ⟨by simp [hne], allDigits_append hall (allDigits_zeros _), ?_⟩
          rw [List.head?_append_of_ne_nil _ hne]
          exact head?_ofNat hd
        · simpa using isWhole_ofNat digits
      · have hzeros : ofNat digits ++ List.replicate exponent.toNat '0' ++ ['0'] =
            ofNat digits ++ List.replicate (exponent.toNat + 1) '0' := by
          rw [List.replicate_succ', List.append_assoc]
        rw [numeralValue, hzeros, ofDecimal_append_zeros, digitsValue_ofNat]
        congr 1
        simp only [Option.map_none, Option.getD_none, List.length_singleton]
        omega
    case isFalse hexp =>
      have hd : digits ≠ 0 := h.resolve_right (by omega)
      split
      case isTrue hfirst =>
        set n := (exponent + (ofNat digits).length - 1 + 1).toNat with hn
        have hdrop : (ofNat digits).drop n ≠ [] := by
          rw [ne_eq, List.drop_eq_nil_iff]
          omega
        refine ⟨(ofNat digits).take n, (ofNat digits).drop n, none,
          isWhole_take hne hall (by omega) (.inl (head?_ofNat hd)),
          AllDigits.sublist hall (List.drop_sublist _ _), fun hnil => hdrop hnil.1, ?_,
          fun negative => ?_⟩
        · rw [pointed, if_neg (by simpa using hdrop)]
          simp [marked]
        · rw [numeralValue, List.take_append_drop, digitsValue_ofNat]
          congr 1
          simp only [Option.map_none, Option.getD_none, List.length_drop]
          omega
      case isFalse hfirst =>
        generalize hz : (-(exponent + (ofNat digits).length - 1) - 1).toNat = zeros
        refine ⟨['0'], List.replicate zeros '0' ++ ofNat digits, none, .inl rfl,
          allDigits_append (allDigits_zeros _) hall,
          fun hnil => hne (List.append_eq_nil_iff.1 hnil.1).2, ?_, fun negative => ?_⟩
        · rw [pointed, if_neg (by simp [hne])]
          simp [marked]
        · have hzeros : ['0'] ++ (List.replicate zeros '0' ++ ofNat digits) =
              List.replicate (zeros + 1) '0' ++ ofNat digits := rfl
          rw [numeralValue, hzeros, digitsValue_zeros_append _ hall, digitsValue_ofNat]
          congr 1
          simp only [Option.map_none, Option.getD_none, List.length_append, List.length_replicate]
          omega
  case isFalse =>
    set first := exponent + (ofNat digits).length - 1 with hfirst
    have hexp : AllDigits (List.replicate (l.exponentWidth - (ofNat first.natAbs).length) '0' ++
        ofNat first.natAbs) := allDigits_append (allDigits_zeros _) (allDigits_ofNat _)
    refine ⟨(ofNat digits).take 1, (ofNat digits).drop 1,
      some ⟨decide (first < 0), _, by simp [ofNat_ne_nil], hexp⟩,
      isWhole_take hne hall (by decide) (.inr rfl), AllDigits.sublist hall (List.drop_sublist _ _),
      by simp, ?_, fun negative => ?_⟩
    · simp [pointed, marked, Exponent.text]
    · rw [numeralValue, List.take_append_drop, digitsValue_ofNat]
      congr 1
      simp only [Option.map_some, Option.getD_some, Exponent.value, List.length_drop,
        digitsValue_zeros_append _ (allDigits_ofNat _), digitsValue_ofNat, decide_eq_true_eq]
      omega

/-- A finite number is written as a numeral with a fraction or an exponent, which stands for the
number. -/
lemma exists_numeral_write (negative : Bool) (m : Nat) (e : Int) :
    ∃ whole fraction exponent, IsWhole whole ∧ AllDigits fraction ∧
      ¬(fraction = [] ∧ exponent = none) ∧
      storedNumber.write (.finite negative m e) = numeral negative whole fraction exponent ∧
      (Binary64.Normal m e →
        numeralValue negative whole fraction exponent = .finite negative m e) := by
  have hsign : (if negative && (m != 0 || storedNumber.negativeZero) then ['-'] else []) =
      if negative then ['-'] else [] := by
    simp [storedNumber]
  by_cases hm : m = 0
  · refine ⟨['0'], ['0'], none, .inl rfl, allDigits_zeros 1, by simp, ?_, fun hnormal => ?_⟩
    · simp only [Layout.write, hm, storedNumber]
      cases negative <;> rfl
    · have hleast : e = Binary64.minExponent := hnormal.full.resolve_left (by omega)
      rw [hm, hleast]
      exact Binary64.ofDecimal_zero negative _
  · obtain ⟨whole, fraction, exponent, hwhole, hfraction, hreal, htext, hvalue⟩ :=
      isUnsignedReal_writeDigits (l := storedNumber) rfl (Binary64.shortest_ne_zero hm e)
    refine ⟨whole, fraction, exponent, hwhole, hfraction, hreal, ?_, fun hnormal => ?_⟩
    · rw [numeral, ← htext, Layout.write, hsign, if_neg hm]
    · rw [hvalue, Binary64.ofDecimal_shortest hnormal hm]

/-- The number that is read from the stored text of a number. -/
def rereadReal (x : Binary64) : Binary64 :=
  match readScalar ⟨true, none, none, default⟩ 0 (storedNumber.write x) with
  | .ok ⟨.real y, _, _⟩ => y
  | _ => x

lemma rereadReal_finite {negative : Bool} {m : Nat} {e : Int} {whole fraction : Text}
    {exponent : Option Exponent} (hwhole : IsWhole whole) (hfraction : AllDigits fraction)
    (hreal : ¬(fraction = [] ∧ exponent = none))
    (h : storedNumber.write (.finite negative m e) = numeral negative whole fraction exponent) :
    rereadReal (.finite negative m e) = numeralValue negative whole fraction exponent := by
  have hread : readScalar ⟨true, none, none, default⟩ 0 (numeral negative whole fraction exponent) =
      .ok ⟨.real (numeralValue negative whole fraction exponent),
        0 + (numeral negative whole fraction exponent).length, []⟩ := by
    rw [← List.append_nil (numeral negative whole fraction exponent),
      readScalar_numeral _ _ _ _ _ _ hwhole,
      readNumber_numeral _ _ _ _ hwhole hfraction (by simp [EndsNumeral]),
      numberOf_real _ _ _ _ _ hreal, List.append_nil]
    rfl
  rw [rereadReal, h, hread]

/-- **A number in its one form is read back as it is.** -/
lemma rereadReal_of_isNormal {x : Binary64} (h : x.IsNormal) : rereadReal x = x := by
  cases x with
  | nan => rfl
  | infinite negative => cases negative <;> rfl
  | finite negative m e =>
      obtain ⟨whole, fraction, exponent, hwhole, hfraction, hreal, htext, hvalue⟩ :=
        exists_numeral_write negative m e
      rw [rereadReal_finite hwhole hfraction hreal htext, hvalue h]

/-- **A number is read from its stored text, whatever the reader takes beyond the words for numbers
that are not finite.** -/
lemma readScalar_storedNumber {dialect : Dialect} (hdialect : dialect.nonFinite = true)
    (position : Nat) (x : Binary64) {rest : Text} (hrest : EndsNumeral rest) :
    Reads (readScalar dialect position (storedNumber.write x ++ rest)) (.real (rereadReal x))
      rest := by
  cases x with
  | nan =>
      refine ⟨position + 3, ?_⟩
      simp [readScalar, hdialect, Layout.write, storedNumber, afterFront?, rereadReal]
  | infinite negative =>
      refine ⟨position + (storedNumber.write (.infinite negative)).length, ?_⟩
      cases negative <;>
        simp [readScalar, hdialect, Layout.write, storedNumber, afterFront?, rereadReal]
  | finite negative m e =>
      obtain ⟨whole, fraction, exponent, hwhole, hfraction, hreal, htext, -⟩ :=
        exists_numeral_write negative m e
      refine ⟨position + (numeral negative whole fraction exponent).length, ?_⟩
      rw [rereadReal_finite hwhole hfraction hreal htext, htext,
        readScalar_numeral _ _ _ _ _ _ hwhole,
        readNumber_numeral _ _ _ _ hwhole hfraction hrest, numberOf_real _ _ _ _ _ hreal]
      rfl

end Gleaner.Json
