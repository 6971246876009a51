import Gleaner.Crawl.Cache
import Gleaner.Proofs.Json.Reread

/-!
# Stored texts that are read

What the crawler writes it can read, whatever the value: numbers are written as numerals or not at
all, and repeated names of an object do not keep its text from being read.

**Numbers.**  The crawler leaves out the point of an integer.  Apart from that its numerals are
those of other texts (`writeDigits_pointZero`), so that a number is read from its text, as an
integer or not, and is the same number again once it is plain (`exists_numeralFor_write`).

**Values.**  `exists_readsAs` is the induction over a value: its text is read as some value, and as
the same one wherever it stands.  `readStored_record` is what the cache needs: from a stored result
one gets the time at which it was stored and what one would get from the text of the result alone.
-/

namespace Gleaner.Crawl

open Json Text

/-! ## Numbers -/

/-- What the reader of stored texts takes beyond the standard: nothing. -/
abbrev dialect : Dialect :=
  { nonFinite := false, maxDigits := none, maxDepth := none }

/-- But for the point of an integer, digits look the same with and without it. -/
lemma writeDigits_pointZero (l : Layout) (digits : ℕ) {exponent : ℤ} (h : exponent < 0 ∨
      ¬(l.low ≤ exponent + (ofNat digits).length - 1 ∧
        exponent + (ofNat digits).length - 1 < l.high)) :
    l.writeDigits digits exponent = { l with pointZero := true }.writeDigits digits exponent := by
  simp only [Layout.writeDigits, Bool.and_eq_true, decide_eq_true_eq]
  split
  case isTrue hrange =>
    have hexponent : ¬0 ≤ exponent := by
      rcases h with h | h
      · omega
      · exact absurd hrange h
    rw [if_neg hexponent, if_neg hexponent]
  case isFalse => rfl

/-- An integer is the number of its digits. -/
lemma ofInt_eq_ofDecimal (negative : Bool) {digits : ℕ} {exponent : ℤ} (hdigits : digits ≠ 0)
    (hexponent : 0 ≤ exponent) (hsmall : exponent + (ofNat digits).length ≤ 400) :
    Binary64.ofInt (Binary64.signed negative (digits * 10 ^ exponent.toNat)) =
      Binary64.ofDecimal negative digits exponent := by
  have hpos : 0 < digits * 10 ^ exponent.toNat :=
    Nat.mul_pos (Nat.pos_of_ne_zero hdigits) (by positivity)
  have hlow : ¬(Binary64.decimalLength digits : ℤ) + exponent < -400 := by omega
  have hhigh : ¬400 < (Binary64.decimalLength digits : ℤ) + exponent := by
    rw [show Binary64.decimalLength digits = (ofNat digits).length from rfl]
    omega
  simp only [Binary64.ofDecimal, if_neg hdigits, if_neg hhigh, if_neg hlow, if_pos hexponent,
    Nat.pow_eq, Binary64.ofInt]
  generalize digits * 10 ^ exponent.toNat = n at *
  cases negative with
  | true =>
      have hnegative : Binary64.signed true n < 0 := by simpa [Binary64.signed] using hpos
      rw [decide_eq_true hnegative]
      simp [Binary64.signed]
  | false =>
      have hpositive : ¬Binary64.signed false n < 0 := by simp [Binary64.signed]
      rw [decide_eq_false hpositive]
      simp [Binary64.signed]

/-- A numeral is read as a value of which the plain form is a number. -/
def NumeralFor (t : Text) (x : Binary64) : Prop :=
  ∃ negative whole fraction exponent v, IsWhole whole ∧ AllDigits fraction ∧
    t = Json.numeral negative whole fraction exponent ∧
    Json.numberOf dialect negative whole fraction (exponent.map Exponent.parts) = .ok v ∧
    plain v = .real x

/-- **The digits of a number are a numeral for it.** -/
lemma numeralFor_writeDigits (negative : Bool) {digits : ℕ} (hdigits : digits ≠ 0)
    (exponent : ℤ) :
    NumeralFor ((if negative then ['-'] else []) ++ number.writeDigits digits exponent)
      (Binary64.ofDecimal negative digits exponent) := by
  by_cases h : exponent < 0 ∨ ¬(number.low ≤ exponent + (ofNat digits).length - 1 ∧
      exponent + (ofNat digits).length - 1 < number.high)
  · rw [writeDigits_pointZero number digits h]
    obtain ⟨whole, fraction, mark, hwhole, hfraction, hreal, htext, hvalue⟩ :=
      isUnsignedReal_writeDigits (l := { number with pointZero := true }) rfl
        (show digits ≠ 0 ∨ exponent = 0 from .inl hdigits)
    refine ⟨negative, whole, fraction, mark, _, hwhole, hfraction, ?_,
      numberOf_real dialect negative whole fraction mark hreal, ?_⟩
    · rw [htext]
      rfl
    · rw [hvalue]
      rfl
  · -- an integer without a point
    rw [not_or, not_not, not_lt] at h
    obtain ⟨hexponent, hlow, hhigh⟩ := h
    have hsmall : exponent + (ofNat digits).length ≤ 400 := by
      have : number.high = 21 := rfl
      omega
    have htext : number.writeDigits digits exponent =
        ofNat digits ++ List.replicate exponent.toNat '0' := by
      simp only [Layout.writeDigits]
      rw [if_pos (by simp [hlow, hhigh]), if_pos hexponent]
      exact List.append_nil _
    have hvalue : digitsValue (ofNat digits ++ List.replicate exponent.toNat '0') =
        digits * 10 ^ exponent.toNat := by
      rw [digitsValue_append (allDigits_ofNat _) (allDigits_zeros _), digitsValue_zeros,
        digitsValue_ofNat, List.length_replicate, add_zero, mul_comm]
    refine ⟨negative, ofNat digits ++ List.replicate exponent.toNat '0', [], none, _, ?_,
      by simp [AllDigits], ?_, rfl, ?_⟩
    · refine .inr ⟨by simp [ofNat_ne_nil], allDigits_append (allDigits_ofNat _) (allDigits_zeros _),
        ?_⟩
      rw [List.head?_append_of_ne_nil _ (ofNat_ne_nil digits)]
      exact head?_ofNat hdigits
    · simp [htext, Json.numeral, pointed, marked]
    · rw [hvalue, plain, ← ofInt_eq_ofDecimal negative hdigits hexponent hsmall]
      rfl

/-- The numeral of zero, with or without a sign. -/
lemma numeralFor_zero (negative : Bool) :
    NumeralFor ((if negative then ['-'] else []) ++ ['0']) (.ofInt 0) := by
  refine ⟨negative, ['0'], [], none, .int 0, .inl rfl, by simp [AllDigits],
    by simp [pointed, marked, Json.numeral], ?_, rfl⟩
  cases negative <;> rfl

/-- **A finite number is written as a numeral**, and in its one form as a numeral for itself, but
for the sign of zero. -/
lemma exists_numeralFor_write (negative : Bool) (m : ℕ) (e : ℤ) :
    ∃ x, NumeralFor (number.write (.finite negative m e)) x ∧
      (Binary64.Normal m e → (negative = true → m ≠ 0) → x = .finite negative m e) := by
  by_cases hm : m = 0
  · refine ⟨.ofInt 0, ?_, fun hnormal hsign => ?_⟩
    · have hzero : number.write (.finite negative m e) = ['0'] := by
        simp [Layout.write, hm, number]
      rw [hzero]
      exact numeralFor_zero false
    · obtain rfl : negative = false := Bool.eq_false_iff.2 fun h => hsign h hm
      rw [hm, hnormal.full.resolve_left (by omega)]
      rfl
  · have hwrite : number.write (.finite negative m e) = (if negative then ['-'] else []) ++
        number.writeDigits (Binary64.shortest m e).1 (Binary64.shortest m e).2 := by
      simp [Layout.write, hm]
    by_cases hdigits : (Binary64.shortest m e).1 = 0
    · have hexponent := (Binary64.shortest_ne_zero hm e).resolve_left (not_not.2 hdigits)
      rw [hwrite, hdigits, hexponent]
      refine ⟨.ofInt 0, numeralFor_zero negative, fun hnormal _ => ?_⟩
      have hshortest := Binary64.ofDecimal_shortest hnormal hm negative
      rw [hdigits, Binary64.ofDecimal_zero, Binary64.zero, Binary64.finite.injEq] at hshortest
      exact absurd hshortest.2.1.symm hm
    · rw [hwrite]
      exact ⟨_, numeralFor_writeDigits negative hdigits _,
        fun hnormal _ => Binary64.ofDecimal_shortest hnormal hm negative⟩

/-! ## Values -/

lemma scalar_number (x : Binary64) : BeginsScalar (number.write x) := by
  cases x with
  | nan => exact ⟨'N', _, rfl, by decide⟩
  | infinite negative =>
      cases negative with
      | true => exact ⟨'-', _, rfl, by decide⟩
      | false => exact ⟨'I', _, rfl, by decide⟩
  | finite negative m e =>
      obtain ⟨-, ⟨sign, whole, fraction, exponent, -, hwhole, -, htext, -⟩, -⟩ :=
        exists_numeralFor_write negative m e
      rw [htext]
      exact beginsScalar_numeral _ _ _ hwhole

lemma scalar_style : style.Scalar :=
  ⟨fun n => scalar_number (Binary64.ofInt n), scalar_number⟩

/-- A finite number is read from its text, and in its one form is the same number again. -/
lemma exists_readsAs_real (negative : Bool) (m : ℕ) (e : ℤ) :
    ∃ v, (∀ depth, ReadsAs style dialect depth (.real (.finite negative m e)) v) ∧
      (Binary64.Normal m e → (negative = true → m ≠ 0) →
        plain v = .real (.finite negative m e)) := by
  obtain ⟨x, ⟨sign, whole, fraction, exponent, v, hwhole, hfraction, htext, hvalue, hplain⟩, hx⟩ :=
    exists_numeralFor_write negative m e
  refine ⟨v, fun depth => ?_, fun hnormal hsign => by rw [hplain, hx hnormal hsign]⟩
  refine ReadsAs.scalar (scalar_number _) (fun _ => rfl) fun position rest hrest => ?_
  rw [htext, readScalar_numeral _ _ _ _ _ _ hwhole,
    readNumber_numeral _ _ _ _ hwhole hfraction hrest, hvalue]
  exact ⟨_, rfl⟩

lemma exists_readsAs_writableNumber (x : Binary64) :
    ∃ v, ∀ depth, ReadsAs style dialect depth (writableNumber x) v := by
  cases x with
  | nan => exact ⟨.null, ReadsAs.null style dialect⟩
  | infinite negative => exact ⟨.null, ReadsAs.null style dialect⟩
  | finite negative m e =>
      obtain ⟨v, hv, -⟩ := exists_readsAs_real negative m e
      exact ⟨v, hv⟩

lemma hasRoom_dialect (depth : ℕ) : dialect.hasRoom depth = true :=
  rfl

mutual

/-- **Every value is read from its text**, and as the same value wherever it stands. -/
lemma exists_readsAs : ∀ v : Json, ∃ u, ∀ depth, ReadsAs style dialect depth (writable v) u
  | .null => ⟨.null, ReadsAs.null style dialect⟩
  | .bool b => ⟨.bool b, fun depth => ReadsAs.bool style dialect depth b⟩
  | .int n => exists_readsAs_writableNumber (Binary64.ofInt n)
  | .real x => exists_readsAs_writableNumber x
  | .str t => ⟨.str t, fun depth => ReadsAs.str style dialect depth t⟩
  | .arr vs => by
      obtain ⟨us, hus⟩ := exists_readsAs_items vs
      exact ⟨.arr us, fun depth => ReadsAs.arr scalar_style (hasRoom_dialect depth) (hus _)⟩
  | .obj ms => by
      obtain ⟨ns, hns⟩ := exists_readsAs_members ms
      exact ⟨.obj (putAll [] ns),
        fun depth => ReadsAs.obj scalar_style (hasRoom_dialect depth) (hns _)⟩
termination_by structural v => v

lemma exists_readsAs_items : ∀ vs : List Json, ∃ us, ∀ depth,
    List.Forall₂ (ReadsAs style dialect depth) (writableItems vs) us
  | [] => ⟨[], fun _ => .nil⟩
  | v :: vs => by
      obtain ⟨u, hu⟩ := exists_readsAs v
      obtain ⟨us, hus⟩ := exists_readsAs_items vs
      exact ⟨u :: us, fun depth => .cons (hu depth) (hus depth)⟩
termination_by structural vs => vs

lemma exists_readsAs_members : ∀ ms : List (Text × Json), ∃ ns, ∀ depth,
    List.Forall₂ (MemberReadsAs style dialect depth) (writableMembers ms) ns
  | [] => ⟨[], fun _ => .nil⟩
  | (name, v) :: ms => by
      obtain ⟨u, hu⟩ := exists_readsAs v
      obtain ⟨ns, hns⟩ := exists_readsAs_members ms
      exact ⟨(name, u) :: ns, fun depth => .cons ⟨rfl, hu depth⟩ (hns depth)⟩
termination_by structural ms => ms

end

lemma readStored_write {v u : Json} (h : ReadsAs style dialect 0 v u) :
    readStored (write style v) = .ok (plain u) := by
  rw [readStored, read_write scalar_style h]

/-- Members whose names are no indices stay in their order. -/
lemma ordered_of_named {ms : List (Text × Json)} (h : ∀ m ∈ ms, arrayIndex? m.1 = none) :
    ordered ms = ms := by
  have hindexed : (ms.filter fun m => (arrayIndex? m.1).isSome) = [] :=
    List.filter_eq_nil_iff.2 fun m hm => by simp [h m hm]
  have hnamed : (ms.filter fun m => (arrayIndex? m.1).isNone) = ms :=
    List.filter_eq_self.2 fun m hm => by simp [h m hm]
  rw [ordered, hindexed, hnamed, List.mergeSort_nil, List.nil_append]

/-- **What is kept of a result.**  From the record of a result one reads the time at which it was
stored, and what one reads from the text of the result alone. -/
lemma readStored_record {negative : Bool} {m : ℕ} {e : ℤ} (hnormal : Binary64.Normal m e)
    (hsign : negative = true → m ≠ 0) (data : Json) :
    ∃ v, readStored (written data) = .ok v ∧
      readStored (written (record (.finite negative m e) (some data))) =
        .ok (.obj [("timestamp".toList, .real (.finite negative m e)), ("data".toList, v)]) := by
  obtain ⟨u, hu⟩ := exists_readsAs data
  obtain ⟨stamp, hstamp, hplain⟩ := exists_readsAs_real negative m e
  have hrecord : ReadsAs style dialect 0 (writable (record (.finite negative m e) (some data)))
      (.obj (putAll [] [("timestamp".toList, stamp), ("data".toList, u)])) := by
    rw [record, writable]
    exact ReadsAs.obj scalar_style rfl (.cons ⟨rfl, hstamp 1⟩ (.cons ⟨rfl, hu 1⟩ .nil))
  refine ⟨plain u, readStored_write (hu 0), ?_⟩
  have hnames : putAll [] [("timestamp".toList, stamp), ("data".toList, u)] =
      [("timestamp".toList, stamp), ("data".toList, u)] := rfl
  rw [written, readStored_write hrecord, hnames, plain, plainMembers, plainMembers, plainMembers,
    hplain hnormal hsign, ordered_of_named]
  exact List.forall_mem_cons.2 ⟨rfl, List.forall_mem_singleton.2 rfl⟩

end Gleaner.Crawl
