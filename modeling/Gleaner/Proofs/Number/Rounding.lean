import Gleaner.Number.Binary64
import Mathlib

/-!
# Rounding to binary floating-point numbers

What rounding does is said on the value of a quotient, a rational number.  Three facts are used
later.

**The value alone counts.**  `rounded` is rounding as a function of the value, whose exponent is an
integer logarithm (`exponentAt`).  Quotients and numerals are rounded by it (`ofRatio_eq_rounded`,
`ofDecimal_eq_rounded`), so a final zero of a numeral may be moved into its exponent
(`ofDecimal_mul_ten`).

**Results have one form.**  What comes out of rounding is `IsNormal`: the significand fills its 53
bits unless the exponent is the least one.

**What is near is rounded to it.**  A value that lies within half the gap around a number is rounded
to that number (`rounded_of_near`).  Below a power of two the gap is half as wide; `halfGap` takes
the smaller half on both sides there, which is enough for seventeen digits.
-/

namespace Gleaner.Binary64

/-! ## Numbers in their one form -/

/-- The significand and the exponent of a finite number in its one form. -/
structure Normal (m : ℕ) (e : ℤ) : Prop where
  lt : m < 2 ^ 53
  minExponent_le : minExponent ≤ e
  le_maxExponent : e ≤ maxExponent
  full : 2 ^ 52 ≤ m ∨ e = minExponent

/-- A number in its one form. -/
def IsNormal : Binary64 → Prop
  | .nan | .infinite _ => True
  | .finite _ m e => Normal m e

lemma normal_zero : Normal 0 minExponent where
  lt := by norm_num
  minExponent_le := le_refl _
  le_maxExponent := by decide
  full := .inr rfl

/-! ## Quotients -/

lemma scaled_den_pos (num : ℕ) {den : ℕ} (hden : 0 < den) (e : ℤ) : 0 < (scaled num den e).2 := by
  unfold scaled
  split_ifs
  · exact Nat.mul_pos hden (Nat.pow_pos (by decide))
  · exact hden

/-- Moving a power to the other side of a quotient divides its value. -/
lemma ratio_shift (b num den : ℕ) (e : ℤ) {n d : ℕ}
    (h : (n, d) = if 0 ≤ e then (num, den * b ^ e.toNat) else (num * b ^ (-e).toNat, den)) :
    (n : ℚ) / d = num / den / b ^ e := by
  split_ifs at h with he
  · obtain ⟨k, rfl⟩ := Int.eq_ofNat_of_zero_le he
    obtain ⟨rfl, rfl⟩ := Prod.mk.inj h
    simp [div_div]
  · obtain ⟨k, hk⟩ := Int.eq_ofNat_of_zero_le (show 0 ≤ -e by omega)
    obtain rfl : e = -(k : ℤ) := by omega
    obtain ⟨rfl, rfl⟩ := Prod.mk.inj h
    simp only [neg_neg, Int.toNat_natCast, Nat.cast_mul, Nat.cast_pow, zpow_neg, zpow_natCast,
      div_inv_eq_mul]
    ring

/-- Scaling divides the value by a power of two. -/
lemma scaled_ratio (num den : ℕ) (e : ℤ) :
    ((scaled num den e).1 : ℚ) / (scaled num den e).2 = num / den / 2 ^ e :=
  ratio_shift 2 num den e rfl

/-- A rational number rounded to the nearest natural number, a tie to the even one. -/
def nearest (v : ℚ) : ℕ :=
  if v - ⌊v⌋₊ < 1 / 2 then ⌊v⌋₊
  else if 1 / 2 < v - ⌊v⌋₊ then ⌊v⌋₊ + 1
  else ⌊v⌋₊ + ⌊v⌋₊ % 2

/-- Rounding a quotient is rounding its value. -/
lemma roundQuotient_eq_nearest (n : ℕ) {d : ℕ} (hd : 0 < d) :
    roundQuotient n d = nearest ((n : ℚ) / d) := by
  have hd' : (0 : ℚ) < d := by exact_mod_cast hd
  have hfloor : ⌊(n : ℚ) / d⌋₊ = n / d := Nat.floor_div_eq_div n d
  have hrest : (n : ℚ) / d - (n / d : ℕ) = (n % d : ℕ) / d := by
    rw [div_sub' hd'.ne', div_left_inj' hd'.ne', sub_eq_iff_eq_add]
    exact_mod_cast (Nat.mod_add_div n d).symm
  have hless : (n : ℚ) / d - (n / d : ℕ) < 1 / 2 ↔ 2 * (n % d) < d := by
    rw [hrest, div_lt_div_iff₀ hd' (by norm_num), one_mul, mul_comm]
    exact_mod_cast Iff.rfl
  have hmore : 1 / 2 < (n : ℚ) / d - (n / d : ℕ) ↔ d < 2 * (n % d) := by
    rw [hrest, div_lt_div_iff₀ (by norm_num) hd', one_mul, mul_comm]
    exact_mod_cast Iff.rfl
  simp only [nearest, hfloor, hless, hmore, roundQuotient]

section

variable {v : ℚ} {m : ℕ}

lemma nearest_le (hv : 0 ≤ v) (h : v < m) : nearest v ≤ m := by
  have hfloor : ⌊v⌋₊ < m := (Nat.floor_lt hv).2 h
  unfold nearest
  split_ifs <;> omega

lemma le_nearest (h : m ≤ v) : m ≤ nearest v := by
  have hfloor : m ≤ ⌊v⌋₊ := Nat.le_floor h
  unfold nearest
  split_ifs <;> omega

/-- A number closer than a half is the nearest one. -/
lemma nearest_of_near (hv : 0 ≤ v) (h : |v - m| < 1 / 2) : nearest v = m := by
  rw [abs_sub_lt_iff] at h
  have hle := Nat.floor_le hv
  have hlt := Nat.lt_floor_add_one v
  -- the floor is `m` or the number before it
  have hlow : ⌊v⌋₊ ≤ m := by
    have : (⌊v⌋₊ : ℚ) < m + 1 := by linarith
    exact Nat.lt_succ_iff.1 (by exact_mod_cast this)
  have hhigh : m ≤ ⌊v⌋₊ + 1 := by
    have : (m : ℚ) < ⌊v⌋₊ + 1 + 1 := by linarith
    exact Nat.lt_succ_iff.1 (by exact_mod_cast this)
  rcases (show m = ⌊v⌋₊ ∨ m = ⌊v⌋₊ + 1 by omega) with hm | hm
  · rw [nearest, if_pos (by rw [← hm]; exact h.1), ← hm]
  · have hcast : (m : ℚ) = ⌊v⌋₊ + 1 := by exact_mod_cast hm
    rw [nearest, if_neg (by linarith), if_pos (by linarith), ← hm]

end

/-! ## Rounding by the value -/

/-- The exponent at which a value has a significand of 53 bits, or the least exponent. -/
def exponentAt (v : ℚ) : ℤ :=
  max (Int.log 2 v - 52) minExponent

/-- The number nearest to a positive value. -/
def rounded (negative : Bool) (v : ℚ) : Binary64 :=
  carry negative (nearest (v / 2 ^ exponentAt v)) (exponentAt v)

lemma two_zpow_pos (e : ℤ) : (0 : ℚ) < 2 ^ e :=
  zpow_pos (by norm_num) e

/-- The exponent is found from the numbers of bits of the two parts of a quotient. -/
lemma exponentOf_eq_exponentAt {num den : ℕ} (hnum : 0 < num) (hden : 0 < den) :
    exponentOf num den = exponentAt ((num : ℚ) / den) := by
  have hden' : (0 : ℚ) < den := by exact_mod_cast hden
  have hv : (0 : ℚ) < num / den := div_pos (by exact_mod_cast hnum) hden'
  obtain ⟨a, ha⟩ : ∃ a, a = Nat.log2 num := ⟨_, rfl⟩
  obtain ⟨b, hb⟩ : ∃ b, b = Nat.log2 den := ⟨_, rfl⟩
  have hnumLow : (2 : ℚ) ^ (a : ℤ) ≤ num := by
    rw [ha, zpow_natCast]
    exact_mod_cast Nat.log2_self_le hnum.ne'
  have hnumHigh : (num : ℚ) < 2 ^ ((a : ℤ) + 1) := by
    rw [ha]
    exact_mod_cast Nat.lt_log2_self (n := num)
  have hdenLow : (2 : ℚ) ^ (b : ℤ) ≤ den := by
    rw [hb, zpow_natCast]
    exact_mod_cast Nat.log2_self_le hden.ne'
  have hdenHigh : (den : ℚ) < 2 ^ ((b : ℤ) + 1) := by
    rw [hb]
    exact_mod_cast Nat.lt_log2_self (n := den)
  have hlow : (a : ℤ) - b - 1 ≤ Int.log 2 ((num : ℚ) / den) := by
    rw [← Int.zpow_le_iff_le_log (by decide) hv, le_div_iff₀ hden']
    calc (2 : ℚ) ^ ((a : ℤ) - b - 1) * den ≤ 2 ^ ((a : ℤ) - b - 1) * 2 ^ ((b : ℤ) + 1) := by gcongr
      _ = 2 ^ (a : ℤ) := by rw [← zpow_add₀ (by norm_num)]; congr 1; ring
      _ ≤ num := hnumLow
  have hhigh : Int.log 2 ((num : ℚ) / den) < (a : ℤ) - b + 1 := by
    rw [← Int.lt_zpow_iff_log_lt (by decide) hv, div_lt_iff₀ hden']
    calc (num : ℚ) < 2 ^ ((a : ℤ) + 1) := hnumHigh
      _ = 2 ^ ((a : ℤ) - b + 1) * 2 ^ (b : ℤ) := by
          rw [← zpow_add₀ (by norm_num)]; congr 1; ring
      _ ≤ 2 ^ ((a : ℤ) - b + 1) * den := by gcongr
  -- the quotient at the lower of the two exponents shows which of them it is
  obtain ⟨n, hn⟩ : ∃ n, n = (scaled num den ((a : ℤ) - b - 53)).1 := ⟨_, rfl⟩
  obtain ⟨d, hd⟩ : ∃ d, d = (scaled num den ((a : ℤ) - b - 53)).2 := ⟨_, rfl⟩
  have hpos : 0 < d := hd ▸ scaled_den_pos num hden _
  have hratio : (n : ℚ) / d = num / den / 2 ^ ((a : ℤ) - b - 53) := by
    rw [hn, hd, scaled_ratio]
  have hcarry : Nat.pow 2 53 ≤ n / d ↔ (a : ℤ) - b ≤ Int.log 2 ((num : ℚ) / den) := by
    rw [Nat.le_div_iff_mul_le hpos, ← Int.zpow_le_iff_le_log (by decide) hv]
    have hcast : Nat.pow 2 53 * d ≤ n ↔ (2 : ℚ) ^ (53 : ℤ) ≤ n / d := by
      rw [le_div_iff₀ (by exact_mod_cast hpos)]
      exact_mod_cast Iff.rfl
    rw [hcast, hratio, le_div_iff₀ (two_zpow_pos _), ← zpow_add₀ (by norm_num)]
    congr! 2
    ring
  simp only [exponentOf, exponentAt, ← ha, ← hb, ← hn, ← hd, hcarry]
  split_ifs <;> congr 1 <;> omega

/-- **Rounding depends on the value alone.** -/
lemma ofRatio_eq_rounded (negative : Bool) {num den : ℕ} (hnum : 0 < num) (hden : 0 < den) :
    ofRatio negative num den = rounded negative ((num : ℚ) / den) := by
  simp only [ofRatio, if_neg hnum.ne', exponentOf_eq_exponentAt hnum hden, rounded]
  rw [roundQuotient_eq_nearest _ (scaled_den_pos num hden _), scaled_ratio]

/-! ## Results in one form -/

section

variable {v : ℚ}

/-- At its exponent a value is below `2 ^ 53`. -/
lemma div_exponentAt_lt (hv : 0 < v) : v / 2 ^ exponentAt v < 2 ^ 53 := by
  have hlog : Int.log 2 v < exponentAt v + 53 := by
    have := le_max_left (Int.log 2 v - 52) minExponent
    rw [exponentAt]
    omega
  rw [← Int.lt_zpow_iff_log_lt (by decide) hv] at hlog
  rw [div_lt_iff₀ (two_zpow_pos _), ← zpow_natCast, ← zpow_add₀ (by norm_num), add_comm]
  exact hlog

/-- At its exponent a value is at least `2 ^ 52`, unless the exponent is the least one. -/
lemma le_div_exponentAt (hv : 0 < v) (h : exponentAt v ≠ minExponent) :
    2 ^ 52 ≤ v / 2 ^ exponentAt v := by
  have hlog : exponentAt v + 52 ≤ Int.log 2 v := by
    rcases max_choice (Int.log 2 v - 52) minExponent with hmax | hmax
    · rw [exponentAt, hmax]
      omega
    · exact absurd hmax h
  rw [← Int.zpow_le_iff_le_log (by decide) hv] at hlog
  rw [le_div_iff₀ (two_zpow_pos _), ← zpow_natCast, ← zpow_add₀ (by norm_num), add_comm]
  exact hlog

lemma isNormal_carry (negative : Bool) {m : ℕ} {e : ℤ} (hm : m ≤ 2 ^ 53) (he : minExponent ≤ e)
    (hfull : 2 ^ 52 ≤ m ∨ e = minExponent) : IsNormal (carry negative m e) := by
  simp only [carry, Nat.pow_eq]
  by_cases hcarry : m = 2 ^ 53
  · rw [if_pos hcarry]
    dsimp only
    split_ifs with hmax
    · trivial
    · exact ⟨by norm_num, by omega, by omega, .inl le_rfl⟩
  · rw [if_neg hcarry]
    dsimp only
    split_ifs with hmax
    · trivial
    · exact ⟨by omega, he, by omega, hfull⟩

/-- **Rounding gives a number in its one form.** -/
lemma isNormal_rounded (negative : Bool) (hv : 0 < v) : IsNormal (rounded negative v) := by
  have hlt := div_exponentAt_lt hv
  have hpos : 0 ≤ v / 2 ^ exponentAt v := (div_pos hv (two_zpow_pos _)).le
  refine isNormal_carry negative (nearest_le hpos (by exact_mod_cast hlt)) (le_max_right _ _) ?_
  by_cases hmin : exponentAt v = minExponent
  · exact .inr hmin
  · exact .inl (le_nearest (by exact_mod_cast le_div_exponentAt hv hmin))

end

lemma isNormal_ofRatio (negative : Bool) (num : ℕ) {den : ℕ} (hden : 0 < den) :
    IsNormal (ofRatio negative num den) := by
  rcases Nat.eq_zero_or_pos num with rfl | hnum
  · exact normal_zero
  · rw [ofRatio_eq_rounded negative hnum hden]
    exact isNormal_rounded negative (by positivity)

lemma isNormal_ofDecimal (negative : Bool) (digits : ℕ) (exponent : ℤ) :
    IsNormal (ofDecimal negative digits exponent) := by
  simp only [ofDecimal]
  split_ifs
  · exact normal_zero
  · trivial
  · exact normal_zero
  · exact isNormal_ofRatio negative _ (by decide)
  · exact isNormal_ofRatio negative _ (Nat.pow_pos (by decide))

/-! ## What is near is rounded to it -/

/-- How far a value may lie from a number with this significand and still be rounded to it, in units
of the last bit. -/
def halfGap (m : ℕ) : ℚ :=
  if m = 2 ^ 52 then 1 / 4 else 1 / 2

lemma halfGap_le (m : ℕ) : halfGap m ≤ 1 / 2 := by
  unfold halfGap
  split_ifs <;> norm_num

/-- The logarithm of a value that lies between two neighbouring powers. -/
lemma log_eq_of_mem {b : ℕ} (hb : 1 < b) {v : ℚ} {k : ℤ} (hlow : (b : ℚ) ^ k ≤ v)
    (hhigh : v < (b : ℚ) ^ (k + 1)) : Int.log b v = k := by
  have hv : 0 < v := lt_of_lt_of_le (zpow_pos (by exact_mod_cast (by omega : 0 < b)) k) hlow
  have h₁ := (Int.zpow_le_iff_le_log hb hv).1 hlow
  have h₂ := (Int.lt_zpow_iff_log_lt hb hv).1 hhigh
  omega

/-- A value that is near a number is rounded to it.  It has the exponent of the number, or it lies
right below a power of two; then it has the exponent before, and rounding carries it over. -/
lemma rounded_of_near (negative : Bool) {m : ℕ} {e : ℤ} (h : Normal m e) (hm : m ≠ 0) {v : ℚ}
    (hv : |v - m * 2 ^ e| < halfGap m * 2 ^ e) : rounded negative v = .finite negative m e := by
  have hlt := h.lt
  have hmin := h.minExponent_le
  have hmax := h.le_maxExponent
  have hpow := two_zpow_pos e
  obtain ⟨t, rfl⟩ : ∃ t : ℚ, v = t * 2 ^ e := ⟨v / 2 ^ e, by field_simp⟩
  have hnear : |t - m| < halfGap m := by
    rwa [← sub_mul, abs_mul, abs_of_pos hpow, mul_lt_mul_iff_left₀ hpow] at hv
  have hhalf := abs_sub_lt_iff.1 (lt_of_lt_of_le hnear (halfGap_le m))
  have hone : (1 : ℚ) ≤ m := by exact_mod_cast Nat.one_le_iff_ne_zero.2 hm
  have htop : (m : ℚ) + 1 ≤ 2 ^ 53 := by exact_mod_cast hlt
  by_cases hsame : 2 ^ 52 ≤ t ∨ e = minExponent
  · have hexp : exponentAt (t * 2 ^ e) = e := by
      rcases hsame with hfull | hleast
      · have hlog : Int.log 2 (t * 2 ^ e) = e + 52 := by
          refine log_eq_of_mem (by decide) ?_ ?_
          · rw [add_comm, Nat.cast_ofNat, zpow_add₀ (by norm_num)]
            exact mul_le_mul_of_nonneg_right (by exact_mod_cast hfull) hpow.le
          · rw [add_assoc, add_comm, Nat.cast_ofNat, zpow_add₀ (by norm_num)]
            exact mul_lt_mul_of_pos_right (by norm_num at htop ⊢; linarith) hpow
        rw [exponentAt, hlog, max_eq_left (by omega)]
        ring
      · have hlog : Int.log 2 (t * 2 ^ e) < e + 53 := by
          rw [← Int.lt_zpow_iff_log_lt (by decide) (mul_pos (by linarith) hpow), add_comm,
            Nat.cast_ofNat, zpow_add₀ (by norm_num)]
          exact mul_lt_mul_of_pos_right (by norm_num at htop ⊢; linarith) hpow
        rw [exponentAt, max_eq_right (by omega), hleast]
    have hround : nearest (t * 2 ^ e / 2 ^ e) = m := by
      rw [mul_div_cancel_right₀ t hpow.ne']
      exact nearest_of_near (by linarith) (lt_of_lt_of_le hnear (halfGap_le m))
    rw [rounded, hexp, hround]
    simp only [carry, Nat.pow_eq]
    rw [if_neg hlt.ne, if_neg (by omega)]
  · rw [not_or, not_le] at hsame
    obtain ⟨hbelow, hleast⟩ := hsame
    have hfull : 2 ^ 52 ≤ m := h.full.resolve_right hleast
    -- above a power of two the half gap does not reach below it
    have hpower : m = 2 ^ 52 := by
      by_contra hne
      have : (2 : ℚ) ^ 52 + 1 ≤ m := by exact_mod_cast Nat.lt_of_le_of_ne hfull (Ne.symm hne)
      linarith
    have hquarter := abs_sub_lt_iff.1 hnear
    rw [halfGap, if_pos hpower] at hquarter
    have hcast : (m : ℚ) = 2 ^ 52 := by exact_mod_cast hpower
    have hlog : Int.log 2 (t * 2 ^ e) = e - 1 + 52 := by
      refine log_eq_of_mem (by decide) ?_ ?_
      · rw [show e - 1 + 52 = 51 + e by ring, Nat.cast_ofNat, zpow_add₀ (by norm_num)]
        exact mul_le_mul_of_nonneg_right (by norm_num at hcast ⊢; linarith) hpow.le
      · rw [show e - 1 + 52 + 1 = 52 + e by ring, Nat.cast_ofNat, zpow_add₀ (by norm_num)]
        exact mul_lt_mul_of_pos_right (by exact_mod_cast hbelow) hpow
    have hexp : exponentAt (t * 2 ^ e) = e - 1 := by
      rw [exponentAt, hlog, max_eq_left (by omega)]
      ring
    have hround : nearest (t * 2 ^ e / 2 ^ (e - 1)) = 2 ^ 53 := by
      have htwice : t * 2 ^ e / 2 ^ (e - 1) = 2 * t := by
        rw [zpow_sub₀ (by norm_num), zpow_one]
        field_simp
      rw [htwice]
      refine nearest_of_near (by linarith) ?_
      rw [abs_sub_lt_iff]
      push_cast
      constructor <;> linarith
    rw [rounded, hexp, hround, hpower]
    simp only [carry, Nat.pow_eq, if_true, sub_add_cancel]
    rw [if_neg (by omega)]

/-! ## Decimal numerals -/

lemma ten_zpow_pos (e : ℤ) : (0 : ℚ) < 10 ^ e :=
  zpow_pos (by norm_num) e

/-- Between its two cutoffs the reader of numerals rounds the value of the numeral. -/
lemma ofDecimal_eq_rounded (negative : Bool) {digits : ℕ} {exponent : ℤ} (hdigits : 0 < digits)
    (hlow : -400 ≤ (decimalLength digits : ℤ) + exponent)
    (hhigh : (decimalLength digits : ℤ) + exponent ≤ 400) :
    ofDecimal negative digits exponent = rounded negative (digits * 10 ^ exponent) := by
  simp only [ofDecimal, Nat.pow_eq]
  rw [if_neg hdigits.ne', if_neg (by omega), if_neg (by omega)]
  split_ifs with hexp
  · obtain ⟨k, rfl⟩ := Int.eq_ofNat_of_zero_le hexp
    rw [ofRatio_eq_rounded negative (Nat.mul_pos hdigits (Nat.pow_pos (by decide))) Nat.one_pos]
    simp
  · obtain ⟨k, hk⟩ := Int.eq_ofNat_of_zero_le (show 0 ≤ -exponent by omega)
    obtain rfl : exponent = -(k : ℤ) := by omega
    rw [ofRatio_eq_rounded negative hdigits (Nat.pow_pos (by decide))]
    simp [div_eq_mul_inv]

lemma decimalLength_le_iff {n k : ℕ} (hk : 0 < k) : decimalLength n ≤ k ↔ n < 10 ^ k :=
  Nat.length_toDigits_le_iff (by decide) hk

lemma decimalLength_mul_ten {n : ℕ} (hn : 0 < n) :
    decimalLength (n * 10) = decimalLength n + 1 := by
  rw [decimalLength, decimalLength, Nat.toDigits_of_base_le (by decide) (by omega),
    Nat.mul_div_cancel n (by decide), List.length_append, List.length_singleton]

/-- A final zero may be moved into the exponent. -/
lemma ofDecimal_mul_ten (negative : Bool) (digits : ℕ) (exponent : ℤ) :
    ofDecimal negative (digits * 10) exponent = ofDecimal negative digits (exponent + 1) := by
  rcases Nat.eq_zero_or_pos digits with rfl | hpos
  · simp [ofDecimal]
  have hlength := decimalLength_mul_ten hpos
  rcases lt_or_ge 400 ((decimalLength digits : ℤ) + (exponent + 1)) with hhigh | hhigh
  · simp only [ofDecimal, hlength]
    rw [if_neg (by omega), if_pos (by omega), if_neg (by omega), if_pos hhigh]
  · rcases lt_or_ge ((decimalLength digits : ℤ) + (exponent + 1)) (-400) with hlow | hlow
    · simp only [ofDecimal, hlength]
      rw [if_neg (by omega), if_neg (by omega), if_pos (by omega), if_neg (by omega),
        if_neg (by omega), if_pos hlow]
    · rw [ofDecimal_eq_rounded negative (by omega) (by omega) (by omega),
        ofDecimal_eq_rounded negative hpos hlow hhigh, zpow_add_one₀ (by norm_num)]
      congr 1
      push_cast
      ring

/-- The sign plays no part in the reading of the digits. -/
lemma ofDecimal_eq_finite_iff (negative : Bool) {digits m : ℕ} {exponent e : ℤ} :
    ofDecimal negative digits exponent = .finite negative m e ↔
      ofDecimal false digits exponent = .finite false m e := by
  simp only [ofDecimal, ofRatio, carry, zero]
  split_ifs <;> simp

end Gleaner.Binary64
