import Gleaner.Number.Shortest
import Gleaner.Proofs.Number.Rounding

/-!
# The shortest numeral reads back

The digits that are chosen for a number read back as this number (`ofDecimal_shortest`).  The search
only takes numerals of which this is so, hence what is to be shown is that it finds one.  With
seventeen digits it always does: a neighbour of the number on that grid is closer than half the gap
to the next number (`exists_onGrid`).
-/

namespace Gleaner.Binary64

/-! ## What the search takes -/

lemma ofDecimal_zero (negative : Bool) (exponent : Int) :
    ofDecimal negative 0 exponent = zero negative := by
  simp [ofDecimal]

lemma ofDecimal_of_onGrid {x : Binary64} {num den q : Nat} {s : Int}
    (h : onGrid x num den s = some q) : ofDecimal false q s = x := by
  simp only [onGrid] at h
  split at h
  case h_1 hbelow habove =>
    rw [beq_iff_eq] at hbelow habove
    -- both neighbours read back, so the choice between them does not matter
    split at h
    · cases h
      exact hbelow
    · split at h
      · cases h
        exact habove
      · cases h
        rcases Nat.mod_two_eq_zero_or_one ((tenScaled num den s).1 / (tenScaled num den s).2) with
          heven | hodd
        · rw [heven]
          exact hbelow
        · rw [hodd]
          exact habove
  case h_2 hbelow _ =>
    cases h
    exact beq_iff_eq.1 hbelow
  case h_3 _ habove =>
    cases h
    exact beq_iff_eq.1 habove
  case h_4 => cases h

/-- The search on a grid fails only if neither neighbour reads back. -/
lemma exists_onGrid_of_reads {x : Binary64} {num den : ℕ} {s : ℤ}
    (h : ofDecimal false ((tenScaled num den s).1 / (tenScaled num den s).2) s = x ∨
      ofDecimal false ((tenScaled num den s).1 / (tenScaled num den s).2 + 1) s = x) :
    ∃ q, onGrid x num den s = some q := by
  rw [← Option.isSome_iff_exists]
  simp only [onGrid]
  split
  case h_1 =>
    split
    · rfl
    · split <;> rfl
  case h_2 => rfl
  case h_3 => rfl
  case h_4 hbelow habove =>
    rw [beq_eq_false_iff_ne] at hbelow habove
    exact absurd h (by simp [hbelow, habove])

lemma dropZeros_ne_zero {digits : Nat} (h : digits ≠ 0) (exponent : Int) (fuel : Nat) :
    (dropZeros digits exponent fuel).1 ≠ 0 := by
  induction fuel generalizing digits exponent with
  | zero => exact h
  | succ fuel ih =>
      rw [dropZeros]
      split
      case isTrue hz => exact ih (by omega) (exponent + 1)
      case isFalse => exact h

/-- Final zeros are removed without a change of the number. -/
lemma ofDecimal_dropZeros (negative : Bool) (digits : ℕ) (exponent : ℤ) (fuel : ℕ) :
    ofDecimal negative (dropZeros digits exponent fuel).1 (dropZeros digits exponent fuel).2 =
      ofDecimal negative digits exponent := by
  induction fuel generalizing digits exponent with
  | zero => rfl
  | succ fuel ih =>
      rw [dropZeros]
      split
      case isTrue hz =>
        rw [ih, ← ofDecimal_mul_ten, Nat.div_mul_cancel (Nat.dvd_of_mod_eq_zero hz.2)]
      case isFalse => rfl

/-- The shortest digits of a number are not zero, or they need no exponent. -/
lemma shortest_ne_zero {m : Nat} (hm : m ≠ 0) (e : Int) :
    (shortest m e).1 ≠ 0 ∨ (shortest m e).2 = 0 := by
  simp only [shortest]
  split
  case h_2 => exact .inr rfl
  case h_1 q s hfound =>
    refine .inl (dropZeros_ne_zero ?_ s 20)
    rintro rfl
    obtain ⟨i, -, hi⟩ := List.exists_of_findSome?_eq_some hfound
    obtain ⟨q, hq, heq⟩ := Option.map_eq_some_iff.1 hi
    obtain ⟨rfl, rfl⟩ := Prod.mk.inj heq
    have hzero := ofDecimal_of_onGrid hq
    rw [ofDecimal_zero, zero, Binary64.finite.injEq] at hzero
    exact hm hzero.2.1.symm

/-! ## Grids of ten -/

/-- Scaling divides the value by a power of ten. -/
lemma tenScaled_ratio (num den : ℕ) (s : ℤ) :
    ((tenScaled num den s).1 : ℚ) / (tenScaled num den s).2 = num / den / 10 ^ s :=
  ratio_shift 10 num den s rfl

/-- The quotient on a grid is the floor of the scaled value. -/
lemma tenScaled_div (num den : ℕ) (s : ℤ) :
    (tenScaled num den s).1 / (tenScaled num den s).2 = ⌊(num : ℚ) / den / 10 ^ s⌋₊ := by
  rw [← tenScaled_ratio, Nat.floor_div_eq_div]

lemma pow_decimalLength_le {n : ℕ} (hn : 0 < n) : 10 ^ (decimalLength n - 1) ≤ n := by
  rcases Nat.eq_zero_or_pos (decimalLength n - 1) with hzero | hpos
  · rw [hzero, pow_zero]
    exact hn
  · rw [← not_lt, ← decimalLength_le_iff hpos]
    omega

lemma decimalLength_pos (n : ℕ) : 0 < decimalLength n :=
  List.length_pos_iff.2 Nat.toDigits_ne_nil

lemma lt_pow_decimalLength (n : ℕ) : n < 10 ^ decimalLength n :=
  (decimalLength_le_iff (decimalLength_pos n)).1 le_rfl

/-- The exponent of ten of the first digit is the logarithm of the value. -/
lemma decimalExponent_eq_log {num den : ℕ} (hnum : 0 < num) (hden : 0 < den) :
    decimalExponent num den = Int.log 10 ((num : ℚ) / den) := by
  have hden' : (0 : ℚ) < den := by exact_mod_cast hden
  symm
  unfold decimalExponent
  split_ifs with hle
  · have hq : 0 < num / den := Nat.div_pos hle hden
    have hlow := (Nat.le_div_iff_mul_le hden).1 (pow_decimalLength_le hq)
    have hhigh := (Nat.div_lt_iff_lt_mul hden).1 (lt_pow_decimalLength (num / den))
    have hpos := decimalLength_pos (num / den)
    obtain ⟨j, hj⟩ : ∃ j, decimalLength (num / den) = j + 1 := ⟨_, (Nat.sub_add_cancel hpos).symm⟩
    rw [hj, Nat.add_sub_cancel] at hlow
    rw [hj] at hhigh
    rw [hj, Nat.cast_succ, add_sub_cancel_right]
    refine log_eq_of_mem (by decide) ?_ ?_
    · rw [le_div_iff₀ hden', zpow_natCast]
      exact_mod_cast hlow
    · rw [div_lt_iff₀ hden']
      exact_mod_cast hhigh
  · have hq : 0 < den / num := Nat.div_pos (by omega) hnum
    have hlow := (Nat.le_div_iff_mul_le hnum).1 (pow_decimalLength_le hq)
    have hhigh := (Nat.div_lt_iff_lt_mul hnum).1 (lt_pow_decimalLength (den / num))
    have hpos := decimalLength_pos (den / num)
    obtain ⟨j, hj⟩ : ∃ j, decimalLength (den / num) = j + 1 := ⟨_, (Nat.sub_add_cancel hpos).symm⟩
    rw [hj, Nat.add_sub_cancel] at hlow
    rw [hj] at hhigh
    simp only [hj, Nat.add_sub_cancel, Nat.pow_eq]
    have hle_iff (n : ℕ) : (10 : ℚ) ^ (-(n : ℤ)) ≤ num / den ↔ den ≤ num * 10 ^ n := by
      rw [zpow_neg, zpow_natCast, inv_le_iff_one_le_mul₀ (by positivity), div_mul_eq_mul_div,
        le_div_iff₀ hden', one_mul]
      exact_mod_cast Iff.rfl
    split_ifs with hexact
    · refine log_eq_of_mem (by decide) ((hle_iff j).2 hexact) ?_
      have hbelow : (num : ℚ) / den ≤ 10 ^ (-(j : ℤ)) := by
        rw [zpow_neg, zpow_natCast, div_le_iff₀ hden', le_inv_mul_iff₀ (by positivity)]
        exact_mod_cast hlow
      exact lt_of_le_of_lt hbelow (zpow_lt_zpow_right₀ (by norm_num) (by omega))
    · refine log_eq_of_mem (by decide) ?_ ?_
      · have := (hle_iff (j + 1)).2 (by rw [mul_comm]; exact hhigh.le)
        rwa [Nat.cast_succ, neg_add] at this
      · rw [sub_add_cancel, ← not_le]
        exact fun h => hexact ((hle_iff j).1 h)

/-! ## Seventeen digits suffice -/

/-- The value of a finite number. -/
lemma magnitude_ratio (m : ℕ) (e : ℤ) :
    ((magnitude m e).1 : ℚ) / (magnitude m e).2 = m * 2 ^ e := by
  rw [magnitude, scaled_ratio, zpow_neg, div_inv_eq_mul, Nat.cast_one, div_one]

section

variable {m : ℕ} {e : ℤ}

/-- The logarithms of the finite numbers to the base ten. -/
lemma log_bounds (h : Normal m e) (hm : m ≠ 0) :
    -324 ≤ Int.log 10 ((m : ℚ) * 2 ^ e) ∧ Int.log 10 ((m : ℚ) * 2 ^ e) ≤ 308 := by
  have hone : (1 : ℚ) ≤ m := by exact_mod_cast Nat.one_le_iff_ne_zero.2 hm
  have hlt : (m : ℚ) < 2 ^ 53 := by exact_mod_cast h.lt
  have hpos : (0 : ℚ) < m * 2 ^ e := mul_pos (by linarith) (two_zpow_pos e)
  have hleast : ((2 ^ 1074 : ℕ) : ℚ) ≤ (10 ^ 324 : ℕ) := Nat.cast_le.2 (by decide +kernel)
  rw [Nat.cast_pow, Nat.cast_pow] at hleast
  have hgreatest : ((2 ^ 53 * 2 ^ 971 : ℕ) : ℚ) < (10 ^ 309 : ℕ) :=
    Nat.cast_lt.2 (by decide +kernel)
  rw [Nat.cast_mul, Nat.cast_pow, Nat.cast_pow, Nat.cast_pow] at hgreatest
  constructor
  · rw [← Int.zpow_le_iff_le_log (by decide) hpos]
    calc ((10 : ℕ) : ℚ) ^ (-324 : ℤ) ≤ 1 * 2 ^ (-1074 : ℤ) := by
          rw [one_mul]
          exact inv_anti₀ (by positivity) hleast
      _ ≤ m * 2 ^ e := mul_le_mul hone (zpow_le_zpow_right₀ (by norm_num) h.minExponent_le)
          (two_zpow_pos _).le (by linarith)
  · rw [← Int.lt_add_one_iff, ← Int.lt_zpow_iff_log_lt (by decide) hpos]
    calc (m : ℚ) * 2 ^ e ≤ 2 ^ 53 * 2 ^ (971 : ℤ) :=
          mul_le_mul hlt.le (zpow_le_zpow_right₀ (by norm_num) h.le_maxExponent)
            (two_zpow_pos _).le (by norm_num)
      _ < ((10 : ℕ) : ℚ) ^ (308 + 1 : ℤ) := hgreatest

/-- A step of the grid of seventeen digits is smaller than the gap to the next number. -/
lemma grid_lt_gap (h : Normal m e) (hm : m ≠ 0) :
    (10 : ℚ) ^ (Int.log 10 ((m : ℚ) * 2 ^ e) - 16) / 2 < halfGap m * 2 ^ e := by
  have hpow := two_zpow_pos e
  have hpos : (0 : ℚ) < m * 2 ^ e := mul_pos (by exact_mod_cast Nat.pos_of_ne_zero hm) hpow
  have hlog : (10 : ℚ) ^ Int.log 10 ((m : ℚ) * 2 ^ e) ≤ m * 2 ^ e :=
    Int.zpow_log_le_self (by decide) hpos
  have hgap : (m : ℚ) / 10 ^ 16 / 2 < halfGap m := by
    unfold halfGap
    split_ifs with hpower
    · rw [hpower]
      norm_num
    · have hlt : (m : ℚ) < 2 ^ 53 := by exact_mod_cast h.lt
      linarith
  calc (10 : ℚ) ^ (Int.log 10 ((m : ℚ) * 2 ^ e) - 16) / 2
      = 10 ^ Int.log 10 ((m : ℚ) * 2 ^ e) / 10 ^ 16 / 2 := by
        rw [zpow_sub₀ (by norm_num)]
        norm_num
    _ ≤ m * 2 ^ e / 10 ^ 16 / 2 := by gcongr
    _ = m / 10 ^ 16 / 2 * 2 ^ e := by ring
    _ < halfGap m * 2 ^ e := mul_lt_mul_of_pos_right hgap hpow

/-- A numeral of seventeen digits that is near enough reads back. -/
lemma ofDecimal_of_near (h : Normal m e) (hm : m ≠ 0) {q : ℕ} (hlow : 10 ^ 16 ≤ q)
    (hhigh : q ≤ 10 ^ 17)
    (hq : |(q : ℚ) - m * 2 ^ e / 10 ^ (Int.log 10 ((m : ℚ) * 2 ^ e) - 16)| ≤ 1 / 2) :
    ofDecimal false q (Int.log 10 ((m : ℚ) * 2 ^ e) - 16) = .finite false m e := by
  have hbounds := log_bounds h hm
  have hgap := grid_lt_gap h hm
  set s := Int.log 10 ((m : ℚ) * 2 ^ e) - 16 with hs
  have hten := ten_zpow_pos s
  have hlen₁ : decimalLength q ≤ 18 :=
    (decimalLength_le_iff (by decide)).2 (lt_of_le_of_lt hhigh (by norm_num))
  have hlen₂ : ¬decimalLength q ≤ 16 := by
    rw [decimalLength_le_iff (by decide)]
    omega
  rw [ofDecimal_eq_rounded false (by omega) (by omega) (by omega)]
  refine rounded_of_near false h hm (lt_of_le_of_lt ?_ hgap)
  have hdiff : (q : ℚ) * 10 ^ s - m * 2 ^ e = (q - m * 2 ^ e / 10 ^ s) * 10 ^ s := by
    field_simp
  rw [hdiff, abs_mul, abs_of_pos hten]
  calc |(q : ℚ) - m * 2 ^ e / 10 ^ s| * 10 ^ s ≤ 1 / 2 * 10 ^ s := by gcongr
    _ = 10 ^ s / 2 := by ring

/-- **On the grid of seventeen digits the search succeeds.** -/
lemma exists_onGrid (h : Normal m e) (hm : m ≠ 0) :
    ∃ q, onGrid (.finite false m e) (magnitude m e).1 (magnitude m e).2
      (Int.log 10 ((m : ℚ) * 2 ^ e) - 16) = some q := by
  apply exists_onGrid_of_reads
  have hpos : (0 : ℚ) < m * 2 ^ e :=
    mul_pos (by exact_mod_cast Nat.pos_of_ne_zero hm) (two_zpow_pos e)
  have hten := ten_zpow_pos (Int.log 10 ((m : ℚ) * 2 ^ e) - 16)
  rw [tenScaled_div, magnitude_ratio]
  set t := (m : ℚ) * 2 ^ e / 10 ^ (Int.log 10 ((m : ℚ) * 2 ^ e) - 16) with ht
  have hlow : ((10 ^ 16 : ℕ) : ℚ) ≤ t := by
    rw [ht, le_div_iff₀ hten]
    calc ((10 ^ 16 : ℕ) : ℚ) * 10 ^ (Int.log 10 ((m : ℚ) * 2 ^ e) - 16)
        = 10 ^ Int.log 10 ((m : ℚ) * 2 ^ e) := by
          rw [zpow_sub₀ (by norm_num)]
          norm_num
          ring
      _ ≤ m * 2 ^ e := Int.zpow_log_le_self (by decide) hpos
  have hhigh : t < ((10 ^ 17 : ℕ) : ℚ) := by
    rw [ht, div_lt_iff₀ hten]
    calc (m : ℚ) * 2 ^ e < 10 ^ (Int.log 10 ((m : ℚ) * 2 ^ e) + 1) :=
          Int.lt_zpow_succ_log_self (by decide) _
      _ = ((10 ^ 17 : ℕ) : ℚ) * 10 ^ (Int.log 10 ((m : ℚ) * 2 ^ e) - 16) := by
          rw [zpow_sub₀ (by norm_num), zpow_add_one₀ (by norm_num)]
          norm_num
          ring
  have hfloorLow : 10 ^ 16 ≤ ⌊t⌋₊ := Nat.le_floor hlow
  have hnonneg : 0 ≤ t := by positivity
  have hfloorHigh : ⌊t⌋₊ < 10 ^ 17 := (Nat.floor_lt hnonneg).2 hhigh
  have hle := Nat.floor_le hnonneg
  have hlt := Nat.lt_floor_add_one t
  -- the nearer one of the two neighbours is at most half a step away
  rcases le_or_gt (t - ⌊t⌋₊) (1 / 2) with hnear | hfar
  · refine .inl (ofDecimal_of_near h hm hfloorLow hfloorHigh.le ?_)
    rw [abs_le]
    constructor <;> linarith
  · refine .inr (ofDecimal_of_near h hm (by omega) hfloorHigh ?_)
    rw [abs_le]
    push_cast
    constructor <;> linarith

/-- **The shortest digits of a number read back as the number.** -/
lemma ofDecimal_shortest (h : Normal m e) (hm : m ≠ 0) (negative : Bool) :
    ofDecimal negative (shortest m e).1 (shortest m e).2 = .finite negative m e := by
  rw [ofDecimal_eq_finite_iff]
  have hden : 0 < (magnitude m e).2 := scaled_den_pos m Nat.one_pos _
  have hnum : 0 < (magnitude m e).1 := by
    have hpos : (0 : ℚ) < (magnitude m e).1 / (magnitude m e).2 := by
      rw [magnitude_ratio]
      exact mul_pos (by exact_mod_cast Nat.pos_of_ne_zero hm) (two_zpow_pos e)
    rw [div_pos_iff_of_pos_right (by exact_mod_cast hden)] at hpos
    exact_mod_cast hpos
  obtain ⟨q, hq⟩ := exists_onGrid h hm
  simp only [shortest, decimalExponent_eq_log hnum hden, magnitude_ratio]
  split
  case h_1 q' s hfound =>
    obtain ⟨i, -, hi⟩ := List.exists_of_findSome?_eq_some hfound
    obtain ⟨q', hq', heq⟩ := Option.map_eq_some_iff.1 hi
    obtain ⟨rfl, rfl⟩ := Prod.mk.inj heq
    rw [ofDecimal_dropZeros]
    exact ofDecimal_of_onGrid hq'
  case h_2 hnone =>
    have hlast := List.findSome?_eq_none_iff.1 hnone 16 (by decide)
    rw [Nat.cast_ofNat, hq] at hlast
    cases hlast

end

end Gleaner.Binary64
