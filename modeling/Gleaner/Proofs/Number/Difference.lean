import Gleaner.Proofs.Number.Shortest

/-!
# Comparing rounded differences

Clock readings are subtracted and the difference is compared with a length.  Subtraction rounds,
and may even give an infinite number; still the comparison comes out as for the exact difference,
because rounding does not go past a number.

**Order.**  A number has a place among the rational numbers with two ends (`place?`); `lt` and `le`
compare places (`lt_iff`, `le_iff`).

**Rounding.**  `RoundsTo q z` says that no number lies strictly between the value `q` and `z`.
Sums, differences and products are rounded in this sense (`roundsTo_sub`, `roundsTo_mul`).

**Differences.**  For integers, a length that is followed by a number one larger is exceeded by the
rounded difference just when it is exceeded by the exact one (`isLength_of_normal`).
-/

namespace Gleaner.Binary64

/-! ## Order -/

/-- The rational numbers and two ends. -/
abbrev Places := WithBot (WithTop ℚ)

/-- The value of a finite number. -/
def value (negative : Bool) (m : ℕ) (e : ℤ) : ℚ :=
  signed negative m * 2 ^ e

/-- The place of a number; what is not a number has none. -/
def place? : Binary64 → Option Places
  | .nan => none
  | .infinite true => some ⊥
  | .infinite false => some ⊤
  | .finite s m e => some ((value s m e : ℚ) : WithTop ℚ)

/-- Two finite numbers are compared at the lower of their exponents. -/
lemma value_eq_mul {s : Bool} {m : ℕ} {e low : ℤ} (h : low ≤ e) :
    value s m e = (signed s m * Nat.pow 2 (e - low).toNat : ℤ) * 2 ^ low := by
  have hpow : ((Nat.pow 2 (e - low).toNat : ℕ) : ℚ) = 2 ^ (e - low) := by
    rw [Nat.pow_eq, Nat.cast_pow, ← zpow_natCast, Int.toNat_of_nonneg (by omega)]
    rfl
  rw [value, Int.cast_mul, Int.cast_natCast, hpow, mul_assoc, ← zpow_add₀ (by norm_num),
    sub_add_cancel]

lemma compare?_finite (s t : Bool) (m n : ℕ) (e f : ℤ) :
    compare? (.finite s m e) (.finite t n f) = some (compare (value s m e) (value t n f)) := by
  have hpow := two_zpow_pos (min e f)
  rw [value_eq_mul (min_le_left e f), value_eq_mul (min_le_right e f)]
  simp only [compare?, Option.some.injEq]
  generalize signed s m * (Nat.pow 2 (e - min e f).toNat : ℕ) = a
  generalize signed t n * (Nat.pow 2 (f - min e f).toNat : ℕ) = b
  rcases lt_trichotomy a b with h | h | h
  · rw [compare_lt_iff_lt.2 h, compare_lt_iff_lt.2]
    exact mul_lt_mul_of_pos_right (by exact_mod_cast h) hpow
  · rw [h, compare_eq_iff_eq.2 rfl, compare_eq_iff_eq.2 rfl]
  · rw [compare_gt_iff_gt.2 h, compare_gt_iff_gt.2]
    exact mul_lt_mul_of_pos_right (by exact_mod_cast h) hpow

lemma compare_coe (a b : ℚ) :
    compare ((a : WithTop ℚ) : Places) ((b : WithTop ℚ) : Places) = compare a b := by
  rcases lt_trichotomy a b with h | h | h
  · rw [compare_lt_iff_lt.2 h, compare_lt_iff_lt.2 (by exact_mod_cast h)]
  · rw [h, compare_eq_iff_eq.2 rfl, compare_eq_iff_eq.2 rfl]
  · rw [compare_gt_iff_gt.2 h, compare_gt_iff_gt.2 (by exact_mod_cast h)]

/-- **Numbers are compared by their places.** -/
lemma compare?_of_place? {x y : Binary64} {a b : Places} (hx : place? x = some a)
    (hy : place? y = some b) : compare? x y = some (compare a b) := by
  have hlow : ∀ q : ℚ, (⊥ : Places) < ((q : WithTop ℚ) : Places) := fun q => WithBot.bot_lt_coe _
  have hhigh : ∀ q : ℚ, ((q : WithTop ℚ) : Places) < ⊤ := fun q =>
    WithBot.coe_lt_coe.2 (WithTop.coe_lt_top q)
  have hends : (⊥ : Places) < ⊤ := bot_lt_top
  rcases x with _ | ⟨_ | _⟩ | ⟨s, m, e⟩ <;> rcases y with _ | ⟨_ | _⟩ | ⟨t, n, f⟩ <;>
    cases hx <;> cases hy
  case infinite.false.infinite.false => rw [compare_eq_iff_eq.2 rfl]; rfl
  case infinite.false.infinite.true => rw [compare_gt_iff_gt.2 hends]; rfl
  case infinite.false.finite => rw [compare_gt_iff_gt.2 (hhigh _)]; rfl
  case infinite.true.infinite.false => rw [compare_lt_iff_lt.2 hends]; rfl
  case infinite.true.infinite.true => rw [compare_eq_iff_eq.2 rfl]; rfl
  case infinite.true.finite => rw [compare_lt_iff_lt.2 (hlow _)]; rfl
  case finite.infinite.false => rw [compare_lt_iff_lt.2 (hhigh _)]; rfl
  case finite.infinite.true => rw [compare_gt_iff_gt.2 (hlow _)]; rfl
  case finite.finite => rw [compare?_finite, compare_coe]

section

variable {x y z : Binary64} {a b : Places}

lemma lt_iff (hx : place? x = some a) (hy : place? y = some b) : x.lt y = true ↔ a < b := by
  rw [lt, compare?_of_place? hx hy, beq_iff_eq, Option.some.injEq, compare_lt_iff_lt]

lemma le_iff (hx : place? x = some a) (hy : place? y = some b) : x.le y = true ↔ a ≤ b := by
  rw [le, compare?_of_place? hx hy, Bool.or_eq_true, beq_iff_eq, beq_iff_eq, Option.some.injEq,
    Option.some.injEq, compare_lt_iff_lt, compare_eq_iff_eq, le_iff_lt_or_eq]

/-- What can be compared is a number. -/
lemma exists_place_of_le (h : x.le y = true) (hx : place? x = some a) :
    ∃ b, place? y = some b ∧ a ≤ b := by
  rcases y with _ | ⟨_ | _⟩ | ⟨t, n, f⟩
  · rcases x with _ | ⟨_ | _⟩ | ⟨s, m, e⟩ <;> cases h
  all_goals exact ⟨_, rfl, (le_iff hx rfl).1 h⟩

lemma not_lt_of_le (h : x.le y = true) : ¬y.lt x = true := by
  intro hlt
  rcases x with _ | ⟨_ | _⟩ | ⟨s, m, e⟩ <;> rcases y with _ | ⟨_ | _⟩ | ⟨t, n, f⟩
  all_goals first
    | exact absurd ((lt_iff rfl rfl).1 hlt) (not_lt.2 ((le_iff rfl rfl).1 h))
    | cases h

lemma lt_of_le_of_lt (hxy : x.le y = true) (hyz : y.lt z = true) : x.lt z = true := by
  have hplace : ∀ {x y : Binary64}, x.lt y = true → ∃ b, place? y = some b := by
    rintro (_ | ⟨_ | _⟩ | _) (_ | ⟨_ | _⟩ | _) h <;> first | exact ⟨_, rfl⟩ | cases h
  have hplace' : ∀ {x y : Binary64}, x.le y = true → ∃ a, place? x = some a := by
    rintro (_ | ⟨_ | _⟩ | _) (_ | ⟨_ | _⟩ | _) h <;> first | exact ⟨_, rfl⟩ | cases h
  obtain ⟨a, hx⟩ := hplace' hxy
  obtain ⟨c, hz⟩ := hplace hyz
  obtain ⟨b, hy, hab⟩ := exists_place_of_le hxy hx
  exact (lt_iff hx hz).2 (hab.trans_lt ((lt_iff hy hz).1 hyz))

/-- Nothing lies above the infinite number. -/
lemma not_infinite_lt (x : Binary64) : ¬(infinite false).lt x = true := by
  rcases x with _ | ⟨_ | _⟩ | _ <;> nofun

end

/-- A number that is an integer is finite and has its value. -/
lemma exists_of_toInt? {x : Binary64} {n : ℤ} (h : x.toInt? = some n) :
    ∃ s m e, x = .finite s m e ∧ value s m e = n := by
  rcases x with _ | _ | ⟨s, m, e⟩
  · cases h
  · cases h
  · refine ⟨s, m, e, rfl, ?_⟩
    simp only [toInt?, Nat.pow_eq] at h
    split_ifs at h with he hdvd
    · cases h
      rw [value_eq_mul he]
      simp
    · cases h
      obtain ⟨k, hk⟩ := Nat.dvd_of_mod_eq_zero hdvd
      have hpow : (2 : ℚ) ^ e = ((2 ^ (-e).toNat : ℕ) : ℚ)⁻¹ := by
        rw [Nat.cast_pow, ← zpow_natCast, ← zpow_neg, Int.toNat_of_nonneg (by omega), neg_neg]
        rfl
      have hpos : (0 : ℚ) < (2 ^ (-e).toNat : ℕ) := by positivity
      rw [value, hpow, hk, Nat.mul_div_cancel_left k (by positivity)]
      cases s <;> simp only [signed] <;> push_cast at hpos ⊢ <;> field_simp

/-! ## Rounding -/

/-- The value `q` is rounded to `z`: no number in its one form lies strictly between them. -/
structure RoundsTo (q : ℚ) (z : Binary64) : Prop where
  le_of_le {s : Bool} {m : ℕ} {e : ℤ} (h : Normal m e) (hle : value s m e ≤ q) :
    (Binary64.finite s m e).le z = true
  ge_of_ge {s : Bool} {m : ℕ} {e : ℤ} (h : Normal m e) (hle : q ≤ value s m e) :
    z.le (.finite s m e) = true

/-- What is below a rounded value is below the value. -/
lemma RoundsTo.lt_of_lt {q : ℚ} {z : Binary64} (h : RoundsTo q z) {s : Bool} {m : ℕ} {e : ℤ}
    (hnormal : Normal m e) (hlt : (Binary64.finite s m e).lt z = true) : value s m e < q := by
  by_contra hle
  exact not_lt_of_le (h.ge_of_ge hnormal (not_lt.1 hle)) hlt

lemma signed_not (s : Bool) (m : ℕ) : signed (!s) m = -signed s m := by
  cases s <;> simp [signed]

lemma value_not (s : Bool) (m : ℕ) (e : ℤ) : value (!s) m e = -value s m e := by
  rw [value, value, signed_not, Int.cast_neg, neg_mul]

lemma compare?_neg (x y : Binary64) : compare? x.neg y.neg = compare? y x := by
  rcases x with _ | ⟨_ | _⟩ | ⟨s, m, e⟩ <;> rcases y with _ | ⟨_ | _⟩ | ⟨t, n, f⟩
  case finite.finite =>
    rw [neg, neg, compare?_finite, compare?_finite, value_not, value_not]
    rcases lt_trichotomy (value t n f) (value s m e) with h | h | h
    · rw [compare_lt_iff_lt.2 h, compare_lt_iff_lt.2 (neg_lt_neg h)]
    · rw [h, compare_eq_iff_eq.2 rfl, compare_eq_iff_eq.2 rfl]
    · rw [compare_gt_iff_gt.2 h, compare_gt_iff_gt.2 (neg_lt_neg h)]
  all_goals rfl

lemma le_neg (x y : Binary64) : x.neg.le y.neg = y.le x := by
  rw [le, le, compare?_neg]

lemma RoundsTo.neg {q : ℚ} {z : Binary64} (h : RoundsTo q z) : RoundsTo (-q) z.neg := by
  constructor
  · intro s m e hnormal hle
    have hle' : q ≤ value (!s) m e := by
      rw [value_not]
      linarith
    have := h.ge_of_ge hnormal hle'
    rw [← le_neg] at this
    simpa [Binary64.neg] using this
  · intro s m e hnormal hle
    have hle' : value (!s) m e ≤ q := by
      rw [value_not]
      linarith
    have := h.le_of_le hnormal hle'
    rw [← le_neg] at this
    simpa [Binary64.neg] using this

lemma nearest_le_of_le {v : ℚ} {m : ℕ} (hv : 0 ≤ v) (h : v ≤ m) : nearest v ≤ m := by
  rcases h.lt_or_eq with h | h
  · exact nearest_le hv h
  · rw [nearest_of_near hv (m := m) (by rw [h]; norm_num)]

section

variable {v : ℚ} {m : ℕ} {f : ℤ}

/-- At a greater exponent than its own, a value is a natural number. -/
lemma mul_zpow_eq_natCast (m : ℕ) {e f : ℤ} (h : e ≤ f) :
    (m : ℚ) * 2 ^ f = (m * 2 ^ (f - e).toNat : ℕ) * 2 ^ e := by
  have hpow : ((2 ^ (f - e).toNat : ℕ) : ℚ) = 2 ^ (f - e) := by
    rw [Nat.cast_pow, ← zpow_natCast, Int.toNat_of_nonneg (by omega)]
    rfl
  rw [Nat.cast_mul, hpow, mul_assoc, ← zpow_add₀ (by norm_num), sub_add_cancel]

/-- A number with a lower exponent than that of a value lies below all that it can be rounded to. -/
lemma mul_zpow_lt_of_lt (hv : 0 < v) (h : Normal m f) (hlt : f < exponentAt v) :
    (m : ℚ) * 2 ^ f < 2 ^ 52 * 2 ^ exponentAt v ∧ 2 ^ 52 ≤ v / 2 ^ exponentAt v := by
  have hmin := h.minExponent_le
  refine ⟨?_, le_div_exponentAt hv (by omega)⟩
  have hm : (m : ℚ) < 2 ^ 53 := by exact_mod_cast h.lt
  calc (m : ℚ) * 2 ^ f < 2 ^ 53 * 2 ^ f := mul_lt_mul_of_pos_right hm (two_zpow_pos f)
    _ = 2 ^ 52 * 2 ^ (f + 1) := by rw [zpow_add_one₀ (by norm_num)]; ring
    _ ≤ 2 ^ 52 * 2 ^ exponentAt v := by
        gcongr
        · norm_num
        · omega

lemma le_rounded_value (hv : 0 < v) (h : Normal m f) (hle : m * 2 ^ f ≤ v) :
    (m : ℚ) * 2 ^ f ≤ nearest (v / 2 ^ exponentAt v) * 2 ^ exponentAt v := by
  have hpow := two_zpow_pos (exponentAt v)
  rcases le_or_gt (exponentAt v) f with hexp | hexp
  · rw [mul_zpow_eq_natCast m hexp] at hle ⊢
    gcongr
    exact le_nearest ((le_div_iff₀ hpow).2 hle)
  · obtain ⟨hlt, hfull⟩ := mul_zpow_lt_of_lt hv h hexp
    have hnearest : 2 ^ 52 ≤ nearest (v / 2 ^ exponentAt v) :=
      le_nearest (by exact_mod_cast hfull)
    refine hlt.le.trans ?_
    gcongr
    exact_mod_cast hnearest

lemma rounded_value_le (hv : 0 < v) (h : Normal m f) (hle : v ≤ m * 2 ^ f) :
    (nearest (v / 2 ^ exponentAt v) : ℚ) * 2 ^ exponentAt v ≤ m * 2 ^ f := by
  have hpow := two_zpow_pos (exponentAt v)
  rcases le_or_gt (exponentAt v) f with hexp | hexp
  · rw [mul_zpow_eq_natCast m hexp] at hle ⊢
    gcongr
    exact nearest_le_of_le (div_pos hv hpow).le ((div_le_iff₀ hpow).2 hle)
  · obtain ⟨hlt, hfull⟩ := mul_zpow_lt_of_lt hv h hexp
    rw [le_div_iff₀ hpow] at hfull
    exact absurd (hfull.trans hle) (not_le.2 hlt)

end

/-- The greatest finite number is below `2 ^ 1024`. -/
lemma mul_zpow_lt_of_normal {m : ℕ} {e : ℤ} (h : Normal m e) :
    (m : ℚ) * 2 ^ e < 2 ^ (1024 : ℤ) := by
  have hm : (m : ℚ) < 2 ^ (53 : ℤ) := by exact_mod_cast h.lt
  have hmax : e ≤ 971 := h.le_maxExponent
  calc (m : ℚ) * 2 ^ e < 2 ^ (53 : ℤ) * 2 ^ e := mul_lt_mul_of_pos_right hm (two_zpow_pos e)
    _ = 2 ^ (53 + e) := by rw [zpow_add₀ (by norm_num)]
    _ ≤ 2 ^ (1024 : ℤ) := zpow_le_zpow_right₀ (by norm_num) (by omega)

/-- A carry keeps the value; beyond the greatest exponent there is no finite number. -/
lemma carry_cases {k : ℕ} {e : ℤ} (hfull : 2 ^ 52 ≤ k ∨ e = minExponent) :
    (∃ m f, carry false k e = .finite false m f ∧ value false m f = k * 2 ^ e) ∨
      carry false k e = .infinite false ∧ (2 : ℚ) ^ (1024 : ℤ) ≤ k * 2 ^ e := by
  simp only [carry, Nat.pow_eq]
  by_cases hcarry : k = 2 ^ 53
  · have hvalue : ((2 ^ 52 : ℕ) : ℚ) * 2 ^ (e + 1) = k * 2 ^ e := by
      rw [hcarry, zpow_add_one₀ (by norm_num)]
      push_cast
      ring
    rw [if_pos hcarry]
    dsimp only
    split_ifs with hmax
    · refine .inr ⟨rfl, ?_⟩
      rw [← hvalue, Nat.cast_pow, ← zpow_natCast, Nat.cast_ofNat, ← zpow_add₀ (by norm_num)]
      refine zpow_le_zpow_right₀ (by norm_num) ?_
      simp only [maxExponent] at hmax
      push_cast
      omega
    · exact .inl ⟨_, _, rfl, hvalue⟩
  · rw [if_neg hcarry]
    dsimp only
    split_ifs with hmax
    · refine .inr ⟨rfl, ?_⟩
      simp only [maxExponent] at hmax
      have hlow : (2 : ℚ) ^ (52 : ℤ) ≤ k := by
        exact_mod_cast hfull.resolve_right (by simp only [minExponent]; omega)
      calc (2 : ℚ) ^ (1024 : ℤ) ≤ 2 ^ (52 + e) :=
            zpow_le_zpow_right₀ (by norm_num) (by omega)
        _ = 2 ^ (52 : ℤ) * 2 ^ e := zpow_add₀ (by norm_num) _ _
        _ ≤ k * 2 ^ e := by gcongr
    · exact .inl ⟨_, _, rfl, rfl⟩

lemma value_true_nonpos (m : ℕ) (e : ℤ) : value true m e ≤ 0 := by
  have hpow := two_zpow_pos e
  simp only [value, signed, if_true, Int.cast_neg, Int.cast_natCast, neg_mul,
    Left.neg_nonpos_iff]
  positivity

/-- **Rounding goes past no number.** -/
lemma roundsTo_rounded {v : ℚ} (hv : 0 < v) : RoundsTo v (rounded false v) := by
  have hpow := two_zpow_pos (exponentAt v)
  have hfull : 2 ^ 52 ≤ nearest (v / 2 ^ exponentAt v) ∨ exponentAt v = minExponent := by
    by_cases hmin : exponentAt v = minExponent
    · exact .inr hmin
    · exact .inl (le_nearest (by exact_mod_cast le_div_exponentAt hv hmin))
  unfold rounded
  rcases carry_cases hfull with ⟨k, e, hcarry, hke⟩ | ⟨hcarry, hlarge⟩
  · rw [hcarry]
    have hnonneg : 0 ≤ value false k e := by
      rw [hke]
      positivity
    constructor
    · intro s m f hnormal hle
      rw [le_iff rfl rfl]
      norm_cast
      cases s with
      | true => exact (value_true_nonpos m f).trans hnonneg
      | false =>
          rw [hke]
          exact le_rounded_value hv hnormal hle
    · intro s m f hnormal hle
      rw [le_iff rfl rfl]
      norm_cast
      cases s with
      | true => exact absurd hle (not_le.2 ((value_true_nonpos m f).trans_lt hv))
      | false =>
          rw [hke]
          exact rounded_value_le hv hnormal hle
  · rw [hcarry]
    constructor
    · intro s m f hnormal hle
      exact (le_iff rfl rfl).2 le_top
    · intro s m f hnormal hle
      cases s with
      | true => exact absurd hle (not_le.2 ((value_true_nonpos m f).trans_lt hv))
      | false =>
          have hsmall := mul_zpow_lt_of_normal hnormal
          exact absurd (hlarge.trans (rounded_value_le hv hnormal hle)) (not_le.2 hsmall)

lemma rounded_true (v : ℚ) : rounded true v = (rounded false v).neg := by
  simp only [rounded, carry]
  split_ifs <;> rfl

/-- Arithmetic on integers ends with rounding. -/
lemma roundsTo_ofScaledInt (n e : ℤ) (negativeZero : Bool) :
    RoundsTo (n * 2 ^ e) (ofScaledInt n e negativeZero) := by
  by_cases hn : n = 0
  · have hzero : value negativeZero 0 minExponent = n * 2 ^ e := by
      cases negativeZero <;> simp [value, signed, hn]
    rw [ofScaledInt, if_pos hn, zero]
    constructor
    · intro s m f _ hle
      rw [le_iff rfl rfl]
      norm_cast
      rwa [hzero]
    · intro s m f _ hle
      rw [le_iff rfl rfl]
      norm_cast
      rwa [hzero]
  · have hnum : (0 : ℚ) < n.natAbs * 2 ^ e :=
      mul_pos (by exact_mod_cast Int.natAbs_pos.2 hn) (two_zpow_pos e)
    have hden : 0 < (magnitude n.natAbs e).2 := scaled_den_pos _ Nat.one_pos _
    have hpos : 0 < (magnitude n.natAbs e).1 := by
      rw [← magnitude_ratio, div_pos_iff_of_pos_right (by exact_mod_cast hden)] at hnum
      exact_mod_cast hnum
    have hresult : ofScaledInt n e negativeZero = rounded (decide (n < 0)) (n.natAbs * 2 ^ e) := by
      simp only [ofScaledInt, if_neg hn]
      rw [ofRatio_eq_rounded _ hpos hden, magnitude_ratio]
    have hround := roundsTo_rounded hnum
    rw [hresult]
    rcases lt_or_ge n 0 with hneg | hneg
    · have habs : (n : ℚ) * 2 ^ e = -(n.natAbs * 2 ^ e) := by
        rw [← neg_mul, show ((n.natAbs : ℕ) : ℚ) = -n by
          rw [Nat.cast_natAbs, abs_of_neg hneg, Int.cast_neg], neg_neg]
      rw [habs, decide_eq_true hneg, rounded_true]
      exact hround.neg
    · have habs : ((n.natAbs : ℕ) : ℚ) = n := by
        rw [Nat.cast_natAbs, abs_of_nonneg hneg]
      rw [habs] at hround
      rw [decide_eq_false (not_lt.2 hneg), habs]
      exact hround

/-! ## Sums, differences and products -/

lemma roundsTo_add (s t : Bool) (m n : ℕ) (e f : ℤ) :
    RoundsTo (value s m e + value t n f) (add (.finite s m e) (.finite t n f)) := by
  rw [value_eq_mul (min_le_left e f), value_eq_mul (min_le_right e f), ← add_mul, ← Int.cast_add]
  exact roundsTo_ofScaledInt _ _ _

lemma roundsTo_sub (s t : Bool) (m n : ℕ) (e f : ℤ) :
    RoundsTo (value s m e - value t n f) (sub (.finite s m e) (.finite t n f)) := by
  rw [sub_eq_add_neg, ← value_not]
  exact roundsTo_add s (!t) m n e f

lemma roundsTo_mul (s t : Bool) (m n : ℕ) (e f : ℤ) :
    RoundsTo (value s m e * value t n f) (mul (.finite s m e) (.finite t n f)) := by
  have hvalue : value s m e * value t n f = (signed s m * signed t n : ℤ) * 2 ^ (e + f) := by
    rw [value, value, Int.cast_mul, zpow_add₀ (by norm_num)]
    ring
  rw [hvalue]
  exact roundsTo_ofScaledInt _ _ _

lemma value_zero (s : Bool) (e : ℤ) : value s 0 e = 0 := by
  cases s <;> simp [value, signed]

lemma value_pos_of_lt {s : Bool} {m : ℕ} {e : ℤ} (h : (ofInt 0).lt (.finite s m e) = true) :
    0 < value s m e := by
  rw [show ofInt 0 = .finite false 0 minExponent from rfl, lt_iff rfl rfl] at h
  norm_cast at h
  rwa [value_zero] at h

/-- Twice a positive number is not below it, though it may be infinite. -/
lemma le_mul_two {s : Bool} {m : ℕ} {e : ℤ} (h : Normal m e) (hpos : 0 < value s m e) :
    (Binary64.finite s m e).le ((Binary64.finite s m e).mul (ofInt 2)) = true := by
  have htwo : ofInt 2 = .finite false (2 ^ 52) (-51) := by decide +kernel
  have hvalue : value false (2 ^ 52) (-51) = 2 := by norm_num [value, signed]
  rw [htwo]
  refine (roundsTo_mul s false m (2 ^ 52) e (-51)).le_of_le h ?_
  rw [hvalue]
  linarith

/-! ## Lengths of time -/

/-- The number `x` is a length of `l` units: a difference of integers exceeds the one just when it
exceeds the other. -/
def IsLength (x : Binary64) (l : ℤ) : Prop :=
  ∀ ⦃y z : Binary64⦄ ⦃a b : ℤ⦄, y.toInt? = some a → z.toInt? = some b →
    (x.lt (y.sub z) = true ↔ l < a - b)

/-- An integer that is followed by another one among the numbers is a length. -/
lemma isLength_of_normal {m n : ℕ} {e f l : ℤ} (hl : Normal m e) (hvalue : value false m e = l)
    (hnext : Normal n f) (hvalue' : value false n f = l + 1) : IsLength (.finite false m e) l := by
  intro y z a b hy hz
  obtain ⟨s, p, g, rfl, ha⟩ := exists_of_toInt? hy
  obtain ⟨t, q, h, rfl, hb⟩ := exists_of_toInt? hz
  have hround := roundsTo_sub s t p q g h
  rw [ha, hb, ← Int.cast_sub] at hround
  constructor
  · intro hlt
    have hlt' := hround.lt_of_lt hl hlt
    rw [hvalue] at hlt'
    exact_mod_cast hlt'
  · intro hlt
    have hle : (Binary64.finite false n f).le _ = true := hround.le_of_le hnext (by
      rw [hvalue']
      exact_mod_cast hlt)
    obtain ⟨c, hc, hle⟩ := exists_place_of_le hle rfl
    refine (lt_iff rfl hc).2 (lt_of_lt_of_le ?_ hle)
    norm_cast
    rw [hvalue, hvalue']
    exact lt_add_one _

/-- An integer with room for its bits is a length. -/
lemma isLength_of_bits {l k : ℕ} (hlow : 2 ^ 52 ≤ l * 2 ^ k) (hhigh : (l + 1) * 2 ^ k < 2 ^ 53)
    (hk : k ≤ 1074) : IsLength (.finite false (l * 2 ^ k) (-k)) l := by
  have hnormal : ∀ n : ℕ, 2 ^ 52 ≤ n * 2 ^ k → n * 2 ^ k < 2 ^ 53 → Normal (n * 2 ^ k) (-k) := by
    intro n hlow hhigh
    exact ⟨hhigh, by simp only [minExponent]; omega, by simp only [maxExponent]; omega, .inl hlow⟩
  have hvalue : ∀ n : ℕ, value false (n * 2 ^ k) (-k) = n := by
    intro n
    simp [value, signed]
  have hstep : l * 2 ^ k ≤ (l + 1) * 2 ^ k := Nat.mul_le_mul_right _ (Nat.le_succ l)
  refine isLength_of_normal (hnormal l hlow (by omega)) (by exact_mod_cast hvalue l)
    (hnormal (l + 1) (by omega) hhigh) ?_
  rw [hvalue]
  push_cast
  ring

end Gleaner.Binary64
