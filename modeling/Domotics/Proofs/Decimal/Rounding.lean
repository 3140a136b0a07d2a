import Mathlib.Tactic.FieldSimp
import Domotics.Decimal.Reading
import Domotics.Proofs.Binary64
/-!
# Decimals are rounded to the nearest number

A decimal is read as the number nearest to it, and as no other (`nearest_iff_eq`). How it is found
is followed step by step. A rational is measured in units in which it has fifty-three bits before
the point, or in the least unit if that is greater (`exists_scaled_binaryExponent`). There it is
rounded to a whole number (`halfEven_roundHalfEven`), and with that to a level (`Scaled.rounds`),
since in the units of a binade the levels are whole numbers. A decimal that is so great or so small
that its first digit settles it need not be measured (`limit_le`, `le_rung_one`).
-/

namespace Domotics.Decimal

open Binary64

variable {numerator denominator : ℕ} {negative : Bool} {r : ℚ}

/-! ## Whole numbers -/

/-- A rational is rounded to the nearest whole number, a half to the even one. -/
structure HalfEven (r : ℚ) (n : ℕ) : Prop where
  above : 2 * r ≤ 2 * n + 1 ∧ (2 * r = 2 * n + 1 → Even n)
  below : 2 * n ≤ 2 * r + 1 ∧ (2 * n = 2 * r + 1 → Even n)

theorem halfEven_roundHalfEven (numerator : ℕ) (hd : 0 < denominator) :
    HalfEven (numerator / denominator) (roundHalfEven numerator denominator) := by
  have hpos : (0 : ℚ) < denominator := Nat.cast_pos.mpr hd
  generalize hq : numerator / denominator = quotient
  generalize hrest : (numerator % denominator : ℕ) / (denominator : ℚ) = rest
  have hvalue : (numerator : ℚ) / denominator = quotient + rest := by
    have hsplit : (numerator : ℚ) = denominator * quotient + (numerator % denominator : ℕ) := by
      rw [← hq]
      exact_mod_cast (Nat.div_add_mod numerator denominator).symm
    rw [← hrest, ← mul_div_cancel_left₀ (quotient : ℚ) hpos.ne', ← add_div, ← hsplit]
  have hnonneg : 0 ≤ rest := hrest ▸ div_nonneg (Nat.cast_nonneg _) hpos.le
  have hlt : rest < 1 := by
    rw [← hrest, div_lt_one₀ hpos]
    exact_mod_cast Nat.mod_lt numerator hd
  have hbelow : 2 * (numerator % denominator) < denominator ↔ 2 * rest < 1 := by
    rw [← hrest, ← mul_div_assoc, div_lt_one₀ hpos]
    exact_mod_cast Iff.rfl
  have habove : denominator < 2 * (numerator % denominator) ↔ 1 < 2 * rest := by
    rw [← hrest, ← mul_div_assoc, one_lt_div₀ hpos]
    exact_mod_cast Iff.rfl
  have hnext : ((quotient + 1 : ℕ) : ℚ) = quotient + 1 := Nat.cast_succ quotient
  simp only [roundHalfEven, hq, hbelow, habove, hvalue]
  split
  · refine ⟨⟨by linarith, fun h => ?_⟩, by linarith, fun h => ?_⟩ <;> linarith
  · split
    · refine ⟨⟨by linarith, fun h => ?_⟩, by linarith, fun h => ?_⟩ <;> linarith
    · split
      · rename_i heven
        exact ⟨⟨by linarith, fun _ => Nat.even_iff.mpr heven⟩, by linarith,
          fun _ => Nat.even_iff.mpr heven⟩
      · rename_i hodd
        have heven : Even (quotient + 1) := by
          rw [Nat.even_iff]
          omega
        exact ⟨⟨by linarith, fun _ => heven⟩, by linarith, fun _ => heven⟩

/-! ## Powers -/

theorem pow_toNat_div {base : ℚ} (h : base ≠ 0) (exponent : ℤ) :
    base ^ exponent.toNat / base ^ (-exponent).toNat = base ^ exponent := by
  rw [← zpow_natCast, ← zpow_natCast, ← zpow_sub₀ h, Int.toNat_sub_toNat_neg]

/-- The quotient that is rounded. -/
theorem scaled_eq (numerator denominator : ℕ) (exponent : ℤ) :
    ((numerator * Nat.pow 2 (-exponent).toNat : ℕ) : ℚ) /
        (denominator * Nat.pow 2 exponent.toNat : ℕ) =
      numerator / denominator / 2 ^ exponent := by
  rw [← pow_toNat_div two_ne_zero]
  simp only [Nat.pow_eq]
  push_cast
  field_simp

/-! ## The unit -/

/-- In units of the binade a rational is less than `2 ^ 53`, and it is at least `2 ^ 52` unless the
binade is the lowest. -/
structure Scaled (r : ℚ) (binade : ℕ) : Prop where
  upper : r < 2 * leadingBit * 2 ^ (binade - 1074 : ℤ)
  lower : binade = 0 ∨ leadingBit * 2 ^ (binade - 1074 : ℤ) ≤ r

theorem exists_scaled {exponent : ℤ} (upper : r < 2 * leadingBit * 2 ^ exponent)
    (lower : leadingBit * 2 ^ exponent ≤ r) :
    ∃ binade : ℕ, max exponent (-1074) = binade - 1074 ∧ Scaled r binade := by
  rcases le_total exponent (-1074) with hle | hge
  · refine ⟨0, max_eq_right hle, upper.trans_le ?_, .inl rfl⟩
    have hpower : (2 : ℚ) ^ exponent ≤ 2 ^ ((0 : ℕ) - 1074 : ℤ) :=
      zpow_le_zpow_right₀ one_le_two hle
    gcongr
  · obtain ⟨binade, hbinade⟩ := Int.le.dest hge
    obtain rfl : exponent = binade - 1074 := by omega
    exact ⟨binade, max_eq_left hge, upper, .inr lower⟩

/-- The lengths of a numerator and a denominator say how great the quotient is, up to a factor of
four. -/
theorem zpow_log2_le (hn : 0 < numerator) (hd : 0 < denominator) :
    2 ^ (numerator.log2 - denominator.log2 - 1 : ℤ) ≤ (numerator / denominator : ℚ) := by
  have hlow : (2 : ℚ) ^ numerator.log2 ≤ numerator := by
    exact_mod_cast Nat.log2_self_le hn.ne'
  have hhigh : (denominator : ℚ) ≤ 2 ^ (denominator.log2 + 1) := by
    exact_mod_cast Nat.lt_log2_self.le
  rw [le_div_iff₀ (Nat.cast_pos.mpr hd)]
  calc (2 : ℚ) ^ (numerator.log2 - denominator.log2 - 1 : ℤ) * denominator
    _ ≤ 2 ^ (numerator.log2 - denominator.log2 - 1 : ℤ) * 2 ^ (denominator.log2 + 1) := by gcongr
    _ = 2 ^ numerator.log2 := by
      rw [← zpow_natCast, ← zpow_natCast, ← zpow_add₀ two_ne_zero]
      congr 1
      omega
    _ ≤ numerator := hlow

theorem lt_zpow_log2 (hd : 0 < denominator) :
    (numerator / denominator : ℚ) < 2 ^ (numerator.log2 - denominator.log2 + 1 : ℤ) := by
  have hlow : (2 : ℚ) ^ denominator.log2 ≤ denominator := by
    exact_mod_cast Nat.log2_self_le hd.ne'
  have hhigh : (numerator : ℚ) < 2 ^ (numerator.log2 + 1) := by
    exact_mod_cast Nat.lt_log2_self
  rw [div_lt_iff₀ (Nat.cast_pos.mpr hd)]
  calc (numerator : ℚ)
    _ < 2 ^ (numerator.log2 + 1) := hhigh
    _ = 2 ^ (numerator.log2 - denominator.log2 + 1 : ℤ) * 2 ^ denominator.log2 := by
      rw [← zpow_natCast, ← zpow_natCast, ← zpow_add₀ two_ne_zero]
      congr 1
      omega
    _ ≤ 2 ^ (numerator.log2 - denominator.log2 + 1 : ℤ) * denominator := by gcongr

/-- Whether a significand would need less than fifty-three bits. -/
theorem lt_leadingBit_iff (hd : 0 < denominator) (exponent : ℤ) :
    numerator * Nat.pow 2 (-exponent).toNat <
        denominator * Nat.pow 2 exponent.toNat * leadingBit ↔
      (numerator / denominator : ℚ) < leadingBit * 2 ^ exponent := by
  have hunit : (0 : ℚ) < (denominator * Nat.pow 2 exponent.toNat : ℕ) := by
    exact_mod_cast Nat.mul_pos hd (Nat.two_pow_pos _)
  rw [← div_lt_iff₀ (zpow_pos two_pos _), ← scaled_eq, div_lt_iff₀ hunit, mul_comm _ leadingBit]
  exact_mod_cast Iff.rfl

theorem exists_scaled_binaryExponent (hn : 0 < numerator) (hd : 0 < denominator) :
    ∃ binade : ℕ, binaryExponent numerator denominator = binade - 1074 ∧
      Scaled (numerator / denominator) binade := by
  have hbelow := zpow_log2_le hn hd
  have habove := @lt_zpow_log2 numerator denominator hd
  unfold binaryExponent
  simp only [lt_leadingBit_iff hd]
  generalize hestimate : (numerator.log2 : ℤ) - denominator.log2 - 52 = estimate
  have hlow : (numerator.log2 - denominator.log2 - 1 : ℤ) = 52 + (estimate - 1) := by omega
  have hhigh : (numerator.log2 - denominator.log2 + 1 : ℤ) = 53 + estimate := by omega
  rw [hlow, zpow_add₀ two_ne_zero] at hbelow
  rw [hhigh, zpow_add₀ two_ne_zero] at habove
  split
  · rename_i hsmall
    have hhalf : (2 : ℚ) ^ estimate = 2 ^ (estimate - 1) * 2 := by
      rw [← zpow_add_one₀ two_ne_zero, sub_add_cancel]
    rw [hhalf] at hsmall
    refine exists_scaled (hsmall.trans_eq (by ring)) (le_of_eq_of_le ?_ hbelow)
    norm_num [leadingBit]
  · rename_i hgreat
    refine exists_scaled (habove.trans_eq ?_) (not_lt.mp hgreat)
    norm_num [leadingBit]

/-! ## The level -/

namespace Scaled

variable {binade significand : ℕ}

theorem le_of_halfEven (h : Scaled r binade)
    (hr : HalfEven (r / 2 ^ (binade - 1074 : ℤ)) significand) : significand ≤ 2 * leadingBit := by
  have hupper := (div_lt_iff₀ (zpow_pos two_pos _)).mpr h.upper
  have hbelow := hr.below.1
  have hlt : ((2 * significand : ℕ) : ℚ) < (4 * leadingBit + 1 : ℕ) := by
    push_cast
    linarith
  have hlt := Nat.cast_lt.mp hlt
  omega

theorem normal_of_halfEven (h : Scaled r binade)
    (hr : HalfEven (r / 2 ^ (binade - 1074 : ℤ)) significand) :
    binade = 0 ∨ leadingBit ≤ significand := by
  refine h.lower.imp_right fun hlower => ?_
  have hlower := (le_div_iff₀ (zpow_pos two_pos _)).mpr hlower
  have habove := hr.above.1
  have hle : ((2 * leadingBit : ℕ) : ℚ) ≤ (2 * significand + 1 : ℕ) := by
    push_cast
    linarith
  have hle := Nat.cast_le.mp hle
  omega

/-- In units of its binade a rational rounds to a level as it rounds to a whole number. -/
theorem rounds (h : Scaled r binade)
    (hr : HalfEven (r / 2 ^ (binade - 1074 : ℤ)) significand) :
    Rounds r (binade * leadingBit + significand) := by
  have hle := h.le_of_halfEven hr
  have hnormal := h.normal_of_halfEven hr
  have heven : Even significand → Even (binade * leadingBit + significand) := by
    simp only [Nat.even_iff, leadingBit]
    omega
  have hpos : (0 : ℚ) < 2 ^ (binade - 1074 : ℤ) := zpow_pos two_pos _
  have hrung := rung_add hle hnormal
  have hup := @rung_add binade (significand + 1)
  have hdown := fun before => @rung_add binade before
  obtain ⟨hupper, hlower⟩ := h
  generalize (2 : ℚ) ^ (binade - 1074 : ℤ) = unit at *
  obtain ⟨scaled, rfl⟩ : ∃ scaled, r = scaled * unit :=
    ⟨r / unit, (div_mul_cancel₀ r hpos.ne').symm⟩
  rw [mul_div_cancel_right₀ _ hpos.ne'] at hr
  obtain ⟨⟨habove, haboveEven⟩, hbelow, hbelowEven⟩ := hr
  refine Rounds.of_neighbours (fun {m} hm => ?_) ?_
  · by_cases hfoot : binade = 0 ∨ leadingBit < significand
    · have hne : significand ≠ 0 := by
        rintro rfl
        rcases hfoot with rfl | hlt
        · simp at hm
        · cases hlt
      obtain ⟨before, rfl⟩ := Nat.exists_eq_succ_of_ne_zero hne
      obtain rfl : m = binade * leadingBit + before := by omega
      rw [hdown before (by omega) (by omega), hrung]
      push_cast at hbelow hbelowEven ⊢
      have hscaled := mul_le_mul_of_nonneg_right hbelow hpos.le
      exact ⟨by linarith, fun heq =>
        heven (hbelowEven (mul_right_cancel₀ hpos.ne' (by linarith)))⟩
    · -- Below the foot of a binade the levels are closer, but so far down it does not come.
      obtain rfl : leadingBit = significand := by omega
      have hfoot := hlower.resolve_left (not_or.mp hfoot).1
      have hstep := rung_strictMono (Nat.lt_of_succ_le hm.le)
      rw [hrung] at hstep ⊢
      exact ⟨by linarith, fun heq => by linarith⟩
  · by_cases hlast : significand < 2 * leadingBit
    · rw [Nat.add_assoc, hup hlast (hnormal.imp_right Nat.le_succ_of_le), hrung]
      push_cast
      have hscaled := mul_le_mul_of_nonneg_right habove hpos.le
      exact ⟨by linarith, fun heq =>
        heven (haboveEven (mul_right_cancel₀ hpos.ne' (by linarith)))⟩
    · obtain rfl : significand = 2 * leadingBit := by omega
      have hstep := rung_strictMono (Nat.lt_succ_self (binade * leadingBit + 2 * leadingBit))
      rw [hrung] at hstep ⊢
      push_cast at hstep ⊢
      exact ⟨by linarith, fun heq => by linarith⟩

end Scaled

/-! ## Rationals -/

/-- A rational is nearest to the number with the level that it rounds to. -/
theorem nearest_ofScaled (negative : Bool) {binade significand : ℕ}
    (hlt : significand < 2 * leadingBit) (hnormal : binade = 0 ∨ leadingBit ≤ significand)
    (hr : Rounds r (binade * leadingBit + significand)) :
    Nearest negative r (ofScaled negative significand (binade - 1074)) := by
  unfold ofScaled
  split
  · have htop : topLevel ≤ binade * leadingBit + significand := by
      simp only [topLevel, specialBiased, leadingBit] at *
      omega
    have hrounds := hr.min_topLevel
    rw [Nat.min_eq_right htop, rounds_topLevel] at hrounds
    exact .infinite (shape_infinity negative) hrounds
  · have htop : binade * leadingBit + significand ≤ topLevel := by
      simp only [topLevel, specialBiased, leadingBit] at *
      omega
    split
    · rename_i hlow
      obtain rfl := hnormal.resolve_right (Nat.not_le.mpr hlow)
      have hlevel : (ofParts negative 0 significand).level = 0 * leadingBit + significand :=
        level_ofParts (Nat.zero_le _) hlow
      exact nearest_iff.mpr ⟨negative_ofParts (Nat.zero_le _) hlow, hlevel.trans_le htop,
        hlevel ▸ hr⟩
    · have hbiased : (binade - 1074 + 1075 : ℤ).toNat = binade + 1 := by omega
      have hfraction : significand - leadingBit < leadingBit := by omega
      have hle : binade + 1 ≤ specialBiased := by
        simp only [specialBiased]
        omega
      have hlevel : (ofParts negative (binade + 1) (significand - leadingBit)).level =
          binade * leadingBit + significand := by
        rw [level_ofParts hle hfraction, Nat.succ_mul]
        omega
      rw [hbiased]
      exact nearest_iff.mpr ⟨negative_ofParts hle hfraction, hlevel.trans_le htop, hlevel ▸ hr⟩

theorem nearest_nearest (negative : Bool) (hn : 0 < numerator) (hd : 0 < denominator) :
    Nearest negative (numerator / denominator) (nearest negative numerator denominator) := by
  obtain ⟨binade, hexponent, hscaled⟩ := exists_scaled_binaryExponent hn hd
  have hunit : 0 < denominator * Nat.pow 2 (binade - 1074 : ℤ).toNat :=
    Nat.mul_pos hd (Nat.two_pow_pos _)
  have hrounded := halfEven_roundHalfEven (numerator * Nat.pow 2 (-(binade - 1074 : ℤ)).toNat) hunit
  rw [scaled_eq] at hrounded
  unfold nearest
  rw [hexponent]
  dsimp only
  generalize roundHalfEven _ _ = significand at hrounded ⊢
  have hle := hscaled.le_of_halfEven hrounded
  have hnormal := hscaled.normal_of_halfEven hrounded
  have hrounds := hscaled.rounds hrounded
  split
  · -- What is rounded up to the foot of the next binade has its level.
    rename_i hcarry
    have hexponent : (binade - 1074 + 1 : ℤ) = (binade + 1 : ℕ) - 1074 := by
      push_cast
      ring
    have hlevel : binade * leadingBit + significand = (binade + 1) * leadingBit + leadingBit := by
      rw [hcarry]
      ring
    rw [hexponent]
    exact nearest_ofScaled negative (by decide) (.inr le_rfl) (hlevel ▸ hrounds)
  · exact nearest_ofScaled negative (by omega) hnormal hrounds

/-! ## Decimals -/

theorem nearest_zero (negative : Bool) (h : 2 * r ≤ rung 1) :
    Nearest negative r (zero negative) := by
  have hlevel : (zero negative).level = 0 := level_ofParts (Nat.zero_le _) (by decide)
  refine nearest_iff.mpr ⟨negative_ofParts (Nat.zero_le _) (by decide), hlevel.trans_le bot_le, ?_⟩
  rw [hlevel]
  refine Rounds.of_neighbours nofun ⟨?_, fun _ => by decide⟩
  rw [rung_zero, zero_add]
  exact h

/-- The first digit of a decimal says how great it is. -/
theorem le_of_digits {digits : ℕ} (hne : digits ≠ 0) (exponent : ℤ) :
    (10 : ℚ) ^ ((Nat.toDigits 10 digits).length + exponent - 1) ≤ digits * 10 ^ exponent := by
  obtain ⟨places, hplaces⟩ := Nat.exists_eq_succ_of_ne_zero
    (Nat.length_toDigits_pos (b := 10) (n := digits)).ne'
  have hle : 10 ^ places ≤ digits := by
    rcases Nat.eq_zero_or_pos places with rfl | hpos
    · exact Nat.one_le_iff_ne_zero.mpr hne
    · refine Nat.not_lt.mp fun hlt => ?_
      have hlength := (Nat.length_toDigits_le_iff (by decide) hpos).mpr hlt
      omega
  have hexponent : ((Nat.toDigits 10 digits).length + exponent - 1 : ℤ) = places + exponent := by
    omega
  rw [hexponent, zpow_add₀ (by norm_num), zpow_natCast]
  have hpos : (0 : ℚ) < 10 ^ exponent := zpow_pos (by norm_num) _
  gcongr
  exact_mod_cast hle

theorem lt_of_digits (digits : ℕ) (exponent : ℤ) :
    (digits : ℚ) * 10 ^ exponent < 10 ^ ((Nat.toDigits 10 digits).length + exponent) := by
  have hlt : digits < 10 ^ (Nat.toDigits 10 digits).length :=
    (Nat.length_toDigits_le_iff (by decide) Nat.length_toDigits_pos).mp le_rfl
  rw [zpow_add₀ (by norm_num), zpow_natCast]
  have hpos : (0 : ℚ) < 10 ^ exponent := zpow_pos (by norm_num) _
  gcongr
  exact_mod_cast hlt

theorem two_zpow_le : (2 : ℚ) ^ (1200 : ℤ) ≤ 10 ^ (400 : ℤ) :=
  calc (2 : ℚ) ^ (1200 : ℤ)
    _ = (2 ^ (3 : ℤ)) ^ (400 : ℤ) := zpow_mul 2 3 400
    _ ≤ 10 ^ (400 : ℤ) := zpow_le_zpow_left₀ (by decide) (by norm_num) (by norm_num)

theorem limit_le : limit ≤ 10 ^ (400 : ℤ) :=
  calc limit
    _ ≤ 2 ^ 1024 := sub_le_self _ (pow_nonneg zero_le_two _)
    _ = 2 ^ (1024 : ℤ) := (zpow_natCast 2 1024).symm
    _ ≤ 2 ^ (1200 : ℤ) := zpow_le_zpow_right₀ one_le_two (by decide)
    _ ≤ 10 ^ (400 : ℤ) := two_zpow_le

theorem le_rung_one : 2 * 10 ^ (-400 : ℤ) ≤ rung 1 :=
  calc (2 : ℚ) * 10 ^ (-400 : ℤ)
    _ ≤ 2 * 2 ^ (-1200 : ℤ) := by
      rw [zpow_neg, zpow_neg]
      exact mul_le_mul_of_nonneg_left (inv_anti₀ (zpow_pos two_pos _) two_zpow_le) zero_le_two
    _ = 2 ^ (-1199 : ℤ) := (zpow_one_add₀ two_ne_zero (-1200)).symm
    _ ≤ 2 ^ (-1074 : ℤ) := zpow_le_zpow_right₀ one_le_two (by decide)
    _ = rung 1 := by
      rw [rung, if_pos (by decide), Nat.cast_one, one_mul]

/-- A decimal is read as the number nearest to it. -/
theorem nearest_nearestDecimal (negative : Bool) (digits : ℕ) (exponent : ℤ) :
    Nearest negative (digits * 10 ^ exponent) (nearestDecimal negative digits exponent) := by
  unfold nearestDecimal
  split
  · rename_i hzero
    have hbottom : rung 0 ≤ rung 1 := rung_strictMono.monotone (Nat.zero_le 1)
    refine nearest_zero negative (le_of_eq_of_le ?_ hbottom)
    simp [hzero, rung_zero]
  · rename_i hne
    dsimp only
    split
    · rename_i hgreat
      have hpower : (10 : ℚ) ^ (400 : ℤ) ≤
          10 ^ ((Nat.toDigits 10 digits).length + exponent - 1) :=
        zpow_le_zpow_right₀ (by norm_num) (by omega)
      exact .infinite (shape_infinity negative)
        (limit_le.trans (hpower.trans (le_of_digits hne exponent)))
    · split
      · rename_i hsmall
        refine nearest_zero negative (le_trans ?_ le_rung_one)
        have hlt := lt_of_digits digits exponent
        have hpower : (10 : ℚ) ^ ((Nat.toDigits 10 digits).length + exponent) ≤ 10 ^ (-400 : ℤ) :=
          zpow_le_zpow_right₀ (by norm_num) (by omega)
        linarith
      · have hpositive : 0 < digits * Nat.pow 10 exponent.toNat :=
          Nat.mul_pos (Nat.pos_of_ne_zero hne) (Nat.pow_pos (by decide))
        have hnearest := nearest_nearest negative hpositive
          (Nat.pow_pos (by decide) : 0 < Nat.pow 10 (-exponent).toNat)
        have hvalue : ((digits * Nat.pow 10 exponent.toNat : ℕ) : ℚ) /
            (Nat.pow 10 (-exponent).toNat : ℕ) = digits * 10 ^ exponent := by
          rw [← pow_toNat_div (by norm_num), ← mul_div_assoc]
          simp only [Nat.pow_eq]
          push_cast
          rfl
        exact hvalue ▸ hnearest

theorem nearest_iff_eq {digits : ℕ} {exponent : ℤ} {x : Binary64} :
    Nearest negative (digits * 10 ^ exponent) x ↔ x = nearestDecimal negative digits exponent :=
  ⟨fun h => h.unique (nearest_nearestDecimal negative digits exponent),
    fun h => h ▸ nearest_nearestDecimal negative digits exponent⟩

end Domotics.Decimal
