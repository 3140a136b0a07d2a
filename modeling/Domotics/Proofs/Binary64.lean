import Mathlib.Algebra.Order.Field.Power
import Mathlib.Algebra.Order.Ring.Abs
import Mathlib.Data.Rat.Cast.Order
import Mathlib.Tactic.Linarith
import Mathlib.Tactic.NormNum
import Mathlib.Tactic.Ring
import Domotics.Binary64
/-!
# The number nearest to a rational

`Nearest` says which number a rational is rounded to, without saying how to find it. Below
`Binary64.limit` no finite number is nearer to the rational, and if another one is as near, the
significand is even; from there on the number is infinite. Just one number with a given sign is so
(`Nearest.unique`).

The bits of a number without its sign are its `level`. The higher the level the greater is the
magnitude (`rung_strictMono`), so a number is nearest to a rational as soon as the numbers one level
below and one level above it are not nearer (`Rounds.of_neighbours`, `nearest_iff`). The infinities
have the level behind the greatest finite numbers, and are treated there as `2 ^ 1024`.
-/

namespace Domotics.Binary64

/-- The value of a finite number without its sign. -/
def magnitude? (x : Binary64) : Option ℚ :=
  match x.shape with
  | .finite _ significand exponent => some (significand * 2 ^ exponent)
  | .infinite _ | .nan => none

/-- Half a unit above the greatest finite number. -/
def limit : ℚ :=
  2 ^ 1024 - 2 ^ 970

/-- The number of a sign that a rational without a sign is rounded to. -/
inductive Nearest (negative : Bool) (r : ℚ) (x : Binary64) : Prop
  | finite {significand : ℕ} {exponent : ℤ}
    (hshape : x.shape = .finite negative significand exponent) (hrange : r < limit)
    (hnearest : ∀ {y : Binary64} {magnitude : ℚ}, y.magnitude? = some magnitude →
      |r - significand * 2 ^ exponent| ≤ |r - magnitude|)
    (heven : ∀ {y : Binary64} {magnitude : ℚ}, y.magnitude? = some magnitude →
      magnitude ≠ significand * 2 ^ exponent →
      |r - significand * 2 ^ exponent| = |r - magnitude| → Even significand)
  | infinite (hshape : x.shape = .infinite negative) (hrange : limit ≤ r)

/-! ## Levels -/

/-- The bits of a number without its sign. -/
def level (x : Binary64) : ℕ :=
  x.bits.toNat % signBit

/-- The level of the infinities. -/
def topLevel : ℕ :=
  specialBiased * leadingBit

/-- The magnitude on a level. -/
def rung (level : ℕ) : ℚ :=
  if level < leadingBit then level * 2 ^ (-1074 : ℤ)
  else (leadingBit + level % leadingBit : ℕ) * 2 ^ ((level / leadingBit : ℕ) - 1075 : ℤ)

variable {x y : Binary64} {negative : Bool} {r : ℚ} {n m : ℕ}

/-- Going up from the foot of a binade, or from zero, the significand grows with the level. -/
theorem rung_add {binade significand : ℕ} (hle : significand ≤ 2 * leadingBit)
    (hnormal : binade = 0 ∨ leadingBit ≤ significand) :
    rung (binade * leadingBit + significand) = significand * 2 ^ (binade - 1074 : ℤ) := by
  unfold rung
  rcases Nat.lt_or_ge significand leadingBit with hlt | hge
  · obtain rfl := hnormal.resolve_right (Nat.not_le.mpr hlt)
    rw [Nat.zero_mul, Nat.zero_add, if_pos hlt]
    norm_num
  · have hnot : ¬ binade * leadingBit + significand < leadingBit := by omega
    rw [if_neg hnot]
    rcases Nat.lt_or_ge significand (2 * leadingBit) with hlt | hge'
    · have hdiv : (binade * leadingBit + significand) / leadingBit = binade + 1 := by
        simp only [leadingBit] at *
        omega
      have hmod : (binade * leadingBit + significand) % leadingBit = significand - leadingBit := by
        simp only [leadingBit] at *
        omega
      rw [hdiv, hmod, Nat.add_sub_cancel' hge]
      congr 2
      push_cast
      ring
    · obtain rfl : significand = 2 * leadingBit := Nat.le_antisymm hle hge'
      have hdiv : (binade * leadingBit + 2 * leadingBit) / leadingBit = binade + 2 := by
        simp only [leadingBit]
        omega
      have hmod : (binade * leadingBit + 2 * leadingBit) % leadingBit = 0 := by
        simp only [leadingBit]
        omega
      have hexponent : ((binade + 2 : ℕ) - 1075 : ℤ) = (binade - 1074 : ℤ) + 1 := by
        push_cast
        ring
      rw [hdiv, hmod, hexponent, zpow_add_one₀ two_ne_zero]
      push_cast
      ring

/-- Every level is in a binade, or below all of them. -/
theorem exists_binade (n : ℕ) : ∃ binade significand, n = binade * leadingBit + significand ∧
    significand < 2 * leadingBit ∧ (binade = 0 ∨ leadingBit ≤ significand) := by
  refine ⟨n / leadingBit - 1, n - (n / leadingBit - 1) * leadingBit, ?_, ?_, ?_⟩ <;>
  · simp only [leadingBit]
    omega

@[simp] theorem rung_zero : rung 0 = 0 := by
  rw [rung, if_pos (by decide), Nat.cast_zero, zero_mul]

theorem rung_strictMono : StrictMono rung := by
  refine strictMono_nat_of_lt_succ fun n => ?_
  obtain ⟨binade, significand, rfl, hlt, hnormal⟩ := exists_binade n
  rw [Nat.add_assoc, rung_add hlt.le hnormal, rung_add hlt (hnormal.imp_right Nat.le_succ_of_le)]
  have hpos : (0 : ℚ) < 2 ^ (binade - 1074 : ℤ) := zpow_pos two_pos _
  push_cast
  linarith

/-! ## Numbers on their levels -/

theorem negative_iff : x.negative = true ↔ signBit ≤ x.bits.toNat := by
  rw [negative, decide_eq_true_eq]

theorem bits_eq (x : Binary64) :
    x.bits.toNat = (if x.negative then signBit else 0) + x.level := by
  have hlt : x.bits.toNat < 2 ^ 64 := x.bits.toNat_lt
  rw [level]
  split
  · rename_i hnegative
    rw [negative_iff] at hnegative
    simp only [signBit] at *
    omega
  · rename_i hnegative
    rw [negative_iff] at hnegative
    simp only [signBit] at *
    omega

/-- A number is known by its sign and its level. -/
theorem ext_level (hsign : x.negative = y.negative) (hlevel : x.level = y.level) : x = y := by
  have hbits : x.bits.toNat = y.bits.toNat := by
    rw [bits_eq, bits_eq, hsign, hlevel]
  obtain ⟨bits⟩ := x
  exact congrArg Binary64.mk (UInt64.toNat_inj.mp hbits)

theorem biased_eq (x : Binary64) : x.biased = x.level / leadingBit := by
  simp only [biased, level, leadingBit, specialBiased, signBit]
  omega

theorem fraction_eq (x : Binary64) : x.fraction = x.level % leadingBit := by
  simp only [fraction, level, leadingBit, signBit]
  omega

theorem shape_of_lt (h : x.level < topLevel) : ∃ significand exponent,
    x.shape = .finite x.negative significand exponent ∧
      significand * 2 ^ exponent = rung x.level ∧ (Even significand ↔ Even x.level) := by
  have hbiased : x.biased ≠ specialBiased := by
    rw [biased_eq]
    exact Nat.ne_of_lt (Nat.div_lt_of_lt_mul (Nat.mul_comm _ _ ▸ h))
  rw [shape, if_neg hbiased, biased_eq, fraction_eq]
  by_cases hlow : x.level / leadingBit = 0
  · have hlt : x.level < leadingBit := by
      simp only [leadingBit] at *
      omega
    rw [if_pos hlow]
    refine ⟨_, _, rfl, ?_, ?_⟩
    · rw [rung, if_pos hlt, Nat.mod_eq_of_lt hlt]
    · rw [Nat.mod_eq_of_lt hlt]
  · have hnot : ¬ x.level < leadingBit := by
      simp only [leadingBit] at *
      omega
    rw [if_neg hlow]
    refine ⟨_, _, rfl, ?_, ?_⟩
    · rw [rung, if_neg hnot]
    · simp only [Nat.even_iff, leadingBit]
      omega

theorem shape_of_eq (h : x.level = topLevel) : x.shape = .infinite x.negative := by
  have hbiased : x.biased = specialBiased := by
    rw [biased_eq, h]
    rfl
  have hfraction : x.fraction = 0 := by
    rw [fraction_eq, h]
    rfl
  rw [shape, if_pos hbiased, if_pos hfraction]

theorem shape_of_gt (h : topLevel < x.level) : x.shape = .nan := by
  have hlt : x.level < signBit := Nat.mod_lt _ (by decide)
  have hbiased : x.biased = specialBiased := by
    rw [biased_eq]
    simp only [topLevel, leadingBit, specialBiased, signBit] at *
    omega
  have hfraction : x.fraction ≠ 0 := by
    rw [fraction_eq]
    simp only [topLevel, leadingBit, specialBiased, signBit] at *
    omega
  rw [shape, if_pos hbiased, if_neg hfraction]

theorem magnitude?_eq_some_iff {magnitude : ℚ} :
    x.magnitude? = some magnitude ↔ x.level < topLevel ∧ rung x.level = magnitude := by
  unfold magnitude?
  rcases lt_trichotomy x.level topLevel with hlt | heq | hgt
  · obtain ⟨significand, exponent, hshape, hvalue, -⟩ := shape_of_lt hlt
    simp [hshape, hvalue, hlt]
  · simp [shape_of_eq heq, heq]
  · simp [shape_of_gt hgt, hgt.le]

/-- There is a number on every level below the infinities. -/
theorem exists_magnitude (h : n < topLevel) : ∃ y : Binary64, y.magnitude? = some (rung n) := by
  have hlevel : (⟨UInt64.ofNat n⟩ : Binary64).level = n := by
    simp only [level, topLevel, leadingBit, specialBiased, signBit, UInt64.toNat_ofNat'] at *
    omega
  exact ⟨⟨UInt64.ofNat n⟩, magnitude?_eq_some_iff.mpr ⟨hlevel.symm ▸ h, by rw [hlevel]⟩⟩

section Parts

variable {biased fraction : ℕ}

theorem toNat_bits_ofParts (hb : biased ≤ specialBiased) (hf : fraction < leadingBit) :
    (ofParts negative biased fraction).bits.toNat =
      (if negative then signBit else 0) + (biased * leadingBit + fraction) := by
  have hlt : (if negative then signBit else 0) ≤ signBit := by
    split
    · exact le_rfl
    · exact Nat.zero_le _
  simp only [ofParts, UInt64.toNat_ofNat']
  simp only [leadingBit, specialBiased, signBit] at *
  omega

theorem negative_ofParts (hb : biased ≤ specialBiased) (hf : fraction < leadingBit) :
    (ofParts negative biased fraction).negative = negative := by
  rw [Bool.eq_iff_iff, negative_iff, toNat_bits_ofParts hb hf]
  cases negative <;> simp only [Bool.false_eq_true, if_false, if_true, iff_true, iff_false] <;>
  · simp only [leadingBit, specialBiased, signBit] at *
    omega

theorem level_ofParts (hb : biased ≤ specialBiased) (hf : fraction < leadingBit) :
    (ofParts negative biased fraction).level = biased * leadingBit + fraction := by
  rw [level, toNat_bits_ofParts hb hf]
  cases negative <;> simp only [Bool.false_eq_true, if_false, if_true] <;>
  · simp only [leadingBit, specialBiased, signBit] at *
    omega

end Parts

/-! ## Rounding to a level -/

/-- A rational is at least as near to a level as to any other, and if it is half way between them,
the level is even. -/
structure Rounds (r : ℚ) (n : ℕ) : Prop where
  below : ∀ {m}, m < n → rung m + rung n ≤ 2 * r ∧ (rung m + rung n = 2 * r → Even n)
  above : ∀ {m}, n < m → m ≤ topLevel →
    2 * r ≤ rung n + rung m ∧ (2 * r = rung n + rung m → Even n)

/-- Two levels that a rational rounds to would have another one between them, to which it is
nearer. -/
theorem Rounds.not_lt (h : Rounds r n) (h' : Rounds r m) (hm : m ≤ topLevel) : ¬ n < m := by
  intro hlt
  obtain ⟨hle, heven⟩ := h.above hlt hm
  obtain ⟨hle', heven'⟩ := h'.below hlt
  have heq : 2 * r = rung n + rung m := le_antisymm hle hle'
  have hbetween : n + 1 < m := by
    have hn := Nat.even_iff.mp (heven heq)
    have hm' := Nat.even_iff.mp (heven' heq.symm)
    omega
  have hnext := (h.above (Nat.lt_succ_self n) (hbetween.le.trans hm)).1
  have hstep := rung_strictMono hbetween
  linarith

theorem Rounds.unique (h : Rounds r n) (h' : Rounds r m) (hn : n ≤ topLevel) (hm : m ≤ topLevel) :
    n = m :=
  Nat.le_antisymm (Nat.not_lt.mp (h'.not_lt h hn)) (Nat.not_lt.mp (h.not_lt h' hm))

/-- Only the neighbours of a level matter. -/
theorem Rounds.of_neighbours
    (below : ∀ {m}, m + 1 = n → rung m + rung n ≤ 2 * r ∧ (rung m + rung n = 2 * r → Even n))
    (above : 2 * r ≤ rung n + rung (n + 1) ∧ (2 * r = rung n + rung (n + 1) → Even n)) :
    Rounds r n where
  below := by
    intro m hm
    obtain ⟨before, rfl⟩ := Nat.exists_eq_add_of_lt hm
    obtain ⟨hle, heven⟩ := @below (m + before) rfl
    have hmono := rung_strictMono.monotone (Nat.le_add_right m before)
    exact ⟨by linarith, fun heq => heven (by linarith)⟩
  above := by
    intro m hm _
    obtain ⟨hle, heven⟩ := above
    have hmono := rung_strictMono.monotone (Nat.succ_le_of_lt hm)
    exact ⟨by linarith, fun heq => heven (by linarith)⟩

/-- The limit is half way between the last two levels. -/
theorem rung_last : rung (topLevel - 1) + rung topLevel = 2 * limit := by
  have hlast : rung (topLevel - 1) = (2 * leadingBit - 1 : ℕ) * 2 ^ (971 : ℤ) :=
    @rung_add 2045 (2 * leadingBit - 1) (Nat.sub_le _ _) (.inr (by decide))
  have htop : rung topLevel = (2 * leadingBit : ℕ) * 2 ^ (971 : ℤ) :=
    @rung_add 2045 (2 * leadingBit) (Nat.le_refl _) (.inr (by decide))
  have hpower : (2 : ℚ) ^ (971 : ℤ) = 2 * 2 ^ 970 := by
    rw [← pow_succ']
    exact zpow_natCast 2 971
  have hlimit : (2 : ℚ) ^ 1024 = 2 ^ 54 * 2 ^ 970 := pow_add 2 54 970
  rw [hlast, htop, limit, hpower, hlimit]
  generalize (2 : ℚ) ^ 970 = unit
  norm_num [leadingBit]
  ring

theorem rung_add_le (h : n < topLevel) : rung n + rung topLevel ≤ 2 * limit := by
  have hmono := rung_strictMono.monotone (Nat.le_sub_one_of_lt h)
  rw [← rung_last]
  linarith

/-- From the limit on a rational rounds to the level of the infinities. -/
theorem rounds_topLevel : Rounds r topLevel ↔ limit ≤ r := by
  constructor
  · intro h
    have hlast := (h.below (Nat.sub_lt (by decide : 0 < topLevel) Nat.one_pos)).1
    rw [rung_last] at hlast
    linarith
  · intro h
    refine ⟨fun hm => ⟨?_, fun _ => by decide⟩, fun hgt hle => absurd hgt (Nat.not_lt.mpr hle)⟩
    have hlast := rung_add_le hm
    linarith

/-- What rounds to a level above that of the infinities rounds to that of the infinities as well. -/
theorem Rounds.min_topLevel (h : Rounds r n) : Rounds r (min n topLevel) := by
  rcases Nat.lt_or_ge n topLevel with hlt | hge
  · rwa [Nat.min_eq_left hlt.le]
  · have hlast : topLevel - 1 < topLevel := Nat.sub_lt (by decide) Nat.one_pos
    have hbelow := (h.below (hlast.trans_le hge)).1
    have hmono := rung_strictMono.monotone hge
    have htwice := rung_last
    rw [Nat.min_eq_right hge, rounds_topLevel]
    linarith

/-- A rational that rounds to a lower level is below the limit. -/
theorem Rounds.lt_limit (h : Rounds r n) (hn : n < topLevel) : r < limit :=
  not_le.mp fun hle => h.not_lt (rounds_topLevel.mpr hle) le_rfl hn

section Distance

variable {a b : ℚ}

theorem add_le_iff (h : a < b) : a + b ≤ 2 * r ↔ |r - b| ≤ |r - a| := by
  have hdifference : (r - a) ^ 2 - (r - b) ^ 2 = (b - a) * (2 * r - (a + b)) := by ring
  rw [← sq_le_sq, ← sub_nonneg (a := (r - a) ^ 2), hdifference,
    mul_nonneg_iff_of_pos_left (sub_pos.mpr h), sub_nonneg]

theorem le_add_iff (h : a < b) : 2 * r ≤ a + b ↔ |r - a| ≤ |r - b| := by
  have hdifference : (r - b) ^ 2 - (r - a) ^ 2 = (b - a) * (a + b - 2 * r) := by ring
  rw [← sq_le_sq, ← sub_nonneg (a := (r - b) ^ 2), hdifference,
    mul_nonneg_iff_of_pos_left (sub_pos.mpr h), sub_nonneg]

theorem add_eq_iff (h : a < b) : a + b = 2 * r ↔ |r - a| = |r - b| := by
  rw [le_antisymm_iff, le_antisymm_iff, add_le_iff h, le_add_iff h, and_comm]

end Distance

/-- A rational rounds to a level if no other one is nearer, and it is even if another one is as
near. -/
theorem rounds_iff (h : n < topLevel) : Rounds r n ↔ r < limit ∧
    (∀ {m}, m < topLevel → |r - rung n| ≤ |r - rung m|) ∧
    ∀ {m}, m < topLevel → m ≠ n → |r - rung n| = |r - rung m| → Even n := by
  constructor
  · refine fun hrounds => ⟨hrounds.lt_limit h, fun {m} hm => ?_, fun {m} hm hne heq => ?_⟩
    · rcases lt_trichotomy m n with hlt | rfl | hgt
      · exact (add_le_iff (rung_strictMono hlt)).mp (hrounds.below hlt).1
      · exact le_rfl
      · exact (le_add_iff (rung_strictMono hgt)).mp (hrounds.above hgt hm.le).1
    · rcases Nat.lt_or_gt_of_ne hne with hlt | hgt
      · exact (hrounds.below hlt).2 ((add_eq_iff (rung_strictMono hlt)).mpr heq.symm)
      · exact (hrounds.above hgt hm.le).2 ((add_eq_iff (rung_strictMono hgt)).mpr heq).symm
  · rintro ⟨hrange, hnearest, heven⟩
    refine ⟨fun {m} hlt => ?_, fun {m} hgt hle => ?_⟩
    · have hm := hlt.trans h
      exact ⟨(add_le_iff (rung_strictMono hlt)).mpr (hnearest hm), fun heq =>
        heven hm hlt.ne ((add_eq_iff (rung_strictMono hlt)).mp heq).symm⟩
    · rcases hle.lt_or_eq with hm | rfl
      · exact ⟨(le_add_iff (rung_strictMono hgt)).mpr (hnearest hm), fun heq =>
          heven hm hgt.ne' ((add_eq_iff (rung_strictMono hgt)).mp heq.symm)⟩
      · -- The greatest finite level is not nearer, and the limit is half way above it.
        have hlast : topLevel - 1 < topLevel := Nat.sub_lt (by decide) Nat.one_pos
        have hlt : 2 * r < rung n + rung topLevel := by
          rcases (Nat.le_sub_one_of_lt h).lt_or_eq with hlt | rfl
          · have hle := (le_add_iff (rung_strictMono hlt)).mpr (hnearest hlast)
            have hstep := rung_strictMono hlast
            linarith
          · rw [rung_last]
            linarith
        exact ⟨hlt.le, fun heq => absurd heq hlt.ne⟩

/-- The nearest number is found by the sign and the level that the rational rounds to. -/
theorem nearest_iff : Nearest negative r x ↔
    x.negative = negative ∧ x.level ≤ topLevel ∧ Rounds r x.level := by
  rcases lt_trichotomy x.level topLevel with hlt | heq | hgt
  · obtain ⟨significand, exponent, hshape, hvalue, hparity⟩ := shape_of_lt hlt
    rw [rounds_iff hlt]
    constructor
    · rintro (⟨hshape', hrange, hnearest, heven⟩ | ⟨hshape', -⟩)
      · obtain ⟨rfl, rfl, rfl⟩ := Shape.finite.inj (hshape.symm.trans hshape')
        rw [hvalue] at hnearest heven
        refine ⟨rfl, hlt.le, hrange, fun hm => ?_, fun hm hne hdistance => ?_⟩
        · obtain ⟨y, hy⟩ := exists_magnitude hm
          exact hnearest hy
        · obtain ⟨y, hy⟩ := exists_magnitude hm
          exact hparity.mp (heven hy (rung_strictMono.injective.ne hne) hdistance)
      · cases hshape.symm.trans hshape'
    · rintro ⟨rfl, -, hrange, hnearest, heven⟩
      refine .finite hshape hrange (fun hy => ?_) fun hy hne hdistance => ?_
      · obtain ⟨hm, rfl⟩ := magnitude?_eq_some_iff.mp hy
        rw [hvalue]
        exact hnearest hm
      · obtain ⟨hm, rfl⟩ := magnitude?_eq_some_iff.mp hy
        rw [hvalue] at hne hdistance
        exact hparity.mpr (heven hm (fun heq => hne (congrArg rung heq)) hdistance)
  · rw [heq, rounds_topLevel]
    constructor
    · rintro (⟨hshape, -⟩ | ⟨hshape, hrange⟩)
      · cases (shape_of_eq heq).symm.trans hshape
      · exact ⟨Shape.infinite.inj ((shape_of_eq heq).symm.trans hshape), le_rfl, hrange⟩
    · rintro ⟨rfl, -, hrange⟩
      exact .infinite (shape_of_eq heq) hrange
  · refine ⟨?_, fun h => absurd hgt (Nat.not_lt.mpr h.2.1)⟩
    rintro (⟨hshape, -⟩ | ⟨hshape, -⟩) <;> cases (shape_of_gt hgt).symm.trans hshape

/-- One number with a sign is nearest. -/
theorem Nearest.unique (h : Nearest negative r x) (h' : Nearest negative r y) : x = y := by
  obtain ⟨hsign, hle, hrounds⟩ := nearest_iff.mp h
  obtain ⟨hsign', hle', hrounds'⟩ := nearest_iff.mp h'
  exact ext_level (hsign.trans hsign'.symm) (hrounds.unique hrounds' hle hle')

theorem shape_infinity (negative : Bool) : (infinity negative).shape = .infinite negative := by
  have hlevel : (infinity negative).level = topLevel := level_ofParts le_rfl (by decide)
  rw [shape_of_eq hlevel, infinity, negative_ofParts le_rfl (by decide)]

theorem shape_eq_infinite_iff : x.shape = .infinite negative ↔ x = infinity negative :=
  ⟨fun h => Nearest.unique (.infinite h le_rfl) (.infinite (shape_infinity negative) le_rfl),
    fun h => h ▸ shape_infinity negative⟩

theorem bits_eq_quietNaN_iff :
    x.bits = (if negative then 0xfff8000000000000 else 0x7ff8000000000000) ↔
      x = quietNaN negative := by
  have hbits : (quietNaN negative).bits =
      if negative then 0xfff8000000000000 else 0x7ff8000000000000 := by
    cases negative <;> decide
  rw [← hbits]
  exact ⟨fun h => congrArg mk h, congrArg bits⟩

end Domotics.Binary64
