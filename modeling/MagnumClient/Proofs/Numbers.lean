/-
MagnumClient.Proofs.Numbers — comparing floating-point numbers.

A cache asks whether an entry is at least as old as a limit, and a reader asks
whether it is younger. For numbers these are opposites (`le_iff_not_lt`), but not if
one of the two is not a number at all. So the differences and products that are
compared have to be numbers (`isNaN_sub`, `isNaN_mul_thousand`).

All is read off the model of a float: it is unpacked, worked on and packed again, and
packing makes nothing of a number that is not one (`isNaN_unpack_pack`).

Floats that are whole compare as the integers that they are (`lt_iff_of_whole`). An unpacked
float is compared by its exponent first, and then by its significand, which is right because a
significand has all its bits unless the exponent is the least (`Unpacked.Filled`).
-/
import Mathlib
import MagnumClient.Cloud.State

namespace MagnumClient

open Float.Model

namespace Unpacked

/-! ## 1. Unpacked floats -/

theorem compare_swap (a b : UnpackedFloat) :
    b.compare a = (a.compare b).map Ordering.swap := by
  have hsign : ∀ s t : UnpackedFloat.Sign, compare t s = (compare s t).swap := by
    intro s t
    cases s <;> cases t <;> rfl
  have hint : ∀ m n : Int, compare n m = (compare m n).swap := fun m n =>
    (Int.compare_swap m n).symm
  have hnat : ∀ m n : Nat, compare n m = (compare m n).swap := fun m n =>
    (Nat.compare_swap m n).symm
  cases a with
  | notANumber => cases b <;> rfl
  | infinity s =>
    cases b with
    | infinity t => simp [UnpackedFloat.compare, hsign s t]
    | _ => cases s <;> rfl
  | zero s =>
    cases b with
    | infinity t => cases t <;> rfl
    | finite t m e h => cases t <;> rfl
    | _ => rfl
  | finite s m e h =>
    cases b with
    | finite t n f h' =>
      cases s <;> cases t <;>
        simp [UnpackedFloat.compare, hint e f, hnat m n, Ordering.swap_then]
    | infinity t => cases s <;> cases t <;> rfl
    | zero t => cases s <;> rfl
    | notANumber => rfl

/-- Numbers can be compared. -/
theorem isSome_compare {a b : UnpackedFloat} (ha : a.isNaN = false) (hb : b.isNaN = false) :
    ∃ o, a.compare b = some o := by
  cases a with
  | notANumber => cases ha
  | infinity s =>
    cases b with
    | notANumber => cases hb
    | infinity t => exact ⟨_, rfl⟩
    | _ => cases s <;> exact ⟨_, rfl⟩
  | zero s =>
    cases b with
    | notANumber => cases hb
    | infinity t => cases t <;> exact ⟨_, rfl⟩
    | finite t m e h => cases t <;> exact ⟨_, rfl⟩
    | zero t => exact ⟨_, rfl⟩
  | finite s m e h =>
    cases b with
    | notANumber => cases hb
    | infinity t => cases s <;> cases t <;> exact ⟨_, rfl⟩
    | zero t => cases s <;> exact ⟨_, rfl⟩
    | finite t n f h' => cases s <;> cases t <;> exact ⟨_, rfl⟩

/-- Packing a number gives a number. -/
theorem isNaN_unpack_pack {f : UnpackedFloat} (h : f.isNaN = false) :
    (pack f).unpack.isNaN = false := by
  have key : ∀ b : BitVec Format.binary64.numBits,
      (UnpackedFloat.unpackExponent b = -1#_ → UnpackedFloat.unpackMantissa b = 0#_) →
        (UnpackedFloat.unpack Format.binary64 b).isNaN = false := by
    intro b hb
    fun_cases UnpackedFloat.unpack <;> first | rfl | exact absurd (hb ‹_›) ‹_›
  refine key _ fun hexp => ?_
  revert hexp
  show UnpackedFloat.unpackExponent (UnpackedFloat.pack Format.binary64 f) = _ →
    UnpackedFloat.unpackMantissa (UnpackedFloat.pack Format.binary64 f) = _
  fun_cases UnpackedFloat.pack with
  | case1 => cases h
  | case2 s => simp [UnpackedFloat.packedInfinity]
  | case3 s => simp [UnpackedFloat.packedZero]
  | case4 s m e hm biasedExponent h => simp [UnpackedFloat.packedInfinity]
  | case5 s m e hm actualMantissaBits biasedExponent h₁ h₂ =>
    intro hexp
    rw [UnpackedFloat.unpackExponent_packComponents, BitVec.neg_one_eq_allOnes,
      ← BitVec.toNat_inj, BitVec.toNat_ofNat, BitVec.toNat_allOnes] at hexp
    -- an exponent that is all ones would have been packed as infinity
    rw [Nat.mod_eq_of_lt (by omega)] at hexp
    omega
  | case6 s m e hm actualMantissaBits biasedExponent h₁ h₂ =>
    intro hexp
    rw [UnpackedFloat.unpackExponent_packComponents] at hexp
    exact absurd hexp (by decide)

theorem isNaN_roundWithAccuracy (spec : Format) (s : UnpackedFloat.Sign) (m : Nat) (e : Int)
    (accuracy : UnpackedFloat.Accuracy) :
    (UnpackedFloat.roundWithAccuracy spec s m e accuracy).isNaN = false := by
  unfold UnpackedFloat.roundWithAccuracy
  dsimp only
  split <;> rfl

theorem isNaN_normalize (spec : Format) (m e : Int) (s : UnpackedFloat.Sign) :
    (UnpackedFloat.normalize spec m e s).isNaN = false := by
  unfold UnpackedFloat.normalize UnpackedFloat.round
  split
  · exact isNaN_roundWithAccuracy ..
  · rfl
  · exact isNaN_roundWithAccuracy ..

theorem isNaN_sub {spec : Format} {a b : UnpackedFloat} (ha : a.isFinite = true)
    (hb : b.isFinite = true) : (UnpackedFloat.sub spec a b).isNaN = false := by
  cases a with
  | notANumber => cases ha
  | infinity s => cases ha
  | zero s =>
    cases b with
    | notANumber => cases hb
    | infinity t => cases hb
    | zero t => cases s <;> cases t <;> rfl
    | finite t n f h' => rfl
  | finite s m e h =>
    cases b with
    | notANumber => cases hb
    | infinity t => cases hb
    | zero t => rfl
    | finite t n f h' => exact isNaN_normalize ..

theorem isNaN_mul {spec : Format} {a : UnpackedFloat} (ha : a.isNaN = false)
    (s : UnpackedFloat.Sign) (m : Nat) (e : Int) (hm : 0 < m) :
    (UnpackedFloat.mul spec a (.finite s m e hm)).isNaN = false := by
  cases a with
  | notANumber => cases ha
  | infinity t => rfl
  | zero t => rfl
  | finite t n f h => exact isNaN_roundWithAccuracy ..

end Unpacked

/-! ## 2. Floats -/

/-- Of two numbers, one is at least the other exactly if it is not less. -/
theorem le_iff_not_lt {a b : Float} (ha : a.isNaN = false) (hb : b.isNaN = false) :
    b ≤ a ↔ ¬ a < b := by
  obtain ⟨o, ho⟩ := Unpacked.isSome_compare (a := a.toModel.unpack) (b := b.toModel.unpack) ha hb
  have hle : b ≤ a ↔ (b.toModel.unpack.compare a.toModel.unpack).any (·.isLE) = true :=
    decide_eq_true_iff
  have hlt : a < b ↔ (a.toModel.unpack.compare b.toModel.unpack == some .lt) = true :=
    decide_eq_true_iff
  rw [hle, hlt, Unpacked.compare_swap a.toModel.unpack, ho]
  cases o <;> simp

/-- A number that is positive is a number. -/
theorem isNaN_of_pos {x : Float} (h : 0 < x) : x.isNaN = false := by
  by_contra hnan
  have hnan : x = Float.nan := by simpa using hnan
  subst hnan
  exact absurd h (by decide)

/-- The difference of two finite numbers is a number. -/
theorem isNaN_sub {a b : Float} (ha : a.isFinite = true) (hb : b.isFinite = true) :
    (a - b).isNaN = false :=
  Unpacked.isNaN_unpack_pack (Unpacked.isNaN_sub ha hb)

/-- A number of seconds is a number of milliseconds. -/
theorem isNaN_mul_thousand {a : Float} (ha : a.isNaN = false) : (a * 1000).isNaN = false := by
  have h : ∃ s m e hm, (1000 : Float).toModel.unpack = .finite s m e hm := ⟨_, _, _, _, rfl⟩
  obtain ⟨s, m, e, hm, h⟩ := h
  refine Unpacked.isNaN_unpack_pack ?_
  rw [h]
  exact Unpacked.isNaN_mul ha s m e hm

/-! ## 3. Whole numbers -/

namespace Unpacked

/-- A significand `m` with the exponent `k` above the least: it has 53 bits at most, and as many
unless the exponent is the least. -/
structure Filled (m k : Nat) : Prop where
  below : m < 2 ^ 53
  full : k = 0 ∨ 2 ^ 52 ≤ m

theorem mul_lt_mul_of_lt {m n k l : Nat} (hm : Filled m k) (hn : Filled n l) (h : k < l) :
    m * 2 ^ k < n * 2 ^ l := by
  have hfull : 2 ^ 52 ≤ n := hn.full.resolve_left (by omega)
  calc m * 2 ^ k < 2 ^ 53 * 2 ^ k := Nat.mul_lt_mul_of_pos_right hm.below (Nat.two_pow_pos k)
    _ = 2 ^ 52 * 2 ^ (k + 1) := by ring
    _ ≤ n * 2 ^ l := Nat.mul_le_mul hfull (Nat.pow_le_pow_right (by decide) h)

/-- What a sign makes of a number. -/
def signed : UnpackedFloat.Sign → Nat → Int
  | .positive, n => n
  | .negative, n => -n

/-- How many of the least positive floats make one. -/
def scale : Nat := 2 ^ 1074

theorem scale_pos : 0 < scale := by
  unfold scale
  positivity

/-- An unpacked float is a whole number. -/
inductive Amounts : UnpackedFloat → Int → Prop where
  | zero (s : UnpackedFloat.Sign) : Amounts (.zero s) 0
  | finite (s : UnpackedFloat.Sign) {m k n : Nat} (hm : 0 < m) (hfilled : Filled m k)
    (hn : n * scale = m * 2 ^ k) : Amounts (.finite s m ((k : Int) - 1074) hm) (signed s n)

/-- The number is told by the exponent first, and then by the significand. -/
theorem compare_then {m n k l a b : Nat} (hm : Filled m k) (hn : Filled n l)
    (ha : a * scale = m * 2 ^ k) (hb : b * scale = n * 2 ^ l) :
    (compare ((k : Int) - 1074) ((l : Int) - 1074)).then (compare m n) =
      compare (a : Int) (b : Int) := by
  rcases Nat.lt_trichotomy k l with h | rfl | h
  · have hlt := mul_lt_mul_of_lt hm hn h
    rw [← ha, ← hb, Nat.mul_lt_mul_right scale_pos] at hlt
    have hexponent : compare ((k : Int) - 1074) ((l : Int) - 1074) = .lt :=
      compare_lt_iff_lt.mpr (by omega)
    rw [hexponent, compare_lt_iff_lt.mpr (Int.ofNat_lt.mpr hlt)]
    rfl
  · have hpos : 0 < 2 ^ k := Nat.two_pow_pos k
    rw [compare_eq_iff_eq.mpr rfl, Ordering.eq_then]
    rcases Nat.lt_trichotomy m n with h | rfl | h
    · have hlt := Nat.mul_lt_mul_of_pos_right h hpos
      rw [← ha, ← hb, Nat.mul_lt_mul_right scale_pos] at hlt
      rw [compare_lt_iff_lt.mpr h, compare_lt_iff_lt.mpr (Int.ofNat_lt.mpr hlt)]
    · rw [← hb] at ha
      rw [Nat.eq_of_mul_eq_mul_right scale_pos ha, compare_eq_iff_eq.mpr rfl,
        compare_eq_iff_eq.mpr rfl]
    · have hlt := Nat.mul_lt_mul_of_pos_right h hpos
      rw [← ha, ← hb, Nat.mul_lt_mul_right scale_pos] at hlt
      rw [compare_gt_iff_gt.mpr h, compare_gt_iff_gt.mpr (Int.ofNat_lt.mpr hlt)]
  · have hlt := mul_lt_mul_of_lt hn hm h
    rw [← ha, ← hb, Nat.mul_lt_mul_right scale_pos] at hlt
    have hexponent : compare ((k : Int) - 1074) ((l : Int) - 1074) = .gt :=
      compare_gt_iff_gt.mpr (by omega)
    rw [hexponent, compare_gt_iff_gt.mpr (Int.ofNat_lt.mpr hlt)]
    rfl

theorem compare_neg (a b : Int) : compare (-a) (-b) = (compare a b).swap := by
  rw [Int.compare_swap]
  rcases lt_trichotomy a b with h | rfl | h
  · rw [compare_gt_iff_gt.mpr h, compare_gt_iff_gt.mpr (Int.neg_lt_neg h)]
  · rw [compare_eq_iff_eq.mpr rfl, compare_eq_iff_eq.mpr rfl]
  · rw [compare_lt_iff_lt.mpr h, compare_lt_iff_lt.mpr (Int.neg_lt_neg h)]

/-- Whole numbers compare as integers. -/
theorem compare_of_amounts {u v : UnpackedFloat} {a b : Int} (hu : Amounts u a)
    (hv : Amounts v b) : u.compare v = some (compare a b) := by
  have hpositive {m k n : Nat} (hm : 0 < m) (hn : n * scale = m * 2 ^ k) : 0 < n := by
    have : 0 < m * 2 ^ k := Nat.mul_pos hm (Nat.two_pow_pos k)
    rw [← hn] at this
    exact Nat.pos_of_mul_pos_right this
  cases hu with
  | zero s =>
    cases hv with
    | zero t => rfl
    | finite t hm hfilled hn =>
      have := hpositive hm hn
      cases t with
      | positive => rw [compare_lt_iff_lt.mpr (by simp only [signed]; omega)]; rfl
      | negative => rw [compare_gt_iff_gt.mpr (by simp only [signed]; omega)]; rfl
  | finite s hm hfilled hn =>
    have := hpositive hm hn
    cases hv with
    | zero t =>
      cases s with
      | positive => rw [compare_gt_iff_gt.mpr (by simp only [signed]; omega)]; rfl
      | negative => rw [compare_lt_iff_lt.mpr (by simp only [signed]; omega)]; rfl
    | finite t hm' hfilled' hn' =>
      have := hpositive hm' hn'
      cases s with
      | negative =>
        cases t with
        | negative =>
          simp only [UnpackedFloat.compare, compare_then hfilled hfilled' hn hn', signed,
            compare_neg]
        | positive => rw [compare_lt_iff_lt.mpr (by simp only [signed]; omega)]; rfl
      | positive =>
        cases t with
        | negative => rw [compare_gt_iff_gt.mpr (by simp only [signed]; omega)]; rfl
        | positive =>
          simp only [UnpackedFloat.compare, compare_then hfilled hfilled' hn hn', signed]

end Unpacked

namespace Decimal

/-- The bit that is not stored. -/
theorem toNat_append_one (v : BitVec 52) : (1#1 ++ v).toNat = 2 ^ 52 + v.toNat := by
  rw [BitVec.toNat_append, ← Nat.shiftLeft_add_eq_or_of_lt v.isLt]
  rfl

section

variable (x : Float)

/-- The bits of a float behind the point. -/
abbrev fraction : BitVec 52 := @UnpackedFloat.unpackMantissa Format.binary64 x.toBits.toBitVec

/-- The exponent of a float as it is stored. -/
abbrev biased : BitVec 11 := @UnpackedFloat.unpackExponent Format.binary64 x.toBits.toBitVec

/-- The sign of a float as it is stored. -/
abbrev signBit : BitVec 1 := @UnpackedFloat.unpackSign Format.binary64 x.toBits.toBitVec

theorem toNat_fraction : (fraction x).toNat = x.toBits.toNat % 2 ^ 52 := by
  simp [fraction, UnpackedFloat.unpackMantissa]

theorem toNat_biased : (biased x).toNat = x.toBits.toNat / 2 ^ 52 % 2 ^ 11 := by
  simp [biased, UnpackedFloat.unpackExponent, Nat.shiftRight_eq_div_pow]

theorem sign_eq : UnpackedFloat.Sign.ofBitVec (signBit x) =
    if isNegative x then .negative else .positive := by
  have hbit : (signBit x).toNat = x.toBits.toNat / 2 ^ 63 % 2 := by
    simp [signBit, UnpackedFloat.unpackSign, Nat.shiftRight_eq_div_pow]
  have hlt : x.toBits.toNat < 2 ^ 64 := x.toBits.toNat_lt
  have hnegative : isNegative x = true ↔ x.toBits.toNat / 2 ^ 63 = 1 := beq_iff_eq
  have hpositive : signBit x = 0#1 ↔ ¬ isNegative x = true := by
    rw [← BitVec.toNat_inj, hbit, hnegative, BitVec.toNat_ofNat]
    omega
  simp only [UnpackedFloat.Sign.ofBitVec, hpositive, ite_not]

/-- What a float is, by its fields. -/
theorem magnitude_eq : magnitude x =
    if biased x = -1#11 then
      if fraction x = 0#52 then .infinite else .notANumber
    else if biased x = 0#11 then
      if fraction x = 0#52 then .zero else .finite ⟨(fraction x).toNat, -1074, false⟩
    else .finite ⟨2 ^ 52 + (fraction x).toNat, (biased x).toNat - 1075,
      (fraction x).toNat = 0 && (biased x).toNat > 1⟩ := by
  simp only [magnitude, twoTo, Nat.pow_eq, ← toNat_fraction, ← toNat_biased, ← BitVec.toNat_inj]
  rfl

end

/-- A float that is whole and not zero, as a multiple of the least positive float. -/
theorem whole?_finite {x : Float} {b : Binary} {a : Int} {k : Nat}
    (hb : magnitude x = .finite b) (hk : b.exponent = (k : Int) - 1074) (h : whole? x = some a) :
    ∃ n, a = Unpacked.signed (if isNegative x then .negative else .positive) n ∧
      n * Unpacked.scale = b.significand * 2 ^ k := by
  rw [whole?, hb] at h
  simp only [twoTo, Nat.pow_eq, beq_iff_eq] at h
  split at h
  · rename_i hrest
    have hdivided := Nat.div_mul_cancel (Nat.dvd_of_mod_eq_zero hrest)
    generalize b.significand * 2 ^ b.exponent.toNat / 2 ^ (-b.exponent).toNat = n at h hdivided
    refine ⟨n, ?_, ?_⟩
    · cases hn : isNegative x <;> simp_all [Unpacked.signed]
    · rcases Nat.le_total k 1074 with hle | hle
      · have hbelow : (-b.exponent).toNat = 1074 - k := by omega
        have habove : b.exponent.toNat = 0 := by omega
        rw [hbelow, habove, pow_zero, mul_one] at hdivided
        rw [← hdivided, mul_assoc, ← pow_add, Nat.sub_add_cancel hle, Unpacked.scale]
      · have hbelow : (-b.exponent).toNat = 0 := by omega
        have habove : b.exponent.toNat = k - 1074 := by omega
        rw [hbelow, habove, pow_zero, mul_one] at hdivided
        rw [hdivided, mul_assoc, Unpacked.scale, ← pow_add, Nat.sub_add_cancel hle]
  · cases h

/-- A float that is whole is unpacked as the number that it is. -/
theorem amounts_of_whole {x : Float} {a : Int} (h : whole? x = some a) :
    Unpacked.Amounts x.toModel.unpack a := by
  have hmagnitude := magnitude_eq x
  have hfraction := (fraction x).isLt
  have hsign := sign_eq x
  change Unpacked.Amounts (UnpackedFloat.unpack Format.binary64 x.toBits.toBitVec) a
  fun_cases UnpackedFloat.unpack with
  | case1 _ _ _ _ hexponent hmantissa =>
    rw [if_pos hexponent, if_pos hmantissa] at hmagnitude
    simp [whole?, hmagnitude] at h
  | case2 _ _ hexponent hmantissa =>
    rw [if_pos hexponent, if_neg hmantissa] at hmagnitude
    simp [whole?, hmagnitude] at h
  | case3 _ _ _ _ hexponent hzero hmantissa =>
    rw [if_neg hexponent, if_pos hzero, if_pos hmantissa] at hmagnitude
    rw [whole?, hmagnitude] at h
    cases h
    exact .zero _
  | case4 _ _ _ _ _ hexponent hzero hmantissa =>
    rw [if_neg hexponent, if_pos hzero, if_neg hmantissa] at hmagnitude
    obtain ⟨n, rfl, hn⟩ := whole?_finite (k := 0) hmagnitude rfl h
    have hleast : (biased x).toNat = 0 := congrArg BitVec.toNat hzero
    have hpos : 0 < (fraction x).toNat := by
      rw [Nat.pos_iff_ne_zero]
      exact fun h0 => hmantissa (BitVec.eq_of_toNat_eq h0)
    have hamounts := Unpacked.Amounts.finite (if isNegative x then .negative else .positive) hpos
      ⟨by omega, .inl rfl⟩ hn
    rw [← hsign] at hamounts ⊢
    convert hamounts using 2
    change ((biased x).toNat : Int) - (1023 + 52) + 1 = _
    omega
  | case5 _ _ _ _ _ hexponent hzero =>
    rw [if_neg hexponent, if_neg hzero] at hmagnitude
    have hleast : (biased x).toNat ≠ 0 := fun h0 => hzero (BitVec.eq_of_toNat_eq h0)
    obtain ⟨n, rfl, hn⟩ := whole?_finite (k := (biased x).toNat - 1) hmagnitude
      (by simp only; omega) h
    have hamounts := Unpacked.Amounts.finite (if isNegative x then .negative else .positive)
      (Nat.add_pos_left (Nat.two_pow_pos 52) _) ⟨by omega, .inr (Nat.le_add_right _ _)⟩ hn
    rw [← hsign] at hamounts ⊢
    convert hamounts using 2
    · exact toNat_append_one (fraction x)
    · change ((biased x).toNat : Int) - (1023 + 52) = _
      omega

/-- **Whole numbers compare as integers.** -/
theorem lt_iff_of_whole {x y : Float} {a b : Int} (ha : whole? x = some a)
    (hb : whole? y = some b) : x < y ↔ a < b := by
  have hlt : x < y ↔ (x.toModel.unpack.compare y.toModel.unpack == some .lt) = true :=
    decide_eq_true_iff
  rw [hlt, Unpacked.compare_of_amounts (amounts_of_whole ha) (amounts_of_whole hb)]
  simp [compare_lt_iff_lt]

/-- A whole number is a number. -/
theorem isNaN_of_whole {x : Float} {a : Int} (h : whole? x = some a) : x.isNaN = false := by
  have hamounts := amounts_of_whole h
  change x.toModel.unpack.isNaN = false
  generalize x.toModel.unpack = u at hamounts ⊢
  cases hamounts <;> rfl

end Decimal

end MagnumClient
