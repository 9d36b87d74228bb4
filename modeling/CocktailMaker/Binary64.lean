import Mathlib

/-!
# Signs, zeros and infinities of doubles

A `Float` is a sign, a mantissa and an exponent in 64 bits, or an infinity, a
zero or no number.  Every operation computes its exact result and rounds it.
This file follows the sign of a result, and tells when it is no number:
rounding changes neither.  It also places differences and quotients of ordered
numbers, and computes with zeros and infinities.
-/

namespace CocktailMaker

namespace Binary64

open Float.Model.UnpackedFloat

abbrev Format := Float.Model.Format

abbrev UnpackedFloat := Float.Model.UnpackedFloat

abbrev spec : Format := .binary64

/-- A double without its encoding. -/
def view (x : Float) : UnpackedFloat :=
  x.toModel.unpack

/-- The number that the bits of a result hold. -/
def repack (f : UnpackedFloat) : UnpackedFloat :=
  unpack spec (pack spec f)

theorem view_add (x y : Float) :
    view (x + y) = repack (add spec (view x) (view y)) :=
  rfl

theorem view_sub (x y : Float) :
    view (x - y) = repack (sub spec (view x) (view y)) :=
  rfl

theorem view_mul (x y : Float) :
    view (x * y) = repack (mul spec (view x) (view y)) :=
  rfl

theorem view_div (x y : Float) :
    view (x / y) = repack (div spec (view x) (view y)) :=
  rfl

theorem view_zero : view 0 = .zero .positive := by
  rfl

theorem view_one :
    view 1 = .finite .positive (2 ^ 52) (-52) (by decide) := by
  rfl

theorem le_iff {x y : Float} : x ≤ y ↔ (view x).le (view y) = true := by
  change decide (_ = true) = true ↔ _
  rw [decide_eq_true_iff]
  rfl

theorem lt_iff {x y : Float} : x < y ↔ (view x).lt (view y) = true := by
  change decide (_ = true) = true ↔ _
  rw [decide_eq_true_iff]
  rfl

section Encoding

/-- A finite number is in the form that its encoding has. -/
def Canonical : UnpackedFloat → Prop
  | .finite _ mantissa exponent _ =>
      (2 ^ 52 ≤ mantissa ∧ mantissa < 2 ^ 53 ∧
          -1074 ≤ exponent ∧ exponent ≤ 971) ∨
        (mantissa < 2 ^ 52 ∧ exponent = -1074)
  | _ => True

theorem toNat_implicit_append (mantissa : BitVec 52) :
    (1#1 ++ mantissa).toNat = 2 ^ 52 + mantissa.toNat := by
  rw [BitVec.toNat_append, ← Nat.shiftLeft_add_eq_or_of_lt mantissa.isLt]
  rfl

theorem unpack_normal {sign : Sign} {exponent : BitVec 11}
    {mantissa : BitVec 52} (finite : exponent ≠ -1#11)
    (normal : exponent ≠ 0#11) :
    unpack spec (packComponents spec sign exponent mantissa) =
      .finite sign (2 ^ 52 + mantissa.toNat) (exponent.toNat - 1075)
        (by omega) := by
  unfold unpack
  simp only [unpackExponent_packComponents, unpackMantissa_packComponents,
    unpackSign_packComponents, Sign.ofBitVec_toBitVec]
  rw [if_neg finite, if_neg normal]
  congr 1
  exact toNat_implicit_append mantissa

theorem unpack_subnormal {sign : Sign} {mantissa : BitVec 52}
    (positive : 0 < mantissa.toNat) :
    unpack spec (packComponents spec sign 0#11 mantissa) =
      .finite sign mantissa.toNat (-1074) positive := by
  have nonzero : mantissa ≠ 0#52 := by
    rintro rfl
    exact absurd positive (by decide)
  unfold unpack
  simp only [unpackExponent_packComponents, unpackMantissa_packComponents,
    unpackSign_packComponents, Sign.ofBitVec_toBitVec]
  rw [if_neg (by decide), if_pos trivial, dif_neg nonzero]
  rfl

theorem unpack_zero (sign : Sign) :
    unpack spec (packComponents spec sign 0#11 0#52) = .zero sign := by
  cases sign <;> rfl

theorem toNat_ofNat_exponent {exponent : Nat} (below : exponent < 2048) :
    (BitVec.ofNat 11 exponent).toNat = exponent := by
  rw [BitVec.toNat_ofNat, Nat.mod_eq_of_lt below]

theorem ofNat_ne_exponent (other : Nat) {exponent : Nat}
    (below : exponent < 2048) (isOther : other < 2048)
    (different : exponent ≠ other) :
    BitVec.ofNat 11 exponent ≠ BitVec.ofNat 11 other := by
  intro same
  apply different
  rw [← toNat_ofNat_exponent below, same, toNat_ofNat_exponent isOther]

theorem repack_infinity (sign : Sign) :
    repack (.infinity sign) = .infinity sign := by
  cases sign <;> rfl

theorem repack_zero (sign : Sign) : repack (.zero sign) = .zero sign := by
  cases sign <;> rfl

theorem repack_notANumber : repack .notANumber = .notANumber := by
  rfl

/-- What the encoding of a finite number holds. -/
inductive Repacked (sign : Sign) (mantissa : Nat) (exponent : Int) :
    UnpackedFloat → Prop
  | overflow (large : 971 < exponent) :
      Repacked sign mantissa exponent (.infinity sign)
  | normal (atLeast : 2 ^ 52 ≤ mantissa) (below : mantissa < 2 ^ 53)
      (above : -1075 < exponent) (small : exponent ≤ 971)
      (positive : 0 < mantissa) :
      Repacked sign mantissa exponent (.finite sign mantissa exponent positive)
  | subnormal (held : Nat) (isHeld : held = mantissa % 2 ^ 52)
      (tiny : 2 ^ 52 ≤ mantissa → mantissa < 2 ^ 53 → exponent ≤ -1075)
      (small : exponent ≤ 971) (positive : 0 < held) :
      Repacked sign mantissa exponent (.finite sign held (-1074) positive)
  | zero (none : mantissa % 2 ^ 52 = 0)
      (tiny : 2 ^ 52 ≤ mantissa → mantissa < 2 ^ 53 → exponent ≤ -1075)
      (small : exponent ≤ 971) :
      Repacked sign mantissa exponent (.zero sign)

theorem repacked_of_tiny {sign : Sign} {mantissa : Nat} {exponent : Int}
    (tiny : 2 ^ 52 ≤ mantissa → mantissa < 2 ^ 53 → exponent ≤ -1075)
    (small : exponent ≤ 971) :
    Repacked sign mantissa exponent
      (unpack spec
        (packComponents spec sign 0#11 (BitVec.ofNat 52 mantissa))) := by
  by_cases none : mantissa % 2 ^ 52 = 0
  · have isZero : BitVec.ofNat 52 mantissa = 0#52 := by
      apply BitVec.eq_of_toNat_eq
      rw [BitVec.toNat_ofNat, none]
      rfl
    rw [isZero, unpack_zero]
    exact .zero none tiny small
  · have held : (BitVec.ofNat 52 mantissa).toNat = mantissa % 2 ^ 52 :=
      BitVec.toNat_ofNat _ _
    rw [unpack_subnormal (held ▸ Nat.pos_of_ne_zero none)]
    exact .subnormal _ held tiny small _

theorem repacked (sign : Sign) (mantissa : Nat) (exponent : Int)
    (positive : 0 < mantissa) :
    Repacked sign mantissa exponent
      (repack (.finite sign mantissa exponent positive)) := by
  unfold repack
  simp only [pack]
  have isBiased : (exponent + (spec.exponentBias : Int) +
      (spec.mantissaBitsWithoutImplicit : Int)).toNat =
        (exponent + 1075).toNat := by
    change (exponent + 1023 + 52).toNat = _
    omega
  rw [isBiased]
  split
  case isTrue overflows =>
    have infinite := repack_infinity sign
    unfold repack at infinite
    simp only [pack] at infinite
    rw [infinite]
    change 2048 ≤ (exponent + 1075).toNat + 1 at overflows
    exact .overflow (by omega)
  case isFalse fits =>
    change ¬ 2048 ≤ (exponent + 1075).toNat + 1 at fits
    have small : exponent ≤ 971 := by omega
    split
    case isTrue isNormal =>
      change mantissa.log2 + 1 = 53 at isNormal
      obtain ⟨atLeast, below⟩ :=
        (Nat.log2_eq_iff positive.ne').mp (Nat.succ.inj isNormal)
      by_cases tiny : exponent ≤ -1075
      · have noExponent : (exponent + 1075).toNat = 0 := by omega
        rw [noExponent]
        exact repacked_of_tiny (fun _ _ => tiny) small
      · rw [unpack_normal
          (ofNat_ne_exponent 2047 (by omega) (by decide) (by omega))
          (ofNat_ne_exponent 0 (by omega) (by decide) (by omega))]
        have sameMantissa : 2 ^ 52 + (BitVec.ofNat 52 mantissa).toNat =
            mantissa := by
          rw [BitVec.toNat_ofNat]
          omega
        have sameExponent :
            ((BitVec.ofNat 11 (exponent + 1075).toNat).toNat : Int) - 1075 =
              exponent := by
          rw [toNat_ofNat_exponent (by omega)]
          omega
        simp only [sameMantissa, sameExponent]
        exact .normal atLeast below (by omega) small positive
    case isFalse notNormal =>
      change ¬ mantissa.log2 + 1 = 53 at notNormal
      refine repacked_of_tiny (fun atLeast below => absurd ?_ notNormal) small
      rw [(Nat.log2_eq_iff positive.ne').mpr ⟨atLeast, below⟩]

theorem canonical_unpack (bits : BitVec spec.numBits) :
    Canonical (unpack spec bits) := by
  unfold unpack
  simp only
  split
  case isTrue special =>
    split <;> trivial
  case isFalse finite =>
    have mantissaBelow : (unpackMantissa bits).toNat < 2 ^ 52 :=
      (unpackMantissa bits).isLt
    split
    case isTrue isSubnormal =>
      split
      case isTrue zero => trivial
      case isFalse nonzero =>
        refine .inr ⟨mantissaBelow, ?_⟩
        rw [isSubnormal]
        rfl
    case isFalse normal =>
      have exponentBelow : (unpackExponent bits).toNat < 2048 :=
        (unpackExponent bits).isLt
      have notMax : (unpackExponent bits).toNat ≠ 2047 :=
        fun isMax => finite (BitVec.eq_of_toNat_eq isMax)
      have notZero : (unpackExponent bits).toNat ≠ 0 :=
        fun isZero => normal (BitVec.eq_of_toNat_eq isZero)
      refine .inl ?_
      rw [toNat_implicit_append]
      change _ ∧ _ ∧ -1074 ≤ ((unpackExponent bits).toNat : Int) - 1075 ∧
        ((unpackExponent bits).toNat : Int) - 1075 ≤ 971
      omega

theorem canonical_view (x : Float) : Canonical (view x) :=
  canonical_unpack _

/-- A number in the form of its encoding is encoded without loss. -/
theorem repack_of_canonical {f : UnpackedFloat} (canonical : Canonical f) :
    repack f = f := by
  cases f with
  | infinity sign => exact repack_infinity sign
  | notANumber => exact repack_notANumber
  | zero sign => exact repack_zero sign
  | finite sign mantissa exponent positive =>
      change (_ ∧ _) ∨ _ at canonical
      have encoded := repacked sign mantissa exponent positive
      generalize repack (.finite sign mantissa exponent positive) = result
        at encoded ⊢
      cases encoded with
      | overflow large => omega
      | normal => rfl
      | subnormal held isHeld tiny small positive =>
          obtain ⟨below, rfl⟩ : mantissa < 2 ^ 52 ∧ exponent = -1074 := by
            omega
          obtain rfl : held = mantissa := by omega
          rfl
      | zero none tiny small => omega

theorem view_injective : Function.Injective view := by
  intro x y same
  have bits := (unpack_inj_of_valid x.toModel.valid y.toModel.valid).mp same
  exact Float.toBits_inj.mp (UInt64.toBitVec_inj.mp bits)

end Encoding

section Signs

/-- The number is zero or has the sign. -/
def Signed (sign : Sign) : UnpackedFloat → Prop
  | .notANumber => False
  | .zero _ => True
  | .infinity other => other = sign
  | .finite other _ _ _ => other = sign

theorem Signed.ne_notANumber {sign : Sign} {f : UnpackedFloat}
    (signed : Signed sign f) : f ≠ .notANumber := by
  rintro rfl
  exact signed

theorem exists_signed {f : UnpackedFloat} (isNumber : f ≠ .notANumber) :
    ∃ sign, Signed sign f := by
  cases f with
  | infinity sign => exact ⟨sign, rfl⟩
  | notANumber => exact absurd rfl isNumber
  | zero sign => exact ⟨sign, trivial⟩
  | finite sign => exact ⟨sign, rfl⟩

/-- Encoding a result keeps its sign. -/
theorem Signed.repack {sign : Sign} {f : UnpackedFloat}
    (signed : Signed sign f) : Signed sign (repack f) := by
  cases f with
  | infinity other => rwa [repack_infinity]
  | notANumber => cases signed
  | zero other => rwa [repack_zero]
  | finite other mantissa exponent positive =>
      obtain rfl : other = sign := signed
      have encoded := repacked other mantissa exponent positive
      generalize Binary64.repack (.finite other mantissa exponent positive) =
        result at encoded ⊢
      cases encoded with
      | overflow => rfl
      | normal => rfl
      | subnormal => rfl
      | zero => trivial

theorem repack_eq_notANumber {f : UnpackedFloat} :
    repack f = .notANumber ↔ f = .notANumber := by
  constructor
  · intro isNaN
    by_contra isNumber
    obtain ⟨sign, signed⟩ := exists_signed isNumber
    exact signed.repack.ne_notANumber isNaN
  · rintro rfl
    exact repack_notANumber

theorem signed_roundWithAccuracy (sign : Sign) (mantissa : Nat)
    (exponent : Int) (accuracy : Accuracy) :
    Signed sign (roundWithAccuracy spec sign mantissa exponent accuracy) := by
  unfold roundWithAccuracy
  simp only
  split
  · trivial
  · rfl

theorem signed_normalize (mantissa exponent : Int) (zeroSign sign : Sign)
    (signed : 0 ≤ sign.apply mantissa) :
    Signed sign (normalize spec mantissa exponent zeroSign) := by
  unfold Float.Model.UnpackedFloat.normalize
  cases order : compare mantissa 0 with
  | lt =>
      have negative : mantissa < 0 := compare_lt_iff_lt.mp order
      cases sign with
      | negative => exact signed_roundWithAccuracy _ _ _ _
      | positive => exact absurd signed (not_le.mpr negative)
  | eq => trivial
  | gt =>
      have positive : 0 < mantissa := compare_gt_iff_gt.mp order
      cases sign with
      | negative =>
          exact absurd signed (not_le.mpr (neg_lt_zero.mpr positive))
      | positive => exact signed_roundWithAccuracy _ _ _ _

theorem normalize_ne_notANumber (mantissa exponent : Int) (zeroSign : Sign) :
    normalize spec mantissa exponent zeroSign ≠ .notANumber := by
  rcases le_total 0 mantissa with nonneg | nonpos
  · exact (signed_normalize mantissa exponent zeroSign .positive
      nonneg).ne_notANumber
  · exact (signed_normalize mantissa exponent zeroSign .negative
      (neg_nonneg.mpr nonpos)).ne_notANumber

variable {sign other : Sign} {f g : UnpackedFloat}

theorem signed_mul (signedFirst : Signed sign f) (signedSecond : Signed other g)
    (valid : mul spec f g ≠ .notANumber) :
    Signed (sign * other) (mul spec f g) := by
  cases f with
  | notANumber => cases signedFirst
  | zero =>
      cases g with
      | notANumber => cases signedSecond
      | infinity => exact absurd rfl valid
      | zero => trivial
      | finite => trivial
  | infinity =>
      cases signedFirst
      cases g with
      | notANumber => cases signedSecond
      | zero => exact absurd rfl valid
      | infinity =>
          cases signedSecond
          rfl
      | finite =>
          cases signedSecond
          rfl
  | finite =>
      cases signedFirst
      cases g with
      | notANumber => cases signedSecond
      | zero => trivial
      | infinity =>
          cases signedSecond
          rfl
      | finite =>
          cases signedSecond
          exact signed_roundWithAccuracy _ _ _ _

theorem signed_div (signedFirst : Signed sign f) (signedSecond : Signed other g)
    (nonzero : ∀ zeroSign, g ≠ .zero zeroSign)
    (valid : div spec f g ≠ .notANumber) :
    Signed (sign / other) (div spec f g) := by
  cases g with
  | notANumber => cases signedSecond
  | zero zeroSign => exact absurd rfl (nonzero zeroSign)
  | infinity =>
      cases f with
      | notANumber => cases signedFirst
      | zero => trivial
      | infinity => exact absurd rfl valid
      | finite => trivial
  | finite =>
      cases signedSecond
      cases f with
      | notANumber => cases signedFirst
      | zero => trivial
      | infinity =>
          cases signedFirst
          rfl
      | finite =>
          cases signedFirst
          exact signed_roundWithAccuracy _ _ _ _

theorem add_eq_sub_neg (f g : UnpackedFloat) :
    add spec f g = sub spec f g.neg := by
  cases f with
  | notANumber => rfl
  | infinity sign =>
      cases g with
      | infinity other => cases sign <;> cases other <;> rfl
      | notANumber => rfl
      | zero => rfl
      | finite => rfl
  | zero sign =>
      cases g with
      | zero other => cases sign <;> cases other <;> rfl
      | infinity other => cases other <;> rfl
      | notANumber => rfl
      | finite other => cases other <;> rfl
  | finite sign mantissa exponent =>
      cases g with
      | finite other =>
          cases other with
          | negative => rfl
          | positive =>
              change normalize spec (_ + _) _ _ = normalize spec (_ - -_) _ _
              rw [sub_neg_eq_add]
              rfl
      | infinity other => cases other <;> rfl
      | notANumber => rfl
      | zero => rfl

theorem apply_sub_nonneg (sign : Sign) (first second : Nat) :
    0 ≤ sign.apply (sign.apply first - (-sign).apply second) := by
  cases sign with
  | negative =>
      change (0 : Int) ≤ -(-(first : Int) - (second : Int))
      omega
  | positive =>
      change (0 : Int) ≤ (first : Int) - -(second : Int)
      omega

theorem signed_sub (signedFirst : Signed sign f)
    (signedSecond : Signed (-sign) g) :
    Signed sign (sub spec f g) := by
  cases f with
  | notANumber => cases signedFirst
  | infinity =>
      cases signedFirst
      cases g with
      | notANumber => cases signedSecond
      | infinity =>
          cases signedSecond
          cases sign <;> rfl
      | zero => rfl
      | finite => rfl
  | zero zeroSign =>
      cases g with
      | notANumber => cases signedSecond
      | infinity =>
          cases signedSecond
          cases sign <;> rfl
      | zero other => cases zeroSign <;> cases other <;> trivial
      | finite =>
          cases signedSecond
          cases sign <;> rfl
  | finite =>
      cases signedFirst
      cases g with
      | notANumber => cases signedSecond
      | infinity =>
          cases signedSecond
          cases sign <;> rfl
      | zero other => rfl
      | finite =>
          cases signedSecond
          exact signed_normalize _ _ _ _ (apply_sub_nonneg sign _ _)

theorem signed_sub_of_negative (first : Signed .positive f)
    (second : Signed .negative g) : Signed .positive (sub spec f g) :=
  signed_sub first second

theorem neg_neg_sign : -(-sign) = sign := by
  cases sign <;> rfl

theorem neg_eq_iff : -other = sign ↔ other = -sign := by
  constructor
  · rintro rfl
    exact neg_neg_sign.symm
  · rintro rfl
    exact neg_neg_sign

theorem signed_neg : Signed sign f.neg ↔ Signed (-sign) f := by
  cases f with
  | notANumber => rfl
  | infinity other => exact neg_eq_iff
  | zero => rfl
  | finite other => exact neg_eq_iff

theorem canonical_neg (canonical : Canonical f) : Canonical f.neg := by
  cases f <;> exact canonical

theorem canonical_abs (canonical : Canonical f) : Canonical f.abs := by
  cases f <;> exact canonical

theorem view_neg_eq (x : Float) : view (-x) = (view x).neg :=
  repack_of_canonical (canonical_neg (canonical_view x))

theorem view_abs_eq (x : Float) : view x.abs = (view x).abs :=
  repack_of_canonical (canonical_abs (canonical_view x))

end Signs

section Order

variable {x y : Float}

theorem nonneg_iff : 0 ≤ x ↔ Signed .positive (view x) := by
  rw [le_iff, view_zero]
  cases view x with
  | notANumber => exact iff_of_false Bool.false_ne_true id
  | zero => exact iff_of_true rfl trivial
  | infinity sign =>
      cases sign with
      | negative => exact iff_of_false Bool.false_ne_true Sign.noConfusion
      | positive => exact iff_of_true rfl rfl
  | finite sign =>
      cases sign with
      | negative => exact iff_of_false Bool.false_ne_true Sign.noConfusion
      | positive => exact iff_of_true rfl rfl

theorem nonpos_iff : x ≤ 0 ↔ Signed .negative (view x) := by
  rw [le_iff, view_zero]
  cases view x with
  | notANumber => exact iff_of_false Bool.false_ne_true id
  | zero => exact iff_of_true rfl trivial
  | infinity sign =>
      cases sign with
      | negative => exact iff_of_true rfl rfl
      | positive => exact iff_of_false Bool.false_ne_true Sign.noConfusion
  | finite sign =>
      cases sign with
      | negative => exact iff_of_true rfl rfl
      | positive => exact iff_of_false Bool.false_ne_true Sign.noConfusion

theorem pos_iff :
    0 < x ↔ Signed .positive (view x) ∧ ∀ sign, view x ≠ .zero sign := by
  rw [lt_iff, view_zero]
  cases view x with
  | notANumber => exact iff_of_false Bool.false_ne_true And.left
  | zero sign => exact iff_of_false Bool.false_ne_true fun zero => zero.2 _ rfl
  | infinity sign =>
      cases sign with
      | negative =>
          exact iff_of_false Bool.false_ne_true fun positive =>
            Sign.noConfusion positive.1
      | positive => exact iff_of_true rfl ⟨rfl, nofun⟩
  | finite sign =>
      cases sign with
      | negative =>
          exact iff_of_false Bool.false_ne_true fun positive =>
            Sign.noConfusion positive.1
      | positive => exact iff_of_true rfl ⟨rfl, nofun⟩

/-- A positive number is infinite or finite. -/
inductive PositiveView : UnpackedFloat → Prop
  | infinity : PositiveView (.infinity .positive)
  | finite (mantissa : Nat) (exponent : Int) (positive : 0 < mantissa) :
      PositiveView (.finite .positive mantissa exponent positive)

theorem positiveView (positive : 0 < x) : PositiveView (view x) := by
  obtain ⟨signed, nonzero⟩ := pos_iff.mp positive
  generalize view x = f at signed nonzero ⊢
  cases f with
  | notANumber => cases signed
  | zero sign => exact absurd rfl (nonzero sign)
  | infinity sign =>
      cases signed
      exact .infinity
  | finite sign mantissa exponent =>
      cases signed
      exact .finite mantissa exponent _

theorem isNaN_iff : x.isNaN = true ↔ view x = .notANumber := by
  change (view x).isNaN = true ↔ _
  cases view x <;> simp [isNaN]

theorem isInf_iff : x.isInf = true ↔ ∃ sign, view x = .infinity sign := by
  change (view x).isInf = true ↔ _
  cases view x <;> simp [isInf]

theorem exists_finite (positive : 0 < x) (isFinite : x.isInf = false) :
    ∃ mantissa exponent, ∃ positiveMantissa : 0 < mantissa,
      view x = .finite .positive mantissa exponent positiveMantissa := by
  have shape := positiveView positive
  have notInfinite : view x ≠ .infinity .positive := fun isView =>
    Bool.false_ne_true (isFinite.symm.trans (isInf_iff.mpr ⟨_, isView⟩))
  generalize view x = f at shape notInfinite ⊢
  cases shape with
  | infinity => exact absurd rfl notInfinite
  | finite mantissa exponent => exact ⟨mantissa, exponent, _, rfl⟩

theorem beq_zero_iff : (x == 0) = true ↔ ∃ sign, view x = .zero sign := by
  change (view x).beq (view 0) = true ↔ _
  rw [view_zero]
  cases view x with
  | notANumber => exact iff_of_false Bool.false_ne_true nofun
  | zero sign => exact iff_of_true rfl ⟨sign, rfl⟩
  | infinity sign =>
      refine iff_of_false ?_ nofun
      cases sign <;> exact Bool.false_ne_true
  | finite sign =>
      refine iff_of_false ?_ nofun
      cases sign <;> exact Bool.false_ne_true

theorem not_nonneg_of_isNaN (isNaN : x.isNaN = true) : ¬ 0 ≤ x :=
  fun nonneg => (nonneg_iff.mp nonneg).ne_notANumber (isNaN_iff.mp isNaN)

/-- Finite numbers are ordered by exponent and mantissa. -/
theorem then_isLE {first second : Int} {third fourth : Nat} :
    ((compare first second).then (compare third fourth)).isLE = true ↔
      first < second ∨ (first = second ∧ third ≤ fourth) := by
  rcases lt_trichotomy first second with below | rfl | above
  · rw [compare_lt_iff_lt.mpr below]
    exact iff_of_true rfl (.inl below)
  · rw [compare_eq_iff_eq.mpr rfl]
    simp [Nat.isLE_compare]
  · rw [compare_gt_iff_gt.mpr above]
    refine iff_of_false Bool.false_ne_true ?_
    omega

theorem swap_then (first second : Int) (third fourth : Nat) :
    ((compare first second).then (compare third fourth)).swap =
      (compare second first).then (compare fourth third) := by
  rw [Ordering.swap_then, ← Std.OrientedOrd.eq_swap, ← Std.OrientedOrd.eq_swap]

section Finite

variable {first second : Nat} {exponent other : Int} {positiveFirst : 0 < first}
  {positiveSecond : 0 < second}

theorem le_positive :
    (finite .positive first exponent positiveFirst).le
        (.finite .positive second other positiveSecond) = true ↔
      exponent < other ∨ (exponent = other ∧ first ≤ second) :=
  then_isLE

theorem le_negative :
    (finite .negative first exponent positiveFirst).le
        (.finite .negative second other positiveSecond) = true ↔
      other < exponent ∨ (other = exponent ∧ second ≤ first) := by
  change (((compare exponent other).then (compare first second)).swap).isLE =
    true ↔ _
  rw [swap_then, then_isLE]

end Finite

/-- Infinities of one sign are not ordered strictly. -/
theorem sub_ne_notANumber_of_lt {f g : UnpackedFloat} (less : g.lt f = true) :
    sub spec f g ≠ .notANumber := by
  cases g with
  | notANumber => cases less
  | infinity other =>
      cases f with
      | notANumber => cases less
      | infinity sign =>
          cases other with
          | negative =>
              cases sign with
              | negative => cases less
              | positive => exact nofun
          | positive => cases sign <;> cases less
      | zero => exact nofun
      | finite => exact nofun
  | zero other =>
      cases f with
      | notANumber => cases less
      | infinity => exact nofun
      | zero => cases less
      | finite => exact nofun
  | finite other =>
      cases f with
      | notANumber => cases other <;> cases less
      | infinity => exact nofun
      | zero => exact nofun
      | finite => exact normalize_ne_notANumber _ _ _

theorem le_of_abs_le {f g : UnpackedFloat} (le : f.abs.le g = true) :
    f.le g = true ∧ f.neg.le g = true := by
  cases f with
  | notANumber => cases le
  | zero sign =>
      cases g with
      | infinity other => cases other <;> exact ⟨le, le⟩
      | notANumber => cases le
      | zero => exact ⟨rfl, rfl⟩
      | finite other => cases other <;> exact ⟨le, le⟩
  | infinity sign =>
      cases g with
      | infinity other =>
          cases other with
          | negative => cases le
          | positive => cases sign <;> exact ⟨rfl, rfl⟩
      | notANumber => cases le
      | zero => cases le
      | finite => cases le
  | finite sign =>
      cases g with
      | infinity other =>
          cases other with
          | negative => cases le
          | positive => cases sign <;> exact ⟨rfl, rfl⟩
      | notANumber => cases le
      | zero => cases le
      | finite other =>
          cases other with
          | negative => cases le
          | positive =>
              cases sign with
              | negative => exact ⟨rfl, le⟩
              | positive => exact ⟨le, rfl⟩

theorem shiftLeft_le {first second : Nat} {exponent other : Int}
    (canonical : 2 ^ 52 ≤ second ∨ other = -1074)
    (below : first < 2 ^ 53) (atLeast : -1074 ≤ exponent)
    (order : exponent < other ∨ (exponent = other ∧ first ≤ second)) :
    first <<< (exponent - min exponent other).toNat ≤
      second <<< (other - min exponent other).toNat := by
  rcases order with less | ⟨rfl, atMost⟩
  · obtain ⟨shift, rfl⟩ : ∃ shift : Nat, other = exponent + shift + 1 :=
      ⟨(other - exponent - 1).toNat, by omega⟩
    have isNormal : 2 ^ 52 ≤ second := by omega
    have noShift :
        (exponent - min exponent (exponent + shift + 1)).toNat = 0 := by
      omega
    have isShift : (exponent + shift + 1 -
        min exponent (exponent + shift + 1)).toNat = shift + 1 := by
      omega
    rw [noShift, isShift, Nat.shiftLeft_zero, Nat.shiftLeft_eq]
    calc
      first ≤ 2 ^ 52 * 2 ^ 1 := below.le
      _ ≤ second * 2 ^ (shift + 1) :=
        Nat.mul_le_mul isNormal (Nat.pow_le_pow_right two_pos (by omega))
  · rw [min_self, sub_self]
    exact atMost

variable {f g : UnpackedFloat}

theorem signed_sub_of_le (canonicalFirst : Canonical f)
    (canonicalSecond : Canonical g) (le : g.le f = true)
    (valid : sub spec f g ≠ .notANumber) :
    Signed .positive (sub spec f g) := by
  cases f with
  | notANumber => exact absurd rfl valid
  | infinity sign =>
      cases sign with
      | negative =>
          cases g with
          | notANumber => cases le
          | infinity other =>
              cases other with
              | negative => exact absurd rfl valid
              | positive => cases le
          | zero => cases le
          | finite => cases le
      | positive =>
          cases g with
          | notANumber => cases le
          | infinity other =>
              cases other with
              | negative => rfl
              | positive => exact absurd rfl valid
          | zero => rfl
          | finite => rfl
  | zero =>
      cases g with
      | notANumber => cases le
      | infinity other =>
          cases other with
          | negative => rfl
          | positive => cases le
      | zero => exact signed_sub trivial trivial
      | finite other =>
          cases other with
          | negative => rfl
          | positive => cases le
  | finite sign mantissa exponent =>
      cases g with
      | notANumber => cases le
      | infinity other =>
          cases other with
          | negative => rfl
          | positive => cases sign <;> cases le
      | zero =>
          cases sign with
          | negative => cases le
          | positive => rfl
      | finite other =>
          change (_ ∧ _) ∨ _ at canonicalFirst canonicalSecond
          cases sign with
          | negative =>
              cases other with
              | positive => cases le
              | negative =>
                  have aligned := shiftLeft_le (by omega) (by omega) (by omega)
                    (le_negative.mp le)
                  refine signed_normalize _ _ _ _ ?_
                  exact sub_nonneg.mpr (neg_le_neg (Int.ofNat_le.mpr aligned))
          | positive =>
              cases other with
              | negative => exact signed_sub rfl rfl
              | positive =>
                  have aligned := shiftLeft_le (by omega) (by omega) (by omega)
                    (le_positive.mp le)
                  rw [min_comm] at aligned
                  refine signed_normalize _ _ _ _ ?_
                  exact sub_nonneg.mpr (Int.ofNat_le.mpr aligned)

end Order

section Quotients

/-- The absolute value is at most one. -/
def WithinOne : UnpackedFloat → Prop
  | .zero _ => True
  | .finite _ mantissa exponent _ =>
      (exponent ≤ -53 ∧ mantissa < 2 ^ 53) ∨
        (exponent = -52 ∧ mantissa = 2 ^ 52)
  | _ => False

theorem WithinOne.repack {f : UnpackedFloat} (within : WithinOne f) :
    WithinOne (repack f) := by
  cases f with
  | notANumber => cases within
  | infinity => cases within
  | zero sign => rwa [repack_zero]
  | finite sign mantissa exponent positive =>
      change (_ ∧ _) ∨ _ at within
      have encoded := repacked sign mantissa exponent positive
      generalize Binary64.repack (.finite sign mantissa exponent positive) =
        result at encoded ⊢
      cases encoded with
      | overflow large => omega
      | normal => exact within
      | subnormal held isHeld =>
          refine .inl ⟨by decide, ?_⟩
          omega
      | zero => trivial

theorem mantissa_shiftRight (extended : ExtendedMantissa) (shift : Nat) :
    (extended >>> shift).mantissa = extended.mantissa / 2 ^ shift := by
  induction shift with
  | zero => exact (Nat.div_one _).symm
  | succ shift ih =>
      change (extended >>> shift).mantissa / 2 = _
      rw [ih, Nat.div_div_eq_div_mul, pow_succ]

/-- Nothing is lost when a power of two is shifted. -/
theorem shiftRight_two_pow (power shift : Nat) :
    (⟨2 ^ (power + shift), false, false⟩ : ExtendedMantissa) >>> shift =
      ⟨2 ^ power, false, false⟩ := by
  induction shift generalizing power with
  | zero => rfl
  | succ shift ih =>
      change ExtendedMantissa.shiftRightOne
        ((⟨2 ^ (power + (shift + 1)), false, false⟩ : ExtendedMantissa) >>>
          shift) = _
      rw [show power + (shift + 1) = (power + 1) + shift by omega, ih (power + 1)]
      simp [ExtendedMantissa.shiftRightOne, pow_succ]

theorem roundedMantissa_le (extended : ExtendedMantissa) :
    extended.roundedMantissa ≤ extended.mantissa + 1 := by
  obtain ⟨mantissa, roundBit, stickyBit⟩ := extended
  cases roundBit <;> cases stickyBit <;>
    simp only [ExtendedMantissa.roundedMantissa, ExtendedMantissa.accuracy,
      Accuracy.roundToNearestEven] <;> omega

theorem log2_lt_of_lt {number power : Nat} (positive : 0 < power)
    (below : number < 2 ^ power) : number.log2 < power := by
  rcases Nat.eq_zero_or_pos number with rfl | nonzero
  · exact positive
  · exact (Nat.log2_lt nonzero.ne').mpr below

theorem mantissa_ofMantissaAndAccuracy (mantissa : Nat) (accuracy : Accuracy) :
    (ExtendedMantissa.ofMantissaAndAccuracy mantissa accuracy).mantissa =
      mantissa := by
  cases accuracy with
  | exact => rfl
  | inexact order => cases order <;> rfl

/-- By how many bits a mantissa is shifted to fit the format. -/
def targetShift (mantissa : Nat) (exponent : Int) : Nat :=
  (max ((mantissa.log2 : Int) + 1 + exponent - 53) (-1074) - exponent).toNat

theorem shiftToTargetExponent_eq (mantissa : Nat) (exponent : Int)
    (accuracy : Accuracy) :
    shiftToTargetExponent spec mantissa exponent accuracy =
      (ExtendedMantissa.ofMantissaAndAccuracy mantissa accuracy >>>
          targetShift mantissa exponent,
        exponent + targetShift mantissa exponent) :=
  rfl

theorem lt_two_pow_targetShift (mantissa : Nat) (exponent : Int) :
    mantissa < 2 ^ (53 + targetShift mantissa exponent) := by
  calc
    mantissa < 2 ^ (mantissa.log2 + 1) := Nat.lt_log2_self
    _ ≤ 2 ^ (53 + targetShift mantissa exponent) := by
      refine Nat.pow_le_pow_right two_pos ?_
      unfold targetShift
      omega

/-- The second half of rounding, when the mantissa is rounded. -/
def finish (sign : Sign) (rounded : Nat) (exponent : Int) : UnpackedFloat :=
  let mantissa := rounded / 2 ^ targetShift rounded exponent
  if zero : mantissa = 0 then .zero sign
  else
    .finite sign mantissa (exponent + targetShift rounded exponent)
      (Nat.pos_of_ne_zero zero)

theorem roundWithAccuracy_eq (sign : Sign) (mantissa : Nat) (exponent : Int)
    (accuracy : Accuracy) :
    roundWithAccuracy spec sign mantissa exponent accuracy =
      finish sign
        (ExtendedMantissa.ofMantissaAndAccuracy mantissa accuracy >>>
          targetShift mantissa exponent).roundedMantissa
        (exponent + targetShift mantissa exponent) := by
  unfold roundWithAccuracy finish
  simp only [shiftToTargetExponent_eq, mantissa_shiftRight,
    mantissa_ofMantissaAndAccuracy]

theorem withinOne_finish (sign : Sign) {rounded : Nat} {exponent : Int}
    (atMost : rounded ≤ 2 ^ 53) (small : exponent ≤ -53) :
    WithinOne (finish sign rounded exponent) := by
  unfold finish
  simp only
  split
  case isTrue zero => trivial
  case isFalse nonzero =>
    change (_ ∧ _) ∨ _
    rcases atMost.lt_or_eq with below | rfl
    · have bits : rounded.log2 < 53 := log2_lt_of_lt (by decide) below
      refine .inl ⟨?_, (Nat.div_le_self _ _).trans_lt below⟩
      unfold targetShift
      omega
    · -- Rounding has carried into one more bit, which is shifted out.
      have bits : (2 ^ 53 : Nat).log2 = 53 := Nat.log2_two_pow
      by_cases last : exponent = -53
      · subst last
        exact .inr (by decide)
      · refine .inl ⟨?_, ?_⟩
        · unfold targetShift
          omega
        · refine Nat.div_lt_self (by decide) ?_
          refine Nat.one_lt_two_pow ?_
          unfold targetShift
          omega

/-- A number below one rounds to at most one. -/
theorem withinOne_roundWithAccuracy {mantissa power : Nat}
    (large : 53 ≤ power) (below : mantissa < 2 ^ power) (sign : Sign)
    (accuracy : Accuracy) :
    WithinOne (roundWithAccuracy spec sign mantissa (-power) accuracy) := by
  have bits : mantissa.log2 < power := log2_lt_of_lt (by omega) below
  rw [roundWithAccuracy_eq]
  apply withinOne_finish
  · refine (roundedMantissa_le _).trans (Nat.succ_le_of_lt ?_)
    rw [mantissa_shiftRight, mantissa_ofMantissaAndAccuracy,
      Nat.div_lt_iff_lt_mul (Nat.two_pow_pos _), ← pow_add]
    exact lt_two_pow_targetShift _ _
  · unfold targetShift
    omega

/-- One, with any number of trailing zeros, rounds to one. -/
theorem roundWithAccuracy_two_pow {power : Nat} (large : 53 ≤ power)
    (sign : Sign) :
    roundWithAccuracy spec sign (2 ^ power) (-power) .exact =
      .finite sign (2 ^ 52) (-52) (by decide) := by
  have bits : (2 ^ power : Nat).log2 = power := Nat.log2_two_pow
  have shift : targetShift (2 ^ power) (-power) = power - 52 := by
    unfold targetShift
    omega
  obtain ⟨rest, rfl⟩ := Nat.exists_eq_add_of_le (by omega : 52 ≤ power)
  have exponent : -((52 + rest : Nat) : Int) + rest = -52 := by omega
  rw [roundWithAccuracy_eq, shift, Nat.add_sub_cancel_left,
    ExtendedMantissa.ofMantissaAndAccuracy, shiftRight_two_pow, exponent]
  cases sign <;> rfl

/-- The exponent at which a quotient is computed. -/
def quotientExponent (first second : Nat) (exponent other : Int) : Int :=
  min (exponent - other)
    (max ((first.log2 : Int) + 1 + exponent - (second.log2 + 1 + other) - 53)
      (-1074))

theorem div_finite {sign otherSign : Sign} {first second : Nat}
    {exponent other : Int} {positiveFirst : 0 < first}
    {positiveSecond : 0 < second} :
    div spec (.finite sign first exponent positiveFirst)
        (.finite otherSign second other positiveSecond) =
      let target := quotientExponent first second exponent other
      let numerator := first <<< (exponent - other - target).toNat
      roundWithAccuracy spec (sign / otherSign) (numerator / second) target
        (accuracyOfFraction (numerator % second) second) :=
  rfl

variable {f g : UnpackedFloat}

theorem withinOne_div (canonicalFirst : Canonical f)
    (canonicalSecond : Canonical g) {second : Nat} {other : Int}
    {positive : 0 < second}
    (isFinite : g = .finite .positive second other positive)
    (le : f.abs.le g = true) : WithinOne (div spec f g) := by
  subst isFinite
  cases f with
  | notANumber => cases le
  | infinity => cases le
  | zero => trivial
  | finite sign first exponent positiveFirst =>
      change (_ ∧ _) ∨ _ at canonicalFirst canonicalSecond
      have order := le_positive.mp le
      have aligned := shiftLeft_le (by omega) (by omega) (by omega) order
      have noLarger : (first.log2 : Int) + exponent ≤ second.log2 + other := by
        rcases order with less | ⟨rfl, atMost⟩
        · have atLeast : 52 ≤ second.log2 :=
            (Nat.le_log2 positive.ne').mpr (by omega)
          have below : first.log2 < 53 :=
            (Nat.log2_lt positiveFirst.ne').mpr (by omega)
          omega
        · have bits : first.log2 ≤ second.log2 :=
            (Nat.le_log2 positive.ne').mpr
              ((Nat.log2_self_le positiveFirst.ne').trans atMost)
          omega
      have small : quotientExponent first second exponent other ≤ -53 := by
        unfold quotientExponent
        omega
      have atMost : quotientExponent first second exponent other ≤
          exponent - other := min_le_left _ _
      rw [div_finite]
      simp only
      obtain ⟨power, isPower⟩ : ∃ power : Nat,
          quotientExponent first second exponent other = -power :=
        ⟨(-quotientExponent first second exponent other).toNat, by omega⟩
      rw [isPower] at small atMost ⊢
      have large : 53 ≤ power := by omega
      generalize isShift : (exponent - other - -(power : Int)).toNat = shift
      -- At the exponent of the quotient, the divisor is the larger one.
      have numeratorLe : first <<< shift ≤ second * 2 ^ power := by
        have noShift : (exponent - min exponent other).toNat = 0 := by omega
        rw [noShift, Nat.shiftLeft_zero, Nat.shiftLeft_eq] at aligned
        have total : (other - min exponent other).toNat + shift = power := by
          omega
        rw [Nat.shiftLeft_eq, ← total, pow_add, ← mul_assoc]
        exact Nat.mul_le_mul_right _ aligned
      have quotientLe : first <<< shift / second ≤ 2 ^ power :=
        Nat.div_le_of_le_mul numeratorLe
      rcases quotientLe.lt_or_eq with below | isOne
      · exact withinOne_roundWithAccuracy large below _ _
      · have split := Nat.div_add_mod (first <<< shift) second
        rw [isOne] at split ⊢
        have noRest : first <<< shift % second = 0 := by omega
        rw [noRest]
        change WithinOne (roundWithAccuracy spec _ (2 ^ power) (-power) .exact)
        rw [roundWithAccuracy_two_pow large]
        exact .inr ⟨rfl, rfl⟩

theorem div_finite_self {mantissa : Nat} {exponent : Int}
    (positive : 0 < mantissa) :
    div spec (.finite .positive mantissa exponent positive)
        (.finite .positive mantissa exponent positive) =
      .finite .positive (2 ^ 52) (-52) (by decide) := by
  have target : quotientExponent mantissa mantissa exponent exponent = -53 := by
    unfold quotientExponent
    omega
  have shift : (exponent - exponent - -53).toNat = 53 := by omega
  have quotient : mantissa <<< 53 / mantissa = 2 ^ 53 := by
    rw [Nat.shiftLeft_eq, Nat.mul_div_cancel_left _ positive]
  have rest : mantissa <<< 53 % mantissa = 0 := by
    rw [Nat.shiftLeft_eq, Nat.mul_mod_right]
  simp only [div_finite, target, shift, quotient, rest]
  exact roundWithAccuracy_two_pow le_rfl .positive

theorem WithinOne.abs_le_one (within : WithinOne f) :
    f.abs.le (view 1) = true := by
  rw [view_one]
  cases f with
  | notANumber => cases within
  | infinity => cases within
  | zero => rfl
  | finite =>
      refine le_positive.mpr ?_
      change (_ ∧ _) ∨ _ at within
      omega

end Quotients

section Operations

variable {x y : Float}

/-- Zero times infinity. -/
def InvalidProduct (x y : Float) : Prop :=
  (x == 0) = true ∧ y.isInf = true ∨ x.isInf = true ∧ (y == 0) = true

/-- Zero by zero, or infinity by infinity. -/
def InvalidQuotient (x y : Float) : Prop :=
  (x == 0) = true ∧ (y == 0) = true ∨ x.isInf = true ∧ y.isInf = true

theorem isNaN_mul :
    (x * y).isNaN = true ↔
      x.isNaN = true ∨ y.isNaN = true ∨ InvalidProduct x y := by
  simp only [InvalidProduct, isNaN_iff, beq_zero_iff, isInf_iff, view_mul,
    repack_eq_notANumber]
  cases view x with
  | notANumber => simp [mul]
  | infinity => cases view y <;> simp [mul]
  | zero => cases view y <;> simp [mul]
  | finite sign =>
      cases view y with
      | finite other =>
          simpa [mul] using
            (signed_roundWithAccuracy _ _ _ _).ne_notANumber
      | _ => simp [mul]

theorem isNaN_div :
    (x / y).isNaN = true ↔
      x.isNaN = true ∨ y.isNaN = true ∨ InvalidQuotient x y := by
  simp only [InvalidQuotient, isNaN_iff, beq_zero_iff, isInf_iff, view_div,
    repack_eq_notANumber]
  cases view x with
  | notANumber => simp [div]
  | infinity => cases view y <;> simp [div]
  | zero => cases view y <;> simp [div]
  | finite sign =>
      cases view y with
      | finite other =>
          simpa [div] using
            (signed_roundWithAccuracy _ _ _ _).ne_notANumber
      | _ => simp [div]

theorem isNaN_add_right (isNaN : y.isNaN = true) : (x + y).isNaN = true := by
  rw [isNaN_iff] at isNaN ⊢
  rw [view_add, isNaN, repack_eq_notANumber]
  cases view x <;> rfl

theorem isNaN_sub_right (isNaN : y.isNaN = true) : (x - y).isNaN = true := by
  rw [isNaN_iff] at isNaN ⊢
  rw [view_sub, isNaN, repack_eq_notANumber]
  cases view x <;> rfl

theorem isNaN_mul_of_left (isNaN : x.isNaN = true) : (x * y).isNaN = true :=
  isNaN_mul.mpr (.inl isNaN)

/-- An operation on numbers that is not invalid has a number as its result. -/
theorem mul_ne_notANumber {first second : Sign}
    (signedFirst : Signed first (view x)) (signedSecond : Signed second (view y))
    (valid : ¬ InvalidProduct x y) :
    mul spec (view x) (view y) ≠ .notANumber := by
  intro isNaN
  rcases isNaN_mul.mp (isNaN_iff.mpr (repack_eq_notANumber.mpr isNaN)) with
    noFirst | noSecond | invalid
  · exact signedFirst.ne_notANumber (isNaN_iff.mp noFirst)
  · exact signedSecond.ne_notANumber (isNaN_iff.mp noSecond)
  · exact valid invalid

theorem div_ne_notANumber {first second : Sign}
    (signedFirst : Signed first (view x)) (signedSecond : Signed second (view y))
    (valid : ¬ InvalidQuotient x y) :
    div spec (view x) (view y) ≠ .notANumber := by
  intro isNaN
  rcases isNaN_div.mp (isNaN_iff.mpr (repack_eq_notANumber.mpr isNaN)) with
    noFirst | noSecond | invalid
  · exact signedFirst.ne_notANumber (isNaN_iff.mp noFirst)
  · exact signedSecond.ne_notANumber (isNaN_iff.mp noSecond)
  · exact valid invalid

protected theorem mul_nonneg (first : 0 ≤ x) (second : 0 ≤ y)
    (valid : ¬ InvalidProduct x y) : 0 ≤ x * y := by
  rw [nonneg_iff] at first second ⊢
  exact (signed_mul first second (mul_ne_notANumber first second valid)).repack

protected theorem mul_nonpos (first : x ≤ 0) (second : 0 ≤ y)
    (valid : ¬ InvalidProduct x y) : x * y ≤ 0 := by
  rw [nonpos_iff] at first ⊢
  rw [nonneg_iff] at second
  exact (signed_mul first second (mul_ne_notANumber first second valid)).repack

protected theorem div_nonneg (first : 0 ≤ x) (second : 0 < y)
    (valid : ¬ InvalidQuotient x y) : 0 ≤ x / y := by
  rw [nonneg_iff] at first ⊢
  obtain ⟨signed, nonzero⟩ := pos_iff.mp second
  exact (signed_div first signed nonzero
    (div_ne_notANumber first signed valid)).repack

protected theorem div_nonpos (first : x ≤ 0) (second : 0 < y)
    (valid : ¬ InvalidQuotient x y) : x / y ≤ 0 := by
  rw [nonpos_iff] at first ⊢
  obtain ⟨signed, nonzero⟩ := pos_iff.mp second
  exact (signed_div first signed nonzero
    (div_ne_notANumber first signed valid)).repack

protected theorem add_nonneg (first : 0 ≤ x) (second : 0 ≤ y) : 0 ≤ x + y := by
  rw [nonneg_iff] at first second ⊢
  rw [view_add, add_eq_sub_neg]
  exact (signed_sub first (signed_neg.mpr second)).repack

protected theorem sub_zero (x : Float) : x - 0 = x := by
  apply view_injective
  rw [view_sub, view_zero]
  have canonical := canonical_view x
  cases same : view x with
  | zero sign => cases sign <;> rfl
  | infinity sign => cases sign <;> rfl
  | notANumber => rfl
  | finite =>
      rw [same] at canonical
      exact repack_of_canonical canonical

theorem sub_nonneg_of_nonpos (first : 0 ≤ x) (second : y ≤ 0) :
    0 ≤ x - y := by
  rw [nonneg_iff] at first ⊢
  exact (signed_sub_of_negative first (nonpos_iff.mp second)).repack

theorem nonneg_of_pos (positive : 0 < x) : 0 ≤ x :=
  nonneg_iff.mpr (pos_iff.mp positive).1

protected theorem sub_nonneg (le : y ≤ x) (isNumber : (x - y).isNaN = false) :
    0 ≤ x - y := by
  rw [nonneg_iff]
  refine (signed_sub_of_le (canonical_view x) (canonical_view y)
    (le_iff.mp le) fun isNaN => ?_).repack
  have noNumber : view (x - y) = .notANumber :=
    (view_sub x y).trans (repack_eq_notANumber.mpr isNaN)
  rw [isNaN_iff.mpr noNumber] at isNumber
  cases isNumber

theorem sub_nonneg_of_lt (less : y < x) : 0 ≤ x - y := by
  rw [lt_iff] at less
  refine Binary64.sub_nonneg (le_iff.mpr ?_)
    (Bool.eq_false_iff.mpr fun isNaN => ?_)
  · have isLess : (view y).compare (view x) = some .lt := by
      simpa [Float.Model.UnpackedFloat.lt] using less
    rw [Float.Model.UnpackedFloat.le, isLess]
    rfl
  · rw [isNaN_iff, view_sub, repack_eq_notANumber] at isNaN
    exact sub_ne_notANumber_of_lt less isNaN

theorem not_le_of_isNaN (isNaN : x.isNaN = true) : ¬ x ≤ y := by
  rw [isNaN_iff] at isNaN
  rw [le_iff, isNaN]
  exact Bool.false_ne_true

theorem isNaN_abs (isNaN : x.isNaN = true) : x.abs.isNaN = true := by
  rw [isNaN_iff] at isNaN ⊢
  rw [view_abs_eq, isNaN]
  rfl

theorem isNaN_sub_left (isNaN : x.isNaN = true) : (x - y).isNaN = true := by
  rw [isNaN_iff] at isNaN ⊢
  rw [view_sub, isNaN, repack_eq_notANumber]
  rfl

theorem exists_sign (isNumber : x.isNaN = false) : 0 ≤ x ∨ x ≤ 0 := by
  have isSome : view x ≠ .notANumber := fun isNaN =>
    Bool.false_ne_true (isNumber.symm.trans (isNaN_iff.mpr isNaN))
  obtain ⟨sign, signed⟩ := exists_signed isSome
  cases sign with
  | negative => exact .inr (nonpos_iff.mpr signed)
  | positive => exact .inl (nonneg_iff.mpr signed)

theorem not_pos_of_nonpos (nonpos : x ≤ 0) : ¬ 0 < x := by
  rw [nonpos_iff] at nonpos
  rw [pos_iff]
  rintro ⟨positive, nonzero⟩
  cases isView : view x with
  | notANumber =>
      rw [isView] at nonpos
      exact nonpos
  | zero sign => exact nonzero sign isView
  | infinity =>
      rw [isView] at nonpos positive
      cases nonpos.symm.trans positive
  | finite =>
      rw [isView] at nonpos positive
      cases nonpos.symm.trans positive

theorem pos_of_nonneg (nonneg : 0 ≤ x) (notNonpos : ¬ x ≤ 0) : 0 < x := by
  rw [nonneg_iff] at nonneg
  refine pos_iff.mpr ⟨nonneg, fun sign isZero => notNonpos ?_⟩
  rw [nonpos_iff, isZero]
  trivial

theorem isNumber_of_abs_le (le : x.abs ≤ y) : x.isNaN = false :=
  Bool.eq_false_iff.mpr fun isNaN => not_le_of_isNaN (isNaN_abs isNaN) le

protected theorem div_self (positive : 0 < x) (isFinite : x.isInf = false) :
    x / x = 1 := by
  obtain ⟨mantissa, exponent, positiveMantissa, isView⟩ :=
    exists_finite positive isFinite
  change Float.ofModel (.pack (div spec (view x) (view x))) = 1
  rw [isView, div_finite_self]
  decide

theorem one_sub_nonneg (le : x ≤ 1) : 0 ≤ 1 - x := by
  refine Binary64.sub_nonneg le (Bool.eq_false_iff.mpr fun isNaN => ?_)
  rw [isNaN_iff, view_sub, repack_eq_notANumber, view_one] at isNaN
  rw [le_iff] at le
  cases isNumber : view x with
  | notANumber =>
      rw [isNumber] at le
      cases le
  | infinity =>
      rw [isNumber] at isNaN
      cases isNaN
  | zero =>
      rw [isNumber] at isNaN
      cases isNaN
  | finite =>
      rw [isNumber] at isNaN
      exact normalize_ne_notANumber _ _ _ isNaN

theorem one_add_nonneg (le : -x ≤ 1) : 0 ≤ 1 + x := by
  have nonneg := one_sub_nonneg le
  rw [nonneg_iff] at nonneg ⊢
  rwa [view_add, add_eq_sub_neg, ← view_neg_eq]

protected theorem abs_le (le : x.abs ≤ y) : x ≤ y ∧ -x ≤ y := by
  rw [le_iff, view_abs_eq] at le
  rw [le_iff, le_iff, view_neg_eq]
  exact le_of_abs_le le

theorem abs_div_le_one (le : x.abs ≤ y) (positive : 0 < y)
    (isFinite : y.isInf = false) : (x / y).abs ≤ 1 := by
  obtain ⟨second, exponent, positiveSecond, isView⟩ :=
    exists_finite positive isFinite
  have canonical := canonical_view y
  rw [le_iff, view_abs_eq] at le ⊢
  rw [isView] at le canonical
  refine WithinOne.abs_le_one (WithinOne.repack ?_)
  change WithinOne (div spec (view x) (view y))
  rw [isView]
  exact withinOne_div (canonical_view x) canonical rfl le

end Operations

section Infinities

variable {x y : Float}

def infinity : Float :=
  1 / 0

/-- The largest finite double. -/
def largest : Float :=
  .ofModel (.pack (.finite .positive (2 ^ 53 - 1) 971 (by decide)))

theorem view_infinity : view infinity = .infinity .positive := by
  rfl

theorem eq_zero (isZero : (x == 0) = true) : x = 0 ∨ x = -0 := by
  obtain ⟨sign, isView⟩ := beq_zero_iff.mp isZero
  cases sign with
  | negative => exact .inr (view_injective isView)
  | positive => exact .inl (view_injective isView)

theorem not_isInf_of_zero (isZero : (x == 0) = true) : x.isInf = false := by
  rcases eq_zero isZero with rfl | rfl <;> rfl

theorem isZero_of_nonneg_of_nonpos (nonneg : 0 ≤ x) (nonpos : x ≤ 0) :
    (x == 0) = true := by
  rw [nonneg_iff] at nonneg
  rw [nonpos_iff] at nonpos
  rw [beq_zero_iff]
  cases isView : view x with
  | notANumber =>
      rw [isView] at nonneg
      cases nonneg
  | zero sign => exact ⟨sign, rfl⟩
  | infinity sign =>
      rw [isView] at nonneg nonpos
      cases nonneg.symm.trans nonpos
  | finite sign =>
      rw [isView] at nonneg nonpos
      cases nonneg.symm.trans nonpos

theorem ne_zero_of_pos (positive : 0 < x) : (x == 0) = false := by
  refine Bool.eq_false_iff.mpr fun isZero => ?_
  obtain ⟨sign, isView⟩ := beq_zero_iff.mp isZero
  exact (pos_iff.mp positive).2 sign isView

theorem mul_infinity (positive : 0 < x) : x * infinity = infinity := by
  have shape := positiveView positive
  apply view_injective
  rw [view_mul, view_infinity]
  generalize view x = f at shape ⊢
  cases shape with
  | infinity => exact repack_infinity _
  | finite => exact repack_infinity _

theorem pos_of_mul_infinity_nonneg (nonneg : 0 ≤ x * infinity) : 0 < x := by
  have noNumber : ¬ Signed .positive (repack .notANumber) := by
    rw [repack_notANumber]
    exact id
  have negative : ¬ Signed .positive (repack (.infinity .negative)) := by
    rw [repack_infinity]
    exact Sign.noConfusion
  rw [nonneg_iff, view_mul, view_infinity] at nonneg
  rw [pos_iff]
  generalize view x = f at nonneg ⊢
  cases f with
  | notANumber => exact absurd nonneg noNumber
  | zero sign => exact absurd nonneg noNumber
  | infinity sign =>
      cases sign with
      | negative => exact absurd nonneg negative
      | positive => exact ⟨rfl, nofun⟩
  | finite sign =>
      cases sign with
      | negative => exact absurd nonneg negative
      | positive => exact ⟨rfl, nofun⟩

theorem infinity_div (positive : 0 < x) (isFinite : x.isInf = false) :
    infinity / x = infinity := by
  obtain ⟨mantissa, exponent, positiveMantissa, isView⟩ :=
    exists_finite positive isFinite
  apply view_injective
  rw [view_div, view_infinity, isView]
  exact repack_infinity _

theorem add_infinity (nonneg : 0 ≤ x) : x + infinity = infinity := by
  rw [nonneg_iff] at nonneg
  apply view_injective
  rw [view_add, view_infinity]
  cases isView : view x with
  | notANumber => exact absurd isView nonneg.ne_notANumber
  | zero sign => cases sign <;> rfl
  | infinity sign =>
      rw [isView] at nonneg
      cases nonneg
      exact repack_infinity _
  | finite sign => exact repack_infinity _

theorem isZero_div (isZero : (x == 0) = true) (positive : 0 < y) :
    (x / y == 0) = true := by
  obtain ⟨sign, isView⟩ := beq_zero_iff.mp isZero
  have shape := positiveView positive
  rw [beq_zero_iff, view_div, isView]
  generalize view y = g at shape ⊢
  cases shape with
  | infinity => exact ⟨_, repack_zero _⟩
  | finite => exact ⟨_, repack_zero _⟩

theorem isZero_mul (isNumber : x.isNaN = false) (isFinite : x.isInf = false)
    (isZero : (y == 0) = true) : (x * y == 0) = true := by
  obtain ⟨sign, isView⟩ := beq_zero_iff.mp isZero
  rw [beq_zero_iff, view_mul, isView]
  cases isFactor : view x with
  | notANumber =>
      rw [isNaN_iff.mpr isFactor] at isNumber
      cases isNumber
  | zero other => exact ⟨_, repack_zero _⟩
  | infinity other =>
      rw [isInf_iff.mpr ⟨other, isFactor⟩] at isFinite
      cases isFinite
  | finite other => exact ⟨_, repack_zero _⟩

theorem one_add_zero (isZero : (x == 0) = true) : 1 + x = 1 := by
  rcases eq_zero isZero with rfl | rfl <;> decide

theorem one_sub_zero (isZero : (x == 0) = true) : 1 - x = 1 := by
  rcases eq_zero isZero with rfl | rfl <;> decide

theorem isFinite_of_abs_le_one (le : x.abs ≤ 1) : x.isInf = false := by
  refine Bool.eq_false_iff.mpr fun infinite => ?_
  obtain ⟨sign, isView⟩ := isInf_iff.mp infinite
  rw [le_iff, view_abs_eq, isView] at le
  exact absurd le Bool.false_ne_true

end Infinities

section Rationals

/-- The double nearest to a number, or an infinity. -/
def ofRat (number : Rat) : Float :=
  let sign := if number < 0 then .negative else .positive
  if nonzero : number.num.natAbs = 0 then .ofModel (.pack (.zero sign))
  else
    .ofModel (.pack (div spec
      (.finite sign number.num.natAbs 0 (Nat.pos_of_ne_zero nonzero))
      (.finite .positive number.den 0 number.den_pos)))

/-- The exact value of a finite double. -/
def toRat (x : Float) : Rat :=
  match view x with
  | .finite sign mantissa exponent _ =>
      sign.apply mantissa * (2 : Rat) ^ exponent
  | _ => 0

example : ofRat 40 = 40 := by decide

example : toRat (ofRat (1 / 10)) = 3602879701896397 / 36028797018963968 := by
  decide +kernel

end Rationals

end Binary64

end CocktailMaker
