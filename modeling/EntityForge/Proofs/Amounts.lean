import EntityForge.Value
import Mathlib.Algebra.Order.Ring.Int
import Mathlib.Data.Nat.Cast.Order.Ring

/-! What a floating-point number amounts to. The integer that is read off its bits is that of the unpacked
number; numbers that are equal amount to the same, and an integer is held in one way only, zero apart. -/
namespace EntityForge
open Float.Model (UnpackedFloat Format)
open Float.Model.UnpackedFloat (Sign unpack unpackExponent unpackMantissa unpackSign)

namespace Amount

def whole? (mantissa : Nat) (exponent : Int) : Option Nat :=
  if 0 ≤ exponent then some (mantissa * 2 ^ exponent.toNat)
  else if mantissa % 2 ^ (-exponent).toNat = 0 then some (mantissa / 2 ^ (-exponent).toNat) else none

def integer? : UnpackedFloat → Option Int
  | .zero _ => some 0
  | .finite sign mantissa exponent _ => (whole? mantissa exponent).map fun n : Nat => sign.apply n
  | _ => none

/- A number as a format with 53 binary digits holds it: only the smallest have fewer digits. -/
structure Canonical (mantissa : Nat) (exponent : Int) : Prop where
  some : 0 < mantissa
  digits : mantissa < 2 ^ 53
  small : -1074 ≤ exponent
  full : exponent = -1074 ∨ 2 ^ 52 ≤ mantissa

theorem wholeZero (e : Int) : whole? 0 e = some 0 := by
  unfold whole?
  split
  · rw [Nat.zero_mul]
  · rw [if_pos (Nat.zero_mod _), Nat.zero_div]

theorem wholeScaled {m n : Nat} {e : Int} (small : -1074 ≤ e) (found : whole? m e = some n) :
    m * 2 ^ (e + 1074).toNat = n * 2 ^ 1074 := by
  unfold whole? at found
  split at found
  next up =>
    cases found
    have sum : (e + 1074).toNat = e.toNat + 1074 := by omega
    rw [sum, pow_add, mul_assoc]
  next down =>
    split at found
    next exact =>
      cases found
      have sum : 1074 = (-e).toNat + (e + 1074).toNat := by omega
      have cut : m / 2 ^ (-e).toNat * 2 ^ (-e).toNat = m := Nat.div_mul_cancel (Nat.dvd_of_mod_eq_zero exact)
      calc m * 2 ^ (e + 1074).toNat
          = m / 2 ^ (-e).toNat * 2 ^ (-e).toNat * 2 ^ (e + 1074).toNat := by rw [cut]
        _ = m / 2 ^ (-e).toNat * 2 ^ ((-e).toNat + (e + 1074).toNat) := by rw [pow_add, mul_assoc]
        _ = m / 2 ^ (-e).toNat * 2 ^ 1074 := by rw [← sum]
    next => cases found

theorem exponentBound {m m' a b : Nat} (same : m * 2 ^ a = m' * 2 ^ b) (digits : m < 2 ^ 53)
    (full : b = 0 ∨ 2 ^ 52 ≤ m') : b ≤ a := by
  by_contra above
  obtain ⟨d, rfl⟩ := Nat.exists_eq_add_of_lt (not_le.mp above)
  have full := full.resolve_left (by omega)
  have cut : m = m' * 2 ^ (d + 1) := by
    have power : 2 ^ (a + d + 1) = 2 ^ (d + 1) * 2 ^ a := by rw [← pow_add]; congr 1; omega
    rw [power, ← mul_assoc] at same
    exact Nat.eq_of_mul_eq_mul_right (Nat.two_pow_pos a) same
  have double : 2 ≤ 2 ^ (d + 1) := by
    have := Nat.two_pow_pos d
    omega
  have more : 2 ^ 52 * 2 ≤ m' * 2 ^ (d + 1) := Nat.mul_le_mul full double
  omega

theorem canonicalSame {m m' n : Nat} {e e' : Int} (here : Canonical m e) (there : Canonical m' e')
    (found : whole? m e = some n) (found' : whole? m' e' = some n) : m = m' ∧ e = e' := by
  have same := (wholeScaled here.small found).trans (wholeScaled there.small found').symm
  have above := here.small
  have above' := there.small
  have bound := exponentBound same here.digits (there.full.imp_left fun low => by omega)
  have bound' := exponentBound same.symm there.digits (here.full.imp_left fun low => by omega)
  have exponents : e = e' := by omega
  subst exponents
  exact ⟨Nat.eq_of_mul_eq_mul_right (Nat.two_pow_pos _) same, rfl⟩

def signOf (bits : Nat) : Sign := if bits < 2 ^ 63 then .positive else .negative

inductive Shape (bits : Nat) : UnpackedFloat → Prop where
  | infinity {sign} (field : bits / 2 ^ 52 % 2 ^ 11 = 2047) : Shape bits (.infinity sign)
  | notANumber (field : bits / 2 ^ 52 % 2 ^ 11 = 2047) : Shape bits .notANumber
  | zero {sign} (field : bits / 2 ^ 52 % 2 ^ 11 = 0) (fraction : bits % 2 ^ 52 = 0) :
      Shape bits (.zero sign)
  | small {sign mantissa exponent some} (field : bits / 2 ^ 52 % 2 ^ 11 = 0) (side : sign = signOf bits)
      (fraction : mantissa = bits % 2 ^ 52) (scale : exponent = -1074) :
      Shape bits (.finite sign mantissa exponent some)
  | normal {sign mantissa exponent some} (field : 0 < bits / 2 ^ 52 % 2 ^ 11)
      (finite : bits / 2 ^ 52 % 2 ^ 11 < 2047) (side : sign = signOf bits)
      (fraction : mantissa = 2 ^ 52 + bits % 2 ^ 52)
      (scale : exponent = ((bits / 2 ^ 52 % 2 ^ 11 : Nat) : Int) - 1075) :
      Shape bits (.finite sign mantissa exponent some)

section Fields
variable (b : BitVec 64)

theorem mantissaField : (@unpackMantissa .binary64 b).toNat = b.toNat % 2 ^ 52 := by
  simp [unpackMantissa]

theorem exponentField : (@unpackExponent .binary64 b).toNat = b.toNat / 2 ^ 52 % 2 ^ 11 := by
  simp [unpackExponent, Nat.shiftRight_eq_div_pow]

theorem signField : Sign.ofBitVec (@unpackSign .binary64 b) = signOf b.toNat := by
  have top : (@unpackSign .binary64 b).toNat = b.toNat / 2 ^ 63 % 2 := by
    change b.toNat >>> 63 % 2 = _
    rw [Nat.shiftRight_eq_div_pow]
  have bound := b.isLt
  have positive : @unpackSign .binary64 b = 0#1 ↔ b.toNat < 2 ^ 63 := by
    rw [← BitVec.toNat_inj, top, BitVec.toNat_ofNat]
    omega
  simp only [Sign.ofBitVec, signOf, positive]

theorem mantissaFull : (1#1 ++ @unpackMantissa .binary64 b).toNat = 2 ^ 52 + b.toNat % 2 ^ 52 := by
  rw [BitVec.toNat_append, ← Nat.shiftLeft_add_eq_or_of_lt (BitVec.isLt _), mantissaField]
  rfl

theorem unpackShape : Shape b.toNat (unpack .binary64 b) := by
  have fraction := mantissaField b
  have field := exponentField b
  change Shape b.toNat (if @unpackExponent .binary64 b = -1#_ then
    if @unpackMantissa .binary64 b = 0#_ then .infinity _ else .notANumber
    else if @unpackExponent .binary64 b = 0#_ then
      if none : @unpackMantissa .binary64 b = 0#_ then .zero _ else .finite _ _ _ _
    else .finite _ _ _ _)
  refine iteInduction (fun special => ?_) fun finite => iteInduction (fun low => ?_) fun high => ?_
  · have full : b.toNat / 2 ^ 52 % 2 ^ 11 = 2047 := by rw [← field, special]; rfl
    exact iteInduction (fun _ => .infinity full) fun _ => .notANumber full
  · have low : b.toNat / 2 ^ 52 % 2 ^ 11 = 0 := by rw [← field, low]; rfl
    by_cases none : @unpackMantissa .binary64 b = 0#_
    · rw [dif_pos none]
      exact .zero low (by rw [← fraction, none]; rfl)
    · rw [dif_neg none]
      refine .small low (signField b) fraction ?_
      rw [field, low]
      rfl
  · have bound : b.toNat / 2 ^ 52 % 2 ^ 11 < 2 ^ 11 := Nat.mod_lt _ (by decide)
    have some : b.toNat / 2 ^ 52 % 2 ^ 11 ≠ 0 := fun none =>
      high (BitVec.eq_of_toNat_eq (by rw [field, none]; rfl))
    have less : b.toNat / 2 ^ 52 % 2 ^ 11 ≠ 2047 := fun full =>
      finite (BitVec.eq_of_toNat_eq (by rw [field, full]; rfl))
    refine .normal (by omega) (by omega) (signField b) (mantissaFull b) ?_
    rw [field]
    rfl

end Fields

theorem Shape.canonical {bits m : Nat} {e : Int} {sign : Sign} {some : 0 < m}
    (shape : Shape bits (.finite sign m e some)) : Canonical m e := by
  have fraction := Nat.mod_lt bits (Nat.two_pow_pos 52)
  cases shape with
  | small _ _ here scale => exact ⟨some, by omega, by omega, .inl scale⟩
  | normal field _ _ here scale => exact ⟨some, by omega, by omega, .inr (by omega)⟩

section Bits
variable {x : Float} {bits : Nat}

theorem integerBits (read : x.toBits.toNat = bits) : Value.integerOf x =
    if bits % 2 ^ 63 ≥ 2047 * 2 ^ 52 then none
    else (whole? (Decimal.Binary.ofBits (bits % 2 ^ 63)).mantissa
      (Decimal.Binary.ofBits (bits % 2 ^ 63)).exponent).map fun n : Nat => (signOf bits).apply n := by
  have signed (n : Int) : (if bits ≥ 0x8000000000000000 then -n else n) = (signOf bits).apply n := by
    unfold signOf
    split
    · rw [if_neg (by omega)]
      rfl
    · rw [if_pos (by omega)]
      rfl
  unfold Value.integerOf
  rw [read]
  dsimp only
  generalize Decimal.Binary.ofBits (bits % 0x8000000000000000) = b
  refine if_congr Iff.rfl rfl ?_
  simp only [signed]
  change Option.map _ ((whole? b.mantissa b.exponent).bind fun n => some (n : Int)) = _
  cases whole? b.mantissa b.exponent <;> rfl

theorem ofBitsSmall (field : bits / 2 ^ 52 % 2 ^ 11 = 0) :
    (Decimal.Binary.ofBits (bits % 2 ^ 63)).mantissa = bits % 2 ^ 52 ∧
      (Decimal.Binary.ofBits (bits % 2 ^ 63)).exponent = -1074 := by
  have mid : bits % 2 ^ 63 / 0x10000000000000 % 0x800 = 0 := by omega
  unfold Decimal.Binary.ofBits
  rw [if_pos mid]
  exact ⟨by dsimp only; omega, rfl⟩

theorem ofBitsNormal (field : 0 < bits / 2 ^ 52 % 2 ^ 11) :
    (Decimal.Binary.ofBits (bits % 2 ^ 63)).mantissa = 2 ^ 52 + bits % 2 ^ 52 ∧
      (Decimal.Binary.ofBits (bits % 2 ^ 63)).exponent =
        ((bits / 2 ^ 52 % 2 ^ 11 : Nat) : Int) - 1075 := by
  have mid : bits % 2 ^ 63 / 0x10000000000000 % 0x800 = bits / 2 ^ 52 % 2 ^ 11 := by omega
  unfold Decimal.Binary.ofBits
  rw [mid, if_neg (by omega)]
  exact ⟨by dsimp only; omega, rfl⟩

theorem Shape.integerOf {u : UnpackedFloat} (shape : Shape x.toBits.toNat u) :
    Value.integerOf x = integer? u := by
  rw [integerBits rfl]
  generalize x.toBits.toNat = bits at shape
  cases shape with
  | infinity field => exact if_pos (by omega)
  | notANumber field => exact if_pos (by omega)
  | zero field fraction =>
    obtain ⟨mantissa, exponent⟩ := ofBitsSmall field
    have sign : (signOf bits).apply 0 = 0 := by cases signOf bits <;> rfl
    rw [if_neg (by omega), mantissa, fraction, wholeZero]
    exact congrArg some sign
  | small field sign fraction scale =>
    obtain ⟨mantissa, exponent⟩ := ofBitsSmall field
    rw [if_neg (by omega), mantissa, exponent, ← sign, ← fraction, ← scale]
    rfl
  | normal field finite sign fraction scale =>
    obtain ⟨mantissa, exponent⟩ := ofBitsNormal field
    rw [if_neg (by omega), mantissa, exponent, ← sign, ← fraction, ← scale]
    rfl

end Bits

theorem compareEqual {u v : UnpackedFloat} (equal : u.compare v = some .eq) :
    u = v ∧ u ≠ .notANumber ∨ ∃ sign sign', u = .zero sign ∧ v = .zero sign' := by
  cases u with
  | notANumber => cases equal
  | infinity s =>
    cases v with
    | infinity t => cases s <;> cases t <;> first | exact .inl ⟨rfl, nofun⟩ | cases equal
    | _ => cases s <;> cases equal
  | zero s =>
    cases v with
    | zero t => exact .inr ⟨s, t, rfl, rfl⟩
    | notANumber => cases equal
    | _ t => cases t <;> cases equal
  | finite s m e some =>
    cases v with
    | finite t m' e' some' =>
      have alike (same : (compare e e').then (compare m m') = .eq) : e = e' ∧ m = m' := by
        obtain ⟨exponents, mantissas⟩ := Ordering.then_eq_eq.mp same
        exact ⟨compare_eq_iff_eq.mp exponents, compare_eq_iff_eq.mp mantissas⟩
      cases s <;> cases t
      · obtain ⟨rfl, rfl⟩ := alike (Ordering.swap_eq_eq.mp (Option.some.inj equal))
        exact .inl ⟨rfl, nofun⟩
      · cases equal
      · cases equal
      · obtain ⟨rfl, rfl⟩ := alike (Option.some.inj equal)
        exact .inl ⟨rfl, nofun⟩
    | notANumber => cases equal
    | infinity t => cases t <;> cases equal
    | zero t => cases s <;> cases equal

theorem compareSelf {u : UnpackedFloat} (number : u ≠ .notANumber) : u.compare u = some .eq := by
  cases u with
  | notANumber => exact absurd rfl number
  | infinity s => cases s <;> rfl
  | zero s => rfl
  | finite s m e some =>
    have same : (compare e e).then (compare m m) = .eq :=
      Ordering.then_eq_eq.mpr ⟨compare_eq_iff_eq.mpr rfl, compare_eq_iff_eq.mpr rfl⟩
    cases s
    · exact congrArg (fun o : Ordering => Option.some o.swap) same
    · exact congrArg Option.some same

theorem floatEq {x y : Float} : (x == y) = true ↔
    x.toModel.unpack = y.toModel.unpack ∧ x.toModel.unpack ≠ .notANumber ∨
      ∃ sign sign', x.toModel.unpack = .zero sign ∧ y.toModel.unpack = .zero sign' := by
  change (x.toModel.unpack.compare y.toModel.unpack == some .eq) = true ↔ _
  generalize x.toModel.unpack = u, y.toModel.unpack = v
  rw [beq_iff_eq]
  refine ⟨compareEqual, ?_⟩
  rintro (⟨rfl, number⟩ | ⟨sign, sign', rfl, rfl⟩)
  · exact compareSelf number
  · rfl

theorem floatShape (x : Float) : Shape x.toBits.toNat x.toModel.unpack := unpackShape x.toBits.toBitVec

theorem floatSame {x y : Float} (same : (x == y) = true) : Value.integerOf x = Value.integerOf y := by
  rw [(floatShape x).integerOf, (floatShape y).integerOf]
  rcases floatEq.mp same with ⟨same, _⟩ | ⟨sign, sign', zero, zero'⟩
  · rw [same]
  · rw [zero, zero']
    rfl

theorem finiteAmount {sign : Sign} {m : Nat} {e n : Int} {some : 0 < m}
    (amount : integer? (.finite sign m e some) = .some n) :
    ∃ k : Nat, whole? m e = .some k ∧ 0 < k ∧ sign.apply k = n := by
  obtain ⟨k, found, signed⟩ := Option.map_eq_some_iff.mp amount
  refine ⟨k, found, ?_, signed⟩
  unfold whole? at found
  split at found
  · cases found
    exact Nat.mul_pos some (Nat.two_pow_pos _)
  · split at found
    next exact =>
      cases found
      exact Nat.div_pos (Nat.le_of_dvd some (Nat.dvd_of_mod_eq_zero exact)) (Nat.two_pow_pos _)
    next => cases found

theorem signedSame {sign sign' : Sign} {k k' : Nat} (_ : 0 < k) (_ : 0 < k')
    (same : sign.apply k = sign'.apply k') : sign = sign' ∧ k = k' := by
  cases sign <;> cases sign' <;> simp [Sign.apply] at same ⊢ <;> omega

theorem integersSame {x y : Float} {n : Int} (left : Value.integerOf x = some n)
    (right : Value.integerOf y = some n) : (x == y) = true := by
  have shape := floatShape x
  have shape' := floatShape y
  rw [shape.integerOf] at left
  rw [shape'.integerOf] at right
  rw [floatEq]
  generalize x.toModel.unpack = u at shape left
  generalize y.toModel.unpack = v at shape' right
  have zero {sign sign' : Sign} {m : Nat} {e : Int} {some : 0 < m} (none : integer? (.zero sign) = .some n)
      (amount : integer? (.finite sign' m e some) = .some n) : False := by
    obtain ⟨k, _, positive, signed⟩ := finiteAmount amount
    cases none
    cases sign' <;> simp [Sign.apply] at signed <;> omega
  cases u with
  | infinity => cases left
  | notANumber => cases left
  | zero sign =>
    cases v with
    | infinity => cases right
    | notANumber => cases right
    | zero sign' => exact .inr ⟨sign, sign', rfl, rfl⟩
    | finite => exact (zero left right).elim
  | finite sign m e some =>
    cases v with
    | infinity => cases right
    | notANumber => cases right
    | zero => exact (zero right left).elim
    | finite sign' m' e' some' =>
      obtain ⟨k, found, positive, signed⟩ := finiteAmount left
      obtain ⟨k', found', positive', signed'⟩ := finiteAmount right
      obtain ⟨rfl, rfl⟩ := signedSame positive positive' (signed.trans signed'.symm)
      obtain ⟨rfl, rfl⟩ := canonicalSame shape.canonical shape'.canonical found found'
      exact .inl ⟨rfl, nofun⟩

end Amount

end EntityForge
