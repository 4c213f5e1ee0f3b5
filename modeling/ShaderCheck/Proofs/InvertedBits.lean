import Mathlib.Data.Int.ModEq
import ShaderCheck.Proofs.FoldedRanges

/-!
Words with all their bits inverted. Inverting the bits of a word turns the range of its kind around: the least number
and the greatest one change places, and so do all that are as far from the two ends. A known number is kept in 64 bits
whatever its type, so it is first cut down to the width of the type. What is left of it there is the one number of the
type that differs from it by a multiple of two to that width, and turning the range around once more gives it back.
-/

namespace ShaderCheck

namespace NumericKind

def least (kind : NumericKind) : Int := if kind.isSigned then -2 ^ (kind.width - 1) else 0

def greatest (kind : NumericKind) : Int := kind.least + 2 ^ kind.width - 1

/-- What is left of a number in the width of a kind. -/
def wrap (kind : NumericKind) (number : Int) : Int := kind.least + (number - kind.least) % 2 ^ kind.width

/-- A number of a kind has the bits of another number, as far as the width of the kind goes. -/
def Keeps (kind : NumericKind) (number rest : Int) : Prop :=
  Literal.fits kind rest = true ∧ rest ≡ number [ZMOD 2 ^ kind.width]

variable {kind : NumericKind} {number rest : Int}

theorem fits_iff (whole : kind.isInteger = true) :
    Literal.fits kind number = true ↔ kind.least ≤ number ∧ number ≤ kind.greatest := by
  cases kind with
  | i32 | u32 | abstractInt =>
    simp [Literal.fits, greatest, least, isSigned, width]
    omega
  | abstractFloat | f16 | f32 => cases whole

theorem fits_wrap (whole : kind.isInteger = true) (number : Int) : Literal.fits kind (kind.wrap number) = true := by
  have positive : 0 < (2 : Int) ^ kind.width := Int.pow_pos (by decide)
  have low := Int.emod_nonneg (number - kind.least) positive.ne'
  have high := Int.emod_lt_of_pos (number - kind.least) positive
  rw [fits_iff whole, wrap, greatest]
  omega

theorem wrap_modEq (kind : NumericKind) (number : Int) : kind.wrap number ≡ number [ZMOD 2 ^ kind.width] := by
  calc kind.least + (number - kind.least) % 2 ^ kind.width
      ≡ kind.least + (number - kind.least) [ZMOD 2 ^ kind.width] := (Int.mod_modEq _ _).add_left _
    _ = number := add_sub_cancel _ _

theorem wrap_of_fits (whole : kind.isInteger = true) (fits : Literal.fits kind number = true) :
    kind.wrap number = number := by
  rw [fits_iff whole, greatest] at fits
  rw [wrap, Int.emod_eq_of_lt (by omega) (by omega), add_sub_cancel]

/-- There is exactly one such number. -/
theorem keeps_iff (whole : kind.isInteger = true) : kind.Keeps number rest ↔ rest = kind.wrap number := by
  constructor
  · rintro ⟨fits, same⟩
    have remainders : (rest - kind.least) % 2 ^ kind.width = (number - kind.least) % 2 ^ kind.width := same.sub_right _
    rw [← wrap_of_fits whole fits, wrap, remainders, wrap]
  · rintro rfl
    exact ⟨fits_wrap whole number, kind.wrap_modEq number⟩

theorem fits_turned (whole : kind.isInteger = true) (fits : Literal.fits kind number = true) :
    Literal.fits kind (kind.least + kind.greatest - number) = true := by
  rw [fits_iff whole] at fits ⊢
  omega

end NumericKind

section Words

open NumericKind

theorem toInt_not32 (word : Int32) : (~~~word).toInt = -1 - word.toInt := by
  have low := word.le_toInt
  have high := word.toInt_lt
  rw [Int32.toInt_not, Int.bmod_eq_of_le] <;> omega

theorem toInt_not64 (word : Int64) : (~~~word).toInt = -1 - word.toInt := by
  have low := word.le_toInt
  have high := word.toInt_lt
  rw [Int64.toInt_not, Int.bmod_eq_of_le] <;> omega

theorem wrap_i32 (word : Int64) : NumericKind.i32.wrap word.toInt = word.toInt32.toInt := by
  have low := word.toInt32.le_toInt
  have high := word.toInt32.toInt_lt
  symm
  rw [← keeps_iff rfl]
  constructor
  · simp only [Literal.fits, Bool.and_eq_true, decide_eq_true_eq]
    omega
  · rw [Int64.toInt_toInt32]
    exact Int.bmod_emod

theorem wrap_u32 (word : Int64) : NumericKind.u32.wrap word.toInt = word.toUInt64.toUInt32.toNat := by
  have lower : word.toUInt64.toUInt32.toNat = word.toBitVec.toNat % 2 ^ 32 := UInt64.toNat_toUInt32 _
  have unsigned : word.toInt % 2 ^ 64 = word.toBitVec.toNat % 2 ^ 64 := by
    change word.toBitVec.toInt % (2 ^ 64 : Nat) = _
    rw [BitVec.toInt_eq_toNat_bmod, Int.bmod_emod]
    rfl
  change 0 + (word.toInt - 0) % 2 ^ 32 = _
  omega

theorem wrap_abstractInt (word : Int64) : NumericKind.abstractInt.wrap word.toInt = word.toInt := by
  have low := word.le_toInt
  have high := word.toInt_lt
  apply wrap_of_fits rfl
  simp only [Literal.fits, Bool.and_eq_true, decide_eq_true_eq]
  omega

end Words

namespace Constant

open NumericKind

variable {kind : NumericKind}

def number? (value : Constant) : Option Int := value.integer?.map Int64.toInt

/-- The bits of a word are inverted by turning the range of its kind around. -/
theorem invertBits?_wrap (whole : kind.isInteger = true) (word : Int64) :
    ∃ inverse, invertBits? kind word = some inverse
      ∧ inverse.toInt = kind.least + kind.greatest - kind.wrap word.toInt := by
  cases kind with
  | i32 =>
    refine ⟨_, rfl, ?_⟩
    rw [Int32.toInt_toInt64, toInt_not32, wrap_i32]
    rfl
  | u32 =>
    refine ⟨_, rfl, ?_⟩
    have small := word.toUInt64.toUInt32.toNat_lt
    rw [toInt_toInt64_toUInt64, UInt32.toNat_not, wrap_u32]
    change ((2 ^ 32 - 1 - word.toUInt64.toUInt32.toNat : Nat) : Int) = 2 ^ 32 - 1 - word.toUInt64.toUInt32.toNat
    omega
  | abstractInt =>
    refine ⟨_, rfl, ?_⟩
    rw [toInt_not64, wrap_abstractInt]
    rfl
  | abstractFloat | f16 | f32 => cases whole

/-- Inverting bits gives a number of the kind, and doing so again gives back what the kind keeps. -/
theorem bitNot?_twice (whole : kind.isInteger = true) (word : Int64) :
    ∃ inverse rest, bitNot? kind (.integer word) = some (.integer inverse)
      ∧ inverse.toInt = kind.least + kind.greatest - kind.wrap word.toInt
      ∧ Literal.fits kind inverse.toInt = true
      ∧ bitNot? kind (.integer inverse) = some (.integer rest)
      ∧ rest.toInt = kind.wrap word.toInt := by
  obtain ⟨inverse, inverted, turned⟩ := invertBits?_wrap whole word
  obtain ⟨rest, restored, same⟩ := invertBits?_wrap whole inverse
  have fits : Literal.fits kind inverse.toInt = true := by
    rw [turned]
    exact fits_turned whole (fits_wrap whole word.toInt)
  rw [wrap_of_fits whole fits, turned, sub_sub_cancel] at same
  exact ⟨inverse, rest, congrArg (Option.map integer) inverted, turned, fits,
    congrArg (Option.map integer) restored, same⟩

/-- Bits are inverted exactly in two's complement, within the width of the kind. -/
theorem bitNot?_exact (word : Int64) :
    (∃ rest, (∀ other, (-2 ^ 31 ≤ other ∧ other < 2 ^ 31) ∧ other ≡ word.toInt [ZMOD 2 ^ 32] ↔ other = rest)
      ∧ (bitNot? .i32 (.integer word)).bind number? = some (-1 - rest))
    ∧ (bitNot? .u32 (.integer word)).bind number? = some (2 ^ 32 - 1 - word.toInt % 2 ^ 32)
    ∧ (bitNot? .abstractInt (.integer word)).bind number? = some (-1 - word.toInt)
    ∧ ∀ kind : NumericKind, kind.isInteger = true →
      ∃ inverse rest, bitNot? kind (.integer word) = some (.integer inverse)
        ∧ Literal.fits kind inverse.toInt = true
        ∧ bitNot? kind (.integer inverse) = some (.integer rest)
        ∧ (∀ other, kind.Keeps word.toInt other ↔ other = rest.toInt)
        ∧ (Literal.fits kind word.toInt = true → rest = word) := by
  have once {kind : NumericKind} (whole : kind.isInteger = true) :
      (bitNot? kind (.integer word)).bind number? = some (kind.least + kind.greatest - kind.wrap word.toInt) := by
    obtain ⟨inverse, _, inverted, turned, -⟩ := bitNot?_twice whole word
    rw [inverted, ← turned]
    rfl
  refine ⟨⟨_, fun other => ?_, once rfl⟩, ?_, ?_, fun kind whole => ?_⟩
  · rw [← keeps_iff rfl]
    simp [Keeps, Literal.fits, width]
  · have cut : NumericKind.u32.wrap word.toInt = word.toInt % 2 ^ 32 := by simp [wrap, least, isSigned, width]
    rw [once rfl, cut]
    rfl
  · rw [once rfl, wrap_abstractInt]
    rfl
  · obtain ⟨inverse, rest, inverted, -, fits, restored, same⟩ := bitNot?_twice whole word
    refine ⟨inverse, rest, inverted, fits, restored, fun other => ?_, fun held => ?_⟩
    · rw [same, keeps_iff whole]
    · rw [← Int64.toInt_inj, same, wrap_of_fits whole held]

/-- A number that no type of 32 bits has room for is cut down before its bits are inverted. -/
theorem bitNot?_exact_wide :
    (bitNot? .i32 (.integer 0x1_8000_0005)).bind number? = some 0x7fff_fffa
    ∧ (bitNot? .u32 (.integer 0x1_8000_0005)).bind number? = some 0x7fff_fffa
    ∧ (bitNot? .abstractInt (.integer 0x1_8000_0005)).bind number? = some (-0x1_8000_0006)
    ∧ ∃ inverse rest, bitNot? .i32 (.integer 0x1_8000_0005) = some (.integer inverse)
      ∧ bitNot? .i32 (.integer inverse) = some (.integer rest) ∧ rest.toInt = -0x7fff_fffb := by
  obtain ⟨⟨rest, only, signed⟩, unsigned, abstract, twice⟩ := bitNot?_exact 0x1_8000_0005
  obtain ⟨inverse, back, inverted, -, restored, kept, -⟩ := twice .i32 rfl
  have cut : -0x7fff_fffb = rest := (only _).mp (by decide)
  have again : -0x7fff_fffb = back.toInt := (kept _).mp ⟨rfl, by decide⟩
  exact ⟨by rw [signed, ← cut]; rfl, unsigned, abstract, inverse, back, inverted, restored, again.symm⟩

end Constant

end ShaderCheck
