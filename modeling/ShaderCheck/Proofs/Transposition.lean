import ShaderCheck.Proofs.Arithmetic

/-!
Arithmetic as linear algebra. A product has the rows of its left side and the columns of its right side, and to transpose
it is to multiply the transposed sides in the other order. The types of arithmetic respect that for every operator: with
matrices transposed and the operands swapped, as much is reported, and the result is transposed too. So no rule can
mistake rows for columns without a rule for the mirrored operands that makes the same mistake, and the shapes of products
rule that out as well.
-/

namespace ShaderCheck

inductive Extent where
  | scalar
  | vector (dimension : Nat)
  | matrix (rows columns : Nat)
  deriving DecidableEq

namespace Extent

/-- The extent with rows and columns swapped. Vectors stand for rows and columns alike. -/
def transpose : Extent → Extent
  | .matrix rows columns => .matrix columns rows
  | extent => extent

inductive Product : Extent → Extent → Extent → Prop where
  /-- A scalar is multiplied into each number. -/
  | scaled (extent : Extent) : Product .scalar extent extent
  | scaledBy (extent : Extent) : Product extent .scalar extent
  /-- Two vectors are multiplied component by component. -/
  | components (n : Nat) : Product (.vector n) (.vector n) (.vector n)
  | matrices (r c k : Nat) : Product (.matrix r c) (.matrix c k) (.matrix r k)
  /-- On the right of a matrix a vector is a column, and so is the product. -/
  | column (r c : Nat) : Product (.matrix r c) (.vector c) (.vector r)
  /-- On the left of a matrix a vector is a row, and so is the product. -/
  | row (c k : Nat) : Product (.vector c) (.matrix c k) (.vector k)

end Extent

namespace Ty

def extent? : Ty → Option Extent
  | .numeric _ => some .scalar
  | .vector dimension _ => some (.vector dimension)
  | .matrix rows columns _ => some (.matrix rows columns)
  | _ => none

def transpose : Ty → Ty
  | .matrix rows columns element => .matrix columns rows element
  | ty => ty

theorem extent?_common {a b : Ty} {extent : Extent} (left : a.extent? = some extent) (right : b.extent? = some extent) :
    (a.common b).extent? = some extent := by
  unfold common
  split
  · exact right
  · exact left

theorem ne_invalid_of_extent? {ty : Ty} {extent : Extent} (known : ty.extent? = some extent) : ty ≠ .invalid := by
  rintro rfl
  cases known

theorem transpose_ne_invalid {ty : Ty} (valid : ty ≠ .invalid) : ty.transpose ≠ .invalid := by
  cases ty with
  | invalid => exact absurd rfl valid
  | _ => exact nofun

theorem shape_transpose_other {ty : Ty} (strange : ty.shape = .other) : ty.transpose.shape = .other := by
  cases ty with
  | matrix => cases strange
  | _ => exact strange

inductive IsOperand : Ty → Prop where
  | scalar (kind : NumericKind) : IsOperand (.numeric kind)
  | vector (dimension : Nat) (kind : NumericKind) : IsOperand (.vector dimension (.numeric kind))
  | matrix (rows columns : Nat) (element : Ty) : IsOperand (.matrix rows columns element)

theorem isOperand_of_shape {ty : Ty} (known : ty.shape ≠ .other) : ty.IsOperand := by
  unfold Ty.shape at known
  split at known
  · exact .scalar _
  · exact .vector _ _
  · exact .matrix _ _ _
  · exact absurd rfl known

end Ty

/-- Two verdicts that mirror each other. Both have no result, with as many problems, or their results are transposes of
each other and both or none have a problem. -/
inductive Verdict.Mirrors : Verdict → Verdict → Prop where
  | unknown : Mirrors ⟨.invalid, []⟩ ⟨.invalid, []⟩
  | refused (problem problem' : Cause) : Mirrors ⟨.invalid, [problem]⟩ ⟨.invalid, [problem']⟩
  | shaped (fits : Bool) (problem problem' : Cause) {ty ty' : Ty} (extent : Extent) (here : ty.extent? = some extent)
      (there : ty'.extent? = some extent.transpose) :
      Mirrors (.expecting fits problem ty) (.expecting fits problem' ty')

namespace ArithmeticOp

variable {op : ArithmeticOp} {a b : Ty}

theorem resultType_of_invalid (op : ArithmeticOp) (invalid : a = .invalid ∨ b = .invalid) :
    op.resultType a b = ⟨.invalid, []⟩ := by
  rcases invalid with rfl | rfl
  · rfl
  · simp [resultType, Ty.isInvalid]

/-- Operands that are no numbers are refused whatever they are combined with. -/
theorem resultType_of_strange (op : ArithmeticOp) (first : a ≠ .invalid) (second : b ≠ .invalid)
    (strange : a.shape = .other ∨ b.shape = .other) :
    op.resultType a b = ⟨.invalid, [.nonNumericOperands op.token a b]⟩ := by
  unfold resultType
  simp only [Ty.isInvalid_eq_false first, Ty.isInvalid_eq_false second, Bool.or_self, Bool.false_eq_true, if_false]
  rcases strange with shape | shape
  · rw [shape]
  · rw [shape]
    split <;> simp_all

theorem applyType_mirrors (op : ArithmeticOp) {length dimension : Nat} {entry element result result' : Ty}
    {mismatch mismatch' : Cause} (extent : Extent) (here : result.extent? = some extent)
    (there : result'.extent? = some extent.transpose) :
    (op.applyType length dimension entry element result mismatch).Mirrors
      (op.applyType length dimension entry element result' mismatch') := by
  unfold applyType
  split
  · exact .shaped _ _ _ extent here there
  · exact .refused _ _

theorem resultType_scalars_mirrors (op : ArithmeticOp) (x y : NumericKind) :
    (op.resultType (.numeric x) (.numeric y)).Mirrors (op.resultType (.numeric y) (.numeric x)) := by
  simp only [resultType, Ty.isInvalid, Ty.shape, Bool.or_self, Bool.false_eq_true, if_false]
  rw [Ty.mutuallyCasts_comm]
  apply Verdict.Mirrors.shaped _ _ _ .scalar
  · exact Ty.extent?_common rfl rfl
  · exact Ty.extent?_common rfl rfl

theorem resultType_vectors_mirrors (op : ArithmeticOp) (m n : Nat) (x y : NumericKind) :
    (op.resultType (.vector m (.numeric x)) (.vector n (.numeric y))).Mirrors
      (op.resultType (.vector n (.numeric y)) (.vector m (.numeric x))) := by
  simp only [resultType, Ty.isInvalid, Ty.shape, Bool.or_self, Bool.false_eq_true, if_false]
  by_cases same : m = n
  · subst same
    rw [if_pos rfl, if_pos rfl, Ty.mutuallyCasts_comm]
    apply Verdict.Mirrors.shaped _ _ _ (.vector m)
    · exact Ty.extent?_common rfl rfl
    · exact Ty.extent?_common rfl rfl
  · rw [if_neg same, if_neg (Ne.symm same)]
    exact .refused _ _

/-- Two matrices fit exactly if their transposes do in the other order. -/
theorem matrixType?_mirrors (op : ArithmeticOp) (r₁ c₁ r₂ c₂ : Nat) (a b : Ty) :
    (op.matrixType? r₁ c₁ r₂ c₂ a = none ∧ op.matrixType? c₂ r₂ c₁ r₁ b = none) ∨
      ∃ r c, op.matrixType? r₁ c₁ r₂ c₂ a = some (.matrix r c a) ∧
        op.matrixType? c₂ r₂ c₁ r₁ b = some (.matrix c r b) := by
  cases op with
  | plus | minus =>
    by_cases fits : r₁ = r₂ ∧ c₁ = c₂
    · rcases fits with ⟨rfl, rfl⟩
      exact .inr ⟨r₁, c₁, by simp [matrixType?], by simp [matrixType?]⟩
    · have mirrored : ¬ (c₂ = c₁ ∧ r₂ = r₁) := by omega
      exact .inl ⟨if_neg fits, if_neg mirrored⟩
  | multiply =>
    by_cases fits : c₁ = r₂
    · exact .inr ⟨r₁, c₂, if_pos fits, if_pos fits.symm⟩
    · exact .inl ⟨if_neg fits, if_neg (Ne.symm fits)⟩
  | divide | modulo => exact .inl ⟨rfl, rfl⟩

theorem resultType_matrices_mirrors (op : ArithmeticOp) (r₁ c₁ r₂ c₂ : Nat) (a b : Ty) :
    (op.resultType (.matrix r₁ c₁ a) (.matrix r₂ c₂ b)).Mirrors
      (op.resultType (.matrix c₂ r₂ b) (.matrix c₁ r₁ a)) := by
  simp only [resultType, Ty.isInvalid, Ty.shape, Bool.or_self, Bool.false_eq_true, if_false]
  rcases op.matrixType?_mirrors r₁ c₁ r₂ c₂ a b with ⟨here, there⟩ | ⟨r, c, here, there⟩
  · rw [here, there]
    exact .refused _ _
  · rw [here, there, Ty.mutuallyCasts_comm]
    exact .shaped _ _ _ (.matrix r c) rfl rfl

theorem resultType_mirrors_of_valid (op : ArithmeticOp) (first : a ≠ .invalid) (second : b ≠ .invalid) :
    (op.resultType a b).Mirrors (op.resultType b.transpose a.transpose) := by
  by_cases strange : a.shape = .other ∨ b.shape = .other
  · have mirrored : b.transpose.shape = .other ∨ a.transpose.shape = .other :=
      strange.symm.imp Ty.shape_transpose_other Ty.shape_transpose_other
    rw [resultType_of_strange op first second strange,
      resultType_of_strange op (Ty.transpose_ne_invalid second) (Ty.transpose_ne_invalid first) mirrored]
    exact .refused _ _
  · rw [not_or] at strange
    cases Ty.isOperand_of_shape strange.1 with
    | scalar x =>
      cases Ty.isOperand_of_shape strange.2 with
      | scalar y => exact op.resultType_scalars_mirrors x y
      | vector n y => exact .shaped _ _ _ (.vector n) rfl rfl
      | matrix r c element => exact .shaped _ _ _ (.matrix r c) rfl rfl
    | vector m x =>
      cases Ty.isOperand_of_shape strange.2 with
      | scalar y => exact .shaped _ _ _ (.vector m) rfl rfl
      | vector n y => exact op.resultType_vectors_mirrors m n x y
      | matrix r c element => exact op.applyType_mirrors (.vector c) rfl rfl
    | matrix r c element =>
      cases Ty.isOperand_of_shape strange.2 with
      | scalar y => exact .shaped _ _ _ (.matrix r c) rfl rfl
      | vector n y => exact op.applyType_mirrors (.vector r) rfl rfl
      | matrix r' c' element' => exact op.resultType_matrices_mirrors r c r' c' element element'

/-- Transposed operands in the other order get a verdict that mirrors the one they had. -/
theorem resultType_mirrors (op : ArithmeticOp) (a b : Ty) :
    (op.resultType a b).Mirrors (op.resultType b.transpose a.transpose) := by
  by_cases invalid : a = .invalid ∨ b = .invalid
  · have mirrored : b.transpose = .invalid ∨ a.transpose = .invalid :=
      invalid.symm.imp (congrArg Ty.transpose) (congrArg Ty.transpose)
    rw [op.resultType_of_invalid invalid, op.resultType_of_invalid mirrored]
    exact .unknown
  · rw [not_or] at invalid
    exact op.resultType_mirrors_of_valid invalid.1 invalid.2

/-- The rules for products are those of linear algebra. -/
theorem Combines.extent_product {result : Ty} (combines : multiply.Combines a b result) :
    ∃ left right extent, a.extent? = some left ∧ b.extent? = some right ∧ result.extent? = some extent
      ∧ left.Product right extent := by
  cases combines with
  | scalars => exact ⟨_, _, _, rfl, rfl, Ty.extent?_common rfl rfl, .scaled .scalar⟩
  | scalarVector n => exact ⟨_, _, _, rfl, rfl, rfl, .scaled (.vector n)⟩
  | vectorScalar n => exact ⟨_, _, _, rfl, rfl, rfl, .scaledBy (.vector n)⟩
  | vectors n => exact ⟨_, _, _, rfl, rfl, Ty.extent?_common rfl rfl, .components n⟩
  | scalarMatrix => exact ⟨_, _, _, rfl, rfl, rfl, .scaled _⟩
  | matrixScalar => exact ⟨_, _, _, rfl, rfl, rfl, .scaledBy _⟩
  | matrixVector => exact ⟨_, _, _, rfl, rfl, rfl, .column _ _⟩
  | vectorMatrix => exact ⟨_, _, _, rfl, rfl, rfl, .row _ _⟩
  | product => exact ⟨_, _, _, rfl, rfl, rfl, .matrices _ _ _⟩
  | matrices sum => rcases sum with sum | sum <;> cases sum

end ArithmeticOp

namespace Verdict.Mirrors

variable {verdict mirrored : Verdict}

theorem length_eq (mirrors : verdict.Mirrors mirrored) : mirrored.problems.length = verdict.problems.length := by
  cases mirrors with
  | unknown | refused => rfl
  | shaped fits => cases fits <;> rfl

theorem length_le (mirrors : verdict.Mirrors mirrored) : verdict.problems.length ≤ 1 := by
  cases mirrors with
  | unknown => exact Nat.zero_le 1
  | refused => exact Nat.le_refl 1
  | shaped fits =>
    cases fits with
    | true => exact Nat.zero_le 1
    | false => exact Nat.le_refl 1

theorem results (mirrors : verdict.Mirrors mirrored) :
    (verdict.ty = .invalid ∧ mirrored.ty = .invalid) ∨
      ∃ extent, verdict.ty.extent? = some extent ∧ mirrored.ty.extent? = some extent.transpose := by
  cases mirrors with
  | unknown | refused => exact .inl ⟨rfl, rfl⟩
  | shaped fits problem problem' extent here there =>
    right
    cases fits with
    | true => exact ⟨extent, here, there⟩
    | false => exact ⟨extent, here, there⟩

theorem invalid_iff (mirrors : verdict.Mirrors mirrored) : mirrored.ty = .invalid ↔ verdict.ty = .invalid := by
  rcases mirrors.results with ⟨missing, missing'⟩ | ⟨extent, here, there⟩
  · exact iff_of_true missing' missing
  · exact iff_of_false (Ty.ne_invalid_of_extent? there) (Ty.ne_invalid_of_extent? here)

end Verdict.Mirrors

namespace ArithmeticOp

/-- Arithmetic reports at most one thing, nothing if an operand is invalid, and something if a result is missing though
both operands are valid. It reports as much if the operands are swapped and their matrices transposed, and then it has a
result in the same cases, the transposed one. The extent of a product that nothing is reported about is the one of linear
algebra. -/
theorem resultType_transpose (op : ArithmeticOp) (a b : Ty) :
    let verdict := op.resultType a b
    let mirrored := op.resultType b.transpose a.transpose
    verdict.problems.length ≤ 1
    ∧ (a = .invalid ∨ b = .invalid → verdict.problems = [])
    ∧ mirrored.problems.length = verdict.problems.length
    ∧ (mirrored.ty = .invalid ↔ verdict.ty = .invalid)
    ∧ (verdict.ty ≠ .invalid →
      ∃ extent, verdict.ty.extent? = some extent ∧ mirrored.ty.extent? = some extent.transpose)
    ∧ (a ≠ .invalid → b ≠ .invalid → verdict.ty = .invalid → verdict.problems.length = 1)
    ∧ (op = .multiply → a ≠ .invalid → b ≠ .invalid → verdict.problems = [] →
      ∃ left right extent, a.extent? = some left ∧ b.extent? = some right ∧ verdict.ty.extent? = some extent
        ∧ left.Product right extent) := by
  intro verdict mirrored
  have mirrors : verdict.Mirrors mirrored := op.resultType_mirrors a b
  refine ⟨mirrors.length_le, ?_, mirrors.length_eq, mirrors.invalid_iff, ?_, ?_, ?_⟩
  · intro invalid
    exact congrArg Verdict.problems (op.resultType_of_invalid invalid)
  · intro valid
    exact mirrors.results.resolve_left fun missing => valid missing.1
  · intro first second missing
    have reported : verdict.problems ≠ [] := fun quiet => (op.combines_of_quiet first second quiet).ne_invalid missing
    have some := List.length_pos_of_ne_nil reported
    have most := mirrors.length_le
    omega
  · intro product first second quiet
    subst product
    exact (combines_of_quiet multiply first second quiet).extent_product

/-- A matrix of two rows and three columns takes a vector of three on its right, and one of two on its left. -/
example :
    let matrix := Ty.matrix 2 3 .f32
    (multiply.resultType matrix (.vector 3 .f32)).ty = .vector 2 .f32
    ∧ (multiply.resultType (.vector 3 .f32) matrix.transpose).ty = .vector 2 .f32
    ∧ (multiply.resultType (.vector 3 .f32) matrix).problems.length = 1 := by
  decide

end ArithmeticOp

end ShaderCheck
