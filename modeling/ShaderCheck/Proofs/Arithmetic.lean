import ShaderCheck.Proofs.WellFormedTypes

/-!
The rules of arithmetic. Operands are combined without a report exactly by the rules of `Combines`, one for each pair of
shapes that go together.

The rules agree on the shape of a result, but not on where its numbers come from: from the wider operand between two
scalars or two vectors, from the vector next to a scalar, and from the left of two matrices. A result therefore has room
for the numbers of both operands unless the operand that it takes after is too narrow for the other.
-/

namespace ShaderCheck

namespace Ty

def entryType : Ty → Ty
  | .vector _ element => element
  | .matrix _ _ element => element
  | ty => ty

theorem Casts.entryType {a b : Ty} (cast : Casts a b) : Casts a.entryType b.entryType := by
  cases cast with
  | vector _ elements => exact elements
  | matrix _ _ elements => exact elements
  | void => exact .void
  | bool => exact .bool
  | string => exact .string
  | numeric kinds => exact .numeric kinds
  | pointer s t same => exact .pointer s t same
  | enumeration n a b => exact .enumeration n a b
  | struct n xs ys => exact .struct n xs ys

theorem Casts.ne_invalid {a b : Ty} (cast : Casts a b) : b ≠ .invalid := by
  rintro rfl
  cases cast

theorem mutuallyCasts_vector {a b : Ty} (n : Nat) (related : a.mutuallyCasts b = true) :
    (Ty.vector n a).mutuallyCasts (.vector n b) = true := by
  rcases mutuallyCasts_iff.mp related with cast | cast
  · exact mutuallyCasts_iff.mpr (.inl (.vector n cast))
  · exact mutuallyCasts_iff.mpr (.inr (.vector n cast))

/-- A type that is compared with another for a cast either way casts into itself. -/
theorem casts_self_of_mutuallyCasts {a b : Ty} (related : a.mutuallyCasts b = true) : Casts a a ∧ Casts b b := by
  rcases mutuallyCasts_iff.mp related with cast | cast
  · exact cast.self
  · exact cast.self.symm

theorem shape_scalar {ty : Ty} (shape : ty.shape = .scalar) : ∃ kind, ty = .numeric kind := by
  unfold Ty.shape at shape
  split at shape <;> simp_all

theorem shape_vector {ty element : Ty} {dimension : Nat} (shape : ty.shape = .vector dimension element) :
    ty = .vector dimension element ∧ ∃ kind, element = .numeric kind := by
  unfold Ty.shape at shape
  split at shape
  case h_2 dimension' kind =>
    cases shape
    exact ⟨rfl, kind, rfl⟩
  all_goals cases shape

theorem isInvalid_eq_false {ty : Ty} (valid : ty ≠ .invalid) : ty.isInvalid = false := by
  cases ty with
  | invalid => exact absurd rfl valid
  | _ => rfl

/-- Whether two operands give a result that is too narrow for one of them. A vector is kept next to a wider scalar, and
the left of two matrices next to a wider one. -/
def narrows (left right : Ty) : Bool :=
  match left.shape, right.shape with
  | .scalar, .vector _ element => !left.castsTo element
  | .vector _ element, .scalar => !right.castsTo element
  | .matrix _ _ a, .matrix _ _ b => !b.castsTo a
  | _, _ => false

end Ty

namespace Verdict

def Gives (verdict : Verdict) (post : Ty → Prop) : Prop := verdict.problems = [] → post verdict.ty

theorem Gives.expecting {condition : Bool} {problem : Cause} {ty : Ty} {post : Ty → Prop}
    (holds : condition = true → post ty) : (Verdict.expecting condition problem ty).Gives post := by
  intro quiet
  cases condition with
  | true => exact holds rfl
  | false => cases quiet

theorem Gives.of_problem {ty : Ty} {problem : Cause} {problems : List Cause} {post : Ty → Prop} :
    (Verdict.mk ty (problem :: problems)).Gives post :=
  nofun

end Verdict

open Verdict

namespace ArithmeticOp

/-- The rules by which two operands go together, with the type of the result. -/
inductive Combines : ArithmeticOp → Ty → Ty → Ty → Prop where
  | scalars {op : ArithmeticOp} {a b : NumericKind}
      (related : (Ty.numeric a).mutuallyCasts (.numeric b) = true) :
      Combines op (.numeric a) (.numeric b) ((Ty.numeric a).common (.numeric b))
  | scalarVector {op : ArithmeticOp} {a b : NumericKind} (n : Nat)
      (related : (Ty.numeric a).mutuallyCasts (.numeric b) = true) :
      Combines op (.numeric a) (.vector n (.numeric b)) (.vector n (.numeric b))
  | vectorScalar {op : ArithmeticOp} {a b : NumericKind} (n : Nat)
      (related : (Ty.numeric b).mutuallyCasts (.numeric a) = true) :
      Combines op (.vector n (.numeric a)) (.numeric b) (.vector n (.numeric a))
  | vectors {op : ArithmeticOp} {a b : NumericKind} (n : Nat)
      (related : (Ty.numeric a).mutuallyCasts (.numeric b) = true) :
      Combines op (.vector n (.numeric a)) (.vector n (.numeric b))
        ((Ty.vector n (.numeric a)).common (.vector n (.numeric b)))
  | scalarMatrix {a : NumericKind} {r c : Nat} {element : Ty} (cast : (Ty.numeric a).castsTo element = true) :
      Combines .multiply (.numeric a) (.matrix r c element) (.matrix r c element)
  | matrixScalar {b : NumericKind} {r c : Nat} {element : Ty} (cast : (Ty.numeric b).castsTo element = true) :
      Combines .multiply (.matrix r c element) (.numeric b) (.matrix r c element)
  | matrixVector {b : NumericKind} {r c : Nat} {element : Ty} (cast : (Ty.numeric b).castsTo element = true) :
      Combines .multiply (.matrix r c element) (.vector c (.numeric b)) (.vector r element)
  | vectorMatrix {a : NumericKind} {r c : Nat} {element : Ty} (cast : (Ty.numeric a).castsTo element = true) :
      Combines .multiply (.vector r (.numeric a)) (.matrix r c element) (.vector c element)
  | matrices {op : ArithmeticOp} {r c : Nat} {a b : Ty} (sum : op = .plus ∨ op = .minus)
      (related : a.mutuallyCasts b = true) : Combines op (.matrix r c a) (.matrix r c b) (.matrix r c a)
  | product {r n c : Nat} {a b : Ty} (related : a.mutuallyCasts b = true) :
      Combines .multiply (.matrix r n a) (.matrix n c b) (.matrix r c a)

variable {op : ArithmeticOp} {left right result : Ty}

theorem scaleType_gives {scalar element matrix : Ty} {mismatch : Cause} {post : Ty → Prop}
    (holds : op = .multiply → scalar.castsTo element = true → post matrix) :
    (op.scaleType scalar element matrix mismatch).Gives post := by
  apply Gives.expecting
  intro scales
  rw [Bool.and_eq_true, decide_eq_true_iff] at scales
  exact holds scales.1 scales.2

theorem applyType_gives {length dimension : Nat} {entry element : Ty} {mismatch : Cause} {post : Ty → Prop}
    (holds : op = .multiply → length = dimension → entry.castsTo element = true → post result) :
    (op.applyType length dimension entry element result mismatch).Gives post := by
  unfold applyType
  split
  case isTrue fits => exact .expecting fun cast => holds fits.1 fits.2 cast
  case isFalse => exact .of_problem

theorem combines_of_matrixType? {r₁ c₁ r₂ c₂ : Nat} {a b : Ty} (found : op.matrixType? r₁ c₁ r₂ c₂ a = some result)
    (related : a.mutuallyCasts b = true) : op.Combines (.matrix r₁ c₁ a) (.matrix r₂ c₂ b) result := by
  cases op with
  | plus =>
    rcases Option.ite_none_right_eq_some.mp found with ⟨⟨rfl, rfl⟩, ⟨⟩⟩
    exact .matrices (.inl rfl) related
  | minus =>
    rcases Option.ite_none_right_eq_some.mp found with ⟨⟨rfl, rfl⟩, ⟨⟩⟩
    exact .matrices (.inr rfl) related
  | multiply =>
    rcases Option.ite_none_right_eq_some.mp found with ⟨rfl, ⟨⟩⟩
    exact .product related
  | divide | modulo => cases found

/-- Where nothing is reported, one of the rules was followed. -/
theorem combines_of_quiet (op : ArithmeticOp) (first : left ≠ .invalid) (second : right ≠ .invalid) :
    (op.resultType left right).Gives (op.Combines left right) := by
  unfold resultType
  simp only [Ty.isInvalid_eq_false first, Ty.isInvalid_eq_false second, Bool.or_self, Bool.false_eq_true, if_false]
  split
  case h_1 scalar other =>
    rcases Ty.shape_scalar scalar with ⟨a, rfl⟩
    rcases Ty.shape_scalar other with ⟨b, rfl⟩
    exact .expecting .scalars
  case h_2 scalar vector =>
    rcases Ty.shape_scalar scalar with ⟨a, rfl⟩
    rcases Ty.shape_vector vector with ⟨rfl, b, rfl⟩
    exact .expecting (.scalarVector _)
  case h_3 vector scalar =>
    rcases Ty.shape_vector vector with ⟨rfl, a, rfl⟩
    rcases Ty.shape_scalar scalar with ⟨b, rfl⟩
    exact .expecting (.vectorScalar _)
  case h_4 scalar matrix =>
    rcases Ty.shape_scalar scalar with ⟨a, rfl⟩
    rcases Ty.shape_matrix matrix with rfl
    apply scaleType_gives
    rintro rfl cast
    exact .scalarMatrix cast
  case h_5 matrix scalar =>
    rcases Ty.shape_matrix matrix with rfl
    rcases Ty.shape_scalar scalar with ⟨b, rfl⟩
    apply scaleType_gives
    rintro rfl cast
    exact .matrixScalar cast
  case h_6 vector other =>
    rcases Ty.shape_vector vector with ⟨rfl, a, rfl⟩
    rcases Ty.shape_vector other with ⟨rfl, b, rfl⟩
    split
    case isTrue same =>
      subst same
      exact .expecting (.vectors _)
    case isFalse => exact .of_problem
  case h_7 matrix vector =>
    rcases Ty.shape_matrix matrix with rfl
    rcases Ty.shape_vector vector with ⟨rfl, b, rfl⟩
    apply applyType_gives
    rintro rfl rfl cast
    exact .matrixVector cast
  case h_8 vector matrix =>
    rcases Ty.shape_vector vector with ⟨rfl, a, rfl⟩
    rcases Ty.shape_matrix matrix with rfl
    apply applyType_gives
    rintro rfl rfl cast
    exact .vectorMatrix cast
  case h_9 matrix other =>
    rcases Ty.shape_matrix matrix with rfl
    rcases Ty.shape_matrix other with rfl
    split
    case h_1 found => exact .expecting (combines_of_matrixType? found)
    case h_2 => exact .of_problem
  case h_10 => exact .of_problem

theorem Combines.resultType_eq (combines : op.Combines left right result) :
    op.resultType left right = ⟨result, []⟩ := by
  cases combines with
  | scalars related | scalarVector n related | vectorScalar n related | vectors n related | product related =>
    simp [resultType, Ty.isInvalid, Ty.shape, Verdict.expecting, matrixType?, related]
  | scalarMatrix cast | matrixScalar cast | matrixVector cast | vectorMatrix cast =>
    simp [resultType, Ty.isInvalid, Ty.shape, scaleType, applyType, Verdict.expecting, cast]
  | matrices sum related =>
    rcases sum with rfl | rfl <;>
      simp [resultType, Ty.isInvalid, Ty.shape, Verdict.expecting, matrixType?, related]

/-- Nothing is reported exactly where a rule leads to the result. -/
theorem resultType_quiet_iff (op : ArithmeticOp) (first : left ≠ .invalid) (second : right ≠ .invalid) :
    (op.resultType left right).problems = [] ↔ op.Combines left right (op.resultType left right).ty := by
  constructor
  · exact combines_of_quiet op first second
  · intro combines
    rw [combines.resultType_eq]

theorem Combines.ne_invalid (combines : op.Combines left right result) : result ≠ .invalid := by
  cases combines with
  | scalars related => exact (Ty.casts_common related).1.ne_invalid
  | vectors n related => exact (Ty.casts_common (Ty.mutuallyCasts_vector n related)).1.ne_invalid
  | _ => exact nofun

/-- What a rule takes from both operands fits into the result, unless the rule narrows. -/
theorem Combines.casts_entryType_iff (combines : op.Combines left right result) :
    (left.entryType.Casts result.entryType ∧ right.entryType.Casts result.entryType) ↔
      left.narrows right = false := by
  cases combines with
  | scalars related =>
    have wider := Ty.casts_common related
    exact iff_of_true ⟨wider.1.entryType, wider.2.entryType⟩ rfl
  | vectors n related =>
    have wider := Ty.casts_common (Ty.mutuallyCasts_vector n related)
    exact iff_of_true ⟨wider.1.entryType, wider.2.entryType⟩ rfl
  | scalarMatrix cast | vectorMatrix cast =>
    have casts := Ty.castsTo_iff.mp cast
    exact iff_of_true ⟨casts, casts.self.2⟩ rfl
  | matrixScalar cast | matrixVector cast =>
    have casts := Ty.castsTo_iff.mp cast
    exact iff_of_true ⟨casts.self.2, casts⟩ rfl
  -- In the other rules one operand keeps its numbers, and it all hangs on the other one.
  | scalarVector n related =>
    have kept := (Ty.casts_self_of_mutuallyCasts related).2
    simp [Ty.narrows, Ty.shape, Ty.entryType, kept, Ty.castsTo_iff]
  | vectorScalar n related =>
    have kept := (Ty.casts_self_of_mutuallyCasts related).2
    simp [Ty.narrows, Ty.shape, Ty.entryType, kept, Ty.castsTo_iff]
  | matrices _ related | product related =>
    have kept := (Ty.casts_self_of_mutuallyCasts related).1
    simp [Ty.narrows, Ty.shape, Ty.entryType, kept, Ty.castsTo_iff]

/-- Arithmetic that reports nothing has a result, and the result has room for the numbers of both operands exactly if
the operands are not such that one of them narrows the other. -/
theorem resultType_widens_iff (op : ArithmeticOp) {left right : Ty} (first : left ≠ .invalid)
    (second : right ≠ .invalid) (quiet : (op.resultType left right).problems = []) :
    (op.resultType left right).ty ≠ .invalid ∧
      ((left.entryType.castsTo (op.resultType left right).ty.entryType = true ∧
          right.entryType.castsTo (op.resultType left right).ty.entryType = true) ↔
        left.narrows right = false) := by
  have combines := (resultType_quiet_iff op first second).mp quiet
  rw [Ty.castsTo_iff, Ty.castsTo_iff]
  exact ⟨combines.ne_invalid, combines.casts_entryType_iff⟩

/-- A product of matrices is as wide as its left side, here the wider one. -/
theorem matrix_product_widens :
    (multiply.resultType (.matrix 2 3 .f32) (.matrix 3 4 .f16)).problems = [] ∧
      Ty.f32.castsTo (multiply.resultType (.matrix 2 3 .f32) (.matrix 3 4 .f16)).ty.entryType = true ∧
      Ty.f16.castsTo (multiply.resultType (.matrix 2 3 .f32) (.matrix 3 4 .f16)).ty.entryType = true := by
  have quiet : (multiply.resultType (.matrix 2 3 .f32) (.matrix 3 4 .f16)).problems = [] := by decide
  have roomy := (resultType_widens_iff multiply (by decide) (by decide) quiet).2
  exact ⟨quiet, roomy.mpr (by decide)⟩

/-- Well-formed operands narrow each other without a report: a vector keeps its small numbers next to a scalar, and a
matrix next to the matrix that is added to it. -/
theorem resultType_drops_width :
    (Ty.WellFormed .f32 ∧ Ty.WellFormed (.vector 3 .f16) ∧
      plus.resultType .f32 (.vector 3 .f16) = ⟨.vector 3 .f16, []⟩) ∧
    (Ty.WellFormed (.matrix 2 2 .f16) ∧ Ty.WellFormed (.matrix 2 2 .f32) ∧
      plus.resultType (.matrix 2 2 .f16) (.matrix 2 2 .f32) = ⟨.matrix 2 2 .f16, []⟩) ∧
    Ty.f32.castsTo .f16 = false := by
  have vector : Ty.WellFormed (.vector 3 .f16) := .vector (by decide) (.inr ⟨.f16, rfl⟩)
  have narrow : Ty.WellFormed (.matrix 2 2 .f16) := .matrix (by decide) (by decide) (.inl rfl)
  have wide : Ty.WellFormed (.matrix 2 2 .f32) := .matrix (by decide) (by decide) (.inr rfl)
  exact ⟨⟨.numeric .f32, vector, by decide⟩, ⟨narrow, wide, by decide⟩, by decide⟩

end ArithmeticOp

end ShaderCheck
