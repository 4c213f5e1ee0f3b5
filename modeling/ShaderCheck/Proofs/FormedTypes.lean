import ShaderCheck.Proofs.Traversal
import ShaderCheck.Proofs.Whole

/-!
How the types of a document are formed, whatever is reported about it. A written type is made of concrete numbers and of
the structs and enums that are registered under their names. A value has such a type, or is a bare number that may be
abstract; what is stored is never abstract.
-/

namespace ShaderCheck

open Noted

namespace Ty

/-- A type as a document can write it. Structs and enums are the ones that their names stand for. -/
inductive Formed (symbols : Symbols) : Ty → Prop where
  | invalid : Formed symbols .invalid
  | void : Formed symbols .void
  | bool : Formed symbols .bool
  | string : Formed symbols .string
  | numeric {kind : NumericKind} (concrete : kind.isConcrete = true) : Formed symbols (.numeric kind)
  | vector {dimension : Nat} {element : Ty} (size : 2 ≤ dimension ∧ dimension ≤ 4)
      (holds : element.isVectorElement = true) (inner : Formed symbols element) :
      Formed symbols (.vector dimension element)
  | matrix {rows columns : Nat} {element : Ty} (height : 2 ≤ rows ∧ rows ≤ 4) (width : 2 ≤ columns ∧ columns ≤ 4)
      (holds : element.isMatrixElement = true) (inner : Formed symbols element) :
      Formed symbols (.matrix rows columns element)
  | pointer {referent : Ty} (space : AddressSpace) (valid : referent ≠ .invalid) (inner : Formed symbols referent) :
      Formed symbols (.pointer referent space)
  | enumeration {name : String} {underlying : Ty} {members : List (String × Constant)}
      (registered : symbols.enumeration? name = some ⟨name, underlying, members⟩)
      (values : underlying = .i32 ∨ underlying = .string) : Formed symbols (.enumeration name underlying)
  | struct {name : String} {members : List (String × Ty)} (registered : symbols.struct? name = some ⟨name, members⟩)
      (inner : ∀ member ∈ members, Formed symbols member.2) : Formed symbols (.struct name members)

/-- A type that a value can have: one that can be written, or that of a bare number. -/
def Arises (symbols : Symbols) (ty : Ty) : Prop := ty.Formed symbols ∨ ∃ kind, ty = .numeric kind

variable {symbols : Symbols} {ty : Ty}

theorem Formed.arises (formed : ty.Formed symbols) : ty.Arises symbols := .inl formed

theorem Arises.common {a b : Ty} (left : a.Arises symbols) (right : b.Arises symbols) :
    (a.common b).Arises symbols := by
  unfold Ty.common
  split
  · exact right
  · exact left

theorem concretize_numeric {kind : NumericKind} (concrete : kind.isConcrete = true) :
    (Ty.numeric kind).concretize = .numeric kind := by
  cases kind with
  | abstractInt | abstractFloat => cases concrete
  | i32 | u32 | f16 | f32 => rfl

/-- A type that can be written holds no number that lacks a format. -/
theorem Formed.concretize_eq (formed : ty.Formed symbols) : ty.concretize = ty := by
  induction formed with
  | numeric concrete => exact concretize_numeric concrete
  | vector _ _ _ ih => rw [Ty.concretize, ih]
  | matrix _ _ _ _ ih => rw [Ty.concretize, ih]
  | invalid | void | bool | string | pointer | enumeration | struct => rfl

theorem Arises.concretize (arises : ty.Arises symbols) : ty.concretize.Formed symbols := by
  obtain formed | ⟨kind, rfl⟩ := arises
  · rw [formed.concretize_eq]
    exact formed
  · exact .numeric (by cases kind <;> rfl)

theorem isVectorElement_of_isMatrixElement (holds : ty.isMatrixElement = true) : ty.isVectorElement = true := by
  cases ty with
  | numeric => rfl
  | _ => cases holds

/-- What has parts can be written. -/
theorem Arises.formed (arises : ty.Arises symbols) (composite : ∀ kind, ty ≠ .numeric kind) : ty.Formed symbols :=
  arises.resolve_right fun ⟨kind, same⟩ => composite kind same

theorem Formed.isSolid (formed : ty.Formed symbols) (valid : ty ≠ .invalid) : ty.isSolid = true := by
  induction formed with
  | invalid => exact absurd rfl valid
  | @vector _ element _ holds _ ih => exact ih (by rintro rfl; cases holds)
  | @matrix _ _ element _ _ holds _ ih => exact ih (by rintro rfl; cases holds)
  | pointer _ known _ ih => exact ih known
  | void | bool | string | numeric | enumeration | struct => rfl

/-- Types by one name are the same, because both are the one that is registered under it. -/
theorem Formed.eq_of_equals {a b : Ty} (first : a.Formed symbols) (second : b.Formed symbols)
    (same : a.equals b = true) : a = b := by
  induction first generalizing b with
  | @vector _ _ _ _ _ ih | @pointer _ _ _ _ ih =>
    cases second <;> simp only [equals, Bool.and_eq_true, beq_iff_eq, Bool.false_eq_true] at same
    rw [same.1, ih (by assumption) same.2]
  | @matrix _ _ _ _ _ _ _ ih =>
    cases second <;> simp only [equals, Bool.and_eq_true, beq_iff_eq, Bool.false_eq_true] at same
    rw [same.1.1, same.1.2, ih (by assumption) same.2]
  | enumeration registered =>
    cases second <;> simp only [equals, beq_iff_eq, Bool.false_eq_true] at same
    case enumeration registered' _ =>
      subst same
      cases registered.symm.trans registered'
      rfl
  | struct registered =>
    cases second <;> simp only [equals, beq_iff_eq, Bool.false_eq_true] at same
    case struct registered' _ =>
      subst same
      cases registered.symm.trans registered'
      rfl
  | numeric =>
    cases second <;> simp only [equals, beq_iff_eq, Bool.false_eq_true] at same
    rw [same]
  | invalid | void | bool | string => cases second <;> simp_all [equals]

/-- Among the types that values have, types are equal exactly if they are valid and built alike. -/
theorem Arises.equals_iff {a b : Ty} (first : a.Arises symbols) (second : b.Arises symbols) :
    a.equals b = true ↔ a ≠ .invalid ∧ b ≠ .invalid ∧ a = b := by
  constructor
  · intro same
    have valid : a ≠ .invalid := by
      rintro rfl
      cases same
    have alike : a = b := by
      obtain formed | ⟨kind, rfl⟩ := first
      · obtain formed' | ⟨kind, rfl⟩ := second
        · exact formed.eq_of_equals formed' same
        · cases a <;> simp_all [equals]
      · cases b <;> simp_all [equals]
    exact ⟨valid, alike ▸ valid, alike⟩
  · rintro ⟨valid, -, rfl⟩
    rw [equals_self_iff]
    obtain formed | ⟨kind, rfl⟩ := first
    · exact formed.isSolid valid
    · rfl

end Ty

namespace Symbols

structure Grows (symbols more : Symbols) : Prop where
  enums : ∀ {name enumeration}, symbols.enumeration? name = some enumeration → more.enumeration? name = some enumeration
  structs : ∀ {name layout}, symbols.struct? name = some layout → more.struct? name = some layout

end Symbols

theorem Ty.Formed.mono {symbols more : Symbols} (grows : symbols.Grows more) {ty : Ty} (formed : ty.Formed symbols) :
    ty.Formed more := by
  induction formed with
  | invalid => exact .invalid
  | void => exact .void
  | bool => exact .bool
  | string => exact .string
  | numeric concrete => exact .numeric concrete
  | vector size holds _ ih => exact .vector size holds ih
  | matrix height width holds _ ih => exact .matrix height width holds ih
  | pointer space valid _ ih => exact .pointer space valid ih
  | enumeration registered values => exact .enumeration (grows.enums registered) values
  | struct registered _ ih => exact .struct (grows.structs registered) ih

theorem Ty.Arises.mono {symbols more : Symbols} (grows : symbols.Grows more) {ty : Ty} (arises : ty.Arises symbols) :
    ty.Arises more :=
  arises.imp_left (.mono grows)

section Operators

variable {symbols : Symbols} {left right : Ty}

@[simp] theorem Verdict.ty_expecting (condition : Bool) (problem : Cause) (ty : Ty) :
    (Verdict.expecting condition problem ty).ty = ty := by
  cases condition <;> rfl

theorem Ty.Arises.of_matrix {ty element : Ty} {rows columns : Nat} (arises : ty.Arises symbols)
    (shape : ty.shape = .matrix rows columns element) : (Ty.matrix rows columns element).Formed symbols := by
  rw [Ty.shape_matrix shape] at arises
  exact arises.formed nofun

/-- The rows or the columns of a matrix are vectors. -/
theorem Ty.Formed.vector_of_matrix {rows columns : Nat} {element : Ty}
    (formed : (Ty.matrix rows columns element).Formed symbols) :
    (Ty.vector rows element).Formed symbols ∧ (Ty.vector columns element).Formed symbols := by
  cases formed with
  | matrix height width holds inner =>
    have element := Ty.isVectorElement_of_isMatrixElement holds
    exact ⟨.vector height element inner, .vector width element inner⟩

theorem ArithmeticOp.applyType_arises {op : ArithmeticOp} {length dimension : Nat} {entry element result : Ty}
    {mismatch : Cause} (formed : result.Formed symbols) :
    (op.applyType length dimension entry element result mismatch).ty.Arises symbols := by
  unfold ArithmeticOp.applyType
  split
  · rw [Verdict.ty_expecting]
    exact formed.arises
  · exact .inl .invalid

theorem ArithmeticOp.matrixType?_formed {op : ArithmeticOp} {r₁ c₁ r₂ c₂ : Nat} {a b ty : Ty}
    (found : op.matrixType? r₁ c₁ r₂ c₂ a = some ty) (first : (Ty.matrix r₁ c₁ a).Formed symbols)
    (second : (Ty.matrix r₂ c₂ b).Formed symbols) : ty.Formed symbols := by
  cases op with
  | plus | minus =>
    obtain ⟨-, ⟨⟩⟩ := Option.ite_none_right_eq_some.mp found
    exact first
  | multiply =>
    obtain ⟨-, ⟨⟩⟩ := Option.ite_none_right_eq_some.mp found
    cases first with
    | matrix height _ holds inner =>
      cases second with
      | matrix _ width => exact .matrix height width holds inner
  | divide | modulo => cases found

theorem ArithmeticOp.resultType_arises (op : ArithmeticOp) (first : left.Arises symbols)
    (second : right.Arises symbols) : (op.resultType left right).ty.Arises symbols := by
  unfold ArithmeticOp.resultType
  split
  case isTrue => exact .inl .invalid
  case isFalse =>
    split
    case h_1 =>
      rw [Verdict.ty_expecting]
      exact first.common second
    case h_2 | h_4 =>
      simp only [ArithmeticOp.scaleType, Verdict.ty_expecting]
      exact second
    case h_3 | h_5 =>
      simp only [ArithmeticOp.scaleType, Verdict.ty_expecting]
      exact first
    case h_6 =>
      split
      · rw [Verdict.ty_expecting]
        exact first.common second
      · exact .inl .invalid
    case h_7 matrix vector => exact applyType_arises (first.of_matrix matrix).vector_of_matrix.1
    case h_8 vector matrix => exact applyType_arises (second.of_matrix matrix).vector_of_matrix.2
    case h_9 matrix other =>
      split
      case h_1 ty found =>
        rw [Verdict.ty_expecting]
        exact (matrixType?_formed found (first.of_matrix matrix) (second.of_matrix other)).arises
      case h_2 => exact .inl .invalid
    case h_10 => exact .inl .invalid

theorem BitwiseOp.resultType_arises (op : BitwiseOp) (stored : Bool) (first : left.Arises symbols)
    (second : right.Arises symbols) : (op.resultType left stored right).ty.Arises symbols := by
  unfold BitwiseOp.resultType
  split
  · exact .inl .invalid
  · dsimp only
    split
    · exact .inl .invalid
    · split
      · exact .inl .invalid
      · split
        · exact first
        · rw [Verdict.ty_expecting]
          exact first.common second

theorem ComparisonOp.resultType_arises (op : ComparisonOp) (first : left.Arises symbols) (right : Ty) :
    (op.resultType left right).ty.Arises symbols := by
  unfold ComparisonOp.resultType
  cases left with
  | vector dimension element =>
    cases first.formed nofun with
    | vector size => exact .inl (.vector size rfl .bool)
  | _ => exact .inl .bool

end Operators

def HeaderType.Formed (symbols : Symbols) (type : HeaderType) : Prop := ∀ ty, type = .concrete ty → ty.Formed symbols

structure Header.Formed (symbols : Symbols) (header : Header) : Prop where
  parameters : ∀ parameter ∈ header.parameters, parameter.type.Formed symbols
  returns : header.returns.Formed symbols

/-- Every type that a symbol brings with it can be written, and structs and enums are found under their names. -/
structure Symbols.Formed (symbols : Symbols) : Prop where
  aliases : ∀ entry ∈ symbols.aliases, entry.2.Formed symbols
  enums : ∀ enumeration ∈ symbols.enums, enumeration.ty.Formed symbols
  structs : ∀ layout ∈ symbols.structs, layout.ty.Formed symbols
  functions : ∀ function ∈ symbols.functions, ∀ header ∈ function.headers, header.Formed symbols

theorem Symbols.Formed.type? {symbols : Symbols} (formed : symbols.Formed) {name : String} {ty : Ty}
    (found : symbols.type? name = some ty) : ty.Formed symbols := by
  obtain aliased | ⟨enumeration, declared, rfl⟩ | ⟨layout, declared, rfl⟩ := mem_of_type? found
  · exact formed.aliases _ aliased
  · exact formed.enums enumeration declared
  · exact formed.structs layout declared

def TypeFormer.Sized : TypeFormer → Prop
  | .vector dimension => 2 ≤ dimension ∧ dimension ≤ 4
  | .matrix rows columns => (2 ≤ rows ∧ rows ≤ 4) ∧ 2 ≤ columns ∧ columns ≤ 4
  | .pointer => True

namespace TypeHead

theorem size?_sized {c : Char} {size : Nat} (found : size? c = some size) : 2 ≤ size ∧ size ≤ 4 := by
  unfold size? at found
  split at found <;> cases found <;> decide

theorem matrix?_sized {chars : List Char} {former : TypeFormer} (found : matrix? chars = some former) :
    former.Sized := by
  unfold matrix? at found
  split at found
  case h_1 c r =>
    obtain ⟨columns, wide, found⟩ := Option.bind_eq_some_iff.mp found
    obtain ⟨rows, tall, ⟨⟩⟩ := Option.bind_eq_some_iff.mp found
    exact ⟨size?_sized tall, size?_sized wide⟩
  case h_2 => cases found

theorem ofName?_sized {name : String} {former : TypeFormer} (head : ofName? name = some (.former former)) :
    former.Sized := by
  unfold ofName? at head
  split at head
  case h_12 =>
    obtain ⟨_, found, ⟨⟩⟩ := Option.map_eq_some_iff.mp head
    exact matrix?_sized found
  case h_11 =>
    cases head
    trivial
  all_goals cases head <;> exact ⟨by decide, by decide⟩

theorem ofName?_formed {symbols : Symbols} {name : String} {ty : Ty} (head : ofName? name = some (.plain ty)) :
    ty.Formed symbols := by
  unfold ofName? at head
  split at head
  case h_12 => simp at head
  all_goals cases head <;> constructor <;> rfl

end TypeHead

namespace TypeRef

variable {symbols : Symbols}

theorem resolveName_formed (formed : symbols.Formed) (node : NodeRef) (name : String) (bare : Bool) :
    (resolveName symbols node name bare).value.Formed symbols := by
  unfold resolveName
  split
  case h_1 => exact .invalid
  case h_2 ty found =>
    split
    · exact formed.type? found
    · exact .invalid

theorem apply_formed (node : NodeRef) {former : TypeFormer} (sized : former.Sized) {argument : Ty}
    (formed : argument.Formed symbols) : (former.apply node argument).value.Formed symbols := by
  unfold TypeFormer.apply
  split
  case h_1 => exact .invalid
  case h_2 =>
    split
    case isTrue holds => exact .vector sized holds formed
    case isFalse => exact .invalid
  case h_3 =>
    split
    case isTrue holds => exact .matrix sized.1 sized.2 holds formed
    case isFalse => exact .invalid
  case h_4 valid => exact .pointer .function valid formed

/-- What a written type stands for can be written. -/
theorem resolve_formed (formed : symbols.Formed) : (ref : TypeRef) → (ref.resolve symbols).value.Formed symbols
  | .mk range name arguments => by
    unfold resolve
    split
    case h_1 => exact resolveName_formed formed _ _ _
    case h_2 ty head =>
      split
      · exact TypeHead.ofName?_formed head
      · exact .invalid
    case h_3 former head =>
      match arguments with
      | [argument] => exact apply_formed _ (TypeHead.ofName?_sized head) (resolve_formed formed argument)
      | [] => exact .invalid
      | _ :: _ :: _ => exact .invalid
termination_by structural ref => ref

theorem resolveAll_formed (formed : symbols.Formed) (refs : List TypeRef) :
    ∀ ty ∈ (resolveAll symbols refs).value, ty.Formed symbols := by
  induction refs with
  | nil => nofun
  | cons ref rest ih => exact List.forall_mem_cons.mpr ⟨ref.resolve_formed formed, ih⟩

theorem resolveInHeader_formed (formed : symbols.Formed) (generics : List Generic) (ref : TypeRef) :
    (ref.resolveInHeader symbols generics).value.Formed symbols := by
  unfold resolveInHeader
  split
  · exact nofun
  · rintro _ ⟨⟩
    exact ref.resolve_formed formed

end TypeRef

/-- The value of an expression has a type that can arise, and one that can be written if it is stored. -/
structure Facts.Formed (symbols : Symbols) (facts : Facts) : Prop where
  arises : facts.ty.Arises symbols
  stored : facts.storage = true → facts.ty.Formed symbols

namespace Facts.Formed

variable {symbols : Symbols}

theorem computed {ty : Ty} {constness : Constness} (arises : ty.Arises symbols) :
    (Facts.computed ty constness).Formed symbols :=
  ⟨arises, nofun⟩

theorem unresolved : Facts.unresolved.Formed symbols := .computed (.inl .invalid)

theorem of_formed {facts : Facts} (formed : facts.ty.Formed symbols) : facts.Formed symbols :=
  ⟨formed.arises, fun _ => formed⟩

end Facts.Formed

structure Binding.Formed (symbols : Symbols) (binding : Binding) : Prop where
  arises : binding.ty.Arises symbols
  stored : binding.constness = .variable → binding.ty.Formed symbols

structure Env.Formed (env : Env) : Prop where
  bindings : ∀ scope ∈ env.scopes, ∀ binding ∈ scope.bindings, binding.Formed env.symbols
  symbols : env.symbols.Formed

theorem Env.Formed.lookup? {env : Env} (formed : env.Formed) {name : String} {binding : Binding}
    (found : env.lookup? name = some binding) : binding.Formed env.symbols := by
  obtain ⟨scope, member, held⟩ := Env.mem_of_lookup? found
  exact formed.bindings scope member binding held

namespace Overload

variable {symbols : Symbols} {header : Header} {arguments : List Argument} {explicit : List Ty}

theorem Binds.arises {name : String} {ty : Ty} (binds : Binds header arguments explicit name ty)
    (passed : ∀ argument ∈ arguments, argument.ty.Arises symbols) (written : ∀ ty ∈ explicit, ty.Formed symbols) :
    ty.Arises symbols := by
  obtain ⟨before, after, split, -⟩ | ⟨-, widest⟩ := binds
  · have member : (name, ty) ∈ (header.generics.map (·.name)).zip explicit := by
      rw [split]
      exact List.mem_append_right before List.mem_cons_self
    exact (written ty (List.of_mem_zip member).2).arises
  · obtain ⟨pair, member, -, rfl⟩ := mem_passedFor.mp widest.mem
    exact passed pair.2 (List.of_mem_zip member).2

theorem StandsFor.arises {type : HeaderType} {ty : Ty} (stands : StandsFor header arguments explicit type ty)
    (declared : type.Formed symbols) (passed : ∀ argument ∈ arguments, argument.ty.Arises symbols)
    (written : ∀ ty ∈ explicit, ty.Formed symbols) : ty.Arises symbols := by
  cases stands with
  | concrete => exact (declared ty rfl).arises
  | generic bound => exact bound.arises passed written

theorem inSpaceOf_arises {ty : Ty} (arises : ty.Arises symbols) (argument : Argument) :
    (inSpaceOf ty argument).Arises symbols := by
  unfold inSpaceOf
  split
  case h_1 | h_2 =>
    cases arises.formed nofun with
    | pointer _ valid inner => exact .inl (.pointer _ valid inner)
  case h_3 => exact arises

end Overload

def CallTarget.types (target : CallTarget) : List Ty := target.parameters ++ target.generics.map (·.2)

namespace Expr

open Overload

variable {env : Env} {symbols : Symbols}

theorem checkBinary_formed (family : OperatorFamily) (node : NodeRef) (token : String) {left right : Facts}
    (first : left.Formed symbols) (second : right.Formed symbols) :
    (checkBinary family node token left right).value.2.Formed symbols := by
  cases family with
  | arithmetic => exact .computed (ArithmeticOp.resultType_arises _ first.arises second.arises)
  | bitwise => exact .computed (BitwiseOp.resultType_arises _ _ first.arises second.arises)
  | comparison =>
    let op := (operatorOr node "comparison" token (ComparisonOp.ofToken? token) .equal).value
    exact .computed (op.resultType_arises first.arises right.ty)
  | logical => exact .computed (.inl .bool)

theorem checkAddressOf_formed (node : NodeRef) {operand : Facts} (formed : operand.Formed symbols) :
    (checkAddressOf node operand).value.Formed symbols := by
  unfold checkAddressOf
  split
  case isTrue => exact .unresolved
  case isFalse valid =>
    split
    case isTrue => exact .unresolved
    case isFalse stored =>
      split
      case isTrue => exact .unresolved
      case isFalse =>
        refine .computed (.inl (.pointer _ ?_ (formed.stored (by simpa using stored))))
        intro invalid
        simp [invalid, Ty.isInvalid] at valid

theorem checkDereference_formed (node : NodeRef) {operand : Facts} (formed : operand.Formed symbols) :
    (checkDereference node operand).value.Formed symbols := by
  unfold checkDereference
  split
  case h_1 referent space pointer =>
    have arises := formed.arises
    rw [pointer] at arises
    cases arises.formed nofun with
    | pointer _ _ inner => exact .of_formed inner
  case h_2 | h_3 => exact .unresolved

theorem checkReference_formed (formed : env.Formed) (node : NodeRef) (name : String) :
    (checkReference env node name).value.Formed env.symbols := by
  unfold checkReference
  split
  case h_1 binding found =>
    have held := formed.lookup? found
    exact ⟨held.arises, fun stored => held.stored (of_decide_eq_true stored)⟩
  case h_2 =>
    split
    case h_1 enumeration found => exact .of_formed (formed.symbols.enums enumeration (List.mem_of_find?_eq_some found))
    case h_2 => exact .unresolved

theorem checkLiteral_formed (node : NodeRef) (text : String) : (checkLiteral node text).value.Formed symbols := by
  unfold checkLiteral
  split
  case h_1 value ty read =>
    refine ⟨?_, nofun⟩
    cases Literal.read?_simple read with
    | bool => exact .inl .bool
    | string => exact .inl .string
    | numeric kind => exact .inr ⟨kind, rfl⟩
  case h_2 => exact .computed (.inl .invalid)

theorem checkIndex_formed (node : NodeRef) {value : Facts} (index : Facts) (formed : value.Formed symbols) :
    (checkIndex node value index).value.Formed symbols := by
  have arises := formed.arises
  unfold checkIndex
  rw [value_bind]
  split
  case h_1 => exact .unresolved
  case h_2 dimension element vector =>
    rw [vector] at arises
    cases arises.formed nofun with
    | vector _ _ inner => exact .of_formed inner
  case h_3 rows columns element matrix =>
    rw [matrix] at arises
    exact .of_formed (arises.formed nofun).vector_of_matrix.1
  case h_4 => exact .unresolved

theorem swizzle?_size {member : String} {dimension length : Nat} (found : swizzle? member dimension = some length) :
    1 ≤ length ∧ length ≤ 4 := by
  simp only [swizzle?] at found
  split at found
  case isTrue => cases found
  case isFalse fits =>
    obtain ⟨-, ⟨⟩⟩ := Option.ite_none_right_eq_some.mp found
    simp only [Bool.or_eq_true, List.isEmpty_iff, decide_eq_true_eq, not_or, gt_iff_lt, Nat.not_lt] at fits
    exact ⟨List.length_pos_iff.mpr fits.1, fits.2⟩

theorem checkMember_formed (node : NodeRef) {value : Facts} (member : String) (formed : value.Formed symbols) :
    (checkMember env node value member).value.Formed symbols := by
  have arises := formed.arises
  unfold checkMember
  split
  case h_1 => exact .unresolved
  case h_2 name members struct =>
    rw [struct] at arises
    cases arises.formed nofun with
    | struct _ inner =>
      split
      case h_1 ty found => exact .of_formed (inner _ (mem_of_lookup_eq_some found))
      case h_2 => exact .unresolved
  case h_3 dimension element vector =>
    rw [vector] at arises
    cases arises.formed nofun with
    | vector _ holds inner =>
      split
      case h_1 => exact .of_formed inner
      case h_2 length several found =>
        obtain ⟨atLeast, atMost⟩ := swizzle?_size found
        have two : 2 ≤ length := Nat.lt_of_le_of_ne atLeast fun one => several one.symm
        exact .computed (.inl (.vector ⟨two, atMost⟩ holds inner))
      case h_3 => exact .unresolved
  case h_4 =>
    split
    · split
      · exact ⟨arises, nofun⟩
      · exact .unresolved
    · exact .unresolved
  case h_5 => exact .unresolved

theorem checkCallOf_formed {function : Function} (declared : ∀ header ∈ function.headers, header.Formed symbols)
    (node : NodeRef) (callee : String) {explicit : List Ty} {arguments : List Facts}
    (written : ∀ ty ∈ explicit, ty.Formed symbols) (passed : ∀ facts ∈ arguments, facts.Formed symbols) :
    let outcome := (checkCallOf function node callee explicit arguments).value
    outcome.2.Formed symbols ∧ ∀ ty ∈ outcome.1.types, ty.Arises symbols := by
  unfold checkCallOf
  split
  case isTrue => exact ⟨.unresolved, nofun⟩
  case isFalse =>
    split
    case h_1 => exact ⟨.unresolved, nofun⟩
    case h_2 resolution resolved =>
      obtain ⟨before, header, after, split, -, filled, -⟩ := resolveFrom_eq_some resolved
      have fills := fills_of_instance? filled
      have types : ∀ argument ∈ arguments.map (fun facts => (⟨facts.ty, facts.space⟩ : Argument)),
          argument.ty.Arises symbols :=
        List.forall_mem_map.mpr fun facts member => (passed facts member).arises
      have formed : header.Formed symbols := declared header (by simp [split])
      have filledIn : ∀ ty ∈ resolution.parameters ++ resolution.generics.map (·.2), ty.Arises symbols := by
        refine List.forall_mem_append.mpr ⟨fun ty member => ?_, List.forall_mem_map.mpr fun entry member => ?_⟩
        · obtain ⟨pair, paired, type, stands, rfl⟩ := exists_of_forall₂ fills.parameters.flip ty member
          have parameter := formed.parameters pair.1 (List.of_mem_zip paired).1
          exact inSpaceOf_arises (stands.arises parameter types written) pair.2
        · exact ((fills.generics entry.1 entry.2).mp member).2.arises types written
      split
      case h_1 ty returned =>
        have returns := fills.returns
        rw [returned] at returns
        cases returns with
        | resolved stands => exact ⟨.computed (stands.arises formed.returns types written), filledIn⟩
      case h_2 => exact ⟨.computed (.inl .invalid), filledIn⟩

theorem checkCall_formed (formed : env.symbols.Formed) (node : NodeRef) (callee : String) (generics : List TypeRef)
    {arguments : List Facts} (passed : ∀ facts ∈ arguments, facts.Formed env.symbols) :
    let outcome := (checkCall env node callee generics arguments).value
    outcome.2.Formed env.symbols ∧ ∀ ty ∈ outcome.1.types, ty.Arises env.symbols := by
  unfold checkCall
  rw [value_bind]
  split
  case h_1 => exact ⟨.unresolved, nofun⟩
  case h_2 function found =>
    exact checkCallOf_formed (formed.functions function (List.mem_of_find?_eq_some found)) node callee
      (TypeRef.resolveAll_formed formed generics) passed

end Expr

structure TypedExpr.Formed (symbols : Symbols) (typed : TypedExpr) : Prop where
  facts : typed.facts.Formed symbols
  target : ∀ {range facts callee target arguments}, typed = .call range facts callee target arguments →
    ∀ ty ∈ target.types, ty.Arises symbols

namespace Expr

variable {env : Env}

mutual

/-- Where everything in force has a type as it can arise, so has every expression. -/
theorem check_formed (formed : env.Formed) : (e : Expr) → (check env e).value.Formed env.symbols
  | .binary family _ left operator right =>
    ⟨checkBinary_formed family _ operator (check_formed formed left).facts (check_formed formed right).facts, nofun⟩
  | .unary _ _ operand => ⟨⟨(check_formed formed operand).facts.arises, nofun⟩, nofun⟩
  | .addressOf _ operand => ⟨checkAddressOf_formed _ (check_formed formed operand).facts, nofun⟩
  | .dereference _ operand => ⟨checkDereference_formed _ (check_formed formed operand).facts, nofun⟩
  | .parenthesized _ inner => ⟨(check_formed formed inner).facts, nofun⟩
  | .reference _ name => ⟨checkReference_formed formed _ name, nofun⟩
  | .literal _ text => ⟨checkLiteral_formed _ text, nofun⟩
  | .call _ callee generics arguments => by
    obtain ⟨facts, types⟩ := checkCall_formed formed.symbols ⟨.call, _⟩ callee generics
      (List.forall_mem_map.mpr fun e member => (checkAll_formed formed arguments e member).facts)
    refine ⟨facts, ?_⟩
    rintro _ _ _ _ _ ⟨⟩
    exact types
  | .index _ value position => ⟨checkIndex_formed _ _ (check_formed formed value).facts, nofun⟩
  | .member _ value name => ⟨checkMember_formed _ name (check_formed formed value).facts, nofun⟩
  | .conversion _ target _ => ⟨.computed (target.resolve_formed formed.symbols).arises, nofun⟩
termination_by structural e => e

theorem checkAll_formed (formed : env.Formed) : (es : List Expr) →
    ∀ typed ∈ (checkAll env es).value, typed.Formed env.symbols
  | [] => nofun
  | e :: rest => List.forall_mem_cons.mpr ⟨check_formed formed e, checkAll_formed formed rest⟩
termination_by structural es => es

end

theorem Checked.formed {allowed : Incident → Prop} {typed : TypedExpr} (checked : Checked allowed env typed)
    (formed : env.Formed) : typed.Formed env.symbols := by
  obtain ⟨e, -, rfl⟩ := checked
  exact check_formed formed e

end Expr

end ShaderCheck
