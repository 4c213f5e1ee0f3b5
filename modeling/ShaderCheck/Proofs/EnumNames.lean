import ShaderCheck.Proofs.Annotation
import ShaderCheck.Proofs.Arithmetic
import ShaderCheck.Proofs.Combining
import ShaderCheck.Proofs.Fading
import ShaderCheck.Proofs.Throughout

/-!
Names of enums. Such a name is a namespace for the members of its enum, but it is checked as a constant of the enum's
type. So it is refused where a value of that type would be, and taken for a value wherever one can stand.

Every expression of a document is used for something. In a document without reports, an expression that names an enum
has a member picked out of it, or it is used as a value in one of a few ways.
-/

namespace ShaderCheck

open Noted Attempt

inductive Role where
  | initializer
  /-- One side of an operator, with a side of the given type across from it. -/
  | side (operator : BinaryOp) (other : Ty)
  /-- What an operator stands before, or what an address is taken of or followed. -/
  | operand
  | argument
  | indexed
  | position
  /-- What a member is picked out of. -/
  | decomposed
  | converted
  | condition
  | selector
  | caseValue
  | target
  /-- What is assigned to a target of the given type. -/
  | assigned (operator : AssignmentOp) (into : Ty)
  | returned
  | called
  deriving DecidableEq

/-- Whether the name of an enum may pass for a value where it is used so. An operator that is not for enums lets it pass
next to something invalid, which silences it. -/
def Role.takesNames : Role → Bool
  | .initializer | .argument | .converted | .returned | .assigned .assign _ => true
  | .side (.comparison op) other => !op.isOrdering || other.isInvalid
  | .side (.arithmetic _) other | .side (.bitwise _) other => other.isInvalid
  | .assigned (.arithmetic _) into | .assigned (.bitwise _) into => into.isInvalid
  | _ => false

theorem Role.takesNames_of_invalid (operator : AssignmentOp) {into : Ty} (invalid : into.isInvalid = true) :
    (Role.assigned operator into).takesNames = true := by
  cases operator <;> simp [takesNames, invalid]

structure Use where
  role : Role
  expression : TypedExpr

/-- If an enum is named, it is for a member, or it may pass for a value. -/
def Use.Passes (use : Use) : Prop :=
  use.expression.facts.enumName = true → use.role = .decomposed ∨ use.role.takesNames = true

namespace TypedExpr

mutual

/-- What an expression and those inside it are used for. What is in parentheses is used for what they are. -/
def uses (role : Role) : TypedExpr → List Use
  | .binary range facts operator left right =>
    ⟨role, .binary range facts operator left right⟩ ::
      (uses (.side operator right.facts.ty) left ++ uses (.side operator left.facts.ty) right)
  | .unary range facts operator operand => ⟨role, .unary range facts operator operand⟩ :: uses .operand operand
  | .addressOf range facts operand => ⟨role, .addressOf range facts operand⟩ :: uses .operand operand
  | .dereference range facts operand => ⟨role, .dereference range facts operand⟩ :: uses .operand operand
  | .parenthesized range facts inner => ⟨role, .parenthesized range facts inner⟩ :: uses role inner
  | .reference range facts name => [⟨role, .reference range facts name⟩]
  | .literal range facts text => [⟨role, .literal range facts text⟩]
  | .call range facts callee target arguments =>
    ⟨role, .call range facts callee target arguments⟩ :: usesOfAll arguments
  | .index range facts value position =>
    ⟨role, .index range facts value position⟩ :: (uses .indexed value ++ uses .position position)
  | .member range facts value name => ⟨role, .member range facts value name⟩ :: uses .decomposed value
  | .conversion range facts operand => ⟨role, .conversion range facts operand⟩ :: uses .converted operand
termination_by structural e => e

def usesOfAll : List TypedExpr → List Use
  | [] => []
  | e :: rest => uses .argument e ++ usesOfAll rest
termination_by structural es => es

end

mutual

/-- Every part of an expression is used for something, and only once. -/
theorem map_expression_uses (role : Role) : (e : TypedExpr) → (e.uses role).map Use.expression = e.nodes
  | .binary _ _ _ left right => by
    rw [uses, nodes, List.map_cons, List.map_append, map_expression_uses _ left, map_expression_uses _ right]
  | .index _ _ value position => by
    rw [uses, nodes, List.map_cons, List.map_append, map_expression_uses _ value, map_expression_uses _ position]
  | .unary _ _ _ inner | .addressOf _ _ inner | .dereference _ _ inner | .parenthesized _ _ inner
  | .member _ _ inner _ | .conversion _ _ inner => by
    rw [uses, nodes, List.map_cons, map_expression_uses _ inner]
  | .call _ _ _ _ arguments => by rw [uses, nodes, List.map_cons, map_expression_usesOfAll arguments]
  | .reference .. | .literal .. => rfl
termination_by structural e => e

theorem map_expression_usesOfAll : (es : List TypedExpr) → (usesOfAll es).map Use.expression = nodesOfAll es
  | [] => rfl
  | e :: rest => by
    rw [usesOfAll, nodesOfAll, List.map_append, map_expression_uses _ e, map_expression_usesOfAll rest]
termination_by structural es => es

end

end TypedExpr

def TypedVariable.roots (declaration : TypedVariable) : List Use :=
  declaration.initializer.toList.map (⟨.initializer, ·⟩)

theorem TypedVariable.map_expression_roots (declaration : TypedVariable) :
    declaration.roots.map Use.expression = declaration.initializer.toList := by
  rw [roots, List.map_map]
  exact List.map_id _

namespace TypedStmt

def roots : TypedStmt → List Use
  | .branch (.mk _ condition _ _) | .whileLoop _ condition _ | .doWhile _ condition _ => [⟨.condition, condition⟩]
  | .forLoop _ _ condition _ _ => condition.toList.map (⟨.condition, ·⟩)
  | .switch _ _ selector cases _ =>
    ⟨.selector, selector⟩ :: (cases.flatMap fun | .mk _ values _ => values).map (⟨.caseValue, ·⟩)
  | .assignment _ operator target value => [⟨.target, target⟩, ⟨.assigned operator target.facts.ty, value⟩]
  | .step _ _ target => [⟨.target, target⟩]
  | .variable declaration => declaration.roots
  | .returning _ _ value => value.toList.map (⟨.returned, ·⟩)
  | .call _ called => [⟨.called, called⟩]
  | .block _ | .breaking _ | .continuing _ | .discarding _ => []

theorem map_expression_roots (s : TypedStmt) : s.roots.map Use.expression = s.expressions := by
  cases s with
  | branch chosen =>
    cases chosen
    rfl
  | forLoop _ _ condition => cases condition <;> rfl
  | switch _ _ selector =>
    rw [roots, expressions, List.map_cons, List.map_map]
    exact congrArg (selector :: ·) (List.map_id _)
  | «variable» declaration => exact declaration.map_expression_roots
  | returning _ _ value => cases value <;> rfl
  | _ => rfl

end TypedStmt

namespace TypedDocument

def roots (document : TypedDocument) : List Use :=
  (document.declarations.filterMap TypedDecl.global?).flatMap TypedVariable.roots
    ++ document.statements.flatMap TypedStmt.roots

def uses (document : TypedDocument) : List Use :=
  document.roots.flatMap fun root => root.expression.uses root.role

/-- Every expression of a document is used for something, and only once. -/
theorem map_expression_uses (document : TypedDocument) : document.uses.map Use.expression = document.expressions := by
  have held : document.roots.map Use.expression =
      (document.declarations.filterMap TypedDecl.global?).flatMap (·.initializer.toList)
        ++ document.statements.flatMap TypedStmt.expressions := by
    simp only [roots, List.map_append, List.map_flatMap, TypedVariable.map_expression_roots,
      TypedStmt.map_expression_roots]
  rw [expressions, ← held, uses, List.map_flatMap, List.flatMap_map]
  simp only [TypedExpr.map_expression_uses]

end TypedDocument

namespace Facts

structure Names (facts : Facts) : Prop where
  typed : ∃ name underlying, facts.ty = .enumeration name underlying
  constant : facts.constness = .constant
  unstored : facts.storage = false

end Facts

namespace Expr

theorem checkBinary_enumName (family : OperatorFamily) (node : NodeRef) (token : String) (left right : Facts) :
    (checkBinary family node token left right).value.2.enumName = false := by
  cases family <;> rfl

theorem checkAddressOf_enumName (node : NodeRef) (operand : Facts) :
    (checkAddressOf node operand).value.enumName = false := by
  unfold checkAddressOf
  repeat' split
  all_goals rfl

theorem checkDereference_enumName (node : NodeRef) (operand : Facts) :
    (checkDereference node operand).value.enumName = false := by
  unfold checkDereference
  split <;> rfl

theorem checkReference_names (env : Env) (node : NodeRef) (name : String)
    (named : (checkReference env node name).value.enumName = true) : (checkReference env node name).value.Names := by
  unfold checkReference at *
  split at named
  case h_1 => cases named
  case h_2 =>
    split at named
    case h_1 enumeration found =>
      simp only [*]
      exact ⟨⟨_, _, rfl⟩, rfl, rfl⟩
    case h_2 => cases named

theorem checkLiteral_enumName (node : NodeRef) (text : String) : (checkLiteral node text).value.enumName = false := by
  unfold checkLiteral
  split <;> rfl

theorem checkCall_enumName (env : Env) (node : NodeRef) (callee : String) (generics : List TypeRef)
    (arguments : List Facts) : (checkCall env node callee generics arguments).value.2.enumName = false := by
  unfold checkCall
  simp only [value_bind]
  split
  · rfl
  · simp only [value_bind]
    unfold checkCallOf
    repeat' split
    all_goals rfl

theorem checkIndex_enumName (node : NodeRef) (value position : Facts) :
    (checkIndex node value position).value.enumName = false := by
  unfold checkIndex
  simp only [value_bind]
  split <;> rfl

theorem checkMember_enumName (env : Env) (node : NodeRef) (value : Facts) (member : String) :
    (checkMember env node value member).value.enumName = false := by
  unfold checkMember
  repeat' split
  all_goals rfl

/-- Only a reference names an enum, or one in parentheses. -/
theorem check_names (env : Env) : (e : Expr) → (check env e).value.facts.enumName = true →
    (check env e).value.facts.Names
  | .reference range name, named => checkReference_names env ⟨.reference, range⟩ name named
  | .parenthesized _ inner, named => check_names env inner named
  | .binary .., named => by cases (checkBinary_enumName ..).symm.trans named
  | .unary .., named => by cases named
  | .addressOf .., named => by cases (checkAddressOf_enumName ..).symm.trans named
  | .dereference .., named => by cases (checkDereference_enumName ..).symm.trans named
  | .literal .., named => by cases (checkLiteral_enumName ..).symm.trans named
  | .call .., named => by cases (checkCall_enumName ..).symm.trans named
  | .index .., named => by cases (checkIndex_enumName ..).symm.trans named
  | .member .., named => by cases (checkMember_enumName ..).symm.trans named
  | .conversion .., named => by cases named
termination_by structural e => e

end Expr

/-- Bit operations are on whole numbers only. -/
theorem BitwiseOp.isIntegral_of_quiet (op : BitwiseOp) {left right : Ty} {stored : Bool}
    (first : left.isInvalid = false) (second : right.isInvalid = false)
    (fits : (op.resultType left stored right).problems = []) :
    left.elementType.isIntegral = true ∧ right.elementType.isIntegral = true := by
  unfold resultType at fits
  simp only [first, second, Bool.or_self, Bool.false_eq_true, if_false] at fits
  split at fits
  case isTrue strange =>
    rw [List.map_eq_nil_iff.mp fits] at strange
    cases strange
  case isFalse plain =>
    have none : [left, right].filter (fun ty => !ty.elementType.isIntegral) = [] := by simpa using plain
    simpa [List.filter_eq_nil_iff] using none

/-- What is compared is related, and of a type that can be. -/
theorem ComparisonOp.compares_of_quiet (op : ComparisonOp) {left right : Ty} (first : left.isInvalid = false)
    (second : right.isInvalid = false) (fits : op.problems left right = []) :
    left.mutuallyCasts right = true ∧ op.compares left.elementType = true := by
  unfold problems at fits
  simp only [first, second, Bool.or_self, Bool.false_eq_true, if_false] at fits
  split at fits
  case isTrue => cases fits
  case isFalse related =>
    split at fits
    case isTrue compared => exact ⟨by simpa using related, compared⟩
    case isFalse => split at fits <;> cases fits

/-- What an operator asks of the type across from an enum, it asks of the type across from the name of one. -/
theorem Facts.Names.across (verdict : Ty → Ty → Verdict) {takes : Ty → Prop}
    (asks : ∀ {name : String} {underlying other : Ty}, (verdict (.enumeration name underlying) other).problems = [] ∨
      (verdict other (.enumeration name underlying)).problems = [] → takes other)
    {left right : Facts} (fits : (verdict left.ty right.ty).problems = []) :
    (left.Names → takes right.ty) ∧ (right.Names → takes left.ty) := by
  constructor
  · rintro ⟨⟨_, _, typed⟩, -, -⟩
    exact asks (.inl (typed ▸ fits))
  · rintro ⟨⟨_, _, typed⟩, -, -⟩
    exact asks (.inr (typed ▸ fits))

section Operators

variable {name : String} {underlying other : Ty}

/-- Arithmetic is not for enums, on either side. -/
theorem ArithmeticOp.isInvalid_of_enumeration (op : ArithmeticOp)
    (fits : (op.resultType (.enumeration name underlying) other).problems = [] ∨
      (op.resultType other (.enumeration name underlying)).problems = []) : other.isInvalid = true := by
  by_contra valid
  have first : Ty.enumeration name underlying ≠ .invalid := nofun
  have second : other ≠ .invalid := fun same => valid (by rw [same]; rfl)
  obtain left | right := fits
  · cases op.combines_of_quiet first second left
  · cases op.combines_of_quiet second first right

theorem BitwiseOp.isInvalid_of_enumeration (op : BitwiseOp) {stored : Bool}
    (fits : (op.resultType (.enumeration name underlying) stored other).problems = [] ∨
      (op.resultType other stored (.enumeration name underlying)).problems = []) : other.isInvalid = true := by
  by_contra valid
  rw [Bool.not_eq_true] at valid
  obtain left | right := fits
  · cases (op.isIntegral_of_quiet rfl valid left).1
  · cases (op.isIntegral_of_quiet valid rfl right).2

/-- Enums are compared only for being equal. -/
theorem ComparisonOp.takesNames_of_enumeration (op : ComparisonOp)
    (fits : (op.resultType (.enumeration name underlying) other).problems = [] ∨
      (op.resultType other (.enumeration name underlying)).problems = []) :
    (Role.side (.comparison op) other).takesNames = true := by
  rw [Role.takesNames, Bool.or_eq_true, or_iff_not_imp_right, Bool.not_eq_true]
  intro valid
  obtain left | right := fits
  · exact (op.compares_of_quiet rfl valid left).2
  · obtain ⟨related, compared⟩ := op.compares_of_quiet valid rfl right
    obtain cast | cast := Ty.mutuallyCasts_iff.mp related <;> cases cast <;> exact compared

theorem LogicalOp.problems_of_enumeration (token : String) :
    ¬ ((resultType token (.enumeration name underlying) other).problems = [] ∨
      (resultType token other (.enumeration name underlying)).problems = []) := by
  have valid : (Ty.enumeration name underlying).isInvalid = false := rfl
  have strange : (Ty.enumeration name underlying).castsTo .bool = false := rfl
  simp [resultType, valid, strange]

end Operators

namespace Expr

variable {node : NodeRef} {token : String} {left right operand value position : Facts}

theorem checkBinary_takesNames {family : OperatorFamily} (quiet : Quiet (checkBinary family node token left right)) :
    (left.Names → (Role.side (checkBinary family node token left right).value.1 right.ty).takesNames = true) ∧
      (right.Names → (Role.side (checkBinary family node token left right).value.1 left.ty).takesNames = true) := by
  cases family with
  | arithmetic =>
    simp only [checkBinary, within_bind, Verdict.quiet_report] at quiet
    exact Facts.Names.across (ArithmeticOp.resultType _) (ArithmeticOp.isInvalid_of_enumeration _) quiet.2.1
  | bitwise =>
    simp only [checkBinary, within_bind, Verdict.quiet_report] at quiet
    exact Facts.Names.across (fun a b => BitwiseOp.resultType _ a left.storage b)
      (BitwiseOp.isInvalid_of_enumeration _) quiet.2.1
  | comparison =>
    simp only [checkBinary, within_bind, Verdict.quiet_report] at quiet
    exact Facts.Names.across (ComparisonOp.resultType _) (ComparisonOp.takesNames_of_enumeration _) quiet.2.1
  | logical =>
    simp only [checkBinary, within_bind, Verdict.quiet_report] at quiet
    obtain ⟨first, second⟩ :=
      Facts.Names.across (LogicalOp.resultType token) (LogicalOp.problems_of_enumeration token) quiet.2.1
    exact ⟨fun names => (first names).elim, fun names => (second names).elim⟩

theorem checkUnary_refuses (names : operand.Names) : ¬ Quiet (checkUnary node token operand) := by
  obtain ⟨⟨name, underlying, typed⟩, -, -⟩ := names
  have refused (op : UnaryOp) : op.accepts (.enumeration name underlying) = false := by cases op <;> rfl
  simp [checkUnary, typed, refused, -bind_pure_comp]

theorem checkAddressOf_refuses (names : operand.Names) : ¬ Quiet (checkAddressOf node operand) := by
  obtain ⟨⟨name, underlying, typed⟩, -, unstored⟩ := names
  simp [checkAddressOf, typed, unstored, Ty.isInvalid, -bind_pure_comp]

theorem checkDereference_refuses (names : operand.Names) : ¬ Quiet (checkDereference node operand) := by
  obtain ⟨⟨name, underlying, typed⟩, -, -⟩ := names
  simp [checkDereference, typed, -bind_pure_comp]

theorem checkIndex_refuses (names : value.Names ∨ position.Names) : ¬ Quiet (checkIndex node value position) := by
  obtain ⟨⟨name, underlying, typed⟩, -, -⟩ | ⟨⟨name, underlying, typed⟩, -, -⟩ := names
  · simp [checkIndex, typed, -bind_pure_comp]
  · have strange : (Ty.enumeration name underlying).isIntegral = false := rfl
    simp [checkIndex, typed, strange, Ty.isInvalid]

mutual

/-- In an expression that nothing is reported of, every name of an enum passes, if the whole of it does. -/
theorem check_uses {env : Env} : (e : Expr) → Quiet (check env e) → {role : Role} →
    Use.Passes ⟨role, (check env e).value⟩ → ∀ use ∈ (check env e).value.uses role, use.Passes
  | .binary family range left operator right, quiet, role, passes => by
    simp only [check, within_bind] at quiet
    obtain ⟨first, second, fits, -⟩ := quiet
    obtain ⟨takesLeft, takesRight⟩ := checkBinary_takesNames fits
    refine List.forall_mem_cons.mpr ⟨passes, List.forall_mem_append.mpr ⟨?_, ?_⟩⟩
    · exact check_uses left first fun named => .inr (takesLeft (check_names env left named))
    · exact check_uses right second fun named => .inr (takesRight (check_names env right named))
  | .unary range operator operand, quiet, role, passes => by
    simp only [check, within_bind] at quiet
    obtain ⟨inside, fits, -⟩ := quiet
    refine List.forall_mem_cons.mpr ⟨passes, check_uses operand inside fun named => ?_⟩
    exact (checkUnary_refuses (check_names env operand named) fits).elim
  | .addressOf range operand, quiet, role, passes => by
    simp only [check, within_bind] at quiet
    obtain ⟨inside, fits, -⟩ := quiet
    refine List.forall_mem_cons.mpr ⟨passes, check_uses operand inside fun named => ?_⟩
    exact (checkAddressOf_refuses (check_names env operand named) fits).elim
  | .dereference range operand, quiet, role, passes => by
    simp only [check, within_bind] at quiet
    obtain ⟨inside, fits, -⟩ := quiet
    refine List.forall_mem_cons.mpr ⟨passes, check_uses operand inside fun named => ?_⟩
    exact (checkDereference_refuses (check_names env operand named) fits).elim
  | .parenthesized range inner, quiet, role, passes =>
    List.forall_mem_cons.mpr ⟨passes, check_uses inner ((within_bind _ _).mp quiet).1 passes⟩
  | .reference range name, _, _, passes => List.forall_mem_singleton.mpr passes
  | .literal range text, _, _, passes => List.forall_mem_singleton.mpr passes
  | .call range callee generics arguments, quiet, role, passes =>
    List.forall_mem_cons.mpr ⟨passes, checkAll_uses arguments ((within_bind _ _).mp quiet).1⟩
  | .index range value position, quiet, role, passes => by
    simp only [check, within_bind] at quiet
    obtain ⟨first, second, fits, -⟩ := quiet
    refine List.forall_mem_cons.mpr ⟨passes, List.forall_mem_append.mpr ⟨?_, ?_⟩⟩
    · exact check_uses value first fun named =>
        (checkIndex_refuses (.inl (check_names env value named)) fits).elim
    · exact check_uses position second fun named =>
        (checkIndex_refuses (.inr (check_names env position named)) fits).elim
  | .member range value name, quiet, role, passes =>
    List.forall_mem_cons.mpr ⟨passes, check_uses value ((within_bind _ _).mp quiet).1 fun _ => .inl rfl⟩
  | .conversion range target operand, quiet, role, passes =>
    List.forall_mem_cons.mpr ⟨passes, check_uses operand ((within_bind _ _).mp quiet).1 fun _ => .inr rfl⟩
termination_by structural e => e

theorem checkAll_uses {env : Env} : (es : List Expr) → Quiet (checkAll env es) →
    ∀ use ∈ TypedExpr.usesOfAll (checkAll env es).value, use.Passes
  | [], _ => nofun
  | e :: rest, quiet => by
    simp only [checkAll, within_bind] at quiet
    exact List.forall_mem_append.mpr ⟨check_uses e quiet.1 fun _ => .inr rfl, checkAll_uses rest quiet.2.1⟩
termination_by structural es => es

end

theorem Checked.names {env : Env} {e : TypedExpr} (checked : Checked noIncident env e)
    (named : e.facts.enumName = true) : e.facts.Names := by
  obtain ⟨source, -, rfl⟩ := checked
  exact check_names env source named

theorem Checked.uses {env : Env} {e : TypedExpr} (checked : Checked noIncident env e) {role : Role}
    (passes : Use.Passes ⟨role, e⟩) : ∀ use ∈ e.uses role, use.Passes := by
  obtain ⟨source, quiet, rfl⟩ := checked
  exact check_uses source quiet passes

end Expr

namespace Stmt

variable {env : Env} {node : NodeRef} {token : String} {target value facts : Facts}

theorem checkCondition_refuses {construct : String} (names : facts.Names) :
    ¬ Quiet (checkCondition node construct facts) := by
  obtain ⟨⟨name, underlying, typed⟩, -, -⟩ := names
  have strange : (Ty.enumeration name underlying).castsTo .bool = false := rfl
  simp [checkCondition, typed, strange, Ty.isInvalid]

theorem checkTarget_refuses (names : target.Names) : ¬ Quiet (checkTarget node target) := by
  obtain ⟨⟨name, underlying, typed⟩, constant, -⟩ := names
  simp [checkTarget, typed, constant, Ty.isInvalid, -bind_pure_comp]

theorem checkCaseValue_refuses {seen : List Int64} (names : facts.Names) :
    ¬ Quiet (checkCaseValue seen node facts) := by
  obtain ⟨⟨name, underlying, typed⟩, -, -⟩ := names
  have strange : (Ty.enumeration name underlying).isIntegral = false := rfl
  simp [checkCaseValue, typed, strange, Ty.isInvalid, -bind_pure_comp]

theorem checkStep_refuses (names : target.Names) : ¬ Quiet (checkStep node token target) := by
  intro quiet
  simp only [checkStep, within_bind] at quiet
  exact checkTarget_refuses names quiet.2.1

theorem checkAssignment_refuses (names : target.Names) : ¬ Quiet (checkAssignment node token target value) := by
  intro quiet
  simp only [checkAssignment, within_bind] at quiet
  exact checkTarget_refuses names quiet.2.1

/-- A target that nothing is reported of can be written to, unless it is invalid. -/
theorem writable_of_quiet (quiet : Quiet (checkTarget node target)) (valid : target.ty.isInvalid = false) :
    target.Writable := by
  by_contra unwritable
  have silent : (checkTarget node target).causes = [] := by rw [causes, (quiet_iff _).mp quiet, List.map_nil]
  cases valid.symm.trans ((checkTarget_of_not_writable unwritable).2.mp silent)

theorem assignedType_takesNames {operator : AssignmentOp} (quiet : Quiet (assignedType node operator target value))
    (names : value.Names) : (Role.assigned operator target.ty).takesNames = true := by
  obtain ⟨⟨name, underlying, typed⟩, -, -⟩ := names
  cases operator with
  | assign => rfl
  | arithmetic op =>
    rw [assignedType, typed, Verdict.quiet_report] at quiet
    exact op.isInvalid_of_enumeration (.inr quiet)
  | bitwise op =>
    rw [assignedType, typed, Verdict.quiet_report] at quiet
    exact op.isInvalid_of_enumeration (.inr quiet)

theorem checkAssignment_takesNames (quiet : Quiet (checkAssignment node token target value)) (names : value.Names) :
    (Role.assigned (checkAssignment node token target value).value target.ty).takesNames = true := by
  rw [value_checkAssignment]
  cases invalid : target.ty.isInvalid with
  | true => exact Role.takesNames_of_invalid _ invalid
  | false =>
    simp only [checkAssignment, within_bind, value_operatorOr] at quiet
    obtain ⟨-, stored, rest⟩ := quiet
    have valid : value.ty.isInvalid = false := by
      obtain ⟨⟨name, underlying, typed⟩, -, -⟩ := names
      rw [typed]
      rfl
    rw [checkTarget_of_writable (writable_of_quiet stored invalid)] at rest
    simp only [valid, value_pure, Bool.not_false, Bool.and_self, if_true, within_bind] at rest
    exact assignedType_takesNames rest.1 names

theorem Checked.roots {invariant : Env → Prop} {typed : TypedStmt} (checked : Checked noIncident invariant typed) :
    ∀ root ∈ typed.roots, root.Passes := by
  obtain ⟨env, s, after, -, yields⟩ := checked
  cases outcome_of_yields yields with
  | block | breaking | continuing | discarding => nofun
  | branch tested decides | whileLoop opened tested decides | doWhile opened tested decides =>
    exact List.forall_mem_singleton.mpr fun named =>
      (checkCondition_refuses (Expr.check_names _ _ named) decides).elim
  | forLoop opened starts tested decides =>
    refine List.forall_mem_map.mpr fun e member named => ?_
    have names := (Expr.checkOptional_checked tested e member).names named
    exact (checkCondition_refuses names (decides e (Option.mem_toList.mp member))).elim
  | switch selected opened inside behind =>
    simp only [check, openScope, yields_bind, yields_pure, yields_of, yields_lift] at yields
    obtain ⟨_, ⟨rfl, -⟩, _, ⟨-, integral⟩, -⟩ := yields
    refine List.forall_mem_cons.mpr ⟨fun named => ?_, ?_⟩
    · obtain ⟨⟨name, underlying, typed⟩, -, -⟩ := Expr.check_names _ _ named
      have strange : (Ty.enumeration name underlying).isIntegral = false := rfl
      simp [typed, strange, Ty.isInvalid] at integral
    · refine List.forall_mem_map.mpr (checkCases_each (fun {_ e} _ quiet named => ?_) inside)
      exact (checkCaseValue_refuses (Expr.check_names _ e named) quiet).elim
  | assignment stored given assigns fits =>
    subst assigns
    refine List.forall_mem_cons.mpr ⟨fun named => ?_, List.forall_mem_singleton.mpr fun named => ?_⟩
    · exact (checkAssignment_refuses (Expr.check_names _ _ named) fits).elim
    · exact .inr (checkAssignment_takesNames fits (Expr.check_names _ _ named))
  | step stored =>
    simp only [check, yields_bind, yields_pure, yields_lift] at yields
    obtain ⟨_, ⟨rfl, -⟩, _, ⟨-, steps⟩, -⟩ := yields
    exact List.forall_mem_singleton.mpr fun named => (checkStep_refuses (Expr.check_names _ _ named) steps).elim
  | «variable» declares => exact List.forall_mem_map.mpr fun _ _ _ => .inr rfl
  | returning given => exact List.forall_mem_map.mpr fun _ _ _ => .inr rfl
  | call called =>
    refine List.forall_mem_singleton.mpr fun named => ?_
    cases (Expr.checkCall_enumName ..).symm.trans named

end Stmt

def Use.PassesThroughout (root : Use) : Prop := ∀ use ∈ root.expression.uses root.role, use.Passes

structure TypedDecl.Passes (one : TypedDecl) : Prop where
  global : ∀ v, one.global? = some v → ∀ root ∈ v.roots, root.PassesThroughout
  statements : ∀ s ∈ one.statements, ∀ root ∈ s.roots, root.PassesThroughout

theorem VariableDecl.Bound.passes {env : Env} {node : NodeRef} {declaration : VariableDecl} {v : TypedVariable}
    (bound : Bound noIncident env node declaration v.binding v.initializer) :
    ∀ root ∈ v.roots, root.PassesThroughout := by
  refine List.forall_mem_map.mpr fun e given => ?_
  rw [bound.value] at given
  exact (Expr.checkOptional_checked bound.given e given).uses fun _ => .inr rfl

theorem Stmt.Checked.passes {invariant : Env → Prop} (lasts : Env.Lasts noIncident invariant) {typed : TypedStmt}
    (checked : Checked noIncident invariant typed) : ∀ root ∈ typed.roots, root.PassesThroughout := by
  intro root member
  have held : root.expression ∈ typed.expressions := by
    rw [← typed.map_expression_roots]
    exact List.mem_map_of_mem member
  obtain ⟨env, -, itself⟩ := checked.expressions lasts root.expression held
  exact itself.uses (checked.roots root member)

namespace Decl

variable {declaration : Decl} {env after : Env} {typed : TypedDecl}

theorem check_global_passes (due : declaration.round = .globals)
    (yields : Yields noIncident (declaration.check env) (typed, after)) : typed.Passes := by
  cases declaration with
  | «variable» declaration =>
    obtain ⟨binding, initializer, rfl, bound, -⟩ := VariableDecl.checkGlobal_yields yields
    constructor
    · rintro _ ⟨⟩
      exact bound.passes
    · rintro _ ⟨⟩
  | _ => cases due

theorem check_body_passes (due : declaration.round = .bodies)
    (yields : Yields noIncident (declaration.check env) (typed, after)) : typed.Passes := by
  cases declaration with
  | function declaration =>
    simp only [Decl.check, yields_bind, yields_pure] at yields
    obtain ⟨_, checked, ⟨⟩⟩ := yields
    cases FunctionDecl.outcome_of_yields checked with
    | duplicate => constructor <;> rintro _ ⟨⟩
    | function registered entered inside =>
      -- It makes no difference what is in force, so the invariant is trivial.
      have lasts : Env.Lasts noIncident fun _ => True := ⟨fun _ _ _ => trivial, fun _ _ => trivial⟩
      have nodes := Stmt.checkBlock_nodes lasts declaration.body trivial inside
      constructor
      · rintro _ ⟨⟩
      · exact fun s member => (nodes s member).passes lasts
  | _ => cases due

end Decl

namespace Document

theorem keepsUp_passes (document : Document) :
    document.KeepsUp noIncident (fun _ => True) (fun _ _ => True) fun _ _ one => one.Passes where
  start := trivial
  types due _ yields := by
    obtain ⟨-, statements, global⟩ := Decl.check_type_keeps due yields
    exact ⟨trivial, fun _ => ⟨by simp [global], by simp [statements]⟩⟩
  signatures _ _ _ := trivial
  globals due _ yields := ⟨trivial, Decl.check_global_passes due yields⟩
  bodies _ due _ yields := ⟨trivial, Decl.check_body_passes due yields⟩

/-- In a document without reports, every expression is used for something, and one that names an enum has a member
picked out of it, or it is used in a way that takes such a name for a value. -/
theorem check_enumName_uses (document : Document) {typed : TypedDocument} {context : Context}
    (ran : document.check.run {} = (.ok typed, context)) (quiet : context.incidents = []) :
    typed.uses.map Use.expression = typed.expressions ∧
      ∀ use ∈ typed.uses, use.expression.facts.enumName = true →
        use.role = .decomposed ∨ use.role.takesNames = true := by
  have yields : Yields noIncident (document.effect {}) (typed, context.env) :=
    document.check_does.yields ran (List.eq_nil_iff_forall_not_mem.mp quiet)
  obtain ⟨-, -, passes⟩ := document.keepsUp_passes.effect yields
  have each (one : TypedDecl) (declared : one ∈ typed.declarations) : one.Passes := by
    obtain ⟨_, -, standing⟩ := exists_of_forall₂ passes.flip one declared
    exact standing
  refine ⟨typed.map_expression_uses, fun use member => ?_⟩
  obtain ⟨root, held, inside⟩ := List.mem_flatMap.mp member
  obtain outside | body := List.mem_append.mp held
  · obtain ⟨v, global, given⟩ := List.mem_flatMap.mp outside
    obtain ⟨one, declared, found⟩ := List.mem_filterMap.mp global
    exact (each one declared).global v found root given use inside
  · obtain ⟨s, listed, given⟩ := List.mem_flatMap.mp body
    obtain ⟨one, declared, within⟩ := List.mem_flatMap.mp listed
    exact (each one declared).statements s within root given use inside

/-- The enum `Mode` and the constants `a = Mode.Fast` and `b = (Mode).Slow`. -/
def namespaced : Document :=
  let line (number : UInt32) : Span := ⟨⟨number, 1⟩, ⟨number, 9⟩⟩
  let mode (number : UInt32) : Expr := .reference (line number) "Mode"
  { range := line 1
    declarations := [
      .enumeration ⟨line 1, "Mode", [⟨line 1, "Fast", none⟩, ⟨line 1, "Slow", none⟩]⟩,
      .variable ⟨line 2, "const", "a", none, some (.member (line 2) (mode 2) "Fast")⟩,
      .variable ⟨line 3, "const", "b", none, some (.member (line 3) (.parenthesized (line 3) (mode 3)) "Slow")⟩] }

theorem namespaced_decomposes :
    ∃ typed context, namespaced.check.run {} = (.ok typed, context) ∧ context.incidents = [] ∧
      (typed.expressions.filter (·.facts.enumName)).length = 3 ∧
      ∀ use ∈ typed.uses, use.expression.facts.enumName = true → use.role = .decomposed := by
  have quiet : (namespaced.check.run {}).2.incidents = [] := by decide +kernel
  have named : (namespaced.check.run {}).1.toOption.map
      (fun typed => (typed.expressions.filter (·.facts.enumName)).length) = some 3 := by
    decide +kernel
  have plain : ∀ typed ∈ (namespaced.check.run {}).1.toOption, ∀ use ∈ typed.uses, use.role.takesNames = true →
      use.expression.facts.enumName = false := by
    decide +kernel
  cases ran : namespaced.check.run {} with
  | mk result context =>
    rw [ran] at quiet named plain
    cases result with
    | error => cases named
    | ok typed =>
      refine ⟨typed, context, rfl, quiet, Option.some.inj named, fun use member name => ?_⟩
      refine ((check_enumName_uses namespaced ran quiet).2 use member name).resolve_right fun takes => ?_
      cases (plain typed rfl use member takes).symm.trans name

/-- A constant that is `Mode`, and a function in which `Mode` is used in the other ways that take it for a value. -/
def mistaken : Document :=
  let line (number : UInt32) : Span := ⟨⟨number, 1⟩, ⟨number, 9⟩⟩
  let mode (number : UInt32) : Expr := .reference (line number) "Mode"
  let type (number : UInt32) (name : String) : TypeRef := .mk (line number) name []
  { range := line 1
    declarations := [
      .enumeration ⟨line 1, "Mode", [⟨line 1, "Fast", none⟩]⟩,
      .variable ⟨line 2, "const", "m", none, some (mode 2)⟩,
      .function ⟨line 3, "pick", [⟨line 3, [], [⟨line 3, "n", type 3 "Mode"⟩], type 3 "Mode"⟩], .mk (line 3) [
        .assignment (line 4) "=" (.reference (line 4) "n") (mode 4),
        .call (line 5) (line 5) "pick" [] [mode 5],
        .branch (.mk (line 6) (.binary .comparison (line 6) (mode 6) "==" (.reference (line 6) "n")) (.mk (line 6) [
          .variable ⟨line 7, "let", "k", none, some (.conversion (line 7) (type 7 "i32") (mode 7))⟩]) .nothing),
        .returning (line 8) (some (mode 8))]⟩] }

/-- All of that passes without a report. -/
theorem mistaken_unreported :
    let enumeration : Ty := .enumeration "Mode" .i32
    (mistaken.check.run {}).2.incidents = [] ∧
      (mistaken.check.run {}).1.toOption.map (fun typed =>
        (typed.uses.filter (·.expression.facts.enumName)).map Use.role) =
      some [.initializer, .assigned .assign enumeration, .argument, .side (.comparison .equal) enumeration, .converted,
        .returned] := by
  decide +kernel

end Document

end ShaderCheck
