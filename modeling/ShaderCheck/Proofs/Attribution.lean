import ShaderCheck.Proofs.Outcome

/-!
Where incidents are reported, and what for. A check is given the node that it is about and reports there; whatever else
is reported on the way is at an expression or a written type inside that node, for something that can be wrong with one.
-/

namespace ShaderCheck

open Noted

/-- Expressions and written types, the nodes that statements and declarations are made of. -/
def NodeKind.isTerm : NodeKind → Bool
  | .typeDeclaration | .arithmetic | .bitwise | .comparison | .logical | .unary | .addressOf | .dereference
  | .parenthesized | .reference | .literal | .call | .index | .member | .conversion => true
  | _ => false

/-- What can be wrong with an expression or a written type. -/
@[simp] def Cause.isOfTerm : Cause → Bool
  | .unexpectedArguments _ | .notOneArgument _ | .vectorElement _ | .matrixElement _ | .unknownType _
  | .invalidLiteral _ | .unknownName _ | .unknownOperator ..
  | .mismatchedOperands .. | .nonNumericOperands .. | .nonIntegerOperand .. | .dimensionMismatch .. | .shiftOfValue _
  | .signedShiftAmount _ | .incomparable .. | .unorderedOperands .. | .uncomparedType _ | .nonBooleanOperand ..
  | .unaryOperand ..
  | .nonIntegerIndex _ | .notIndexable _ | .unknownStructMember .. | .invalidSwizzle .. | .unknownEnumMember ..
  | .noMembers ..
  | .unknownFunction _ | .noOverload .. | .genericNotInferred .. | .noConversion .. | .addressOfValue
  | .notPointable _ | .notAPointer _ => true
  | _ => false

namespace Incident

def At (node : NodeRef) (incident : Incident) : Prop := incident.node = some node

def InTerm (incident : Incident) : Prop := ∃ node, incident.At node ∧ node.kind.isTerm = true

/-- An incident is reported at a node, or at an expression or a written type, such as those inside it. -/
def About (node : NodeRef) (incident : Incident) : Prop := incident.At node ∨ incident.InTerm

@[simp] theorem at_iff {node other : NodeRef} {cause : Cause} : At node ⟨cause, some other⟩ ↔ other = node := by
  simp [At]

def OfTermAt (node : NodeRef) (incident : Incident) : Prop := incident.At node ∧ incident.cause.isOfTerm = true

def OfTerm (incident : Incident) : Prop := incident.InTerm ∧ incident.cause.isOfTerm = true

@[simp] theorem ofTermAt_iff {node other : NodeRef} {cause : Cause} :
    OfTermAt node ⟨cause, some other⟩ ↔ other = node ∧ cause.isOfTerm = true := by
  simp [OfTermAt]

@[simp] theorem about_self {node : NodeRef} {cause : Cause} : About node ⟨cause, some node⟩ := .inl rfl

theorem At.inTerm {node : NodeRef} {incident : Incident} (reported : incident.At node)
    (term : node.kind.isTerm = true) : incident.InTerm :=
  ⟨node, reported, term⟩

end Incident

open Incident

namespace Noted

variable {α β : Type} {node : NodeRef} {step : Noted α}

theorem Within.mono {allowed weaker : Incident → Prop} (within : Within allowed step)
    (implies : ∀ incident, allowed incident → weaker incident) : Within weaker step :=
  fun incident member => implies incident (within incident member)

theorem Within.ofTerm (within : Within (OfTermAt node) step) (term : node.kind.isTerm = true) : Within OfTerm step :=
  within.mono fun _ ⟨reported, cause⟩ => ⟨reported.inTerm term, cause⟩

theorem Within.inTerm (within : Within OfTerm step) : Within InTerm step := within.mono fun _ => And.left

theorem Within.about (within : Within InTerm step) (node : NodeRef) : Within (About node) step :=
  within.mono fun _ => .inr

/-- A step at most reports something that is allowed. -/
structure Remarks (allowed : Incident → Prop) (step : Noted α) : Prop where
  within : Within allowed step
  unused : step.notes.used = []

theorem Remarks.ofTerm (remarks : Remarks (OfTermAt node) step) (term : node.kind.isTerm = true) :
    Within OfTerm step :=
  remarks.within.ofTerm term

theorem Remarks.at (remarks : Remarks (OfTermAt node) step) : Remarks (At node) step :=
  ⟨remarks.within.mono fun _ => And.left, remarks.unused⟩

theorem Remarks.inTerm (remarks : Remarks (At node) step) (term : node.kind.isTerm = true) : Within InTerm step :=
  remarks.within.mono fun _ reported => reported.inTerm term

theorem Remarks.about (remarks : Remarks (At node) step) : Within (About node) step :=
  remarks.within.mono fun _ => .inl

variable {allowed : Incident → Prop}

@[simp] theorem remarks_pure (a : α) : Remarks allowed (pure a : Noted α) := ⟨within_pure a, rfl⟩

@[simp] theorem remarks_bind (step : Noted α) (next : α → Noted β) :
    Remarks allowed (step >>= next) ↔ Remarks allowed step ∧ Remarks allowed (next step.value) := by
  constructor
  · rintro ⟨within, unused⟩
    rw [within_bind] at within
    obtain ⟨first, second⟩ := List.append_eq_nil_iff.mp unused
    exact ⟨⟨within.1, first⟩, within.2, second⟩
  · rintro ⟨first, second⟩
    refine ⟨(within_bind _ _).mpr ⟨first.within, second.within⟩, ?_⟩
    exact List.append_eq_nil_iff.mpr ⟨first.unused, second.unused⟩

@[simp] theorem remarks_report (cause : Cause) :
    Remarks allowed (report node cause) ↔ allowed ⟨cause, some node⟩ :=
  ⟨fun remarks => (within_report node cause).mp remarks.within, fun reported => ⟨by simp [reported], rfl⟩⟩

@[simp] theorem remarks_expect (condition : Bool) (cause : Cause) :
    Remarks allowed (expect condition node cause) ↔ (condition = false → allowed ⟨cause, some node⟩) := by
  cases condition <;> simp [expect]

theorem expect_remarks {condition : Bool} {cause : Cause} : Remarks (At node) (expect condition node cause) :=
  (remarks_expect condition cause).mpr fun _ => rfl

end Noted

theorem operatorOr_remarks {α : Type} {node : NodeRef} {family token : String} {found : Option α} {fallback : α} :
    Remarks (OfTermAt node) (operatorOr node family token found fallback) := by
  cases found <;> simp [operatorOr]

namespace Verdict

def IsOfTerm (verdict : Verdict) : Prop := ∀ problem ∈ verdict.problems, problem.isOfTerm = true

variable {verdict : Verdict} {node : NodeRef}

@[simp] theorem isOfTerm_mk {ty : Ty} {problems : List Cause} :
    IsOfTerm ⟨ty, problems⟩ ↔ ∀ problem ∈ problems, problem.isOfTerm = true := .rfl

@[simp] theorem isOfTerm_expecting {condition : Bool} {problem : Cause} {ty : Ty} :
    (expecting condition problem ty).IsOfTerm ↔ (condition = false → problem.isOfTerm = true) := by
  cases condition <;> simp [expecting]

theorem report_remarks : Remarks (At node) (verdict.report node) := ⟨by simp [Within, report], rfl⟩

theorem IsOfTerm.report_remarks (term : verdict.IsOfTerm) : Remarks (OfTermAt node) (verdict.report node) := by
  refine ⟨?_, rfl⟩
  simp only [Within, report, List.forall_mem_map, ofTermAt_iff, true_and]
  exact term

end Verdict

theorem ArithmeticOp.resultType_isOfTerm (op : ArithmeticOp) (left right : Ty) :
    (op.resultType left right).IsOfTerm := by
  unfold resultType scaleType applyType
  repeat' split
  all_goals simp

theorem BitwiseOp.resultType_isOfTerm (op : BitwiseOp) (left : Ty) (stored : Bool) (right : Ty) :
    (op.resultType left stored right).IsOfTerm := by
  unfold resultType shiftProblems
  dsimp only
  repeat' split
  · simp
  · exact List.forall_mem_map.mpr fun _ _ => rfl
  all_goals simp

theorem ComparisonOp.resultType_isOfTerm (op : ComparisonOp) (left right : Ty) :
    (op.resultType left right).IsOfTerm := by
  unfold resultType problems
  repeat' split
  all_goals simp

theorem LogicalOp.resultType_isOfTerm (token : String) (left right : Ty) : (resultType token left right).IsOfTerm :=
  List.forall_mem_map.mpr fun _ _ => rfl

namespace TypeRef

theorem apply_remarks {node : NodeRef} {former : TypeFormer} {argument : Ty} :
    Remarks (OfTermAt node) (former.apply node argument) := by
  unfold TypeFormer.apply
  repeat' split
  all_goals simp

theorem resolveName_ofTermAt {symbols : Symbols} {node : NodeRef} {name : String} {bare : Bool} :
    Within (OfTermAt node) (resolveName symbols node name bare) := by
  unfold resolveName
  repeat' split
  all_goals simp

theorem resolve_ofTerm (symbols : Symbols) : (ref : TypeRef) → Within OfTerm (ref.resolve symbols)
  | .mk range name arguments => by
    have reported {cause : Cause} (term : cause.isOfTerm = true) : OfTerm ⟨cause, some ⟨.typeDeclaration, range⟩⟩ :=
      ⟨⟨_, rfl, rfl⟩, term⟩
    rw [resolve]
    cases TypeHead.ofName? name with
    | none => exact resolveName_ofTermAt.ofTerm rfl
    | some head =>
      cases head with
      | plain ty =>
        match arguments with
        | [] => simp
        | _ :: _ => simpa using reported rfl
      | former former =>
        match arguments with
        | [argument] =>
          exact (within_bind _ _).mpr ⟨resolve_ofTerm symbols argument, apply_remarks.ofTerm rfl⟩
        | [] | _ :: _ :: _ => simpa using reported rfl
termination_by structural ref => ref

theorem resolveAll_ofTerm {symbols : Symbols} {refs : List TypeRef} : Within OfTerm (resolveAll symbols refs) := by
  induction refs with
  | nil => exact within_pure _
  | cons ref rest ih => simp [resolveAll, ref.resolve_ofTerm symbols, ih]

theorem resolve_inTerm (symbols : Symbols) (ref : TypeRef) : Within InTerm (ref.resolve symbols) :=
  (ref.resolve_ofTerm symbols).inTerm

theorem resolveInHeader_inTerm {symbols : Symbols} {generics : List Generic} {ref : TypeRef} :
    Within InTerm (ref.resolveInHeader symbols generics) := by
  unfold resolveInHeader
  split <;> simp [ref.resolve_inTerm symbols]

end TypeRef

namespace Expr

variable {node : NodeRef} {env : Env} {family : OperatorFamily} {token name text callee member : String}
  {function : Function} {explicit : List Ty} {target : Ty} {generics : List TypeRef} {arguments : List Facts}
  {left right operand value index : Facts}

theorem checkBinary_remarks : Remarks (OfTermAt node) (checkBinary family node token left right) := by
  cases family with
  | arithmetic =>
    simp [checkBinary, operatorOr_remarks, (ArithmeticOp.resultType_isOfTerm _ _ _).report_remarks]
  | bitwise => simp [checkBinary, operatorOr_remarks, (BitwiseOp.resultType_isOfTerm _ _ _ _).report_remarks]
  | comparison =>
    simp [checkBinary, operatorOr_remarks, (ComparisonOp.resultType_isOfTerm _ _ _).report_remarks]
  | logical => simp [checkBinary, operatorOr_remarks, (LogicalOp.resultType_isOfTerm _ _ _).report_remarks]

theorem checkUnary_remarks : Remarks (OfTermAt node) (checkUnary node token operand) := by
  simp [checkUnary, operatorOr_remarks]

theorem checkAddressOf_remarks : Remarks (OfTermAt node) (checkAddressOf node operand) := by
  unfold checkAddressOf
  repeat' split
  all_goals simp

theorem checkDereference_remarks : Remarks (OfTermAt node) (checkDereference node operand) := by
  unfold checkDereference
  split <;> simp

theorem checkReference_ofTermAt : Within (OfTermAt node) (checkReference env node name) := by
  unfold checkReference
  repeat' split
  all_goals simp

theorem checkLiteral_remarks : Remarks (OfTermAt node) (checkLiteral node text) := by
  unfold checkLiteral
  split <;> simp

theorem checkCallOf_remarks : Remarks (OfTermAt node) (checkCallOf function node callee explicit arguments) := by
  unfold checkCallOf
  repeat' split
  all_goals simp

/-- The generics of a call are written types with nodes of their own. -/
theorem checkCall_ofTerm (term : node.kind.isTerm = true) :
    Within OfTerm (checkCall env node callee generics arguments) := by
  unfold checkCall
  simp only [within_bind, within_use, true_and]
  split
  · simp only [within_bind, within_report, within_pure, and_true]
    exact ⟨⟨node, rfl, term⟩, rfl⟩
  · exact (within_bind _ _).mpr ⟨TypeRef.resolveAll_ofTerm, checkCallOf_remarks.ofTerm term⟩

theorem checkIndex_remarks : Remarks (OfTermAt node) (checkIndex node value index) := by
  unfold checkIndex
  simp only [remarks_bind, remarks_expect, ofTermAt_iff, Cause.isOfTerm, and_self, implies_true, true_and]
  split <;> simp

theorem checkMember_remarks : Remarks (OfTermAt node) (checkMember env node value member) := by
  unfold checkMember
  repeat' split
  all_goals simp

theorem checkConversion_remarks : Remarks (OfTermAt node) (checkConversion node operand target) := by
  simp [checkConversion]

mutual

/-- An expression is checked without a word about anything but expressions and written types. -/
theorem check_ofTerm (env : Env) : (e : Expr) → Within OfTerm (e.check env)
  | .binary family range left operator right => by
    simp only [check, within_bind, within_pure, and_true]
    exact ⟨check_ofTerm env left, check_ofTerm env right, checkBinary_remarks.ofTerm (by cases family <;> rfl)⟩
  | .unary range operator operand => by
    simp only [check, within_bind, within_pure, and_true]
    exact ⟨check_ofTerm env operand, checkUnary_remarks.ofTerm rfl⟩
  | .addressOf range operand => by
    simp only [check, within_bind, within_pure, and_true]
    exact ⟨check_ofTerm env operand, checkAddressOf_remarks.ofTerm rfl⟩
  | .dereference range operand => by
    simp only [check, within_bind, within_pure, and_true]
    exact ⟨check_ofTerm env operand, checkDereference_remarks.ofTerm rfl⟩
  | .parenthesized range inner => by
    simp only [check, within_bind, within_pure, and_true]
    exact check_ofTerm env inner
  | .reference range name => by
    simp only [check, within_bind, within_pure, and_true]
    exact checkReference_ofTermAt.ofTerm rfl
  | .literal range text => by
    simp only [check, within_bind, within_pure, and_true]
    exact checkLiteral_remarks.ofTerm rfl
  | .call range callee generics arguments => by
    simp only [check, within_bind, within_pure, and_true]
    exact ⟨checkAll_ofTerm env arguments, checkCall_ofTerm rfl⟩
  | .index range value position => by
    simp only [check, within_bind, within_pure, and_true]
    exact ⟨check_ofTerm env value, check_ofTerm env position, checkIndex_remarks.ofTerm rfl⟩
  | .member range value name => by
    simp only [check, within_bind, within_pure, and_true]
    exact ⟨check_ofTerm env value, checkMember_remarks.ofTerm rfl⟩
  | .conversion range target operand => by
    simp only [check, within_bind, within_pure, and_true]
    exact ⟨check_ofTerm env operand, target.resolve_ofTerm _, checkConversion_remarks.ofTerm rfl⟩
termination_by structural e => e

theorem checkAll_ofTerm (env : Env) : (es : List Expr) → Within OfTerm (checkAll env es)
  | [] => within_pure _
  | e :: rest => by
    simp only [checkAll, within_bind, within_pure, and_true]
    exact ⟨check_ofTerm env e, checkAll_ofTerm env rest⟩
termination_by structural es => es

end

theorem check_inTerm (env : Env) (e : Expr) : Within InTerm (e.check env) := (e.check_ofTerm env).inTerm

theorem checkOptional_inTerm : Within InTerm (checkOptional env e) := by
  cases e with
  | none => exact within_pure _
  | some e => simp [checkOptional, e.check_inTerm env]

theorem node_check_isTerm (env : Env) (e : Expr) : (e.check env).value.node.kind.isTerm = true := by
  cases e with
  | binary family range left operator right =>
    rw [check]
    simp only [value_bind, value_pure, TypedExpr.node]
    cases (checkBinary family _ operator _ _).value.1 <;> rfl
  | _ => rfl

end Expr

namespace VariableDecl

variable {node : NodeRef} {env : Env} {declaration : VariableDecl} {name : String} {constness : Constness}
  {space : AddressSpace} {ty : Ty} {type : Option TypeRef} {declared : Option Ty} {initializer : Option Facts}

theorem checkConstantInitializer_remarks : Remarks (At node) (checkConstantInitializer node name initializer) := by
  cases initializer <;> simp [checkConstantInitializer]

theorem bindingType_remarks : Remarks (At node) (bindingType node name constness declared initializer) := by
  cases declared <;> cases initializer <;> simp [bindingType]

theorem declaredType_inTerm : Within InTerm (declaredType env type) := by
  cases type with
  | none => exact within_pure _
  | some ref => simp [declaredType, ref.resolve_inTerm env.symbols]

theorem localBinding_about : Within (About ⟨.localVariable, declaration.range⟩) (declaration.localBinding env) := by
  unfold localBinding
  split
  all_goals
    simp only [within_bind, within_pure, within_report, about_self, true_and]
    refine ⟨Expr.checkOptional_inTerm.about _, declaredType_inTerm.about _, ?_⟩
    split
    · exact (within_bind _ _).mpr ⟨checkConstantInitializer_remarks.about, by simp [bindingType_remarks.about]⟩
    · simp [bindingType_remarks.about]
    · simp [bindingType_remarks.about]

theorem externalType_remarks : Remarks (At node) (externalType node name space declared initializer) := by
  cases declared <;> simp [externalType]

theorem internalType_remarks : Remarks (At node) (internalType node name constness declared initializer) := by
  cases constness <;> simp [internalType, bindingType_remarks, checkConstantInitializer_remarks]

theorem checkPlacement_remarks : Remarks (At node) (checkPlacement node name constness space ty) := by
  cases space <;> simp [checkPlacement]

theorem globalBinding_about : Within (About ⟨.globalVariable, declaration.range⟩) (declaration.globalBinding env) := by
  unfold globalBinding
  split
  all_goals
    simp only [within_bind, within_pure, within_report, about_self, true_and]
    refine ⟨Expr.checkOptional_inTerm.about _, declaredType_inTerm.about _, ?_⟩
    split
    · simp [externalType_remarks.about, checkPlacement_remarks.about]
    · simp [internalType_remarks.about, checkPlacement_remarks.about]

end VariableDecl

namespace Stmt

variable {node : NodeRef} {env : Env} {construct token : String} {operator : AssignmentOp} {ty : Ty} {seen : List Int64}
  {condition target value facts : Facts} {values : List Expr}

theorem checkCondition_remarks : Remarks (At node) (checkCondition node construct condition) := by
  simp [checkCondition]

theorem checkTarget_remarks : Remarks (At node) (checkTarget node target) := by
  unfold checkTarget
  repeat' split
  all_goals simp

theorem assignedType_remarks : Remarks (At node) (assignedType node operator target value) := by
  cases operator <;> simp [assignedType, Verdict.report_remarks]

theorem checkAssignment_remarks : Remarks (At node) (checkAssignment node token target value) := by
  unfold checkAssignment
  simp only [remarks_bind, operatorOr_remarks.at, checkTarget_remarks, true_and]
  split <;> simp [assignedType_remarks]

theorem checkStep_remarks : Remarks (At node) (checkStep node token target) := by
  unfold checkStep
  simp only [remarks_bind, operatorOr_remarks.at, checkTarget_remarks, true_and]
  split <;> simp

theorem checkReturn_remarks : Remarks (At node) (checkReturn env node ty) := by
  unfold checkReturn
  repeat' split
  all_goals simp

theorem checkCaseValue_remarks : Remarks (At node) (checkCaseValue seen node facts) := by
  unfold checkCaseValue
  repeat' split
  all_goals simp

theorem checkCaseValues_inTerm : Within InTerm (checkCaseValues env seen values) := by
  induction values generalizing seen with
  | nil => exact within_pure _
  | cons value rest ih =>
    simp only [checkCaseValues, within_bind, within_pure, and_true]
    exact ⟨value.check_inTerm env, checkCaseValue_remarks.inTerm (value.node_check_isTerm env), ih⟩

end Stmt

namespace Env

theorem register_remarks {env : Env} {node : NodeRef} {taken : Cause} {symbols : Option Symbols} :
    Remarks (At node) (env.register node taken symbols) := by
  cases symbols <;> simp [register]

end Env

namespace StructDecl

theorem collectMembers_about {symbols : Symbols} {node : NodeRef} {struct : String} {members : List (String × Ty)}
    {properties : List PropertyDecl} :
    Within (About node) (collectMembers symbols node struct members properties) := by
  induction properties generalizing members with
  | nil => exact within_pure _
  | cons property rest ih =>
    simp only [collectMembers, collectMember, within_bind]
    refine ⟨⟨(property.type.resolve_inTerm symbols).about node, ?_⟩, ih⟩
    split <;> simp

theorem check_about {env : Env} {declaration : StructDecl} :
    Within (About ⟨.structDeclaration, declaration.range⟩) (declaration.check env) := by
  simp only [check, within_bind, within_pure, and_true]
  exact ⟨collectMembers_about, Env.register_remarks.about⟩

end StructDecl

theorem AliasDecl.check_about {env : Env} {declaration : AliasDecl} :
    Within (About ⟨.aliasDeclaration, declaration.range⟩) (declaration.check env) := by
  simp only [check, within_bind, within_pure, and_true]
  exact ⟨(TypeRef.resolve_inTerm _ _).about _, Env.register_remarks.about⟩

namespace HeaderDecl

variable {node : NodeRef} {symbols : Symbols} {declaration : HeaderDecl} {generic : String} {words names : List String}
  {written : List GenericDecl} {generics : List Generic} {parameters : List ParameterDecl}

theorem collectTags_remarks : Remarks (At node) (collectTags node generic words) := by
  induction words with
  | nil => exact remarks_pure _
  | cons word rest ih =>
    rw [collectTags]
    split <;> simp [ih]

theorem collectGenerics_remarks : Remarks (At node) (collectGenerics node written) := by
  induction written with
  | nil => exact remarks_pure _
  | cons generic rest ih =>
    rw [collectGenerics]
    split <;> simp [ih, collectTags_remarks]

theorem collectParameters_about : Within (About node) (collectParameters symbols node generics names parameters) := by
  induction parameters generalizing names with
  | nil => exact within_pure _
  | cons parameter rest ih =>
    simp only [collectParameters, within_bind, within_pure, and_true]
    exact ⟨by simp, TypeRef.resolveInHeader_inTerm.about node, ih⟩

theorem collect_about : Within (About ⟨.functionHeader, declaration.range⟩) (declaration.collect symbols) := by
  simp only [collect, within_bind, within_pure, and_true]
  exact ⟨collectGenerics_remarks.about, collectParameters_about, TypeRef.resolveInHeader_inTerm.about _⟩

end HeaderDecl

namespace Attempt

variable {α β : Type} {node : NodeRef}

structure OnlyRemarks (node : NodeRef) (step : Attempt α) : Prop where
  within : ∀ incident ∈ (notes step).incidents, incident.At node
  unused : (notes step).used = []

namespace OnlyRemarks

theorem pure (a : α) : OnlyRemarks node (Pure.pure a : Attempt α) := by
  constructor <;> simp

theorem lift {step : Noted α} (remarks : Noted.Remarks (At node) step) : OnlyRemarks node (liftM step : Attempt α) := by
  constructor <;> rw [notes_lift]
  · exact remarks.within
  · exact remarks.unused

theorem bind {step : Attempt α} {next : α → Attempt β} (first : OnlyRemarks node step)
    (later : ∀ a, OnlyRemarks node (next a)) : OnlyRemarks node (step >>= next) := by
  cases ends : result step with
  | ok a =>
    have noted := notes_bind_ok ends next
    constructor <;> rw [noted]
    · exact List.forall_mem_append.mpr ⟨first.within, (later a).within⟩
    · exact List.append_eq_nil_iff.mpr ⟨first.unused, (later a).unused⟩
  | error fault =>
    have noted := notes_bind_error ends next
    constructor <;> rw [noted]
    · exact first.within
    · exact first.unused

end OnlyRemarks

end Attempt

namespace EnumDecl

open Attempt (OnlyRemarks)

theorem memberValue_remarks {node : NodeRef} {next : Int64} {member : EnumMemberDecl} :
    Noted.Remarks (At node) (memberValue node next member) := by
  unfold memberValue
  repeat' split
  all_goals simp

theorem numberAfter_remarks {node : NodeRef} {next : Int64} {value : Constant} :
    OnlyRemarks node (numberAfter next value) := by
  have silent {step : Attempt Int64} (empty : Attempt.notes step = {}) : OnlyRemarks node step := by
    constructor <;> simp [empty]
  unfold numberAfter
  repeat' split
  all_goals exact silent rfl

theorem collectMember_remarks {node : NodeRef} {enumeration : String} {collected : Collected}
    {member : EnumMemberDecl} : OnlyRemarks node (collectMember node enumeration collected member) := by
  have reports (cause : Cause) (collected : Collected) : OnlyRemarks node (do
      Noted.report node cause
      return collected) :=
    .bind (.lift ((remarks_report cause).mpr rfl)) fun _ => .pure _
  unfold collectMember
  refine .bind (.lift memberValue_remarks) fun value => ?_
  split
  · exact .pure _
  · split
    · exact reports _ _
    · refine .bind numberAfter_remarks fun next => ?_
      dsimp only
      split
      · exact reports _ _
      · exact .pure _

theorem collectMembers_remarks {node : NodeRef} {enumeration : String} {collected : Collected}
    {members : List EnumMemberDecl} : OnlyRemarks node (collectMembers node enumeration collected members) := by
  induction members generalizing collected with
  | nil => exact .pure _
  | cons member rest ih => exact .bind collectMember_remarks fun _ => ih

/-- An enum holds no expressions and no written types. -/
theorem check_remarks {env : Env} {declaration : EnumDecl} :
    OnlyRemarks ⟨.enumDeclaration, declaration.range⟩ (declaration.check env) := by
  have collects : OnlyRemarks ⟨.enumDeclaration, declaration.range⟩ declaration.collect :=
    .bind collectMembers_remarks fun _ => .bind (.lift expect_remarks) fun _ => .pure _
  exact .bind collects fun _ => .bind (.lift Env.register_remarks) fun _ => .pure _

end EnumDecl

end ShaderCheck
