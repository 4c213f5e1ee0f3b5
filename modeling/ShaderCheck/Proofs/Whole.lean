import ShaderCheck.Proofs.Outcome
import ShaderCheck.Proofs.Overloads

/-!
Types without an invalid part. Where everything in force has such a type and nothing is reported, every expression has
one too: a check gives the invalid type only where it reports something, or where it was handed one.
-/

namespace ShaderCheck

namespace Ty

/-- A type that is resolved all the way down, also in the members of its structs. -/
inductive Whole : Ty → Prop where
  | void : Whole .void
  | bool : Whole .bool
  | string : Whole .string
  | numeric (kind : NumericKind) : Whole (.numeric kind)
  | vector (dimension : Nat) {element : Ty} (inner : Whole element) : Whole (.vector dimension element)
  | matrix (rows columns : Nat) {element : Ty} (inner : Whole element) : Whole (.matrix rows columns element)
  | pointer (space : AddressSpace) {referent : Ty} (inner : Whole referent) : Whole (.pointer referent space)
  | enumeration (name : String) (underlying : Ty) : Whole (.enumeration name underlying)
  | struct (name : String) {members : List (String × Ty)} (inner : ∀ member ∈ members, Whole member.2) :
      Whole (.struct name members)

theorem Whole.isInvalid {ty : Ty} (whole : ty.Whole) : ty.isInvalid = false := by
  cases whole <;> rfl

theorem Whole.ne_invalid {ty : Ty} (whole : ty.Whole) : ty ≠ .invalid := by
  cases whole <;> exact Ty.noConfusion

theorem Whole.isSolid {ty : Ty} (whole : ty.Whole) : ty.isSolid = true := by
  induction whole with
  | vector _ _ ih | matrix _ _ _ ih | pointer _ _ ih => exact ih
  | void | bool | string | numeric | enumeration | struct => rfl

theorem Whole.common {a b : Ty} (left : a.Whole) (right : b.Whole) : (a.common b).Whole := by
  unfold Ty.common
  split
  · exact right
  · exact left

theorem Whole.concretize {ty : Ty} (whole : ty.Whole) : ty.concretize.Whole := by
  induction whole with
  | numeric kind => exact .numeric _
  | vector n _ ih => exact .vector n ih
  | matrix r c _ ih => exact .matrix r c ih
  | void => exact .void
  | bool => exact .bool
  | string => exact .string
  | pointer space inner => exact .pointer space inner
  | enumeration name underlying => exact .enumeration name underlying
  | struct name inner => exact .struct name inner

/-- A number may be used in the format that it takes on by itself. -/
theorem Whole.casts_concretize {ty : Ty} (whole : ty.Whole) : Casts ty ty.concretize := by
  induction whole with
  | numeric kind => exact .numeric (by cases kind <;> rfl)
  | vector n _ ih => exact .vector n ih
  | matrix r c _ ih => exact .matrix r c ih
  | pointer space inner => exact .refl (Whole.pointer space inner).isSolid
  | void => exact .void
  | bool => exact .bool
  | string => exact .string
  | enumeration name underlying => exact .enumeration name underlying underlying
  | struct name => exact .struct name _ _

theorem shape_matrix {ty element : Ty} {rows columns : Nat} (shape : ty.shape = .matrix rows columns element) :
    ty = .matrix rows columns element := by
  unfold Ty.shape at shape
  split at shape <;> simp_all

end Ty

namespace Verdict

def IsWhole (verdict : Verdict) : Prop := verdict.problems = [] → verdict.ty.Whole

theorem IsWhole.expecting {condition : Bool} {problem : Cause} {ty : Ty} (whole : ty.Whole) :
    (Verdict.expecting condition problem ty).IsWhole := by
  intro quiet
  cases condition with
  | true => exact whole
  | false => cases quiet

theorem IsWhole.of_problem {ty : Ty} {problem : Cause} {problems : List Cause} :
    (Verdict.mk ty (problem :: problems)).IsWhole :=
  nofun

end Verdict

open Verdict

theorem Ty.Whole.element_of_matrix {ty element : Ty} {rows columns : Nat} (whole : ty.Whole)
    (shape : ty.shape = .matrix rows columns element) : element.Whole := by
  rw [Ty.shape_matrix shape] at whole
  cases whole with
  | matrix _ _ inner => exact inner

theorem ArithmeticOp.applyType_isWhole {op : ArithmeticOp} {length dimension : Nat} {entry element result : Ty}
    {mismatch : Cause} (whole : result.Whole) :
    (op.applyType length dimension entry element result mismatch).IsWhole := by
  unfold ArithmeticOp.applyType
  split
  · exact .expecting whole
  · exact .of_problem

theorem ArithmeticOp.matrixType?_whole {op : ArithmeticOp} {r₁ c₁ r₂ c₂ : Nat} {element ty : Ty}
    (found : op.matrixType? r₁ c₁ r₂ c₂ element = some ty) (whole : element.Whole) : ty.Whole := by
  cases op with
  | plus | minus | multiply =>
    obtain ⟨-, ⟨⟩⟩ := Option.ite_none_right_eq_some.mp found
    exact .matrix _ _ whole
  | divide | modulo => cases found

theorem ArithmeticOp.resultType_isWhole (op : ArithmeticOp) {left right : Ty} (first : left.Whole)
    (second : right.Whole) : (op.resultType left right).IsWhole := by
  unfold ArithmeticOp.resultType
  simp only [first.isInvalid, second.isInvalid, Bool.or_self, Bool.false_eq_true, if_false]
  split
  case h_1 => exact .expecting (first.common second)
  case h_2 => exact .expecting second
  case h_3 => exact .expecting first
  case h_4 => exact .expecting second
  case h_5 => exact .expecting first
  case h_6 =>
    split
    · exact .expecting (first.common second)
    · exact .of_problem
  case h_7 rows columns element dimension entry matrix vector =>
    exact applyType_isWhole (.vector rows (first.element_of_matrix matrix))
  case h_8 dimension entry rows columns element vector matrix =>
    exact applyType_isWhole (.vector columns (second.element_of_matrix matrix))
  case h_9 matrix other =>
    split
    case h_1 ty found => exact .expecting (matrixType?_whole found (first.element_of_matrix matrix))
    case h_2 => exact .of_problem
  case h_10 => exact .of_problem

theorem BitwiseOp.resultType_isWhole (op : BitwiseOp) {left right : Ty} (stored : Bool) (first : left.Whole)
    (second : right.Whole) : (op.resultType left stored right).IsWhole := by
  unfold BitwiseOp.resultType
  simp only [first.isInvalid, second.isInvalid, Bool.or_self, Bool.false_eq_true, if_false]
  split
  case isTrue strange =>
    intro quiet
    rw [List.map_eq_nil_iff.mp quiet] at strange
    cases strange
  case isFalse =>
    split
    · exact .of_problem
    · split
      · exact fun _ => first
      · exact .expecting (first.common second)

theorem ComparisonOp.resultType_whole (op : ComparisonOp) (left right : Ty) : (op.resultType left right).ty.Whole := by
  unfold ComparisonOp.resultType
  cases left with
  | vector dimension => exact .vector dimension .bool
  | _ => exact .bool

abbrev noIncident : Incident → Prop := fun _ => False

namespace Noted

variable {α β : Type}

abbrev Quiet (step : Noted α) : Prop := step.Within noIncident

/-- What a step gives is as expected, unless something is reported. -/
def Gives (step : Noted α) (post : α → Prop) : Prop := Quiet step → post step.value

namespace Gives

variable {step : Noted α} {next : α → Noted β} {post : α → Prop} {last : β → Prop}

theorem pure {a : α} (holds : post a) : Gives (Pure.pure a) post := fun _ => holds

theorem bind (first : Gives step post) (second : ∀ a, post a → Gives (next a) last) :
    Gives (step >>= next) last := by
  intro quiet
  obtain ⟨early, late⟩ := (within_bind step next).mp quiet
  exact second _ (first early) late

theorem after (second : ∀ a, Gives (next a) last) : Gives (step >>= next) last :=
  fun quiet => second _ ((within_bind step next).mp quiet).2

/-- What is reported ends the argument. -/
theorem report {node : NodeRef} {cause : Cause} {next : Unit → Noted β} :
    Gives (Noted.report node cause >>= next) last :=
  fun quiet => (((within_bind _ _).mp quiet).1 _ List.mem_cons_self).elim

theorem expect {condition : Bool} {node : NodeRef} {cause : Cause} :
    Gives (Noted.expect condition node cause) fun _ => condition = true := by
  intro quiet
  have holds := (within_expect condition node cause).mp quiet
  simpa using holds

end Gives

end Noted

open Noted

theorem Verdict.IsWhole.report {verdict : Verdict} (whole : verdict.IsWhole) (node : NodeRef) :
    Gives (verdict.report node) Ty.Whole := by
  intro quiet
  cases problems : verdict.problems with
  | nil => exact whole problems
  | cons problem rest =>
    have reported : ⟨problem, some node⟩ ∈ (verdict.report node).notes.incidents := by
      simp [Verdict.report, problems]
    exact (quiet _ reported).elim

def HeaderType.Whole (type : HeaderType) : Prop := ∀ ty, type = .concrete ty → ty.Whole

structure Header.Whole (header : Header) : Prop where
  parameters : ∀ parameter ∈ header.parameters, parameter.type.Whole
  returns : header.returns.Whole

structure Symbols.Whole (symbols : Symbols) : Prop where
  aliases : ∀ entry ∈ symbols.aliases, entry.2.Whole
  structs : ∀ layout ∈ symbols.structs, layout.ty.Whole
  functions : ∀ function ∈ symbols.functions, ∀ header ∈ function.headers, header.Whole

/-- A type that is found under a name is in one of the three tables. -/
theorem Symbols.mem_of_type? {symbols : Symbols} {name : String} {ty : Ty} (found : symbols.type? name = some ty) :
    (name, ty) ∈ symbols.aliases ∨ (∃ enumeration ∈ symbols.enums, ty = enumeration.ty)
      ∨ ∃ layout ∈ symbols.structs, ty = layout.ty := by
  unfold type? at found
  cases aliased : symbols.alias? name with
  | some other =>
    rw [aliased] at found
    cases found
    exact .inl (mem_of_lookup_eq_some aliased)
  | none =>
    rw [aliased] at found
    cases named : symbols.enumeration? name with
    | some enumeration =>
      rw [named] at found
      cases found
      exact .inr (.inl ⟨enumeration, List.mem_of_find?_eq_some named, rfl⟩)
    | none =>
      rw [named] at found
      obtain ⟨layout, declared, rfl⟩ := Option.map_eq_some_iff.mp found
      exact .inr (.inr ⟨layout, List.mem_of_find?_eq_some declared, rfl⟩)

theorem Symbols.Whole.type? {symbols : Symbols} (whole : symbols.Whole) {name : String} {ty : Ty}
    (found : symbols.type? name = some ty) : ty.Whole := by
  obtain aliased | ⟨enumeration, -, rfl⟩ | ⟨layout, declared, rfl⟩ := mem_of_type? found
  · exact whole.aliases _ aliased
  · exact .enumeration _ _
  · exact whole.structs layout declared

namespace TypeRef

variable {symbols : Symbols}

theorem plain_whole {name : String} {ty : Ty} (head : TypeHead.ofName? name = some (.plain ty)) : ty.Whole := by
  unfold TypeHead.ofName? at head
  split at head
  case h_12 => simp at head
  all_goals cases head <;> constructor

theorem resolveName_whole (whole : symbols.Whole) (node : NodeRef) (name : String) (bare : Bool) :
    Gives (resolveName symbols node name bare) Ty.Whole := by
  unfold resolveName
  split
  case h_1 => exact .report
  case h_2 ty found =>
    split
    · exact .after fun _ => .pure (whole.type? found)
    · exact .report

theorem apply_whole (node : NodeRef) (former : TypeFormer) {argument : Ty} (whole : argument.Whole) :
    Gives (former.apply node argument) Ty.Whole := by
  unfold TypeFormer.apply
  split
  case h_1 => cases whole
  case h_2 =>
    split
    · exact .pure (.vector _ whole)
    · exact .report
  case h_3 =>
    split
    · exact .pure (.matrix _ _ whole)
    · exact .report
  case h_4 => exact .pure (.pointer _ whole)

theorem resolve_whole (whole : symbols.Whole) : (ref : TypeRef) → Gives (ref.resolve symbols) Ty.Whole
  | .mk range name arguments => by
    unfold resolve
    split
    case h_1 => exact resolveName_whole whole _ _ _
    case h_2 ty head =>
      split
      · exact .pure (plain_whole head)
      · exact .report
    case h_3 former head =>
      match arguments with
      | [argument] => exact .bind (resolve_whole whole argument) fun _ inner => apply_whole _ _ inner
      | [] => exact .report
      | _ :: _ :: _ => exact .report
termination_by structural ref => ref

end TypeRef

namespace Literal

inductive Simple : Ty → Prop where
  | bool : Simple .bool
  | string : Simple .string
  | numeric (kind : NumericKind) : Simple (.numeric kind)

theorem Simple.whole {ty : Ty} (simple : Simple ty) : ty.Whole := by
  cases simple with
  | bool => exact .bool
  | string => exact .string
  | numeric kind => exact .numeric kind

inductive Reads : Constant → Ty → Prop where
  | boolean (value : Bool) : Reads (.boolean value) .bool
  | string (text : String) : Reads (.string text) .string
  | integer {kind : NumericKind} {value : Int} (fits : fits kind value = true) :
      Reads (.integer (Int64.ofInt value)) (.numeric kind)
  | float (kind : NumericKind) (value : Double) : Reads (.float value) (.numeric kind)

theorem Reads.simple {value : Constant} {ty : Ty} (reads : Reads value ty) : Simple ty := by
  cases reads with
  | boolean => exact .bool
  | string => exact .string
  | integer | float => exact .numeric _

theorem integer?_reads {base : Nat} {chars : List Char} {value : Constant} {ty : Ty}
    (read : integer? base chars = some (value, ty)) : Reads value ty := by
  obtain ⟨number, -, checked⟩ := Option.bind_eq_some_iff.mp read
  obtain ⟨fits, ⟨⟩⟩ := Option.ite_none_right_eq_some.mp checked
  exact .integer fits

theorem float?_reads {kind : NumericKind} {chars : List Char} {value : Constant} {ty : Ty}
    (read : float? kind chars = some (value, ty)) : Reads value ty := by
  obtain ⟨decimal, -, ⟨⟩⟩ := Option.bind_eq_some_iff.mp read
  exact .float kind _

theorem number?_reads {chars : List Char} {value : Constant} {ty : Ty} (read : number? chars = some (value, ty)) :
    Reads value ty := by
  unfold number? at read
  split at read
  · cases read
  · exact float?_reads read
  · exact float?_reads read
  · split at read
    · split at read
      · cases read
      · exact integer?_reads read
    · split at read
      · exact float?_reads read
      · exact integer?_reads read

theorem read?_reads {text : String} {value : Constant} {ty : Ty} (read : read? text = some (value, ty)) :
    Reads value ty := by
  unfold read? at read
  split at read
  · cases read
    exact .boolean true
  · split at read
    · cases read
      exact .boolean false
    · split at read
      · cases read
        exact .string _
      · split at read
        · exact integer?_reads read
        · exact integer?_reads read
        · exact number?_reads read

theorem read?_simple {text : String} {value : Constant} {ty : Ty} (read : read? text = some (value, ty)) :
    Simple ty :=
  (read?_reads read).simple

end Literal

structure Env.Whole (env : Env) : Prop where
  bindings : ∀ scope ∈ env.scopes, ∀ binding ∈ scope.bindings, binding.ty.Whole
  symbols : env.symbols.Whole

theorem Env.mem_of_lookup? {env : Env} {name : String} {binding : Binding} (found : env.lookup? name = some binding) :
    ∃ scope ∈ env.scopes, binding ∈ scope.bindings := by
  obtain ⟨scope, member, held⟩ := List.exists_of_findSome?_eq_some found
  exact ⟨scope, member, List.mem_of_find?_eq_some held⟩

theorem Env.Whole.lookup? {env : Env} (whole : env.Whole) {name : String} {binding : Binding}
    (found : env.lookup? name = some binding) : binding.ty.Whole := by
  obtain ⟨scope, member, held⟩ := mem_of_lookup? found
  exact whole.bindings scope member binding held

namespace Expr

variable {env : Env}

theorem checkBinary_whole (family : OperatorFamily) (node : NodeRef) (token : String) {left right : Facts}
    (first : left.ty.Whole) (second : right.ty.Whole) :
    Gives (checkBinary family node token left right) fun outcome => outcome.2.ty.Whole := by
  cases family with
  | arithmetic =>
    refine .after fun op => ?_
    exact .bind ((op.resultType_isWhole first second).report node) fun _ whole => .pure whole
  | bitwise =>
    refine .after fun op => ?_
    exact .bind ((op.resultType_isWhole _ first second).report node) fun _ whole => .pure whole
  | comparison =>
    refine .after fun op => ?_
    have whole : (op.resultType left.ty right.ty).IsWhole := fun _ => op.resultType_whole _ _
    exact .bind (whole.report node) fun _ whole => .pure whole
  | logical =>
    refine .after fun op => ?_
    have whole : (LogicalOp.resultType token left.ty right.ty).IsWhole := fun _ => .bool
    exact .bind (whole.report node) fun _ whole => .pure whole

theorem checkUnary_whole (node : NodeRef) (token : String) {operand : Facts} (whole : operand.ty.Whole) :
    Gives (checkUnary node token operand) fun outcome => outcome.2.ty.Whole :=
  .after fun _ => .after fun _ => .pure whole

theorem checkAddressOf_whole (node : NodeRef) {operand : Facts} (whole : operand.ty.Whole) :
    Gives (checkAddressOf node operand) fun facts => facts.ty.Whole := by
  unfold checkAddressOf
  rw [whole.isInvalid]
  split
  · contradiction
  · split
    · exact .report
    · split
      · exact .report
      · exact .pure (.pointer _ whole)

theorem checkDereference_whole (node : NodeRef) {operand : Facts} (whole : operand.ty.Whole) :
    Gives (checkDereference node operand) fun facts => facts.ty.Whole := by
  unfold checkDereference
  split
  case h_1 referent space pointer =>
    rw [pointer] at whole
    cases whole with
    | pointer _ inner => exact .pure inner
  case h_2 invalid => exact (whole.ne_invalid invalid).elim
  case h_3 => exact .report

theorem checkReference_whole (whole : env.Whole) (node : NodeRef) (name : String) :
    Gives (checkReference env node name) fun facts => facts.ty.Whole := by
  unfold checkReference
  split
  case h_1 binding found => exact .after fun _ => .pure (whole.lookup? found)
  case h_2 =>
    split
    · exact .after fun _ => .pure (.enumeration _ _)
    · exact .report

theorem checkLiteral_whole (node : NodeRef) (text : String) :
    Gives (checkLiteral node text) fun facts => facts.ty.Whole := by
  unfold checkLiteral
  split
  case h_1 value ty read => exact .pure (Literal.read?_simple read).whole
  case h_2 => exact .report

theorem checkIndex_whole (node : NodeRef) {value index : Facts} (whole : value.ty.Whole) :
    Gives (checkIndex node value index) fun facts => facts.ty.Whole := by
  refine .after fun _ => ?_
  split
  case h_1 invalid => exact (whole.ne_invalid invalid).elim
  case h_2 dimension element vector =>
    rw [vector] at whole
    cases whole with
    | vector _ inner => exact .pure inner
  case h_3 rows columns element matrix =>
    rw [matrix] at whole
    cases whole with
    | matrix _ _ inner => exact .pure (.vector rows inner)
  case h_4 => exact .report

theorem checkMember_whole (node : NodeRef) {value : Facts} (whole : value.ty.Whole) (member : String) :
    Gives (checkMember env node value member) fun facts => facts.ty.Whole := by
  unfold checkMember
  split
  case h_1 invalid => exact (whole.ne_invalid invalid).elim
  case h_2 name members struct =>
    rw [struct] at whole
    cases whole with
    | struct _ inner =>
      split
      case h_1 ty found => exact .pure (inner _ (mem_of_lookup_eq_some found))
      case h_2 => exact .report
  case h_3 dimension element vector =>
    rw [vector] at whole
    cases whole with
    | vector _ inner =>
      split
      · exact .pure inner
      · exact .pure (.vector _ inner)
      · exact .report
  case h_4 =>
    split
    · split
      · exact .pure whole
      · exact .report
    · exact .report
  case h_5 => exact .report

theorem checkConversion_whole (node : NodeRef) (operand : Facts) {target : Ty} (whole : target.Whole) :
    Gives (checkConversion node operand target) fun facts => facts.ty.Whole :=
  .after fun _ => .pure whole

/-- A call resolves to a header of the function that its name stands for, and every argument casts into the type that
the header asks for. -/
def Resolves (symbols : Symbols) (callee : String) (arguments : List Facts) (target : CallTarget) : Prop :=
  ∃ function explicit resolution, symbols.function? callee = some function
    ∧ Overload.resolve? function (arguments.map fun facts => ⟨facts.ty, facts.space⟩) explicit = some resolution
    ∧ target = ⟨some resolution.header, resolution.generics, resolution.parameters⟩
    ∧ List.Forall₂ (fun facts ty => facts.ty.castsTo ty = true) arguments target.parameters

end Expr

namespace Overload

theorem StandsFor.whole {header : Header} {arguments : List Argument} {explicit : List Ty} {type : HeaderType} {ty : Ty}
    (stands : StandsFor header arguments explicit type ty) (declared : type.Whole)
    (passed : ∀ argument ∈ arguments, argument.ty.Whole) (written : ∀ ty ∈ explicit, ty.Whole) : ty.Whole := by
  cases stands with
  | concrete => exact declared ty rfl
  | @generic name _ bound =>
    obtain ⟨before, after, split, -⟩ | ⟨-, widest⟩ := bound
    · have member : (name, ty) ∈ (header.generics.map (·.name)).zip explicit := by
        rw [split]
        exact List.mem_append_right before List.mem_cons_self
      exact written ty (List.of_mem_zip member).2
    · obtain ⟨pair, member, -, rfl⟩ := mem_passedFor.mp widest.mem
      exact passed pair.2 (List.of_mem_zip member).2

end Overload

namespace Expr

open Overload

theorem checkCallOf_whole {symbols : Symbols} {function : Function} (whole : symbols.Whole) {callee : String}
    (found : symbols.function? callee = some function) (node : NodeRef) {explicit : List Ty}
    {arguments : List Facts} (written : ∀ ty ∈ explicit, ty.Whole) (passed : ∀ facts ∈ arguments, facts.ty.Whole) :
    Gives (checkCallOf function node callee explicit arguments)
      fun outcome => outcome.2.ty.Whole ∧ Resolves symbols callee arguments outcome.1 := by
  unfold checkCallOf
  split
  case isTrue strange =>
    simp only [Bool.or_eq_true, List.any_eq_true] at strange
    obtain ⟨facts, member, invalid⟩ | ⟨ty, member, invalid⟩ := strange
    · rw [(passed facts member).isInvalid] at invalid
      cases invalid
    · rw [(written ty member).isInvalid] at invalid
      cases invalid
  case isFalse =>
    split
    case h_1 => exact .report
    case h_2 resolution resolved =>
      obtain ⟨before, header, after, split, -, filled, -⟩ := resolveFrom_eq_some resolved
      have acceptable := instance?_isSome.mp (by rw [filled]; rfl)
      have fills := fills_of_instance? filled
      have types : ∀ argument ∈ arguments.map (fun facts => (⟨facts.ty, facts.space⟩ : Argument)),
          argument.ty.Whole := by
        simpa using passed
      have cast := fills.arguments_cast acceptable fun argument member => (types argument member).isSolid
      have resolves : Resolves symbols callee arguments
          ⟨some resolution.header, resolution.generics, resolution.parameters⟩ :=
        ⟨function, explicit, resolution, found, resolved, rfl, List.forall₂_map_left_iff.mp cast⟩
      have declared : header.Whole :=
        whole.functions function (List.mem_of_find?_eq_some found) header (by simp [split])
      split
      case h_1 ty returned =>
        have returns := fills.returns
        rw [returned] at returns
        cases returns with
        | resolved stands => exact .pure ⟨stands.whole declared.returns types written, resolves⟩
      case h_2 => exact .report

theorem resolveAll_whole {symbols : Symbols} (whole : symbols.Whole) (refs : List TypeRef) :
    Gives (TypeRef.resolveAll symbols refs) fun types => ∀ ty ∈ types, ty.Whole := by
  induction refs with
  | nil => exact .pure (by simp)
  | cons ref rest ih =>
    refine .bind (ref.resolve_whole whole) fun ty first => .bind ih fun types others => .pure ?_
    exact List.forall_mem_cons.mpr ⟨first, others⟩

theorem checkCall_whole (whole : env.Whole) (node : NodeRef) (callee : String) (generics : List TypeRef)
    {arguments : List Facts} (passed : ∀ facts ∈ arguments, facts.ty.Whole) :
    Gives (checkCall env node callee generics arguments)
      fun outcome => outcome.2.ty.Whole ∧ Resolves env.symbols callee arguments outcome.1 := by
  refine .after fun _ => ?_
  split
  case h_1 => exact .report
  case h_2 function found =>
    refine .bind (resolveAll_whole whole.symbols generics) fun explicit written => ?_
    exact checkCallOf_whole whole.symbols found node written passed

mutual

/-- Where everything in force is whole, an expression that nothing is reported about has a whole type. -/
theorem check_whole (whole : env.Whole) : (e : Expr) → Gives (check env e) fun typed => typed.facts.ty.Whole
  | .binary family _ left operator right => by
    refine .bind (check_whole whole left) fun _ first => ?_
    refine .bind (check_whole whole right) fun _ second => ?_
    exact .bind (checkBinary_whole family _ operator first second) fun _ result => .pure result
  | .unary _ operator operand => by
    refine .bind (check_whole whole operand) fun _ inner => ?_
    exact .bind (checkUnary_whole _ operator inner) fun _ result => .pure result
  | .addressOf _ operand => by
    refine .bind (check_whole whole operand) fun _ inner => ?_
    exact .bind (checkAddressOf_whole _ inner) fun _ result => .pure result
  | .dereference _ operand => by
    refine .bind (check_whole whole operand) fun _ inner => ?_
    exact .bind (checkDereference_whole _ inner) fun _ result => .pure result
  | .parenthesized _ inner => .bind (check_whole whole inner) fun _ result => .pure result
  | .reference _ name => .bind (checkReference_whole whole _ name) fun _ result => .pure result
  | .literal _ text => .bind (checkLiteral_whole _ text) fun _ result => .pure result
  | .call _ callee generics arguments => by
    refine .bind (checkAll_whole whole arguments) fun _ passed => ?_
    exact .bind (checkCall_whole whole _ callee generics (List.forall_mem_map.mpr passed))
      fun _ result => .pure result.1
  | .index _ value _ => by
    refine .bind (check_whole whole value) fun _ inner => .after fun _ => ?_
    exact .bind (checkIndex_whole _ inner) fun _ result => .pure result
  | .member _ value name => by
    refine .bind (check_whole whole value) fun _ inner => ?_
    exact .bind (checkMember_whole _ inner name) fun _ result => .pure result
  | .conversion _ target _ => by
    refine .after fun _ => .bind (target.resolve_whole whole.symbols) fun _ inner => ?_
    exact .bind (checkConversion_whole _ _ inner) fun _ result => .pure result
termination_by structural e => e

theorem checkAll_whole (whole : env.Whole) : (es : List Expr) →
    Gives (checkAll env es) fun typed => ∀ e ∈ typed, e.facts.ty.Whole
  | [] => .pure (by simp)
  | e :: rest => by
    refine .bind (check_whole whole e) fun _ first => ?_
    refine .bind (checkAll_whole whole rest) fun _ others => ?_
    exact .pure (List.forall_mem_cons.mpr ⟨first, others⟩)
termination_by structural es => es

end

end Expr

end ShaderCheck
