import Mathlib.Data.List.Forall2
import ShaderCheck.Proofs.Whole

/-!
What becomes of an expression where a name in it turns invalid. An operand without a type is nothing to complain about,
so an expression that nothing is reported about stays so as its parts fade to the invalid type. Comparisons are the
exception: they give a type whatever they compare, and take a vector on their left that has faded for a scalar.
-/

namespace ShaderCheck

open Noted

def Binding.blur (binding : Binding) : Binding := { binding with ty := .invalid }

def Scope.blur (name : String) (scope : Scope) : Scope :=
  { scope with bindings := scope.bindings.modify (scope.bindings.findIdx (·.name = name)) Binding.blur }

/-- What is in force if the value that a name stands for has the invalid type, and everything else is as it was. -/
def Env.blur (env : Env) (name : String) : Env :=
  { env with scopes :=
      env.scopes.modify (env.scopes.findIdx fun scope => (scope.find? name).isSome) (Scope.blur name) }

theorem Scope.find?_blur (scope : Scope) (name other : String) :
    (scope.blur name).find? other =
      if other = name then (scope.find? other).map Binding.blur else scope.find? other := by
  obtain ⟨kind, owner, bindings⟩ := scope
  induction bindings with
  | nil => simp [Scope.find?, Scope.blur]
  | cons binding rest ih =>
    simp only [Scope.find?, Scope.blur, List.findIdx_cons] at ih ⊢
    by_cases named : binding.name = name
    · by_cases same : other = name
      · simp [named, same, Binding.blur]
      · simp [named, same, Ne.symm same, Binding.blur]
    · by_cases found : binding.name = other
      · have differs : other ≠ name := found ▸ named
        simp [found, differs]
      · simpa [named, found] using ih

/-- Only the name itself comes to stand for something else. -/
theorem Env.lookup?_blur (env : Env) (name other : String) :
    (env.blur name).lookup? other =
      if other = name then (env.lookup? other).map Binding.blur else env.lookup? other := by
  obtain ⟨document, scopes, symbols⟩ := env
  induction scopes with
  | nil => simp [Env.lookup?, Env.blur]
  | cons scope rest ih =>
    simp only [Env.lookup?, Env.blur, List.findIdx_cons] at ih ⊢
    cases held : scope.find? name with
    | some binding =>
      by_cases same : other = name
      · subst same
        simp [held, Scope.find?_blur]
      · simp [List.findSome?_cons, Scope.find?_blur, same]
    | none =>
      by_cases same : other = name
      · subst same
        simpa [held] using ih
      · simp only [Option.isSome_none, cond_false, List.modify_succ_cons, List.findSome?_cons, if_neg same] at ih ⊢
        rw [ih]

/-- An operand fades: its type turns invalid, or all that is read of it stays. -/
inductive Facts.Fades (before after : Facts) : Prop where
  | gone (invalid : after.ty = .invalid)
  | kept (ty : after.ty = before.ty) (storage : after.storage = before.storage) (space : after.space = before.space)
      (enumName : after.enumName = before.enumName)

namespace Facts.Fades

theorem refl (facts : Facts) : facts.Fades facts := .kept rfl rfl rfl rfl

theorem computed {before after : Ty} (fades : after = .invalid ∨ after = before) (constness constness' : Constness) :
    (Facts.computed before constness).Fades (.computed after constness') := by
  obtain invalid | same := fades
  · exact .gone invalid
  · exact .kept same rfl rfl rfl

variable {before after : Facts}

theorem ty (fades : before.Fades after) : after.ty = .invalid ∨ after.ty = before.ty := by
  cases fades with
  | gone invalid => exact .inl invalid
  | kept ty => exact .inr ty

end Facts.Fades

namespace Noted

variable {α β γ δ : Type}

theorem quiet_iff (step : Noted α) : Quiet step ↔ step.notes.incidents = [] := by
  simp [Within, noIncident, List.eq_nil_iff_forall_not_mem]

/-- If the first of two steps reports nothing then neither does the second, and what they give is related. -/
def Follows (rel : α → β → Prop) (first : Noted α) (second : Noted β) : Prop :=
  Quiet first → Quiet second ∧ rel first.value second.value

namespace Follows

variable {rel : α → β → Prop} {last : γ → δ → Prop} {first : Noted α} {second : Noted β}

theorem pure {a : α} {b : β} (related : rel a b) : Follows rel (Pure.pure a) (Pure.pure b) :=
  fun _ => ⟨within_pure b, related⟩

theorem bind {next : α → Noted γ} {next' : β → Noted δ} (starts : Follows rel first second)
    (goesOn : ∀ a b, rel a b → Follows last (next a) (next' b)) : Follows last (first >>= next) (second >>= next') := by
  intro quiet
  obtain ⟨early, late⟩ := (within_bind first next).mp quiet
  obtain ⟨silent, related⟩ := starts early
  obtain ⟨silent', held⟩ := goesOn _ _ related late
  exact ⟨(within_bind second next').mpr ⟨silent, silent'⟩, held⟩

theorem same (step : Noted α) : Follows Eq step step := fun quiet => ⟨quiet, rfl⟩

/-- The same step may come first. -/
theorem after {step : Noted α} {next : α → Noted γ} {next' : α → Noted δ}
    (goesOn : ∀ a, Follows last (next a) (next' a)) : Follows last (step >>= next) (step >>= next') := by
  refine (same step).bind ?_
  rintro a _ rfl
  exact goesOn a

/-- Both steps may expect something, if the second expects no more than the first. -/
theorem expect {condition condition' : Bool} {node : NodeRef} {cause cause' : Cause} {next : Unit → Noted γ}
    {next' : Unit → Noted δ} (holds : condition = true → condition' = true)
    (goesOn : Follows last (next ()) (next' ())) :
    Follows last (Noted.expect condition node cause >>= next) (Noted.expect condition' node cause' >>= next') := by
  intro quiet
  obtain ⟨early, late⟩ := (within_bind _ _).mp quiet
  have held := holds (Gives.expect early)
  obtain ⟨silent, related⟩ := goesOn late
  refine ⟨(within_bind _ _).mpr ⟨?_, silent⟩, related⟩
  simp [held]

/-- What is reported ends the argument. -/
theorem report {node : NodeRef} {cause : Cause} {next : Unit → Noted γ} {other : Noted δ} :
    Follows last (Noted.report node cause >>= next) other :=
  fun quiet => (((within_bind _ _).mp quiet).1 _ List.mem_cons_self).elim

end Follows

end Noted

def Ty.isVector : Ty → Bool
  | .vector .. => true
  | _ => false

structure Verdict.Fades (before after : Verdict) : Prop where
  silent : before.problems = [] → after.problems = []
  ty : after.ty = .invalid ∨ after.ty = before.ty

namespace Verdict

theorem Fades.refl (verdict : Verdict) : verdict.Fades verdict := ⟨id, .inr rfl⟩

theorem Fades.gone (before : Verdict) : before.Fades ⟨.invalid, []⟩ := ⟨fun _ => rfl, .inl rfl⟩

theorem quiet_report (verdict : Verdict) (node : NodeRef) : Quiet (verdict.report node) ↔ verdict.problems = [] := by
  rw [Quiet, Within, Verdict.report]
  simp [List.eq_nil_iff_forall_not_mem]

theorem Fades.report {before after : Verdict} (fades : before.Fades after) (node : NodeRef) :
    Follows (fun ty ty' => ty' = .invalid ∨ ty' = ty) (before.report node) (after.report node) := by
  intro quiet
  exact ⟨(quiet_report _ node).mpr (fades.silent ((quiet_report _ node).mp quiet)), fades.ty⟩

end Verdict

section Operators

variable {left left' right right' : Ty} (first : left' = .invalid ∨ left' = left)
  (second : right' = .invalid ∨ right' = right)

include first second

theorem ArithmeticOp.resultType_fades (op : ArithmeticOp) :
    (op.resultType left right).Fades (op.resultType left' right') := by
  obtain rfl | rfl := first
  · exact .gone _
  · obtain rfl | rfl := second
    · rw [ArithmeticOp.resultType, ArithmeticOp.resultType]
      simpa [Ty.isInvalid] using Verdict.Fades.gone _
    · exact .refl _

theorem BitwiseOp.resultType_fades (op : BitwiseOp) (stored stored' : Bool)
    (storage : left' = .invalid ∨ stored' = stored) :
    (op.resultType left stored right).Fades (op.resultType left' stored' right') := by
  obtain rfl | rfl := first
  · exact .gone _
  · obtain rfl | rfl := second
    · rw [BitwiseOp.resultType, BitwiseOp.resultType]
      simpa [Ty.isInvalid] using Verdict.Fades.gone _
    · obtain rfl | rfl := storage
      · exact .gone _
      · exact .refl _

theorem LogicalOp.resultType_fades (token : String) :
    (LogicalOp.resultType token left right).Fades (LogicalOp.resultType token left' right') := by
  refine ⟨fun silent => ?_, .inr rfl⟩
  simp only [LogicalOp.resultType, List.map_eq_nil_iff, List.filter_eq_nil_iff, List.forall_mem_cons] at silent ⊢
  refine ⟨?_, ?_, nofun⟩
  · obtain rfl | rfl := first
    · simp [Ty.isInvalid]
    · exact silent.1
  · obtain rfl | rfl := second
    · simp [Ty.isInvalid]
    · exact silent.2.1

/-- A comparison goes on to give the type it gave, unless there was a vector on its left. -/
theorem ComparisonOp.resultType_fades (op : ComparisonOp)
    (keeps : (left'.isInvalid && left.isVector) = false) :
    (op.resultType left right).Fades (op.resultType left' right') := by
  constructor
  · intro silent
    obtain rfl | rfl := first
    · rfl
    · obtain rfl | rfl := second
      · simp [ComparisonOp.resultType, ComparisonOp.problems, Ty.isInvalid]
      · exact silent
  · obtain rfl | rfl := first
    · refine .inr ?_
      cases left with
      | vector => cases keeps
      | _ => rfl
    · exact .inr rfl

end Operators

namespace Expr

mutual

def nodes : Expr → List Expr
  | .binary family range left operator right => .binary family range left operator right :: (nodes left ++ nodes right)
  | .unary range operator operand => .unary range operator operand :: nodes operand
  | .addressOf range operand => .addressOf range operand :: nodes operand
  | .dereference range operand => .dereference range operand :: nodes operand
  | .parenthesized range inner => .parenthesized range inner :: nodes inner
  | .reference range name => [.reference range name]
  | .literal range text => [.literal range text]
  | .call range callee generics arguments => .call range callee generics arguments :: nodesOfAll arguments
  | .index range value position => .index range value position :: (nodes value ++ nodes position)
  | .member range value name => .member range value name :: nodes value
  | .conversion range target operand => .conversion range target operand :: nodes operand
termination_by structural e => e

def nodesOfAll : List Expr → List Expr
  | [] => []
  | e :: rest => nodes e ++ nodesOfAll rest
termination_by structural es => es

end

def keepsVector (env after : Env) : Expr → Bool
  | .binary .comparison _ left _ _ =>
    !((left.check after).value.facts.ty.isInvalid && (left.check env).value.facts.ty.isVector)
  | _ => true

section Forms

variable {a a' b b' : Facts} (node : NodeRef)

theorem checkBinary_fades (family : OperatorFamily) (token : String) (left : a.Fades a') (right : b.Fades b')
    (keeps : family = .comparison → (a'.ty.isInvalid && a.ty.isVector) = false) :
    Follows (fun x y => x.2.Fades y.2) (checkBinary family node token a b) (checkBinary family node token a' b') := by
  cases family with
  | arithmetic =>
    refine .after fun op => ((op.resultType_fades left.ty right.ty).report node).bind fun ty ty' fades => ?_
    exact .pure (.computed fades _ _)
  | bitwise =>
    have storage : a'.ty = .invalid ∨ a'.storage = a.storage := by
      cases left with
      | gone invalid => exact .inl invalid
      | kept _ storage => exact .inr storage
    refine .after fun op => ((op.resultType_fades left.ty right.ty _ _ storage).report node).bind fun ty ty' fades => ?_
    exact .pure (.computed fades _ _)
  | comparison =>
    refine .after fun op => ((op.resultType_fades left.ty right.ty (keeps rfl)).report node).bind fun ty ty' fades => ?_
    exact .pure (.computed fades _ _)
  | logical =>
    refine .after fun op =>
      ((LogicalOp.resultType_fades left.ty right.ty token).report node).bind fun ty ty' fades => ?_
    exact .pure (.computed fades _ _)

theorem checkUnary_fades (token : String) (operand : a.Fades a') :
    Follows (fun x y => x.2.Fades y.2) (checkUnary node token a) (checkUnary node token a') := by
  refine .after fun op => .expect ?_ (.pure ?_)
  · intro accepted
    obtain invalid | same := operand.ty
    · rw [invalid]
      rfl
    · rwa [same]
  · obtain invalid | same := operand.ty
    · exact .gone invalid
    · exact .kept same rfl rfl rfl

theorem checkAddressOf_fades (operand : a.Fades a') :
    Follows Facts.Fades (checkAddressOf node a) (checkAddressOf node a') := by
  cases operand with
  | gone invalid =>
    intro
    rw [checkAddressOf, invalid]
    exact ⟨within_pure _, .gone rfl⟩
  | kept ty storage space =>
    rw [checkAddressOf, checkAddressOf, ty, storage, space]
    exact fun quiet => ⟨quiet, .refl _⟩

theorem checkDereference_fades (operand : a.Fades a') :
    Follows Facts.Fades (checkDereference node a) (checkDereference node a') := by
  obtain invalid | same := operand.ty
  · intro
    rw [checkDereference, invalid]
    exact ⟨within_pure _, .gone rfl⟩
  · rw [checkDereference, checkDereference, same]
    exact fun quiet => ⟨quiet, .refl _⟩

theorem checkIndex_fades (value : a.Fades a') (index : b.Fades b') :
    Follows Facts.Fades (checkIndex node a b) (checkIndex node a' b') := by
  refine .expect ?_ ?_
  · intro whole
    obtain invalid | same := index.ty
    · rw [invalid]
      rfl
    · rwa [same]
  · cases value with
    | gone invalid =>
      intro
      rw [invalid]
      exact ⟨within_pure _, .gone rfl⟩
    | kept ty storage space =>
      rw [ty, storage, space]
      split
      case h_1 | h_2 | h_3 => exact .pure (.kept rfl rfl rfl rfl)
      case h_4 => exact .report

theorem checkMember_fades {env after : Env} (symbols : after.symbols = env.symbols) (value : a.Fades a')
    (member : String) : Follows Facts.Fades (checkMember env node a member) (checkMember after node a' member) := by
  cases value with
  | gone invalid =>
    intro
    rw [checkMember, invalid]
    exact ⟨within_pure _, .gone rfl⟩
  | kept ty storage space enumName =>
    unfold checkMember
    rw [ty, storage, space, enumName, symbols]
    split
    case h_1 => exact .pure (.refl _)
    case h_2 =>
      split
      · exact .pure (.kept rfl rfl rfl rfl)
      · exact .report
    case h_3 =>
      split
      · exact .pure (.kept rfl rfl rfl rfl)
      · exact .pure (.kept rfl rfl rfl rfl)
      · exact .report
    case h_4 =>
      split
      · split
        · exact .pure (.refl _)
        · exact .report
      · exact .report
    case h_5 => exact .report

theorem checkConversion_fades (operand : a.Fades a') (target : Ty) :
    Follows Facts.Fades (checkConversion node a target) (checkConversion node a' target) := by
  refine .expect ?_ (.pure (.computed (.inr rfl) _ _))
  intro converts
  obtain invalid | same := operand.ty
  · rw [invalid]
    rfl
  · rwa [same]

theorem checkReference_fades (env : Env) (name other : String) :
    Follows Facts.Fades (checkReference env node other) (checkReference (env.blur name) node other) := by
  unfold checkReference
  rw [Env.lookup?_blur]
  cases found : env.lookup? other with
  | none =>
    rw [Option.map_none, ite_self]
    exact fun quiet => ⟨quiet, .refl _⟩
  | some binding =>
    by_cases same : other = name
    · rw [if_pos same]
      exact .after fun _ => .pure (.gone rfl)
    · rw [if_neg same]
      exact .after fun _ => .pure (.refl _)

end Forms

/-- Arguments that are still there are the same. -/
theorem arguments_eq {before after : List Facts} (fade : List.Forall₂ Facts.Fades before after)
    (valid : after.any (·.ty.isInvalid) = false) :
    after.map (·.ty) = before.map (·.ty)
      ∧ after.map (fun facts => (⟨facts.ty, facts.space⟩ : Overload.Argument))
        = before.map fun facts => ⟨facts.ty, facts.space⟩ := by
  induction fade with
  | nil => exact ⟨rfl, rfl⟩
  | cons first _ ih =>
    rw [List.any_cons, Bool.or_eq_false_iff] at valid
    obtain ⟨types, arguments⟩ := ih valid.2
    cases first with
    | gone invalid => simp [invalid, Ty.isInvalid] at valid
    | kept ty _ space => simp only [List.map_cons, ty, space, types, arguments, and_self]

/-- A call with an argument that faded is not resolved, and not reported. -/
theorem checkCallOf_fades (node : NodeRef) (function : Function) (callee : String) (explicit : List Ty)
    {before after : List Facts} (fade : List.Forall₂ Facts.Fades before after) :
    Follows (fun x y => x.2.Fades y.2) (checkCallOf function node callee explicit before)
      (checkCallOf function node callee explicit after) := by
  cases valid : after.any (·.ty.isInvalid) with
  | true =>
    intro
    rw [checkCallOf.eq_def function node callee explicit after, if_pos (by rw [valid]; rfl)]
    exact ⟨within_pure _, .gone rfl⟩
  | false =>
    obtain ⟨types, arguments⟩ := arguments_eq fade valid
    have same : before.any (·.ty.isInvalid) = after.any (·.ty.isInvalid) := by
      have maps := congrArg (List.any · Ty.isInvalid) types
      simpa only [List.any_map, Function.comp_def] using maps.symm
    have equal :
        checkCallOf function node callee explicit after = checkCallOf function node callee explicit before := by
      rw [checkCallOf, checkCallOf, arguments, types, same]
    rw [equal]
    exact fun quiet => ⟨quiet, .refl _⟩

theorem checkCall_fades (node : NodeRef) {env after : Env} (symbols : after.symbols = env.symbols) (callee : String)
    (generics : List TypeRef) {before later : List Facts} (fade : List.Forall₂ Facts.Fades before later) :
    Follows (fun x y => x.2.Fades y.2) (checkCall env node callee generics before)
      (checkCall after node callee generics later) := by
  unfold checkCall
  rw [symbols]
  refine .after fun _ => ?_
  split
  · exact .report
  · exact .after fun explicit => checkCallOf_fades node _ callee explicit fade

mutual

/-- Where a name turns invalid, an expression that nothing is reported about fades, as long as no comparison in it loses
a vector. -/
theorem check_fades (env : Env) (name : String) : (e : Expr) →
    (∀ sub ∈ e.nodes, sub.keepsVector env (env.blur name) = true) →
    Follows (fun before after => before.facts.Fades after.facts) (check env e) (check (env.blur name) e)
  | .binary family range left operator right, keeps => by
    obtain ⟨itself, parts⟩ := List.forall_mem_cons.mp keeps
    obtain ⟨first, second⟩ := List.forall_mem_append.mp parts
    intro quiet
    have operands := quiet
    simp only [check, within_bind] at operands
    -- The condition speaks of the types that the check gives the left operand, so these have to stay in sight.
    obtain ⟨silent, faded⟩ := check_fades env name left first operands.1
    obtain ⟨silent', faded'⟩ := check_fades env name right second operands.2.1
    have stays : family = .comparison →
        ((check (env.blur name) left).value.facts.ty.isInvalid && (check env left).value.facts.ty.isVector) = false := by
      rintro rfl
      simpa only [keepsVector, Bool.not_eq_true'] using itself
    obtain ⟨silent'', result⟩ := checkBinary_fades _ family operator faded faded' stays operands.2.2.1
    refine ⟨?_, result⟩
    simp only [check, within_bind]
    exact ⟨silent, silent', silent'', within_pure _⟩
  | .unary range operator operand, keeps => by
    refine (check_fades env name operand (List.forall_mem_cons.mp keeps).2).bind fun _ _ faded => ?_
    exact (checkUnary_fades _ operator faded).bind fun _ _ result => .pure result
  | .addressOf range operand, keeps => by
    refine (check_fades env name operand (List.forall_mem_cons.mp keeps).2).bind fun _ _ faded => ?_
    exact (checkAddressOf_fades _ faded).bind fun _ _ result => .pure result
  | .dereference range operand, keeps => by
    refine (check_fades env name operand (List.forall_mem_cons.mp keeps).2).bind fun _ _ faded => ?_
    exact (checkDereference_fades _ faded).bind fun _ _ result => .pure result
  | .parenthesized range inner, keeps =>
    (check_fades env name inner (List.forall_mem_cons.mp keeps).2).bind fun _ _ faded => .pure faded
  | .reference range other, _ => (checkReference_fades _ env name other).bind fun _ _ result => .pure result
  | .literal range text, _ => .after fun facts => .pure (.refl facts)
  | .call range callee generics arguments, keeps => by
    refine (checkAll_fades env name arguments (List.forall_mem_cons.mp keeps).2).bind fun _ _ faded => ?_
    have passed := List.forall₂_map_left_iff.mpr (List.forall₂_map_right_iff.mpr faded)
    exact (checkCall_fades _ rfl callee generics passed).bind fun _ _ result => .pure result
  | .index range value position, keeps => by
    obtain ⟨first, second⟩ := List.forall_mem_append.mp (List.forall_mem_cons.mp keeps).2
    refine (check_fades env name value first).bind fun _ _ faded => ?_
    refine (check_fades env name position second).bind fun _ _ faded' => ?_
    exact (checkIndex_fades _ faded faded').bind fun _ _ result => .pure result
  | .member range value other, keeps => by
    refine (check_fades env name value (List.forall_mem_cons.mp keeps).2).bind fun _ _ faded => ?_
    exact (checkMember_fades _ rfl faded other).bind fun _ _ result => .pure result
  | .conversion range target operand, keeps => by
    refine (check_fades env name operand (List.forall_mem_cons.mp keeps).2).bind fun _ _ faded => .after fun ty => ?_
    exact (checkConversion_fades _ faded ty).bind fun _ _ result => .pure result
termination_by structural e => e

theorem checkAll_fades (env : Env) (name : String) : (es : List Expr) →
    (∀ sub ∈ nodesOfAll es, sub.keepsVector env (env.blur name) = true) →
    Follows (List.Forall₂ fun before after => before.facts.Fades after.facts) (checkAll env es)
      (checkAll (env.blur name) es)
  | [], _ => .pure .nil
  | e :: rest, keeps => by
    obtain ⟨first, others⟩ := List.forall_mem_append.mp keeps
    refine (check_fades env name e first).bind fun _ _ faded => ?_
    exact (checkAll_fades env name rest others).bind fun _ _ tail => .pure (.cons faded tail)
termination_by structural es => es

end

/-- The type of a comparison has the shape of what stands on its left. -/
theorem check_comparison_ty (env : Env) (range : Span) (left : Expr) (operator : String) (right : Expr) :
    (check env (.binary .comparison range left operator right)).value.facts.ty =
      match (check env left).value.facts.ty with
      | .vector dimension _ => .vector dimension .bool
      | _ => .bool := rfl

/-- Whether anything is reported about an indexed value. -/
theorem quiet_check_index_zero (env : Env) (range : Span) (value : Expr) :
    Quiet (check env (.index range value (.literal range "0"))) ↔
      Quiet (check env value) ∧ match (check env value).value.facts.ty with
        | .invalid | .vector .. | .matrix .. => True
        | _ => False := by
  have zero : Literal.read? "0" = some (.integer 0, .numeric .abstractInt) := by decide +kernel
  have whole : (Ty.numeric .abstractInt).isIntegral = true := rfl
  simp only [check, checkLiteral, checkIndex, zero, within_bind, value_bind]
  cases (check env value).value.facts.ty <;>
    simp only [Facts.computed, TypedExpr.facts, whole, within_pure, within_bind, within_report, within_expect,
      value_pure, value_bind, Bool.or_true, Bool.true_eq_false, imp_self, and_self, and_true, and_false]

/-- A comparison that loses a vector leaves a scalar in its place, which cannot be indexed. -/
theorem check_index_of_lost {env after : Env} {range : Span} {left right : Expr} {operator : String}
    (quiet : Quiet (check env (.binary .comparison range left operator right)))
    (lost : keepsVector env after (.binary .comparison range left operator right) = false) :
    let indexed := Expr.index range (.binary .comparison range left operator right) (.literal range "0")
    Quiet (check env indexed) ∧ ¬ Quiet (check after indexed) := by
  simp only [keepsVector, Bool.not_eq_eq_eq_not, Bool.not_false, Bool.and_eq_true] at lost
  obtain ⟨faded, vector⟩ := lost
  constructor
  · refine (quiet_check_index_zero ..).mpr ⟨quiet, ?_⟩
    rw [check_comparison_ty]
    generalize (check env left).value.facts.ty = ty at vector ⊢
    cases ty with
    | vector => trivial
    | _ => cases vector
  · intro silent
    have scalar := ((quiet_check_index_zero ..).mp silent).2
    rw [check_comparison_ty] at scalar
    generalize (check after left).value.facts.ty = ty at faded scalar
    cases ty with
    | invalid => exact scalar
    | _ => cases faded

/-- An expression that nothing is reported about stays so when a name turns invalid, unless that takes a vector from the
left of a comparison in it; and then the vector that the comparison gave is missed wherever it was used as one. -/
theorem quiet_blur (env : Env) (name : String) :
    (∀ e : Expr, (check env e).notes.incidents = [] → (∀ sub ∈ e.nodes, sub.keepsVector env (env.blur name) = true) →
      (check (env.blur name) e).notes.incidents = [] ∧
      (check env e).value.facts.Fades (check (env.blur name) e).value.facts) ∧
    ∀ range left operator right, let comparison := Expr.binary .comparison range left operator right
      (check env comparison).notes.incidents = [] → comparison.keepsVector env (env.blur name) = false →
      (check env (.index range comparison (.literal range "0"))).notes.incidents = [] ∧
      (check (env.blur name) (.index range comparison (.literal range "0"))).notes.incidents ≠ [] := by
  simp only [ne_eq, ← quiet_iff]
  exact ⟨fun e quiet keeps => check_fades env name e keeps quiet,
    fun range left operator right quiet lost => check_index_of_lost quiet lost⟩

def vectors : Env :=
  let value (name : String) (ty : Ty) : Binding := ⟨name, ty, .variable, .function, none⟩
  let document : NodeRef := ⟨.document, .origin⟩
  { document := some document
    scopes := [⟨.global, .construct document, [value "x" (.vector 3 .f32), value "y" (.vector 3 .f32), value "f" .f32]⟩] }

/-- The expression `(x == y).x`. -/
def componentOfEquality : Expr :=
  .member .origin (.parenthesized .origin
    (.binary .comparison .origin (.reference .origin "x") "==" (.reference .origin "y"))) "x"

/-- Where a name turns invalid, a report can come up about an expression that had none. -/
theorem componentOfEquality_blur :
    (vectors.lookup? "x").map (·.ty) = some (.vector 3 .f32) ∧
    (check vectors componentOfEquality).notes.incidents = [] ∧
    (check (vectors.blur "x") componentOfEquality).notes.incidents =
      [⟨.noMembers .bool "x", some ⟨.member, .origin⟩⟩] := by
  decide +kernel

/-- The expression `(x == y * f).x`. -/
def componentOfScaled : Expr :=
  .member .origin (.parenthesized .origin (.binary .comparison .origin (.reference .origin "x") "=="
    (.binary .arithmetic .origin (.reference .origin "y") "*" (.reference .origin "f")))) "x"

theorem quiet_blur_vectors :
    (check vectors componentOfScaled).notes.incidents = [] ∧
    (∀ sub ∈ componentOfScaled.nodes, sub.keepsVector vectors (vectors.blur "y") = true) ∧
    (check (vectors.blur "y") componentOfScaled).notes.incidents = [] ∧
    let comparison := Expr.binary .comparison .origin (.reference .origin "y") "<" (.reference .origin "x")
    (check vectors comparison).notes.incidents = [] ∧ comparison.keepsVector vectors (vectors.blur "y") = false ∧
    (check (vectors.blur "y") (.index .origin comparison (.literal .origin "0"))).notes.incidents ≠ [] := by
  have quiet : (check vectors componentOfScaled).notes.incidents = [] := by decide +kernel
  have keeps : ∀ sub ∈ componentOfScaled.nodes, sub.keepsVector vectors (vectors.blur "y") = true := by decide +kernel
  obtain ⟨stays, missed⟩ := quiet_blur vectors "y"
  refine ⟨quiet, keeps, (stays _ quiet keeps).1, by decide +kernel, by decide +kernel, ?_⟩
  exact (missed _ _ _ _ (by decide +kernel) (by decide +kernel)).2

end Expr

end ShaderCheck
