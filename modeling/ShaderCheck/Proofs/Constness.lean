import ShaderCheck.Proofs.EnumNames
import ShaderCheck.Proofs.Nodes

/-!
Which expressions are constant. Every form of an expression works out by itself whether it is, from its operands and from
what is wrong with it. It all comes to one rule, which looks at the leaves of an expression and at three of its forms: an
expression is constant if its names stand for constants and enums, and nothing in it is a call, an address or the place
that a pointer leads to. Only an expression that holds something invalid may fall short of the rule, and never the other
way round.
-/

namespace ShaderCheck

open Noted

theorem Constness.meet_eq_constant {a b : Constness} : a.meet b = .constant ↔ a = .constant ∧ b = .constant := by
  cases a <;> cases b <;> decide

def Env.namesConstant (env : Env) (name : String) : Bool :=
  match env.lookup? name with
  | some binding => binding.constness = .constant
  | none => (env.symbols.enumeration? name).isSome

/-- Whether a part of an expression leaves it to the other parts if the expression is constant. -/
def Expr.allowsConstant (env : Env) : Expr → Bool
  | .call .. | .addressOf .. | .dereference .. => false
  | .reference _ name => env.namesConstant name
  | .binary .. | .unary .. | .parenthesized .. | .literal .. | .index .. | .member .. | .conversion .. => true

/-- Facts are unresolved, or have the given constness. -/
def Facts.Keeps (facts : Facts) (constness : Constness) : Prop := facts = .unresolved ∨ facts.constness = constness

namespace Facts.Keeps

variable {facts : Facts} {constness : Constness}

theorem eq_constant (keeps : facts.Keeps constness) (constant : facts.constness = .constant) : constness = .constant := by
  rcases keeps with rfl | same
  · cases constant
  · exact same.symm.trans constant

theorem constant (keeps : facts.Keeps constness) (valid : facts.ty ≠ .invalid) (constant : constness = .constant) :
    facts.constness = .constant := by
  rcases keeps with rfl | same
  · exact absurd rfl valid
  · exact same.trans constant

end Facts.Keeps

namespace Expr

section Forms

variable (node : NodeRef)

theorem checkBinary_keeps (family : OperatorFamily) (token : String) (left right : Facts) :
    (checkBinary family node token left right).value.2.Keeps (left.constness.meet right.constness) := by
  cases family <;> exact .inr rfl

theorem checkUnary_keeps (token : String) (operand : Facts) :
    (checkUnary node token operand).value.2.Keeps operand.constness := .inr rfl

theorem checkAddressOf_constness (operand : Facts) : (checkAddressOf node operand).value.constness = .variable := by
  unfold checkAddressOf
  repeat' split
  all_goals rfl

theorem checkDereference_constness (operand : Facts) : (checkDereference node operand).value.constness = .variable := by
  unfold checkDereference
  split <;> rfl

theorem checkCall_constness (env : Env) (callee : String) (generics : List TypeRef) (arguments : List Facts) :
    (checkCall env node callee generics arguments).value.2.constness = .variable := by
  unfold checkCall
  simp only [value_bind]
  split
  · rfl
  · simp only [value_bind]
    unfold checkCallOf
    repeat' split
    all_goals rfl

theorem checkReference_constness_iff (env : Env) (name : String) :
    (checkReference env node name).value.constness = .constant ↔ env.namesConstant name = true := by
  unfold checkReference Env.namesConstant
  cases env.lookup? name with
  | some binding => exact decide_eq_true_iff.symm
  | none =>
    cases env.symbols.enumeration? name with
    | some enumeration => exact iff_of_true rfl rfl
    | none => exact iff_of_false nofun nofun

theorem checkLiteral_constness (text : String) : (checkLiteral node text).value.constness = .constant := by
  unfold checkLiteral
  split <;> rfl

theorem checkIndex_keeps (value position : Facts) :
    (checkIndex node value position).value.Keeps (value.constness.meet position.constness) := by
  unfold checkIndex
  simp only [value_bind]
  split
  · exact .inl rfl
  · exact .inr rfl
  · exact .inr rfl
  · exact .inl rfl

/-- A member of an enum is constant however it is picked out, but so is the name of the enum. -/
theorem checkMember_keeps (env : Env) (value : Facts) (member : String)
    (names : value.enumName = true → value.constness = .constant) :
    (checkMember env node value member).value.Keeps value.constness := by
  unfold checkMember
  split
  case h_1 => exact .inl rfl
  case h_2 =>
    split
    · exact .inr rfl
    · exact .inl rfl
  case h_3 =>
    split
    · exact .inr rfl
    · exact .inr rfl
    · exact .inl rfl
  case h_4 =>
    split
    case isTrue named =>
      split
      · exact .inr (names named).symm
      · exact .inl rfl
    case isFalse => exact .inl rfl
  case h_5 => exact .inl rfl

theorem checkConversion_keeps (operand : Facts) (target : Ty) :
    (checkConversion node operand target).value.Keeps operand.constness := .inr rfl

end Forms

theorem check_member_keeps (env : Env) (range : Span) (value : Expr) (member : String) :
    (check env (.member range value member)).value.facts.Keeps (check env value).value.facts.constness :=
  checkMember_keeps _ env _ member fun named => (check_names env value named).constant

/-- What is constant is made of parts that allow for it. -/
theorem allowsConstant_of_constant (env : Env) : (e : Expr) → (check env e).value.facts.constness = .constant →
    ∀ sub ∈ e.nodes, sub.allowsConstant env = true
  | .binary family range left operator right, constant => by
    have operands := Constness.meet_eq_constant.mp ((checkBinary_keeps ..).eq_constant constant)
    refine List.forall_mem_cons.mpr ⟨rfl, List.forall_mem_append.mpr ⟨?_, ?_⟩⟩
    · exact allowsConstant_of_constant env left operands.1
    · exact allowsConstant_of_constant env right operands.2
  | .unary range operator operand, constant =>
    List.forall_mem_cons.mpr ⟨rfl, allowsConstant_of_constant env operand ((checkUnary_keeps ..).eq_constant constant)⟩
  | .addressOf range operand, constant => by cases (checkAddressOf_constness ..).symm.trans constant
  | .dereference range operand, constant => by cases (checkDereference_constness ..).symm.trans constant
  | .parenthesized range inner, constant =>
    List.forall_mem_cons.mpr ⟨rfl, allowsConstant_of_constant env inner constant⟩
  | .reference range name, constant => List.forall_mem_singleton.mpr ((checkReference_constness_iff ..).mp constant)
  | .literal range text, _ => List.forall_mem_singleton.mpr rfl
  | .call range callee generics arguments, constant => by cases (checkCall_constness ..).symm.trans constant
  | .index range value position, constant => by
    have parts := Constness.meet_eq_constant.mp ((checkIndex_keeps ..).eq_constant constant)
    refine List.forall_mem_cons.mpr ⟨rfl, List.forall_mem_append.mpr ⟨?_, ?_⟩⟩
    · exact allowsConstant_of_constant env value parts.1
    · exact allowsConstant_of_constant env position parts.2
  | .member range value name, constant =>
    List.forall_mem_cons.mpr
      ⟨rfl, allowsConstant_of_constant env value ((check_member_keeps env range value name).eq_constant constant)⟩
  | .conversion range target operand, constant =>
    List.forall_mem_cons.mpr
      ⟨rfl, allowsConstant_of_constant env operand ((checkConversion_keeps ..).eq_constant constant)⟩
termination_by structural e => e

/-- What is made of such parts is constant, unless something in it is invalid. -/
theorem constant_of_allowsConstant (env : Env) : (e : Expr) → (∀ sub ∈ e.nodes, sub.allowsConstant env = true) →
    (∀ sub ∈ (check env e).value.nodes, sub.facts.ty ≠ .invalid) → (check env e).value.facts.constness = .constant
  | .binary family range left operator right, allows, valid => by
    have allows := List.forall_mem_append.mp (List.forall_mem_cons.mp allows).2
    have valid := List.forall_mem_cons.mp valid
    have operands := List.forall_mem_append.mp valid.2
    apply (checkBinary_keeps ..).constant valid.1
    apply Constness.meet_eq_constant.mpr ⟨?_, ?_⟩
    · exact constant_of_allowsConstant env left allows.1 operands.1
    · exact constant_of_allowsConstant env right allows.2 operands.2
  | .unary range operator operand, allows, valid => by
    have valid := List.forall_mem_cons.mp valid
    apply (checkUnary_keeps ..).constant valid.1
    exact constant_of_allowsConstant env operand (List.forall_mem_cons.mp allows).2 valid.2
  | .addressOf range operand, allows, _ => by cases (List.forall_mem_cons.mp allows).1
  | .dereference range operand, allows, _ => by cases (List.forall_mem_cons.mp allows).1
  | .parenthesized range inner, allows, valid =>
    constant_of_allowsConstant env inner (List.forall_mem_cons.mp allows).2 (List.forall_mem_cons.mp valid).2
  | .reference range name, allows, _ => (checkReference_constness_iff ..).mpr (allows _ List.mem_cons_self)
  | .literal range text, _, _ => checkLiteral_constness ..
  | .call range callee generics arguments, allows, _ => by cases (List.forall_mem_cons.mp allows).1
  | .index range value position, allows, valid => by
    have allows := List.forall_mem_append.mp (List.forall_mem_cons.mp allows).2
    have valid := List.forall_mem_cons.mp valid
    have parts := List.forall_mem_append.mp valid.2
    apply (checkIndex_keeps ..).constant valid.1
    apply Constness.meet_eq_constant.mpr ⟨?_, ?_⟩
    · exact constant_of_allowsConstant env value allows.1 parts.1
    · exact constant_of_allowsConstant env position allows.2 parts.2
  | .member range value name, allows, valid => by
    have valid := List.forall_mem_cons.mp valid
    apply (check_member_keeps env range value name).constant valid.1
    exact constant_of_allowsConstant env value (List.forall_mem_cons.mp allows).2 valid.2
  | .conversion range target operand, allows, valid => by
    have valid := List.forall_mem_cons.mp valid
    apply (checkConversion_keeps ..).constant valid.1
    exact constant_of_allowsConstant env operand (List.forall_mem_cons.mp allows).2 valid.2
termination_by structural e => e

/-- An expression that is constant holds no call, no address and no place that a pointer leads to, and every name in it
stands for a constant or for an enum. An expression like that is constant, if nothing in it has the invalid type. -/
theorem check_constant_exact (env : Env) (e : Expr) :
    ((check env e).value.facts.constness = .constant → ∀ sub ∈ e.nodes, sub.allowsConstant env = true)
    ∧ ((∀ sub ∈ e.nodes, sub.allowsConstant env = true) →
      (∀ sub ∈ (check env e).value.nodes, sub.facts.ty ≠ .invalid) →
      (check env e).value.facts.constness = .constant) := by
  constructor
  · exact allowsConstant_of_constant env e
  · exact constant_of_allowsConstant env e

def constants : Env :=
  let document : NodeRef := ⟨.document, .origin⟩
  { document := some document
    scopes := [⟨.global, .construct document,
      [⟨"k", .i32, .constant, .function, some (.integer 1)⟩, ⟨"v", .vector 3 .f32, .variable, .privateSpace, none⟩]⟩]
    symbols := { enums := [⟨"Mode", .i32, [("Fast", .integer 0)]⟩] } }

/-- The expression `i32((Mode).Fast) + k`. -/
def fastPlusOne : Expr :=
  .binary .arithmetic .origin
    (.conversion .origin (.mk .origin "i32" []) (.member .origin (.parenthesized .origin (.reference .origin "Mode")) "Fast"))
    "+" (.reference .origin "k")

/-- The expression `v[k]`. -/
def componentAtOne : Expr := .index .origin (.reference .origin "v") (.reference .origin "k")

theorem constants_exact :
    (check constants fastPlusOne).value.facts.constness = .constant
    ∧ (check constants componentAtOne).notes.incidents = []
    ∧ (check constants componentAtOne).value.facts.constness ≠ .constant := by
  have allows : ∀ sub ∈ fastPlusOne.nodes, sub.allowsConstant constants = true := by decide +kernel
  have valid : ∀ sub ∈ (check constants fastPlusOne).value.nodes, sub.facts.ty ≠ .invalid := by decide +kernel
  refine ⟨(check_constant_exact constants fastPlusOne).2 allows valid, by decide +kernel, fun constant => ?_⟩
  have refuses : ¬ ∀ sub ∈ componentAtOne.nodes, sub.allowsConstant constants = true := by decide +kernel
  exact refuses ((check_constant_exact constants componentAtOne).1 constant)

end Expr

end ShaderCheck
