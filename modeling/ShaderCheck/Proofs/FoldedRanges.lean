import Mathlib.Algebra.Group.Int.Defs
import ShaderCheck.Proofs.FlowSoundness
import ShaderCheck.Proofs.Throughout

/-!
The numbers that constants come to. A literal with a suffix is held to the width of its type, and inverting bits stays
within it. Two steps do not look at the width: a negation, and a declared type that takes over a number without a
format. As long as neither of them leaves the range of a type, no known number does.
-/

namespace ShaderCheck

open Noted Attempt

/-- If a type is that of numbers of 32 bits, it has room for a value. -/
def Ty.Holds (ty : Ty) : Constant → Prop
  | .integer number =>
    (ty = .i32 → -2 ^ 31 ≤ number.toInt ∧ number.toInt < 2 ^ 31) ∧ (ty = .u32 → 0 ≤ number.toInt ∧ number.toInt < 2 ^ 32)
  | .float _ | .boolean _ | .string _ => True

instance (ty : Ty) : DecidablePred ty.Holds
  | .integer _ => inferInstanceAs (Decidable ((_ → _) ∧ (_ → _)))
  | .float _ | .boolean _ | .string _ => .isTrue trivial

def Facts.InRange (facts : Facts) : Prop := ∀ value ∈ facts.value, facts.ty.Holds value

instance : DecidablePred Facts.InRange := fun facts => inferInstanceAs (Decidable (∀ value ∈ facts.value, _))

def Binding.InRange (binding : Binding) : Prop := ∀ value ∈ binding.value, binding.ty.Holds value

/-- A type has no room for the opposite of a number: `u32` has nothing below zero, and `i32` reaches further down than
up. -/
def Ty.LacksOpposite (ty : Ty) (number : Int64) : Prop :=
  ty = .u32 ∧ 0 < number.toInt ∨ ty = .i32 ∧ number.toInt = -2 ^ 31

instance (ty : Ty) : DecidablePred ty.LacksOpposite := fun _ => inferInstanceAs (Decidable (_ ∨ _))

def TypedExpr.NegatesOut : TypedExpr → Prop
  | .unary _ _ .negate operand =>
    ∃ number ∈ operand.facts.value.bind Constant.integer?, operand.facts.ty.LacksOpposite number
  | _ => False

instance : DecidablePred TypedExpr.NegatesOut
  | .unary _ _ .negate _ => inferInstanceAs (Decidable (∃ _, _ ∧ _))
  | .unary _ _ .not _ | .unary _ _ .bitwiseNot _ | .binary .. | .addressOf .. | .dereference .. | .parenthesized ..
  | .reference .. | .literal .. | .call .. | .index .. | .member .. | .conversion .. => .isFalse id

/-- A constant is declared with a type that has no room for its number, which has no format of its own. -/
def TypedVariable.NarrowsOut (v : TypedVariable) : Prop :=
  v.binding.constness = .constant ∧ ∃ e ∈ v.initializer, e.facts.ty = .numeric .abstractInt
    ∧ ∃ value ∈ e.facts.value, ¬ v.binding.ty.Holds value

instance : DecidablePred TypedVariable.NarrowsOut := fun _ => inferInstanceAs (Decidable (_ ∧ _))

theorem Constant.bind_integer?_eq_some {known : Option Constant} {number : Int64} :
    known.bind integer? = some number ↔ known = some (.integer number) := by
  obtain _ | value := known
  · simp
  · cases value <;> simp [integer?]

section Words

theorem toInt_toInt64_toUInt64 (word : UInt32) : word.toUInt64.toInt64.toInt = word.toNat := by
  have small := word.toNat_lt
  change word.toUInt64.toBitVec.toInt = word.toNat
  rw [BitVec.toInt_eq_toNat_of_lt]
  · rfl
  · change 2 * word.toNat < 2 ^ 64
    omega

theorem toInt_neg_of_ne_minValue {number : Int64} (other : number ≠ Int64.minValue) :
    (-number).toInt = -number.toInt := by
  have low := number.le_toInt
  have high := number.toInt_lt
  have away : number.toInt ≠ -2 ^ 63 := by
    intro same
    apply other
    rw [← Int64.toInt_inj, same, Int64.toInt_minValue]
  rw [Int64.toInt_neg, Int.bmod_eq_of_le] <;> omega

end Words

namespace Ty.Holds

theorem of_fits {kind : NumericKind} {number : Int} (fits : Literal.fits kind number = true) :
    (Ty.numeric kind).Holds (.integer (Int64.ofInt number)) := by
  constructor
  · rintro ⟨⟩
    simp only [Literal.fits, Bool.and_eq_true, decide_eq_true_eq] at fits
    rw [Int64.toInt_ofInt_of_le] <;> omega
  · rintro ⟨⟩
    simp only [Literal.fits, Bool.and_eq_true, decide_eq_true_eq] at fits
    rw [Int64.toInt_ofInt_of_le] <;> omega

theorem of_reads {value : Constant} {ty : Ty} (reads : Literal.Reads value ty) : ty.Holds value := by
  cases reads with
  | integer fits => exact of_fits fits
  | boolean | string | float => trivial

/-- Bits are inverted within the width of their type. -/
theorem of_bitNot? {kind : NumericKind} {value result : Constant} (inverted : value.bitNot? kind = some result) :
    (Ty.numeric kind).Holds result := by
  cases value with
  | integer number =>
    obtain ⟨word, inverted, rfl⟩ := Option.map_eq_some_iff.mp inverted
    constructor
    · rintro ⟨⟩
      cases inverted
      rw [Int32.toInt_toInt64]
      exact ⟨Int32.le_toInt _, Int32.toInt_lt _⟩
    · rintro ⟨⟩
      cases inverted
      rw [toInt_toInt64_toUInt64]
      have small := (~~~number.toUInt64.toUInt32).toNat_lt
      omega
  | float | boolean | string => cases inverted

/-- The opposite of a number fits where the number does, with two exceptions. -/
theorem of_negate? {ty : Ty} {value result : Constant} (held : ty.Holds value)
    (room : ∀ number, value = .integer number → ¬ ty.LacksOpposite number)
    (negated : value.negate? = some result) : ty.Holds result := by
  cases value with
  | integer number =>
    obtain ⟨other, ⟨⟩⟩ := Option.ite_none_left_eq_some.mp negated
    have room := room number rfl
    rw [LacksOpposite, not_or, not_and, not_and] at room
    rw [Holds, toInt_neg_of_ne_minValue other]
    constructor
    · intro signed
      have bounds := held.1 signed
      have least := room.2 signed
      omega
    · intro unsigned
      have bounds := held.2 unsigned
      have positive := room.1 unsigned
      omega
  | float => cases negated; trivial
  | boolean | string => cases negated

end Ty.Holds

/-- A known value has a type, which has room for it. -/
def Ty.Carries (ty : Ty) (known : Option Constant) : Prop := ∀ value ∈ known, ty ≠ .invalid ∧ ty.Holds value

theorem Ty.eq_numeric_of_numericKind? {ty : Ty} {kind : NumericKind} (numeric : ty.numericKind? = some kind) :
    ty = .numeric kind := by
  cases ty with
  | numeric => cases numeric; rfl
  | _ => cases numeric

namespace Expr

theorem foldUnary_carries {op : UnaryOp} {operand : Facts} (carries : operand.ty.Carries operand.value)
    (room : op = .negate → ∀ number, operand.value = some (.integer number) → ¬ operand.ty.LacksOpposite number) :
    operand.ty.Carries (foldUnary op operand) := by
  intro result folded
  unfold foldUnary at folded
  split at folded
  case h_1 value _ known _ =>
    obtain ⟨typed, held⟩ := carries value known
    refine ⟨typed, held.of_negate? (fun number same => ?_) folded⟩
    exact room rfl number (same ▸ known)
  case h_2 value kind known numeric =>
    refine ⟨(carries value known).1, ?_⟩
    rw [Ty.eq_numeric_of_numericKind? numeric]
    exact .of_bitNot? folded
  case h_3 => cases folded

/-- Where a type has no room for the opposite of a number, that is still what comes out. -/
theorem foldUnary_of_lacksOpposite {operand : Facts} {number : Int64} (known : operand.value = some (.integer number))
    (lacks : operand.ty.LacksOpposite number) :
    ∃ result, foldUnary .negate operand = some result ∧ ¬ operand.ty.Holds result := by
  have other : number ≠ Int64.minValue := by
    rintro rfl
    rw [Ty.LacksOpposite, Int64.toInt_minValue] at lacks
    omega
  refine ⟨.integer (-number), ?_, fun held => ?_⟩
  · obtain ⟨unsigned, -⟩ | ⟨signed, -⟩ := lacks
    · simp [foldUnary, known, unsigned, Ty.numericKind?, Constant.negate?, other]
    · simp [foldUnary, known, signed, Ty.numericKind?, Constant.negate?, other]
  · rw [Ty.Holds, toInt_neg_of_ne_minValue other] at held
    obtain ⟨unsigned, positive⟩ | ⟨signed, least⟩ := lacks
    · have bounds := held.2 unsigned
      omega
    · have bounds := held.1 signed
      omega

/-- What comes out of an operator before its operand. -/
theorem check_unary (env : Env) (range : Span) (token : String) (operand : Expr) :
    ∃ op, (check env (.unary range token operand)).value =
      let facts := (check env operand).value.facts
      .unary range { Facts.computed facts.ty facts.constness with value := foldUnary op facts } op
        (check env operand).value :=
  ⟨_, rfl⟩

theorem value_checkBinary (family : OperatorFamily) (node : NodeRef) (token : String) (left right : Facts) :
    (checkBinary family node token left right).value.2.value = none := by
  cases family <;> rfl

theorem value_checkAddressOf (node : NodeRef) (operand : Facts) : (checkAddressOf node operand).value.value = none := by
  unfold checkAddressOf
  split
  · rfl
  · split
    · rfl
    · split <;> rfl

theorem value_checkDereference (node : NodeRef) (operand : Facts) :
    (checkDereference node operand).value.value = none := by
  unfold checkDereference
  split <;> rfl

theorem value_checkCallOf (function : Function) (node : NodeRef) (callee : String) (explicit : List Ty)
    (arguments : List Facts) : (checkCallOf function node callee explicit arguments).value.2.value = none := by
  unfold checkCallOf
  split
  · rfl
  · split
    · rfl
    · split <;> rfl

theorem value_checkCall (env : Env) (node : NodeRef) (callee : String) (generics : List TypeRef)
    (arguments : List Facts) : (checkCall env node callee generics arguments).value.2.value = none := by
  unfold checkCall
  rw [value_bind]
  split
  · rfl
  · exact value_checkCallOf ..

theorem value_checkIndex (node : NodeRef) (value index : Facts) : (checkIndex node value index).value.value = none := by
  unfold checkIndex
  rw [value_bind]
  split <;> rfl

/-- Of members, only those of enums are known. -/
theorem checkMember_carries (env : Env) (node : NodeRef) (value : Facts) (member : String) :
    (checkMember env node value member).value.ty.Carries (checkMember env node value member).value.value := by
  have unknown {ty : Ty} : ty.Carries none := nofun
  unfold checkMember
  split
  case h_1 | h_5 => exact unknown
  case h_2 | h_3 => split <;> exact unknown
  case h_4 name underlying enumeration =>
    split
    · split
      · intro constant _
        refine ⟨by simp [Facts.computed, enumeration], ?_⟩
        cases constant <;> simp [Ty.Holds, Facts.computed, enumeration]
      · exact unknown
    · exact unknown

theorem checkLiteral_carries (node : NodeRef) (text : String) :
    (checkLiteral node text).value.ty.Carries (checkLiteral node text).value.value := by
  unfold checkLiteral
  split
  case h_1 value ty read =>
    have reads := Literal.read?_reads read
    rintro _ ⟨⟩
    exact ⟨reads.simple.whole.ne_invalid, .of_reads reads⟩
  case h_2 => nofun

variable {env : Env} (binds : env.Binds fun binding => binding.ty.Carries binding.value)

include binds

theorem checkReference_carries (node : NodeRef) (name : String) :
    (checkReference env node name).value.ty.Carries (checkReference env node name).value.value := by
  unfold checkReference
  split
  case h_1 binding found =>
    obtain ⟨scope, member, held⟩ := Env.mem_of_lookup? found
    exact binds scope member binding held
  case h_2 => split <;> nofun

/-- Where the names in scope carry what is known of them, so do expressions, if no negation leaves the range. -/
theorem check_carries : (e : Expr) → (∀ node ∈ (check env e).value.nodes, ¬ node.NegatesOut) →
    (check env e).value.facts.ty.Carries (check env e).value.facts.value
  | .unary range token operand, stays => by
    obtain ⟨op, same⟩ := check_unary env range token operand
    rw [same] at stays ⊢
    obtain ⟨itself, inside⟩ := List.forall_mem_cons.mp stays
    refine foldUnary_carries (check_carries operand inside) ?_
    rintro rfl number known lacks
    exact itself ⟨number, Constant.bind_integer?_eq_some.mpr known, lacks⟩
  | .parenthesized _ inner, stays => check_carries inner (List.forall_mem_cons.mp stays).2
  | .reference _ name, _ => checkReference_carries binds _ name
  | .literal _ text, _ => checkLiteral_carries _ text
  | .member _ _ name, _ => checkMember_carries env _ _ name
  | .binary family _ _ operator _, _ => by
    intro value known
    cases (value_checkBinary family _ operator _ _).symm.trans known
  | .addressOf _ _, _ => by
    intro value known
    cases (value_checkAddressOf _ _).symm.trans known
  | .dereference _ _, _ => by
    intro value known
    cases (value_checkDereference _ _).symm.trans known
  | .call _ callee generics _, _ => by
    intro value known
    cases (value_checkCall env _ callee generics _).symm.trans known
  | .index _ _ _, _ => by
    intro value known
    cases (value_checkIndex _ _ _).symm.trans known
  | .conversion _ _ _, _ => nofun
termination_by structural e => e

end Expr

/-- Only a number without a format can take on one of 32 bits. -/
theorem Ty.castsTo_word {source : Ty} {kind : NumericKind} (word : kind = .i32 ∨ kind = .u32)
    (casts : source.castsTo (.numeric kind) = true) : source = .numeric kind ∨ source = .numeric .abstractInt := by
  cases source with
  | numeric other =>
    obtain rfl | rfl := word
    · cases other <;> first | exact .inl rfl | exact .inr rfl | cases casts
    · cases other <;> first | exact .inl rfl | exact .inr rfl | cases casts
  | _ => cases casts

/-- Where a value goes, its new type has room for it if the old one had, as long as it had a format. -/
theorem Ty.Holds.cast {source target : Ty} {value : Constant} (held : source.Holds value)
    (casts : source.castsTo target = true) (narrowed : source = .numeric .abstractInt → target.Holds value) :
    target.Holds value := by
  cases value with
  | integer number =>
    have narrow {kind : NumericKind} (word : kind = .i32 ∨ kind = .u32) (same : target = .numeric kind) :
        target.Holds (.integer number) := by
      subst same
      obtain rfl | abstract := castsTo_word word casts
      · exact held
      · exact narrowed abstract
    exact ⟨fun signed => (narrow (.inl rfl) signed).1 signed, fun unsigned => (narrow (.inr rfl) unsigned).2 unsigned⟩
  | float | boolean | string => trivial

/-- A variable of a document stays within the range of its type, and so do the numbers that it starts from. -/
structure TypedVariable.StaysIn (v : TypedVariable) : Prop where
  declared : ¬ v.NarrowsOut
  initializer : ∀ e ∈ v.initializer.toList, ∀ node ∈ e.nodes, ¬ node.NegatesOut

structure Env.CarriesAll (env : Env) : Prop where
  symbols : env.symbols.Whole
  binds : env.Binds fun binding => binding.ty.Carries binding.value

/-- A constant that nothing is reported about carries the value of its initializer. -/
theorem VariableDecl.Bound.carries {env : Env} {node : NodeRef} {declaration : VariableDecl} {typed : TypedVariable}
    (held : env.CarriesAll) (fine : typed.StaysIn)
    (bound : Bound noIncident env node declaration typed.binding typed.initializer) :
    typed.binding.ty.Carries typed.binding.value := by
  intro value known
  rw [bound.kept] at known
  cases bound.source with
  | outside varies =>
    rw [varies] at known
    cases known
  | inside _ fits type =>
    cases constant : typed.binding.constness with
    | «variable» =>
      rw [constant] at known
      cases known
    | constant =>
      rw [constant] at known fits type
      cases given : typed.initializer with
      | none =>
        rw [given] at known
        cases known
      | some e =>
        rw [given] at known fits type
        change value ∈ e.facts.value at known
        have carried : e.facts.ty.Carries e.facts.value := by
          have listed : e ∈ typed.initializer.toList := by simp [given]
          have stays := fine.initializer e listed
          rw [bound.value] at listed
          obtain ⟨source, -, rfl⟩ := Expr.checkOptional_checked bound.given e listed
          exact Expr.check_carries held.binds source stays
        obtain ⟨typed', holds⟩ := carried value known
        cases written : (declaredType env declaration.type).value with
        | none =>
          rw [written] at type
          have same : typed.binding.ty = e.facts.ty := by simpa [bindingType] using type
          rw [same]
          exact ⟨typed', holds⟩
        | some ty =>
          have whole := declaredType_whole held.symbols declaration.type bound.written ty written
          rw [written] at type fits
          have same : typed.binding.ty = ty := type
          have casts : e.facts.ty.castsTo ty = true := by
            have accepted := Gives.expect ((within_bind _ _).mp fits).1
            have resolved : e.facts.ty.isInvalid = false := by
              cases shape : e.facts.ty <;> first | rfl | exact (typed' shape).elim
            simpa [whole.isInvalid, resolved] using accepted
          rw [same]
          refine ⟨whole.ne_invalid, holds.cast casts fun abstract => ?_⟩
          by_contra lost
          rw [← same] at lost
          exact fine.declared ⟨constant, e, given, abstract, value, known, lost⟩

namespace Document

variable {document : Document} {typed : TypedDocument} {after : Env}

/-- Where nothing is reported and all variables stay within their range, the names in scope carry their values. -/
theorem upholds_carries (document : Document) :
    document.Upholds noIncident TypedVariable.StaysIn (fun env => env.Whole ∧ env.CarriesAll) Env.CarriesAll where
  start := by
    have whole := document.opened_whole
    exact ⟨whole, whole.symbols, by simp [opened, Env.Binds]⟩
  types due held yields := by
    obtain ⟨whole, -⟩ := Decl.check_type_sound due held.1 yields
    refine ⟨whole, whole.symbols, ?_⟩
    rw [Env.Binds, (Decl.check_type_keeps due yields).1.scopes]
    exact held.2.binds
  signatures held quiet := by
    refine ⟨collectSignatures_whole held.2.symbols _ quiet, ?_⟩
    rw [Env.Binds, (collectSignatures_adds _ _).2.1]
    exact held.2.binds
  opens held opened := ⟨Env.symbols_of_openScope opened ▸ held.symbols, held.binds.openScope opened⟩
  declares fine held bound declared :=
    ⟨Env.symbols_of_declare declared ▸ held.symbols, held.binds.declare (bound.carries held fine) declared⟩
  enters held _ entered := by
    refine FunctionDecl.entry_keeps entered (fun opened => ?_) fun _ held declared => ?_
    · exact ⟨Env.symbols_of_openScope opened ▸ held.symbols, held.binds.openScope opened⟩
    · refine ⟨Env.symbols_of_declare declared ▸ held.symbols, held.binds.declare ?_ declared⟩
      rintro _ ⟨⟩

/-- Nothing is asked of the places where expressions and variables were checked. -/
theorem upholds_true (document : Document) (allowed : Incident → Prop) :
    document.Upholds allowed (fun _ => True) (fun _ => True) fun _ => True :=
  ⟨trivial, fun _ _ _ => trivial, fun _ _ => trivial, fun _ _ => trivial, fun _ _ _ _ => trivial, fun _ _ _ => trivial⟩

theorem inRange_of_staysIn (yields : Yields noIncident (document.effect {}) (typed, after))
    (negations : ∀ e ∈ typed.expressions, ¬ e.NegatesOut) (narrowings : ∀ v ∈ typed.declaredVariables, ¬ v.NarrowsOut) :
    (∀ e ∈ typed.expressions, e.facts.InRange) ∧ ∀ v ∈ typed.declaredVariables, v.binding.InRange := by
  have fine : ∀ v ∈ typed.declaredVariables, v.StaysIn := fun v declared =>
    ⟨narrowings v declared, fun e given node part =>
      negations node (TypedDocument.initializer_subset_expressions declared given part)⟩
  obtain ⟨expressions, bindings⟩ := document.upholds_carries.throughout yields fine
  constructor
  · intro e listed value known
    obtain ⟨env, held, source, -, rfl⟩ := expressions e listed
    have stays := fun node part => negations node (TypedDocument.nodes_subset_expressions listed part)
    exact (Expr.check_carries held.binds source stays value known).2
  · intro v declared value known
    obtain ⟨env, node, declaration, held, bound⟩ := bindings v declared
    exact (bound.carries held (fine v declared) value known).2

/-- A negation that leaves the range gives a number that its type has no room for. -/
theorem not_inRange_of_negatesOut {allowed : Incident → Prop} {env : Env} {e : TypedExpr}
    (checked : Expr.Checked allowed env e) (out : e.NegatesOut) : ¬ e.facts.InRange := by
  obtain ⟨source, -, rfl⟩ := checked
  cases source with
  | unary range token operand =>
    intro fits
    obtain ⟨op, same⟩ := Expr.check_unary env range token operand
    rw [same] at out fits
    cases op with
    | negate =>
      obtain ⟨number, known, lacks⟩ := out
      have operand := Constant.bind_integer?_eq_some.mp known
      obtain ⟨result, negated, outside⟩ := Expr.foldUnary_of_lacksOpposite operand lacks
      exact outside (fits result negated)
    | not | bitwiseNot => exact out
  | _ => exact out.elim

/-- A constant that is declared with too narrow a type keeps its number. -/
theorem not_inRange_of_narrowsOut {allowed : Incident → Prop} {v : TypedVariable} {late : Env → Prop}
    (stands : v.Stands allowed late) (out : v.NarrowsOut) : ¬ v.binding.InRange := by
  obtain ⟨env, node, declaration, -, bound⟩ := stands
  obtain ⟨constant, e, given, -, value, known, outside⟩ := out
  intro fits
  apply outside
  apply fits
  rw [bound.kept, constant, given]
  exact known

/-- In a document without reports, what is known of the expressions and the names fits their types exactly if no number
is negated that has no opposite in its type, and no constant is declared with a type that its number does not fit. -/
theorem check_inRange_iff (document : Document) {context : Context}
    (ran : document.check.run {} = (.ok typed, context)) (quiet : context.incidents = []) :
    ((∀ e ∈ typed.expressions, e.facts.InRange) ∧ ∀ v ∈ typed.declaredVariables, v.binding.InRange) ↔
      (∀ e ∈ typed.expressions, ¬ e.NegatesOut) ∧ ∀ v ∈ typed.declaredVariables, ¬ v.NarrowsOut := by
  have yields : Yields noIncident (document.effect {}) (typed, context.env) :=
    document.check_does.yields ran (List.eq_nil_iff_forall_not_mem.mp quiet)
  constructor
  · rintro ⟨expressions, bindings⟩
    obtain ⟨checked, stands⟩ := (document.upholds_true noIncident).throughout yields fun _ _ => trivial
    refine ⟨fun e listed out => ?_, fun v declared out => ?_⟩
    · obtain ⟨env, -, itself⟩ := checked e listed
      exact not_inRange_of_negatesOut itself out (expressions e listed)
    · exact not_inRange_of_narrowsOut (stands v declared) out (bindings v declared)
  · rintro ⟨negations, narrowings⟩
    exact inRange_of_staysIn yields negations narrowings

/-- The constants `a = -5u`, `n : i32 = 3000000000` and `m = n`. -/
def outgrown : Document :=
  let line (number : UInt32) : Span := ⟨⟨number, 1⟩, ⟨number, 9⟩⟩
  { range := line 1
    declarations := [
      .variable ⟨line 1, "const", "a", none, some (.unary (line 1) "-" (.literal (line 1) "5u"))⟩,
      .variable ⟨line 2, "const", "n", some (.mk (line 2) "i32" []), some (.literal (line 2) "3000000000")⟩,
      .variable ⟨line 3, "const", "m", none, some (.reference (line 3) "n")⟩] }

/-- Both a negation and a declaration can take a number out of the range of its type, with nothing reported. -/
theorem outgrown_not_inRange :
    (outgrown.check.run {}).2.incidents = [] ∧ ∃ typed ∈ (outgrown.check.run {}).1.toOption,
      (∃ e ∈ typed.expressions, e.facts.ty = .u32 ∧ e.facts.value = some (.integer (-5)) ∧ ¬ e.facts.InRange) ∧
      ∃ e ∈ typed.expressions,
        e.facts.ty = .i32 ∧ e.facts.value = some (.integer 3000000000) ∧ ¬ e.facts.InRange := by
  decide +kernel

/-- The constants `least : i32 = -2147483648`, `most = ~least`, `all = ~0u` and `none = -0u`, each at the end of its
range. -/
def extremes : Document :=
  let line (number : UInt32) : Span := ⟨⟨number, 1⟩, ⟨number, 9⟩⟩
  let literal (number : UInt32) (text : String) : Expr := .literal (line number) text
  { range := line 1
    declarations := [
      .variable ⟨line 1, "const", "least", some (.mk (line 1) "i32" []),
        some (.unary (line 1) "-" (literal 1 "2147483648"))⟩,
      .variable ⟨line 2, "const", "most", none, some (.unary (line 2) "~" (.reference (line 2) "least"))⟩,
      .variable ⟨line 3, "const", "all", none, some (.unary (line 3) "~" (literal 3 "0u"))⟩,
      .variable ⟨line 4, "const", "none", none, some (.unary (line 4) "-" (literal 4 "0u"))⟩] }

theorem extremes_inRange :
    ∃ typed context, extremes.check.run {} = (.ok typed, context) ∧ context.incidents = []
      ∧ typed.declaredVariables.map (·.binding.value) = [some (.integer (-2147483648)), some (.integer 2147483647),
        some (.integer 4294967295), some (.integer 0)]
      ∧ (∀ e ∈ typed.expressions, e.facts.InRange) ∧ ∀ v ∈ typed.declaredVariables, v.binding.InRange := by
  have quiet : (extremes.check.run {}).2.incidents = [] := by decide +kernel
  have values : (extremes.check.run {}).1.toOption.map (fun typed => typed.declaredVariables.map (·.binding.value)) =
      some [some (.integer (-2147483648)), some (.integer 2147483647), some (.integer 4294967295),
        some (.integer 0)] := by
    decide +kernel
  have stays : ∀ typed ∈ (extremes.check.run {}).1.toOption,
      (∀ e ∈ typed.expressions, ¬ e.NegatesOut) ∧ ∀ v ∈ typed.declaredVariables, ¬ v.NarrowsOut := by
    decide +kernel
  cases ran : extremes.check.run {} with
  | mk result context =>
    rw [ran] at quiet values stays
    cases result with
    | error => cases values
    | ok typed =>
      have fits := (check_inRange_iff extremes ran quiet).mpr (stays typed rfl)
      exact ⟨typed, context, rfl, quiet, Option.some.inj values, fits⟩

end Document

end ShaderCheck
