import ShaderCheck.Proofs.NamedTypes

/-!
The shapes of types. Whatever a check records, on a node or under a name, is the invalid type or has a shape that the
language knows. The invalid type is never the element of a vector or matrix and never what a pointer points to; a struct
may have members of it.
-/

namespace ShaderCheck

open Attempt

inductive Ty.WellFormed : Ty → Prop where
  | void : WellFormed .void
  | bool : WellFormed .bool
  | string : WellFormed .string
  | numeric (kind : NumericKind) : WellFormed (.numeric kind)
  | vector {dimension : Nat} {element : Ty} (size : 2 ≤ dimension ∧ dimension ≤ 4)
      (holds : element = .bool ∨ ∃ kind, element = .numeric kind) : WellFormed (.vector dimension element)
  | matrix {rows columns : Nat} {element : Ty} (height : 2 ≤ rows ∧ rows ≤ 4) (width : 2 ≤ columns ∧ columns ≤ 4)
      (holds : element = .f16 ∨ element = .f32) : WellFormed (.matrix rows columns element)
  | pointer {referent : Ty} (space : AddressSpace) (inner : WellFormed referent) : WellFormed (.pointer referent space)
  | enumeration (name : String) {underlying : Ty} (values : underlying = .i32 ∨ underlying = .string) :
      WellFormed (.enumeration name underlying)
  | struct (name : String) {members : List (String × Ty)}
      (inner : ∀ member ∈ members, member.2 ≠ .invalid → WellFormed member.2) : WellFormed (.struct name members)

namespace Ty

variable {symbols : Symbols} {ty : Ty}

theorem cases_of_isVectorElement (holds : ty.isVectorElement = true) : ty = .bool ∨ ∃ kind, ty = .numeric kind := by
  cases ty with
  | bool => exact .inl rfl
  | numeric kind => exact .inr ⟨kind, rfl⟩
  | _ => cases holds

/-- The floats that have a format are the two that a matrix can be made of. -/
theorem Formed.cases_of_isMatrixElement (formed : ty.Formed symbols) (holds : ty.isMatrixElement = true) :
    ty = .f16 ∨ ty = .f32 := by
  cases formed with
  | @numeric kind concrete =>
    cases kind with
    | f16 => exact .inl rfl
    | f32 => exact .inr rfl
    | abstractInt | abstractFloat => cases concrete
    | i32 | u32 => cases holds
  | _ => cases holds

theorem Formed.wellFormed (formed : ty.Formed symbols) (valid : ty ≠ .invalid) : ty.WellFormed := by
  induction formed with
  | invalid => exact absurd rfl valid
  | void => exact .void
  | bool => exact .bool
  | string => exact .string
  | @numeric kind _ => exact .numeric kind
  | vector size holds _ _ => exact .vector size (cases_of_isVectorElement holds)
  | matrix height width holds inner _ => exact .matrix height width (inner.cases_of_isMatrixElement holds)
  | pointer space known _ ih => exact .pointer space (ih known)
  | enumeration _ values => exact .enumeration _ values
  | struct _ _ ih => exact .struct _ fun member listed known => ih member listed known

theorem Formed.invalid_or_wellFormed (formed : ty.Formed symbols) : ty = .invalid ∨ ty.WellFormed :=
  or_iff_not_imp_left.mpr formed.wellFormed

theorem Arises.invalid_or_wellFormed (arises : ty.Arises symbols) : ty = .invalid ∨ ty.WellFormed := by
  obtain formed | ⟨kind, rfl⟩ := arises
  · exact formed.invalid_or_wellFormed
  · exact .inr (.numeric kind)

end Ty

def Header.types (header : Header) : List HeaderType := header.returns :: header.parameters.map (·.type)

theorem Header.Formed.types {symbols : Symbols} {header : Header} (formed : header.Formed symbols) :
    ∀ type ∈ header.types, type.Formed symbols :=
  List.forall_mem_cons.mpr ⟨formed.returns, List.forall_mem_map.mpr formed.parameters⟩

/-- A type is recorded: on a node of a document, in one of its declarations, or among the symbols that are registered in
the end. A declaration whose name was taken is in the document but not among the symbols. -/
inductive TypedDocument.Records (document : TypedDocument) (symbols : Symbols) : Ty → Prop where
  | occurs {ty : Ty} (inside : document.Occurs ty) : Records document symbols ty
  | returned {range : Span} {ty : Ty} {value : Option TypedExpr}
      (listed : .returning range ty value ∈ document.statements) : Records document symbols ty
  | left {block : TypedBlock} (listed : .block block ∈ document.statements) :
      Records document symbols block.facts.returns
  | headerType {range : Span} {function : Function} {body : TypedBlock}
      (listed : .function range function body ∈ document.declarations) {header : Header}
      (part : header ∈ function.headers) {ty : Ty} (given : .concrete ty ∈ header.types) : Records document symbols ty
  | alias {range : Span} {ty : Ty} (listed : .alias range ty ∈ document.declarations) : Records document symbols ty
  | enumeration {range : Span} {enumeration : Enumeration}
      (listed : .enumeration range enumeration ∈ document.declarations) : Records document symbols enumeration.ty
  | member {range : Span} {layout : Layout} (listed : .struct range layout ∈ document.declarations) {name : String}
      {ty : Ty} (part : (name, ty) ∈ layout.members) : Records document symbols ty
  | registeredHeaderType {function : Function} (registered : function ∈ symbols.functions) {header : Header}
      (part : header ∈ function.headers) {ty : Ty} (given : .concrete ty ∈ header.types) : Records document symbols ty
  | registeredAlias {name : String} {ty : Ty} (registered : (name, ty) ∈ symbols.aliases) : Records document symbols ty
  | registeredEnumeration {enumeration : Enumeration} (registered : enumeration ∈ symbols.enums) :
      Records document symbols enumeration.ty
  | registeredMember {layout : Layout} (registered : layout ∈ symbols.structs) {name : String} {ty : Ty}
      (part : (name, ty) ∈ layout.members) : Records document symbols ty

/-- A recorded type can arise, or is what the declaration of a type says when its name was taken. -/
theorem TypedDocument.Records.cases {document : TypedDocument} {symbols : Symbols}
    (formed : ∀ one ∈ document.declarations, one.Formed symbols) (known : symbols.Formed) {ty : Ty}
    (recorded : document.Records symbols ty) :
    (∃ earlier, ty.Arises earlier) ∨ ∃ name underlying, ty = .enumeration name underlying
      ∧ (underlying = .i32 ∨ underlying = .string) := by
  cases recorded with
  | occurs inside => exact .inl ⟨symbols, inside.arises formed⟩
  | returned listed => exact .inl ⟨symbols, (statements_formed formed _ listed).returns rfl⟩
  | left listed => exact .inl ⟨symbols, (statements_formed formed _ listed).leaves rfl⟩
  | headerType listed part given =>
    cases formed _ listed with
    | function headers => exact .inl ⟨symbols, ((headers _ part).types _ given ty rfl).arises⟩
  | «alias» listed =>
    cases formed _ listed with
    | «alias» type => exact .inl ⟨_, type.arises⟩
  | enumeration listed =>
    cases formed _ listed with
    | enumeration values => exact .inr ⟨_, _, rfl, values⟩
  | member listed part =>
    cases formed _ listed with
    | struct members => exact .inl ⟨_, (members _ part).arises⟩
  | registeredHeaderType registered part given =>
    exact .inl ⟨symbols, ((known.functions _ registered _ part).types _ given ty rfl).arises⟩
  | registeredAlias registered => exact .inl ⟨symbols, (known.aliases _ registered).arises⟩
  | registeredEnumeration registered => exact .inl ⟨symbols, (known.enums _ registered).arises⟩
  | registeredMember registered part =>
    cases known.structs _ registered with
    | struct _ inner => exact .inl ⟨symbols, (inner _ part).arises⟩

namespace Document

/-- Every type that a check records is the invalid one or has a shape of the language. -/
theorem check_wellFormed (document : Document) {typed : TypedDocument} {context : Context}
    (ran : document.check.run {} = (.ok typed, context)) {ty : Ty} (recorded : typed.Records context.env.symbols ty) :
    ty = .invalid ∨ ty.WellFormed := by
  have yields : Yields (fun _ => True) (document.effect {}) (typed, context.env) :=
    document.check_does.yields ran fun _ _ => trivial
  obtain ⟨_, arises⟩ | ⟨name, underlying, rfl, values⟩ :=
    recorded.cases (effect_formed yields) (effect_env_formed yields).symbols
  · exact arises.invalid_or_wellFormed
  · exact .inr (.enumeration name values)

/-- A struct with an unknown member, a pointer to it, and an alias for what no vector can hold. -/
def misshapen : Document :=
  let span (line : UInt32) : Span := ⟨⟨line, 1⟩, ⟨line, 9⟩⟩
  let type (line : UInt32) (name : String) (arguments : List TypeRef) : TypeRef := .mk (span line) name arguments
  { range := span 1
    declarations := [
      .struct ⟨span 1, "S", [⟨span 1, "lost", type 1 "Nowhere" []⟩,
        ⟨span 1, "turn", type 1 "mat2x3" [type 1 "f32" []]⟩]⟩,
      .alias ⟨span 2, "P", type 2 "ptr" [type 2 "S" []]⟩,
      .alias ⟨span 3, "Q", type 3 "vec2" [type 3 "P" []]⟩] }

def misshapenLayout : Ty := .struct "S" [("lost", .invalid), ("turn", .matrix 3 2 .f32)]

theorem misshapen_wellFormed :
    ∃ typed context, misshapen.check.run {} = (.ok typed, context) ∧ context.incidents.length = 2
      ∧ typed.Records context.env.symbols .invalid
      ∧ typed.Records context.env.symbols (.pointer misshapenLayout .function)
      ∧ (Ty.pointer misshapenLayout .function = .invalid ∨ (Ty.pointer misshapenLayout .function).WellFormed) := by
  have aliases : (misshapen.check.run {}).2.env.symbols.aliases
      = [("Q", .invalid), ("P", .pointer misshapenLayout .function)] := by
    decide +kernel
  have reported : (misshapen.check.run {}).2.incidents.length = 2 := by decide +kernel
  have ended : (misshapen.check.run {}).1.toOption.isSome = true := by decide +kernel
  cases ran : misshapen.check.run {} with
  | mk result context =>
    rw [ran] at aliases reported ended
    cases result with
    | error => cases ended
    | ok typed =>
      have recorded : ∀ entry ∈ context.env.symbols.aliases, typed.Records context.env.symbols entry.2 :=
        fun _ registered => .registeredAlias registered
      rw [aliases] at recorded
      have unknown := recorded ("Q", .invalid) (by simp)
      have pointer := recorded ("P", .pointer misshapenLayout .function) (by simp)
      exact ⟨typed, context, rfl, reported, unknown, pointer, check_wellFormed misshapen ran pointer⟩

end Document

end ShaderCheck
