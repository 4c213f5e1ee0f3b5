import ShaderCheck.Proofs.FormedDocuments

/-!
Types that are told apart by name. A check compares structs and enums by their names alone. In a document this is as
good as comparing them all the way down: a name is registered once, and a second struct or enum by that name is never
the type of anything.
-/

namespace ShaderCheck

open Attempt

/-- A type occurs in a document: as that of an expression, a variable or a parameter, filled in for a call, or as a part
of one that occurs. -/
inductive TypedDocument.Occurs (document : TypedDocument) : Ty → Prop where
  | expression {e : TypedExpr} (listed : e ∈ document.expressions) : Occurs document e.facts.ty
  | parameter {range : Span} {facts : Facts} {callee : String} {target : CallTarget} {arguments : List TypedExpr}
      (listed : .call range facts callee target arguments ∈ document.expressions) {ty : Ty}
      (filled : ty ∈ target.parameters) : Occurs document ty
  | generic {range : Span} {facts : Facts} {callee : String} {target : CallTarget} {arguments : List TypedExpr}
      (listed : .call range facts callee target arguments ∈ document.expressions) {name : String} {ty : Ty}
      (bound : (name, ty) ∈ target.generics) : Occurs document ty
  | variable {v : TypedVariable} (listed : v ∈ document.declaredVariables) : Occurs document v.binding.ty
  | bodyParameter {range : Span} {function : Function} {body : TypedBlock}
      (listed : .function range function body ∈ document.declarations) (position : Nat) :
      Occurs document (FunctionDecl.parameterType function position)
  | vectorElement {dimension : Nat} {element : Ty} (whole : Occurs document (.vector dimension element)) :
      Occurs document element
  | matrixElement {rows columns : Nat} {element : Ty} (whole : Occurs document (.matrix rows columns element)) :
      Occurs document element
  | referent {referent : Ty} {space : AddressSpace} (whole : Occurs document (.pointer referent space)) :
      Occurs document referent
  | member {struct : String} {members : List (String × Ty)} (whole : Occurs document (.struct struct members))
      {name : String} {ty : Ty} (listed : (name, ty) ∈ members) : Occurs document ty

namespace TypedDocument

/-- What occurs in a document can arise, and so can its parts. -/
theorem Occurs.arises {document : TypedDocument} {symbols : Symbols}
    (formed : ∀ one ∈ document.declarations, one.Formed symbols) {ty : Ty} (occurs : document.Occurs ty) :
    ty.Arises symbols := by
  induction occurs with
  | expression listed => exact (expressions_formed formed _ listed).facts.arises
  | parameter listed filled =>
    exact (expressions_formed formed _ listed).target rfl _ (List.mem_append_left _ filled)
  | generic listed bound =>
    exact (expressions_formed formed _ listed).target rfl _ (List.mem_append_right _ (List.mem_map_of_mem bound))
  | «variable» listed => exact (declaredVariables_formed formed _ listed).arises
  | bodyParameter listed position =>
    cases formed _ listed with
    | function headers => exact (FunctionDecl.parameterType_formed headers position).arises
  | vectorElement _ whole =>
    cases whole.formed nofun with
    | vector _ _ inner => exact inner.arises
  | matrixElement _ whole =>
    cases whole.formed nofun with
    | matrix _ _ _ inner => exact inner.arises
  | referent _ whole =>
    cases whole.formed nofun with
    | pointer _ _ inner => exact inner.arises
  | member _ listed whole =>
    cases whole.formed nofun with
    | struct _ inner => exact (inner _ listed).arises

end TypedDocument

namespace Document

/-- Types that occur in one document are equal by name exactly if they are valid and the same all the way down. -/
theorem check_equals_iff (document : Document) {typed : TypedDocument} {context : Context}
    (ran : document.check.run {} = (.ok typed, context)) {a b : Ty} (first : typed.Occurs a) (second : typed.Occurs b) :
    a.equals b = true ↔ a ≠ .invalid ∧ b ≠ .invalid ∧ a = b := by
  have yields : Yields (fun _ => True) (document.effect {}) (typed, context.env) :=
    document.check_does.yields ran fun _ _ => trivial
  have formed := effect_formed yields
  exact (first.arises formed).equals_iff (second.arises formed)

/-- Two structs and two enums with one name each, an alias for the struct, and globals of these types. -/
def renamed : Document :=
  let span (line : UInt32) : Span := ⟨⟨line, 1⟩, ⟨line, 9⟩⟩
  let type (line : UInt32) (name : String) : TypeRef := .mk (span line) name []
  { range := span 1
    declarations := [
      .variable ⟨span 1, "private", "a", some (type 1 "S"), none⟩,
      .struct ⟨span 2, "S", [⟨span 2, "kind", type 2 "E"⟩, ⟨span 2, "x", type 2 "i32"⟩]⟩,
      .struct ⟨span 3, "S", [⟨span 3, "x", type 3 "f32"⟩]⟩,
      .alias ⟨span 4, "T", type 4 "S"⟩,
      .enumeration ⟨span 5, "E", [⟨span 5, "A", none⟩]⟩,
      .enumeration ⟨span 6, "E", [⟨span 6, "A", some ⟨span 6, "\"a\""⟩⟩]⟩,
      .variable ⟨span 7, "private", "b", some (type 7 "T"), some (.reference (span 7) "a")⟩,
      .variable ⟨span 8, "private", "c", none, some (.member (span 8) (.reference (span 8) "b") "kind")⟩] }

def registeredLayout : Ty := .struct "S" [("kind", .enumeration "E" .i32), ("x", .i32)]

def rejectedLayout : Ty := .struct "S" [("x", .f32)]

theorem renamed_equals_iff :
    registeredLayout.equals rejectedLayout = true ∧ registeredLayout ≠ rejectedLayout
    ∧ ∃ typed context, renamed.check.run {} = (.ok typed, context) ∧ context.incidents.length = 2
      ∧ typed.Occurs registeredLayout ∧ typed.Occurs (.enumeration "E" .i32)
      ∧ (registeredLayout.equals (.enumeration "E" .i32) = true ↔ registeredLayout ≠ .invalid
        ∧ Ty.enumeration "E" .i32 ≠ .invalid ∧ registeredLayout = .enumeration "E" .i32)
      ∧ ¬ typed.Occurs rejectedLayout := by
  have equal : registeredLayout.equals rejectedLayout = true := by decide
  have different : registeredLayout ≠ rejectedLayout := by decide
  have types : (renamed.check.run {}).1.toOption.map (fun typed => typed.declaredVariables.map (·.binding.ty))
      = some [registeredLayout, registeredLayout, .enumeration "E" .i32] := by
    decide +kernel
  have reported : (renamed.check.run {}).2.incidents.length = 2 := by decide +kernel
  refine ⟨equal, different, ?_⟩
  cases ran : renamed.check.run {} with
  | mk result context =>
    rw [ran] at types reported
    cases result with
    | error => cases types
    | ok typed =>
      have bound : typed.declaredVariables.map (·.binding.ty)
          = [registeredLayout, registeredLayout, .enumeration "E" .i32] :=
        Option.some.inj types
      have occurs : ∀ ty ∈ typed.declaredVariables.map (·.binding.ty), typed.Occurs ty :=
        List.forall_mem_map.mpr fun _ listed => .variable listed
      rw [bound] at occurs
      have layout := occurs registeredLayout List.mem_cons_self
      have kind := occurs (.enumeration "E" .i32) (by simp)
      refine ⟨typed, context, rfl, reported, layout, kind, check_equals_iff renamed ran layout kind, fun rejected => ?_⟩
      exact different ((check_equals_iff renamed ran layout rejected).mp equal).2.2

end Document

end ShaderCheck
