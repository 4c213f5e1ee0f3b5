import ShaderCheck.Proofs.Overloads
import ShaderCheck.Proofs.Redeclaration
import ShaderCheck.Proofs.Traversal

/-!
What holds throughout a document. Something is shown to go on from one declaration to the next, and from one statement
to the next, and then it holds wherever an expression or a variable of the document was checked. It may depend on the
variables of the document, which are declared as it goes on.
-/

namespace ShaderCheck

open Noted Attempt

namespace Document

/-- Something that goes on to hold of what is in force, as long as the variables of a document are fine: one thing until
the signatures are registered, and another from then on. -/
structure Upholds (document : Document) (allowed : Incident → Prop) (fine : TypedVariable → Prop)
    (early late : Env → Prop) : Prop where
  start : early document.opened
  types : ∀ {declaration : Decl} {env typed after}, declaration.round = .enums ∨ declaration.round = .layouts →
    early env → Yields allowed (declaration.check env) (typed, after) → early after
  signatures : ∀ {env : Env}, early env → Within allowed (collectSignatures env document.declarations) →
    late (collectSignatures env document.declarations).value
  opens : ∀ {env inner : Env} {kind owner}, late env → env.openScope kind owner = .ok inner → late inner
  declares : ∀ {env after : Env} {node} {declaration : VariableDecl} {typed : TypedVariable}, fine typed → late env →
    declaration.Bound allowed env node typed.binding typed.initializer → env.declare typed.binding = .ok after →
    late after
  enters : ∀ {env inner : Env} {function} {declaration : FunctionDecl}, late env →
    declaration.registered? env.symbols = some function → declaration.entry env function = .ok inner → late inner

end Document

def TypedExpr.Stands (allowed : Incident → Prop) (late : Env → Prop) (typed : TypedExpr) : Prop :=
  ∃ env, late env ∧ Expr.Checked allowed env typed

def TypedVariable.Stands (allowed : Incident → Prop) (late : Env → Prop) (typed : TypedVariable) : Prop :=
  ∃ env node, ∃ declaration : VariableDecl, late env
    ∧ declaration.Bound allowed env node typed.binding typed.initializer

variable {allowed : Incident → Prop} {late : Env → Prop}

/-- So were the parts of its initializer. -/
theorem TypedVariable.Stands.initializer {v : TypedVariable} (stands : v.Stands allowed late) :
    ∀ e ∈ v.initializer.toList, ∀ node ∈ e.nodes, node.Stands allowed late := by
  obtain ⟨env, place, declaration, held, bound⟩ := stands
  intro e given node part
  rw [bound.value] at given
  exact ⟨env, held, (Expr.checkOptional_checked bound.given e given).nodes node part⟩

structure TypedDecl.Stands (allowed : Incident → Prop) (late : Env → Prop) (one : TypedDecl) : Prop where
  global : ∀ v, one.global? = some v → v.Stands allowed late
  locals : ∀ v, TypedStmt.variable v ∈ one.statements → v.Stands allowed late
  expressions : ∀ s ∈ one.statements, ∀ e ∈ s.expressions, ∀ node ∈ e.nodes, node.Stands allowed late

structure TypedDecl.Fine (fine : TypedVariable → Prop) (one : TypedDecl) : Prop where
  global : ∀ v, one.global? = some v → fine v
  locals : ∀ s ∈ one.statements, s.DeclaresFine fine

theorem TypedDocument.fine_of_declaredVariables {document : TypedDocument} {fine : TypedVariable → Prop}
    (fits : ∀ v ∈ document.declaredVariables, fine v) : ∀ one ∈ document.declarations, one.Fine fine := by
  intro one declared
  obtain ⟨globals, locals⟩ := List.forall_mem_append.mp fits
  constructor
  · intro v found
    exact globals v (List.mem_filterMap.mpr ⟨one, declared, found⟩)
  · rintro s inside v rfl
    have listed : TypedStmt.variable v ∈ document.statements := List.mem_flatMap.mpr ⟨one, declared, inside⟩
    exact locals v (List.mem_filterMap.mpr ⟨_, listed, rfl⟩)

namespace Document.Upholds

variable {document : Document} {fine : TypedVariable → Prop} {early : Env → Prop}
  (upholds : document.Upholds allowed fine early late)

include upholds

theorem lasts : Env.LastsIf allowed fine late where
  opens _ held opened := upholds.opens held opened
  declares fit held yields := by
    obtain ⟨bound, declared⟩ := VariableDecl.checkLocal_yields yields
    exact upholds.declares fit held bound declared

theorem global_stands {declaration : Decl} (due : declaration.round = .globals) {env after : Env} {typed : TypedDecl}
    (fits : typed.Fine fine) (held : late env) (yields : Yields allowed (declaration.check env) (typed, after)) :
    late after ∧ typed.Stands allowed late := by
  cases declaration with
  | «variable» declaration =>
    obtain ⟨binding, initializer, rfl, bound, declared⟩ := VariableDecl.checkGlobal_yields yields
    refine ⟨upholds.declares (fits.global _ rfl) held bound declared, ?_, nofun, nofun⟩
    rintro _ ⟨⟩
    exact ⟨env, _, declaration, held, bound⟩
  | _ => cases due

theorem body_stands {declaration : Decl} (due : declaration.round = .bodies) {env after : Env} {typed : TypedDecl}
    (fits : typed.Fine fine) (held : late env) (yields : Yields allowed (declaration.check env) (typed, after)) :
    late after ∧ typed.Stands allowed late := by
  cases declaration with
  | function declaration =>
    simp only [Decl.check, yields_bind, yields_pure] at yields
    obtain ⟨_, checked, ⟨⟩⟩ := yields
    refine ⟨held, ?_⟩
    cases FunctionDecl.outcome_of_yields checked with
    | duplicate => constructor <;> rintro _ ⟨⟩
    | function registered entered inside =>
      have start := upholds.enters held registered entered
      have nodes := Stmt.checkBlock_nodesIf upholds.lasts declaration.body start inside fits.locals
      refine ⟨by rintro _ ⟨⟩, fun v member => ?_, fun s member e given node part => ?_⟩
      · obtain ⟨here, _, _, held, checked⟩ := (nodes _ member).checked
        cases Stmt.outcome_of_yields checked with
        | «variable» declares => exact ⟨here, _, _, held, (VariableDecl.checkLocal_yields declares).1⟩
      · obtain ⟨here, held, checked⟩ := (nodes s member).expressions e given
        exact ⟨here, held, checked.nodes node part⟩
  | _ => cases due

theorem keepsUp : document.KeepsUpIf allowed (TypedDecl.Fine fine) early (fun _ => late)
    fun _ _ one => one.Stands allowed late where
  start := upholds.start
  types due held yields := by
    obtain ⟨-, statements, global⟩ := Decl.check_type_keeps due yields
    exact ⟨upholds.types due held yields, fun _ => ⟨by simp [global], by simp [statements], by simp [statements]⟩⟩
  signatures held signed within := signed ▸ upholds.signatures held within
  globals due fits held yields := upholds.global_stands due fits held yields
  bodies _ due fits held yields := upholds.body_stands due fits held yields

/-- What is upheld holds wherever something was checked, if all variables of the document turned out fine. -/
theorem throughout {typed : TypedDocument} {after : Env} (yields : Yields allowed (document.effect {}) (typed, after))
    (fits : ∀ v ∈ typed.declaredVariables, fine v) :
    (∀ e ∈ typed.expressions, e.Stands allowed late) ∧ ∀ v ∈ typed.declaredVariables, v.Stands allowed late := by
  obtain ⟨-, -, stand⟩ := upholds.keepsUp.effect yields (TypedDocument.fine_of_declaredVariables fits)
  have stands (one : TypedDecl) (declared : one ∈ typed.declarations) : one.Stands allowed late := by
    obtain ⟨_, -, standing⟩ := exists_of_forall₂ stand.flip one declared
    exact standing
  have globals : ∀ v ∈ typed.declarations.filterMap TypedDecl.global?, v.Stands allowed late := by
    intro v member
    obtain ⟨one, declared, found⟩ := List.mem_filterMap.mp member
    exact (stands one declared).global v found
  constructor
  · refine TypedDocument.forall_expressions (fun v member => (globals v member).initializer) fun s member => ?_
    obtain ⟨one, declared, inside⟩ := List.mem_flatMap.mp member
    exact (stands one declared).expressions s inside
  · refine TypedDocument.forall_declaredVariables globals fun v member => ?_
    obtain ⟨one, declared, inside⟩ := List.mem_flatMap.mp member
    exact (stands one declared).locals v inside

end Document.Upholds

end ShaderCheck
