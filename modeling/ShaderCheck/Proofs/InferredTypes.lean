import ShaderCheck.Proofs.CastOrder
import ShaderCheck.Proofs.Combining

/-!
Variables with their type written out, and the same variables without it. Here the written type is the one that the
initializer has.

Both forms of a global variable are held to what can be stored, and one is reported exactly if the other is. A local
variable is held to it only by a type that is written. So its two forms part wherever nothing is wrong with an
initializer but that its type cannot be stored.
-/

namespace ShaderCheck

namespace Ty

mutual

def isFormatted : Ty → Bool
  | .numeric kind => kind.isConcrete
  | .vector _ element => isFormatted element
  | .matrix _ _ element => isFormatted element
  | .pointer referent _ => isFormatted referent
  | .enumeration _ underlying => isFormatted underlying
  | .struct _ members => membersFormatted members
  | .invalid | .void | .bool | .string => true
termination_by structural ty => ty

def membersFormatted : List (String × Ty) → Bool
  | [] => true
  | (_, ty) :: rest => isFormatted ty && membersFormatted rest
termination_by structural members => members

end

theorem concretize_of_isFormatted {ty : Ty} (formatted : ty.isFormatted = true) : ty.concretize = ty := by
  induction ty using Ty.induction with
  | numeric kind => cases kind <;> first | rfl | cases formatted
  | vector dimension element ih => rw [concretize, ih formatted]
  | matrix rows columns element ih => rw [concretize, ih formatted]
  | invalid | void | bool | string | pointer | enumeration | struct => rfl

/-- A type that can be stored holds nothing invalid where a cast looks. -/
theorem castsTo_self_of_storable {ty : Ty} (storable : ty.traits.storable = true) : ty.castsTo ty = true := by
  rw [castsTo_self_iff, equals_self_iff]
  induction ty using Ty.induction with
  | vector dimension element ih => exact ih storable
  | matrix rows columns element ih => exact ih storable
  | invalid | pointer => cases storable
  | void | bool | string | numeric | enumeration | struct => rfl

end Ty

theorem Attempt.notes_of_bind {α β : Type} (outcome : Except Fault α) {next : α → Attempt β}
    (silent : ∀ a, (next a).notes = {}) : (Attempt.of outcome >>= next).notes = {} := by
  cases outcome with
  | ok a => rw [notes_bind_ok (result_of _), notes_of, silent, Notes.append_empty]
  | error fault => rw [notes_bind_error (result_of _), notes_of]

namespace Analysis

variable {α : Type}

def Reports (step : Analysis α) (context : Context) : Prop := step.messages context ≠ []

instance (step : Analysis α) (context : Context) : Decidable (step.Reports context) :=
  inferInstanceAs (Decidable (_ ≠ _))

theorem reports_note_iff (step : Env → Noted α) (context : Context) :
    (Analysis.note step).Reports context ↔ (step context.env).causes ≠ [] := by
  rw [Reports, messages_note, ne_eq, List.map_eq_nil_iff]

theorem reports_attempt_iff {step : Env → Attempt (α × Env)} {context : Context} {β : Type} {noted : Noted β}
    (same : (step context.env).notes = noted.notes) :
    (Analysis.attempt step).Reports context ↔ noted.causes ≠ [] := by
  rw [Reports, messages_attempt, same, Noted.map_message_incidents, ne_eq, List.map_eq_nil_iff]

end Analysis

namespace VariableDecl

def storageProblems (ty : Ty) (name : String) : List Cause :=
  if ty.isInvalid || ty.traits.storable then [] else [.notStorable ty name]

def castProblems (declared found : Ty) (name : String) : List Cause :=
  if declared.isInvalid || found.isInvalid || found.castsTo declared then []
  else [.initializerMismatch name declared found]

variable (env : Env) (range : Span) (name : String) (ref : TypeRef) (e : Expr)

/-- Without a type, only the initializer of a local variable is looked at. -/
theorem causes_localBinding_untyped :
    (localBinding env ⟨range, "let", name, none, some e⟩).causes = (e.check env).causes := by
  simp [localBinding, localConstness?, declaredType, bindingType, Expr.checkOptional]

theorem causes_localBinding_typed :
    let declared := (ref.resolve env.symbols).value
    (localBinding env ⟨range, "let", name, some ref, some e⟩).causes =
      (e.check env).causes ++ (ref.resolve env.symbols).causes ++ storageProblems declared name ++
        castProblems declared (e.check env).value.facts.ty name := by
  simp [localBinding, localConstness?, declaredType, bindingType, Expr.checkOptional, storageProblems, castProblems]

theorem causes_globalBinding_untyped :
    (globalBinding env ⟨range, "private", name, none, some e⟩).causes =
      (e.check env).causes ++ storageProblems (e.check env).value.facts.ty.concretize name := by
  simp [globalBinding, globalKind?, isExternal, internalType, checkPlacement, declaredType, bindingType,
    Expr.checkOptional, storageProblems]

theorem causes_globalBinding_typed :
    let declared := (ref.resolve env.symbols).value
    (globalBinding env ⟨range, "private", name, some ref, some e⟩).causes =
      (e.check env).causes ++ (ref.resolve env.symbols).causes ++
        castProblems declared (e.check env).value.facts.ty name ++ storageProblems declared name := by
  simp [globalBinding, globalKind?, isExternal, internalType, checkPlacement, declaredType, bindingType,
    Expr.checkOptional, storageProblems, castProblems]

theorem notes_checkLocal (declaration : VariableDecl) :
    (declaration.checkLocal env).notes = (declaration.localBinding env).notes := by
  rw [checkLocal, Attempt.notes_bind_ok (Attempt.result_lift _), Attempt.notes_lift,
    Attempt.notes_of_bind _ fun _ => rfl, Notes.append_empty]

theorem notes_checkGlobal (declaration : VariableDecl) :
    (declaration.checkGlobal env).notes = (declaration.globalBinding env).notes := by
  rw [checkGlobal, Attempt.notes_bind_ok (Attempt.result_lift _), Attempt.notes_lift,
    Attempt.notes_of_bind _ fun _ => rfl, Notes.append_empty]

theorem storageProblems_eq_nil_iff {ty : Ty} (valid : ty ≠ .invalid) :
    storageProblems ty name = [] ↔ ty.traits.storable = true := by
  cases ty with
  | invalid => exact absurd rfl valid
  | _ => simp [storageProblems, Ty.isInvalid]

/-- Nothing is wrong with a value for its own type, if that can be stored. -/
theorem castProblems_self {ty : Ty} (storable : ty.traits.storable = true) : castProblems ty ty name = [] := by
  simp [castProblems, Ty.castsTo_self_of_storable storable]

theorem notes_check_variable (declaration : VariableDecl) :
    ((Stmt.variable declaration).check env).notes = (declaration.localBinding env).notes := by
  rw [← notes_checkLocal, Stmt.check]
  cases ends : (declaration.checkLocal env).result with
  | ok outcome => rw [Attempt.notes_bind_ok ends, Attempt.notes_pure, Notes.append_empty]
  | error fault => rw [Attempt.notes_bind_error ends]

/-- Let a type be written that is the one of the initializer. A global variable is reported with it exactly if it is
reported without it. A local variable is so exactly if the type can be stored, or the initializer itself is reported. -/
theorem check_typed_iff_untyped {context : Context} {e : Expr} {ref : TypeRef} {ty : Ty}
    (found : (e.check context.env).value.facts.ty = ty) (valid : ty ≠ .invalid) (formatted : ty.isFormatted = true)
    (resolves : (ref.resolve context.env.symbols).value = ty)
    (quiet : (Analysis.note fun env => ref.resolve env.symbols).messages context = []) (range : Span) (name : String) :
    let onTop (type : Option TypeRef) : Prop :=
      (Analysis.attempt fun env => (Decl.variable ⟨range, "private", name, type, some e⟩).check env).Reports context
    let inside (type : Option TypeRef) : Prop :=
      (Analysis.attempt fun env => (Stmt.variable ⟨range, "let", name, type, some e⟩).check env).Reports context
    (onTop (some ref) ↔ onTop none) ∧
      ((inside (some ref) ↔ inside none) ↔
        ty.traits.storable = true ∨ (Analysis.note fun env => e.check env).Reports context) := by
  intro onTop inside
  have silent : (ref.resolve context.env.symbols).causes = [] := by
    rw [Analysis.messages_note] at quiet
    exact List.map_eq_nil_iff.mp quiet
  have above (type : Option TypeRef) :
      onTop type ↔ (globalBinding context.env ⟨range, "private", name, type, some e⟩).causes ≠ [] :=
    Analysis.reports_attempt_iff (notes_checkGlobal _ _)
  have below (type : Option TypeRef) :
      inside type ↔ (localBinding context.env ⟨range, "let", name, type, some e⟩).causes ≠ [] :=
    Analysis.reports_attempt_iff (notes_check_variable _ _)
  have storage := storageProblems_eq_nil_iff name valid
  rw [above, above, below, below, Analysis.reports_note_iff, causes_globalBinding_typed, causes_globalBinding_untyped,
    causes_localBinding_typed, causes_localBinding_untyped, silent, resolves, found,
    Ty.concretize_of_isFormatted formatted]
  -- A cast is only looked at next to the question of storage, which it never adds anything to.
  cases storable : ty.traits.storable with
  | true => simp [castProblems_self name storable, storage.mpr storable]
  | false =>
    have kept : storageProblems ty name ≠ [] := by simp [storage, storable]
    simp [kept]

def vectorInScope : Context :=
  let node : NodeRef := ⟨.document, ⟨1, 1⟩, ⟨9, 1⟩⟩
  { env := {
      document := some node
      scopes := [⟨.global, .document node, [⟨"v", .vector 3 .f32, .variable, .privateSpace, none⟩]⟩] } }

/-- A vector can be stored, so it makes no difference whether its type is written. -/
theorem check_typed_iff_untyped_vector :
    let span : Span := ⟨⟨2, 1⟩, ⟨2, 9⟩⟩
    let ref : TypeRef := .mk span "vec3" [.mk span "f32" []]
    let onTop (type : Option TypeRef) : Prop := (Analysis.attempt fun env =>
      (Decl.variable ⟨span, "private", "w", type, some (.reference span "v")⟩).check env).Reports vectorInScope
    let inside (type : Option TypeRef) : Prop := (Analysis.attempt fun env =>
      (Stmt.variable ⟨span, "let", "w", type, some (.reference span "v")⟩).check env).Reports vectorInScope
    (onTop (some ref) ↔ onTop none) ∧ (inside (some ref) ↔ inside none) := by
  intro span ref onTop inside
  have quiet : (Analysis.note fun env => ref.resolve env.symbols).messages vectorInScope = [] := by decide
  have same := @check_typed_iff_untyped vectorInScope (.reference span "v") ref (.vector 3 .f32) (by decide) (by decide)
    (by decide) (by decide) quiet span "w"
  exact ⟨same.1, same.2.mpr (.inl (by decide))⟩

/-- A text cannot be stored. As a local variable it is only reported if its type is written, as a global one always. -/
theorem untyped_text_unreported :
    let span : Span := ⟨⟨2, 1⟩, ⟨2, 9⟩⟩
    let text : Expr := .literal span "\"a\""
    let ref : TypeRef := .mk span "string" []
    let onTop (type : Option TypeRef) : Prop := (Analysis.attempt fun env =>
      (Decl.variable ⟨span, "private", "s", type, some text⟩).check env).Reports vectorInScope
    let inside (type : Option TypeRef) : Prop := (Analysis.attempt fun env =>
      (Stmt.variable ⟨span, "let", "s", type, some text⟩).check env).Reports vectorInScope
    (text.check vectorInScope.env).value.facts.ty = .string ∧ (ref.resolve vectorInScope.env.symbols).value = .string ∧
      onTop (some ref) ∧ onTop none ∧ inside (some ref) ∧ ¬ inside none := by
  decide +kernel

end VariableDecl

end ShaderCheck
