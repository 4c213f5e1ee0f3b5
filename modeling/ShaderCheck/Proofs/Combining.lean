import ShaderCheck.Proofs.Outcome

/-!
Assignments that combine their target with a value. Such an assignment reports what is reported where it is written out,
as the assignment of a combination: the operands are combined by the same rules, and what comes out has to fit into the
target.

The two only part where the target cannot be written to. The combination is then checked in one and not in the other,
but the target itself is reported in both, unless it is invalid and nothing that is made of it is reported.
-/

namespace ShaderCheck

namespace Noted

variable {α β : Type}

def causes (step : Noted α) : List Cause := step.notes.incidents.map Incident.cause

@[simp] theorem causes_pure (a : α) : (pure a : Noted α).causes = [] := rfl

@[simp] theorem causes_bind (step : Noted α) (next : α → Noted β) :
    (step >>= next).causes = step.causes ++ (next step.value).causes := by
  simp [causes]

@[simp] theorem causes_report (node : NodeRef) (cause : Cause) : (report node cause).causes = [cause] := rfl

@[simp] theorem causes_expect (condition : Bool) (node : NodeRef) (cause : Cause) :
    (expect condition node cause).causes = if condition then [] else [cause] := by
  cases condition <;> rfl

theorem map_message_incidents (step : Noted α) :
    step.notes.incidents.map Incident.message = step.causes.map Cause.message := by
  rw [causes, List.map_map]
  rfl

end Noted

namespace Verdict

@[simp] theorem causes_report (verdict : Verdict) (node : NodeRef) :
    (verdict.report node).causes = verdict.problems := by
  simp [report, Noted.causes, Function.comp_def]

@[simp] theorem value_report (verdict : Verdict) (node : NodeRef) : (verdict.report node).value = verdict.ty := rfl

end Verdict

theorem ArithmeticOp.ofToken?_token (op : ArithmeticOp) : ofToken? op.token = some op := by
  cases op <;> rfl

theorem BitwiseOp.ofToken?_token (op : BitwiseOp) : ofToken? op.token = some op := by
  cases op <;> rfl

inductive CombiningOp where
  | arithmetic (op : ArithmeticOp)
  | bitwise (op : BitwiseOp)

namespace CombiningOp

def token : CombiningOp → String
  | .arithmetic op => op.token
  | .bitwise op => op.token

def family : CombiningOp → OperatorFamily
  | .arithmetic _ => .arithmetic
  | .bitwise _ => .bitwise

def assignment : CombiningOp → AssignmentOp
  | .arithmetic op => .arithmetic op
  | .bitwise op => .bitwise op

def verdict (op : CombiningOp) (left right : Facts) : Verdict :=
  match op with
  | .arithmetic op => op.resultType left.ty right.ty
  | .bitwise op => op.resultType left.ty left.storage right.ty

theorem ofToken?_assignment (op : CombiningOp) : AssignmentOp.ofToken? (op.token ++ "=") = some op.assignment := by
  rcases op with op | op <;> cases op <;> decide

theorem verdict_of_invalid (op : CombiningOp) {left right : Facts}
    (invalid : left.ty.isInvalid = true ∨ right.ty.isInvalid = true) : op.verdict left right = ⟨.invalid, []⟩ := by
  have either : (left.ty.isInvalid || right.ty.isInvalid) = true := Bool.or_eq_true_iff.mpr invalid
  cases op with
  | arithmetic op => exact if_pos either
  | bitwise op => exact if_pos either

def combined (op : CombiningOp) (left right : Facts) : Facts :=
  .computed (op.verdict left right).ty (left.constness.meet right.constness)

/-- The combination as an expression. -/
theorem checkBinary_eq (op : CombiningOp) (node : NodeRef) (left right : Facts) :
    (Expr.checkBinary op.family node op.token left right).causes = (op.verdict left right).problems ∧
      (Expr.checkBinary op.family node op.token left right).value.2 = op.combined left right := by
  cases op with
  | arithmetic op =>
    simp [Expr.checkBinary, family, token, combined, verdict, operatorOr, ArithmeticOp.ofToken?_token]
  | bitwise op => simp [Expr.checkBinary, family, token, combined, verdict, operatorOr, BitwiseOp.ofToken?_token]

theorem check_binary_eq (op : CombiningOp) (env : Env) (range : Span) (left right : Expr) :
    let a := left.check env
    let b := right.check env
    let whole := (Expr.binary op.family range left op.token right).check env
    whole.causes = a.causes ++ b.causes ++ (op.verdict a.value.facts b.value.facts).problems ∧
      whole.value.facts = op.combined a.value.facts b.value.facts := by
  intro a b whole
  have binary := op.checkBinary_eq ⟨op.family.nodeKind, range⟩ a.value.facts b.value.facts
  constructor
  · simp [whole, Expr.check, binary.1, a, b]
  · simpa [whole, Expr.check, TypedExpr.facts] using binary.2

end CombiningOp

structure Facts.Writable (target : Facts) : Prop where
  valid : target.ty.isInvalid = false
  varies : target.constness = .variable
  stored : target.storage = true

namespace Stmt

variable {node other : NodeRef} {target value : Facts}

theorem checkTarget_of_writable (writable : target.Writable) : checkTarget node target = pure true := by
  simp [checkTarget, writable.valid, writable.varies, writable.stored]

/-- A target that cannot be written to is reported, unless it is invalid. -/
theorem checkTarget_of_not_writable (unwritable : ¬ target.Writable) :
    (checkTarget node target).value = false ∧
      ((checkTarget node target).causes = [] ↔ target.ty.isInvalid = true) := by
  unfold checkTarget
  split
  case isTrue invalid => simp [invalid]
  case isFalse valid =>
    split
    case isTrue => simp [valid]
    case isFalse varies =>
      split
      case isTrue => simp [valid]
      case isFalse stored =>
        have varying : target.constness = .variable := by
          cases held : target.constness with
          | constant => exact absurd held varies
          | «variable» => rfl
        exact absurd ⟨by simpa using valid, varying, by simpa using stored⟩ unwritable

/-- What is wrong with storing a type. One that is invalid was reported before. -/
def storeProblems (assigned target : Ty) : List Cause :=
  if assigned.isInvalid || assigned.castsTo target then [] else [.notAssignable assigned target]

theorem storeProblems_of_invalid {assigned : Ty} (invalid : assigned.isInvalid = true) (target : Ty) :
    storeProblems assigned target = [] := by
  simp [storeProblems, invalid]

theorem causes_checkAssignment_of_writable {token : String} {operator : AssignmentOp}
    (found : AssignmentOp.ofToken? token = some operator) (writable : target.Writable) :
    (checkAssignment node token target value).causes =
      if value.ty.isInvalid then []
      else (assignedType node operator target value).causes ++
        storeProblems (assignedType node operator target value).value target.ty := by
  cases invalid : value.ty.isInvalid <;>
    simp [checkAssignment, found, operatorOr, checkTarget_of_writable writable, storeProblems, invalid]

theorem causes_checkAssignment_of_not_writable {token : String} {operator : AssignmentOp}
    (found : AssignmentOp.ofToken? token = some operator) (unwritable : ¬ target.Writable) :
    (checkAssignment node token target value).causes = (checkTarget node target).causes := by
  simp [checkAssignment, found, operatorOr, (checkTarget_of_not_writable unwritable).1]

/-- A plain assignment reports what does not fit. -/
theorem causes_assign (writable : target.Writable) :
    (checkAssignment node "=" target value).causes = storeProblems value.ty target.ty := by
  rw [causes_checkAssignment_of_writable rfl writable]
  split
  case isTrue invalid => rw [storeProblems_of_invalid invalid]
  case isFalse => rfl

/-- A combining assignment reports what is wrong with the operands, and then what does not fit. -/
theorem causes_combine (op : CombiningOp) (writable : target.Writable) :
    (checkAssignment node (op.token ++ "=") target value).causes =
      (op.verdict target value).problems ++ storeProblems (op.verdict target value).ty target.ty := by
  rw [causes_checkAssignment_of_writable op.ofToken?_assignment writable]
  split
  case isTrue invalid =>
    rw [op.verdict_of_invalid (.inr invalid)]
    rfl
  case isFalse => cases op <;> simp [assignedType, CombiningOp.assignment, CombiningOp.verdict]

/-- Written out, a combining assignment to what can be written reports the same: first as a combination, then as an
assignment of it. -/
theorem causes_combine_eq_expanded (op : CombiningOp) (writable : target.Writable) :
    (checkAssignment node (op.token ++ "=") target value).causes =
      (op.verdict target value).problems ++ (checkAssignment other "=" target (op.combined target value)).causes := by
  rw [causes_combine op writable, causes_assign writable]
  rfl

theorem combine_quiet_iff (op : CombiningOp) :
    (checkAssignment node (op.token ++ "=") target value).causes = [] ↔
      (op.verdict target value).problems = [] ∧
        (checkAssignment other "=" target (op.combined target value)).causes = [] := by
  by_cases writable : target.Writable
  · rw [causes_combine_eq_expanded op writable, List.append_eq_nil_iff]
  · have plain : AssignmentOp.ofToken? "=" = some .assign := rfl
    rw [causes_checkAssignment_of_not_writable op.ofToken?_assignment writable,
      causes_checkAssignment_of_not_writable plain writable,
      (checkTarget_of_not_writable writable).2, (checkTarget_of_not_writable writable).2]
    -- The combination is only looked at in one of the two, but an invalid target leaves nothing to report of it.
    constructor
    · intro invalid
      rw [op.verdict_of_invalid (.inl invalid)]
      exact ⟨rfl, invalid⟩
    · exact And.right

end Stmt

namespace Analysis

variable {α : Type}

def messages (step : Analysis α) (context : Context) : List String :=
  ((step.run context).2.incidents.drop context.incidents.length).map Incident.message

theorem messages_note (step : Env → Noted α) (context : Context) :
    (Analysis.note step).messages context = (step context.env).causes.map Cause.message := by
  rw [← Noted.map_message_incidents]
  simp [messages, run, note, Context.incidents]

theorem messages_attempt (step : Env → Attempt (α × Env)) (context : Context) :
    (Analysis.attempt step).messages context = (step context.env).notes.incidents.map Incident.message := by
  rw [messages, run_attempt, Context.incidents, Context.incidents]
  cases (step context.env).result with
  | ok outcome => simp
  | error fault => simp

end Analysis

namespace Stmt

/-- What an assignment reports: what its two sides report, and then what is wrong with itself. -/
theorem messages_assignment (range : Span) (token : String) (target value : Expr) (context : Context) :
    (Analysis.attempt fun env => (Stmt.assignment range token target value).check env).messages context =
      ((target.check context.env).causes ++ (value.check context.env).causes ++
        (checkAssignment ⟨.assignment, range⟩ token (target.check context.env).value.facts
          (value.check context.env).value.facts).causes).map Cause.message := by
  rw [Analysis.messages_attempt, Stmt.check, Attempt.notes_bind_ok (Attempt.result_lift _),
    Attempt.notes_bind_ok (Attempt.result_lift _), Attempt.notes_bind_ok (Attempt.result_lift _)]
  simp [Noted.map_message_incidents]

/-- A combining assignment reports nothing exactly if it reports nothing where it is written out, and if its target can
be written to, it reports the same. -/
theorem messages_combining (op : CombiningOp) (target value : Expr) (range outer inner : Span) (context : Context)
    (quiet : (Analysis.note fun env => target.check env).messages context = []) :
    let combining := Stmt.assignment range (op.token ++ "=") target value
    let expanded := Stmt.assignment outer "=" target (.binary op.family inner target op.token value)
    let reported (s : Stmt) := (Analysis.attempt fun env => s.check env).messages context
    (reported combining = [] ↔ reported expanded = []) ∧
      ((target.check context.env).value.facts.Writable → reported combining = reported expanded) := by
  intro combining expanded reported
  have silent : (target.check context.env).causes = [] := by
    rw [Analysis.messages_note] at quiet
    exact List.map_eq_nil_iff.mp quiet
  have binary := op.check_binary_eq context.env inner target value
  simp only [reported, combining, expanded, messages_assignment, silent, binary.1, binary.2, List.nil_append,
    List.append_assoc]
  constructor
  · rw [List.map_eq_nil_iff, List.map_eq_nil_iff, List.append_eq_nil_iff, List.append_eq_nil_iff,
      List.append_eq_nil_iff, ← combine_quiet_iff op]
  · intro writable
    rw [← causes_combine_eq_expanded op writable]

def mixed : Context :=
  let node : NodeRef := ⟨.document, ⟨1, 1⟩, ⟨9, 1⟩⟩
  { env := {
      document := some node
      scopes := [⟨.global, .document node, [⟨"n", .i32, .variable, .privateSpace, none⟩,
        ⟨"x", .f32, .variable, .privateSpace, none⟩]⟩] }
    notes := { incidents := [⟨.constantAssigned, some node⟩] } }

theorem messages_combining_mixed :
    let span : Span := ⟨⟨2, 1⟩, ⟨2, 9⟩⟩
    let n := Expr.reference span "n"
    let x := Expr.reference span "x"
    let reported (s : Stmt) := (Analysis.attempt fun env => s.check env).messages mixed
    (Analysis.note fun env => n.check env).messages mixed = [] ∧ (n.check mixed.env).value.facts.Writable ∧
      reported (.assignment span "+=" n x) = reported (.assignment span "=" n (.binary .arithmetic span n "+" x)) ∧
      reported (.assignment span "+=" n x) ≠ [] := by
  intro span n x reported
  have quiet : (Analysis.note fun env => n.check env).messages mixed = [] := by decide
  have writable : (n.check mixed.env).value.facts.Writable := ⟨by decide, by decide, by decide⟩
  have same := (messages_combining (.arithmetic .plus) n x span span span mixed quiet).2 writable
  exact ⟨quiet, writable, same, by decide⟩

end Stmt

end ShaderCheck
