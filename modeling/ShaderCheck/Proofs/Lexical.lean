import ShaderCheck.Proofs.Agreement
import ShaderCheck.Proofs.Rounds

/-!
Lexical scoping. A statement reads of what is in force only what its names stand for, which names the innermost scope
holds, and whether it is inside of a loop, a switch and which function. Where two environments agree on these a
statement comes to the same, and they agree behind it. So bindings that are hidden, the number of scopes and what they
were opened for never count.
-/

namespace ShaderCheck

namespace Attempt

variable {α β : Type}

inductive Ends (rel : α → α → Prop) : Except Fault α → Except Fault α → Prop where
  | ok {a b : α} (related : rel a b) : Ends rel (.ok a) (.ok b)
  | error (fault : Fault) : Ends rel (.error fault) (.error fault)

structure Related (rel : α → α → Prop) (x y : Attempt α) : Prop where
  notes : x.notes = y.notes
  ends : Ends rel x.result y.result

namespace Related

variable {rel : α → α → Prop} {last : β → β → Prop} {x y : Attempt α} {f g : α → Attempt β}

theorem pure {a b : α} (related : rel a b) : Related rel (Pure.pure a) (Pure.pure b) := ⟨rfl, .ok related⟩

theorem ok (related : Related rel x y) {a : α} (left : x.result = .ok a) : ∃ b, y.result = .ok b ∧ rel a b := by
  have ends := related.ends
  rw [left] at ends
  generalize y.result = right at ends
  cases ends with
  | ok held => exact ⟨_, rfl, held⟩

theorem error (related : Related rel x y) {fault : Fault} (left : x.result = .error fault) :
    y.result = .error fault := by
  have ends := related.ends
  rw [left] at ends
  generalize y.result = right at ends
  cases ends with
  | error => rfl

theorem bind (first : Related rel x y) (second : ∀ a b, rel a b → Related last (f a) (g b)) :
    Related last (x >>= f) (y >>= g) := by
  cases left : x.result with
  | error fault =>
    have right := first.error left
    refine ⟨?_, ?_⟩
    · rw [notes_bind_error left, notes_bind_error right, first.notes]
    · rw [result_bind, result_bind, left, right]
      exact .error fault
  | ok a =>
    obtain ⟨b, right, related⟩ := first.ok left
    obtain ⟨noted, ends⟩ := second a b related
    refine ⟨?_, ?_⟩
    · rw [notes_bind_ok left, notes_bind_ok right, first.notes, noted]
    · rw [result_bind, result_bind, left, right]
      exact ends

theorem same (x : Attempt α) : Related Eq x x := by
  refine ⟨rfl, ?_⟩
  cases x.result with
  | ok a => exact .ok rfl
  | error fault => exact .error fault

/-- The same step may come first. -/
theorem after (second : ∀ a, Related last (f a) (g a)) : Related last (x >>= f) (x >>= g) := by
  apply (same x).bind
  rintro a _ rfl
  exact second a

theorem weaken {weaker : α → α → Prop} (related : Related rel x y) (holds : ∀ a b, rel a b → weaker a b) :
    Related weaker x y := by
  refine ⟨related.notes, ?_⟩
  cases left : x.result with
  | error fault =>
    rw [related.error left]
    exact .error fault
  | ok a =>
    obtain ⟨b, right, held⟩ := related.ok left
    rw [right]
    exact .ok (holds a b held)

theorem eq (related : Related Eq x y) : x = y := by
  have same : x.result = y.result := by
    cases left : x.result with
    | error fault => rw [related.error left]
    | ok a =>
      obtain ⟨_, right, rfl⟩ := related.ok left
      rw [right]
  exact congr (congrArg Noted.mk same) related.notes

end Related

end Attempt

open Attempt

def ScopeOwner.declaration? : ScopeOwner → Option Function
  | .function _ declaration => some declaration
  | .document _ | .construct _ => none

namespace Env

/-- A document is set, and with it the scope of its globals is open. -/
structure Ready (env : Env) : Prop where
  document : env.document.isSome
  scope : env.scopes ≠ []

/-- Statements cannot tell the two apart. -/
structure Alike (a b : Env) : Prop extends a.Agree b where
  ready : a.Ready ∧ b.Ready
  names : ∀ name, (a.local? name).isSome = (b.local? name).isSome
  loop : a.isInside .loop = b.isInside .loop
  switch : a.isInside .switch = b.isInside .switch
  function : (a.owner? .function).map ScopeOwner.declaration? = (b.owner? .function).map ScopeOwner.declaration?

def within (env : Env) (kind : ScopeKind) (owner : ScopeOwner) : Env :=
  { env with scopes := ⟨kind, owner, []⟩ :: env.scopes }

def push (env : Env) (binding : Binding) : Env :=
  { env with scopes := env.scopes.modifyHead fun scope => { scope with bindings := binding :: scope.bindings } }

variable {env a b : Env}

theorem Ready.openScope (ready : env.Ready) (kind : ScopeKind) (owner : ScopeOwner) :
    env.openScope kind owner = .ok (env.within kind owner) := by
  obtain ⟨node, set⟩ := Option.isSome_iff_exists.mp ready.document
  simp [Env.openScope, set, within]

theorem Ready.declare (ready : env.Ready) (binding : Binding) :
    env.declare binding =
      if (env.local? binding.name).isSome then .error (.duplicateInScope binding.name) else .ok (env.push binding) := by
  obtain ⟨scope, outer, scopes⟩ := List.exists_cons_of_ne_nil ready.scope
  simp [Env.declare, local?, push, scopes]

theorem Ready.within (ready : env.Ready) (kind : ScopeKind) (owner : ScopeOwner) : (env.within kind owner).Ready :=
  ⟨ready.document, List.cons_ne_nil _ _⟩

theorem Ready.push (ready : env.Ready) (binding : Binding) : (env.push binding).Ready := by
  refine ⟨ready.document, ?_⟩
  obtain ⟨scope, outer, scopes⟩ := List.exists_cons_of_ne_nil ready.scope
  simp [Env.push, scopes]

theorem owner?_within (kind : ScopeKind) (owner : ScopeOwner) (other : ScopeKind) :
    (env.within kind owner).owner? other = if kind = other then some owner else env.owner? other := by
  by_cases same : kind = other <;> simp [owner?, within, same]

theorem isInside_within (kind : ScopeKind) (owner : ScopeOwner) (other : ScopeKind) :
    (env.within kind owner).isInside other = (decide (kind = other) || env.isInside other) := by
  rw [isInside, owner?_within]
  by_cases same : kind = other <;> simp [same, isInside]

theorem lookup?_push (ready : env.Ready) (binding : Binding) (name : String) :
    (env.push binding).lookup? name = if binding.name = name then some binding else env.lookup? name := by
  obtain ⟨scope, outer, scopes⟩ := List.exists_cons_of_ne_nil ready.scope
  by_cases same : binding.name = name <;> simp [lookup?, push, scopes, Scope.find?, same, List.findSome?_cons]

theorem local?_push (ready : env.Ready) (binding : Binding) (name : String) :
    (env.push binding).local? name = if binding.name = name then some binding else env.local? name := by
  obtain ⟨scope, outer, scopes⟩ := List.exists_cons_of_ne_nil ready.scope
  by_cases same : binding.name = name <;> simp [local?, push, scopes, Scope.find?, same]

theorem owner?_push (binding : Binding) (kind : ScopeKind) : (env.push binding).owner? kind = env.owner? kind := by
  unfold owner? push
  cases env.scopes with
  | nil => rfl
  | cons scope outer => by_cases same : scope.kind = kind <;> simp [same]

theorem Alike.inFunction (alike : a.Alike b) : a.isInside .function = b.isInside .function := by
  have same := congrArg Option.isSome alike.function
  rwa [Option.isSome_map, Option.isSome_map] at same

/-- Opening the same scope in both leaves them alike. -/
theorem Alike.openScope (alike : a.Alike b) (kind : ScopeKind) (owner : ScopeOwner) :
    Related Alike (Attempt.of (a.openScope kind owner)) (Attempt.of (b.openScope kind owner)) := by
  obtain ⟨first, second⟩ := alike.ready
  rw [first.openScope, second.openScope]
  refine .pure ⟨⟨alike.symbols, alike.values⟩, ⟨first.within kind owner, second.within kind owner⟩, ?_, ?_, ?_, ?_⟩
  · intro name
    rfl
  · rw [isInside_within, isInside_within, alike.loop]
  · rw [isInside_within, isInside_within, alike.switch]
  · rw [owner?_within, owner?_within]
    split
    · rfl
    · exact alike.function

/-- Both can declare a binding, or neither. -/
theorem Alike.declare (alike : a.Alike b) (binding : Binding) :
    Related Alike (Attempt.of (a.declare binding)) (Attempt.of (b.declare binding)) := by
  obtain ⟨first, second⟩ := alike.ready
  rw [first.declare, second.declare, alike.names]
  split
  · exact ⟨rfl, .error _⟩
  · refine .pure ⟨⟨alike.symbols, ?_⟩, ⟨first.push binding, second.push binding⟩, ?_, ?_, ?_, ?_⟩
    · intro name
      rw [lookup?_push first, lookup?_push second, alike.values]
    · intro name
      rw [local?_push first, local?_push second]
      split
      · rfl
      · exact alike.names name
    · simpa only [isInside, owner?_push] using alike.loop
    · simpa only [isInside, owner?_push] using alike.switch
    · simpa only [owner?_push] using alike.function

end Env

def Env.SameFacts {α : Type} (x y : α × Env) : Prop := x.1 = y.1 ∧ x.2.Alike y.2

open Env (SameFacts)

theorem Attempt.Related.bindFacts {α β : Type} {last : β → β → Prop} {x y : Attempt (α × Env)}
    {f g : α × Env → Attempt β} (first : Related SameFacts x y)
    (second : ∀ facts a b, a.Alike b → Related last (f (facts, a)) (g (facts, b))) :
    Related last (x >>= f) (y >>= g) := by
  apply first.bind
  rintro ⟨facts, a⟩ ⟨_, b⟩ ⟨rfl, alike⟩
  exact second facts a b alike

namespace VariableDecl

variable {a b : Env}

theorem checkLocal_related (alike : a.Alike b) (declaration : VariableDecl) :
    Related SameFacts (declaration.checkLocal a) (declaration.checkLocal b) := by
  rw [checkLocal, checkLocal, declaration.localBinding_congr alike.toAgree]
  refine .after fun bound => (alike.declare bound.1).bind fun after after' held => ?_
  exact .pure ⟨rfl, held⟩

theorem checkOptional_related (alike : a.Alike b) (declaration : Option VariableDecl) :
    Related SameFacts (checkOptional a declaration) (checkOptional b declaration) := by
  cases declaration with
  | none => exact .pure ⟨rfl, alike⟩
  | some declaration =>
    exact (declaration.checkLocal_related alike).bindFacts fun _ _ _ held => .pure ⟨rfl, held⟩

end VariableDecl

namespace Stmt

variable {a b : Env}

theorem checkReturn_eq (env : Env) (node : NodeRef) (ty : Ty) :
    checkReturn env node ty =
      match (env.owner? .function).map ScopeOwner.declaration? with
      | none => Noted.report node .returnOutsideFunction
      | some none => pure ()
      | some (some declaration) =>
        match expectedReturn? declaration with
        | some expected =>
          Noted.expect (ty.isInvalid || expected.isInvalid || ty.castsTo expected) node
            (.returnMismatch ty expected declaration.name)
        | none => pure () := by
  unfold checkReturn
  rcases env.owner? .function with _ | (node | ⟨node, declaration⟩ | node) <;> rfl

theorem checkReturn_congr (alike : a.Alike b) (node : NodeRef) (ty : Ty) :
    checkReturn a node ty = checkReturn b node ty := by
  rw [checkReturn_eq, checkReturn_eq, alike.function]

mutual

/-- A statement comes to the same in environments that are alike, and leaves them alike. -/
theorem check_related (s : Stmt) {a b : Env} (alike : a.Alike b) : Related SameFacts (check a s) (check b s) := by
  match s with
  | .block body =>
    rw [check, check, checkBlock_congr body alike]
    exact .after fun _ => .pure ⟨rfl, alike⟩
  | .branch chosen =>
    rw [check, check, checkBranch_congr chosen alike]
    exact .after fun _ => .pure ⟨rfl, alike⟩
  | .whileLoop range condition body =>
    rw [check, check]
    refine (alike.openScope _ _).bind fun inner inner' held => ?_
    rw [condition.check_congr held.toAgree, checkBlock_congr body held]
    exact .after fun _ => .after fun _ => .after fun _ => .pure ⟨rfl, alike⟩
  | .doWhile range condition body =>
    rw [check, check]
    refine (alike.openScope _ _).bind fun inner inner' held => ?_
    rw [condition.check_congr held.toAgree, checkBlock_congr body held]
    exact .after fun _ => .after fun _ => .after fun _ => .pure ⟨rfl, alike⟩
  | .forLoop range init condition update body =>
    rw [check, check]
    refine .after fun _ => (alike.openScope _ _).bind fun inner inner' held => ?_
    refine (VariableDecl.checkOptional_related held init).bindFacts fun first started started' held => ?_
    have behind : ∀ test, Related SameFacts
        (checkUpdate started update >>= fun outcome => checkBlock outcome.2 body >>= fun block =>
          pure (TypedStmt.forLoop range first test outcome.1 block, a))
        (checkUpdate started' update >>= fun outcome => checkBlock outcome.2 body >>= fun block =>
          pure (TypedStmt.forLoop range first test outcome.1 block, b)) := by
      intro test
      refine (checkUpdate_related update held).bindFacts fun second further further' held => ?_
      rw [checkBlock_congr body held]
      exact .after fun _ => .pure ⟨rfl, alike⟩
    simp only [Expr.checkOptional_congr held.toAgree]
    refine .after fun test => ?_
    cases test with
    | none => exact behind none
    | some test => exact .after fun _ => behind (some test)
  | .switch range selector cases fallback =>
    rw [check, check, selector.check_congr alike.toAgree]
    refine .after fun _ => .after fun _ => (alike.openScope _ _).bind fun inner inner' held => ?_
    rw [checkCases_congr cases held, checkFallback_congr fallback held]
    exact .after fun _ => .after fun _ => .pure ⟨rfl, alike⟩
  | .assignment range operator target value =>
    rw [check, check, target.check_congr alike.toAgree, value.check_congr alike.toAgree]
    exact .after fun _ => .after fun _ => .after fun _ => .pure ⟨rfl, alike⟩
  | .step range operator target =>
    rw [check, check, target.check_congr alike.toAgree]
    exact .after fun _ => .after fun _ => .pure ⟨rfl, alike⟩
  | .variable declaration =>
    rw [check, check]
    exact (declaration.checkLocal_related alike).bindFacts fun _ _ _ held => .pure ⟨rfl, held⟩
  | .returning range value =>
    rw [check, check, Expr.checkOptional_congr alike.toAgree]
    simp only [checkReturn_congr alike]
    exact .after fun _ => .after fun _ => .pure ⟨rfl, alike⟩
  | .breaking range =>
    rw [check, check, alike.loop, alike.switch]
    exact .after fun _ => .pure ⟨rfl, alike⟩
  | .continuing range =>
    rw [check, check, alike.loop]
    exact .after fun _ => .pure ⟨rfl, alike⟩
  | .discarding range =>
    rw [check, check, alike.inFunction]
    exact .after fun _ => .pure ⟨rfl, alike⟩
  | .call range callRange callee generics arguments =>
    rw [check, check, Expr.check_congr alike.toAgree]
    exact .after fun _ => .pure ⟨rfl, alike⟩
termination_by structural s

theorem checkBlock_congr (body : Block) {a b : Env} (alike : a.Alike b) : checkBlock a body = checkBlock b body := by
  match body with
  | .mk range statements =>
    rw [checkBlock, checkBlock]
    refine Related.eq ((alike.openScope _ _).bind fun inner inner' held => ?_)
    rw [checkStmts_congr statements held]
    exact .same _
termination_by structural body

theorem checkStmts_congr (statements : List Stmt) {a b : Env} (alike : a.Alike b) :
    checkStmts a statements = checkStmts b statements := by
  match statements with
  | [] => rfl
  | s :: rest =>
    rw [checkStmts, checkStmts]
    refine Related.eq ((check_related s alike).bindFacts fun first after after' held => ?_)
    simp only [checkStmts_congr rest held]
    exact .same _
termination_by structural statements

theorem checkBranch_congr (chosen : Branch) {a b : Env} (alike : a.Alike b) :
    checkBranch a chosen = checkBranch b chosen := by
  match chosen with
  | .mk range condition body otherwise =>
    rw [checkBranch, checkBranch, condition.check_congr alike.toAgree, checkBlock_congr body alike,
      checkOtherwise_congr otherwise alike]
termination_by structural chosen

theorem checkOtherwise_congr (otherwise : Otherwise) {a b : Env} (alike : a.Alike b) :
    checkOtherwise a otherwise = checkOtherwise b otherwise := by
  match otherwise with
  | .nothing => rfl
  | .block body => rw [checkOtherwise, checkOtherwise, checkBlock_congr body alike]
  | .branch chosen => rw [checkOtherwise, checkOtherwise, checkBranch_congr chosen alike]
termination_by structural otherwise

theorem checkUpdate_related (update : Option Stmt) {a b : Env} (alike : a.Alike b) :
    Related SameFacts (checkUpdate a update) (checkUpdate b update) := by
  match update with
  | none => exact .pure ⟨rfl, alike⟩
  | some s =>
    rw [checkUpdate, checkUpdate]
    exact (check_related s alike).bindFacts fun _ _ _ held => .pure ⟨rfl, held⟩
termination_by structural update

theorem checkCases_congr (cases : List Case) {a b : Env} (alike : a.Alike b) (seen : List Int64) :
    checkCases a seen cases = checkCases b seen cases := by
  match cases with
  | [] => rfl
  | .mk range values body :: rest =>
    rw [checkCases, checkCases, checkCaseValues_congr alike.toAgree, checkBlock_congr body alike]
    simp only [checkCases_congr rest alike]
termination_by structural cases

theorem checkFallback_congr (fallback : Option Block) {a b : Env} (alike : a.Alike b) :
    checkFallback a fallback = checkFallback b fallback := by
  match fallback with
  | none => rfl
  | some body => rw [checkFallback, checkFallback, checkBlock_congr body alike]
termination_by structural fallback

end

/-- Statements cannot tell apart two contexts that agree on what their names stand for, on the names of the innermost
scope, and on the loop, the switch and the function they are inside of: they come to the same facts or the same fault,
note the same incidents and names, and leave the contexts in agreement. -/
theorem check_lexical (s : Stmt) (a b : Context) (alike : a.env.Alike b.env) :
    let step := Analysis.attempt fun env => s.check env
    (step.run a).1 = (step.run b).1
    ∧ (∃ more : Notes, (step.run a).2.notes = a.notes ++ more ∧ (step.run b).2.notes = b.notes ++ more)
    ∧ (step.run a).2.env.Alike (step.run b).2.env := by
  have related := check_related s alike
  intro step
  simp only [step, Analysis.run_attempt]
  cases left : (check a.env s).result with
  | error fault =>
    rw [related.error left, ← related.notes]
    exact ⟨rfl, ⟨_, rfl, rfl⟩, alike⟩
  | ok outcome =>
    obtain ⟨⟨typed, after⟩, right, same, held⟩ := related.ok left
    rw [right, ← related.notes]
    exact ⟨congrArg Except.ok same, ⟨_, rfl, rfl⟩, held⟩

/-- Inside of a loop of a function, where blocks hide a global and a parameter. -/
def hidden : Context :=
  let node (kind : NodeKind) (line : UInt32) : NodeRef := ⟨kind, ⟨line, 1⟩, ⟨line, 9⟩⟩
  { env := {
      document := some (node .document 1)
      scopes := [
        ⟨.inherit, .construct (node .block 6), [⟨"x", .f32, .variable, .function, none⟩]⟩,
        ⟨.inherit, .construct (node .block 5), [⟨"x", .bool, .variable, .function, none⟩]⟩,
        ⟨.loop, .construct (node .whileLoop 4), []⟩,
        ⟨.function, .function (node .functionDeclaration 3) ⟨"f", [], none⟩, [⟨"x", .i32, .variable, .function, none⟩]⟩,
        ⟨.global, .document (node .document 1), [⟨"x", .u32, .variable, .storage, none⟩,
          ⟨"y", .f32, .constant, .privateSpace, some (.integer 1)⟩]⟩] } }

/-- The same names, loop and function as in `hidden`, with nothing hidden and the scopes in another order. -/
def plain : Context :=
  let node (kind : NodeKind) (line : UInt32) : NodeRef := ⟨kind, ⟨line, 1⟩, ⟨line, 9⟩⟩
  { env := {
      document := some (node .document 2)
      scopes := [
        ⟨.loop, .construct (node .forLoop 8), [⟨"x", .f32, .variable, .function, none⟩]⟩,
        ⟨.function, .function (node .functionDeclaration 7) ⟨"f", [], none⟩,
          [⟨"y", .f32, .constant, .privateSpace, some (.integer 1)⟩]⟩] }
    notes := { used := ["x"] } }

theorem hidden_alike_plain : hidden.env.Alike plain.env := by
  refine ⟨⟨.refl _, fun name => ?_⟩, ⟨⟨rfl, by simp [hidden]⟩, ⟨rfl, by simp [plain]⟩⟩, fun name => ?_, rfl, rfl, rfl⟩
  · by_cases x : "x" = name
    · subst x
      rfl
    · by_cases y : "y" = name
      · subst y
        rfl
      · simp [Env.lookup?, Scope.find?, hidden, plain, x, y]
  · by_cases x : "x" = name
    · subst x
      rfl
    · simp [Env.local?, Scope.find?, hidden, plain, x]

/-- Assigns one of the names, declares another that hides a name of the outside, and leaves the loop. -/
def probe : Stmt :=
  let span (line : UInt32) : Span := ⟨⟨line, 1⟩, ⟨line, 9⟩⟩
  .block (.mk (span 20) [
    .assignment (span 21) "=" (.reference (span 21) "x") (.reference (span 21) "y"),
    .variable ⟨span 22, "let", "y", none, some (.reference (span 22) "x")⟩,
    .returning (span 23) (some (.reference (span 23) "z")),
    .breaking (span 24)])

theorem check_lexical_hidden :
    hidden.env.Alike plain.env ∧ hidden.env.scopes.length ≠ plain.env.scopes.length
    ∧ let step := Analysis.attempt fun env => probe.check env
      (step.run hidden).1 = (step.run plain).1
      ∧ (∃ more : Notes, (step.run hidden).2.notes = hidden.notes ++ more
        ∧ (step.run plain).2.notes = plain.notes ++ more)
      ∧ (step.run hidden).2.env.Alike (step.run plain).2.env :=
  ⟨hidden_alike_plain, by decide, check_lexical probe hidden plain hidden_alike_plain⟩

end Stmt

end ShaderCheck
