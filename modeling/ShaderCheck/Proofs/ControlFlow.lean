import ShaderCheck.Proofs.Attribution
import ShaderCheck.Proofs.ScopeFrame
import ShaderCheck.Proofs.Tally

/-!
Control flow is reported exactly where it goes wrong. Whether a `break` or `continue` has something to leave is decided
by the scopes that are open, and a `return` is held against the function that owns one of them. The scopes stand for the
constructs around a statement, so what is reported can be counted in the text and in the facts of the returned values.
-/

namespace ShaderCheck

open Noted Attempt Incident

def NodeKind.leaves : NodeKind → Bool
  | .returning | .breaking | .continuing | .discarding => true
  | _ => false

def Incident.isOf (kind : NodeKind) (incident : Incident) : Bool := incident.node.any (·.kind = kind)

variable {kind : NodeKind}

def Tally.ofKind (kind : NodeKind) : Tally := .ofIncidents (isOf kind)

theorem Incident.About.isOf_eq_false {node : NodeRef} {incident : Incident} (about : incident.About node)
    (leaves : kind.leaves = true) (other : node.kind ≠ kind) : incident.isOf kind = false := by
  obtain reported | ⟨term, reported, isTerm⟩ := about
  · rw [isOf, reported]
    simpa using other
  · rw [isOf, reported]
    have different : term.kind ≠ kind := by
      rintro rfl
      cases same : term.kind <;> simp [same, NodeKind.isTerm, NodeKind.leaves] at isTerm leaves
    simpa using different

/-- What is noted about a node of another kind does not count. -/
theorem Tally.count_ofKind_eq_zero {node : NodeRef} {noted : Notes}
    (about : ∀ incident ∈ noted.incidents, incident.About node) (leaves : kind.leaves = true)
    (other : node.kind ≠ kind) : (Tally.ofKind kind).count noted = 0 := by
  refine List.countP_eq_zero.mpr fun incident member => ?_
  simp [(about incident member).isOf_eq_false leaves other]

namespace Stmt

variable {allowed : Incident → Prop} {env : Env} {node : NodeRef}

theorem test_about {construct : String} {condition : Expr} : Within (About node) (test env node construct condition) :=
  (within_bind _ _).mpr ⟨(condition.check_inTerm env).about node, checkCondition_remarks.about⟩

theorem testFor_about {condition : Option Expr} {update : Option Stmt} :
    Within (About node) (testFor env node condition update) := by
  refine (within_bind _ _).mpr ⟨by simp, ?_⟩
  cases condition with
  | none => exact within_pure ()
  | some condition => exact test_about

theorem select_about {selector : Expr} : Within (About node) (select env node selector) :=
  (within_bind _ _).mpr ⟨(selector.check_inTerm env).about node, by simp⟩

theorem assign_about {token : String} {target value : Expr} :
    Within (About node) (assign env node token target value) :=
  (within_bind _ _).mpr ⟨(target.check_inTerm env).about node,
    (within_bind _ _).mpr ⟨(value.check_inTerm env).about node, checkAssignment_remarks.about⟩⟩

theorem stepTarget_about {token : String} {target : Expr} : Within (About node) (stepTarget env node token target) :=
  (within_bind _ _).mpr ⟨(target.check_inTerm env).about node, checkStep_remarks.about⟩

theorem giveBack_about {value : Option Expr} : Within (About node) (giveBack env node value) :=
  (within_bind _ _).mpr ⟨Expr.checkOptional_inTerm.about node, checkReturn_remarks.about⟩

theorem CaseNotes.inTerm {cases : List Case} {noted : Notes} (values : CaseNotes allowed env cases noted) :
    ∀ incident ∈ noted.incidents, incident.InTerm := by
  induction values with
  | nil => exact List.forall_mem_nil _
  | cons _ _ ih => exact List.forall_mem_append.mpr ⟨checkCaseValues_inTerm, ih⟩

/-- A statement reports on its own account only at itself and at its expressions and types. -/
theorem Own.about {s : Stmt} {typed : TypedStmt} {noted : Notes} (own : Own allowed env s typed noted) :
    ∀ incident ∈ noted.incidents, incident.About s.node := by
  cases own with
  | block => exact List.forall_mem_nil _
  | branch | whileLoop | doWhile => exact test_about
  | forLoop => exact testFor_about
  | switch _ inside =>
    exact List.forall_mem_append.mpr ⟨select_about, fun incident member => .inr (inside.inTerm incident member)⟩
  | assignment => exact assign_about
  | step => exact stepTarget_about
  | «variable» => exact VariableDecl.localBinding_about
  | returning => exact giveBack_about
  | breaking | continuing | discarding => exact expect_remarks.about
  | call => exact (Expr.check_inTerm _ _).about _

def isStrayBreak : Around × Stmt → Bool
  | (around, .breaking _) => !(around.loop || around.switch)
  | _ => false

/-- A `continue` that is in no loop. It passes through the switches around it. -/
def isStrayContinue : Around × Stmt → Bool
  | (around, .continuing _) => !around.loop
  | _ => false

def isStray (kind : NodeKind) (one : Around × Stmt) : Bool :=
  kind = .breaking && isStrayBreak one || kind = .continuing && isStrayContinue one

end Stmt

/-- A `return` that does not give what the only header of its function declares. A type that is left open, and one
that is invalid, goes with everything. -/
def TypedStmt.misfits (function : Function) : TypedStmt → Bool
  | .returning _ _ value =>
    match function.headers with
    | [header] =>
      match header.returns with
      | .concrete expected =>
        !expected.isInvalid && !(Stmt.returnedType value).isInvalid && !(Stmt.returnedType value).castsTo expected
      | .generic _ => false
    | _ => false
  | _ => false

/-- The scopes that are open are those of the constructs around a statement, in the body of a function. -/
structure Env.Surrounds (function : Function) (around : Around) (env : Env) : Prop where
  loop : env.isInside .loop = around.loop
  switch : env.isInside .switch = around.switch
  owner : ∃ node, env.owner? .function = some (.function node function)

namespace Env

variable {function : Function}

theorem Surrounds.declare {around : Around} {env after : Env} (held : env.Surrounds function around) {binding : Binding}
    (declared : env.declare binding = .ok after) : after.Surrounds function around := by
  obtain ⟨loop, switch, owner⟩ := held
  constructor
  · rw [isInside, owner?_of_declare declared, ← loop, isInside]
  · rw [isInside, owner?_of_declare declared, ← switch, isInside]
  · rw [owner?_of_declare declared]
    exact owner

theorem surrounds_places : Places (fun _ => True) (Surrounds function) where
  loops held opened := by
    obtain ⟨loop, switch, owner⟩ := held
    constructor <;> simp only [isInside, owner?_of_openScope opened]
    · rfl
    · exact switch
    · exact owner
  switches held opened := by
    obtain ⟨loop, switch, owner⟩ := held
    constructor <;> simp only [isInside, owner?_of_openScope opened]
    · exact loop
    · rfl
    · exact owner
  inherits held opened := by
    obtain ⟨loop, switch, owner⟩ := held
    constructor <;> simp only [isInside, owner?_of_openScope opened]
    · exact loop
    · exact switch
    · exact owner
  declares held yields := held.declare (VariableDecl.checkLocal_yields yields).2

/-- At the start of a body there is nothing to leave but the function. -/
theorem surrounds_of_entry {document : Document} {names : List String} {env inner : Env}
    (globals : document.OnlyGlobals names env) {declaration : FunctionDecl}
    (entered : declaration.entry env function = .ok inner) : inner.Surrounds function .nothing := by
  obtain ⟨bindings, scopes, -⟩ := globals
  refine FunctionDecl.entry_keeps entered (fun opened => ?_) fun _ held declared => held.declare declared
  constructor <;> simp only [isInside, owner?_of_openScope opened]
  · simp [owner?, scopes, Around.nothing]
  · simp [owner?, scopes, Around.nothing]
  · exact ⟨_, rfl⟩

end Env

namespace Stmt

variable {function : Function}

theorem count_expect {node : NodeRef} (condition : Bool) (cause : Cause) :
    (Tally.ofKind node.kind).count (Noted.expect condition node cause).notes = (!condition).toNat := by
  cases condition <;> simp [Tally.ofKind, Tally.ofIncidents, expect, report, isOf]

/-- A `return` is reported exactly if it misfits. -/
theorem count_checkReturn {env : Env} {around : Around} (held : env.Surrounds function around) (range : Span) (ty : Ty)
    (value : Option TypedExpr) :
    (Tally.ofKind .returning).count (checkReturn env ⟨.returning, range⟩ (returnedType value)).notes
      = ((TypedStmt.returning range ty value).misfits function).toNat := by
  obtain ⟨node, owns⟩ := held.owner
  simp only [checkReturn, owns, expectedReturn?, TypedStmt.misfits]
  obtain _ | ⟨⟨_, _, expected | _⟩, _ | _⟩ := function.headers
  case cons.concrete.nil =>
    have counted := @count_expect ⟨.returning, range⟩
      ((returnedType value).isInvalid || expected.isInvalid || (returnedType value).castsTo expected)
      (.returnMismatch (returnedType value) expected function.name)
    dsimp only at counted ⊢
    rw [counted]
    cases (returnedType value).isInvalid <;> cases expected.isInvalid <;> simp
  -- Several headers, or one that gives back a generic, expect nothing in particular.
  all_goals rfl

/-- Each kind of statement that control leaves by is reported where it has nothing to leave, or where it misfits. -/
theorem weighs_leaving (leaves : kind.leaves = true) (function : Function) :
    Weighs (fun _ => True) (Env.Surrounds function) (Tally.ofKind kind) (fun one => (isStray kind one).toNat)
      fun typed => (kind = .returning && typed.misfits function).toNat where
  toPlaces := Env.surrounds_places
  own {around env s typed noted} held own := by
    by_cases same : s.node.kind = kind
    · subst same
      cases own with
      | @breaking range =>
        have counted := @count_expect ⟨.breaking, range⟩ (env.isInside .loop || env.isInside .switch) .breakOutsideLoop
        rw [node, counted, held.loop, held.switch]
        simp [isStray, isStrayBreak]
      | @continuing range =>
        have counted := @count_expect ⟨.continuing, range⟩ (env.isInside .loop) .continueOutsideLoop
        rw [node, counted, held.loop]
        simp [isStray, isStrayContinue]
      | @discarding range =>
        obtain ⟨owner, owns⟩ := held.owner
        have counted := @count_expect ⟨.discarding, range⟩ (env.isInside .function) .discardOutsideFunction
        rw [node, counted, Env.isInside, owns]
        simp [isStray]
      | @returning range value ty =>
        -- The value is reported on at expressions and types only, so any node but a `return` will do.
        have inner : (Tally.ofKind .returning).count (Expr.checkOptional env value).notes = 0 :=
          Tally.count_ofKind_eq_zero (Expr.checkOptional_inTerm.about ⟨.literal, range⟩) rfl (by simp)
        have itself := count_checkReturn held range ty (Expr.checkOptional env value).value
        rw [node, giveBack, notes_bind, Tally.count_append, inner, itself]
        simp [isStray]
      | _ => cases leaves
    -- Statements of another kind report at themselves, and weigh nothing here.
    · rw [Tally.count_ofKind_eq_zero own.about leaves same]
      cases own <;> simp_all [isStray, isStrayBreak, isStrayContinue, TypedStmt.misfits, node, Ne.symm]

end Stmt

/-- What is declared beside functions is reported on without a word about control flow. -/
theorem Decl.count_other {declaration : Decl} (leaves : kind.leaves = true) (other : declaration.round ≠ .bodies)
    {allowed : Incident → Prop} {env after : Env} {typed : TypedDecl} {noted : Notes}
    (tells : Tells allowed (declaration.check env) (typed, after) noted) : (Tally.ofKind kind).count noted = 0 := by
  have different {outer : NodeKind} (calm : outer.leaves = false) : outer ≠ kind := by
    rintro rfl
    rw [leaves] at calm
    cases calm
  cases told_of_tells tells with
  | function => exact (other rfl).elim
  | @enumeration declaration =>
    have within := (@EnumDecl.check_remarks env declaration).within
    exact Tally.count_ofKind_eq_zero (fun incident member => .inl (within incident member)) leaves (different rfl)
  | struct => exact Tally.count_ofKind_eq_zero StructDecl.check_about leaves (different rfl)
  | «alias» => exact Tally.count_ofKind_eq_zero AliasDecl.check_about leaves (different rfl)
  | «variable» => exact Tally.count_ofKind_eq_zero VariableDecl.globalBinding_about leaves (different rfl)

theorem HeaderDecl.count_collectAll (leaves : kind.leaves = true) (symbols : Symbols) (headers : List HeaderDecl) :
    (Tally.ofKind kind).count (collectAll symbols headers).notes = 0 := by
  induction headers with
  | nil => rfl
  | cons header rest ih =>
    have first : (Tally.ofKind kind).count (header.collect symbols).notes = 0 :=
      Tally.count_ofKind_eq_zero collect_about leaves (by rintro rfl; cases leaves)
    simp only [collectAll, notes_bind, Noted.notes_pure, Tally.count_append, Tally.count_empty, first, ih]

/-- So are the signatures of functions. -/
theorem Document.count_collectSignatures (leaves : kind.leaves = true) (env : Env) (declarations : List Decl) :
    (Tally.ofKind kind).count (collectSignatures env declarations).notes = 0 := by
  induction declarations generalizing env with
  | nil => rfl
  | cons declaration rest ih =>
    cases declaration with
    | function declaration =>
      let node : NodeRef := ⟨.functionDeclaration, declaration.range⟩
      have own {α : Type} {step : Noted α} (remarks : Remarks (At node) step) :
          (Tally.ofKind kind).count step.notes = 0 :=
        Tally.count_ofKind_eq_zero remarks.about leaves (by rintro rfl; cases leaves)
      have first : (Tally.ofKind kind).count (declaration.collectSignature env).notes = 0 := by
        simp only [FunctionDecl.collectSignature, notes_bind, Tally.count_append]
        rw [own expect_remarks, HeaderDecl.count_collectAll leaves, own Env.register_remarks]
      simp [collectSignatures, first, ih]
    | _ => exact ih env

def TypedDecl.misfits : TypedDecl → List TypedStmt
  | .function _ owner body => (TypedStmt.block body).nodes.filter (·.misfits owner)
  | _ => []

theorem TypedDecl.misfits_eq_nil {typed : TypedDecl} (bare : typed.statements = []) : typed.misfits = [] := by
  cases typed with
  | function range function body =>
    change (TypedStmt.block body).nodes = [] at bare
    rw [misfits, bare]
    rfl
  | _ => rfl

namespace Document

def checkedStatements (document : Document) : List (Around × Stmt) :=
  (document.functions.filter fun declaration => document.Checks declaration).flatMap fun declaration =>
    (Stmt.block declaration.body).placed .nothing

/-- How many statements of a kind have nothing to leave in the body of a declaration, if it has one that is checked. -/
def strays (document : Document) (kind : NodeKind) : Decl → Nat
  | .function declaration =>
    if document.Checks declaration then ((Stmt.block declaration.body).placed .nothing).countP (Stmt.isStray kind)
    else 0
  | _ => 0

theorem sum_strays (document : Document) (kind : NodeKind) :
    (document.declarations.map (document.strays kind)).sum = document.checkedStatements.countP (Stmt.isStray kind) := by
  unfold checkedStatements functions
  induction document.declarations with
  | nil => rfl
  | cons declaration rest ih =>
    rw [List.map_cons, List.sum_cons, ih]
    cases declaration with
    | function declaration =>
      have listed : (Decl.function declaration :: rest).filterMap Decl.function?
          = declaration :: rest.filterMap Decl.function? := rfl
      rw [strays, listed, List.filter_cons]
      by_cases checked : document.Checks declaration <;> simp [checked]
    | _ => exact Nat.zero_add _

end Document

/-- What the body of a function has reported of one kind of leaving, told from its text and its facts. -/
theorem FunctionDecl.count_body {declaration : FunctionDecl} (leaves : kind.leaves = true) {document : Document}
    {names : List String} {env after : Env} (globals : document.OnlyGlobals names env)
    (checks : (declaration.registered? env.symbols).isSome ↔ document.Checks declaration) {typed : TypedDecl}
    {noted : Notes} (tells : Tells (fun _ => True) ((Decl.function declaration).check env) (typed, after) noted) :
    (Tally.ofKind kind).count noted
      = document.strays kind (.function declaration) + if kind = .returning then typed.misfits.length else 0 := by
  obtain ⟨told⟩ := Decl.told_of_tells tells
  cases told with
  | duplicate unregistered =>
    have skipped : ¬ document.Checks declaration := by simp [← checks, unregistered]
    simp [Document.strays, skipped, TypedDecl.misfits]
  | function registered entered inside =>
    have checked : document.Checks declaration := by simp [← checks, registered]
    have start := Env.surrounds_of_entry globals entered
    rw [Document.strays, if_pos checked, (Stmt.weighs_leaving leaves _).checkBlock declaration.body start inside,
      Stmt.weight, sum_map_toNat, sum_map_toNat, TypedDecl.misfits, ← List.countP_eq_length_filter]
    by_cases returns : kind = .returning
    · simp only [returns, decide_true, Bool.true_and, if_true]
      rfl
    · simp only [returns, decide_false, Bool.false_and, if_false, List.countP_false]
      rfl

namespace Document

/-- The reports on one kind of leaving, counted over the whole document. -/
theorem effect_leaving {document : Document} (leaves : kind.leaves = true) {typed : TypedDocument} {after : Env}
    {names : List String} (yields : Yields (fun _ => True) (document.effect {}) (typed, after))
    (globals : document.OnlyGlobals names after) :
    (Tally.ofKind kind).count (Attempt.notes (document.effect {}))
      = document.checkedStatements.countP (Stmt.isStray kind)
        + if kind = .returning then (typed.declarations.flatMap TypedDecl.misfits).length else 0 := by
  let settled (symbols : Symbols) : Prop :=
    ∀ declaration, (FunctionDecl.registered? symbols declaration).isSome ↔ document.Checks declaration
  obtain ⟨checks, bare⟩ : settled after.symbols ∧ _ :=
    effect_symbols (fun builtin _ declaration => registered?_iff_checks document declaration builtin) yields
  -- All bodies are checked with the same in force, so what each of them notes can be named beforehand.
  let weight (declaration : Decl) : Nat :=
    if declaration.round = .bodies then (Tally.ofKind kind).count (Attempt.notes (declaration.check after)) else 0
  have total : (Tally.ofKind kind).count (Attempt.notes (document.effect {}))
      = (document.declarations.map weight).sum + 0 := by
    refine effect_counts (fun declaration _ other _ _ _ _ tells => ?_)
      (fun _ => count_collectSignatures leaves _ _) (fun declaration _ due _ _ tells => ?_) yields
    · exact (declaration.count_other leaves other tells).trans (if_neg other).symm
    · exact (congrArg _ tells.2).trans (if_pos due).symm
  have each : List.Forall₂ (fun declaration one => weight declaration
      = document.strays kind declaration + if kind = .returning then one.misfits.length else 0)
      document.declarations typed.declarations := by
    refine List.Forall₂.mp (fun declaration one body bare => ?_) (effect_bodies yields) bare
    by_cases due : declaration.round = .bodies
    · cases declaration with
      | function declaration =>
        exact (if_pos due).trans (declaration.count_body leaves globals (checks declaration) (body due).tells)
      | _ => cases due
    · refine (if_neg due).trans ?_
      rw [TypedDecl.misfits_eq_nil (bare due)]
      cases declaration with
      | function => exact (due rfl).elim
      | _ => simp [strays]
  rw [total, sum_of_forall₂ each, sum_strays]
  by_cases returns : kind = .returning
  · simp [returns, List.length_flatMap]
  · simp [returns]

/-- Control flow is reported exactly: as many `break`s as there are outside of loops and switches in the bodies that are
checked, as many `continue`s as there are outside of loops, no `discard`, and as many `return`s as misfit. -/
theorem check_leaving_exact (document : Document) {typed : TypedDocument} {context : Context}
    (ran : document.check.run {} = (.ok typed, context)) :
    context.incidents.countP (isOf .breaking) = document.checkedStatements.countP Stmt.isStrayBreak
    ∧ context.incidents.countP (isOf .continuing) = document.checkedStatements.countP Stmt.isStrayContinue
    ∧ context.incidents.countP (isOf .discarding) = 0
    ∧ context.incidents.countP (isOf .returning) = (typed.declarations.flatMap TypedDecl.misfits).length := by
  have yields : Yields (fun _ => True) (document.effect {}) (typed, context.env) :=
    document.check_does.yields ran fun _ _ => trivial
  have leads := document.check_leads {} rfl
  rw [ran] at leads
  have noted : context.notes = Attempt.notes (document.effect {}) := document.check_does.noted ran
  have counted {kind : NodeKind} (leaves : kind.leaves = true) : context.incidents.countP (isOf kind)
      = document.checkedStatements.countP (Stmt.isStray kind)
        + if kind = .returning then (typed.declarations.flatMap TypedDecl.misfits).length else 0 := by
    rw [Context.incidents, noted]
    exact effect_leaving leaves yields leads.1
  have breaks : Stmt.isStray .breaking = Stmt.isStrayBreak := by
    funext one
    simp [Stmt.isStray]
  have continues : Stmt.isStray .continuing = Stmt.isStrayContinue := by
    funext one
    simp [Stmt.isStray]
  have others {kind : NodeKind} (breaks : kind ≠ .breaking) (continues : kind ≠ .continuing) :
      document.checkedStatements.countP (Stmt.isStray kind) = 0 := by
    refine List.countP_eq_zero.mpr fun one _ => ?_
    simp [Stmt.isStray, breaks, continues]
  refine ⟨?_, ?_, ?_, ?_⟩
  · rw [counted rfl, breaks]
    rfl
  · rw [counted rfl, continues]
    rfl
  · rw [counted rfl, others (by decide) (by decide)]
    rfl
  · rw [counted rfl, others (by decide) (by decide), if_pos rfl, Nat.zero_add]

/-- Statements that leave something in every way that is right or wrong. A `break` that follows each turn of a `for` is
inside of it, a `continue` passes through a switch, and of the second function by one name nothing is checked. -/
def leaving : Document :=
  let span (line : UInt32) : Span := ⟨⟨line, 1⟩, ⟨line, 9⟩⟩
  let header (line : UInt32) (returns : String) : HeaderDecl := ⟨span line, [], [], .mk (span line) returns []⟩
  let block (line : UInt32) (statements : List Stmt) : Block := .mk (span line) statements
  let one (line : UInt32) : Expr := .literal (span line) "1"
  { range := span 1
    declarations := [
      .function ⟨span 1, "f", [header 1 "i32"], block 1 [
        .breaking (span 2),
        .switch (span 3) (one 3) [.mk (span 4) [one 4] (block 4 [.breaking (span 4), .continuing (span 4)])] none,
        .forLoop (span 5) none none (some (.breaking (span 5))) (block 5 [
          .switch (span 6) (one 6) [] (some (block 6 [.continuing (span 6)]))]),
        .discarding (span 7),
        .returning (span 8) none,
        .returning (span 9) (some (.reference (span 9) "unknown")),
        .returning (span 10) (some (.literal (span 10) "1.5"))]⟩,
      .function ⟨span 11, "f", [header 11 "void"], block 11 [
        .breaking (span 12), .returning (span 13) (some (one 13))]⟩,
      .function ⟨span 14, "g", [header 14 "i32", header 15 "void"], block 15 [.returning (span 16) none]⟩] }

theorem leaving_exact :
    ∃ typed context, leaving.check.run {} = (.ok typed, context)
      ∧ (leaving.checkedStatements.countP Stmt.isStrayBreak = 1 ∧ context.incidents.countP (isOf .breaking) = 1)
      ∧ (leaving.checkedStatements.countP Stmt.isStrayContinue = 1 ∧ context.incidents.countP (isOf .continuing) = 1)
      ∧ context.incidents.countP (isOf .discarding) = 0
      ∧ (typed.declarations.flatMap TypedDecl.misfits).length = 2
      ∧ context.incidents.countP (isOf .returning) = 2 := by
  have breaks : leaving.checkedStatements.countP Stmt.isStrayBreak = 1 := by decide +kernel
  have continues : leaving.checkedStatements.countP Stmt.isStrayContinue = 1 := by decide +kernel
  have misfits : (leaving.check.run {}).1.toOption.map
      (fun typed => (typed.declarations.flatMap TypedDecl.misfits).length) = some 2 := by
    decide +kernel
  cases ran : leaving.check.run {} with
  | mk result context =>
    rw [ran] at misfits
    cases result with
    | error => cases misfits
    | ok typed =>
      have misfits := Option.some.inj misfits
      obtain ⟨broken, continued, discarded, returned⟩ := check_leaving_exact leaving ran
      exact ⟨typed, context, rfl, ⟨breaks, broken.trans breaks⟩, ⟨continues, continued.trans continues⟩, discarded,
        misfits, returned.trans misfits⟩

end Document

end ShaderCheck
