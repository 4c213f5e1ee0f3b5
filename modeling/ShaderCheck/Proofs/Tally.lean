import ShaderCheck.Proofs.Declarations
import ShaderCheck.Proofs.Redeclaration

/-!
How often something is noted. A tally adds up over the steps of a check. What a statement has noted on its own account,
for the expressions it holds and how they go together, is told once for each sort of statement; the tally of a check is
then the sum over all statements inside, and the tally of a document the sum over its declarations.
-/

namespace ShaderCheck

open Noted Attempt

/-- A way to count notes that adds up over notes that follow one another. -/
structure Tally where
  count : Notes → Nat
  count_empty : count {} = 0
  count_append : ∀ a b, count (a ++ b) = count a + count b

namespace Tally

attribute [simp] count_empty count_append

def ofIncidents (pick : Incident → Bool) : Tally :=
  ⟨fun notes => notes.incidents.countP pick, rfl, fun _ _ => List.countP_append⟩

def ofUses (name : String) : Tally := ⟨fun notes => notes.used.count name, rfl, fun _ _ => List.count_append⟩

end Tally

namespace Attempt

variable {α β : Type} {allowed : Incident → Prop}

/-- A step ends without a fault, all it reports is allowed, and this is what it notes. -/
def Tells (allowed : Incident → Prop) (step : Attempt α) (a : α) (noted : Notes) : Prop :=
  Yields allowed step a ∧ noted = notes step

theorem Yields.tells {step : Attempt α} {a : α} (yields : Yields allowed step a) : Tells allowed step a (notes step) :=
  ⟨yields, rfl⟩

@[simp] theorem tells_pure {a b : α} {noted : Notes} : Tells allowed (pure a) b noted ↔ a = b ∧ noted = {} := by
  simp [Tells]

@[simp] theorem tells_lift {step : Noted α} {a : α} {noted : Notes} :
    Tells allowed (liftM step) a noted ↔ (step.value = a ∧ Within allowed step) ∧ noted = step.notes := by
  simp [Tells]

@[simp] theorem tells_of {outcome : Except Fault α} {a : α} {noted : Notes} :
    Tells allowed (Attempt.of outcome) a noted ↔ outcome = .ok a ∧ noted = {} := by
  simp [Tells]

@[simp] theorem tells_bind {step : Attempt α} {next : α → Attempt β} {b : β} {noted : Notes} :
    Tells allowed (step >>= next) b noted
      ↔ ∃ a first second, Tells allowed step a first ∧ noted = first ++ second ∧ Tells allowed (next a) b second := by
  simp only [Tells, yields_bind]
  constructor
  · rintro ⟨⟨a, first, second⟩, rfl⟩
    exact ⟨a, _, _, ⟨first, rfl⟩, notes_bind_ok first.1 next, second, rfl⟩
  · rintro ⟨a, _, _, ⟨first, rfl⟩, rfl, second, rfl⟩
    exact ⟨⟨a, first, second⟩, (notes_bind_ok first.1 next).symm⟩

end Attempt

structure Around where
  loop : Bool
  switch : Bool
  deriving DecidableEq

namespace Around

def nothing : Around := ⟨false, false⟩

def inLoop (around : Around) : Around := { around with loop := true }

def inSwitch (around : Around) : Around := { around with switch := true }

end Around

namespace Stmt

mutual

/-- A statement and those inside it, each with what is around it. What a `for` does after each turn is inside it. -/
def placed : Stmt → Around → List (Around × Stmt)
  | .block body, around => placedInBlock body around
  | .branch chosen, around => placedInBranch chosen around
  | .whileLoop range condition body, around =>
    (around, .whileLoop range condition body) :: placedInBlock body around.inLoop
  | .doWhile range condition body, around =>
    (around, .doWhile range condition body) :: placedInBlock body around.inLoop
  | .forLoop range init condition update body, around =>
    (around, .forLoop range init condition update body)
      :: ((init.map fun declaration => (around.inLoop, Stmt.variable declaration)).toList
        ++ (placedInUpdate update around.inLoop ++ placedInBlock body around.inLoop))
  | .switch range selector cases fallback, around =>
    (around, .switch range selector cases fallback)
      :: (placedInCases cases around.inSwitch ++ placedInFallback fallback around.inSwitch)
  | .assignment range operator target value, around => [(around, .assignment range operator target value)]
  | .step range operator target, around => [(around, .step range operator target)]
  | .variable declaration, around => [(around, .variable declaration)]
  | .returning range value, around => [(around, .returning range value)]
  | .breaking range, around => [(around, .breaking range)]
  | .continuing range, around => [(around, .continuing range)]
  | .discarding range, around => [(around, .discarding range)]
  | .call range callRange callee generics arguments, around =>
    [(around, .call range callRange callee generics arguments)]
termination_by structural s => s

def placedInBlock : Block → Around → List (Around × Stmt)
  | .mk range statements, around => (around, .block (.mk range statements)) :: placedInStmts statements around
termination_by structural b => b

def placedInStmts : List Stmt → Around → List (Around × Stmt)
  | [], _ => []
  | s :: rest, around => placed s around ++ placedInStmts rest around
termination_by structural statements => statements

def placedInBranch : Branch → Around → List (Around × Stmt)
  | .mk range condition body otherwise, around =>
    (around, .branch (.mk range condition body otherwise))
      :: (placedInBlock body around ++ placedInOtherwise otherwise around)
termination_by structural b => b

def placedInOtherwise : Otherwise → Around → List (Around × Stmt)
  | .nothing, _ => []
  | .block body, around => placedInBlock body around
  | .branch chosen, around => placedInBranch chosen around
termination_by structural o => o

def placedInUpdate : Option Stmt → Around → List (Around × Stmt)
  | none, _ => []
  | some s, around => placed s around
termination_by structural update => update

def placedInCases : List Case → Around → List (Around × Stmt)
  | [], _ => []
  | .mk _ _ body :: rest, around => placedInBlock body around ++ placedInCases rest around
termination_by structural cases => cases

def placedInFallback : Option Block → Around → List (Around × Stmt)
  | none, _ => []
  | some body, around => placedInBlock body around
termination_by structural fallback => fallback

end

mutual

/-- Without what is around them these are the nodes of a statement. -/
theorem map_placed : (s : Stmt) → (around : Around) → (s.placed around).map (·.2) = s.nodes
  | .block body, around => map_placedInBlock body around
  | .branch chosen, around => map_placedInBranch chosen around
  | .whileLoop _ _ body, around | .doWhile _ _ body, around => by
    simp [placed, nodes, map_placedInBlock body]
  | .forLoop _ init _ update body, around => by
    cases init <;> simp [placed, nodes, map_placedInUpdate update, map_placedInBlock body]
  | .switch _ _ cases fallback, around => by
    simp [placed, nodes, map_placedInCases cases, map_placedInFallback fallback]
  | .assignment .., _ | .step .., _ | .variable _, _ | .returning .., _ | .breaking _, _ | .continuing _, _
  | .discarding _, _ | .call .., _ => rfl
termination_by structural s => s

theorem map_placedInBlock : (body : Block) → (around : Around) →
    (placedInBlock body around).map (·.2) = nodesOfBlock body
  | .mk _ statements, around => by simp [placedInBlock, nodesOfBlock, map_placedInStmts statements]
termination_by structural b => b

theorem map_placedInStmts : (statements : List Stmt) → (around : Around) →
    (placedInStmts statements around).map (·.2) = nodesOfStmts statements
  | [], _ => rfl
  | s :: rest, around => by simp [placedInStmts, nodesOfStmts, map_placed s, map_placedInStmts rest]
termination_by structural statements => statements

theorem map_placedInBranch : (chosen : Branch) → (around : Around) →
    (placedInBranch chosen around).map (·.2) = nodesOfBranch chosen
  | .mk _ _ body otherwise, around => by
    simp [placedInBranch, nodesOfBranch, map_placedInBlock body, map_placedInOtherwise otherwise]
termination_by structural b => b

theorem map_placedInOtherwise : (otherwise : Otherwise) → (around : Around) →
    (placedInOtherwise otherwise around).map (·.2) = nodesOfOtherwise otherwise
  | .nothing, _ => rfl
  | .block body, around => map_placedInBlock body around
  | .branch chosen, around => map_placedInBranch chosen around
termination_by structural o => o

theorem map_placedInUpdate : (update : Option Stmt) → (around : Around) →
    (placedInUpdate update around).map (·.2) = nodesOfUpdate update
  | none, _ => rfl
  | some s, around => map_placed s around
termination_by structural update => update

theorem map_placedInCases : (cases : List Case) → (around : Around) →
    (placedInCases cases around).map (·.2) = nodesOfCases cases
  | [], _ => rfl
  | .mk _ _ body :: rest, around => by
    simp [placedInCases, nodesOfCases, map_placedInBlock body, map_placedInCases rest]
termination_by structural cases => cases

theorem map_placedInFallback : (fallback : Option Block) → (around : Around) →
    (placedInFallback fallback around).map (·.2) = nodesOfFallback fallback
  | none, _ => rfl
  | some body, around => map_placedInBlock body around
termination_by structural fallback => fallback

end

def test (env : Env) (node : NodeRef) (construct : String) (condition : Expr) : Noted Unit := do
  let condition ← condition.check env
  checkCondition node construct condition.facts

def testFor (env : Env) (node : NodeRef) (condition : Option Expr) (update : Option Stmt) : Noted Unit := do
  Noted.expect (update.all isUpdate) node .forUpdate
  match condition with
  | none => pure ()
  | some condition => test env node "for" condition

def select (env : Env) (node : NodeRef) (selector : Expr) : Noted Unit := do
  let selector ← selector.check env
  Noted.expect (selector.facts.ty.isInvalid || selector.facts.ty.isIntegral) node
    (.selectorNotInteger selector.facts.ty)

def assign (env : Env) (node : NodeRef) (token : String) (target value : Expr) : Noted AssignmentOp := do
  let target ← target.check env
  let value ← value.check env
  checkAssignment node token target.facts value.facts

def stepTarget (env : Env) (node : NodeRef) (token : String) (target : Expr) : Noted StepOp := do
  let target ← target.check env
  checkStep node token target.facts

def returnedType (value : Option TypedExpr) : Ty := (value.map fun e => e.facts.ty).getD .void

def giveBack (env : Env) (node : NodeRef) (value : Option Expr) : Noted Unit := do
  let value ← Expr.checkOptional env value
  checkReturn env node (returnedType value)

/-- What the values of the cases note. Each list of them is checked with the values before it in mind. -/
inductive CaseNotes (allowed : Incident → Prop) (env : Env) : List Case → Notes → Prop where
  | nil : CaseNotes allowed env [] {}
  | cons {range : Span} {values : List Expr} {body : Block} {rest : List Case} {seen : List Int64} {noted : Notes}
      (within : Within allowed (checkCaseValues env seen values)) (others : CaseNotes allowed env rest noted) :
      CaseNotes allowed env (.mk range values body :: rest) ((checkCaseValues env seen values).notes ++ noted)

/-- What the check of a statement notes on account of the statement itself, not of those inside it. -/
inductive Own (allowed : Incident → Prop) (env : Env) : Stmt → TypedStmt → Notes → Prop where
  | block {body : Block} {typed : TypedBlock} : Own allowed env (.block body) (.block typed) {}
  | branch {range : Span} {condition : Expr} {body : Block} {otherwise : Otherwise} {typed : TypedBranch}
      (within : Within allowed (test env ⟨.branch, range⟩ "if" condition)) :
      Own allowed env (.branch (.mk range condition body otherwise)) (.branch typed)
        (test env ⟨.branch, range⟩ "if" condition).notes
  | whileLoop {range : Span} {condition : Expr} {body : Block} {inner : Env} {test : TypedExpr} {block : TypedBlock}
      (within : Within allowed (Stmt.test inner ⟨.whileLoop, range⟩ "while" condition)) :
      Own allowed env (.whileLoop range condition body) (.whileLoop range test block)
        (Stmt.test inner ⟨.whileLoop, range⟩ "while" condition).notes
  | doWhile {range : Span} {condition : Expr} {body : Block} {inner : Env} {test : TypedExpr} {block : TypedBlock}
      (within : Within allowed (Stmt.test inner ⟨.doWhile, range⟩ "do while" condition)) :
      Own allowed env (.doWhile range condition body) (.doWhile range test block)
        (Stmt.test inner ⟨.doWhile, range⟩ "do while" condition).notes
  | forLoop {range : Span} {init : Option VariableDecl} {condition : Option Expr} {update : Option Stmt} {body : Block}
      {inner : Env} {first : Option TypedVariable} {test : Option TypedExpr} {second : Option TypedStmt}
      {block : TypedBlock} (within : Within allowed (testFor inner ⟨.forLoop, range⟩ condition update)) :
      Own allowed env (.forLoop range init condition update body) (.forLoop range first test second block)
        (testFor inner ⟨.forLoop, range⟩ condition update).notes
  | switch {range : Span} {selector : Expr} {cases : List Case} {fallback : Option Block} {inner : Env}
      {values : List Int64} {chosen : TypedExpr} {list : List TypedCase} {last : Option TypedBlock} {valued : Notes}
      (within : Within allowed (select env ⟨.switch, range⟩ selector)) (inside : CaseNotes allowed inner cases valued) :
      Own allowed env (.switch range selector cases fallback) (.switch range values chosen list last)
        ((select env ⟨.switch, range⟩ selector).notes ++ valued)
  | assignment {range : Span} {token : String} {target value : Expr} {operator : AssignmentOp} {place given : TypedExpr}
      (within : Within allowed (assign env ⟨.assignment, range⟩ token target value)) :
      Own allowed env (.assignment range token target value) (.assignment range operator place given)
        (assign env ⟨.assignment, range⟩ token target value).notes
  | step {range : Span} {token : String} {target : Expr} {operator : StepOp} {place : TypedExpr}
      (within : Within allowed (stepTarget env ⟨.step, range⟩ token target)) :
      Own allowed env (.step range token target) (.step range operator place)
        (stepTarget env ⟨.step, range⟩ token target).notes
  | variable {declaration : VariableDecl} {typed : TypedVariable}
      (within : Within allowed (declaration.localBinding env)) :
      Own allowed env (.variable declaration) (.variable typed) (declaration.localBinding env).notes
  | returning {range : Span} {value : Option Expr} {ty : Ty}
      (within : Within allowed (giveBack env ⟨.returning, range⟩ value)) :
      Own allowed env (.returning range value) (.returning range ty (Expr.checkOptional env value).value)
        (giveBack env ⟨.returning, range⟩ value).notes
  | breaking {range : Span}
      (within : Within allowed (Noted.expect (env.isInside .loop || env.isInside .switch) ⟨.breaking, range⟩
        .breakOutsideLoop)) :
      Own allowed env (.breaking range) (.breaking range)
        (Noted.expect (env.isInside .loop || env.isInside .switch) ⟨.breaking, range⟩ .breakOutsideLoop).notes
  | continuing {range : Span}
      (within : Within allowed (Noted.expect (env.isInside .loop) ⟨.continuing, range⟩ .continueOutsideLoop)) :
      Own allowed env (.continuing range) (.continuing range)
        (Noted.expect (env.isInside .loop) ⟨.continuing, range⟩ .continueOutsideLoop).notes
  | discarding {range : Span}
      (within : Within allowed (Noted.expect (env.isInside .function) ⟨.discarding, range⟩ .discardOutsideFunction)) :
      Own allowed env (.discarding range) (.discarding range)
        (Noted.expect (env.isInside .function) ⟨.discarding, range⟩ .discardOutsideFunction).notes
  | call {range callRange : Span} {callee : String} {generics : List TypeRef} {arguments : List Expr}
      {called : TypedExpr} (within : Within allowed ((Expr.call callRange callee generics arguments).check env)) :
      Own allowed env (.call range callRange callee generics arguments) (.call range called)
        ((Expr.call callRange callee generics arguments).check env).notes

end Stmt

/-- Something that the constructs around a statement decide about what is in force, and that the statements before it
leave as it is. -/
structure Env.Places (allowed : Incident → Prop) (here : Around → Env → Prop) : Prop where
  loops : ∀ {around env inner node}, here around env → env.openScope .loop (.construct node) = .ok inner →
    here around.inLoop inner
  switches : ∀ {around env inner node}, here around env → env.openScope .switch (.construct node) = .ok inner →
    here around.inSwitch inner
  inherits : ∀ {around env inner node}, here around env → env.openScope .inherit (.construct node) = .ok inner →
    here around inner
  declares : ∀ {around env after declaration typed}, here around env →
    Yields allowed (VariableDecl.checkLocal env declaration) (typed, after) → here around after

/-- What each statement has noted on its own account can be told from where it stands and from what came out. -/
structure Stmt.Weighs (allowed : Incident → Prop) (here : Around → Env → Prop) (tally : Tally)
    (source : Around × Stmt → Nat) (result : TypedStmt → Nat) : Prop extends Env.Places allowed here where
  own : ∀ {around env s typed noted}, here around env → Own allowed env s typed noted →
    tally.count noted = source (around, s) + result typed

namespace Stmt

variable {allowed : Incident → Prop} {here : Around → Env → Prop} {tally : Tally} {source : Around × Stmt → Nat}
  {result : TypedStmt → Nat}

def weight (source : Around × Stmt → Nat) (result : TypedStmt → Nat) (placed : List (Around × Stmt))
    (nodes : List TypedStmt) : Nat :=
  (placed.map source).sum + (nodes.map result).sum

@[simp] theorem weight_nil : weight source result [] [] = 0 := rfl

@[simp] theorem weight_cons (one : Around × Stmt) (typed : TypedStmt) (placed : List (Around × Stmt))
    (nodes : List TypedStmt) :
    weight source result (one :: placed) (typed :: nodes)
      = source one + result typed + weight source result placed nodes := by
  simp only [weight, List.map_cons, List.sum_cons]
  omega

@[simp] theorem weight_append (a b : List (Around × Stmt)) (c d : List TypedStmt) :
    weight source result (a ++ b) (c ++ d) = weight source result a c + weight source result b d := by
  simp only [weight, List.map_append, List.sum_append_nat]
  omega

namespace Weighs

theorem checkLocal (weighs : Weighs allowed here tally source result) {declaration : VariableDecl} {around : Around}
    {env after : Env} {typed : TypedVariable} {noted : Notes} (held : here around env)
    (tells : Tells allowed (declaration.checkLocal env) (typed, after) noted) :
    here around after ∧ tally.count noted = source (around, .variable declaration) + result (.variable typed) := by
  refine ⟨weighs.declares held tells.1, ?_⟩
  simp only [VariableDecl.checkLocal, tells_bind, tells_pure, tells_lift, tells_of] at tells
  obtain ⟨_, _, _, ⟨⟨rfl, within⟩, rfl⟩, rfl, _, _, _, ⟨-, rfl⟩, rfl, ⟨⟩, rfl⟩ := tells
  simp only [Tally.count_append, Tally.count_empty, Nat.add_zero]
  exact weighs.own held (.variable within)

theorem checkInit (weighs : Weighs allowed here tally source result) {init : Option VariableDecl} {around : Around}
    {env after : Env} {typed : Option TypedVariable} {noted : Notes} (held : here around env)
    (tells : Tells allowed (VariableDecl.checkOptional env init) (typed, after) noted) :
    here around after ∧ tally.count noted
      = weight source result (init.map fun declaration => (around, Stmt.variable declaration)).toList
        (typed.map TypedStmt.variable).toList := by
  cases init with
  | none =>
    simp only [VariableDecl.checkOptional, tells_pure] at tells
    obtain ⟨⟨⟩, rfl⟩ := tells
    exact ⟨held, by simp⟩
  | some declaration =>
    simp only [VariableDecl.checkOptional, tells_bind, tells_pure] at tells
    obtain ⟨⟨first, _⟩, _, _, declares, rfl, ⟨⟩, rfl⟩ := tells
    obtain ⟨held, counted⟩ := weighs.checkLocal held declares
    exact ⟨held, by simp [counted]⟩

/-- A statement that holds no others and only takes one look at what it holds. -/
theorem checkLeaf (weighs : Weighs allowed here tally source result) {α : Type} {step : Noted α} {s : Stmt}
    {finish : α → TypedStmt} {around : Around} {env after : Env} {typed : TypedStmt} {noted : Notes}
    (leaf : s.placed around = [(around, s)]) (bare : ∀ a, (finish a).nodes = [finish a]) (held : here around env)
    (own : Within allowed step → Own allowed env s (finish step.value) step.notes)
    (tells : Tells allowed (do return (finish (← step), env)) (typed, after) noted) :
    here around after ∧ tally.count noted = weight source result (s.placed around) typed.nodes := by
  simp only [tells_bind, tells_pure, tells_lift] at tells
  obtain ⟨_, _, _, ⟨⟨rfl, within⟩, rfl⟩, rfl, ⟨⟩, rfl⟩ := tells
  refine ⟨held, ?_⟩
  rw [leaf, bare, weight_cons, ← weighs.own held (own within), Tally.count_append, Tally.count_empty, weight_nil]

mutual

/-- The tally of a statement is the sum over all statements inside it, itself among them. -/
theorem check (weighs : Weighs allowed here tally source result) : (s : Stmt) → {around : Around} →
    {env after : Env} → {typed : TypedStmt} → {noted : Notes} →
    here around env → Tells allowed (Stmt.check env s) (typed, after) noted →
    here around after ∧ tally.count noted = weight source result (s.placed around) typed.nodes
  | .block body, _, _, _, _, _, held, tells => by
    simp only [Stmt.check, tells_bind, tells_pure] at tells
    obtain ⟨block, _, _, inside, rfl, ⟨⟩, rfl⟩ := tells
    refine ⟨held, ?_⟩
    rw [Tally.count_append, Tally.count_empty]
    exact weighs.checkBlock body held inside
  | .branch chosen, _, _, _, _, _, held, tells => by
    simp only [Stmt.check, tells_bind, tells_pure] at tells
    obtain ⟨branch, _, _, inside, rfl, ⟨⟩, rfl⟩ := tells
    refine ⟨held, ?_⟩
    rw [Tally.count_append, Tally.count_empty]
    exact weighs.checkBranch chosen held inside
  | .whileLoop range condition body, _, _, _, _, _, held, tells => by
    simp only [Stmt.check, openScope, tells_bind, tells_pure, tells_of, tells_lift] at tells
    obtain ⟨inner, _, _, ⟨opened, rfl⟩, rfl, _, _, _, ⟨⟨rfl, tested⟩, rfl⟩, rfl, _, _, _, ⟨⟨-, decides⟩, rfl⟩, rfl,
      block, _, _, inside, rfl, ⟨⟩, rfl⟩ := tells
    have within : Within allowed (test inner ⟨.whileLoop, range⟩ "while" condition) :=
      (within_bind _ _).mpr ⟨tested, decides⟩
    have counted := weighs.checkBlock body (weighs.loops held opened) inside
    refine ⟨held, ?_⟩
    rw [placed, TypedStmt.nodes, weight_cons, ← weighs.own held (.whileLoop within), ← counted]
    simp only [test, notes_bind, Tally.count_append, Tally.count_empty]
    omega
  | .doWhile range condition body, _, _, _, _, _, held, tells => by
    simp only [Stmt.check, openScope, tells_bind, tells_pure, tells_of, tells_lift] at tells
    obtain ⟨inner, _, _, ⟨opened, rfl⟩, rfl, block, _, _, inside, rfl, _, _, _, ⟨⟨rfl, tested⟩, rfl⟩, rfl,
      _, _, _, ⟨⟨-, decides⟩, rfl⟩, rfl, ⟨⟩, rfl⟩ := tells
    have within : Within allowed (test inner ⟨.doWhile, range⟩ "do while" condition) :=
      (within_bind _ _).mpr ⟨tested, decides⟩
    have counted := weighs.checkBlock body (weighs.loops held opened) inside
    refine ⟨held, ?_⟩
    rw [placed, TypedStmt.nodes, weight_cons, ← weighs.own held (.doWhile within), ← counted]
    simp only [test, notes_bind, Tally.count_append, Tally.count_empty]
    omega
  | .forLoop range init condition update body, _, _, _, _, _, held, tells => by
    simp only [Stmt.check, openScope, tells_bind, tells_of, tells_lift] at tells
    obtain ⟨_, _, _, ⟨⟨-, updated⟩, rfl⟩, rfl, inner, _, _, ⟨opened, rfl⟩, rfl, ⟨first, started⟩, _, _, starts, rfl,
      _, _, _, ⟨⟨rfl, tested⟩, rfl⟩, rfl, rest⟩ := tells
    obtain ⟨begun, counted⟩ := weighs.checkInit (weighs.loops held opened) starts
    -- What the loop notes of itself is not in one piece: the variable comes before the condition. Its sum is.
    cases condition with
    | none =>
      simp only [Expr.checkOptional, value_pure, tells_bind, tells_pure] at rest
      obtain ⟨⟨second, further⟩, _, _, updates, rfl, block, _, _, inside, rfl, ⟨⟩, rfl⟩ := rest
      obtain ⟨begun, again⟩ := weighs.checkUpdate update begun updates
      have turned := weighs.checkBlock body begun inside
      have within : Within allowed (testFor started ⟨.forLoop, range⟩ none update) :=
        (within_bind _ _).mpr ⟨updated, within_pure _⟩
      refine ⟨held, ?_⟩
      rw [placed, TypedStmt.nodes, weight_cons, weight_append, weight_append, ← weighs.own held (.forLoop within),
        ← counted, ← again, ← turned]
      simp only [testFor, Expr.checkOptional, notes_bind, Noted.notes_pure, Tally.count_append, Tally.count_empty]
      omega
    | some condition =>
      simp only [Expr.checkOptional, within_bind] at tested
      simp only [Expr.checkOptional, value_bind, value_pure, tells_bind, tells_pure, tells_lift] at rest
      obtain ⟨_, _, _, ⟨⟨-, decides⟩, rfl⟩, rfl, ⟨second, further⟩, _, _, updates, rfl, block, _, _, inside, rfl,
        ⟨⟩, rfl⟩ := rest
      obtain ⟨begun, again⟩ := weighs.checkUpdate update begun updates
      have turned := weighs.checkBlock body begun inside
      have within : Within allowed (testFor started ⟨.forLoop, range⟩ (some condition) update) :=
        (within_bind _ _).mpr ⟨updated, (within_bind _ _).mpr ⟨tested.1, decides⟩⟩
      refine ⟨held, ?_⟩
      rw [placed, TypedStmt.nodes, weight_cons, weight_append, weight_append, ← weighs.own held (.forLoop within),
        ← counted, ← again, ← turned]
      simp only [testFor, test, Expr.checkOptional, notes_bind, Noted.notes_pure, Tally.count_append, Tally.count_empty]
      omega
  | .switch range selector cases fallback, _, _, _, _, _, held, tells => by
    simp only [Stmt.check, openScope, tells_bind, tells_pure, tells_of, tells_lift] at tells
    obtain ⟨_, _, _, ⟨⟨rfl, selected⟩, rfl⟩, rfl, _, _, _, ⟨⟨-, chooses⟩, rfl⟩, rfl, inner, _, _, ⟨opened, rfl⟩, rfl,
      ⟨list, values⟩, _, _, inside, rfl, last, _, _, behind, rfl, ⟨⟩, rfl⟩ := tells
    have within : Within allowed (select _ ⟨.switch, range⟩ selector) := (within_bind _ _).mpr ⟨selected, chooses⟩
    obtain ⟨valued, noted, counted⟩ := weighs.checkCases cases (weighs.switches held opened) inside
    dsimp only at counted
    have further := weighs.checkFallback fallback (weighs.switches held opened) behind
    refine ⟨held, ?_⟩
    rw [placed, TypedStmt.nodes, weight_cons, weight_append, ← weighs.own held (.switch within noted), ← further]
    simp only [select, notes_bind, Tally.count_append, Tally.count_empty]
    omega
  | .assignment range token target value, _, _, _, _, _, held, tells => by
    simp only [Stmt.check, tells_bind, tells_pure, tells_lift] at tells
    obtain ⟨_, _, _, ⟨⟨rfl, stored⟩, rfl⟩, rfl, _, _, _, ⟨⟨rfl, given⟩, rfl⟩, rfl, _, _, _, ⟨⟨-, fits⟩, rfl⟩, rfl,
      ⟨⟩, rfl⟩ := tells
    have within : Within allowed (assign _ ⟨.assignment, range⟩ token target value) :=
      (within_bind _ _).mpr ⟨stored, (within_bind _ _).mpr ⟨given, fits⟩⟩
    refine ⟨held, ?_⟩
    rw [placed, TypedStmt.nodes, weight_cons, ← weighs.own held (.assignment within)]
    simp only [assign, notes_bind, Tally.count_append, Tally.count_empty, weight_nil]
    omega
  | .step range token target, _, _, _, _, _, held, tells => by
    simp only [Stmt.check, tells_bind, tells_pure, tells_lift] at tells
    obtain ⟨_, _, _, ⟨⟨rfl, stored⟩, rfl⟩, rfl, _, _, _, ⟨⟨-, fits⟩, rfl⟩, rfl, ⟨⟩, rfl⟩ := tells
    have within : Within allowed (stepTarget _ ⟨.step, range⟩ token target) := (within_bind _ _).mpr ⟨stored, fits⟩
    refine ⟨held, ?_⟩
    rw [placed, TypedStmt.nodes, weight_cons, ← weighs.own held (.step within)]
    simp only [stepTarget, notes_bind, Tally.count_append, Tally.count_empty, weight_nil]
    omega
  | .variable declaration, _, _, _, _, _, held, tells => by
    simp only [Stmt.check, tells_bind, tells_pure] at tells
    obtain ⟨_, _, _, declares, rfl, ⟨⟩, rfl⟩ := tells
    obtain ⟨held, counted⟩ := weighs.checkLocal held declares
    refine ⟨held, ?_⟩
    rw [placed, TypedStmt.nodes, weight_cons, Tally.count_append, Tally.count_empty, weight_nil, counted]
  | .returning range value, _, _, _, _, _, held, tells => by
    simp only [Stmt.check, tells_bind, tells_pure, tells_lift] at tells
    obtain ⟨_, _, _, ⟨⟨rfl, given⟩, rfl⟩, rfl, _, _, _, ⟨⟨-, fits⟩, rfl⟩, rfl, ⟨⟩, rfl⟩ := tells
    have within : Within allowed (giveBack _ ⟨.returning, range⟩ value) := (within_bind _ _).mpr ⟨given, fits⟩
    refine ⟨held, ?_⟩
    rw [placed, TypedStmt.nodes, weight_cons, ← weighs.own held (.returning within)]
    simp only [giveBack, returnedType, notes_bind, Tally.count_append, Tally.count_empty, weight_nil]
    omega
  | .breaking range, _, _, _, _, _, held, tells => by
    rw [Stmt.check] at tells
    exact weighs.checkLeaf rfl (fun _ => rfl) held .breaking tells
  | .continuing range, _, _, _, _, _, held, tells => by
    rw [Stmt.check] at tells
    exact weighs.checkLeaf rfl (fun _ => rfl) held .continuing tells
  | .discarding range, _, _, _, _, _, held, tells => by
    rw [Stmt.check] at tells
    exact weighs.checkLeaf rfl (fun _ => rfl) held .discarding tells
  | .call range callRange callee generics arguments, _, _, _, _, _, held, tells => by
    rw [Stmt.check] at tells
    exact weighs.checkLeaf rfl (fun _ => rfl) held .call tells
termination_by structural s => s

theorem checkBlock (weighs : Weighs allowed here tally source result) : (body : Block) → {around : Around} →
    {env : Env} → {typed : TypedBlock} → {noted : Notes} →
    here around env → Tells allowed (Stmt.checkBlock env body) typed noted →
    tally.count noted = weight source result (placedInBlock body around) (TypedStmt.nodesOfBlock typed)
  | .mk range statements, _, _, _, _, held, tells => by
    simp only [Stmt.checkBlock, openScope, tells_bind, tells_pure, tells_of] at tells
    obtain ⟨inner, _, _, ⟨opened, rfl⟩, rfl, list, _, _, inside, rfl, rfl, rfl⟩ := tells
    have counted := weighs.checkStmts statements (weighs.inherits held opened) inside
    rw [placedInBlock, TypedStmt.nodesOfBlock, weight_cons, ← weighs.own held .block, ← counted]
    simp only [Tally.count_append, Tally.count_empty]
    omega
termination_by structural b => b

theorem checkStmts (weighs : Weighs allowed here tally source result) : (statements : List Stmt) → {around : Around} →
    {env : Env} → {typed : List TypedStmt} →
    {noted : Notes} → here around env → Tells allowed (Stmt.checkStmts env statements) typed noted →
    tally.count noted = weight source result (placedInStmts statements around) (TypedStmt.nodesOfStmts typed)
  | [], _, _, _, _, _, tells => by
    simp only [Stmt.checkStmts, tells_pure] at tells
    obtain ⟨rfl, rfl⟩ := tells
    exact tally.count_empty
  | s :: rest, _, _, _, _, held, tells => by
    simp only [Stmt.checkStmts, tells_bind, tells_pure] at tells
    obtain ⟨⟨first, after⟩, _, _, one, rfl, others, _, _, tail, rfl, rfl, rfl⟩ := tells
    obtain ⟨held, counted⟩ := weighs.check s held one
    have behind := weighs.checkStmts rest held tail
    rw [placedInStmts, TypedStmt.nodesOfStmts, weight_append, ← counted, ← behind]
    simp only [Tally.count_append, Tally.count_empty]
    omega
termination_by structural statements => statements

theorem checkBranch (weighs : Weighs allowed here tally source result) : (chosen : Branch) → {around : Around} →
    {env : Env} → {typed : TypedBranch} → {noted : Notes} →
    here around env → Tells allowed (Stmt.checkBranch env chosen) typed noted →
    tally.count noted = weight source result (placedInBranch chosen around) (TypedStmt.nodesOfBranch typed)
  | .mk range condition body otherwise, _, _, _, _, held, tells => by
    simp only [Stmt.checkBranch, tells_bind, tells_pure, tells_lift] at tells
    obtain ⟨_, _, _, ⟨⟨rfl, tested⟩, rfl⟩, rfl, _, _, _, ⟨⟨-, decides⟩, rfl⟩, rfl, block, _, _, inside, rfl,
      last, _, _, behind, rfl, rfl, rfl⟩ := tells
    have within : Within allowed (test _ ⟨.branch, range⟩ "if" condition) := (within_bind _ _).mpr ⟨tested, decides⟩
    have counted := weighs.checkBlock body held inside
    have further := weighs.checkOtherwise otherwise held behind
    rw [placedInBranch, TypedStmt.nodesOfBranch, weight_cons, weight_append, ← weighs.own held (.branch within),
      ← counted, ← further]
    simp only [test, notes_bind, Tally.count_append, Tally.count_empty]
    omega
termination_by structural b => b

theorem checkOtherwise (weighs : Weighs allowed here tally source result) : (otherwise : Otherwise) →
    {around : Around} → {env : Env} → {typed : TypedOtherwise} →
    {noted : Notes} → here around env → Tells allowed (Stmt.checkOtherwise env otherwise) typed noted →
    tally.count noted = weight source result (placedInOtherwise otherwise around) (TypedStmt.nodesOfOtherwise typed)
  | .nothing, _, _, _, _, _, tells => by
    simp only [Stmt.checkOtherwise, tells_pure] at tells
    obtain ⟨rfl, rfl⟩ := tells
    exact tally.count_empty
  | .block body, _, _, _, _, held, tells => by
    simp only [Stmt.checkOtherwise, tells_bind, tells_pure] at tells
    obtain ⟨block, _, _, inside, rfl, rfl, rfl⟩ := tells
    rw [Tally.count_append, Tally.count_empty]
    exact weighs.checkBlock body held inside
  | .branch chosen, _, _, _, _, held, tells => by
    simp only [Stmt.checkOtherwise, tells_bind, tells_pure] at tells
    obtain ⟨branch, _, _, inside, rfl, rfl, rfl⟩ := tells
    rw [Tally.count_append, Tally.count_empty]
    exact weighs.checkBranch chosen held inside
termination_by structural o => o

theorem checkUpdate (weighs : Weighs allowed here tally source result) : (update : Option Stmt) → {around : Around} →
    {env after : Env} → {typed : Option TypedStmt} →
    {noted : Notes} → here around env → Tells allowed (Stmt.checkUpdate env update) (typed, after) noted →
    here around after
      ∧ tally.count noted = weight source result (placedInUpdate update around) (TypedStmt.nodesOfUpdate typed)
  | none, _, _, _, _, _, held, tells => by
    simp only [Stmt.checkUpdate, tells_pure] at tells
    obtain ⟨⟨⟩, rfl⟩ := tells
    exact ⟨held, tally.count_empty⟩
  | some s, _, _, _, _, _, held, tells => by
    simp only [Stmt.checkUpdate, tells_bind, tells_pure] at tells
    obtain ⟨⟨first, after⟩, _, _, one, rfl, ⟨⟩, rfl⟩ := tells
    rw [Tally.count_append, Tally.count_empty]
    exact weighs.check s held one
termination_by structural update => update

theorem checkCases (weighs : Weighs allowed here tally source result) : (cases : List Case) → {around : Around} →
    {env : Env} → {seen : List Int64} →
    {outcome : List TypedCase × List Int64} → {noted : Notes} → here around env →
    Tells allowed (Stmt.checkCases env seen cases) outcome noted →
    ∃ valued, CaseNotes allowed env cases valued ∧ tally.count noted
      = tally.count valued + weight source result (placedInCases cases around) (TypedStmt.nodesOfCases outcome.1)
  | [], _, _, _, _, _, _, tells => by
    simp only [Stmt.checkCases, tells_pure] at tells
    obtain ⟨rfl, rfl⟩ := tells
    exact ⟨_, .nil, rfl⟩
  | .mk _ _ body :: rest, _, _, _, _, _, held, tells => by
    simp only [Stmt.checkCases, tells_bind, tells_pure, tells_lift] at tells
    obtain ⟨_, _, _, ⟨⟨rfl, within⟩, rfl⟩, rfl, block, _, _, first, rfl, _, _, _, others, rfl, rfl, rfl⟩ := tells
    have counted := weighs.checkBlock body held first
    obtain ⟨valued, noted, further⟩ := weighs.checkCases rest held others
    refine ⟨_, .cons within noted, ?_⟩
    rw [placedInCases, TypedStmt.nodesOfCases, weight_append, ← counted]
    simp only [Tally.count_append, Tally.count_empty]
    omega
termination_by structural cases => cases

theorem checkFallback (weighs : Weighs allowed here tally source result) : (fallback : Option Block) →
    {around : Around} → {env : Env} → {typed : Option TypedBlock} →
    {noted : Notes} → here around env → Tells allowed (Stmt.checkFallback env fallback) typed noted →
    tally.count noted = weight source result (placedInFallback fallback around) (TypedStmt.nodesOfFallback typed)
  | none, _, _, _, _, _, tells => by
    simp only [Stmt.checkFallback, tells_pure] at tells
    obtain ⟨rfl, rfl⟩ := tells
    exact tally.count_empty
  | some body, _, _, _, _, held, tells => by
    simp only [Stmt.checkFallback, tells_bind, tells_pure] at tells
    obtain ⟨block, _, _, inside, rfl, rfl, rfl⟩ := tells
    rw [Tally.count_append, Tally.count_empty]
    exact weighs.checkBlock body held inside
termination_by structural fallback => fallback

end

end Weighs

end Stmt

namespace FunctionDecl

variable {allowed : Incident → Prop} {env : Env}

/-- How the check of a function went, and what it noted: only a function that is registered has its body checked. -/
inductive Told (allowed : Incident → Prop) (env : Env) (declaration : FunctionDecl) : TypedDecl → Notes → Prop where
  | duplicate (unregistered : declaration.registered? env.symbols = none) :
      Told allowed env declaration (.duplicate declaration.range declaration.body.range) {}
  | function {function : Function} {inner : Env} {body : TypedBlock} {noted : Notes}
      (registered : declaration.registered? env.symbols = some function)
      (entered : declaration.entry env function = .ok inner)
      (inside : Tells allowed (Stmt.checkBlock inner declaration.body) body noted) :
      Told allowed env declaration (.function declaration.range function body) noted

theorem told_of_tells {declaration : FunctionDecl} {typed : TypedDecl} {noted : Notes}
    (tells : Tells allowed (declaration.check env) typed noted) : Told allowed env declaration typed noted := by
  cases found : declaration.registered? env.symbols with
  | none =>
    simp only [check, found, tells_pure] at tells
    obtain ⟨rfl, rfl⟩ := tells
    exact .duplicate found
  | some function =>
    simp only [check, found, tells_bind, tells_pure, tells_of] at tells
    obtain ⟨outer, _, _, ⟨opened, rfl⟩, rfl, inner, _, _, ⟨declared, rfl⟩, rfl, body, _, _, inside, rfl, rfl, rfl⟩ :=
      tells
    have entered : declaration.entry env function = .ok inner := by
      rw [entry, opened]
      exact declared
    rw [Notes.empty_append, Notes.empty_append, Notes.append_empty]
    exact .function found entered inside

end FunctionDecl

namespace Decl

inductive Told (allowed : Incident → Prop) (env : Env) : Decl → TypedDecl → Notes → Prop where
  | function {declaration : FunctionDecl} {typed : TypedDecl} {noted : Notes}
      (told : declaration.Told allowed env typed noted) : Told allowed env (.function declaration) typed noted
  | enumeration {declaration : EnumDecl} {typed : TypedDecl} :
      Told allowed env (.enumeration declaration) typed (Attempt.notes (declaration.check env))
  | struct {declaration : StructDecl} {typed : TypedDecl} (within : Within allowed (declaration.check env)) :
      Told allowed env (.struct declaration) typed (declaration.check env).notes
  | alias {declaration : AliasDecl} {typed : TypedDecl} (within : Within allowed (declaration.check env)) :
      Told allowed env (.alias declaration) typed (declaration.check env).notes
  | variable {declaration : VariableDecl} {typed : TypedDecl}
      (within : Within allowed (declaration.globalBinding env)) :
      Told allowed env (.variable declaration) typed (declaration.globalBinding env).notes

theorem told_of_tells {allowed : Incident → Prop} {env after : Env} {declaration : Decl} {typed : TypedDecl}
    {noted : Notes} (tells : Tells allowed (declaration.check env) (typed, after) noted) :
    declaration.Told allowed env typed noted := by
  cases declaration with
  | function declaration =>
    simp only [check, tells_bind, tells_pure] at tells
    obtain ⟨_, _, _, checked, rfl, ⟨⟩, rfl⟩ := tells
    rw [Notes.append_empty]
    exact .function (FunctionDecl.told_of_tells checked)
  | enumeration declaration =>
    rw [tells.2]
    exact .enumeration
  | struct declaration =>
    simp only [check, tells_bind, tells_lift, tells_pure] at tells
    obtain ⟨_, _, _, ⟨⟨-, within⟩, rfl⟩, rfl, -, rfl⟩ := tells
    rw [Notes.append_empty]
    exact .struct within
  | «alias» declaration =>
    simp only [check, tells_bind, tells_lift, tells_pure] at tells
    obtain ⟨_, _, _, ⟨⟨-, within⟩, rfl⟩, rfl, -, rfl⟩ := tells
    rw [Notes.append_empty]
    exact .alias within
  | «variable» declaration =>
    simp only [check, VariableDecl.checkGlobal, tells_bind, tells_lift, tells_of, tells_pure] at tells
    obtain ⟨_, _, _, ⟨⟨-, within⟩, rfl⟩, rfl, _, _, _, ⟨-, rfl⟩, rfl, -, rfl⟩ := tells
    rw [Notes.append_empty, Notes.append_empty]
    exact .variable within

end Decl

namespace Document

variable {allowed : Incident → Prop} {tally : Tally} {weight : Decl → Nat}

theorem checkRound_counts {round : Round} {invariant : Env → Prop} {slots later : List Slot} {env after : Env}
    {noted : Notes}
    (one : ∀ declaration ∈ slots.map (·.declaration), declaration.round = round → ∀ {env typed after noted},
      invariant env → Tells allowed (declaration.check env) (typed, after) noted →
      invariant after ∧ tally.count noted = weight declaration)
    (start : invariant env) (tells : Tells allowed (checkRound round slots env) (later, after) noted) :
    invariant after ∧ later.map (·.declaration) = slots.map (·.declaration)
    ∧ tally.count noted = (((slots.map (·.declaration)).filter (·.round = round)).map weight).sum := by
  induction slots generalizing env later noted with
  | nil =>
    simp only [checkRound, tells_pure] at tells
    obtain ⟨⟨⟩, rfl⟩ := tells
    exact ⟨start, rfl, tally.count_empty⟩
  | cons slot rest ih =>
    obtain ⟨first, others⟩ := List.forall_mem_cons.mp one
    rw [checkRound] at tells
    split at tells
    case isTrue due =>
      simp only [tells_bind, tells_pure] at tells
      obtain ⟨⟨typed, middle⟩, _, _, checked, rfl, ⟨tail, last⟩, _, _, behind, rfl, ⟨⟩, rfl⟩ := tells
      obtain ⟨held, counted⟩ := first due start checked
      dsimp only at counted
      obtain ⟨held, same, further⟩ := ih others held behind
      refine ⟨held, congrArg (slot.declaration :: ·) same, ?_⟩
      rw [List.map_cons, List.filter_cons_of_pos (by simpa using due), List.map_cons, List.sum_cons]
      simp only [Tally.count_append, Tally.count_empty]
      omega
    case isFalse waits =>
      simp only [tells_bind, tells_pure] at tells
      obtain ⟨⟨tail, last⟩, _, _, behind, rfl, ⟨⟩, rfl⟩ := tells
      obtain ⟨held, same, further⟩ := ih others start behind
      refine ⟨held, congrArg (slot.declaration :: ·) same, ?_⟩
      rw [List.map_cons, List.filter_cons_of_neg (by simpa using waits), Tally.count_append, Tally.count_empty]
      exact further

/-- Every declaration is due in one of the rounds. -/
theorem sum_of_rounds (declarations : List Decl) (weight : Decl → Nat) :
    (declarations.map weight).sum
      = ((declarations.filter (·.round = .enums)).map weight).sum
        + ((declarations.filter (·.round = .layouts)).map weight).sum
        + ((declarations.filter (·.round = .globals)).map weight).sum
        + ((declarations.filter (·.round = .bodies)).map weight).sum := by
  induction declarations with
  | nil => rfl
  | cons declaration rest ih =>
    rw [List.map_cons, List.sum_cons, ih]
    cases due : declaration.round <;> simp [due] <;> omega

/-- The tally of a document is the sum over its declarations and over the signatures of its functions. -/
theorem effect_counts {document : Document} {typed : TypedDocument} {after : Env} {signed : Nat}
    (others : ∀ declaration ∈ document.declarations, declaration.round ≠ .bodies → ∀ {env one after noted},
      Tells allowed (declaration.check env) (one, after) noted → tally.count noted = weight declaration)
    (signatures : ∀ {env}, Within allowed (collectSignatures env document.declarations) →
      tally.count (collectSignatures env document.declarations).notes = signed)
    (bodies : ∀ declaration ∈ document.declarations, declaration.round = .bodies → ∀ {one noted},
      Tells allowed (declaration.check after) (one, after) noted → tally.count noted = weight declaration)
    (yields : Yields allowed (document.effect {}) (typed, after)) :
    tally.count (Attempt.notes (document.effect {})) = (document.declarations.map weight).sum + signed := by
  have tells := yields.tells
  generalize Attempt.notes (document.effect {}) = noted at tells ⊢
  simp only [Document.effect, tells_bind, tells_pure, tells_of, tells_lift] at tells
  obtain ⟨_, _, _, ⟨⟨⟩, rfl⟩, rfl, ⟨enums, env₁⟩, _, _, first, rfl, ⟨layouts, env₂⟩, _, _, second, rfl,
    env₃, _, _, ⟨⟨-, within⟩, rfl⟩, rfl, ⟨globals, env₄⟩, _, _, third, rfl, ⟨functions, env₅⟩, _, _, fourth, rfl,
    ⟨⟩, rfl⟩ := tells
  obtain rfl : env₅ = env₄ := checkRound_bodies_env fourth.1
  have earlier {round : Round} (other : round ≠ .bodies) {slots later : List Slot} {env env' : Env} {noted : Notes}
      (written : slots.map (·.declaration) = document.declarations)
      (ran : Tells allowed (checkRound round slots env) (later, env') noted) :
      later.map (·.declaration) = document.declarations
        ∧ tally.count noted = ((document.declarations.filter (·.round = round)).map weight).sum := by
    rw [← written]
    refine (@checkRound_counts allowed tally weight round (fun _ => True) _ _ _ _ _ ?_ trivial ran).2
    intro declaration listed due env one after noted _ checked
    exact ⟨trivial, others declaration (written ▸ listed) (due ▸ other) checked⟩
  have start : (document.declarations.map fun declaration => ({ declaration } : Slot)).map (·.declaration)
      = document.declarations := by
    rw [List.map_map]
    exact List.map_id _
  obtain ⟨written, counted₁⟩ := earlier (by decide) start first
  obtain ⟨written, counted₂⟩ := earlier (by decide) written second
  have counted₃ : tally.count (collectSignatures env₂ document.declarations).notes = signed := signatures within
  obtain ⟨written, counted₄⟩ := earlier (by decide) written third
  -- The bodies leave what is in force as they find it, which is what is left in the end.
  have last := @checkRound_counts allowed tally weight .bodies (· = env₅) globals functions env₅ env₅ _ ?_ rfl fourth
  · rw [written] at last
    obtain ⟨-, -, counted₅⟩ := last
    rw [sum_of_rounds]
    simp only [Tally.count_append, Tally.count_empty]
    omega
  · rintro declaration listed due _ one after noted rfl checked
    obtain rfl := check_body_env due checked.1
    exact ⟨rfl, bodies declaration (written ▸ listed) due checked⟩

/-- What holds of the symbols once the signatures are registered holds to the end, and only functions hold
statements. -/
theorem effect_symbols {document : Document} {fact : Symbols → Prop}
    (signed : ∀ {env : Env}, env.symbols.functions = (Builtin.register {}).functions →
      Within allowed (collectSignatures env document.declarations) →
      fact (collectSignatures env document.declarations).value.symbols)
    {typed : TypedDocument} {after : Env} (yields : Yields allowed (document.effect {}) (typed, after)) :
    fact after.symbols ∧ List.Forall₂ (fun declaration one => declaration.round ≠ .bodies → one.statements = [])
      document.declarations typed.declarations := by
  have keeps : document.KeepsUp allowed (fun env => env.symbols.functions = (Builtin.register {}).functions)
      (fun symbols env => env.symbols = symbols ∧ fact symbols)
      fun _ declaration one => declaration.round ≠ .bodies → one.statements = [] :=
    { start := rfl
      types := fun due held yields => by
        obtain ⟨kept, bare, -⟩ := Decl.check_type_keeps due yields
        exact ⟨kept.functions.trans held, fun _ _ => bare⟩
      signatures := fun held same within => by
        subst same
        exact ⟨rfl, signed held within⟩
      globals := fun {_ declaration _ _ _} due held yields => by
        cases declaration with
        | «variable» declaration =>
          obtain ⟨binding, initializer, rfl, -, declared⟩ := VariableDecl.checkGlobal_yields yields
          exact ⟨⟨(Env.symbols_of_declare declared).trans held.1, held.2⟩, fun _ => rfl⟩
        | _ => cases due
      bodies := fun _ due held yields => by
        obtain rfl := check_body_env due yields
        exact ⟨held, fun other => (other due).elim⟩ }
  obtain ⟨symbols, ⟨rfl, holds⟩, bare⟩ := keeps.effect yields
  exact ⟨holds, bare⟩

end Document

end ShaderCheck
