import ShaderCheck.Proofs.Lists
import ShaderCheck.Proofs.Nodes
import ShaderCheck.Proofs.Rounds

/-!
The faults that end the check of a document. Only a name that is declared twice in one scope is a fault, so whether a
document ends in one can be read off its text: off the globals, the blocks and the `for` loops of the functions that are
checked. Everything else that is wrong with a document is reported and the check goes on.
-/

namespace ShaderCheck

open Attempt

namespace Stmt

def declared? : Stmt → Option String
  | .variable declaration => some declaration.name
  | _ => none

/-- A statement that opens a scope and declares a name twice in it. -/
def Redeclares : Stmt → Prop
  | .block body => ¬ (body.statements.filterMap declared?).Nodup
  | .forLoop _ init _ update _ => ∃ name ∈ init.map (·.name), update.bind declared? = some name
  | _ => False

instance : DecidablePred Redeclares := fun s =>
  match s with
  | .block body => inferInstanceAs (Decidable (¬ (body.statements.filterMap declared?).Nodup))
  | .forLoop _ init _ update _ =>
    inferInstanceAs (Decidable (∃ name ∈ init.map (·.name), update.bind declared? = some name))
  | .branch _ | .whileLoop .. | .doWhile .. | .switch .. | .assignment .. | .step .. | .variable _ | .returning ..
  | .breaking _ | .continuing _ | .discarding _ | .call .. => isFalse not_false

end Stmt

namespace Env

/-- A document is set, and the innermost scope holds just the given names. -/
structure Holds (env : Env) (names : List String) : Prop where
  document : env.document.isSome
  scope : env.scopes ≠ []
  held : ∀ name, (env.local? name).isSome ↔ name ∈ names
  distinct : names.Nodup

variable {env : Env} {names : List String}

theorem Holds.openScope (holds : env.Holds names) (kind : ScopeKind) (owner : ScopeOwner) :
    ∃ inner, env.openScope kind owner = .ok inner ∧ inner.Holds [] := by
  have ready : env.document.isNone = false := by
    rw [Option.isNone_eq_false_iff]
    exact holds.document
  refine ⟨_, by rw [Env.openScope, ready]; rfl, ?_⟩
  exact ⟨holds.document, by simp, by simp [local?, Scope.find?], List.nodup_nil⟩

theorem Holds.declare (holds : env.Holds names) (binding : Binding) :
    Settles (Attempt.of (env.declare binding)) (¬ (names ++ [binding.name]).Nodup)
      fun after => after.Holds (names ++ [binding.name]) ∧ after.symbols = env.symbols := by
  obtain ⟨document, scope, held, distinct⟩ := holds
  obtain ⟨innermost, outer, scopes⟩ := List.exists_cons_of_ne_nil scope
  have found : ∀ name, (innermost.find? name).isSome ↔ name ∈ names := by
    intro name
    rw [← held name, local?, scopes]
    rfl
  have fresh := nodup_append_singleton distinct binding.name
  by_cases taken : binding.name ∈ names
  · simp [Settles, Env.declare, scopes, (found _).mpr taken, fresh, taken]
  · have free : ¬ (innermost.find? binding.name).isSome := fun some => taken ((found _).mp some)
    refine Settles.of_ok (by rw [result_of, Env.declare, scopes]; exact if_neg free) ?_ ?_
    · exact not_not_intro (fresh.mpr taken)
    refine ⟨⟨document, by simp, ?_, fresh.mpr taken⟩, rfl⟩
    intro name
    rw [List.mem_append, List.mem_singleton, ← found name]
    by_cases same : binding.name = name
    · simp [local?, Scope.find?, same]
    · simp [local?, Scope.find?, same, Ne.symm same]

end Env

theorem VariableDecl.name_localBinding (env : Env) (declaration : VariableDecl) :
    (declaration.localBinding env).value.1.name = declaration.name := by
  unfold VariableDecl.localBinding
  split
  all_goals
    simp only [Noted.value_bind]
    split <;> rfl

theorem VariableDecl.checkLocal_settles {env : Env} {names : List String} (holds : env.Holds names)
    (declaration : VariableDecl) :
    Settles (declaration.checkLocal env) (¬ (names ++ [declaration.name]).Nodup)
      (·.2.Holds (names ++ [declaration.name])) := by
  rw [← declaration.name_localBinding env]
  exact Settles.after (result_lift _) ((holds.declare _).map fun _ held => held.1)

/-- The variable of a `for` is the first in its scope. -/
theorem VariableDecl.checkOptional_settles {env : Env} (empty : env.Holds []) (init : Option VariableDecl) :
    Settles (VariableDecl.checkOptional env init) False fun outcome => outcome.2.Holds (init.map (·.name)).toList := by
  cases init with
  | none => exact Settles.of_ok rfl not_false empty
  | some declaration =>
    refine Settles.congr ((declaration.checkLocal_settles empty).map fun _ held => held) ?_
    simp

namespace Stmt

variable {env : Env} {names : List String}

def SomeRedeclares (nodes : List Stmt) : Prop := ∃ node ∈ nodes, node.Redeclares

theorem someRedeclares_cons {s : Stmt} {nodes : List Stmt} :
    SomeRedeclares (s :: nodes) ↔ s.Redeclares ∨ SomeRedeclares nodes := by
  simp [SomeRedeclares]

theorem someRedeclares_append {first second : List Stmt} :
    SomeRedeclares (first ++ second) ↔ SomeRedeclares first ∨ SomeRedeclares second := by
  simp [SomeRedeclares, or_and_right, exists_or]

/-- A statement declares a name that its scope already holds, or one inside it declares a name twice. -/
def Clashes (names : List String) (s : Stmt) : Prop :=
  ¬ (names ++ s.declared?.toList).Nodup ∨ SomeRedeclares s.nodes

/-- A statement that declares nothing leaves the names as they are. -/
theorem settles_silent {s : Stmt} {step : Attempt (TypedStmt × Env)} (holds : env.Holds names)
    (silent : s.declared? = none) (inside : Settles step (SomeRedeclares s.nodes) fun outcome => outcome.2 = env) :
    Settles step (s.Clashes names) fun outcome => outcome.2.Holds (names ++ s.declared?.toList) := by
  unfold Clashes
  rw [silent, Option.toList_none, List.append_nil]
  have kept : Settles step (SomeRedeclares s.nodes) fun outcome => outcome.2.Holds names :=
    inside.weaken fun _ same => same ▸ holds
  exact kept.congr (or_iff_right (not_not_intro holds.distinct)).symm

/-- A statement with no statements inside it, which opens no scope. -/
theorem settles_simple {s : Stmt} {step : Attempt (TypedStmt × Env)} (holds : env.Holds names)
    (silent : s.declared? = none) (leaf : s.nodes = [s]) (single : ¬ s.Redeclares)
    (ends : ∃ typed, result step = .ok (typed, env)) :
    Settles step (s.Clashes names) fun outcome => outcome.2.Holds (names ++ s.declared?.toList) := by
  obtain ⟨typed, ends⟩ := ends
  refine settles_silent holds silent (Settles.of_ok ends ?_ rfl)
  simp [leaf, SomeRedeclares, single]

theorem clashes_cons {s : Stmt} {rest : List Stmt} {nodes : List Stmt} :
    (s.Clashes names ∨ ¬ (names ++ s.declared?.toList ++ rest.filterMap declared?).Nodup ∨ SomeRedeclares nodes)
      ↔ ¬ (names ++ (s :: rest).filterMap declared?).Nodup ∨ SomeRedeclares (s.nodes ++ nodes) := by
  have joined : names ++ s.declared?.toList ++ rest.filterMap declared? = names ++ (s :: rest).filterMap declared? := by
    cases declares : s.declared? <;> simp [declares]
  rw [Clashes, or_or_or_comm, not_nodup_append, joined, someRedeclares_append]

theorem someRedeclares_forLoop (range : Span) (init : Option VariableDecl) (condition : Option Expr)
    (update : Option Stmt) (body : Block) :
    ((¬ ((init.map (·.name)).toList ++ (update.bind declared?).toList).Nodup
        ∨ SomeRedeclares (nodesOfUpdate update)) ∨ SomeRedeclares (nodesOfBlock body))
      ↔ SomeRedeclares (Stmt.forLoop range init condition update body).nodes := by
  have own : (¬ ((init.map (·.name)).toList ++ (update.bind declared?).toList).Nodup)
      ↔ (Stmt.forLoop range init condition update body).Redeclares := by
    rw [Redeclares]
    cases init.map (·.name) <;> cases update.bind declared? <;> simp [eq_comm]
  have single : ¬ SomeRedeclares (init.map Stmt.variable).toList := by
    cases init <;> simp [SomeRedeclares, Redeclares]
  rw [own, nodes, someRedeclares_cons, someRedeclares_append, someRedeclares_append, or_assoc]
  simp only [single, false_or]

mutual

theorem check_settles : (s : Stmt) → {env : Env} → {names : List String} → env.Holds names →
    Settles (check env s) (s.Clashes names) fun outcome => outcome.2.Holds (names ++ s.declared?.toList)
  | .block body, _, _, holds => settles_silent holds rfl ((checkBlock_settles body holds).map fun _ _ => rfl)
  | .branch chosen, _, _, holds => settles_silent holds rfl ((checkBranch_settles chosen holds).map fun _ _ => rfl)
  | .whileLoop range condition body, _, _, holds => by
    obtain ⟨inner, opened, empty⟩ := holds.openScope .loop (.construct ⟨.whileLoop, range⟩)
    refine settles_silent holds rfl (Settles.after opened ?_)
    refine Settles.after (result_lift _) (Settles.after (result_lift _) ?_)
    refine Settles.congr ((checkBlock_settles body empty).map fun _ _ => rfl) ?_
    rw [nodes, someRedeclares_cons]
    exact (or_iff_right not_false).symm
  | .doWhile range condition body, _, _, holds => by
    obtain ⟨inner, opened, empty⟩ := holds.openScope .loop (.construct ⟨.doWhile, range⟩)
    refine settles_silent holds rfl (Settles.after opened ?_)
    refine Settles.congr ((checkBlock_settles body empty).before fun _ _ => ⟨_, rfl, rfl⟩) ?_
    rw [nodes, someRedeclares_cons]
    exact (or_iff_right not_false).symm
  | .forLoop range init condition update body, _, _, holds => by
    obtain ⟨inner, opened, empty⟩ := holds.openScope .loop (.construct ⟨.forLoop, range⟩)
    refine settles_silent holds rfl (Settles.after (result_lift _) (Settles.after opened ?_))
    refine Settles.congr ?_ (someRedeclares_forLoop range init condition update body)
    refine (VariableDecl.checkOptional_settles empty init).bind_of_clear fun outcome held => ?_
    refine Settles.after (result_lift _) ?_
    split
    case' h_1 => refine Settles.after (result_lift _) ?_
    all_goals
      refine (checkUpdate_settles update held).bind fun _ held => ?_
      exact (checkBlock_settles body held).map fun _ _ => rfl
  | .switch range selector cases fallback, _, _, holds => by
    obtain ⟨inner, opened, empty⟩ := holds.openScope .switch (.construct ⟨.switch, range⟩)
    refine settles_silent holds rfl ?_
    refine Settles.after (result_lift _) (Settles.after (result_lift _) (Settles.after opened ?_))
    refine Settles.congr ((checkCases_settles cases empty).bind fun _ _ => 
      (checkFallback_settles fallback empty).map fun _ _ => rfl) ?_
    rw [nodes, someRedeclares_cons, someRedeclares_append]
    exact (or_iff_right not_false).symm
  | .assignment .., _, _, holds => settles_simple holds rfl rfl not_false ⟨_, rfl⟩
  | .step .., _, _, holds => settles_simple holds rfl rfl not_false ⟨_, rfl⟩
  | .variable declaration, _, _, holds => by
    refine ((declaration.checkLocal_settles holds).map fun _ held => held).congr ?_
    simp [Clashes, SomeRedeclares, nodes, Redeclares, declared?]
  | .returning .., _, _, holds => settles_simple holds rfl rfl not_false ⟨_, rfl⟩
  | .breaking .., _, _, holds => settles_simple holds rfl rfl not_false ⟨_, rfl⟩
  | .continuing .., _, _, holds => settles_simple holds rfl rfl not_false ⟨_, rfl⟩
  | .discarding .., _, _, holds => settles_simple holds rfl rfl not_false ⟨_, rfl⟩
  | .call .., _, _, holds => settles_simple holds rfl rfl not_false ⟨_, rfl⟩
termination_by structural s => s

theorem checkBlock_settles : (body : Block) → {env : Env} → {names : List String} → env.Holds names →
    Settles (checkBlock env body) (SomeRedeclares (nodesOfBlock body)) fun _ => True
  | .mk range statements, _, _, holds => by
    obtain ⟨inner, opened, empty⟩ := holds.openScope .inherit (.construct ⟨.block, range⟩)
    have inside := checkStmts_settles statements empty
    refine Settles.after opened (Settles.congr (inside.map fun _ _ => trivial) ?_)
    rw [nodesOfBlock, someRedeclares_cons]
    rfl
termination_by structural b => b

theorem checkStmts_settles : (statements : List Stmt) → {env : Env} → {names : List String} → env.Holds names →
    Settles (checkStmts env statements)
      (¬ (names ++ statements.filterMap declared?).Nodup ∨ SomeRedeclares (nodesOfStmts statements)) fun _ => True
  | [], _, _, holds => Settles.of_ok rfl (by simp [SomeRedeclares, nodesOfStmts, holds.distinct]) trivial
  | s :: rest, _, _, holds => by
    refine Settles.congr ((check_settles s holds).bind fun outcome held => ?_) clashes_cons
    exact (checkStmts_settles rest held).map fun _ _ => trivial
termination_by structural statements => statements

theorem checkBranch_settles : (chosen : Branch) → {env : Env} → {names : List String} → env.Holds names →
    Settles (checkBranch env chosen) (SomeRedeclares (nodesOfBranch chosen)) fun _ => True
  | .mk range condition body otherwise, _, _, holds => by
    have first := checkBlock_settles body holds
    have second := checkOtherwise_settles otherwise holds
    refine Settles.after (result_lift _) (Settles.after (result_lift _) ?_)
    refine Settles.congr (first.bind fun _ _ => second.map fun _ _ => trivial) ?_
    rw [nodesOfBranch, someRedeclares_cons, someRedeclares_append]
    exact (or_iff_right not_false).symm
termination_by structural b => b

theorem checkOtherwise_settles : (otherwise : Otherwise) → {env : Env} → {names : List String} → env.Holds names →
    Settles (checkOtherwise env otherwise) (SomeRedeclares (nodesOfOtherwise otherwise)) fun _ => True
  | .nothing, _, _, holds => Settles.of_ok rfl (by simp [SomeRedeclares, nodesOfOtherwise]) trivial
  | .block body, _, _, holds => (checkBlock_settles body holds).map fun _ _ => trivial
  | .branch chosen, _, _, holds => (checkBranch_settles chosen holds).map fun _ _ => trivial
termination_by structural o => o

theorem checkUpdate_settles : (update : Option Stmt) → {env : Env} → {names : List String} → env.Holds names →
    Settles (checkUpdate env update)
      (¬ (names ++ (update.bind declared?).toList).Nodup ∨ SomeRedeclares (nodesOfUpdate update))
      fun outcome => outcome.2.Holds (names ++ (update.bind declared?).toList)
  | none, _, _, holds => by
    refine Settles.of_ok rfl ?_ ?_
    · simp [SomeRedeclares, nodesOfUpdate, holds.distinct]
    · simpa using holds
  | some s, _, _, holds => (check_settles s holds).map fun _ held => held
termination_by structural update => update

theorem checkCases_settles : (cases : List Case) → {env : Env} → {names : List String} → {seen : List Int64} →
    env.Holds names → Settles (checkCases env seen cases) (SomeRedeclares (nodesOfCases cases)) fun _ => True
  | [], _, _, _, _ => Settles.of_ok rfl (by simp [SomeRedeclares, nodesOfCases]) trivial
  | .mk range values body :: rest, _, _, _, holds => by
    refine Settles.after (result_lift _) ?_
    refine Settles.congr ((checkBlock_settles body holds).bind fun _ _ =>
      (checkCases_settles rest holds).map fun _ _ => trivial) ?_
    rw [nodesOfCases, someRedeclares_append]
termination_by structural cases => cases

theorem checkFallback_settles : (fallback : Option Block) → {env : Env} → {names : List String} → env.Holds names →
    Settles (checkFallback env fallback) (SomeRedeclares (nodesOfFallback fallback)) fun _ => True
  | none, _, _, _ => Settles.of_ok rfl (by simp [SomeRedeclares, nodesOfFallback]) trivial
  | some body, _, _, holds => (checkBlock_settles body holds).map fun _ _ => trivial
termination_by structural fallback => fallback

end

end Stmt

namespace EnumDecl

def OnlyOverflows {α : Type} (step : Attempt α) : Prop :=
  ∀ fault, result step = .error fault → fault = .numberingOverflow

theorem OnlyOverflows.bind {α β : Type} {step : Attempt α} {next : α → Attempt β} (first : OnlyOverflows step)
    (second : ∀ a, OnlyOverflows (next a)) : OnlyOverflows (step >>= next) := by
  intro fault ends
  rw [result_bind] at ends
  cases outcome : result step with
  | error other =>
    rw [outcome] at ends
    obtain rfl : other = fault := by simpa [Except.bind] using ends
    exact first other outcome
  | ok a =>
    rw [outcome] at ends
    exact second a fault ends

theorem OnlyOverflows.of_ok {α : Type} {step : Attempt α} {a : α} (ends : result step = .ok a) :
    OnlyOverflows step := by
  intro fault faults
  rw [ends] at faults
  cases faults

theorem numberAfter_onlyOverflows (next : Int64) (value : Constant) : OnlyOverflows (numberAfter next value) := by
  unfold numberAfter
  split
  · split
    · intro fault ends
      cases ends
      rfl
    · exact .of_ok rfl
  · exact .of_ok rfl

theorem collectMember_onlyOverflows (node : NodeRef) (enumeration : String) (collected : Collected)
    (member : EnumMemberDecl) : OnlyOverflows (collectMember node enumeration collected member) := by
  unfold collectMember
  refine .bind (.of_ok (result_lift _)) fun value => ?_
  split
  · exact .of_ok rfl
  · split
    · exact .of_ok rfl
    · refine .bind (numberAfter_onlyOverflows _ _) fun next => ?_
      split <;> exact .of_ok rfl

theorem collectMembers_onlyOverflows (node : NodeRef) (enumeration : String) (collected : Collected)
    (members : List EnumMemberDecl) : OnlyOverflows (collectMembers node enumeration collected members) := by
  induction members generalizing collected with
  | nil => exact .of_ok rfl
  | cons member rest ih => exact .bind (collectMember_onlyOverflows _ _ _ _) ih

theorem collect_result (declaration : EnumDecl) (numbered : result declaration.collect ≠ .error .numberingOverflow) :
    ∃ enumeration, result declaration.collect = .ok enumeration := by
  have only : OnlyOverflows declaration.collect :=
    .bind (collectMembers_onlyOverflows _ _ _ _) fun _ => .of_ok rfl
  cases ends : result declaration.collect with
  | ok enumeration => exact ⟨enumeration, rfl⟩
  | error fault =>
    obtain rfl := only fault ends
    exact (numbered ends).elim

end EnumDecl

namespace Env

/-- The scopes and the functions are the same as before. -/
structure Keeps (before after : Env) : Prop where
  document : after.document = before.document
  scopes : after.scopes = before.scopes
  functions : after.symbols.functions = before.symbols.functions

theorem Keeps.register {before env : Env} (kept : Keeps before env) {node : NodeRef} {reason : Cause} {taken : Bool}
    {symbols : Symbols} (same : symbols.functions = env.symbols.functions) :
    Keeps before (env.register node reason (if taken then none else some symbols)).value := by
  cases taken with
  | true => exact kept
  | false => exact ⟨kept.document, kept.scopes, same.trans kept.functions⟩

theorem Keeps.trans {first second third : Env} (kept : Keeps first second) (kept' : Keeps second third) :
    Keeps first third :=
  ⟨kept'.document.trans kept.document, kept'.scopes.trans kept.scopes, kept'.functions.trans kept.functions⟩

theorem Holds.of_same {before after : Env} {names : List String} (holds : before.Holds names)
    (document : after.document = before.document) (scopes : after.scopes = before.scopes) : after.Holds names := by
  refine ⟨document ▸ holds.document, scopes ▸ holds.scope, ?_, holds.distinct⟩
  intro name
  rw [← holds.held name, local?, local?, scopes]

end Env

/-- The declaration of a type brings nothing into scope, and holds neither statements nor a variable. -/
theorem Decl.check_type_keeps {allowed : Incident → Prop} {declaration : Decl} {env after : Env} {typed : TypedDecl}
    (due : declaration.round = .enums ∨ declaration.round = .layouts)
    (yields : Yields allowed (declaration.check env) (typed, after)) :
    env.Keeps after ∧ typed.statements = [] ∧ typed.global? = none := by
  have start : env.Keeps env := ⟨rfl, rfl, rfl⟩
  cases declaration with
  | enumeration declaration =>
    simp only [check, EnumDecl.check, yields_bind, yields_lift, yields_pure] at yields
    obtain ⟨enumeration, -, _, ⟨rfl, -⟩, ⟨⟩⟩ := yields
    exact ⟨start.register rfl, rfl, rfl⟩
  | struct declaration =>
    simp only [check, yields_bind, yields_lift, yields_pure] at yields
    obtain ⟨_, ⟨rfl, -⟩, ⟨⟩⟩ := yields
    exact ⟨start.register rfl, rfl, rfl⟩
  | «alias» declaration =>
    simp only [check, yields_bind, yields_lift, yields_pure] at yields
    obtain ⟨_, ⟨rfl, -⟩, ⟨⟩⟩ := yields
    exact ⟨start.register rfl, rfl, rfl⟩
  | function | «variable» => simp [round] at due

namespace Document

variable {before env : Env}

/-- Enums that can be numbered never clash. -/
theorem enumeration_settles (declaration : EnumDecl) (numbered : result declaration.collect ≠ .error .numberingOverflow)
    (kept : before.Keeps env) : Settles (declaration.check env) False fun outcome => before.Keeps outcome.2 := by
  obtain ⟨enumeration, ends⟩ := declaration.collect_result numbered
  exact Settles.after ends (Settles.of_ok rfl not_false (kept.register rfl))

theorem layout_settles (declaration : Decl) (layout : declaration.round = .layouts) (kept : before.Keeps env) :
    Settles (declaration.check env) False fun outcome => before.Keeps outcome.2 := by
  cases declaration with
  | struct declaration => exact Settles.of_ok rfl not_false (kept.register rfl)
  | «alias» declaration => exact Settles.of_ok rfl not_false (kept.register rfl)
  | _ => cases layout

/-- A round in which the declarations neither see nor hide one another's names. -/
theorem checkRound_settles (round : Round) (invariant : Env → Prop) (clash : Decl → Prop) (slots : List Slot)
    (one : ∀ slot ∈ slots, slot.declaration.round = round → ∀ env, invariant env →
      Settles (slot.declaration.check env) (clash slot.declaration) fun outcome => invariant outcome.2)
    (env : Env) (start : invariant env) :
    Settles (checkRound round slots env)
      (∃ declaration ∈ slots.map (·.declaration), declaration.round = round ∧ clash declaration)
      fun outcome => invariant outcome.2 ∧ outcome.1.map (·.declaration) = slots.map (·.declaration) := by
  induction slots generalizing env with
  | nil => exact Settles.of_ok rfl (by simp) ⟨start, rfl⟩
  | cons slot rest ih =>
    obtain ⟨first, others⟩ := List.forall_mem_cons.mp one
    rw [checkRound]
    split
    case isTrue due =>
      refine Settles.congr ((first due env start).bind fun outcome kept =>
        (ih others outcome.2 kept).map fun _ held => ⟨held.1, by simp [held.2]⟩) ?_
      simp [due]
    case isFalse later =>
      refine Settles.congr ((ih others env start).map fun _ held => ⟨held.1, by simp [held.2]⟩) ?_
      simp [later]

end Document

theorem VariableDecl.name_globalBinding (env : Env) (declaration : VariableDecl) :
    (declaration.globalBinding env).value.1.name = declaration.name := by
  unfold VariableDecl.globalBinding
  split
  · simp only [Noted.value_bind, Noted.value_pure]
    split <;> rfl
  · rfl

theorem VariableDecl.checkGlobal_settles {env : Env} {names : List String} (holds : env.Holds names)
    (declaration : VariableDecl) :
    Settles (declaration.checkGlobal env) (¬ (names ++ [declaration.name]).Nodup)
      fun outcome => outcome.2.Holds (names ++ [declaration.name]) ∧ outcome.2.symbols = env.symbols := by
  rw [← declaration.name_globalBinding env]
  exact Settles.after (result_lift _) ((holds.declare _).map fun _ held => held)

namespace FunctionDecl

variable {env : Env} {names : List String}

/-- Parameters never clash: of two with one name the first is declared. -/
theorem declareParameters_ok (function : Function) (parameters : List ParameterDecl) (position : Nat)
    (holds : env.Holds names) :
    ∃ inner held, declareParameters function env position parameters = .ok inner ∧ inner.Holds held := by
  induction parameters generalizing env names position with
  | nil => exact ⟨env, names, rfl, holds⟩
  | cons parameter rest ih =>
    rw [declareParameters]
    split
    case isTrue taken => exact ih (position + 1) holds
    case isFalse free =>
      rw [holds.held] at free
      have fresh := (nodup_append_singleton holds.distinct parameter.name).mpr free
      obtain ⟨after, declared, held, -⟩ := (holds.declare
        ⟨parameter.name, parameterType function position, .variable, .function, none⟩).result_ok (not_not_intro fresh)
      rw [result_of] at declared
      rw [declared]
      exact ih (position + 1) held

/-- A body is checked if the name of its function stands for it, and then clashes exactly if a statement in it does. -/
theorem check_settles (declaration : FunctionDecl) (holds : env.Holds names) :
    Settles (declaration.check env) ((declaration.registered? env.symbols).isSome
      ∧ Stmt.SomeRedeclares (Stmt.nodesOfBlock declaration.body)) fun _ => True := by
  unfold FunctionDecl.check
  split
  case h_1 unregistered => exact Settles.of_ok rfl (by simp [unregistered]) trivial
  case h_2 function registered =>
    obtain ⟨inner, opened, empty⟩ :=
      holds.openScope .function (.function ⟨.functionDeclaration, declaration.range⟩ function)
    obtain ⟨body, held, declared, parameters⟩ := declareParameters_ok function declaration.bodyParameters 0 empty
    refine Settles.after opened (Settles.after declared ?_)
    refine Settles.congr ((Stmt.checkBlock_settles declaration.body parameters).map fun _ _ => trivial) ?_
    simp [registered]

end FunctionDecl

namespace Document

/-- The round of the globals, which share the scope of the document. -/
theorem globals_settle (slots : List Slot) {env : Env} {names : List String} (holds : env.Holds names) :
    Settles (checkRound .globals slots env)
      (¬ (names ++ ((slots.map (·.declaration)).filterMap Decl.global?).map (·.name)).Nodup)
      fun outcome => (∃ held, outcome.2.Holds held) ∧ outcome.2.symbols = env.symbols
        ∧ outcome.1.map (·.declaration) = slots.map (·.declaration) := by
  induction slots generalizing env names with
  | nil => exact Settles.of_ok rfl (by simp [holds.distinct]) ⟨⟨names, holds⟩, rfl, rfl⟩
  | cons slot rest ih =>
    obtain ⟨declaration, typed⟩ := slot
    rw [checkRound]
    cases declaration with
    | «variable» declaration =>
      refine Settles.congr ((declaration.checkGlobal_settles holds).bind fun outcome held =>
        (ih held.1).map fun _ kept => ⟨kept.1, kept.2.1.trans held.2, by simp [kept.2.2]⟩) ?_
      rw [not_nodup_append, List.append_assoc]
      rfl
    | _ => exact (ih holds).map fun _ kept => ⟨kept.1, kept.2.1, by simp [kept.2.2]⟩

/-- A function is registered under its name unless the name is taken, and nothing else changes. -/
theorem collectSignature_adds (env : Env) (declaration : FunctionDecl) :
    (declaration.collectSignature env).value.document = env.document
    ∧ (declaration.collectSignature env).value.scopes = env.scopes
    ∧ ∀ name, ((declaration.collectSignature env).value.symbols.function? name).map (·.range)
      = ((env.symbols.function? name).map (·.range)).or
        (if declaration.name = name then some (some declaration.range) else none) := by
  unfold FunctionDecl.collectSignature Symbols.addFunction?
  simp only [Noted.value_bind]
  split
  case isTrue taken =>
    refine ⟨rfl, rfl, fun name => ?_⟩
    change (env.symbols.function? name).map (·.range) = _
    by_cases same : declaration.name = name
    · obtain ⟨function, found⟩ := Option.isSome_iff_exists.mp taken
      simp [← same, found]
    · simp [same]
  case isFalse free =>
    refine ⟨rfl, rfl, fun name => ?_⟩
    change (List.find? _ (_ :: env.symbols.functions)).map (·.range) = _
    by_cases same : declaration.name = name
    · rw [Option.not_isSome_iff_eq_none] at free
      simp [← same, free]
    · simp [same, Symbols.function?]

theorem collectSignatures_adds (env : Env) (declarations : List Decl) :
    (collectSignatures env declarations).value.document = env.document
    ∧ (collectSignatures env declarations).value.scopes = env.scopes
    ∧ ∀ name, ((collectSignatures env declarations).value.symbols.function? name).map (·.range)
      = ((env.symbols.function? name).map (·.range)).or
        (((declarations.filterMap Decl.function?).find? (·.name = name)).map fun found => some found.range) := by
  induction declarations generalizing env with
  | nil => exact ⟨rfl, rfl, fun name => by simp [collectSignatures]⟩
  | cons declaration rest ih =>
    cases declaration with
    | function declaration =>
      obtain ⟨document, scopes, functions⟩ := ih (declaration.collectSignature env).value
      obtain ⟨document', scopes', functions'⟩ := collectSignature_adds env declaration
      refine ⟨document.trans document', scopes.trans scopes', fun name => ?_⟩
      refine (functions name).trans ?_
      rw [functions' name, Option.or_assoc]
      by_cases same : declaration.name = name <;> simp [Decl.function?, same]
    | _ => exact ih env

theorem function?_builtin (name : String) :
    ((Builtin.register {}).function? name).map (·.range)
      = if name ∈ Builtin.all.map (·.name) then some none else none := by
  have listed : (Builtin.register {}).functions = Builtin.all.reverse := by decide
  have nowhere : ∀ function ∈ Builtin.all, function.range = none := by decide
  rw [Symbols.function?, listed]
  cases found : Builtin.all.reverse.find? (·.name = name) with
  | none =>
    have absent : name ∉ Builtin.all.map (·.name) := by
      simpa using found
    rw [if_neg absent]
    rfl
  | some function =>
    have member := List.mem_reverse.mp (List.mem_of_find?_eq_some found)
    have named : function.name = name := by simpa using List.find?_some found
    have present : name ∈ Builtin.all.map (·.name) := List.mem_map.mpr ⟨function, member, named⟩
    rw [if_pos present, Option.map_some, nowhere function member]

/-- The body of a function is checked: its name is not built in, and the first function of that name stands where it
does. -/
def Checks (document : Document) (declaration : FunctionDecl) : Prop :=
  declaration.name ∉ Builtin.all.map (·.name)
    ∧ (document.functions.find? (·.name = declaration.name)).map (·.range) = some declaration.range

/-- A name is declared twice in one scope: by two globals, or inside a function whose body is checked. -/
def Redeclares (document : Document) : Prop :=
  ¬ (document.globals.map (·.name)).Nodup
    ∨ ∃ declaration ∈ document.functions, document.Checks declaration
      ∧ ∃ node ∈ (Stmt.block declaration.body).nodes, node.Redeclares

instance (document : Document) : DecidablePred document.Checks := fun _ =>
  inferInstanceAs (Decidable (_ ∧ _))

instance : DecidablePred Redeclares := fun _ => inferInstanceAs (Decidable (_ ∨ _))

theorem registered?_isSome {symbols : Symbols} {declaration : FunctionDecl} :
    (declaration.registered? symbols).isSome
      ↔ (symbols.function? declaration.name).map (·.range) = some (some declaration.range) := by
  unfold FunctionDecl.registered?
  cases symbols.function? declaration.name <;> simp [Option.isSome_filter]

/-- Whether a function's body is checked depends only on the text of the document. -/
theorem registered?_iff_checks (document : Document) (declaration : FunctionDecl) {env : Env}
    (builtin : env.symbols.functions = (Builtin.register {}).functions) :
    (declaration.registered? (collectSignatures env document.declarations).value.symbols).isSome
      ↔ document.Checks declaration := by
  have known : env.symbols.function? declaration.name = (Builtin.register {}).function? declaration.name := by
    rw [Symbols.function?, Symbols.function?, builtin]
  rw [registered?_isSome, (collectSignatures_adds env document.declarations).2.2, known, function?_builtin, Checks]
  by_cases taken : declaration.name ∈ Builtin.all.map (·.name)
  · simp only [taken, if_true, Option.some_or, not_true_eq_false, false_and, iff_false]
    exact fun same => nomatch same
  · simp only [taken, if_false, Option.none_or, not_false_eq_true, true_and, functions]
    cases (document.declarations.filterMap Decl.function?).find? (·.name = declaration.name) <;> simp

theorem enums_settle (slots : List Slot) (env : Env)
    (numbered : ∀ declaration ∈ (slots.map (·.declaration)).filterMap Decl.enumeration?,
      result declaration.collect ≠ .error .numberingOverflow) :
    Settles (checkRound .enums slots env) False
      fun outcome => env.Keeps outcome.2 ∧ outcome.1.map (·.declaration) = slots.map (·.declaration) := by
  refine Settles.congr (checkRound_settles .enums env.Keeps (fun _ => False) slots ?_ env ⟨rfl, rfl, rfl⟩) (by simp)
  rintro ⟨declaration, typed⟩ member due _ kept
  cases declaration with
  | enumeration declaration =>
    refine enumeration_settles declaration (numbered declaration ?_) kept
    exact List.mem_filterMap.mpr ⟨_, List.mem_map_of_mem member, rfl⟩
  | _ => cases due

theorem layouts_settle (slots : List Slot) (env : Env) :
    Settles (checkRound .layouts slots env) False
      fun outcome => env.Keeps outcome.2 ∧ outcome.1.map (·.declaration) = slots.map (·.declaration) := by
  refine Settles.congr (checkRound_settles .layouts env.Keeps (fun _ => False) slots ?_ env ⟨rfl, rfl, rfl⟩) (by simp)
  intro slot _ due _ kept
  exact layout_settles slot.declaration due kept

theorem bodies_settle (slots : List Slot) {env : Env} {names : List String} (holds : env.Holds names) :
    Settles (checkRound .bodies slots env)
      (∃ declaration ∈ (slots.map (·.declaration)).filterMap Decl.function?,
        (declaration.registered? env.symbols).isSome
          ∧ Stmt.SomeRedeclares (Stmt.nodesOfBlock declaration.body)) fun _ => True := by
  have round := checkRound_settles .bodies (· = env)
    (fun declaration => ∃ function, declaration.function? = some function
      ∧ (function.registered? env.symbols).isSome ∧ Stmt.SomeRedeclares (Stmt.nodesOfBlock function.body))
    slots ?_ env rfl
  · refine (round.weaken fun _ _ => trivial).congr ?_
    constructor
    · rintro ⟨declaration, member, -, function, found, clashes⟩
      exact ⟨function, List.mem_filterMap.mpr ⟨declaration, member, found⟩, clashes⟩
    · rintro ⟨function, member, clashes⟩
      obtain ⟨declaration, member, found⟩ := List.mem_filterMap.mp member
      cases declaration with
      | function declaration => exact ⟨_, member, rfl, function, found, clashes⟩
      | _ => cases found
  · rintro ⟨declaration, typed⟩ _ due _ rfl
    cases declaration with
    | function declaration =>
      refine Settles.congr ((declaration.check_settles holds).map fun _ _ => rfl) ?_
      simp [Decl.function?]
    | _ => cases due

/-- The rounds behind the signatures, by when the functions of the document are registered. -/
theorem later_rounds_settle (document : Document) {slots : List Slot} {env : Env}
    (written : slots.map (·.declaration) = document.declarations) (fresh : env.Holds [])
    (checks : ∀ declaration, (FunctionDecl.registered? env.symbols declaration).isSome ↔ document.Checks declaration) :
    Settles (do
      let (slots, env) ← checkRound .globals slots env
      let (slots, env) ← checkRound .bodies slots env
      return (TypedDocument.mk document.range document.counts (slots.filterMap (·.typed)), env))
      document.Redeclares fun _ => True := by
  have globals := globals_settle slots fresh
  rw [written] at globals
  refine globals.bind fun outcome held => ?_
  obtain ⟨⟨names, holds⟩, symbols, same⟩ := held
  refine Settles.congr ((bodies_settle outcome.1 holds).map fun _ _ => trivial) ?_
  simp only [same, symbols, checks]
  rfl

/-- A fresh check comes to a fault exactly if the document declares a name twice in one scope. -/
theorem effect_settles (document : Document)
    (numbered : ∀ declaration ∈ document.enums, result declaration.collect ≠ .error .numberingOverflow) :
    Settles (document.effect {}) document.Redeclares fun _ => True := by
  let start : Env := ⟨some ⟨.document, document.range⟩, [⟨.global, .document ⟨.document, document.range⟩, []⟩],
    Builtin.register {}⟩
  have fresh : start.Holds [] := ⟨rfl, by simp [start], by simp [start, Env.local?, Scope.find?], List.nodup_nil⟩
  have written : (document.declarations.map fun declaration => ({ declaration } : Slot)).map (·.declaration)
      = document.declarations := by
    rw [List.map_map]
    exact List.map_id _
  have enums := enums_settle (document.declarations.map fun declaration => { declaration }) start
    (by rw [written]; exact numbered)
  rw [written] at enums
  refine Settles.after rfl (enums.bind_of_clear fun enums ⟨kept, same⟩ => ?_)
  refine (layouts_settle enums.1 enums.2).bind_of_clear fun layouts ⟨kept', same'⟩ => ?_
  have functions := (kept.trans kept').functions
  obtain ⟨document', scopes, -⟩ := collectSignatures_adds layouts.2 document.declarations
  have ready := (fresh.of_same (kept.trans kept').document (kept.trans kept').scopes).of_same document' scopes
  refine Settles.after (result_lift _) (later_rounds_settle document (same'.trans same) ready ?_)
  exact fun declaration => registered?_iff_checks document declaration functions

/-- The check of a document ends well or in a name that is declared twice in one scope, and it ends in a fault exactly
if the document holds such a name. Its enums have to be such that their numbering does not overflow. -/
theorem check_error_iff_redeclares (document : Document)
    (numbered : ∀ declaration ∈ document.enums, result declaration.collect ≠ .error .numberingOverflow) :
    ((∃ typed, (document.check.run {}).1 = .ok typed)
      ∨ ∃ name, (document.check.run {}).1 = .error (.duplicateInScope name))
    ∧ ((∃ fault, (document.check.run {}).1 = .error fault) ↔ document.Redeclares) := by
  obtain ⟨after, ran, -, -⟩ := document.check_does {}
  have settles := effect_settles document numbered
  rw [ran]
  by_cases redeclares : document.Redeclares
  · obtain ⟨name, ends⟩ := settles.result_error redeclares
    rw [ends]
    exact ⟨.inr ⟨name, rfl⟩, iff_of_true ⟨_, rfl⟩ redeclares⟩
  · obtain ⟨outcome, ends, -⟩ := settles.result_ok redeclares
    rw [ends]
    refine ⟨.inl ⟨outcome.1, rfl⟩, iff_of_false ?_ redeclares⟩
    rintro ⟨fault, faults⟩
    cases faults

/-- A document in which names are used again in every way that is no fault: by two enums, two functions, two
parameters, a parameter and a local, and a local and one in a block inside. -/
def shadowing : Document :=
  let span (line : UInt32) : Span := ⟨⟨line, 1⟩, ⟨line, 9⟩⟩
  let again (line : UInt32) : Stmt := .variable ⟨span line, "let", "x", none, some (.literal (span line) "1")⟩
  let parameter : ParameterDecl := ⟨span 3, "x", .mk (span 3) "i32" []⟩
  let header : HeaderDecl := ⟨span 3, [], [parameter, parameter], .mk (span 3) "void" []⟩
  { range := span 1
    declarations := [
      .enumeration ⟨span 1, "E", [⟨span 1, "A", none⟩, ⟨span 1, "B", none⟩]⟩,
      .enumeration ⟨span 2, "E", [⟨span 2, "A", none⟩]⟩,
      .function ⟨span 3, "f", [header], .mk (span 3) [again 4, .block (.mk (span 5) [again 5])]⟩,
      .function ⟨span 6, "f", [header], .mk (span 6) [again 7, again 8]⟩] }

theorem shadowing_not_redeclares :
    (∀ declaration ∈ shadowing.enums, result declaration.collect ≠ .error .numberingOverflow)
    ∧ ¬ shadowing.Redeclares ∧ ∃ typed, (shadowing.check.run {}).1 = .ok typed := by
  have numbered : ∀ declaration ∈ shadowing.enums, result declaration.collect ≠ .error .numberingOverflow :=
    List.forall_mem_cons.mpr ⟨nofun, List.forall_mem_singleton.mpr nofun⟩
  have single : ¬ shadowing.Redeclares := by decide
  obtain ⟨ends, faults⟩ := check_error_iff_redeclares shadowing numbered
  refine ⟨numbered, single, ends.resolve_right ?_⟩
  rintro ⟨name, clash⟩
  exact single (faults.mp ⟨_, clash⟩)

end Document

end ShaderCheck
