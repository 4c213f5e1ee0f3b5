import ShaderCheck.Proofs.Redeclaration
import ShaderCheck.Proofs.ScopeWalk

/-!
What a check leaves alone. Expressions change neither the scopes nor the symbols. Nor do statements, however they end,
except that a variable stands in the innermost scope behind its declaration. So the check of a document leaves open the
scope of its globals and no other, with the globals in it that could be declared.
-/

namespace ShaderCheck

open Attempt

open Analysis (still note inScope Inside)

namespace FunctionDecl

def declareParameter (function : Function) (position : Nat) (parameter : ParameterDecl) (env : Env) :
    Except Fault Env :=
  if (env.local? parameter.name).isSome then .ok env
  else env.declare ⟨parameter.name, parameterType function position, .variable, .function, none⟩

def walkParameters (function : Function) : Nat → List ParameterDecl → Analysis Unit
  | _, [] => pure ()
  | position, parameter :: rest => do
    Analysis.update fun env => declareParameter function position parameter env
    walkParameters function (position + 1) rest

def walk (declaration : FunctionDecl) : Analysis TypedDecl := do
  let registered ← note fun env => pure (declaration.registered? env.symbols)
  match registered with
  | none => return .duplicate declaration.range declaration.body.range
  | some function =>
    inScope .function (.function ⟨.functionDeclaration, declaration.range⟩ function) do
      walkParameters function 0 declaration.bodyParameters
      let body ← Stmt.walkBlock declaration.body
      return .function declaration.range function body

theorem declareParameters_cons (function : Function) (env : Env) (position : Nat) (parameter : ParameterDecl)
    (rest : List ParameterDecl) :
    declareParameters function env position (parameter :: rest) =
      (declareParameter function position parameter env).bind
        fun env => declareParameters function env (position + 1) rest := by
  rw [declareParameters, declareParameter]
  split
  · rfl
  · rfl

theorem declareParameter_sameOutside {function : Function} {position : Nat} {parameter : ParameterDecl}
    {env after : Env} (declared : declareParameter function position parameter env = .ok after) :
    env.SameOutside after := by
  unfold declareParameter at declared
  split at declared
  · cases declared
    exact .refl env
  · exact .of_declare declared

theorem walkParameters_inside {α : Type} {next : Analysis α} {later : Env → Attempt α} (behind : Inside next later)
    (function : Function) (position : Nat) (parameters : List ParameterDecl) :
    Inside (walkParameters function position parameters >>= fun _ => next)
      fun env => Attempt.of (declareParameters function env position parameters) >>= later := by
  induction parameters generalizing position with
  | nil => exact behind.of_eq fun env => rfl
  | cons parameter rest ih =>
    rw [walkParameters, Analysis.update_eq_attempt, bind_assoc]
    refine (Inside.attempt_bind ?_ fun _ => ih (position + 1)).of_eq fun env => ?_
    · intro env a after ends
      have yields := yields_of_result ends
      simp only [yields_bind, yields_of, yields_pure] at yields
      obtain ⟨_, declared, ⟨⟩⟩ := yields
      exact declareParameter_sameOutside declared
    · rw [declareParameters_cons, bind_assoc]
      cases declareParameter function position parameter env with
      | ok after => rfl
      | error fault => rfl

/-- The walk over a function comes to the same as its check. -/
theorem walk_eq (declaration : FunctionDecl) : declaration.walk = still fun env => declaration.check env := by
  apply Analysis.ext_run
  intro context
  rw [Analysis.run_still, walk, check, Analysis.note_eq_still, Analysis.run_bind, Analysis.run_still]
  cases registered : declaration.registered? context.env.symbols with
  | none =>
    simp only [result_lift, notes_lift, Noted.value_pure]
    rfl
  | some function =>
    simp only [result_lift, Noted.value_pure, Stmt.walkBlock_eq, Analysis.pure_eq_still, Analysis.still_bind]
    rw [(walkParameters_inside (.still _) function 0 _).inScope, Analysis.run_still]
    simp

end FunctionDecl

/-- Nothing that was noted is lost, and the document and its symbols are the same. -/
structure Context.Grows (before after : Context) : Prop where
  document : after.env.document = before.env.document
  symbols : after.env.symbols = before.env.symbols
  incidents : before.incidents <+: after.incidents
  used : before.usedNames ⊆ after.usedNames

def Env.Adds (before : Env) (binding : Binding) (after : Env) : Prop :=
  ∃ scope outer, before.scopes = scope :: outer ∧ scope.find? binding.name = none
    ∧ after.scopes = { scope with bindings := binding :: scope.bindings } :: outer

namespace Context

theorem mem_usedNames {context : Context} {name : String} : name ∈ context.usedNames ↔ name ∈ context.notes.used := by
  rw [usedNames, List.mem_mergeSort, List.mem_eraseDups]

theorem Grows.of_notes {before after : Context} {more : Notes} (document : after.env.document = before.env.document)
    (symbols : after.env.symbols = before.env.symbols) (noted : after.notes = before.notes ++ more) :
    before.Grows after := by
  refine ⟨document, symbols, ?_, ?_⟩
  · rw [Context.incidents, Context.incidents, noted]
    exact List.prefix_append _ _
  · intro name used
    rw [mem_usedNames] at *
    rw [noted]
    exact List.mem_append_left _ used

end Context

theorem Env.Adds.of_declare {env after : Env} {binding : Binding} (declared : env.declare binding = .ok after) :
    env.Adds binding after := by
  obtain ⟨scope, outer, scopes, rfl⟩ := declare_eq_ok declared
  refine ⟨scope, outer, scopes, ?_, rfl⟩
  rw [declare, scopes] at declared
  by_contra taken
  rw [← ne_eq, Option.ne_none_iff_isSome] at taken
  simp [taken] at declared

theorem Env.scopes_register (env : Env) (node : NodeRef) (taken : Cause) (symbols : Option Symbols) :
    (env.register node taken symbols).value.scopes = env.scopes := by
  cases symbols with
  | none => rfl
  | some more => rfl

theorem VariableDecl.checkLocal_named {allowed : Incident → Prop} {env after : Env} {declaration : VariableDecl}
    {typed : TypedVariable} (yields : Yields allowed (declaration.checkLocal env) (typed, after)) :
    typed.binding.name = declaration.name := by
  simp only [checkLocal, yields_bind, yields_pure, yields_lift, yields_of] at yields
  obtain ⟨bound, ⟨same, -⟩, _, -, ⟨⟩⟩ := yields
  rw [← same]
  exact declaration.name_localBinding env

namespace Stmt

def Frames (s : Stmt) (before : Context) (ends : Except Fault TypedStmt) (after : Context) : Prop :=
  before.Grows after ∧ match s, ends with
    | .variable declaration, .ok typed => ∃ declared : TypedVariable, typed = .variable declared
      ∧ declared.binding.name = declaration.name ∧ before.env.Adds declared.binding after.env
    | _, _ => after.env.scopes = before.env.scopes

theorem check_frames (s : Stmt) (context : Context) :
    s.Frames context ((Analysis.attempt fun env => s.check env).run context).1
      ((Analysis.attempt fun env => s.check env).run context).2 := by
  rw [Analysis.run_attempt]
  cases ends : (s.check context.env).result with
  | error fault => exact ⟨.of_notes rfl rfl rfl, by cases s <;> rfl⟩
  | ok outcome =>
    obtain ⟨typed, after⟩ := outcome
    have same := check_sameOutside ends
    refine ⟨.of_notes same.document same.symbols rfl, ?_⟩
    cases outcome_of_yields (yields_of_result ends) with
    | @«variable» declaration typed after declares =>
      have added := Env.Adds.of_declare (VariableDecl.checkLocal_yields declares).2
      exact ⟨typed, rfl, VariableDecl.checkLocal_named declares, added⟩
    | _ => rfl

end Stmt

namespace Analysis

variable {α β : Type}

/-- A step leads from what held of the environment to what holds of it afterwards, and to something else if it ends in
a fault. -/
def Leads (step : Analysis α) (before : Env → Prop) (after : α → Env → Prop) (faulty : Env → Prop) : Prop :=
  ∀ context : Context, before context.env →
    match step.run context with
    | (.ok a, left) => after a left.env
    | (.error _, left) => faulty left.env

variable {before faulty : Env → Prop} {after : α → Env → Prop}

theorem Leads.pure {a : α} (holds : ∀ env, before env → after a env) : Leads (Pure.pure a) before after faulty :=
  fun context => holds context.env

theorem Leads.attempt {effect : Env → Attempt (α × Env)}
    (ends : ∀ env, before env → match (effect env).result with
      | .ok (a, left) => after a left
      | .error _ => faulty env) : Leads (Analysis.attempt effect) before after faulty := by
  intro context held
  have ending := ends context.env held
  rw [run_attempt]
  cases outcome : (effect context.env).result with
  | ok pair =>
    rw [outcome] at ending
    exact ending
  | error fault =>
    rw [outcome] at ending
    exact ending

theorem Leads.bind {step : Analysis α} {next : α → Analysis β} {last : β → Env → Prop}
    (first : Leads step before after faulty) (second : ∀ a, Leads (next a) (after a) last faulty) :
    Leads (step >>= next) before last faulty := by
  intro context held
  have middle := first context held
  rw [run_bind]
  rcases ran : step.run context with ⟨ends, left⟩
  rw [ran] at middle
  cases ends with
  | ok a => exact second a left middle
  | error fault => exact middle

theorem Leads.weaken {step : Analysis α} {last : α → Env → Prop} {worse : Env → Prop}
    (leads : Leads step before after faulty) (fine : ∀ a env, after a env → last a env)
    (fails : ∀ env, faulty env → worse env) : Leads step before last worse := by
  intro context held
  have ending := leads context held
  rcases ran : step.run context with ⟨ends, left⟩
  rw [ran] at ending
  cases ends with
  | ok a => exact fine a left.env ending
  | error fault => exact fails left.env ending

/-- What holds before a step and does not depend on the environment may be assumed of the step. -/
theorem Leads.of_fact {step : Analysis α} {fact : Prop} (leads : fact → Leads step before after faulty) :
    Leads step (fun env => before env ∧ fact) after faulty :=
  fun context held => leads held.2 context held.1

end Analysis

namespace VariableDecl

/-- The variables before the first one whose name is taken, by one of them or from the start. -/
def untilTaken (taken : List String) : List VariableDecl → List VariableDecl
  | [] => []
  | declaration :: rest =>
    if declaration.name ∈ taken then [] else declaration :: untilTaken (declaration.name :: taken) rest

end VariableDecl

namespace Document

/-- The globals that the check of a document gets to declare: those before the first name that is declared twice, and
none if an enum cannot be numbered. -/
def declaredGlobals (document : Document) : List VariableDecl :=
  if ∀ declaration ∈ document.enums, (result declaration.collect).isOk then
    VariableDecl.untilTaken [] document.globals
  else []

def OnlyGlobals (document : Document) (names : List String) (env : Env) : Prop :=
  ∃ bindings, env.scopes = [⟨.global, .document ⟨.document, document.range⟩, bindings⟩]
    ∧ bindings.map (·.name) = names

theorem OnlyGlobals.of_scopes {document : Document} {names : List String} {env after : Env}
    (held : document.OnlyGlobals names env) (same : after.scopes = env.scopes) : document.OnlyGlobals names after := by
  obtain ⟨bindings, scopes, named⟩ := held
  exact ⟨bindings, same.trans scopes, named⟩

open Analysis (Leads)

/-- What each declaration of a round keeps up, the round does, also where it ends in a fault. -/
theorem runRound_leads (round : Round) (invariant : Env → Prop) (good bad : Decl → Prop) (slots : List Slot)
    (one : ∀ declaration ∈ slots.map (·.declaration), declaration.round = round → ∀ env, invariant env →
      match (declaration.check env).result with
      | .ok (_, after) => invariant after ∧ good declaration
      | .error _ => bad declaration) :
    Leads (runRound round slots) invariant
      (fun later env => invariant env ∧ later.map (·.declaration) = slots.map (·.declaration)
        ∧ ∀ declaration ∈ slots.map (·.declaration), declaration.round = round → good declaration)
      (fun env => invariant env
        ∧ ∃ declaration ∈ slots.map (·.declaration), declaration.round = round ∧ bad declaration) := by
  induction slots with
  | nil => exact .pure fun env held => ⟨held, rfl, List.forall_mem_nil _⟩
  | cons slot rest ih =>
    obtain ⟨first, others⟩ := List.forall_mem_cons.mp one
    have behind := (ih others).weaken (fun _ _ held => held) fun env ⟨held, failed⟩ =>
      And.intro held (List.exists_mem_cons_of_exists (a := slot.declaration) failed)
    rw [runRound]
    split
    case isTrue due =>
      refine Leads.bind ?_ fun typed => Leads.of_fact fun (itself : good slot.declaration) =>
        behind.bind fun tail => .pure ?_
      · refine .attempt fun env held => ?_
        have ending := first due env held
        split
        case h_1 ends => simpa [ends] using ending
        case h_2 fault ends =>
          rw [ends] at ending
          exact ⟨held, slot.declaration, List.mem_cons_self, due, ending⟩
      · rintro env ⟨held, same, fine⟩
        exact ⟨held, congrArg (slot.declaration :: ·) same, List.forall_mem_cons.mpr ⟨fun _ => itself, fine⟩⟩
    case isFalse later =>
      refine behind.bind fun tail => .pure ?_
      rintro env ⟨held, same, fine⟩
      exact ⟨held, congrArg (slot.declaration :: ·) same, List.forall_mem_cons.mpr ⟨fun due => (later due).elim, fine⟩⟩

variable {document : Document} {slots : List Slot}

theorem enums_lead (written : slots.map (·.declaration) = document.declarations) :
    Leads (runRound .enums slots) (document.OnlyGlobals [])
      (fun later env => document.OnlyGlobals [] env ∧ later.map (·.declaration) = document.declarations
        ∧ ∀ declaration ∈ document.enums, (result declaration.collect).isOk)
      (document.OnlyGlobals (document.declaredGlobals.map (·.name)).reverse) := by
  have round := runRound_leads .enums (document.OnlyGlobals [])
    (fun declaration => ∀ e ∈ declaration.enumeration?, (result e.collect).isOk)
    (fun declaration => ∃ e ∈ declaration.enumeration?, ¬ (result e.collect).isOk) slots ?_
  · rw [written] at round
    refine round.weaken ?_ ?_
    · rintro later env ⟨held, same, fine⟩
      refine ⟨held, same, fun e listed => ?_⟩
      obtain ⟨declaration, member, found⟩ := List.mem_filterMap.mp listed
      cases declaration with
      | enumeration declaration => exact fine _ member rfl e found
      | _ => cases found
    · rintro env ⟨held, declaration, member, -, e, found, fails⟩
      have listed : e ∈ document.enums := List.mem_filterMap.mpr ⟨declaration, member, found⟩
      rw [declaredGlobals, if_neg fun all => fails (all e listed)]
      exact held
  · intro declaration _ due env held
    cases declaration with
    | enumeration declaration =>
      rw [Decl.check, EnumDecl.check, result_bind]
      cases ends : result declaration.collect with
      | error fault => exact ⟨declaration, rfl, by simp [ends, Except.isOk, Except.toBool]⟩
      | ok enumeration =>
        refine ⟨held.of_scopes (Env.scopes_register ..), ?_⟩
        rintro _ ⟨⟩
        rw [ends]
        rfl
    | _ => cases due

theorem layouts_lead (names : List String) (written : slots.map (·.declaration) = document.declarations)
    (faulty : Env → Prop) :
    Leads (runRound .layouts slots) (document.OnlyGlobals names)
      (fun later env => document.OnlyGlobals names env ∧ later.map (·.declaration) = document.declarations) faulty := by
  have round := runRound_leads .layouts (document.OnlyGlobals names) (fun _ => True) (fun _ => False) slots ?_
  · rw [written] at round
    exact round.weaken (fun _ _ held => ⟨held.1, held.2.1⟩) fun _ ⟨_, _, _, _, never⟩ => never.elim
  · intro declaration _ due env held
    cases declaration with
    | struct declaration => exact ⟨held.of_scopes (Env.scopes_register ..), trivial⟩
    | «alias» declaration => exact ⟨held.of_scopes (Env.scopes_register ..), trivial⟩
    | _ => cases due

/-- A binding can be declared among the globals if its name is not there yet. -/
theorem OnlyGlobals.declare {names : List String} {env : Env} (held : document.OnlyGlobals names env)
    (binding : Binding) :
    match env.declare binding with
    | .ok after => document.OnlyGlobals (binding.name :: names) after ∧ binding.name ∉ names
    | .error _ => binding.name ∈ names := by
  obtain ⟨bindings, scopes, rfl⟩ := held
  have found : (bindings.find? (·.name = binding.name)).isSome ↔ binding.name ∈ bindings.map (·.name) := by
    simp [List.find?_isSome]
  rw [Env.declare, scopes]
  by_cases taken : binding.name ∈ bindings.map (·.name)
  · simp only [Scope.find?, found.mpr taken, if_true]
    exact taken
  · simp only [Scope.find?, found, taken, if_false]
    exact ⟨⟨binding :: bindings, rfl, rfl⟩, not_false⟩

theorem checkGlobal_ends {names : List String} {env : Env} (held : document.OnlyGlobals names env)
    (declaration : VariableDecl) :
    match (declaration.checkGlobal env).result with
    | .ok (_, after) => document.OnlyGlobals (declaration.name :: names) after ∧ declaration.name ∉ names
    | .error _ => declaration.name ∈ names := by
  have declares := held.declare (declaration.globalBinding env).value.1
  rw [declaration.name_globalBinding env] at declares
  rw [VariableDecl.checkGlobal, result_bind, result_lift]
  simp only [Except.bind]
  rw [result_bind, result_of]
  cases declared : env.declare (declaration.globalBinding env).value.1 with
  | ok after =>
    rw [declared] at declares
    exact declares
  | error fault =>
    rw [declared] at declares
    exact declares

/-- The globals are declared one after the other, up to the first whose name is taken. -/
theorem globals_lead (document : Document) (names : List String) {globals : List VariableDecl}
    (listed : (slots.map (·.declaration)).filterMap Decl.global? = globals) :
    Leads (runRound .globals slots) (document.OnlyGlobals names)
      (fun _ env => document.OnlyGlobals ((globals.map (·.name)).reverse ++ names) env
        ∧ VariableDecl.untilTaken names globals = globals)
      (document.OnlyGlobals (((VariableDecl.untilTaken names globals).map (·.name)).reverse ++ names)) := by
  induction slots generalizing names globals with
  | nil =>
    subst listed
    exact .pure fun env held => ⟨held, rfl⟩
  | cons slot rest ih =>
    obtain ⟨declaration, typed⟩ := slot
    cases declaration with
    | «variable» declaration =>
      subst listed
      change Leads (Analysis.attempt (fun env => declaration.checkGlobal env) >>= fun typed =>
        runRound .globals rest >>= fun tail => pure (⟨.variable declaration, some typed⟩ :: tail)) _ _ _
      have behind := ih (declaration.name :: names) rfl
      refine Leads.bind ?_ fun typed => Leads.of_fact fun (free : declaration.name ∉ names) =>
        (behind.weaken ?_ ?_).bind fun tail => .pure fun _ held => held
      · refine .attempt fun env held => ?_
        have ends := checkGlobal_ends held declaration
        split
        case h_1 fine => simpa [fine] using ends
        case h_2 fault =>
          simp only [fault] at ends
          simpa [Decl.global?, VariableDecl.untilTaken, ends] using held
      · rintro tail env ⟨held, all⟩
        simpa [Decl.global?, VariableDecl.untilTaken, free] using And.intro held all
      · intro env held
        simpa [Decl.global?, VariableDecl.untilTaken, free] using held
    | _ => exact (ih names listed).bind fun _ => .pure fun env held => held

theorem bodies_lead (names : List String) :
    Leads (runRound .bodies slots) (document.OnlyGlobals names) (fun _ => document.OnlyGlobals names)
      (document.OnlyGlobals names) := by
  have round := runRound_leads .bodies (document.OnlyGlobals names) (fun _ => True) (fun _ => True) slots ?_
  · exact round.weaken (fun _ _ held => held.1) fun _ held => held.1
  · intro declaration _ due env held
    cases declaration with
    | function declaration =>
      rw [Decl.check, result_bind]
      cases result (declaration.check env) with
      | error fault => trivial
      | ok typed => exact ⟨held, trivial⟩
    | _ => cases due

theorem signatures_lead (names : List String) (faulty : Env → Prop) :
    Leads (Analysis.attempt fun env => do
      let env ← collectSignatures env document.declarations
      return ((), env)) (document.OnlyGlobals names) (fun _ => document.OnlyGlobals names) faulty :=
  .attempt fun env held => held.of_scopes (collectSignatures_adds env document.declarations).2.1

/-- After the check of a document just its scope is open, with the globals in it that could be declared. -/
theorem check_leads (document : Document) :
    Leads document.check (· = {})
      (fun _ env => document.OnlyGlobals (document.declaredGlobals.map (·.name)).reverse env
        ∧ document.declaredGlobals = document.globals)
      (document.OnlyGlobals (document.declaredGlobals.map (·.name)).reverse) := by
  have opens : Leads (Analysis.update (·.setDocument ⟨.document, document.range⟩)) (· = {})
      (fun _ => document.OnlyGlobals []) (document.OnlyGlobals (document.declaredGlobals.map (·.name)).reverse) := by
    rintro ⟨env, notes⟩ rfl
    exact ⟨[], rfl, rfl⟩
  have start : Leads (Analysis.update fun env => .ok { env with symbols := Builtin.register env.symbols })
      (document.OnlyGlobals []) (fun _ => document.OnlyGlobals [])
      (document.OnlyGlobals (document.declaredGlobals.map (·.name)).reverse) :=
    fun context held => held.of_scopes rfl
  have written : (document.declarations.map fun declaration => ({ declaration } : Slot)).map (·.declaration)
      = document.declarations := by
    rw [List.map_map]
    exact List.map_id _
  refine opens.bind fun _ => start.bind fun _ => (enums_lead written).bind fun slots => ?_
  refine Leads.of_fact fun ⟨written, numbered⟩ => (layouts_lead [] written _).bind fun slots => ?_
  refine Leads.of_fact fun written => (signatures_lead [] _).bind fun _ => ?_
  have declared : document.declaredGlobals = VariableDecl.untilTaken [] document.globals := if_pos numbered
  have listed : (slots.map (·.declaration)).filterMap Decl.global? = document.globals := by
    rw [written]
    rfl
  have globals := globals_lead document [] listed
  rw [List.append_nil, List.append_nil] at globals
  rw [declared]
  refine globals.bind fun slots => Leads.of_fact fun all => ?_
  rw [all]
  exact (bodies_lead _).bind fun slots => .pure fun env held => ⟨held, rfl⟩

end Document

/-- The scope frame of a check. A statement, however it ends, keeps the document, its symbols and what was noted, and
leaves the scopes as they were, except that a variable that could be declared is added to the innermost one; and it
comes to the same to open and close the scopes on the way. So it does for a function. An expression never ends in a
fault and leaves everything in force as it is. After the check of a document, however it ends, just the scope of the
document is open, and its names are those of the globals that could be declared, which are all if there is no fault. -/
theorem scope_frame :
    (∀ s : Stmt, (Analysis.attempt fun env => s.check env) = s.walk ∧ ∀ context : Context,
      let (ends, after) := (Analysis.attempt fun env => s.check env).run context
      s.Frames context ends after)
    ∧ (∀ declaration : FunctionDecl,
      (Analysis.attempt fun env => (Decl.function declaration).check env) = declaration.walk)
    ∧ (∀ (e : Expr) (context : Context),
      let (ends, after) := (note fun env => e.check env).run context
      ends = .ok (e.check context.env).value ∧ context.Grows after ∧ after.env.scopes = context.env.scopes)
    ∧ ∀ document : Document,
      let (ends, after) := document.check.run {}
      document.OnlyGlobals (document.declaredGlobals.map (·.name)).reverse after.env
        ∧ ((∃ fault, ends = .error fault) ∨ document.declaredGlobals = document.globals) := by
  refine ⟨fun s => ⟨(Stmt.walk_eq s).symm, s.check_frames⟩, fun declaration => declaration.walk_eq.symm, ?_, ?_⟩
  · intro e context
    exact ⟨rfl, .of_notes rfl rfl rfl, rfl⟩
  · intro document
    have leads := document.check_leads {} rfl
    rcases ran : document.check.run {} with ⟨ends, after⟩
    rw [ran] at leads
    cases ends with
    | ok typed => exact ⟨leads.1, .inr leads.2⟩
    | error fault => exact ⟨leads, .inl ⟨fault, rfl⟩⟩

end ShaderCheck
