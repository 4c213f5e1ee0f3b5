import Mathlib.Data.List.Chain
import ShaderCheck.Proofs.Declarations

/-!
What stays true of a context whatever is done with it. A script is any program of calls on a context, with scopes that
are opened around programs of their own; the next call may depend on how the last one ended, and a program may end in a
fault at any point. Each state that a script visits follows from the one before it in one of a few ways, and what these
keep up holds all the way.
-/

namespace ShaderCheck

inductive Call where
  | setDocument (node : NodeRef)
  | declare (binding : Binding)
  | remark (message : String) (node : Option NodeRef)
  | use (name : String)
  | register (add : Symbols → Option Symbols)

namespace Call

/-- A symbol that is refused leaves the table as it is. -/
def run : Call → Analysis Unit
  | .setDocument node => Analysis.update (·.setDocument node)
  | .declare binding => Analysis.update (·.declare binding)
  | .remark message node => Analysis.note fun _ => ⟨(), { incidents := [⟨.remark message, node⟩] }⟩
  | .use name => Analysis.note fun _ => Noted.use name
  | .register add => Analysis.update fun env => .ok { env with symbols := (add env.symbols).getD env.symbols }

end Call

/-- A program of calls. It sees how each call ended, and the context behind it. -/
inductive Script where
  | done (result : Except Fault Unit)
  | call (first : Call) (next : Except Fault Unit → Context → Script)
  | scope (kind : ScopeKind) (owner : ScopeOwner) (body : Script) (next : Except Fault Unit → Context → Script)

namespace Script

def run : Script → Analysis Unit
  | .done result => fun context => (result, context)
  | .call first next => fun context =>
    let ended := first.run.run context
    (next ended.1 ended.2).run ended.2
  | .scope kind owner body next => fun context =>
    let ended := (Analysis.inScope kind owner body.run).run context
    (next ended.1 ended.2).run ended.2

/-- The contexts that a script comes through, also inside the scopes that it opens. -/
def visits : Script → Context → List Context
  | .done _, context => [context]
  | .call first next, context =>
    let ended := first.run.run context
    context :: (next ended.1 ended.2).visits ended.2
  | .scope kind owner body next, context =>
    let ended := (Analysis.inScope kind owner body.run).run context
    let inside := match context.env.openScope kind owner with
      | .ok env => body.visits { context with env }
      | .error _ => []
    context :: (inside ++ (next ended.1 ended.2).visits ended.2)

end Script

namespace Env

inductive Changes (before after : Env) : Prop where
  | stays (document : after.document = before.document) (scopes : after.scopes = before.scopes)
  | starts {node : NodeRef} (unset : before.document = none) (document : after.document = some node)
      (scopes : after.scopes = ⟨.global, .document node, []⟩ :: before.scopes)
  | declares {scope : Scope} {outer : List Scope} {binding : Binding} (document : after.document = before.document)
      (inside : before.scopes = scope :: outer) (fresh : scope.find? binding.name = none)
      (scopes : after.scopes = { scope with bindings := binding :: scope.bindings } :: outer)

/-- What one step makes of the scopes. The outermost scope is never closed. -/
inductive Moves (before after : Env) : Prop where
  | changes (changes : before.Changes after)
  | opens {kind : ScopeKind} {owner : ScopeOwner} (set : before.document ≠ none)
      (document : after.document = before.document) (scopes : after.scopes = ⟨kind, owner, []⟩ :: before.scopes)
  | closes {scope : Scope} (document : after.document = before.document) (inside : after.scopes ≠ [])
      (scopes : before.scopes = scope :: after.scopes)

/-- The scopes are in order: there are some exactly if there is a document, the outermost belongs to it, and each value
is the one that its scope has under its name. -/
structure Orderly (env : Env) : Prop where
  unset : env.scopes = [] ↔ env.document = none
  bottom : ∀ node, env.document = some node →
    ∃ bindings, env.scopes.getLast? = some ⟨.global, .document node, bindings⟩
  stored : ∀ scope ∈ env.scopes, ∀ binding ∈ scope.bindings, scope.find? binding.name = some binding

/-- The scope at a level, counted from the outermost. -/
def level? (env : Env) (level : Nat) : Option Scope := env.scopes.reverse[level]?

end Env

structure Scope.Keeps (before after : Scope) : Prop where
  kind : after.kind = before.kind
  owner : after.owner = before.owner
  found : ∀ name binding, before.find? name = some binding → after.find? name = some binding

namespace Scope

theorem Keeps.refl (scope : Scope) : scope.Keeps scope := ⟨rfl, rfl, fun _ _ found => found⟩

theorem Keeps.trans {first second third : Scope} (one : first.Keeps second) (two : second.Keeps third) :
    first.Keeps third where
  kind := two.kind.trans one.kind
  owner := two.owner.trans one.owner
  found name binding found := two.found name binding (one.found name binding found)

variable {scope : Scope} {binding : Binding} (fresh : scope.find? binding.name = none)

include fresh

theorem keeps_declare : scope.Keeps { scope with bindings := binding :: scope.bindings } where
  kind := rfl
  owner := rfl
  found name other found := by
    have differs : binding.name ≠ name := by
      rintro rfl
      cases fresh.symm.trans found
    rw [find?, List.find?_cons_of_neg (by simpa using differs)]
    exact found

theorem stored_declare (stored : ∀ other ∈ scope.bindings, scope.find? other.name = some other) :
    ∀ other ∈ binding :: scope.bindings,
      Scope.find? { scope with bindings := binding :: scope.bindings } other.name = some other := by
  refine List.forall_mem_cons.mpr ⟨?_, fun other member => ?_⟩
  · rw [find?, List.find?_cons_of_pos (by simp)]
  · exact (keeps_declare fresh).found _ _ (stored other member)

end Scope

namespace Env

variable {before after : Env}

theorem Changes.orderly (changes : before.Changes after) (orderly : before.Orderly) : after.Orderly := by
  obtain ⟨unset, bottom, stored⟩ := orderly
  cases changes with
  | stays document scopes => exact ⟨by rw [document, scopes, unset], by rwa [document, scopes], by rwa [scopes]⟩
  | starts none document scopes =>
    rw [unset.mpr none] at scopes
    refine ⟨by simp [document, scopes], fun node set => ?_, by simp [scopes]⟩
    cases document.symm.trans set
    exact ⟨[], by rw [scopes]; rfl⟩
  | @declares scope outer binding document inside fresh scopes =>
    rw [inside] at unset bottom stored
    obtain ⟨first, others⟩ := List.forall_mem_cons.mp stored
    refine ⟨?_, fun node set => ?_, ?_⟩
    · rw [document, scopes, ← unset]
      simp
    · obtain ⟨bindings, last⟩ := bottom node (document ▸ set)
      rw [scopes]
      cases outer with
      | nil =>
        cases last
        exact ⟨_, rfl⟩
      | cons => exact ⟨bindings, by simpa using last⟩
    · rw [scopes]
      exact List.forall_mem_cons.mpr ⟨Scope.stored_declare fresh first, others⟩

theorem Moves.orderly (moves : before.Moves after) (orderly : before.Orderly) : after.Orderly := by
  obtain ⟨unset, bottom, stored⟩ := id orderly
  cases moves with
  | changes changes => exact changes.orderly orderly
  | opens set document scopes =>
    refine ⟨by simp [scopes, document, set], fun node given => ?_, ?_⟩
    · obtain ⟨bindings, last⟩ := bottom node (document ▸ given)
      refine ⟨bindings, ?_⟩
      rw [scopes, List.getLast?_cons, last]
      rfl
    · rw [scopes]
      exact List.forall_mem_cons.mpr ⟨nofun, stored⟩
  | @closes scope document inside scopes =>
    rw [scopes] at unset bottom stored
    refine ⟨?_, fun node given => ?_, (List.forall_mem_cons.mp stored).2⟩
    · rw [document, ← unset]
      simpa using inside
    · obtain ⟨bindings, last⟩ := bottom node (document ▸ given)
      refine ⟨bindings, ?_⟩
      rw [← last, List.getLast?_cons_of_ne_nil inside]

/-- A document that is set stays the same. -/
theorem Moves.document (moves : before.Moves after) {node : NodeRef} (set : before.document = some node) :
    after.document = some node := by
  cases moves with
  | changes changes =>
    cases changes with
    | stays document | declares document => rw [document, set]
    | starts unset => cases unset.symm.trans set
  | opens _ document | closes document => rw [document, set]

def KeepsLevel (level : Nat) (before after : Env) : Prop :=
  ∃ scope scope', before.level? level = some scope ∧ after.level? level = some scope' ∧ scope.Keeps scope'

theorem KeepsLevel.trans {level : Nat} {first second third : Env} (one : KeepsLevel level first second)
    (two : KeepsLevel level second third) : KeepsLevel level first third := by
  obtain ⟨a, b, outset, middle, keeps⟩ := one
  obtain ⟨b', c, middle', final, keeps'⟩ := two
  cases middle.symm.trans middle'
  exact ⟨a, c, outset, final, keeps.trans keeps'⟩

theorem keepsLevel_of_eq {level : Nat} (bound : level < before.scopes.length)
    (same : after.level? level = before.level? level) : KeepsLevel level before after := by
  cases found : before.level? level with
  | none =>
    have beyond := List.getElem?_eq_none_iff.mp found
    rw [List.length_reverse] at beyond
    omega
  | some scope => exact ⟨scope, scope, found, same.trans found, .refl _⟩

/-- A scope that is opened is at the next level, and leaves those below. -/
theorem level?_of_cons {scope : Scope} {outer : List Scope} (scopes : before.scopes = scope :: outer) (level : Nat) :
    before.level? level =
      if level < outer.length then outer.reverse[level]? else if level = outer.length then some scope else none := by
  rw [level?, scopes, List.reverse_cons, List.getElem?_append, List.length_reverse]
  split
  · rfl
  · split
    case isTrue top => simp [top]
    case isFalse => exact List.getElem?_eq_none (by simp; omega)

/-- Where a scope is open before and after a step, it has everything that it had. -/
theorem Moves.keepsLevel (moves : before.Moves after) {level : Nat} (first : level < before.scopes.length)
    (second : level < after.scopes.length) : KeepsLevel level before after := by
  cases moves with
  | changes changes =>
    cases changes with
    | stays _ scopes => exact keepsLevel_of_eq first (by rw [level?, level?, scopes])
    | starts _ _ scopes => exact keepsLevel_of_eq first (by rw [level?_of_cons scopes, if_pos first, level?])
    | @declares scope outer binding _ inside fresh scopes =>
      by_cases below : level < outer.length
      · exact keepsLevel_of_eq first (by rw [level?_of_cons scopes, level?_of_cons inside, if_pos below, if_pos below])
      · have top : level = outer.length := by
          rw [inside, List.length_cons] at first
          omega
        refine ⟨scope, _, ?_, ?_, Scope.keeps_declare fresh⟩
        · rw [level?_of_cons inside, if_neg below, if_pos top]
        · rw [level?_of_cons scopes, if_neg below, if_pos top]
  | opens _ _ scopes => exact keepsLevel_of_eq first (by rw [level?_of_cons scopes, if_pos first, level?])
  | closes _ _ scopes => exact keepsLevel_of_eq first (by rw [level?_of_cons scopes, if_pos second, level?])

/-- Only the innermost scope is different, and it is still open. -/
structure Rests (before after : Env) : Prop where
  document : after.document = before.document
  outer : after.scopes.tail = before.scopes.tail
  inside : after.scopes ≠ []

theorem Rests.trans {first second third : Env} (one : first.Rests second) (two : second.Rests third) :
    first.Rests third :=
  ⟨two.document.trans one.document, two.outer.trans one.outer, two.inside⟩

theorem changes_of_setDocument {node : NodeRef} (set : before.setDocument node = .ok after) : before.Changes after := by
  unfold setDocument at set
  split at set
  case isTrue => cases set
  case isFalse unset =>
    cases set
    exact .starts (by simpa using unset) rfl rfl

theorem changes_of_declare {binding : Binding} (declared : before.declare binding = .ok after) :
    before.Changes after := by
  unfold declare at declared
  split at declared
  case h_1 => cases declared
  case h_2 scope outer inside =>
    split at declared
    case isTrue => cases declared
    case isFalse fresh =>
      cases declared
      exact .declares rfl inside (by simpa using fresh) rfl

/-- Where there is a document, a call leaves all scopes but the innermost. -/
theorem Changes.rests (changes : before.Changes after) (set : before.document ≠ none) (inside : before.scopes ≠ []) :
    before.Rests after := by
  cases changes with
  | stays document scopes => exact ⟨document, by rw [scopes], by rwa [scopes]⟩
  | starts unset => exact (set unset).elim
  | declares document inside _ scopes => exact ⟨document, by rw [scopes, inside]; rfl, by simp [scopes]⟩

end Env

namespace Analysis

/-- A change is made, or it is a fault and nothing is. -/
theorem run_update (change : Env → Except Fault Env) (context : Context) :
    (∃ env, change context.env = .ok env ∧ (update change).run context = (.ok (), { context with env }))
    ∨ ∃ fault, (update change).run context = (.error fault, context) := by
  cases changed : change context.env with
  | ok env => exact .inl ⟨env, rfl, by simp [run, update, changed]⟩
  | error fault => exact .inr ⟨fault, by simp [run, update, changed]⟩

/-- A scope that cannot be opened is a fault, and nothing is changed. -/
theorem run_inScope_of_error {α : Type} {kind : ScopeKind} {owner : ScopeOwner} {context : Context} {fault : Fault}
    (refused : context.env.openScope kind owner = .error fault) (step : Analysis α) :
    (inScope kind owner step).run context = (.error fault, context) := by
  simp [run, inScope, refused]

theorem run_inScope_of_ok {α : Type} {kind : ScopeKind} {owner : ScopeOwner} {context : Context} {env : Env}
    (opened : context.env.openScope kind owner = .ok env) (step : Analysis α) :
    (inScope kind owner step).run context =
      let ended := step.run { context with env }
      (ended.1, { ended.2 with env := ended.2.env.closeScope }) := by
  simp [run, inScope, opened]

end Analysis

namespace Env

variable {before after : Env}

theorem moves_of_openScope {kind : ScopeKind} {owner : ScopeOwner} (opened : before.openScope kind owner = .ok after) :
    before.Moves after := by
  obtain ⟨set, rfl⟩ := openScope_eq_ok_iff.mp opened
  exact .opens set rfl rfl

end Env

namespace Call

variable (first : Call) (context : Context)

theorem run_changes : context.env.Changes (first.run.run context).2.env := by
  cases first with
  | setDocument node =>
    obtain ⟨env, set, ran⟩ | ⟨fault, ran⟩ := Analysis.run_update (·.setDocument node) context
    · rw [run, ran]
      exact Env.changes_of_setDocument set
    · rw [run, ran]
      exact .stays rfl rfl
  | declare binding =>
    obtain ⟨env, declared, ran⟩ | ⟨fault, ran⟩ := Analysis.run_update (·.declare binding) context
    · rw [run, ran]
      exact Env.changes_of_declare declared
    · rw [run, ran]
      exact .stays rfl rfl
  | remark | use | register => exact .stays rfl rfl

/-- A call that ends in a fault changes nothing. -/
theorem run_error {fault : Fault} {after : Context} (ran : first.run.run context = (.error fault, after)) :
    after = context := by
  have refused {change : Env → Except Fault Env} (ran : (Analysis.update change).run context = (.error fault, after)) :
      after = context := by
    obtain ⟨env, -, done⟩ | ⟨other, done⟩ := Analysis.run_update change context
    · cases ran.symm.trans done
    · exact congrArg Prod.snd (ran.symm.trans done)
  cases first with
  | setDocument node => exact @refused (·.setDocument node) ran
  | declare binding => exact @refused (·.declare binding) ran
  | remark | use | register => cases ran

end Call

namespace Script

def Rests (step : Analysis Unit) : Prop := ∀ context : Context, context.env.document ≠ none →
  context.env.scopes ≠ [] → context.env.Rests (step.run context).2.env

/-- Where a scope is opened around such a step, only that scope is left to close. -/
theorem Rests.of_openScope {step : Analysis Unit} (rests : Rests step) {kind : ScopeKind} {owner : ScopeOwner}
    {context : Context} {env : Env} (opened : context.env.openScope kind owner = .ok env) :
    let after := (step.run { context with env }).2.env
    after.document = context.env.document ∧ ∃ scope, after.scopes = scope :: context.env.scopes := by
  obtain ⟨set, same⟩ := Env.openScope_eq_ok_iff.mp opened
  obtain ⟨document, outer, inside⟩ := rests { context with env } (by rwa [same]) (by simp [same])
  refine ⟨document.trans (by rw [same]), ?_⟩
  obtain ⟨scope, rest, scopes⟩ := List.exists_cons_of_ne_nil inside
  refine ⟨scope, ?_⟩
  rw [scopes, List.tail_cons] at outer
  rw [scopes, outer, same, List.tail_cons]

/-- A scope around such a step is closed again, and those around it are as they were. -/
theorem Rests.inScope {step : Analysis Unit} (rests : Rests step) (kind : ScopeKind) (owner : ScopeOwner)
    (context : Context) :
    let after := ((Analysis.inScope kind owner step).run context).2.env
    after.document = context.env.document ∧ after.scopes = context.env.scopes := by
  cases opened : context.env.openScope kind owner with
  | error fault =>
    rw [Analysis.run_inScope_of_error opened]
    exact ⟨rfl, rfl⟩
  | ok env =>
    rw [Analysis.run_inScope_of_ok opened]
    obtain ⟨document, scope, scopes⟩ := rests.of_openScope opened
    exact ⟨document, congrArg List.tail scopes⟩

theorem run_rests (script : Script) : Rests script.run := by
  intro context set inside
  induction script generalizing context with
  | done => exact ⟨rfl, rfl, inside⟩
  | call first next ih =>
    have step := (first.run_changes context).rests set inside
    exact step.trans (ih _ _ _ (step.document ▸ set) step.inside)
  | scope kind owner body next around ih =>
    obtain ⟨document, scopes⟩ := Rests.inScope around kind owner context
    have step : context.env.Rests ((Analysis.inScope kind owner body.run).run context).2.env :=
      ⟨document, congrArg List.tail scopes, scopes ▸ inside⟩
    exact step.trans (ih _ _ _ (document ▸ set) step.inside)

theorem head?_visits (script : Script) (context : Context) : (script.visits context).head? = some context := by
  cases script <;> rfl

/-- The last context that a script visits is the one that it ends in. -/
theorem getLast?_visits (script : Script) (context : Context) :
    (script.visits context).getLast? = some (script.run.run context).2 := by
  induction script generalizing context with
  | done => rfl
  | call first next ih =>
    rw [visits, List.getLast?_cons, ih]
    rfl
  | scope kind owner body next _ ih =>
    rw [visits, List.getLast?_cons, List.getLast?_append, ih]
    rfl

/-- Each context that a script visits follows from the one before. -/
theorem visits_isChain (script : Script) (context : Context) (orderly : context.env.Orderly) :
    (script.visits context).IsChain fun before after => before.env.Moves after.env := by
  induction script generalizing context with
  | done => exact .singleton _
  | call first next ih =>
    have changes := first.run_changes context
    refine List.isChain_cons.mpr ⟨?_, ih _ _ _ (changes.orderly orderly)⟩
    rw [head?_visits]
    rintro _ ⟨⟩
    exact .changes changes
  | scope kind owner body next around ih =>
    let ended := (Analysis.inScope kind owner body.run).run context
    obtain ⟨document, scopes⟩ := body.run_rests.inScope kind owner context
    have stays : context.env.Changes ended.2.env := .stays document scopes
    have behind := ih ended.1 ended.2 ended.2 (stays.orderly orderly)
    rw [visits]
    cases opened : context.env.openScope kind owner with
    | error fault =>
      refine List.isChain_cons.mpr ⟨?_, behind⟩
      rw [List.nil_append, head?_visits]
      rintro _ ⟨⟩
      exact .changes stays
    | ok env =>
      have opens := Env.moves_of_openScope opened
      have inside := around { context with env } (opens.orderly orderly)
      refine List.isChain_cons.mpr ⟨?_, List.isChain_append.mpr ⟨inside, behind, ?_⟩⟩
      · rw [List.head?_append, head?_visits]
        rintro _ ⟨⟩
        exact opens
      · -- The body ends with its own scope on top of those that were open at the start.
        rw [head?_visits, getLast?_visits]
        rintro _ ⟨⟩ _ ⟨⟩
        obtain ⟨same, scope, left⟩ := body.run_rests.of_openScope opened
        have around : context.env.scopes ≠ [] := by
          rw [ne_eq, orderly.unset]
          exact (Env.openScope_eq_ok_iff.mp opened).1
        exact .closes (document.trans same.symm) (scopes ▸ around) (scopes ▸ left)

end Script

namespace Env

theorem orderly_empty : ({} : Env).Orderly := ⟨by simp, nofun, List.forall_mem_nil _⟩

instance (level : Nat) : Trans (KeepsLevel level) (KeepsLevel level) (KeepsLevel level) := ⟨KeepsLevel.trans⟩

def KeepsDocument (before after : Env) : Prop := ∀ node, before.document = some node → after.document = some node

instance : Trans KeepsDocument KeepsDocument KeepsDocument := ⟨fun one two node set => two node (one node set)⟩

end Env

/-- What holds of a context whatever is tried next. A call that ends in a fault changes nothing, and neither does a
scope that cannot be opened. However a scope ends, the scopes and so the answers to all questions about them are as
before. -/
structure Context.Steady (context : Context) : Prop where
  orderly : context.env.Orderly
  refused : ∀ (first : Call) fault after, first.run.run context = (.error fault, after) → after = context
  unopened : ∀ kind owner fault (body : Script), context.env.openScope kind owner = .error fault →
    (Analysis.inScope kind owner body.run).run context = (.error fault, context)
  restored : ∀ kind owner (body : Script), let after := ((Analysis.inScope kind owner body.run).run context).2.env
    after.document = context.env.document ∧ after.scopes = context.env.scopes
      ∧ (∀ name, after.lookup? name = context.env.lookup? name) ∧ (∀ name, after.local? name = context.env.local? name)
      ∧ ∀ other, after.owner? other = context.env.owner? other

theorem Context.Steady.of_orderly {context : Context} (orderly : context.env.Orderly) : context.Steady where
  orderly := orderly
  refused first _ _ ran := first.run_error context ran
  unopened _ _ _ body refused := Analysis.run_inScope_of_error refused body.run
  restored kind owner body := by
    obtain ⟨document, scopes⟩ := body.run_rests.inScope kind owner context
    refine ⟨document, scopes, fun name => ?_, fun name => ?_, fun other => ?_⟩
    · rw [Env.lookup?, scopes, Env.lookup?]
    · rw [Env.local?, scopes, Env.local?]
    · rw [Env.owner?, scopes, Env.owner?]

namespace Script

/-- Every context that a script comes through is in order. Its document stays what it once is, and as long as a scope is
open it has everything that it had. -/
theorem visits_steady (script : Script) :
    (script.visits {}).getLast? = some (script.run.run {}).2
    ∧ (∀ context ∈ script.visits {}, context.Steady)
    ∧ (script.visits {}).Pairwise (fun earlier later => earlier.env.KeepsDocument later.env)
    ∧ ∀ level passage, passage <:+: script.visits {} → (∀ context ∈ passage, level < context.env.scopes.length) →
      passage.Pairwise fun earlier later => earlier.env.KeepsLevel level later.env := by
  have chain := script.visits_isChain {} Env.orderly_empty
  refine ⟨script.getLast?_visits {}, fun context visited => .of_orderly ?_, ?_, ?_⟩
  · refine chain.induction (·.env.Orderly) _ (fun _ _ moves held => moves.orderly held) (fun some => ?_) context visited
    have start := script.head?_visits {}
    rw [List.head?_eq_some_head some, Option.some.injEq] at start
    rw [start]
    exact Env.orderly_empty
  · have documents : (script.visits {}).IsChain fun earlier later => earlier.env.KeepsDocument later.env :=
      chain.imp fun _ _ moves _ set => moves.document set
    exact List.pairwise_map.mp ((List.isChain_map Context.env).mpr documents).pairwise
  · intro level passage part inside
    have moves := List.IsChain.infix chain part
    have levels : passage.IsChain fun earlier later => earlier.env.KeepsLevel level later.env :=
      moves.imp_of_mem_imp fun a b first second step => step.keepsLevel (inside a first) (inside b second)
    exact List.pairwise_map.mp ((List.isChain_map Context.env).mpr levels).pairwise

/-- Declares a name in a document, and again in a scope, where it is declared twice; the fault ends the scope and is
then let go. Another document is refused. -/
def detour : Script :=
  let node : NodeRef := ⟨.document, .origin⟩
  let value (ty : Ty) : Call := .declare ⟨"x", ty, .variable, .function, none⟩
  .call (.setDocument node) fun _ _ => .call (value .i32) fun _ _ =>
    .scope .loop (.construct ⟨.whileLoop, .origin⟩)
      (.call (value .f32) fun _ _ => .call (.setDocument node) fun _ _ => .call (value .u32) fun ended _ => .done ended)
      fun _ _ => .done (.ok ())

theorem detour_steady :
    (detour.visits {}).map (·.env.scopes.length) = [0, 1, 1, 2, 2, 2, 2, 1]
    ∧ (detour.visits {}).map (fun context => (context.env.lookup? "x").map (·.ty)) =
      [none, none, some .i32, some .i32, some .f32, some .f32, some .f32, some .i32]
    ∧ (∀ context ∈ detour.visits {}, context.Steady)
    ∧ ((detour.visits {}).drop 1).Pairwise fun earlier later => earlier.env.KeepsLevel 0 later.env := by
  obtain ⟨-, steady, -, levels⟩ := visits_steady detour
  refine ⟨by decide +kernel, by decide +kernel, steady, levels 0 _ (List.drop_suffix 1 _).isInfix ?_⟩
  decide +kernel

end Script

end ShaderCheck
