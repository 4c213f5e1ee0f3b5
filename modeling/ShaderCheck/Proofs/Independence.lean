import ShaderCheck.Proofs.Commuting
import ShaderCheck.Proofs.Nodes

/-!
What declarations see of one another. A declaration comes to the same wherever the same scopes are open and the symbols
agree. Enums with different names, signatures of functions with different names, and bodies do not see one another, so
they can be checked in any order.
-/

namespace ShaderCheck

open Attempt

open Env (SameAs)

namespace Symbols

variable {a b : Symbols}

theorem Agree.addEnum? (agree : a.Agree b) (enumeration : Enumeration) :
    Option.Rel Agree (a.addEnum? enumeration) (b.addEnum? enumeration) := by
  rw [Symbols.addEnum?, Symbols.addEnum?, agree.hasTypeName]
  split
  · exact .none
  · refine .some ⟨⟨fun name => ?_, agree.structs, agree.aliases⟩, agree.functions⟩
    have others := agree.enums name
    unfold enumeration? at *
    rw [List.find?_cons, List.find?_cons, others]

theorem Agree.addStruct? (agree : a.Agree b) (layout : Layout) :
    Option.Rel Agree (a.addStruct? layout) (b.addStruct? layout) := by
  rw [Symbols.addStruct?, Symbols.addStruct?, agree.hasTypeName]
  split
  · exact .none
  · refine .some ⟨⟨agree.enums, fun name => ?_, agree.aliases⟩, agree.functions⟩
    have others := agree.structs name
    unfold struct? at *
    rw [List.find?_cons, List.find?_cons, others]

theorem Agree.addAlias? (agree : a.Agree b) (name : String) (ty : Ty) :
    Option.Rel Agree (a.addAlias? name ty) (b.addAlias? name ty) := by
  rw [Symbols.addAlias?, Symbols.addAlias?, agree.hasTypeName]
  split
  · exact .none
  · refine .some ⟨⟨agree.enums, agree.structs, fun other => ?_⟩, agree.functions⟩
    have others := agree.aliases other
    unfold alias? at *
    rw [List.lookup_cons, List.lookup_cons, others]

theorem Agree.addFunction? (agree : a.Agree b) (function : Function) :
    Option.Rel Agree (a.addFunction? function) (b.addFunction? function) := by
  rw [Symbols.addFunction?, Symbols.addFunction?, agree.functions]
  split
  · exact .none
  · refine .some ⟨⟨agree.enums, agree.structs, agree.aliases⟩, fun name => ?_⟩
    have others := agree.functions name
    unfold function? at *
    rw [List.find?_cons, List.find?_cons, others]

end Symbols

namespace Env.Matches

variable {a b : Env}

theorem register (same : a.Matches b) (node : NodeRef) (taken : Cause) {first second : Option Symbols}
    (agree : Option.Rel Symbols.Agree first second) :
    (a.register node taken first).notes = (b.register node taken second).notes
      ∧ (a.register node taken first).value.Matches (b.register node taken second).value := by
  cases agree with
  | none => exact ⟨rfl, same⟩
  | some agree => exact ⟨rfl, ⟨same.ready.document, same.ready.scope⟩, same.document, same.scopes, agree⟩

theorem declare (same : a.Matches b) (binding : Binding) :
    Related Env.Matches (Attempt.of (a.declare binding)) (Attempt.of (b.declare binding)) := by
  obtain ⟨first, second⟩ := same.alike.ready
  rw [first.declare, second.declare, same.alike.names]
  split
  · exact ⟨rfl, .error _⟩
  · refine .pure ⟨first.push binding, same.document, ?_, same.symbols⟩
    rw [Env.push, Env.push, same.scopes]

end Env.Matches

theorem Attempt.of_bind {α β : Type} (outcome : Except Fault α) (next : α → Except Fault β) :
    Attempt.of (outcome >>= next) = Attempt.of outcome >>= fun a => Attempt.of (next a) := by
  cases outcome with
  | ok a => rfl
  | error fault => rfl

theorem Attempt.Related.lift {α : Type} {rel : α → α → Prop} {x y : Noted α} (notes : x.notes = y.notes)
    (related : rel x.value y.value) : Related rel (liftM x : Attempt α) (liftM y) :=
  ⟨by rw [notes_lift, notes_lift, notes], .ok related⟩

theorem Attempt.Related.known {α : Type} {x : Attempt α} {known : α → Prop} (holds : ∀ a, x.result = .ok a → known a) :
    Related (fun a b => a = b ∧ known a) x x := by
  refine ⟨rfl, ?_⟩
  cases ends : x.result with
  | ok a => exact .ok ⟨rfl, holds a ends⟩
  | error fault => exact .error fault

namespace FunctionDecl

variable {a b : Env}

theorem declareParameters_related (alike : a.Alike b) (function : Function) (position : Nat)
    (parameters : List ParameterDecl) :
    Related Env.Alike (Attempt.of (declareParameters function a position parameters))
      (Attempt.of (declareParameters function b position parameters)) := by
  induction parameters generalizing a b position with
  | nil => exact .pure alike
  | cons parameter rest ih =>
    rw [declareParameters, declareParameters, alike.names]
    split
    · exact ih alike (position + 1)
    · have declared := alike.declare ⟨parameter.name, parameterType function position, .variable, .function, none⟩
      rw [of_bind, of_bind]
      exact declared.bind fun _ _ alike => ih alike (position + 1)

/-- The body of a function comes to the same where what is in force matches. -/
theorem check_congr (same : a.Matches b) (declaration : FunctionDecl) : declaration.check a = declaration.check b := by
  rw [check, check, registered?, registered?, same.symbols.functions]
  split
  · rfl
  · refine Related.eq ((same.alike.openScope _ _).bind fun inner inner' alike => ?_)
    refine (declareParameters_related alike _ _ _).bind fun body body' alike => ?_
    rw [Stmt.checkBlock_congr _ alike]
    exact .same _

end FunctionDecl

theorem StructDecl.check_congr {a b : Env} (same : a.Matches b) (declaration : StructDecl) :
    (declaration.check a).notes = (declaration.check b).notes
      ∧ SameAs (declaration.check a).value (declaration.check b).value := by
  rw [check, check, collectMembers_congr same.symbols.toTypesAgree]
  obtain ⟨noted, held⟩ := same.register ⟨.structDeclaration, declaration.range⟩ (.typeNameTaken declaration.name)
    (same.symbols.addStruct? ⟨declaration.name, _⟩)
  exact ⟨by simp only [Noted.notes_bind, noted]; rfl, rfl, held⟩

theorem AliasDecl.check_congr {a b : Env} (same : a.Matches b) (declaration : AliasDecl) :
    (declaration.check a).notes = (declaration.check b).notes
      ∧ SameAs (declaration.check a).value (declaration.check b).value := by
  rw [check, check, declaration.type.resolve_congr same.symbols.toTypesAgree]
  obtain ⟨noted, held⟩ := same.register ⟨.aliasDeclaration, declaration.range⟩ (.typeNameTaken declaration.name)
    (same.symbols.addAlias? declaration.name _)
  exact ⟨by simp only [Noted.notes_bind, noted]; rfl, rfl, held⟩

/-- A declaration comes to the same where what is in force matches. -/
theorem Decl.check_related {a b : Env} (same : a.Matches b) (declaration : Decl) :
    Related SameAs (declaration.check a) (declaration.check b) := by
  cases declaration with
  | function declaration =>
    rw [Decl.check, Decl.check, declaration.check_congr same]
    exact .after fun _ => .pure ⟨rfl, same⟩
  | enumeration declaration =>
    rw [Decl.check, Decl.check, EnumDecl.check, EnumDecl.check]
    refine .after fun enumeration => ?_
    obtain ⟨noted, held⟩ := same.register ⟨.enumDeclaration, declaration.range⟩ (.typeNameTaken declaration.name)
      (same.symbols.addEnum? enumeration)
    exact (Related.lift noted held).bind fun _ _ held => .pure ⟨rfl, held⟩
  | struct declaration =>
    obtain ⟨noted, held⟩ := declaration.check_congr same
    exact (Related.lift noted held).bind fun _ _ held => .pure held
  | «alias» declaration =>
    obtain ⟨noted, held⟩ := declaration.check_congr same
    exact (Related.lift noted held).bind fun _ _ held => .pure held
  | «variable» declaration =>
    rw [Decl.check, Decl.check, VariableDecl.checkGlobal, VariableDecl.checkGlobal,
      declaration.globalBinding_congr same.agree]
    exact .after fun bound => (same.declare bound.1).bind fun _ _ held => .pure ⟨rfl, held⟩

namespace Symbols

def withFunction (symbols : Symbols) (function : Function) : Symbols := (symbols.addFunction? function).getD symbols

def withEnum (symbols : Symbols) (enumeration : Enumeration) : Symbols := (symbols.addEnum? enumeration).getD symbols

variable (symbols : Symbols)

theorem isSome_addFunction? (function : Function) :
    (symbols.addFunction? function).isSome = !(symbols.function? function.name).isSome := by
  unfold Symbols.addFunction?
  split <;> simp_all

theorem isSome_addEnum? (enumeration : Enumeration) :
    (symbols.addEnum? enumeration).isSome = !symbols.hasTypeName enumeration.name := by
  unfold Symbols.addEnum?
  split <;> simp_all

theorem function?_withFunction (function : Function) (name : String) :
    (symbols.withFunction function).function? name =
      (symbols.function? name).or (if function.name = name then some function else none) := by
  unfold withFunction Symbols.addFunction?
  split
  case isTrue taken =>
    by_cases same : function.name = name
    · obtain ⟨other, found⟩ := Option.isSome_iff_exists.mp taken
      simp [← same, found]
    · simp [same]
  case isFalse free =>
    change List.find? _ (_ :: symbols.functions) = _
    by_cases same : function.name = name
    · rw [Option.not_isSome_iff_eq_none] at free
      simp [← same, free]
    · simp [same, Symbols.function?]

theorem typesAgree_withFunction (function : Function) : symbols.TypesAgree (symbols.withFunction function) := by
  unfold withFunction Symbols.addFunction?
  split <;> exact ⟨fun _ => rfl, fun _ => rfl, fun _ => rfl⟩

theorem enumeration?_withEnum (enumeration : Enumeration) (name : String) :
    (symbols.withEnum enumeration).enumeration? name = (symbols.enumeration? name).or
      (if enumeration.name = name ∧ symbols.hasTypeName name = false then some enumeration else none) := by
  unfold withEnum Symbols.addEnum?
  split
  case isTrue taken =>
    by_cases same : enumeration.name = name
    · subst same
      simp [taken]
    · simp [same]
  case isFalse free =>
    change List.find? _ (_ :: symbols.enums) = _
    by_cases same : enumeration.name = name
    · subst same
      have absent : symbols.enumeration? enumeration.name = none := by
        simp only [hasTypeName, Bool.or_eq_true, not_or, Option.not_isSome_iff_eq_none] at free
        exact free.1.1
      simp [absent, free]
    · simp [same, Symbols.enumeration?]

theorem rest_withEnum (enumeration : Enumeration) :
    (symbols.withEnum enumeration).structs = symbols.structs
      ∧ (symbols.withEnum enumeration).aliases = symbols.aliases
      ∧ (symbols.withEnum enumeration).functions = symbols.functions := by
  unfold withEnum Symbols.addEnum?
  split <;> exact ⟨rfl, rfl, rfl⟩

theorem hasTypeName_withEnum (enumeration : Enumeration) (name : String) :
    (symbols.withEnum enumeration).hasTypeName name
      = (symbols.hasTypeName name || decide (enumeration.name = name)) := by
  obtain ⟨structs, aliases, -⟩ := symbols.rest_withEnum enumeration
  have kept : (symbols.withEnum enumeration).struct? name = symbols.struct? name
      ∧ (symbols.withEnum enumeration).alias? name = symbols.alias? name := by
    simp only [struct?, alias?, structs, aliases, and_self]
  rw [hasTypeName, enumeration?_withEnum, kept.1, kept.2]
  by_cases same : enumeration.name = name
  · cases known : symbols.hasTypeName name with
    | true => simpa [same, known, hasTypeName] using known
    | false => simp [same]
  · simp [same, hasTypeName]

/-- Functions with different names can be added in either order. -/
theorem withFunction_comm {first second : Function} (distinct : first.name ≠ second.name) :
    ((symbols.withFunction first).withFunction second).Agree ((symbols.withFunction second).withFunction first) := by
  have one := (symbols.typesAgree_withFunction first).trans
    ((symbols.withFunction first).typesAgree_withFunction second)
  have two := (symbols.typesAgree_withFunction second).trans
    ((symbols.withFunction second).typesAgree_withFunction first)
  refine ⟨one.symm.trans two, fun name => ?_⟩
  simp only [function?_withFunction, Option.or_assoc]
  by_cases same : first.name = name
  · simp [same, (same ▸ distinct).symm]
  · simp [same]

/-- Enums with different names can be added in either order. -/
theorem withEnum_comm {first second : Enumeration} (distinct : first.name ≠ second.name) :
    ((symbols.withEnum first).withEnum second).Agree ((symbols.withEnum second).withEnum first) := by
  refine ⟨⟨fun name => ?_, fun name => ?_, fun name => ?_⟩, fun name => ?_⟩
  · simp only [enumeration?_withEnum, hasTypeName_withEnum, Option.or_assoc]
    by_cases same : first.name = name
    · simp [same, (same ▸ distinct).symm]
    · simp [same]
  · simp only [struct?, rest_withEnum]
  · simp only [alias?, rest_withEnum]
  · simp only [function?, rest_withEnum]

end Symbols

theorem Env.value_register (env : Env) (node : NodeRef) (taken : Cause) (symbols : Option Symbols) :
    (env.register node taken symbols).value = { env with symbols := symbols.getD env.symbols } := by
  cases symbols with
  | none => rfl
  | some more => rfl

theorem Env.notes_register {env other : Env} {first second : Option Symbols} (same : first.isSome = second.isSome)
    (node : NodeRef) (taken : Cause) :
    (env.register node taken first).notes = (other.register node taken second).notes := by
  cases first <;> cases second <;> first | rfl | cases same

theorem Env.Ready.withSymbols {env : Env} (ready : env.Ready) (symbols : Symbols) :
    ({ env with symbols } : Env).Ready :=
  ⟨ready.document, ready.scope⟩

def Decl.name : Decl → String
  | .function declaration => declaration.name
  | .enumeration declaration => declaration.name
  | .struct declaration => declaration.name
  | .alias declaration => declaration.name
  | .variable declaration => declaration.name

theorem Decl.env_of_body {declaration : Decl} {env after : Env} {typed : TypedDecl} (body : declaration.round = .bodies)
    (ends : (declaration.check env).result = .ok (typed, after)) : env = after := by
  cases declaration with
  | function declaration =>
    have yields := yields_of_result ends
    simp only [check, yields_bind, yields_pure] at yields
    obtain ⟨_, -, ⟨⟩⟩ := yields
    rfl
  | _ => cases body

namespace EnumDecl

theorem name_collect {declaration : EnumDecl} {enumeration : Enumeration}
    (ends : result declaration.collect = .ok enumeration) : enumeration.name = declaration.name := by
  have yields := yields_of_result ends
  simp only [collect, yields_bind, yields_pure] at yields
  obtain ⟨_, -, _, -, rfl⟩ := yields
  rfl

theorem check_eq_ok {declaration : EnumDecl} {env after : Env} {typed : TypedDecl}
    (ends : (declaration.check env).result = .ok (typed, after)) :
    ∃ enumeration, result declaration.collect = .ok enumeration
      ∧ after = { env with symbols := env.symbols.withEnum enumeration } := by
  have yields := yields_of_result ends
  simp only [check, yields_bind, yields_pure, yields_lift] at yields
  obtain ⟨enumeration, collected, _, ⟨rfl, -⟩, ⟨⟩⟩ := yields
  exact ⟨enumeration, collected.1, Env.value_register ..⟩

/-- An enum does not see another one with another name. -/
theorem check_blind {declaration : EnumDecl} {other : Enumeration} (distinct : declaration.name ≠ other.name)
    (env : Env) :
    Related (fun x y => x.1 = y.1) (declaration.check env)
      (declaration.check { env with symbols := env.symbols.withEnum other }) := by
  have free : ∀ enumeration : Enumeration, enumeration.name = declaration.name →
      (env.symbols.addEnum? enumeration).isSome = ((env.symbols.withEnum other).addEnum? enumeration).isSome := by
    intro enumeration named
    have apart : ¬ other.name = enumeration.name := named ▸ distinct.symm
    simp [Symbols.isSome_addEnum?, Symbols.hasTypeName_withEnum, apart]
  rw [check, check]
  refine (Related.known fun _ => name_collect).bind ?_
  rintro enumeration _ ⟨rfl, named⟩
  refine Related.bind (.lift (Env.notes_register (free enumeration named) _ _) ?_) fun _ _ (_ : True) => .pure rfl
  trivial

end EnumDecl

/-- Enums with different names can be checked in either order. -/
theorem enums_commute :
    Commutes (fun (declaration : Decl) env => declaration.check env) (·.round = .enums) (·.name ≠ ·.name) where
  symm := Ne.symm
  congr _ same := Decl.check_related same _
  blind := by
    intro d e env after u first second distinct ready ends
    cases d with
    | enumeration declaration =>
      cases e with
      | enumeration other =>
        obtain ⟨enumeration, collected, rfl⟩ := EnumDecl.check_eq_ok ends
        have named := EnumDecl.name_collect collected
        exact EnumDecl.check_blind (named ▸ distinct) env
      | _ => cases second
    | _ => cases first
  meet := by
    intro d e env one two left right t u t' u' first second distinct ready ends₁ ends₂ ends₃ ends₄
    cases d with
    | enumeration declaration =>
      cases e with
      | enumeration other =>
        obtain ⟨x, collected, rfl⟩ := EnumDecl.check_eq_ok ends₁
        obtain ⟨y, collected', rfl⟩ := EnumDecl.check_eq_ok ends₂
        obtain ⟨y', again', rfl⟩ := EnumDecl.check_eq_ok ends₃
        obtain ⟨x', again, rfl⟩ := EnumDecl.check_eq_ok ends₄
        obtain rfl : x = x' := Except.ok.inj (collected.symm.trans again)
        obtain rfl : y = y' := Except.ok.inj (collected'.symm.trans again')
        have apart : x.name ≠ y.name := by
          rw [EnumDecl.name_collect collected, EnumDecl.name_collect collected']
          exact distinct
        exact ⟨ready.withSymbols _, rfl, rfl, env.symbols.withEnum_comm apart⟩
      | _ => cases second
    | _ => cases first

/-- Bodies can be checked in any order. -/
theorem bodies_commute :
    Commutes (fun (declaration : Decl) env => declaration.check env) (·.round = .bodies) (fun _ _ => True) where
  symm _ := trivial
  congr _ same := Decl.check_related same _
  blind := by
    intro d e env after u first second distinct ready ends
    obtain rfl := Decl.env_of_body second ends
    exact (Related.same _).weaken fun _ _ same => congrArg _ same
  meet := by
    intro d e env one two left right t u t' u' first second distinct ready ends₁ ends₂ ends₃ ends₄
    obtain rfl := Decl.env_of_body first ends₁
    obtain rfl := Decl.env_of_body second ends₂
    obtain rfl := Decl.env_of_body second ends₃
    obtain rfl := Decl.env_of_body first ends₄
    exact .refl ready

namespace FunctionDecl

variable {env : Env}

def described (symbols : Symbols) (declaration : FunctionDecl) : Function :=
  ⟨declaration.name, (HeaderDecl.collectAll symbols declaration.headers).value, some declaration.range⟩

theorem described_congr {a b : Symbols} (agree : a.TypesAgree b) (declaration : FunctionDecl) :
    declaration.described a = declaration.described b := by
  rw [described, described, HeaderDecl.collectAll_congr agree]

def sign (declaration : FunctionDecl) (env : Env) : Attempt (Unit × Env) := do
  let env ← declaration.collectSignature env
  return ((), env)

theorem sign_eq_ok {declaration : FunctionDecl} {after : Env} {u : Unit}
    (ends : (declaration.sign env).result = .ok (u, after)) :
    after = { env with symbols := env.symbols.withFunction (declaration.described env.symbols) } := by
  have yields := yields_of_result ends
  simp only [sign, yields_bind, yields_pure, yields_lift] at yields
  obtain ⟨_, ⟨rfl, -⟩, ⟨⟩⟩ := yields
  exact Env.value_register ..

theorem sign_related {a b : Env} (same : a.Matches b) (declaration : FunctionDecl) :
    Related SameAs (declaration.sign a) (declaration.sign b) := by
  obtain ⟨noted, held⟩ := same.register ⟨.functionDeclaration, declaration.range⟩ (.functionNameTaken declaration.name)
    (same.symbols.addFunction? (declaration.described b.symbols))
  refine Related.bind (.lift ?_ ?_) fun _ _ held => .pure ⟨rfl, held⟩
  · rw [collectSignature, collectSignature, HeaderDecl.collectAll_congr same.symbols.toTypesAgree]
    simp only [Noted.notes_bind]
    rw [← described, noted]
  · rw [collectSignature, collectSignature, HeaderDecl.collectAll_congr same.symbols.toTypesAgree]
    exact held

/-- A function does not see another one with another name. -/
theorem sign_blind {declaration : FunctionDecl} {other : Function} (distinct : declaration.name ≠ other.name) :
    Related (fun x y => x.1 = y.1) (declaration.sign env)
      (declaration.sign { env with symbols := env.symbols.withFunction other }) := by
  have agree := env.symbols.typesAgree_withFunction other
  have free : (env.symbols.addFunction? (declaration.described env.symbols)).isSome
      = ((env.symbols.withFunction other).addFunction? (declaration.described env.symbols)).isSome := by
    have apart : ¬ other.name = (declaration.described env.symbols).name := distinct.symm
    simp [Symbols.isSome_addFunction?, Symbols.function?_withFunction, apart]
  refine Related.bind (.lift ?_ ?_) fun _ _ (_ : True) => .pure rfl
  · rw [collectSignature, collectSignature, ← HeaderDecl.collectAll_congr agree]
    exact congrArg (_ ++ ·) (congrArg (_ ++ ·) (Env.notes_register free _ _))
  · trivial

theorem signatures_commute : Commutes sign (fun _ => True) (·.name ≠ ·.name) where
  symm := Ne.symm
  congr _ same := sign_related same _
  blind := by
    intro d e env after u _ _ distinct ready ends
    obtain rfl := sign_eq_ok ends
    exact sign_blind distinct
  meet := by
    intro d e env one two left right t u t' u' _ _ distinct ready ends₁ ends₂ ends₃ ends₄
    obtain rfl := sign_eq_ok ends₁
    obtain rfl := sign_eq_ok ends₂
    obtain rfl := sign_eq_ok ends₃
    obtain rfl := sign_eq_ok ends₄
    refine ⟨ready.withSymbols _, rfl, rfl, ?_⟩
    simp only [← described_congr (env.symbols.typesAgree_withFunction _)]
    exact env.symbols.withFunction_comm distinct

end FunctionDecl

theorem Document.collectSignatures_eq (env : Env) (declarations : List Decl) :
    (liftM (collectSignatures env declarations) : Attempt Env) =
      runAll FunctionDecl.sign (declarations.filterMap Decl.function?) env >>= fun outcome => pure outcome.2 := by
  induction declarations generalizing env with
  | nil => rfl
  | cons declaration rest ih =>
    cases declaration with
    | function declaration =>
      have listed : (Decl.function declaration :: rest).filterMap Decl.function?
          = declaration :: rest.filterMap Decl.function? := rfl
      rw [listed, runAll, FunctionDecl.sign, collectSignatures, liftM_bind]
      simp only [ih, bind_assoc, pure_bind]
    | _ => exact ih env

end ShaderCheck
