import Mathlib.Data.List.Forall2
import ShaderCheck.Proofs.Outcome

/-!
The check of a document as one effect on what is in force. The rounds pass what is in force on from one to the next, and
only a fault stops them. After the last one every declaration has its facts.
-/

namespace ShaderCheck

instance : LawfulMonad Noted :=
  .mk' Noted (fun step => congrArg (Noted.mk step.value) (Notes.append_empty step.notes))
    (fun _ _ => rfl)
    (fun step next last => congrArg (Noted.mk _) (Notes.append_assoc step.notes _ _))

namespace Document

open Attempt

def checkRound (round : Round) : List Slot → Env → Attempt (List Slot × Env)
  | [], env => pure ([], env)
  | slot :: rest, env =>
    if slot.declaration.round = round then do
      let (typed, env) ← slot.declaration.check env
      let (rest, env) ← checkRound round rest env
      return ({ slot with typed := some typed } :: rest, env)
    else do
      let (rest, env) ← checkRound round rest env
      return (slot :: rest, env)

def effect (document : Document) (env : Env) : Attempt (TypedDocument × Env) := do
  let env ← Attempt.of (env.setDocument ⟨.document, document.range⟩)
  let env := { env with symbols := Builtin.register env.symbols }
  let (slots, env) ← checkRound .enums (document.declarations.map fun declaration => { declaration }) env
  let (slots, env) ← checkRound .layouts slots env
  let env ← collectSignatures env document.declarations
  let (slots, env) ← checkRound .globals slots env
  let (slots, env) ← checkRound .bodies slots env
  return (⟨document.range, document.counts, slots.filterMap (·.typed)⟩, env)

theorem runRound_does (round : Round) (slots : List Slot) :
    Analysis.Does (runRound round slots) (checkRound round slots) := by
  induction slots with
  | nil => exact .pure []
  | cons slot rest ih =>
    rw [runRound]
    split
    case isTrue due =>
      have steps := (Analysis.Does.attempt fun env => slot.declaration.check env).bind fun typed =>
        ih.bind fun rest => .pure ({ slot with typed := some typed } :: rest)
      exact steps.of_eq fun env => by rw [checkRound, if_pos due]
    case isFalse later =>
      have steps := ih.bind fun rest => .pure (slot :: rest)
      exact steps.of_eq fun env => by rw [checkRound, if_neg later]

theorem check_does (document : Document) : Analysis.Does document.check document.effect := by
  have steps := (Analysis.Does.update (·.setDocument ⟨.document, document.range⟩)).bind fun _ =>
    (Analysis.Does.update fun env => .ok { env with symbols := Builtin.register env.symbols }).bind fun _ =>
    (runRound_does .enums (document.declarations.map fun declaration => { declaration })).bind fun slots =>
    (runRound_does .layouts slots).bind fun slots =>
    (Analysis.Does.attempt fun env => do
      let env ← collectSignatures env document.declarations
      return ((), env)).bind fun _ =>
    (runRound_does .globals slots).bind fun slots =>
    (runRound_does .bodies slots).bind fun slots =>
    Analysis.Does.pure (TypedDocument.mk document.range document.counts (slots.filterMap (·.typed)))
  exact steps.of_eq fun env => by
    simp only [effect, bind_assoc, pure_bind]
    rfl

/-- What a round makes of a slot: a declaration that is due gets its facts, and the others are left as they are. -/
def Slot.Advances (round : Round) (good : Decl → TypedDecl → Prop) (before after : Slot) : Prop :=
  after.declaration = before.declaration
    ∧ if before.declaration.round = round then ∃ typed, after.typed = some typed ∧ good before.declaration typed
      else after.typed = before.typed

/-- What each declaration of a round keeps up if its facts are fine, the round does if those of all are. -/
theorem checkRound_advancesIf {allowed : Incident → Prop} {round : Round} {fine : TypedDecl → Prop}
    {invariant : Env → Prop} {good : Decl → TypedDecl → Prop} {slots later : List Slot} {env after : Env}
    (one : ∀ slot ∈ slots, slot.declaration.round = round → ∀ {env typed after}, fine typed → invariant env →
      Yields allowed (slot.declaration.check env) (typed, after) → invariant after ∧ good slot.declaration typed)
    (start : invariant env) (yields : Yields allowed (checkRound round slots env) (later, after))
    (fits : ∀ slot ∈ later, slot.declaration.round = round → ∀ typed ∈ slot.typed, fine typed) :
    invariant after ∧ List.Forall₂ (Slot.Advances round good) slots later := by
  induction slots generalizing env later with
  | nil =>
    simp only [checkRound, yields_pure] at yields
    cases yields
    exact ⟨start, .nil⟩
  | cons slot rest ih =>
    obtain ⟨first, others⟩ := List.forall_mem_cons.mp one
    rw [checkRound] at yields
    split at yields
    case isTrue due =>
      simp only [yields_bind, yields_pure] at yields
      obtain ⟨⟨typed, middle⟩, checked, ⟨tail, last⟩, behind, ⟨⟩⟩ := yields
      obtain ⟨fit, fits⟩ := List.forall_mem_cons.mp fits
      obtain ⟨kept, fine⟩ := first due (fit due typed rfl) start checked
      obtain ⟨holds, advance⟩ := ih others kept behind fits
      exact ⟨holds, .cons ⟨rfl, by simpa [due] using fine⟩ advance⟩
    case isFalse waits =>
      simp only [yields_bind, yields_pure] at yields
      obtain ⟨⟨tail, last⟩, behind, ⟨⟩⟩ := yields
      obtain ⟨holds, advance⟩ := ih others start behind (List.forall_mem_cons.mp fits).2
      exact ⟨holds, .cons ⟨rfl, by simp [waits]⟩ advance⟩

/-- What each declaration of a round keeps up, the round does. -/
theorem checkRound_advances {allowed : Incident → Prop} {round : Round} {invariant : Env → Prop}
    {good : Decl → TypedDecl → Prop} {slots later : List Slot} {env after : Env}
    (one : ∀ slot ∈ slots, slot.declaration.round = round → ∀ {env typed after}, invariant env →
      Yields allowed (slot.declaration.check env) (typed, after) → invariant after ∧ good slot.declaration typed)
    (start : invariant env) (yields : Yields allowed (checkRound round slots env) (later, after)) :
    invariant after ∧ List.Forall₂ (Slot.Advances round good) slots later :=
  checkRound_advancesIf (fun slot member due _ _ _ (_ : True) => one slot member due) start yields
    fun _ _ _ _ _ => trivial

/-- What is asked of the declarations of one round stands open after another. -/
theorem checkRound_waits {allowed : Incident → Prop} {round other : Round} {good : Decl → TypedDecl → Prop}
    {slots later : List Slot} {env after : Env} (different : round ≠ other)
    (yields : Yields allowed (checkRound round slots env) (later, after)) :
    List.Forall₂ (Slot.Advances round fun declaration typed => declaration.round = other → good declaration typed)
      slots later := by
  refine (@checkRound_advances allowed round (fun _ => True) _ slots later env after ?_ trivial yields).2
  exact fun _ _ due _ _ _ _ _ => ⟨trivial, fun last => (different (due.symm.trans last)).elim⟩

/-- A round passes from declaration to declaration, and each is checked somewhere on the way. -/
theorem checkRound_passes {allowed : Incident → Prop} {round : Round} {leads : Env → Env → Prop}
    {slots later : List Slot} {env last : Env} (ends : ∀ env, leads env env)
    (one : ∀ {declaration : Decl} {env typed middle last}, declaration.round = round →
      Yields allowed (declaration.check env) (typed, middle) → leads middle last → leads env last)
    (yields : Yields allowed (checkRound round slots env) (later, last)) :
    leads env last ∧ List.Forall₂ (Slot.Advances round fun declaration typed => declaration.round = round →
      ∃ before middle, Yields allowed (declaration.check before) (typed, middle) ∧ leads middle last) slots later := by
  induction slots generalizing env later with
  | nil =>
    simp only [checkRound, yields_pure] at yields
    cases yields
    exact ⟨ends _, .nil⟩
  | cons slot rest ih =>
    rw [checkRound] at yields
    split at yields
    case isTrue due =>
      simp only [yields_bind, yields_pure] at yields
      obtain ⟨⟨typed, middle⟩, checked, ⟨tail, last⟩, behind, ⟨⟩⟩ := yields
      obtain ⟨led, passed⟩ := ih behind
      refine ⟨one due checked led, .cons ⟨rfl, ?_⟩ passed⟩
      rw [if_pos due]
      exact ⟨typed, rfl, fun _ => ⟨env, middle, checked, led⟩⟩
    case isFalse waits =>
      simp only [yields_bind, yields_pure] at yields
      obtain ⟨⟨tail, last⟩, behind, ⟨⟩⟩ := yields
      obtain ⟨led, passed⟩ := ih behind
      exact ⟨led, .cons ⟨rfl, by simp [waits]⟩ passed⟩

/-- A round leaves the declarations that are not due in it. -/
theorem mem_of_checkRound {allowed : Incident → Prop} {round : Round} {slots later : List Slot} {env after : Env}
    (yields : Yields allowed (checkRound round slots env) (later, after)) {slot : Slot} (member : slot ∈ slots)
    (waits : slot.declaration.round ≠ round) : slot ∈ later := by
  induction slots generalizing env later with
  | nil => cases member
  | cons other rest ih =>
    rw [checkRound] at yields
    split at yields
    case isTrue due =>
      simp only [yields_bind, yields_pure] at yields
      obtain ⟨⟨typed, middle⟩, -, ⟨tail, last⟩, behind, ⟨⟩⟩ := yields
      obtain rfl | inside := List.mem_cons.mp member
      · exact (waits due).elim
      · exact List.mem_cons_of_mem _ (ih behind inside)
    case isFalse =>
      simp only [yields_bind, yields_pure] at yields
      obtain ⟨⟨tail, last⟩, behind, ⟨⟩⟩ := yields
      obtain rfl | inside := List.mem_cons.mp member
      · exact List.mem_cons_self
      · exact List.mem_cons_of_mem _ (ih behind inside)

theorem declaration_of_advances {round : Round} {good : Decl → TypedDecl → Prop} {slots later : List Slot}
    (advance : List.Forall₂ (Slot.Advances round good) slots later) :
    later.map (·.declaration) = slots.map (·.declaration) := by
  induction advance with
  | nil => rfl
  | cons first _ ih => rw [List.map_cons, List.map_cons, first.1, ih]

/-- Each declaration has its facts after the four rounds, because it is due in one of them. -/
theorem Slot.Advances.filled {good : Decl → TypedDecl → Prop} {declaration : Decl} {a b c d : Slot}
    (enums : Slot.Advances .enums good { declaration } a) (layouts : Slot.Advances .layouts good a b)
    (globals : Slot.Advances .globals good b c) (bodies : Slot.Advances .bodies good c d) :
    ∃ typed, d.typed = some typed ∧ good declaration typed := by
  obtain ⟨same₁, enums⟩ := enums
  obtain ⟨same₂, layouts⟩ := layouts
  obtain ⟨same₃, globals⟩ := globals
  obtain ⟨-, bodies⟩ := bodies
  rw [same₁] at same₂ layouts
  rw [same₂] at same₃ globals
  rw [same₃] at bodies
  -- The facts come from the round that the declaration is due in, and the later ones leave them.
  cases due : declaration.round <;> simp_all

theorem forall₂_of_rounds {good : Decl → TypedDecl → Prop} {declarations : List Decl} {a b c d : List Slot}
    (enums : List.Forall₂ (Slot.Advances .enums good) (declarations.map fun declaration => { declaration }) a)
    (layouts : List.Forall₂ (Slot.Advances .layouts good) a b)
    (globals : List.Forall₂ (Slot.Advances .globals good) b c)
    (bodies : List.Forall₂ (Slot.Advances .bodies good) c d) :
    List.Forall₂ good declarations (d.filterMap (·.typed)) := by
  induction declarations generalizing a b c d with
  | nil =>
    cases enums
    cases layouts
    cases globals
    cases bodies
    exact .nil
  | cons declaration rest ih =>
    obtain _ | ⟨first, enums⟩ := enums
    obtain _ | ⟨second, layouts⟩ := layouts
    obtain _ | ⟨third, globals⟩ := globals
    obtain _ | ⟨fourth, bodies⟩ := bodies
    obtain ⟨typed, found, fine⟩ := Slot.Advances.filled first second third fourth
    rw [List.filterMap_cons_some found]
    exact .cons fine (ih enums layouts globals bodies)

/-- What is in force once a document is set and the built-in functions are registered. -/
def opened (document : Document) : Env :=
  ⟨some ⟨.document, document.range⟩, [⟨.global, .document ⟨.document, document.range⟩, []⟩], Builtin.register {}⟩

/-- What the rounds keep up from one declaration to the next: one invariant until the signatures are registered, and
from then on one that may name the symbols there are by then. -/
structure KeepsUp (document : Document) (allowed : Incident → Prop) (early : Env → Prop) (late : Symbols → Env → Prop)
    (good : Symbols → Decl → TypedDecl → Prop) : Prop where
  start : early document.opened
  types : ∀ {declaration env typed after}, declaration.round = .enums ∨ declaration.round = .layouts → early env →
    Yields allowed (declaration.check env) (typed, after) → early after ∧ ∀ symbols, good symbols declaration typed
  signatures : ∀ {env signed}, early env → (collectSignatures env document.declarations).value = signed →
    Noted.Within allowed (collectSignatures env document.declarations) → late signed.symbols signed
  globals : ∀ {symbols declaration env typed after}, declaration.round = .globals → late symbols env →
    Yields allowed (declaration.check env) (typed, after) → late symbols after ∧ good symbols declaration typed
  bodies : ∀ {symbols declaration env typed after}, declaration ∈ document.declarations → declaration.round = .bodies →
    late symbols env → Yields allowed (declaration.check env) (typed, after) →
    late symbols after ∧ good symbols declaration typed

/-- What the rounds keep up as long as the facts of the variables and functions are fine. -/
structure KeepsUpIf (document : Document) (allowed : Incident → Prop) (fine : TypedDecl → Prop) (early : Env → Prop)
    (late : Symbols → Env → Prop) (good : Symbols → Decl → TypedDecl → Prop) : Prop where
  start : early document.opened
  types : ∀ {declaration env typed after}, declaration.round = .enums ∨ declaration.round = .layouts → early env →
    Yields allowed (declaration.check env) (typed, after) → early after ∧ ∀ symbols, good symbols declaration typed
  signatures : ∀ {env signed}, early env → (collectSignatures env document.declarations).value = signed →
    Noted.Within allowed (collectSignatures env document.declarations) → late signed.symbols signed
  globals : ∀ {symbols declaration env typed after}, declaration.round = .globals → fine typed → late symbols env →
    Yields allowed (declaration.check env) (typed, after) → late symbols after ∧ good symbols declaration typed
  bodies : ∀ {symbols declaration env typed after}, declaration ∈ document.declarations → declaration.round = .bodies →
    fine typed → late symbols env → Yields allowed (declaration.check env) (typed, after) →
    late symbols after ∧ good symbols declaration typed

theorem KeepsUpIf.effect {document : Document} {allowed : Incident → Prop} {fine : TypedDecl → Prop}
    {early : Env → Prop} {late : Symbols → Env → Prop} {good : Symbols → Decl → TypedDecl → Prop}
    (keeps : document.KeepsUpIf allowed fine early late good) {typed : TypedDocument} {after : Env}
    (yields : Yields allowed (document.effect {}) (typed, after)) (fits : ∀ one ∈ typed.declarations, fine one) :
    ∃ symbols, late symbols after ∧ List.Forall₂ (good symbols) document.declarations typed.declarations := by
  simp only [Document.effect, yields_bind, yields_pure, yields_of, yields_lift] at yields
  obtain ⟨_, ⟨⟩, ⟨enums, env₁⟩, first, ⟨layouts, env₂⟩, second, env₃, ⟨signed, within⟩, ⟨globals, env₄⟩, third,
    ⟨bodies, env₅⟩, fourth, ⟨⟩⟩ := yields
  -- The types are judged by symbols that are not there yet: no later round changes those after the signatures.
  obtain ⟨held, types⟩ : early env₁ ∧ List.Forall₂ (Slot.Advances .enums (good env₃.symbols)) _ enums :=
    checkRound_advances (fun _ _ due _ _ _ held yields =>
      (keeps.types (.inl due) held yields).imp_right fun fine => fine _) keeps.start first
  obtain ⟨held, records⟩ : early env₂ ∧ List.Forall₂ (Slot.Advances .layouts (good env₃.symbols)) enums layouts :=
    checkRound_advances (fun _ _ due _ _ _ held yields =>
      (keeps.types (.inr due) held yields).imp_right fun fine => fine _) held second
  have held := keeps.signatures held signed within
  have fit : ∀ slot ∈ bodies, ∀ one ∈ slot.typed, fine one :=
    fun slot member one given => fits one (List.mem_filterMap.mpr ⟨slot, member, given⟩)
  obtain ⟨held, stored⟩ : late env₃.symbols env₄
      ∧ List.Forall₂ (Slot.Advances .globals (good env₃.symbols)) layouts globals := by
    refine checkRound_advancesIf (fun _ _ due _ _ _ fit held yields => keeps.globals due fit held yields) held third ?_
    -- What a variable was given is still there after the bodies.
    exact fun slot member due => fit slot (mem_of_checkRound fourth member (by rw [due]; decide))
  have written : globals.map (·.declaration) = document.declarations := by
    rw [declaration_of_advances stored, declaration_of_advances records, declaration_of_advances types, List.map_map]
    exact List.map_id _
  obtain ⟨held, functions⟩ : late env₃.symbols env₅
      ∧ List.Forall₂ (Slot.Advances .bodies (good env₃.symbols)) globals bodies := by
    refine checkRound_advancesIf (fun slot member due _ _ _ fit held yields => ?_) held fourth
      fun slot member _ => fit slot member
    exact keeps.bodies (written ▸ List.mem_map_of_mem member) due fit held yields
  exact ⟨env₃.symbols, held, forall₂_of_rounds types records stored functions⟩

theorem KeepsUp.effect {document : Document} {allowed : Incident → Prop} {early : Env → Prop}
    {late : Symbols → Env → Prop} {good : Symbols → Decl → TypedDecl → Prop}
    (keeps : document.KeepsUp allowed early late good) {typed : TypedDocument} {after : Env}
    (yields : Yields allowed (document.effect {}) (typed, after)) :
    ∃ symbols, late symbols after ∧ List.Forall₂ (good symbols) document.declarations typed.declarations := by
  have always : document.KeepsUpIf allowed (fun _ => True) early late good :=
    ⟨keeps.start, keeps.types, keeps.signatures, fun due _ => keeps.globals due,
      fun member due _ => keeps.bodies member due⟩
  exact always.effect yields fun _ _ => trivial

theorem check_body_env {allowed : Incident → Prop} {declaration : Decl} (due : declaration.round = .bodies)
    {env after : Env} {typed : TypedDecl} (yields : Yields allowed (declaration.check env) (typed, after)) :
    after = env := by
  cases declaration with
  | function declaration =>
    simp only [Decl.check, yields_bind, yields_pure] at yields
    obtain ⟨_, -, ⟨⟩⟩ := yields
    rfl
  | _ => cases due

theorem checkRound_bodies_env {allowed : Incident → Prop} {slots later : List Slot} {env after : Env}
    (yields : Yields allowed (checkRound .bodies slots env) (later, after)) : after = env := by
  refine (@checkRound_advances allowed .bodies (· = env) (fun _ _ => True) slots later env after ?_ rfl yields).1
  rintro slot - due _ one after rfl ran
  exact ⟨check_body_env due ran, trivial⟩

/-- Bodies leave what is in force as it is, so each is checked where everything is that is left in the end. -/
theorem effect_bodies {document : Document} {allowed : Incident → Prop} {typed : TypedDocument} {after : Env}
    (yields : Yields allowed (document.effect {}) (typed, after)) :
    List.Forall₂ (fun declaration one => declaration.round = .bodies →
      Yields allowed (declaration.check after) (one, after)) document.declarations typed.declarations := by
  simp only [Document.effect, yields_bind, yields_pure, yields_of, yields_lift] at yields
  obtain ⟨_, ⟨⟩, ⟨enums, env₁⟩, first, ⟨layouts, env₂⟩, second, env₃, -, ⟨globals, env₄⟩, third,
    ⟨bodies, env₅⟩, fourth, ⟨⟩⟩ := yields
  obtain rfl : env₅ = env₄ := checkRound_bodies_env fourth
  have last : List.Forall₂ (Slot.Advances .bodies fun declaration one => declaration.round = .bodies →
      Yields allowed (declaration.check env₅) (one, env₅)) globals bodies := by
    refine (@checkRound_advances allowed .bodies (· = env₅) _ globals bodies env₅ env₅ ?_ rfl fourth).2
    rintro slot - due _ one after rfl ran
    obtain rfl := check_body_env due ran
    exact ⟨rfl, fun _ => ran⟩
  exact forall₂_of_rounds (checkRound_waits (by decide) first) (checkRound_waits (by decide) second)
    (checkRound_waits (by decide) third) last

/-- Each global is checked on the way to what is left in the end, by way of the globals behind it. -/
theorem effect_leads {document : Document} {allowed : Incident → Prop} (leads : Env → Env → Prop)
    (ends : ∀ env, leads env env)
    (one : ∀ {declaration : Decl} {env typed middle last}, declaration.round = .globals →
      Yields allowed (declaration.check env) (typed, middle) → leads middle last → leads env last)
    {typed : TypedDocument} {after : Env} (yields : Yields allowed (document.effect {}) (typed, after)) :
    List.Forall₂ (fun declaration one => declaration.round = .globals → ∃ before middle,
      Yields allowed (declaration.check before) (one, middle) ∧ leads middle after)
      document.declarations typed.declarations := by
  simp only [Document.effect, yields_bind, yields_pure, yields_of, yields_lift] at yields
  obtain ⟨_, ⟨⟩, ⟨enums, env₁⟩, first, ⟨layouts, env₂⟩, second, env₃, -, ⟨globals, env₄⟩, third,
    ⟨bodies, env₅⟩, fourth, ⟨⟩⟩ := yields
  obtain rfl : env₅ = env₄ := checkRound_bodies_env fourth
  exact forall₂_of_rounds (checkRound_waits (by decide) first) (checkRound_waits (by decide) second)
    (checkRound_passes ends one third).2 (checkRound_waits (by decide) fourth)

end Document

end ShaderCheck
