import ShaderCheck.Proofs.FlowSoundness
import ShaderCheck.Proofs.Redeclaration

/-!
How the uses of a type depend on one another. What can be shared with the host can be constructed, what can be
constructed can be stored, and what can be stored is plain and has a fixed size. Each sort of type tells its uses anew,
from those of its element or its members, so this is an invariant of all the ways to make a type of others.

Global variables rely on it. One that is shared with the host is not asked whether it can be stored.
-/

namespace ShaderCheck

open Noted Attempt

/-- Each use of a type comes with those that it needs. -/
structure Traits.Ordered (traits : Traits) : Prop where
  shared : traits.hostShareable = true → traits.constructible = true ∧ traits.concrete = true
  constructed : traits.constructible = true → traits.storable = true
  stored : traits.storable = true → traits.fixedFootprint = true ∧ traits.plain = true
  scalar : traits.scalar = true → traits.storable = true ∧ traits.composite = false
  indexed : traits.indexable = true → traits.composite = true

namespace Traits

theorem Ordered.ofElement {element : Traits} (ordered : element.Ordered) : (Traits.ofElement element).Ordered where
  shared := ordered.shared
  constructed := ordered.constructed
  stored _ := ⟨rfl, rfl⟩
  scalar := nofun
  indexed _ := rfl

theorem Ordered.ofMembers {members : List Traits} (ordered : ∀ member ∈ members, member.Ordered) :
    (Traits.ofMembers members).Ordered where
  shared all := ⟨all_of_all (fun member listed shared => ((ordered member listed).shared shared).1) all, rfl⟩
  constructed := all_of_all fun member listed => (ordered member listed).constructed
  stored all :=
    ⟨all_of_all (fun member listed stored => ((ordered member listed).stored stored).1) all,
      all_of_all (fun member listed stored => ((ordered member listed).stored stored).2) all⟩
  scalar := nofun
  indexed := nofun

theorem Ordered.storable_of_hostShareable {traits : Traits} (ordered : traits.Ordered)
    (shared : traits.hostShareable = true) : traits.storable = true :=
  ordered.constructed (ordered.shared shared).1

end Traits

namespace Ty

mutual

theorem traits_ordered : (ty : Ty) → ty.traits.Ordered
  | .invalid | .void | .string | .pointer _ _ => ⟨nofun, nofun, nofun, nofun, nofun⟩
  | .bool => ⟨nofun, fun _ => rfl, fun _ => ⟨rfl, rfl⟩, fun _ => ⟨rfl, rfl⟩, nofun⟩
  | .numeric _ => ⟨fun concrete => ⟨rfl, concrete⟩, fun _ => rfl, fun _ => ⟨rfl, rfl⟩, fun _ => ⟨rfl, rfl⟩, nofun⟩
  | .vector _ element => .ofElement (traits_ordered element)
  | .matrix _ _ element => .ofElement (traits_ordered element)
  | .enumeration _ underlying =>
    have inner := traits_ordered underlying
    ⟨nofun, nofun, fun stored => ⟨(inner.stored stored).1, rfl⟩, fun scalar => ⟨(inner.scalar scalar).1, rfl⟩, nofun⟩
  | .struct _ members => .ofMembers (memberTraits_ordered members)
termination_by structural ty => ty

theorem memberTraits_ordered : (members : List (String × Ty)) → ∀ traits ∈ memberTraits members, traits.Ordered
  | [] => nofun
  | (_, ty) :: rest => List.forall_mem_cons.mpr ⟨traits_ordered ty, memberTraits_ordered rest⟩
termination_by structural members => members

end

end Ty

namespace VariableDecl

variable {allowed : Incident → Prop} {env : Env} {declaration : VariableDecl}

/-- Whatever a global variable is, it is asked at last whether it can be where it is. -/
theorem globalBinding_placed (within : Within allowed (declaration.globalBinding env)) :
    let binding := (declaration.globalBinding env).value.1
    Within allowed (checkPlacement ⟨.globalVariable, declaration.range⟩ binding.name binding.constness binding.space
      binding.ty) := by
  unfold globalBinding at *
  split
  case h_1 kind known =>
    simp only [known, within_bind, value_bind, value_pure] at within ⊢
    obtain ⟨-, -, -, rest⟩ := within
    split
    case isTrue outside =>
      simp only [outside, if_true, within_bind] at rest
      exact rest.2.1
    case isFalse inside =>
      rw [if_neg inside, within_bind, within_bind] at rest
      exact rest.2.1
  case h_2 unknown =>
    simp only [unknown, within_bind, value_bind, value_pure] at within ⊢
    obtain ⟨-, -, -, -, rest⟩ := within
    rw [if_neg (by decide), within_bind, within_bind] at rest
    exact rest.2.1

/-- Where a variable is shared with the host, that is all it is asked for. -/
theorem shared_of_checkPlacement {node : NodeRef} {name : String} {constness : Constness} {space : AddressSpace}
    {ty : Ty} (visible : space = .uniform ∨ space = .storage)
    (within : Within allowed (checkPlacement node name constness space ty)) :
    ty = .invalid ∨ ty.traits.hostShareable = true ∨ allowed ⟨.notHostShareable ty name, some node⟩ := by
  have asked : Within allowed
      (expect (ty.isInvalid || ty.traits.hostShareable) node (.notHostShareable ty name)) := by
    obtain rfl | rfl := visible <;> exact within
  rw [within_expect] at asked
  cases shared : ty.traits.hostShareable with
  | true => exact .inr (.inl rfl)
  | false =>
    rw [shared, Bool.or_false] at asked
    cases ty with
    | invalid => exact .inl rfl
    | _ => exact .inr (.inr (asked rfl))

end VariableDecl

namespace Document

variable {document : Document} {allowed : Incident → Prop} {typed : TypedDocument} {after : Env}

/-- What holds of each global variable as it is declared holds of those in the checked document. Something may be kept
up for it from one declaration to the next. -/
theorem effect_globals (early late : Env → Prop) {good : TypedVariable → Prop} (start : early document.opened)
    (types : ∀ {declaration : Decl} {env typed after}, declaration.round = .enums ∨ declaration.round = .layouts →
      early env → Yields allowed (declaration.check env) (typed, after) → early after)
    (signatures : ∀ {env : Env}, early env → Within allowed (collectSignatures env document.declarations) →
      late (collectSignatures env document.declarations).value)
    (declares : ∀ {declaration : VariableDecl} {env v after}, late env →
      Yields allowed (declaration.checkGlobal env) (.variable v, after) → late after ∧ good v)
    (yields : Yields allowed (document.effect {}) (typed, after)) :
    ∀ v, TypedDecl.variable v ∈ typed.declarations → good v := by
  have keeps : document.KeepsUp allowed early (fun _ => late) fun _ _ one => ∀ v, one = .variable v → good v :=
    { start
      types := by
        refine fun due held ran => ⟨types due held ran, ?_⟩
        rintro _ v rfl
        cases (Decl.check_type_keeps due ran).2.2
      signatures := fun held signed within => signed ▸ signatures held within
      globals := by
        intro _ declaration env one after due held ran
        cases declaration with
        | «variable» declaration =>
          obtain ⟨_, _, rfl, -⟩ := VariableDecl.checkGlobal_yields ran
          obtain ⟨held, fine⟩ := declares held ran
          refine ⟨held, ?_⟩
          rintro _ ⟨⟩
          exact fine
        | _ => cases due
      bodies := by
        intro _ declaration env one after _ due held ran
        refine ⟨check_body_env due ran ▸ held, ?_⟩
        cases declaration with
        | function declaration =>
          simp only [Decl.check, yields_bind, yields_pure] at ran
          obtain ⟨_, checked, ⟨⟩⟩ := ran
          cases FunctionDecl.outcome_of_yields checked <;> rintro _ ⟨⟩
        | _ => cases due }
  intro v declared
  obtain ⟨-, -, each⟩ := keeps.effect yields
  obtain ⟨_, -, fine⟩ := exists_of_forall₂ each.flip _ declared
  exact fine v rfl

/-- A global variable that is shared with the host can be shared, unless it is reported or invalid. -/
theorem effect_shared (yields : Yields allowed (document.effect {}) (typed, after)) :
    ∀ v, TypedDecl.variable v ∈ typed.declarations → v.binding.space = .uniform ∨ v.binding.space = .storage →
      v.binding.ty = .invalid ∨ v.binding.ty.traits.hostShareable = true
        ∨ allowed ⟨.notHostShareable v.binding.ty v.binding.name, some ⟨.globalVariable, v.range⟩⟩ := by
  refine effect_globals (fun _ => True) (fun _ => True) trivial (fun _ _ _ => trivial) (fun _ _ => trivial)
    (fun _ ran => ⟨trivial, fun visible => ?_⟩) yields
  simp only [VariableDecl.checkGlobal, yields_bind, yields_pure, yields_lift] at ran
  obtain ⟨_, ⟨rfl, within⟩, _, -, ⟨⟩⟩ := ran
  exact VariableDecl.shared_of_checkPlacement visible (VariableDecl.globalBinding_placed within)

/-- Where nothing is reported, no global variable is invalid. -/
theorem effect_globals_whole (yields : Yields noIncident (document.effect {}) (typed, after)) :
    ∀ v, TypedDecl.variable v ∈ typed.declarations → v.binding.ty.Whole := by
  refine effect_globals Env.Whole Env.Whole document.opened_whole
    (fun due whole ran => (Decl.check_type_sound due whole ran).1) (fun {env} whole quiet => ?_)
    (fun {declaration env v after} whole ran => ?_) yields
  · refine ⟨?_, collectSignatures_whole whole.symbols _ quiet⟩
    rw [(collectSignatures_adds env document.declarations).2.1]
    exact whole.bindings
  · obtain ⟨binding, initializer, ⟨⟩, bound, declared⟩ := VariableDecl.checkGlobal_yields ran
    have sound : TypedVariable.Sound ⟨declaration.range, binding, initializer⟩ := bound.sound whole
    exact ⟨whole.declare sound.type declared, sound.type⟩

/-- The uses of every type are ordered. So a global variable that is shared with the host can be stored although only
the sharing is looked at, except one that is reported for it, or that is invalid in a document with reports. -/
theorem check_shared_storable :
    (∀ ty : Ty, ty.traits.Ordered)
    ∧ ∀ (document : Document) (typed : TypedDocument) (context : Context),
      document.check.run {} = (.ok typed, context) →
      ∀ v, TypedDecl.variable v ∈ typed.declarations → v.binding.space = .uniform ∨ v.binding.space = .storage →
        v.binding.ty.traits.hostShareable = true ∧ v.binding.ty.traits.storable = true
        ∨ v.binding.ty = .invalid ∧ context.incidents ≠ []
        ∨ ⟨.notHostShareable v.binding.ty v.binding.name, some ⟨.globalVariable, v.range⟩⟩ ∈ context.incidents := by
  refine ⟨Ty.traits_ordered, fun document typed context ran v declared visible => ?_⟩
  have yields := document.check_does.yields ran fun incident reported => reported
  obtain invalid | shared | reported := effect_shared yields v declared visible
  · refine .inr (.inl ⟨invalid, fun silent => ?_⟩)
    have quiet : Yields noIncident (document.effect {}) (typed, context.env) :=
      document.check_does.yields ran (by simp [silent])
    exact (effect_globals_whole quiet v declared).ne_invalid invalid
  · exact .inl ⟨shared, (Ty.traits_ordered _).storable_of_hostShareable shared⟩
  · exact .inr (.inr reported)

def lit : Document :=
  let span (line : UInt32) : Span := ⟨⟨line, 1⟩, ⟨line, 9⟩⟩
  let type (line : UInt32) (name : String) (arguments : List TypeRef) : TypeRef := .mk (span line) name arguments
  { range := span 1
    declarations := [
      .struct ⟨span 1, "Light", [⟨span 2, "way", type 2 "vec3" [type 2 "f32" []]⟩, ⟨span 3, "power", type 3 "f32" []⟩]⟩,
      .variable ⟨span 4, "uniform", "light", some (type 4 "Light" []), none⟩,
      .variable ⟨span 5, "storage", "dimmed", some (type 5 "bool" []), none⟩] }

theorem lit_shared_storable :
    ∃ typed context v, lit.check.run {} = (.ok typed, context)
      ∧ TypedDecl.variable v ∈ typed.declarations
      ∧ (v.binding.name = "light" ∧ v.binding.space = .uniform)
      ∧ context.incidents.map (·.cause) = [.notHostShareable .bool "dimmed"]
      ∧ v.binding.ty.traits.storable = true := by
  have reported : (lit.check.run {}).2.incidents.map (·.cause) = [.notHostShareable .bool "dimmed"] := by
    decide +kernel
  have bound : (lit.check.run {}).1.toOption.bind
      (fun typed => (typed.declarations.filterMap TypedDecl.global?).head?.map fun v =>
        (v.binding.name, v.binding.space, v.binding.ty.isInvalid)) = some ("light", .uniform, false) := by
    decide +kernel
  cases ran : lit.check.run {} with
  | mk result context =>
    rw [ran] at reported bound
    cases result with
    | error => cases bound
    | ok typed =>
      obtain ⟨v, first, facts⟩ := Option.map_eq_some_iff.mp bound
      obtain ⟨name, space, valid⟩ :
          v.binding.name = "light" ∧ v.binding.space = .uniform ∧ v.binding.ty.isInvalid = false := by
        simpa using facts
      have declared : TypedDecl.variable v ∈ typed.declarations := by
        obtain ⟨one, member, found⟩ := List.mem_filterMap.mp (List.mem_of_mem_head? first)
        cases one <;> cases found
        exact member
      refine ⟨typed, context, v, rfl, declared, ⟨name, space⟩, reported, ?_⟩
      obtain ⟨-, stored⟩ | ⟨invalid, -⟩ | refused :=
        check_shared_storable.2 lit typed context ran v declared (.inl space)
      · exact stored
      · rw [invalid] at valid
        cases valid
      · have caused := List.mem_map_of_mem (f := Incident.cause) refused
        rw [reported] at caused
        simp [name] at caused

end Document

end ShaderCheck
