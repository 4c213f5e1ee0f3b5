import ShaderCheck.Proofs.CastOrder
import ShaderCheck.Proofs.Lists
import ShaderCheck.Symbol.Overload

/-!
What a call resolves to, said without the search: the first header that is acceptable, with each generic bound to
what is written for it or to the first of the widest arguments that are passed for it.

The search folds the arguments of a generic into one type and never compares them with each other. That comes
to the same as comparing all pairs, since the types below a type form a chain.
-/

namespace ShaderCheck

namespace Overload

/-- The first of the widest of some types: those before it are narrower, and those after it not wider. -/
def IsWidest (types : List Ty) (wide : Ty) : Prop :=
  ∃ before after, types = before ++ wide :: after
    ∧ (∀ ty ∈ before, Ty.Casts ty wide ∧ ¬ Ty.Casts wide ty) ∧ ∀ ty ∈ after, Ty.Casts ty wide

def Related (types : List Ty) : Prop := types.Pairwise fun a b => a.mutuallyCasts b = true

namespace IsWidest

variable {types : List Ty} {wide ty : Ty}

theorem single (ty : Ty) : IsWidest [ty] ty := ⟨[], [], rfl, by simp, by simp⟩

theorem mem (widest : IsWidest types wide) : wide ∈ types := by
  obtain ⟨before, after, rfl, -, -⟩ := widest
  simp

/-- Every type but the widest itself casts into it. -/
theorem casts_or_eq (widest : IsWidest types wide) (member : ty ∈ types) : ty = wide ∨ Ty.Casts ty wide := by
  obtain ⟨before, after, rfl, narrower, below⟩ := widest
  simp only [List.mem_append, List.mem_cons] at member
  obtain earlier | same | later := member
  · exact .inr (narrower ty earlier).1
  · exact .inl same
  · exact .inr (below ty later)

/-- The widest type stands for all: what is related to it is related to each. -/
theorem related_iff (widest : IsWidest types wide) :
    wide.mutuallyCasts ty = true ↔ ∀ other ∈ types, other.mutuallyCasts ty = true := by
  constructor
  · intro related other member
    obtain rfl | below := widest.casts_or_eq member
    · exact related
    · rw [Ty.mutuallyCasts_iff] at related ⊢
      obtain up | down := related
      · exact .inl (below.trans up)
      · exact below.total down
  · intro all
    exact all wide widest.mem

/-- One more type that is related to the widest leaves it or takes its place. -/
theorem step (widest : IsWidest types wide) (related : wide.mutuallyCasts ty = true) :
    IsWidest (types ++ [ty]) (wide.common ty) := by
  obtain ⟨kept, below⟩ | ⟨wider, up, strict⟩ := Ty.common_cases related
  · obtain ⟨before, after, rfl, narrower, others⟩ := widest
    rw [kept]
    refine ⟨before, after ++ [ty], by simp, narrower, ?_⟩
    intro other member
    rw [List.mem_append, List.mem_singleton] at member
    obtain member | rfl := member
    · exact others other member
    · exact below
  · rw [wider]
    refine ⟨types, [], by simp, ?_, by simp⟩
    intro other member
    obtain rfl | below := widest.casts_or_eq member
    · exact ⟨up, strict⟩
    · exact ⟨below.trans up, fun back => strict (back.trans below)⟩

theorem unique {other : Ty} (first : IsWidest types wide) (second : IsWidest types other) :
    wide = other := by
  obtain ⟨before, after, split, narrower, below⟩ := first
  obtain ⟨before', after', split', narrower', below'⟩ := second
  rw [split] at split'
  -- The one that stands first is wider than what follows, and narrower than the other if that stands later.
  obtain ⟨middle, rfl, rest⟩ | ⟨middle, rfl, rest⟩ := List.append_eq_append_iff.mp split'
  · cases middle with
    | nil => simpa using (List.cons.inj rest).1
    | cons head tail =>
      obtain ⟨rfl, rfl⟩ := List.cons.inj rest
      exact absurd (below other (by simp)) (narrower' wide (by simp)).2
  · cases middle with
    | nil => simpa using (List.cons.inj rest).1.symm
    | cons head tail =>
      obtain ⟨rfl, rfl⟩ := List.cons.inj rest
      exact absurd (below' wide (by simp)) (narrower other (by simp)).2

end IsWidest

def widen (wide ty : Ty) : Option Ty := if wide.mutuallyCasts ty then some (wide.common ty) else none

theorem widest?_cons (first : Ty) (rest : List Ty) : widest? (first :: rest) = rest.foldlM widen first := rfl

/-- The fold goes through exactly if all types, those before it included, are related. -/
theorem foldlM_widen_isSome {seen : List Ty} {wide : Ty} (widest : IsWidest seen wide) (related : Related seen)
    (rest : List Ty) : (rest.foldlM widen wide).isSome ↔ Related (seen ++ rest) := by
  induction rest generalizing seen wide with
  | nil => simpa using related
  | cons ty rest ih =>
    rw [List.append_cons]
    by_cases next : wide.mutuallyCasts ty = true
    · have more : Related (seen ++ [ty]) := by
        refine List.pairwise_append.mpr ⟨related, List.pairwise_singleton _ _, ?_⟩
        simpa using widest.related_iff.mp next
      simpa [widen, next] using ih (widest.step next) more
    · have stuck : ¬ Related (seen ++ [ty] ++ rest) := by
        intro all
        have pairs := (List.pairwise_append.mp (List.pairwise_append.mp all).1).2.2
        exact next (pairs wide widest.mem ty (by simp))
      simpa [widen, next] using stuck

theorem foldlM_widen_isWidest {seen : List Ty} {wide found : Ty} (widest : IsWidest seen wide)
    {rest : List Ty} (done : rest.foldlM widen wide = some found) : IsWidest (seen ++ rest) found := by
  induction rest generalizing seen wide with
  | nil =>
    obtain rfl : wide = found := by simpa using done
    simpa using widest
  | cons ty rest ih =>
    by_cases next : wide.mutuallyCasts ty = true
    · rw [List.append_cons]
      exact ih (widest.step next) (by simpa [widen, next] using done)
    · simp [widen, next] at done

/-- Folding finds a widest type exactly for types that are pairwise related. -/
theorem widest?_isSome {types : List Ty} : (widest? types).isSome ↔ types ≠ [] ∧ Related types := by
  cases types with
  | nil => simp [widest?]
  | cons first rest =>
    rw [widest?_cons, foldlM_widen_isSome (.single first) (List.pairwise_singleton _ _)]
    simp

/-- A widest type makes the others related, so that folding finds it. -/
theorem IsWidest.related {types : List Ty} {wide : Ty} (widest : IsWidest types wide) : Related types := by
  obtain ⟨before, after, rfl, narrower, below⟩ := widest
  have chain : ∀ {some others : List Ty}, (∀ ty ∈ some, Ty.Casts ty wide) →
      (∀ ty ∈ others, Ty.Casts ty wide) → ∀ a ∈ some, ∀ b ∈ others, a.mutuallyCasts b = true :=
    fun left right a first b second => Ty.mutuallyCasts_iff.mpr ((left a first).total (right b second))
  have pairs : ∀ {list : List Ty}, (∀ ty ∈ list, Ty.Casts ty wide) → Related list :=
    fun all => List.pairwise_of_forall_mem_list (chain all all)
  have narrow := fun ty member => (narrower ty member).1
  refine List.pairwise_append.mpr ⟨pairs narrow, List.pairwise_cons.mpr ⟨?_, pairs below⟩, ?_⟩
  · exact fun ty member => Ty.mutuallyCasts_iff.mpr (.inr (below ty member))
  · intro a first b second
    obtain rfl | second := List.mem_cons.mp second
    · exact Ty.mutuallyCasts_iff.mpr (.inl (narrow a first))
    · exact chain narrow below a first b second

theorem widest?_eq_some_iff {types : List Ty} {wide : Ty} :
    widest? types = some wide ↔ IsWidest types wide := by
  have sound : ∀ {found}, widest? types = some found → IsWidest types found := by
    intro found done
    cases types with
    | nil => simp [widest?] at done
    | cons first rest => exact foldlM_widen_isWidest (.single first) done
  refine ⟨sound, fun widest => ?_⟩
  have nonempty : types ≠ [] := List.ne_nil_of_mem widest.mem
  obtain ⟨found, done⟩ := Option.isSome_iff_exists.mp (widest?_isSome.mpr ⟨nonempty, widest.related⟩)
  rw [done, (sound done).unique widest]

/-- A call writes a type for a generic: it stands where the last generic of that name does. -/
def Written (header : Header) (explicit : List Ty) (name : String) (ty : Ty) : Prop :=
  ∃ before after, (header.generics.map (·.name)).zip explicit = before ++ (name, ty) :: after
    ∧ ∀ entry ∈ after, entry.1 ≠ name

/-- A generic stands for a type that has one of its tags, or without restrictions for any that is valid. -/
def Admits (generic : Generic) (ty : Ty) : Prop :=
  match generic.restrictions with
  | none => ty ≠ .invalid
  | some tags => ∃ tag ∈ ty.tags, tag ∈ tags

/-- A parameter takes an argument, as far as it can be said of this argument alone. -/
inductive Takes (header : Header) (explicit : List Ty) : HeaderType → Ty → Prop where
  | concrete {ty argument : Ty} (cast : argument.castsTo ty = true) :
      Takes header explicit (.concrete ty) argument
  | written {name : String} {ty argument : Ty} (bound : Written header explicit name ty)
      (cast : argument.castsTo ty = true) : Takes header explicit (.generic name) argument
  | inferred {name : String} {generic : Generic} {argument : Ty}
      (unbound : ∀ ty, ¬ Written header explicit name ty) (known : header.generic? name = some generic)
      (allowed : Admits generic argument) : Takes header explicit (.generic name) argument

/-- A header can be called with some arguments and some generics written out. -/
structure Acceptable (header : Header) (arguments : List Argument) (explicit : List Ty) : Prop where
  arity : header.parameters.length = arguments.length
  complete : explicit ≠ [] → header.generics.length = explicit.length
  fits : ∀ pair ∈ header.parameters.zip arguments, Takes header explicit pair.1.type pair.2.ty
  /-- Any two arguments for a generic that is not written out go together. -/
  agree : ∀ name, (∀ ty, ¬ Written header explicit name ty) →
    (header.parameters.zip arguments).Pairwise fun first second =>
      first.1.type = .generic name → second.1.type = .generic name →
        first.2.ty.mutuallyCasts second.2.ty = true

theorem written?_eq_some_iff {header : Header} {explicit : List Ty} {name : String} {ty : Ty} :
    written? header explicit name = some ty ↔ Written header explicit name ty := by
  unfold written? Written
  rw [List.lookup_eq_some_iff]
  constructor
  · rintro ⟨after, before, split, others⟩
    refine ⟨before.reverse, after.reverse, ?_, ?_⟩
    · simpa using congrArg List.reverse split
    · intro entry member same
      simpa [same] using others entry (List.mem_reverse.mp member)
  · rintro ⟨before, after, split, others⟩
    refine ⟨after.reverse, before.reverse, by simp [split], ?_⟩
    intro entry member
    have different := others entry (List.mem_reverse.mp member)
    simpa using different.symm

theorem written?_eq_none_iff {header : Header} {explicit : List Ty} {name : String} :
    written? header explicit name = none ↔ ∀ ty, ¬ Written header explicit name ty := by
  simp only [Option.eq_none_iff_forall_ne_some, ne_eq, written?_eq_some_iff]

theorem allows_iff {generic : Generic} {ty : Ty} : generic.allows ty = true ↔ Admits generic ty := by
  unfold Generic.allows Admits
  cases generic.restrictions with
  | none => cases ty <;> simp [Ty.isInvalid]
  | some tags => simp

theorem accepts_iff {header : Header} {explicit : List Ty} {type : HeaderType} {argument : Ty} :
    accepts header explicit type argument = true ↔ Takes header explicit type argument := by
  constructor
  · intro accepted
    cases type with
    | concrete ty => exact .concrete accepted
    | generic name =>
      cases found : written? header explicit name with
      | some ty =>
        simp only [accepts, found] at accepted
        exact .written (written?_eq_some_iff.mp found) accepted
      | none =>
        simp only [accepts, found, Option.any_eq_true] at accepted
        obtain ⟨generic, known, allowed⟩ := accepted
        exact .inferred (written?_eq_none_iff.mp found) known (allows_iff.mp allowed)
  · intro takes
    cases takes with
    | concrete cast => exact cast
    | written bound cast => simp [accepts, written?_eq_some_iff.mpr bound, cast]
    | inferred unbound known allowed =>
      simp [accepts, written?_eq_none_iff.mpr unbound, known, allows_iff.mpr allowed]

section Filling

variable {header : Header} {arguments : List Argument} {explicit : List Ty}

/-- A call binds a generic to a type: the one it writes, or the first of the widest it passes. -/
def Binds (header : Header) (arguments : List Argument) (explicit : List Ty) (name : String) (ty : Ty) :
    Prop :=
  Written header explicit name ty
    ∨ (∀ other, ¬ Written header explicit name other) ∧ IsWidest (passedFor header arguments name) ty

inductive StandsFor (header : Header) (arguments : List Argument) (explicit : List Ty) :
    HeaderType → Ty → Prop where
  | concrete (ty : Ty) : StandsFor header arguments explicit (.concrete ty) ty
  | generic {name : String} {ty : Ty} (bound : Binds header arguments explicit name ty) :
      StandsFor header arguments explicit (.generic name) ty

/-- The type of a call, unless it is a generic that the call does not bind. -/
inductive ReturnsAs (header : Header) (arguments : List Argument) (explicit : List Ty) : Returned → Prop where
  | resolved {ty : Ty} (stands : StandsFor header arguments explicit header.returns ty) :
      ReturnsAs header arguments explicit (.resolved ty)
  | unbound {name : String} (declared : header.returns = .generic name)
      (free : ∀ ty, ¬ Binds header arguments explicit name ty) :
      ReturnsAs header arguments explicit (.unbound name)

theorem bound?_eq_some_iff {name : String} {ty : Ty} :
    bound? header arguments explicit name = some ty ↔ Binds header arguments explicit name ty := by
  unfold bound? Binds
  cases found : written? header explicit name with
  | some written =>
    have bound := written?_eq_some_iff.mp found
    have only : ∀ {other}, Written header explicit name other ↔ written = other := by
      intro other
      rw [← written?_eq_some_iff, found, Option.some.injEq]
    constructor
    · intro same
      exact .inl (only.mpr (Option.some.inj same))
    · rintro (given | ⟨unbound, -⟩)
      · exact congrArg some (only.mp given)
      · exact absurd bound (unbound written)
  | none =>
    have unbound := written?_eq_none_iff.mp found
    simp only [widest?_eq_some_iff]
    constructor
    · exact fun widest => .inr ⟨unbound, widest⟩
    · rintro (given | ⟨-, widest⟩)
      · exact absurd given (unbound ty)
      · exact widest

theorem instantiate?_eq_some_iff {type : HeaderType} {ty : Ty} :
    instantiate? header arguments explicit type = some ty
      ↔ StandsFor header arguments explicit type ty := by
  cases type with
  | concrete declared =>
    constructor
    · intro same
      cases same
      exact .concrete _
    · rintro ⟨⟩
      rfl
  | generic name =>
    constructor
    · exact fun bound => .generic (bound?_eq_some_iff.mp bound)
    · rintro ⟨⟩
      exact bound?_eq_some_iff.mpr ‹_›

theorem mem_passedFor {name : String} {ty : Ty} :
    ty ∈ passedFor header arguments name ↔ ∃ pair ∈ header.parameters.zip arguments,
      pair.1.type = .generic name ∧ pair.2.ty = ty := by
  simp only [passedFor, List.mem_filterMap, Prod.exists, Option.ite_none_right_eq_some, Option.some.injEq]

theorem related_passedFor {name : String} :
    Related (passedFor header arguments name) ↔
      (header.parameters.zip arguments).Pairwise fun first second =>
        first.1.type = .generic name → second.1.type = .generic name →
          first.2.ty.mutuallyCasts second.2.ty = true := by
  unfold Related passedFor
  rw [List.pairwise_filterMap]
  simp

theorem filterMap_names_sublist (generics : List Generic) (bound : String → Option Ty) :
    ((generics.filterMap fun generic => (bound generic.name).map (generic.name, ·)).map (·.1)).Sublist
      (generics.map (·.name)) := by
  induction generics with
  | nil => simp
  | cons generic rest ih =>
    cases found : bound generic.name with
    | none => simpa [found] using ih.cons generic.name
    | some ty => simpa [found] using ih

/-- All parameters have a type exactly if the arguments of each inferred generic are related. -/
theorem mapM_instantiate?_isSome (arity : header.parameters.length = arguments.length) :
    (header.parameters.mapM fun parameter => instantiate? header arguments explicit parameter.type).isSome
      ↔ ∀ name, (∀ ty, ¬ Written header explicit name ty) → Related (passedFor header arguments name) := by
  rw [mapM_isSome_iff]
  constructor
  · intro all name unbound
    by_cases used : passedFor header arguments name = []
    · simp [Related, used]
    · obtain ⟨ty, member⟩ := List.exists_mem_of_ne_nil _ used
      obtain ⟨pair, member, type, -⟩ := mem_passedFor.mp member
      have found := all pair.1 (List.of_mem_zip member).1
      simp only [type, instantiate?, bound?, written?_eq_none_iff.mpr unbound, widest?_isSome] at found
      exact found.2
  · intro related parameter member
    cases type : parameter.type with
    | concrete ty => rfl
    | generic name =>
      cases found : written? header explicit name with
      | some ty => simp [instantiate?, bound?, found]
      | none =>
        simp only [instantiate?, bound?, found, widest?_isSome]
        refine ⟨?_, related name (written?_eq_none_iff.mp found)⟩
        obtain ⟨i, inside, rfl⟩ := List.getElem_of_mem member
        have passed : i < arguments.length := arity ▸ inside
        have pair : (header.parameters[i], arguments[i]) ∈ header.parameters.zip arguments := by
          rw [List.mem_iff_getElem]
          exact ⟨i, by rw [List.length_zip]; omega, by simp⟩
        exact List.ne_nil_of_mem (mem_passedFor.mpr ⟨_, pair, type, rfl⟩)

structure Fills (header : Header) (arguments : List Argument) (explicit : List Ty) (filled : Instance) :
    Prop where
  generics : ∀ name ty, (name, ty) ∈ filled.generics ↔
    (∃ generic ∈ header.generics, generic.name = name) ∧ Binds header arguments explicit name ty
  order : (filled.generics.map (·.1)).Sublist (header.generics.map (·.name))
  parameters : List.Forall₂
    (fun pair ty => ∃ declared, StandsFor header arguments explicit pair.1.type declared
      ∧ ty = inSpaceOf declared pair.2)
    (header.parameters.zip arguments) filled.parameters
  returns : ReturnsAs header arguments explicit filled.returns

/-- A header is filled in exactly if it is acceptable. -/
theorem instance?_isSome :
    (instance? header arguments explicit).isSome ↔ Acceptable header arguments explicit := by
  unfold instance?
  split
  case isTrue admissible =>
    obtain ⟨arity, complete, accepted⟩ := admissible
    have mapped := @mapM_instantiate?_isSome header arguments explicit arity
    have filled : ∀ {types : Option (List Ty)} {build : List Ty → Instance},
        (types.bind fun found => some (build found)).isSome = types.isSome := by
      intro types build
      cases types <;> rfl
    simp only [Option.bind_eq_bind, filled, mapped, related_passedFor]
    constructor
    · intro agree
      refine ⟨arity, fun given => complete.resolve_left given, ?_, agree⟩
      intro pair member
      exact accepts_iff.mp (List.all_eq_true.mp accepted pair member)
    · exact fun acceptable => acceptable.agree
  case isFalse refused =>
    simp only [Option.isSome_none, Bool.false_eq_true, false_iff]
    intro acceptable
    apply refused
    refine ⟨acceptable.arity, ?_, List.all_eq_true.mpr fun pair member => ?_⟩
    · by_cases given : explicit = []
      · exact .inl given
      · exact .inr (acceptable.complete given)
    · exact accepts_iff.mpr (acceptable.fits pair member)

theorem fills_of_instance? {filled : Instance} (found : instance? header arguments explicit = some filled) :
    Fills header arguments explicit filled := by
  unfold instance? at found
  split at found
  case isTrue admissible =>
    rw [Option.bind_eq_bind, Option.bind_eq_some_iff] at found
    obtain ⟨types, mapped, built⟩ := found
    cases built
    refine ⟨?_, ?_, ?_, ?_⟩
    · intro name ty
      simp only [List.mem_filterMap, Option.map_eq_some_iff, bound?_eq_some_iff, Prod.mk.injEq]
      constructor
      · rintro ⟨generic, member, _, bound, rfl, rfl⟩
        exact ⟨⟨generic, member, rfl⟩, bound⟩
      · rintro ⟨⟨generic, member, rfl⟩, bound⟩
        exact ⟨generic, member, ty, bound, rfl, rfl⟩
    · exact filterMap_names_sublist header.generics _
    · refine (forall₂_zip (mapM_eq_some_iff.mp mapped) admissible.1).imp ?_
      rintro pair ty ⟨declared, stands, rfl⟩
      exact ⟨declared, instantiate?_eq_some_iff.mp stands, rfl⟩
    · cases declared : header.returns with
      | concrete ty => exact .resolved (declared ▸ .concrete ty)
      | generic name =>
        cases bound : bound? header arguments explicit name with
        | some ty =>
          simp only [bound]
          exact .resolved (declared ▸ .generic (bound?_eq_some_iff.mp bound))
        | none =>
          simp only [bound]
          refine .unbound declared fun ty binds => ?_
          rw [bound?_eq_some_iff.mpr binds] at bound
          cases bound
  case isFalse => cases found

/-- The space that a pointer parameter takes from its argument does not keep the argument from being cast. -/
theorem casts_inSpaceOf {ty : Ty} {argument : Argument} (cast : Ty.Casts argument.ty ty) :
    Ty.Casts argument.ty (inSpaceOf ty argument) := by
  obtain ⟨passed, space⟩ := argument
  cases cast with
  | pointer s _ same => exact .pointer s s same
  | _ => constructor <;> assumption

theorem Written.unique {name : String} {first second : Ty} (one : Written header explicit name first)
    (other : Written header explicit name second) : first = second := by
  have same := (written?_eq_some_iff.mpr one).symm.trans (written?_eq_some_iff.mpr other)
  exact Option.some.inj same

/-- An argument that a parameter takes has the type that the parameter stands for, or casts into it. -/
theorem Takes.eq_or_casts {pair : Parameter × Argument} {declared : Ty}
    (takes : Takes header explicit pair.1.type pair.2.ty)
    (member : pair ∈ header.parameters.zip arguments)
    (stands : StandsFor header arguments explicit pair.1.type declared) :
    pair.2.ty = declared ∨ Ty.Casts pair.2.ty declared := by
  generalize type : pair.1.type = expected at takes stands
  cases takes with
  | concrete cast =>
    cases stands
    exact .inr (Ty.castsTo_iff.mp cast)
  | written given cast =>
    cases stands with
    | generic bound =>
      obtain other | ⟨unbound, -⟩ := bound
      · exact .inr (other.unique given ▸ Ty.castsTo_iff.mp cast)
      · exact absurd given (unbound _)
  | inferred unbound =>
    cases stands with
    | generic bound =>
      obtain given | ⟨-, widest⟩ := bound
      · exact absurd given (unbound declared)
      · exact widest.casts_or_eq (mem_passedFor.mpr ⟨pair, member, type, rfl⟩)

/-- An argument that a parameter takes casts into the type that the parameter stands for. -/
theorem Takes.casts {pair : Parameter × Argument} {declared : Ty}
    (takes : Takes header explicit pair.1.type pair.2.ty)
    (member : pair ∈ header.parameters.zip arguments)
    (stands : StandsFor header arguments explicit pair.1.type declared)
    (solid : pair.2.ty.isSolid = true) : Ty.Casts pair.2.ty declared := by
  obtain same | below := takes.eq_or_casts member stands
  · exact same ▸ Ty.Casts.refl solid
  · exact below

/-- What holds of each argument and the type that its parameter stands for holds all along a header that is filled
in. -/
theorem Fills.forall₂_arguments {filled : Instance} {rel : Argument → Ty → Prop}
    (fills : Fills header arguments explicit filled) (acceptable : Acceptable header arguments explicit)
    (holds : ∀ pair ∈ header.parameters.zip arguments, ∀ declared,
      StandsFor header arguments explicit pair.1.type declared → rel pair.2 (inSpaceOf declared pair.2)) :
    List.Forall₂ rel arguments filled.parameters := by
  refine forall₂_of_zip acceptable.arity fills.parameters ?_
  rintro pair member ty ⟨declared, stands, rfl⟩
  exact holds pair member declared stands

/-- In a header that is filled in, every argument casts into the type of its parameter. -/
theorem Fills.arguments_cast {filled : Instance} (fills : Fills header arguments explicit filled)
    (acceptable : Acceptable header arguments explicit)
    (solid : ∀ argument ∈ arguments, argument.ty.isSolid = true) :
    List.Forall₂ (fun argument ty => argument.ty.castsTo ty = true) arguments filled.parameters := by
  apply fills.forall₂_arguments acceptable
  intro pair member declared stands
  have cast := (acceptable.fits pair member).casts member stands (solid _ (List.of_mem_zip member).2)
  exact (casts_inSpaceOf cast).castsTo

/-- A generic that is not written out is bound to the join of the arguments that are passed for it. -/
theorem Binds.isLeast {name : String} {ty : Ty} (binds : Binds header arguments explicit name ty)
    (unbound : ∀ other, ¬ Written header explicit name other)
    (solid : ∀ argument ∈ arguments, argument.ty.isSolid = true) :
    ty ∈ passedFor header arguments name
    ∧ (∀ passed ∈ passedFor header arguments name, passed.castsTo ty = true)
    ∧ ∀ upper : Ty, (∀ passed ∈ passedFor header arguments name, passed.castsTo upper = true) →
      ty.castsTo upper = true := by
  obtain given | ⟨-, widest⟩ := binds
  · exact absurd given (unbound ty)
  · refine ⟨widest.mem, ?_, fun upper above => above ty widest.mem⟩
    intro passed member
    obtain ⟨pair, inside, -, rfl⟩ := mem_passedFor.mp member
    obtain same | below := widest.casts_or_eq member
    · exact same ▸ (Ty.Casts.refl (solid _ (List.of_mem_zip inside).2)).castsTo
    · exact below.castsTo

end Filling

section Search

variable {arguments : List Argument} {explicit : List Ty}

theorem resolveFrom_eq_none {position : Nat} {headers : List Header} :
    resolveFrom arguments explicit position headers = none
      ↔ ∀ header ∈ headers, ¬ Acceptable header arguments explicit := by
  induction headers generalizing position with
  | nil => simp [resolveFrom]
  | cons header rest ih =>
    rw [List.forall_mem_cons, ← instance?_isSome]
    cases filled : instance? header arguments explicit with
    | some found => simp [resolveFrom, filled]
    | none => simp [resolveFrom, filled, ih]

/-- The search stops at the first acceptable header and fills that one in. -/
theorem resolveFrom_eq_some {position : Nat} {headers : List Header} {resolution : Resolution}
    (found : resolveFrom arguments explicit position headers = some resolution) :
    ∃ before header after, headers = before ++ header :: after
      ∧ resolution.header = position + before.length
      ∧ instance? header arguments explicit = some resolution.toInstance
      ∧ ∀ other ∈ before, ¬ Acceptable other arguments explicit := by
  induction headers generalizing position with
  | nil => simp [resolveFrom] at found
  | cons header rest ih =>
    cases filled : instance? header arguments explicit with
    | some first =>
      simp only [resolveFrom, filled, Option.some.injEq] at found
      subst found
      exact ⟨[], header, rest, rfl, rfl, filled, by simp⟩
    | none =>
      simp only [resolveFrom, filled] at found
      obtain ⟨before, chosen, after, rfl, place, filled', refused⟩ := ih found
      refine ⟨header :: before, chosen, after, rfl, by rw [place, List.length_cons]; omega, filled', ?_⟩
      rw [List.forall_mem_cons, ← instance?_isSome, filled]
      exact ⟨by simp, refused⟩

/-- A call resolves to nothing exactly if no header is acceptable, and otherwise to the first acceptable one with
its generics filled in. If no argument holds an invalid type, all arguments cast into their parameters, and an
inferred generic is the join of its arguments. -/
theorem resolve?_first_acceptable (function : Function) (arguments : List Argument) (explicit : List Ty) :
    (resolve? function arguments explicit = none
      ↔ ∀ header ∈ function.headers, ¬ Acceptable header arguments explicit)
    ∧ ∀ resolution, resolve? function arguments explicit = some resolution →
      ∃ header, function.headers[resolution.header]? = some header
        ∧ Acceptable header arguments explicit
        ∧ (∀ earlier < resolution.header, ∀ other, function.headers[earlier]? = some other →
          ¬ Acceptable other arguments explicit)
        ∧ Fills header arguments explicit resolution.toInstance
        ∧ ((∀ argument ∈ arguments, argument.ty.isSolid = true) →
          List.Forall₂ (fun argument ty => argument.ty.castsTo ty = true) arguments resolution.parameters
          ∧ ∀ name ty, (name, ty) ∈ resolution.generics → (∀ other, ¬ Written header explicit name other) →
            ty ∈ passedFor header arguments name
            ∧ (∀ passed ∈ passedFor header arguments name, passed.castsTo ty = true)
            ∧ ∀ upper : Ty, (∀ passed ∈ passedFor header arguments name, passed.castsTo upper = true) →
              ty.castsTo upper = true) := by
  refine ⟨resolveFrom_eq_none, fun resolution found => ?_⟩
  obtain ⟨before, header, after, split, place, filled, refused⟩ := resolveFrom_eq_some found
  rw [Nat.zero_add] at place
  have acceptable : Acceptable header arguments explicit := by simp [← instance?_isSome, filled]
  have fills := fills_of_instance? filled
  refine ⟨header, by simp [split, place], acceptable, ?_, fills, fun solid => ⟨?_, ?_⟩⟩
  · intro earlier less other at_earlier
    rw [split, List.getElem?_append_left (place ▸ less)] at at_earlier
    exact refused other (List.mem_of_getElem? at_earlier)
  · exact fills.arguments_cast acceptable solid
  · intro name ty member unbound
    exact ((fills.generics name ty).mp member).2.isLeast unbound solid

end Search

end Overload

end ShaderCheck
