import Mathlib.Data.List.Pairwise
import Mathlib.Logic.Equiv.Basic
import ShaderCheck.Proofs.Overloads
import ShaderCheck.Symbol.Builtin

/-!
What a call makes of the generics of a header.

A generic that the call leaves open stands for the join of the types that are passed for it. The join is found by
folding the arguments from left to right, but only the set of their types matters: in any other order the call goes
through just as well, and comes to a type that casts into the first and from it. Each type in that set was held against
the restrictions of the generic, so the join satisfies them too.

A generic that the call writes out stands for what is written. Nothing holds that against the restrictions, so they are
honoured exactly where the call itself keeps to them.
-/

namespace ShaderCheck

theorem NumericKind.castsTo_antisymm {a b : NumericKind} (there : a.castsTo b = true) (back : b.castsTo a = true) :
    a = b := by
  cases a <;> cases b <;> simp_all [castsTo]

namespace Ty

/-- Whether a type is made of scalars alone. Pointers, enums and structs can be cast both ways and still differ. -/
def isBasic : Ty → Bool
  | .invalid | .void | .bool | .string | .numeric _ => true
  | .vector _ element => element.isBasic
  | .matrix _ _ element => element.isBasic
  | .pointer .. | .enumeration .. | .struct .. => false

theorem Casts.antisymm {a b : Ty} (there : Casts a b) (back : Casts b a) (basic : a.isBasic = true) : a = b := by
  induction there with
  | void | bool | string => rfl
  | numeric kinds =>
    cases back with
    | numeric others => rw [NumericKind.castsTo_antisymm kinds others]
  | vector n _ ih =>
    cases back with
    | vector _ elements => rw [ih elements basic]
  | matrix r c _ ih =>
    cases back with
    | matrix _ _ elements => rw [ih elements basic]
  | pointer | enumeration | struct => cases basic

end Ty

namespace Overload

section Passing

variable {header : Header} {arguments others : List Argument} {explicit : List Ty} {name : String}

def Passes (header : Header) (arguments : List Argument) (type : HeaderType) (argument : Argument) : Prop :=
  ∃ position, header.parameterType? position = some type ∧ arguments[position]? = some argument

theorem passes_iff_mem_zip {type : HeaderType} {argument : Argument} :
    Passes header arguments type argument ↔
      ∃ pair ∈ header.parameters.zip arguments, pair.1.type = type ∧ pair.2 = argument := by
  simp only [Passes, Header.parameterType?, List.mem_iff_getElem?, List.getElem?_zip_eq_some, Option.map_eq_some_iff]
  constructor
  · rintro ⟨position, ⟨parameter, there, typed⟩, passed⟩
    exact ⟨(parameter, argument), ⟨position, there, passed⟩, typed, rfl⟩
  · rintro ⟨pair, ⟨position, there, passed⟩, typed, rfl⟩
    exact ⟨position, ⟨pair.1, there, typed⟩, passed⟩

theorem mem_passedFor_iff_passes {ty : Ty} :
    ty ∈ passedFor header arguments name ↔
      ∃ argument, Passes header arguments (.generic name) argument ∧ argument.ty = ty := by
  simp only [mem_passedFor, passes_iff_mem_zip]
  constructor
  · rintro ⟨pair, member, typed, same⟩
    exact ⟨pair.2, ⟨pair, member, typed, rfl⟩, same⟩
  · rintro ⟨_, ⟨pair, member, typed, rfl⟩, same⟩
    exact ⟨pair, member, typed, same⟩

theorem isSolid_of_mem_passedFor (solid : ∀ argument ∈ arguments, argument.ty.isSolid = true) :
    ∀ ty ∈ passedFor header arguments name, ty.isSolid = true := by
  intro ty passed
  rcases mem_passedFor.mp passed with ⟨pair, member, -, rfl⟩
  exact solid pair.2 (List.of_mem_zip member).2

/-- Where nothing is invalid, types are related exactly if any two of them are, a type and itself included. The order in
which they stand does not matter then, nor how often each of them does. -/
theorem related_iff_forall {types : List Ty} (solid : ∀ ty ∈ types, ty.isSolid = true) :
    Related types ↔ ∀ a ∈ types, ∀ b ∈ types, a.mutuallyCasts b = true := by
  constructor
  · intro related
    have symmetric : Std.Symm fun a b : Ty => a.mutuallyCasts b = true :=
      ⟨fun a b casts => Ty.mutuallyCasts_comm ▸ casts⟩
    apply List.Pairwise.forall_of_forall _ related
    intro ty member
    exact Ty.mutuallyCasts_iff.mpr (.inl (.refl (solid ty member)))
  · exact List.pairwise_of_forall_mem_list

/-- Two lists of arguments come to the same for a header: they pass the same for each type of parameter. -/
structure PassesAlike (header : Header) (arguments others : List Argument) : Prop where
  length : others.length = arguments.length
  passes : ∀ type argument, Passes header others type argument ↔ Passes header arguments type argument

namespace PassesAlike

theorem symm (alike : PassesAlike header arguments others) : PassesAlike header others arguments :=
  ⟨alike.length.symm, fun type argument => (alike.passes type argument).symm⟩

theorem mem_passedFor_iff (alike : PassesAlike header arguments others) {ty : Ty} :
    ty ∈ passedFor header others name ↔ ty ∈ passedFor header arguments name := by
  simp only [mem_passedFor_iff_passes, alike.passes]

theorem related_iff (alike : PassesAlike header arguments others)
    (solid : ∀ argument ∈ arguments, argument.ty.isSolid = true) :
    Related (passedFor header others name) ↔ Related (passedFor header arguments name) := by
  have solid' : ∀ ty ∈ passedFor header arguments name, ty.isSolid = true := isSolid_of_mem_passedFor solid
  rw [related_iff_forall solid', related_iff_forall fun ty member => solid' ty (alike.mem_passedFor_iff.mp member)]
  simp only [alike.mem_passedFor_iff]

theorem fits (alike : PassesAlike header arguments others) (acceptable : Acceptable header arguments explicit) :
    ∀ pair ∈ header.parameters.zip others, Takes header explicit pair.1.type pair.2.ty := by
  intro pair member
  have passed : Passes header others pair.1.type pair.2 := passes_iff_mem_zip.mpr ⟨pair, member, rfl, rfl⟩
  rcases passes_iff_mem_zip.mp ((alike.passes _ _).mp passed) with ⟨partner, known, typed, same⟩
  rw [← typed, ← same]
  exact acceptable.fits partner known

theorem acceptable (alike : PassesAlike header arguments others) (acceptable : Acceptable header arguments explicit)
    (related : ∀ name, Related (passedFor header arguments name) → Related (passedFor header others name)) :
    Acceptable header others explicit where
  arity := acceptable.arity.trans alike.length.symm
  complete := acceptable.complete
  fits := alike.fits acceptable
  agree name unbound := related_passedFor.mp (related name (related_passedFor.mpr (acceptable.agree name unbound)))

theorem acceptable_iff (alike : PassesAlike header arguments others)
    (solid : ∀ argument ∈ arguments, argument.ty.isSolid = true) :
    Acceptable header others explicit ↔ Acceptable header arguments explicit := by
  constructor
  · intro accepted
    exact alike.symm.acceptable accepted fun name => (alike.related_iff solid).mp
  · intro accepted
    exact alike.acceptable accepted fun name => (alike.related_iff solid).mpr

end PassesAlike

end Passing

section Order

variable {header : Header} {arguments : List Argument}

def rearranged (arguments : List Argument) (order : Equiv.Perm (Fin arguments.length)) : List Argument :=
  List.ofFn fun position => arguments.get (order position)

/-- An order takes arguments only from one parameter of a generic to another of the same generic. -/
def WithinGenerics (header : Header) {count : Nat} (order : Equiv.Perm (Fin count)) : Prop :=
  ∀ position, order position ≠ position → ∃ name,
    header.parameterType? position = some (.generic name)
    ∧ header.parameterType? (order position) = some (.generic name)

theorem getElem?_rearranged (order : Equiv.Perm (Fin arguments.length)) (position : Fin arguments.length) :
    (rearranged arguments order)[position.val]? = some (arguments.get (order position)) := by
  simp [rearranged]

theorem WithinGenerics.parameterType? {count : Nat} {order : Equiv.Perm (Fin count)}
    (within : WithinGenerics header order) (position : Fin count) :
    header.parameterType? (order position) = header.parameterType? position := by
  by_cases stays : order position = position
  · rw [stays]
  · rcases within position stays with ⟨name, here, there⟩
    rw [here, there]

theorem WithinGenerics.passesAlike {order : Equiv.Perm (Fin arguments.length)} (within : WithinGenerics header order) :
    PassesAlike header arguments (rearranged arguments order) := by
  refine ⟨List.length_ofFn, fun type argument => ⟨?_, ?_⟩⟩
  · rintro ⟨position, typed, passed⟩
    have inside : position < arguments.length := by
      simpa [rearranged] using (List.getElem?_eq_some_iff.mp passed).1
    have moved := getElem?_rearranged order ⟨position, inside⟩
    rw [passed] at moved
    refine ⟨order ⟨position, inside⟩, ?_, ?_⟩
    · rw [within.parameterType?]
      exact typed
    · rw [Option.some.inj moved]
      exact List.getElem?_eq_getElem _
  · rintro ⟨position, typed, passed⟩
    rcases List.getElem?_eq_some_iff.mp passed with ⟨inside, there⟩
    -- The argument was moved to the place that the order takes it from.
    have back := order.apply_symm_apply ⟨position, inside⟩
    refine ⟨order.symm ⟨position, inside⟩, ?_, ?_⟩
    · rw [← within.parameterType?, back]
      exact typed
    · rw [getElem?_rearranged, back]
      exact congrArg some there

end Order

section Restrictions

variable {header : Header} {arguments : List Argument} {explicit : List Ty} {name : String} {ty : Ty}

def Honours (header : Header) (name : String) (ty : Ty) : Prop :=
  ∃ generic, header.generic? name = some generic ∧ Admits generic ty

theorem any_allows_iff : (header.generic? name).any (·.allows ty) = true ↔ Honours header name ty := by
  simp only [Option.any_eq_true, allows_iff, Honours]

instance : Decidable (Honours header name ty) := decidable_of_iff _ any_allows_iff

/-- Whatever is passed for a generic that is left open was held against its restrictions. -/
theorem Acceptable.honours_of_passed (acceptable : Acceptable header arguments explicit)
    (unbound : ∀ other, ¬ Written header explicit name other) (passed : ty ∈ passedFor header arguments name) :
    Honours header name ty := by
  rcases mem_passedFor.mp passed with ⟨pair, member, typed, rfl⟩
  have takes := acceptable.fits pair member
  rw [typed] at takes
  cases takes with
  | written bound => exact absurd bound (unbound _)
  | inferred _ known allowed => exact ⟨_, known, allowed⟩

/-- So was the join, which is one of the types that are passed. -/
theorem Binds.honours (binds : Binds header arguments explicit name ty)
    (unbound : ∀ other, ¬ Written header explicit name other) (acceptable : Acceptable header arguments explicit) :
    Honours header name ty := by
  rcases binds with given | ⟨-, widest⟩
  · exact absurd given (unbound ty)
  · exact acceptable.honours_of_passed unbound widest.mem

theorem Written.exists_generic (written : Written header explicit name ty) :
    ∃ generic ∈ header.generics, generic.name = name := by
  rcases written with ⟨before, after, split, -⟩
  have member : (name, ty) ∈ (header.generics.map (·.name)).zip explicit := by simp [split]
  exact List.mem_map.mp (List.of_mem_zip member).1

theorem not_written_nil (other : Ty) : ¬ Written header [] name other := by
  rintro ⟨before, after, split, -⟩
  simp at split

theorem Binds.unique {other : Ty} (one : Binds header arguments explicit name ty)
    (second : Binds header arguments explicit name other) : other = ty := by
  have same := (bound?_eq_some_iff.mpr second).symm.trans (bound?_eq_some_iff.mpr one)
  exact Option.some.inj same

end Restrictions

section Inference

variable {header : Header} {arguments : List Argument} {explicit : List Ty} {filled : Instance} {name : String}

/-- A generic that some parameter has for its type is bound. -/
theorem Fills.exists_binds (fills : Fills header arguments explicit filled)
    (acceptable : Acceptable header arguments explicit) {parameter : Parameter} (member : parameter ∈ header.parameters)
    (typed : parameter.type = .generic name) : ∃ ty, Binds header arguments explicit name ty := by
  rw [← List.map_fst_zip (Nat.le_of_eq acceptable.arity)] at member
  rcases List.mem_map.mp member with ⟨pair, inside, rfl⟩
  rcases exists_of_forall₂ fills.parameters pair inside with ⟨_, -, declared, stands, -⟩
  rw [typed] at stands
  cases stands with
  | generic bound => exact ⟨declared, bound⟩

/-- The bindings of a generic that is left open and that some parameter has for its type. -/
theorem Fills.mem_generics_iff (fills : Fills header arguments explicit filled) {ty : Ty}
    (binds : Binds header arguments explicit name ty) (honoured : Honours header name ty) (other : Ty) :
    (name, other) ∈ filled.generics ↔ other = ty := by
  rw [fills.generics]
  constructor
  · exact fun bound => binds.unique bound.2
  · rintro rfl
    rcases honoured with ⟨generic, known, -⟩
    have named : generic.name = name := by simpa using List.find?_some known
    exact ⟨⟨generic, List.mem_of_find?_eq_some known, named⟩, binds⟩

/-- The bindings of one generic by two calls that pass the same types for it, in whatever order. -/
theorem Binds.casts_both_ways {others : List Argument} {old new : Ty} (alike : PassesAlike header arguments others)
    (solid : ∀ argument ∈ arguments, argument.ty.isSolid = true) (first : Binds header arguments [] name old)
    (second : Binds header others [] name new) : Ty.Casts new old ∧ Ty.Casts old new := by
  rcases first with given | ⟨-, widest⟩
  · exact absurd given (not_written_nil old)
  rcases second with given | ⟨-, widest'⟩
  · exact absurd given (not_written_nil new)
  have refl : ∀ ty ∈ passedFor header arguments name, Ty.Casts ty ty :=
    fun ty member => .refl (isSolid_of_mem_passedFor solid ty member)
  have passed := alike.mem_passedFor_iff.mp widest'.mem
  constructor
  · rcases widest.casts_or_eq passed with rfl | below
    · exact refl new passed
    · exact below
  · rcases widest'.casts_or_eq (alike.mem_passedFor_iff.mpr widest.mem) with rfl | below
    · exact refl old widest.mem
    · exact below

/-- A call that writes out no generics binds each one that is used for a parameter to the join of the types that are
passed for it, which its restrictions admit. If the arguments change places within the parameters of a generic, the call
goes through as it did before, and binds the generic to the same type up to casts both ways, or to the very same if only
scalars, vectors and matrices are passed for it. -/
theorem instance?_joins (header : Header) (arguments : List Argument)
    (solid : ∀ argument ∈ arguments, argument.ty.isSolid = true) :
    (∀ filled, instance? header arguments [] = some filled →
      ∀ parameter ∈ header.parameters, ∀ name, parameter.type = .generic name →
        ∃ ty, (∀ other, (name, other) ∈ filled.generics ↔ other = ty)
          ∧ ty ∈ passedFor header arguments name
          ∧ (∀ passed ∈ passedFor header arguments name, passed.castsTo ty = true)
          ∧ (∀ upper : Ty, (∀ passed ∈ passedFor header arguments name, passed.castsTo upper = true) →
            ty.castsTo upper = true)
          ∧ Honours header name ty)
    ∧ ∀ order : Equiv.Perm (Fin arguments.length), WithinGenerics header order →
      ((instance? header (rearranged arguments order) []).isSome ↔ (instance? header arguments []).isSome)
      ∧ ∀ filled refilled, instance? header arguments [] = some filled →
        instance? header (rearranged arguments order) [] = some refilled →
        ∀ name old new, (name, old) ∈ filled.generics → (name, new) ∈ refilled.generics →
          new.castsTo old = true ∧ old.castsTo new = true
          ∧ ((∀ passed ∈ passedFor header arguments name, passed.isBasic = true) → new = old) := by
  constructor
  · intro filled found parameter member name typed
    have acceptable : Acceptable header arguments [] := by simp [← instance?_isSome, found]
    have fills := fills_of_instance? found
    rcases fills.exists_binds acceptable member typed with ⟨ty, binds⟩
    have honoured := binds.honours not_written_nil acceptable
    rcases binds.isLeast not_written_nil solid with ⟨passed, above, least⟩
    exact ⟨ty, fills.mem_generics_iff binds honoured, passed, above, least, honoured⟩
  · intro order within
    have alike := within.passesAlike
    refine ⟨?_, ?_⟩
    · rw [instance?_isSome, instance?_isSome]
      exact alike.acceptable_iff solid
    · intro filled refilled found refound name old new bound rebound
      have first := ((fills_of_instance? found).generics name old).mp bound
      have second := ((fills_of_instance? refound).generics name new).mp rebound
      have both := first.2.casts_both_ways alike solid second.2
      refine ⟨both.1.castsTo, both.2.castsTo, fun basic => ?_⟩
      have passed := (second.2.isLeast not_written_nil ?_).1
      · exact both.1.antisymm both.2 (basic new (alike.mem_passedFor_iff.mp passed))
      · intro argument listed
        rcases List.mem_ofFn.mp listed with ⟨position, rfl⟩
        exact solid _ (List.getElem_mem _)

def clamping : Header := ⟨Builtin.restricted [.numeric], Builtin.generically ["e", "low", "high"], .generic "T"⟩

def mixedNumbers : List Argument := [⟨.numeric .abstractFloat, .function⟩, ⟨.f32, .privateSpace⟩, ⟨.f16, .function⟩]

def turned : Equiv.Perm (Fin mixedNumbers.length) := (Equiv.swap (0 : Fin 3) 1).trans (Equiv.swap 0 2)

theorem clamping_joins :
    (∀ argument ∈ mixedNumbers, argument.ty.isSolid = true) ∧ WithinGenerics clamping turned
    ∧ (rearranged mixedNumbers turned).map (·.ty) = [.f32, .f16, .numeric .abstractFloat]
    ∧ ∃ filled refilled, instance? clamping mixedNumbers [] = some filled
      ∧ instance? clamping (rearranged mixedNumbers turned) [] = some refilled
      ∧ ("T", .f32) ∈ filled.generics ∧ ∀ new, ("T", new) ∈ refilled.generics → new = .f32 := by
  have solid : ∀ argument ∈ mixedNumbers, argument.ty.isSolid = true := by decide
  have within : WithinGenerics clamping turned := by
    intro position _
    exact ⟨"T", by revert position; decide, by revert position; decide⟩
  rcases instance?_joins clamping mixedNumbers solid with ⟨-, moved⟩
  rcases moved turned within with ⟨succeeds, same⟩
  have first : (instance? clamping mixedNumbers []).isSome = true := by decide
  rcases Option.isSome_iff_exists.mp first with ⟨filled, found⟩
  rcases Option.isSome_iff_exists.mp (succeeds.mpr first) with ⟨refilled, refound⟩
  have bound : ("T", .f32) ∈ filled.generics := by
    have known : ((instance? clamping mixedNumbers []).map (·.generics)) = some [("T", .f32)] := by decide
    rw [found] at known
    simp [Option.some.inj known]
  refine ⟨solid, within, by decide, filled, refilled, found, refound, bound, fun new rebound => ?_⟩
  exact (same filled refilled found refound "T" .f32 new bound rebound).2.2 (by decide)

end Inference

section Written

variable {header : Header} {arguments : List Argument} {explicit : List Ty} {name : String}

def restrictedBy (restrictions : String → Option (List Tag)) (header : Header) : Header :=
  { header with generics := header.generics.map fun generic => ⟨generic.name, restrictions generic.name⟩ }

theorem written?_restrictedBy (restrictions : String → Option (List Tag)) (explicit : List Ty) (name : String) :
    written? (restrictedBy restrictions header) explicit name = written? header explicit name := by
  simp only [written?, restrictedBy, List.map_map, Function.comp_def]

theorem bound?_restrictedBy (restrictions : String → Option (List Tag)) (name : String) :
    bound? (restrictedBy restrictions header) arguments explicit name = bound? header arguments explicit name := by
  simp only [bound?, written?_restrictedBy]
  rfl

/-- If something is written for every generic of a header, a name that nothing is written for is none of them. -/
theorem generic?_eq_none_of_written? (complete : header.generics.length = explicit.length)
    (unwritten : written? header explicit name = none) : header.generic? name = none := by
  rw [Header.generic?, List.find?_eq_none]
  intro generic member
  have listed : generic.name ∈ ((header.generics.map (·.name)).zip explicit).map (·.1) := by
    rw [List.map_fst_zip (by simp [complete])]
    exact List.mem_map_of_mem member
  rcases List.mem_map.mp listed with ⟨entry, inside, same⟩
  have apart : name ≠ entry.1 := by
    simpa using List.lookup_eq_none_iff.mp unwritten entry (List.mem_reverse.mpr inside)
  rw [← same]
  simpa using apart.symm

theorem accepts_restrictedBy (restrictions : String → Option (List Tag))
    (complete : header.generics.length = explicit.length) (type : HeaderType) (argument : Ty) :
    accepts (restrictedBy restrictions header) explicit type argument = accepts header explicit type argument := by
  cases type with
  | concrete ty => rfl
  | generic name =>
    simp only [accepts, written?_restrictedBy]
    cases unwritten : written? header explicit name with
    | some ty => rfl
    | none =>
      have unwritten' : written? (restrictedBy restrictions header) explicit name = none := by
        rwa [written?_restrictedBy]
      have complete' : (restrictedBy restrictions header).generics.length = explicit.length := by
        simpa [restrictedBy] using complete
      rw [generic?_eq_none_of_written? complete unwritten, generic?_eq_none_of_written? complete' unwritten']

/-- What a header comes to for a call that writes out its generics does not depend on their restrictions. -/
theorem instance?_restrictedBy (restrictions : String → Option (List Tag)) (given : explicit ≠ []) :
    instance? (restrictedBy restrictions header) arguments explicit = instance? header arguments explicit := by
  by_cases complete : header.generics.length = explicit.length
  · have length : (restrictedBy restrictions header).generics.length = header.generics.length := by simp [restrictedBy]
    have instantiated : ∀ type, instantiate? (restrictedBy restrictions header) arguments explicit type =
        instantiate? header arguments explicit type := by
      intro type
      cases type with
      | concrete ty => rfl
      | generic name => exact bound?_restrictedBy restrictions name
    simp only [instance?, length, accepts_restrictedBy restrictions complete, instantiated, bound?_restrictedBy]
    simp only [restrictedBy, List.filterMap_map, Function.comp_def]
  · rw [instance?, instance?, if_neg, if_neg]
    · simp [given, complete]
    · simp [restrictedBy, given, complete]

theorem resolveFrom_restrictedBy (restrictions : String → Option (List Tag)) (given : explicit ≠ []) (position : Nat)
    (headers : List Header) :
    resolveFrom arguments explicit position (headers.map (restrictedBy restrictions)) =
      resolveFrom arguments explicit position headers := by
  induction headers generalizing position with
  | nil => rfl
  | cons header rest ih =>
    simp only [List.map_cons, resolveFrom, instance?_restrictedBy restrictions given, ih]

/-- Of a call that resolves, the restrictions of all generics are honoured exactly if those of the generics that the
call writes out are. A call that writes out none therefore honours them all. One that does would resolve alike under
any other restrictions: nothing asks for them. -/
theorem resolve?_honours_iff (function : Function) (arguments : List Argument) (explicit : List Ty)
    {resolution : Resolution} (found : resolve? function arguments explicit = some resolution) :
    (∃ header, function.headers[resolution.header]? = some header
      ∧ ((∀ name ty, (name, ty) ∈ resolution.generics → Honours header name ty) ↔
        ∀ name ty, Written header explicit name ty → Honours header name ty))
    ∧ (explicit ≠ [] → ∀ restrictions,
      resolve? { function with headers := function.headers.map (restrictedBy restrictions) } arguments explicit =
        some resolution) := by
  constructor
  · rcases resolveFrom_eq_some found with ⟨before, header, after, split, place, filled, -⟩
    rw [Nat.zero_add] at place
    have acceptable : Acceptable header arguments explicit := by simp [← instance?_isSome, filled]
    have fills := fills_of_instance? filled
    refine ⟨header, by simp [split, place], ?_, ?_⟩
    · intro all name ty written
      exact all name ty ((fills.generics name ty).mpr ⟨written.exists_generic, .inl written⟩)
    · intro kept name ty member
      have binds := ((fills.generics name ty).mp member).2
      by_cases unbound : ∀ other, ¬ Written header explicit name other
      · exact binds.honours unbound acceptable
      · push Not at unbound
        rcases unbound with ⟨other, written⟩
        have same : ty = other := Binds.unique (.inl written) binds
        exact same ▸ kept name other written
  · intro given restrictions
    rw [← found]
    exact resolveFrom_restrictedBy restrictions given 0 function.headers

def magnitude : Function := Builtin.uniform "abs" [.numeric] ["e"]

def flags : Argument := ⟨.vector 3 .bool, .function⟩

/-- The call `abs(v)` of a vector of truth values resolves to nothing, but `abs<vec3<bool>>(v)` does resolve, against
the restrictions of `abs`. -/
theorem magnitude_of_flags :
    resolve? magnitude [flags] [] = none
    ∧ ∃ resolution header, resolve? magnitude [flags] [.vector 3 .bool] = some resolution
      ∧ magnitude.headers[resolution.header]? = some header
      ∧ ("T", .vector 3 .bool) ∈ resolution.generics ∧ ¬ Honours header "T" (.vector 3 .bool) := by
  refine ⟨by decide, ⟨⟨[("T", .vector 3 .bool)], [.vector 3 .bool], .resolved (.vector 3 .bool)⟩, 0⟩, ?_⟩
  exact ⟨⟨Builtin.restricted [.numeric], Builtin.generically ["e"], .generic "T"⟩,
    by decide, by decide, by decide, by decide⟩

theorem magnitude_of_one :
    ∃ resolution header, resolve? magnitude [⟨.numeric .abstractInt, .function⟩] [.f32] = some resolution
      ∧ magnitude.headers[resolution.header]? = some header
      ∧ (∀ name ty, (name, ty) ∈ resolution.generics → Honours header name ty)
      ∧ resolve? { magnitude with headers := magnitude.headers.map (restrictedBy fun _ => some [.matrix]) }
        [⟨.numeric .abstractInt, .function⟩] [.f32] = some resolution := by
  have found : resolve? magnitude [⟨.numeric .abstractInt, .function⟩] [.f32] =
      some ⟨⟨[("T", .f32)], [.f32], .resolved .f32⟩, 0⟩ := by decide
  rcases resolve?_honours_iff magnitude _ _ found with ⟨⟨header, known, honours⟩, free⟩
  refine ⟨_, header, found, known, honours.mpr ?_, free (List.cons_ne_nil _ _) _⟩
  rintro name ty ⟨before, after, split, -⟩
  cases known
  have entry : (name, ty) ∈ [("T", Ty.f32)] := by
    change [("T", Ty.f32)] = _ at split
    simp [split]
  cases List.mem_singleton.mp entry
  decide

end Written

end Overload

end ShaderCheck
