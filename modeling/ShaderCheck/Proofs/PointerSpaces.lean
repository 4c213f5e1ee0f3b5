import ShaderCheck.Proofs.Overloads

/-!
The spaces of pointer parameters. A call fills in a pointer parameter with the space that its argument points into. An
argument also comes with the space of the place that holds it, and that one is meant for arguments that are no pointers.
It is never asked for: however a parameter comes by the type of a pointer, as declared, as written out or as the widest
of the arguments for a generic, only a pointer is passed for it. So calls that pass the same types resolve alike,
wherever their arguments are held.
-/

namespace ShaderCheck

theorem Ty.Casts.exists_pointer {ty referent : Ty} {space : AddressSpace} (cast : Casts ty (.pointer referent space)) :
    ∃ passed own, ty = .pointer passed own := by
  cases cast with
  | pointer own => exact ⟨_, own, rfl⟩

namespace Overload

section Space

variable {argument other : Argument} {ty referent : Ty} {space : AddressSpace}

def Argument.Fits (argument : Argument) (ty : Ty) : Prop := argument.ty = ty ∨ Ty.Casts argument.ty ty

/-- A parameter whose type is that of pointers belongs to an argument that points into the same space. -/
def Argument.PointsAs (argument : Argument) (ty : Ty) : Prop :=
  ∀ referent space, ty = .pointer referent space → ∃ passed, argument.ty = .pointer passed space

theorem Argument.Fits.exists_pointer (fits : argument.Fits (.pointer referent space)) :
    ∃ passed own, argument.ty = .pointer passed own := by
  rcases fits with same | cast
  · exact ⟨referent, space, same⟩
  · exact cast.exists_pointer

theorem inSpaceOf_pointer {passed : Ty} {own : AddressSpace} (typed : argument.ty = .pointer passed own) :
    inSpaceOf (.pointer referent space) argument = .pointer referent own := by
  simp only [inSpaceOf, typed]

theorem Argument.Fits.pointsAs (fits : argument.Fits ty) : argument.PointsAs (inSpaceOf ty argument) := by
  intro referent space pointing
  cases ty with
  | pointer declared =>
    rcases fits.exists_pointer with ⟨passed, own, typed⟩
    rw [inSpaceOf_pointer typed] at pointing
    cases pointing
    exact ⟨passed, typed⟩
  | _ => cases pointing

/-- The place that holds an argument does not show in the type of its parameter. -/
theorem Argument.Fits.inSpaceOf_congr (fits : argument.Fits ty) (same : other.ty = argument.ty) :
    inSpaceOf ty other = inSpaceOf ty argument := by
  cases ty with
  | pointer declared =>
    rcases fits.exists_pointer with ⟨passed, own, typed⟩
    rw [inSpaceOf_pointer typed, inSpaceOf_pointer (same.trans typed)]
  | _ => rfl

end Space

section Types

variable {header : Header} {arguments others : List Argument} {explicit : List Ty}
  (same : others.map (·.ty) = arguments.map (·.ty))

include same

theorem length_eq_of_types : others.length = arguments.length := by
  simpa using congrArg List.length same

theorem passedFor_congr (name : String) : passedFor header others name = passedFor header arguments name := by
  have typed : ∀ list : List Argument, passedFor header list name =
      (header.parameters.zip (list.map (·.ty))).filterMap fun (parameter, ty) =>
        if parameter.type = .generic name then some ty else none := by
    intro list
    simp only [passedFor, List.zip_map_right, List.filterMap_map]
    rfl
  rw [typed, typed, same]

theorem bound?_congr (name : String) :
    bound? header others explicit name = bound? header arguments explicit name := by
  unfold bound?
  rw [passedFor_congr same]

theorem instantiate?_congr (type : HeaderType) :
    instantiate? header others explicit type = instantiate? header arguments explicit type := by
  cases type with
  | concrete ty => rfl
  | generic name => exact bound?_congr same name

theorem all_accepts_congr :
    (header.parameters.zip others).all (fun (parameter, argument) => accepts header explicit parameter.type argument.ty) =
      (header.parameters.zip arguments).all
        fun (parameter, argument) => accepts header explicit parameter.type argument.ty := by
  have typed : ∀ list : List Argument,
      (header.parameters.zip list).all (fun (parameter, argument) => accepts header explicit parameter.type argument.ty) =
        (header.parameters.zip (list.map (·.ty))).all
          fun (parameter, ty) => accepts header explicit parameter.type ty := by
    intro list
    simp only [List.zip_map_right, List.all_map]
    rfl
  rw [typed, typed, same]

theorem zipWith_inSpaceOf_congr {types : List Ty} (fit : List.Forall₂ Argument.Fits arguments types) :
    List.zipWith inSpaceOf types others = List.zipWith inSpaceOf types arguments := by
  induction fit generalizing others with
  | nil => simp
  | cons fits _ ih =>
    cases others with
    | nil => cases same
    | cons other rest =>
      rcases List.cons.inj same with ⟨first, following⟩
      rw [List.zipWith_cons_cons, List.zipWith_cons_cons, fits.inSpaceOf_congr first, ih following]

end Types

section Filling

variable {header : Header} {arguments others : List Argument} {explicit : List Ty}

/-- The arguments of a call fit the types that the parameters stand for, before these are given their spaces. -/
theorem Acceptable.forall₂_fits (acceptable : Acceptable header arguments explicit) {types : List Ty}
    (mapped : (header.parameters.mapM fun parameter => instantiate? header arguments explicit parameter.type) =
      some types) :
    List.Forall₂ Argument.Fits arguments types := by
  have stand := mapM_eq_some_iff.mp mapped
  rw [← List.map_fst_zip (Nat.le_of_eq acceptable.arity), List.forall₂_map_left_iff] at stand
  apply forall₂_of_zip acceptable.arity stand
  intro pair member ty stands
  exact (acceptable.fits pair member).eq_or_casts member (instantiate?_eq_some_iff.mp stands)

/-- What a header comes to depends on the types of the arguments alone. -/
theorem instance?_congr (same : others.map (·.ty) = arguments.map (·.ty)) :
    instance? header others explicit = instance? header arguments explicit := by
  have instantiated : ∀ type, instantiate? header others explicit type = instantiate? header arguments explicit type :=
    instantiate?_congr same
  have bound : ∀ name, bound? header others explicit name = bound? header arguments explicit name :=
    bound?_congr same
  simp only [instance?, length_eq_of_types same, all_accepts_congr same, instantiated, bound]
  split
  case isFalse => rfl
  case isTrue admissible =>
    cases mapped : header.parameters.mapM fun parameter => instantiate? header arguments explicit parameter.type with
    | none => rfl
    | some types =>
      -- Only here the places could show, and only if an argument did not fit its parameter.
      have acceptable : Acceptable header arguments explicit := by
        rw [← instance?_isSome, instance?, if_pos admissible, mapped]
        rfl
      simp only [Option.bind_eq_bind, Option.bind_some, zipWith_inSpaceOf_congr same (acceptable.forall₂_fits mapped)]

theorem resolveFrom_congr (same : others.map (·.ty) = arguments.map (·.ty)) (position : Nat) (headers : List Header) :
    resolveFrom others explicit position headers = resolveFrom arguments explicit position headers := by
  induction headers generalizing position with
  | nil => rfl
  | cons header rest ih => rw [resolveFrom, resolveFrom, instance?_congr same, ih]

/-- A pointer parameter of a header that is filled in points into the space of its argument. -/
theorem forall₂_pointsAs {filled : Instance} (found : instance? header arguments explicit = some filled) :
    List.Forall₂ Argument.PointsAs arguments filled.parameters := by
  have acceptable : Acceptable header arguments explicit := by
    rw [← instance?_isSome, found]
    rfl
  apply (fills_of_instance? found).forall₂_arguments acceptable
  intro pair member declared stands
  have fits : pair.2.Fits declared := (acceptable.fits pair member).eq_or_casts member stands
  exact fits.pointsAs

/-- Every pointer among the parameters of a call that resolves belongs to an argument that is a pointer into the same
space, and what a call resolves to depends on the types of its arguments alone, not on where they are held. -/
theorem resolve?_pointer_spaces (function : Function) (arguments : List Argument) (explicit : List Ty) :
    (∀ resolution, resolve? function arguments explicit = some resolution →
      List.Forall₂ Argument.PointsAs arguments resolution.parameters)
    ∧ ∀ others : List Argument, others.map (·.ty) = arguments.map (·.ty) →
      resolve? function others explicit = resolve? function arguments explicit := by
  constructor
  · intro resolution found
    rcases resolveFrom_eq_some found with ⟨_, header, _, _, _, filled, _⟩
    exact forall₂_pointsAs filled
  · intro others same
    exact resolveFrom_congr same 0 function.headers

/-- A function with a pointer parameter of its own and two for a generic, as in `link<T>(at: ptr<i32>, a: T, b: T)`. -/
def linking : Function :=
  let pointer : HeaderType := .concrete (.pointer .i32 .function)
  ⟨"link", [⟨[⟨"T", none⟩], [⟨"at", pointer⟩, ⟨"a", .generic "T"⟩, ⟨"b", .generic "T"⟩], .concrete .void⟩], none⟩

def pointers (held : AddressSpace) : List Argument :=
  [⟨.pointer .i32 .workgroup, held⟩, ⟨.pointer .f32 .privateSpace, held⟩, ⟨.pointer .f32 .storage, held⟩]

theorem linking_pointer_spaces :
    ∃ resolution, resolve? linking (pointers .function) [] = some resolution
      ∧ resolution.generics = [("T", .pointer .f32 .privateSpace)]
      ∧ resolution.parameters = (pointers .function).map (·.ty)
      ∧ List.Forall₂ Argument.PointsAs (pointers .function) resolution.parameters
      ∧ resolve? linking (pointers .uniform) [] = some resolution := by
  rcases resolve?_pointer_spaces linking (pointers .function) [] with ⟨spaces, alike⟩
  have found : resolve? linking (pointers .function) [] =
      some ⟨⟨[("T", .pointer .f32 .privateSpace)], (pointers .function).map (·.ty), .resolved .void⟩, 0⟩ := by decide
  exact ⟨_, found, rfl, rfl, spaces _ found, (alike (pointers .uniform) rfl).trans found⟩

end Filling

end Overload

end ShaderCheck
