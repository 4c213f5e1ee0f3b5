import ShaderCheck.Proofs.Combining
import ShaderCheck.Proofs.FoldedRanges

/-!
The members of an enum. An enum takes its type from the first member with a value. What becomes of a member is then told
by its place alone, which is the member and what is written before it: it is kept with its value, or refused for one
reason.

Members are collected one after the other, with a count that is carried along. What is kept and what is refused in the
end is what the places tell, in their order. The count is held to 64 bits and to nothing else. At their end the whole
declaration is lost, and before it numbers are kept that the type of the enum has no room for.
-/

namespace ShaderCheck

namespace EnumMemberDecl

inductive Written where
  | nothing
  | number (value : Int64)
  | text (value : String)
  | other

def written (member : EnumMemberDecl) : Written :=
  match member.value with
  | none => .nothing
  | some literal =>
    match Literal.read? literal.text with
    | some (.integer value, _) => .number value
    | some (.string value, _) => .text value
    | _ => .other

def type? (member : EnumMemberDecl) : Option Ty :=
  match member.written with
  | .nothing | .number _ => some .i32
  | .text _ => some .string
  | .other => none

def fits (ty : Ty) (member : EnumMemberDecl) : Bool := member.type? = some ty

/-- The number of a member, if it is one. Where nothing is written, it is the next one. -/
def number? (next : Int) (member : EnumMemberDecl) : Option Int :=
  match member.written with
  | .nothing => some next
  | .number value => some value.toInt
  | .text _ | .other => none

def value? (next : Int64) (member : EnumMemberDecl) : Option Constant :=
  match member.written with
  | .nothing => some (.integer next)
  | .number value => some (.integer value)
  | .text value => some (.string value)
  | .other => none

end EnumMemberDecl

inductive EnumFate where
  | kept (value : Constant)
  | refused (cause : Cause)
  deriving DecidableEq

namespace EnumFate

def value? : EnumFate → Option Constant
  | .kept value => some value
  | .refused _ => none

def cause? : EnumFate → Option Cause
  | .kept _ => none
  | .refused cause => some cause

end EnumFate

/-- A member of an enum, and those before it, the nearest first. -/
structure EnumPlace where
  before : List EnumMemberDecl
  member : EnumMemberDecl

namespace EnumPlace

def listed (before : List EnumMemberDecl) : List EnumMemberDecl → List EnumPlace
  | [] => []
  | member :: rest => ⟨before, member⟩ :: listed (member :: before) rest

/-- The number that follows some members of an enum, the nearest first. Only those of its type count. -/
def nextNumber (ty : Ty) : List EnumMemberDecl → Int
  | [] => 0
  | member :: before =>
    let next := nextNumber ty before
    if member.fits ty then (member.number? next).elim next (· + 1) else next

def counted? (ty : Ty) (place : EnumPlace) : Option Int :=
  if place.member.fits ty then place.member.number? (nextNumber ty place.before) else none

/-- What becomes of a member: it needs a value, the type of the enum, and a name of its own among those of that type. -/
def fate (enumeration : String) (ty : Ty) (place : EnumPlace) : EnumFate :=
  match place.member.value? (Int64.ofInt (nextNumber ty place.before)) with
  | none => .refused (.enumMemberValue place.member.name)
  | some value =>
    if !place.member.fits ty then .refused (.mixedEnum enumeration place.member.name)
    else if place.before.any fun other => other.fits ty && other.name = place.member.name then
      .refused (.repeatedEnumMember enumeration place.member.name)
    else .kept value

def kept? (enumeration : String) (ty : Ty) (place : EnumPlace) : Option (String × Constant) :=
  (place.fate enumeration ty).value?.map (place.member.name, ·)

end EnumPlace

namespace EnumDecl

/-- The type of an enum: that of its first member with a value. -/
def type (declaration : EnumDecl) : Ty := (declaration.members.findSome? EnumMemberDecl.type?).getD .i32

def places (declaration : EnumDecl) : List EnumPlace := EnumPlace.listed [] declaration.members

end EnumDecl

namespace Attempt

variable {α β : Type}

structure Runs (step : Attempt α) (outcome : Except Fault α) (causes : List Cause) : Prop where
  result : step.result = outcome
  causes : step.notes.incidents.map Incident.cause = causes

namespace Runs

variable {step : Attempt α} {next : α → Attempt β} {a : α} {outcome : Except Fault β} {first second : List Cause}

theorem pure (a : α) : Runs (Pure.pure a : Attempt α) (.ok a) [] := ⟨rfl, rfl⟩

theorem lift (step : Noted α) : Runs (liftM step : Attempt α) (.ok step.value) step.causes :=
  ⟨result_lift step, by rw [notes_lift, Noted.causes]⟩

theorem bind (runs : Runs step (.ok a) first) (later : Runs (next a) outcome second) :
    Runs (step >>= next) outcome (first ++ second) := by
  constructor
  · rw [result_bind, runs.result]
    exact later.result
  · rw [notes_bind_ok runs.result, Notes.incidents_append, List.map_append, runs.causes, later.causes]

theorem map (runs : Runs step (.ok a) first) (f : α → β) :
    Runs (step >>= fun a => Pure.pure (f a)) (.ok (f a)) first := by
  have both : Runs (step >>= fun a => Pure.pure (f a)) (.ok (f a)) (first ++ []) := runs.bind (.pure (f a))
  rwa [List.append_nil] at both

theorem bind_error {fault : Fault} (runs : Runs step (.error fault) first) :
    Runs (step >>= next) (.error fault) first := by
  constructor
  · rw [result_bind, runs.result]
    rfl
  · rw [notes_bind_error runs.result, runs.causes]

end Runs

end Attempt

open Attempt

theorem Env.causes_register (env : Env) (node : NodeRef) (taken : Cause) (symbols : Option Symbols) :
    (env.register node taken symbols).causes = if symbols.isSome then [] else [taken] := by
  cases symbols <;> rfl

namespace EnumDecl

open EnumPlace

theorem toInt_add_one {value : Int64} (small : value ≠ Int64.maxValue) : (value + 1).toInt = value.toInt + 1 := by
  have low := Int64.le_toInt value
  have high := Int64.toInt_le value
  have below : value.toInt ≠ Int64.maxValue.toInt := fun same => small (Int64.toInt_inj.mp same)
  rw [Int64.toInt_maxValue] at high below
  rw [Int64.toInt_add, Int64.toInt_one]
  exact Int.bmod_eq_of_le (by omega) (by omega)

/-- What was collected of the members before is what they tell, where some are still to come and the enum is of a
type. -/
structure Tracks (ty : Ty) (before rest : List EnumMemberDecl) (collected : Collected) : Prop where
  type : (collected.underlying.or (rest.findSome? EnumMemberDecl.type?)).getD .i32 = ty
  names : ∀ name, collected.members.any (·.1 = name) = before.any fun other => other.fits ty && other.name = name
  next : collected.next.toInt = nextNumber ty before

variable {ty : Ty} {before rest : List EnumMemberDecl} {member : EnumMemberDecl} {collected : Collected}
  {node : NodeRef} {enumeration : String}

namespace Tracks

theorem start (declaration : EnumDecl) : Tracks declaration.type [] declaration.members {} where
  type := rfl
  names _ := rfl
  next := rfl

/-- The type is that of the members before, or else that of the next one, or else that of a later one. -/
theorem type_cases (tracks : Tracks ty before (member :: rest) collected) :
    collected.underlying = some ty ∨ collected.underlying = none ∧ member.type? = some ty
      ∨ collected.underlying = none ∧ member.type? = none ∧ (rest.findSome? EnumMemberDecl.type?).getD .i32 = ty := by
  have type := tracks.type
  rw [List.findSome?_cons] at type
  cases given : collected.underlying with
  | some other => exact .inl (congrArg some (by simpa [given] using type))
  | none =>
    cases own : member.type? with
    | some other => exact .inr (.inl ⟨rfl, congrArg some (by simpa [given, own] using type)⟩)
    | none => exact .inr (.inr ⟨rfl, rfl, by simpa [given, own] using type⟩)

/-- A member is of another type than those before it exactly if it does not go with the enum. -/
theorem mixes (tracks : Tracks ty before (member :: rest) collected) {own : Ty} (typed : member.type? = some own) :
    collected.underlying.any (· ≠ own) = !member.fits ty := by
  obtain given | ⟨given, same⟩ | ⟨-, untyped, -⟩ := tracks.type_cases
  · simp [given, EnumMemberDecl.fits, typed, eq_comm]
  · simp [given, EnumMemberDecl.fits, same]
  · simp [untyped] at typed

/-- A member that does not go with the enum leaves all as it was. -/
theorem skip (tracks : Tracks ty before (member :: rest) collected) (unfit : member.fits ty = false) :
    Tracks ty (member :: before) rest collected where
  type := by
    obtain given | ⟨-, same⟩ | ⟨given, -, type⟩ := tracks.type_cases
    · simp [given]
    · simp [EnumMemberDecl.fits, same] at unfit
    · simpa [given] using type
  names name := by rw [List.any_cons, unfit, tracks.names, Bool.false_and, Bool.false_or]
  next := by rw [nextNumber, unfit, tracks.next]; rfl

/-- A member that goes with the enum is counted, and its name is taken from then on. -/
theorem count (tracks : Tracks ty before (member :: rest) collected) (fit : member.fits ty = true) {after : Int64}
    (counted : after.toInt = nextNumber ty (member :: before)) {members : List (String × Constant)}
    (named : ∀ name, members.any (·.1 = name) = (member.name = name || collected.members.any (·.1 = name))) :
    Tracks ty (member :: before) rest ⟨members, some ty, after⟩ where
  type := rfl
  names name := by rw [named, List.any_cons, fit, tracks.names, Bool.true_and]
  next := counted

end Tracks

theorem memberValue_runs (node : NodeRef) (next : Int64) (member : EnumMemberDecl) :
    Runs (liftM (memberValue node next member)) (.ok (member.value? next))
      ((member.value? next).elim [.enumMemberValue member.name] fun _ => []) := by
  unfold memberValue EnumMemberDecl.value? EnumMemberDecl.written
  cases member.value with
  | none => exact .lift _
  | some literal =>
    simp only
    obtain _ | ⟨value, ty⟩ := Literal.read? literal.text
    · exact .lift _
    · cases value <;> exact .lift _

theorem memberValue_of_some {next : Int64} {value : Constant} (given : member.value? next = some value) :
    Runs (liftM (memberValue node next member)) (.ok (some value)) [] := by
  have runs := memberValue_runs node next member
  rwa [given] at runs

theorem type?_of_value? {next : Int64} {value : Constant} (given : member.value? next = some value) :
    member.type? = some (valueType value) := by
  unfold EnumMemberDecl.value? at given
  unfold EnumMemberDecl.type?
  split at given <;> cases given <;> rfl

theorem not_fits_of_value? {next : Int64} (given : member.value? next = none) : member.fits ty = false := by
  unfold EnumMemberDecl.value? at given
  unfold EnumMemberDecl.fits EnumMemberDecl.type?
  split at given <;> simp_all

theorem number?_eq (next : Int64) (member : EnumMemberDecl) :
    member.number? next.toInt = ((member.value? next).bind Constant.integer?).map Int64.toInt := by
  unfold EnumMemberDecl.number? EnumMemberDecl.value?
  split <;> rfl

/-- A member counts as a number exactly if it goes with the enum and that is its value. -/
theorem counted?_eq_some_iff {next : Int64} (same : next.toInt = nextNumber ty before) {number : Int} :
    counted? ty ⟨before, member⟩ = some number ↔
      member.fits ty = true ∧ ∃ value, member.value? next = some (.integer value) ∧ value.toInt = number := by
  rw [counted?, Option.ite_none_right_eq_some, ← same, number?_eq, Option.map_eq_some_iff]
  simp only [Constant.bind_integer?_eq_some]

theorem nextNumber_of_value? {next : Int64} {value : Constant} (fit : member.fits ty = true)
    (given : member.value? next = some value) (same : next.toInt = nextNumber ty before) :
    nextNumber ty (member :: before) = (value.integer?.map Int64.toInt).elim next.toInt (· + 1) := by
  rw [nextNumber, fit, if_pos rfl, ← same, number?_eq, given, Option.bind_some]

theorem numberAfter_overflows (next : Int64) :
    Runs (numberAfter next (.integer Int64.maxValue)) (.error .numberingOverflow) [] := ⟨rfl, rfl⟩

theorem numberAfter_runs {value : Constant} (small : value ≠ .integer Int64.maxValue) (next : Int64) :
    ∃ after, Runs (numberAfter next value) (.ok after) [] ∧
      after.toInt = (value.integer?.map Int64.toInt).elim next.toInt (· + 1) := by
  cases value with
  | integer number =>
    have below : number ≠ Int64.maxValue := fun same => small (congrArg Constant.integer same)
    rw [numberAfter, if_neg below]
    exact ⟨number + 1, .pure _, toInt_add_one below⟩
  | float | boolean | string => exact ⟨next, .pure _, rfl⟩

theorem collectMember_of_none (given : member.value? collected.next = none) :
    Runs (collectMember node enumeration collected member) (.ok collected) [.enumMemberValue member.name] := by
  have value := memberValue_runs node collected.next member
  rw [given] at value
  exact value.bind (.pure _)

theorem collectMember_of_mixed {value : Constant} (given : member.value? collected.next = some value)
    (mixed : collected.underlying.any (· ≠ valueType value) = true) :
    Runs (collectMember node enumeration collected member) (.ok collected) [.mixedEnum enumeration member.name] := by
  refine (memberValue_of_some given).bind ?_
  simp only [mixed]
  exact (Runs.lift _).bind (.pure _)

theorem collectMember_of_repeated {value : Constant} (given : member.value? collected.next = some value)
    (fits : collected.underlying.any (· ≠ valueType value) = false) {next : Int64}
    (counted : Runs (numberAfter collected.next value) (.ok next) [])
    (taken : collected.members.any (·.1 = member.name) = true) :
    Runs (collectMember node enumeration collected member)
      (.ok ⟨collected.members, some (valueType value), next⟩) [.repeatedEnumMember enumeration member.name] := by
  refine (memberValue_of_some given).bind ?_
  simp only [fits, taken]
  exact counted.bind ((Runs.lift _).bind (.pure _))

theorem collectMember_of_new {value : Constant} (given : member.value? collected.next = some value)
    (fits : collected.underlying.any (· ≠ valueType value) = false) {next : Int64}
    (counted : Runs (numberAfter collected.next value) (.ok next) [])
    (new : collected.members.any (·.1 = member.name) = false) :
    Runs (collectMember node enumeration collected member)
      (.ok ⟨collected.members ++ [(member.name, value)], some (valueType value), next⟩) [] := by
  refine (memberValue_of_some given).bind ?_
  simp only [fits, new]
  exact counted.bind (.pure _)

/-- After a member that counts as the last number of all there is no next one. -/
theorem collectMember_overflows (node : NodeRef) (enumeration : String)
    (tracks : Tracks ty before (member :: rest) collected)
    (last : counted? ty ⟨before, member⟩ = some Int64.maxValue.toInt) :
    Runs (collectMember node enumeration collected member) (.error .numberingOverflow) [] := by
  obtain ⟨fit, largest, given, same⟩ := (counted?_eq_some_iff tracks.next).mp last
  obtain rfl := Int64.toInt_inj.mp same
  have fits := tracks.mixes (type?_of_value? given)
  refine (memberValue_of_some given).bind ?_
  simp only [fits, fit]
  exact (numberAfter_overflows _).bind_error

/-- Any other member is kept or refused, by what its place tells. -/
theorem collectMember_runs (node : NodeRef) (enumeration : String)
    (tracks : Tracks ty before (member :: rest) collected)
    (small : counted? ty ⟨before, member⟩ ≠ some Int64.maxValue.toInt) :
    ∃ after, Runs (collectMember node enumeration collected member) (.ok after)
        (fate enumeration ty ⟨before, member⟩).cause?.toList ∧
      after.members = collected.members ++ (kept? enumeration ty ⟨before, member⟩).toList ∧
      Tracks ty (member :: before) rest after := by
  -- What a place tells is counted without a bound, and what is carried along in 64 bits.
  have next : Int64.ofInt (nextNumber ty before) = collected.next := by rw [← tracks.next, Int64.ofInt_toInt]
  unfold kept? fate
  simp only [next]
  cases given : member.value? collected.next with
  | none =>
    have unfit : member.fits ty = false := not_fits_of_value? given
    exact ⟨collected, collectMember_of_none given, (List.append_nil _).symm, tracks.skip unfit⟩
  | some value =>
    have mixes := tracks.mixes (type?_of_value? given)
    cases fit : member.fits ty with
    | false =>
      rw [fit] at mixes
      exact ⟨collected, collectMember_of_mixed given mixes, (List.append_nil _).symm, tracks.skip fit⟩
    | true =>
      rw [fit] at mixes
      have same : valueType value = ty := by
        simpa [EnumMemberDecl.fits, type?_of_value? given] using fit
      have small : value ≠ .integer Int64.maxValue := by
        rintro rfl
        exact small ((counted?_eq_some_iff tracks.next).mpr ⟨fit, _, given, rfl⟩)
      obtain ⟨after, counted, number⟩ := numberAfter_runs small collected.next
      rw [← nextNumber_of_value? fit given tracks.next] at number
      simp only [← tracks.names]
      cases taken : collected.members.any (·.1 = member.name) with
      | true =>
        refine ⟨_, collectMember_of_repeated given mixes counted taken, (List.append_nil _).symm, ?_⟩
        rw [same]
        refine tracks.count fit number fun name => ?_
        by_cases own : member.name = name
        · simp [← own, taken]
        · simp [own]
      | false =>
        refine ⟨_, collectMember_of_new given mixes counted taken, rfl, ?_⟩
        rw [same]
        refine tracks.count fit number fun name => ?_
        simp [Bool.or_comm]

/-- What is collected of some members, if none of them counts as the last number of all: what their places tell. -/
theorem collectMembers_runs (node : NodeRef) (enumeration : String) (tracks : Tracks ty before rest collected)
    (small : ∀ place ∈ listed before rest, place.counted? ty ≠ some Int64.maxValue.toInt) :
    ∃ after, Runs (collectMembers node enumeration collected rest) (.ok after)
        ((listed before rest).filterMap fun place => (place.fate enumeration ty).cause?) ∧
      after.members = collected.members ++ (listed before rest).filterMap (kept? enumeration ty) ∧
      after.underlying.getD .i32 = ty ∧
      ∀ place ∈ listed before rest, ∃ next : Int64, next.toInt = nextNumber ty place.before := by
  induction rest generalizing before collected with
  | nil => exact ⟨collected, .pure _, (List.append_nil _).symm, by simpa using tracks.type, nofun⟩
  | cons member rest ih =>
    obtain ⟨first, others⟩ := List.forall_mem_cons.mp small
    obtain ⟨middle, one, kept, later⟩ := collectMember_runs node enumeration tracks first
    obtain ⟨after, more, members, type, held⟩ := ih later others
    rw [List.filterMap_eq_flatMap_toList] at more members ⊢
    rw [List.filterMap_eq_flatMap_toList, listed, List.flatMap_cons, List.flatMap_cons]
    refine ⟨after, one.bind more, by rw [members, kept, List.append_assoc], type, ?_⟩
    exact List.forall_mem_cons.mpr ⟨⟨collected.next, tracks.next⟩, held⟩

theorem collectMembers_overflows (node : NodeRef) (enumeration : String)
    (tracks : Tracks ty before rest collected) {place : EnumPlace} (placed : place ∈ listed before rest)
    (last : place.counted? ty = some Int64.maxValue.toInt) :
    (collectMembers node enumeration collected rest).result = .error .numberingOverflow := by
  induction rest generalizing before collected with
  | nil => cases placed
  | cons member rest ih =>
    by_cases here : counted? ty ⟨before, member⟩ = some Int64.maxValue.toInt
    · exact (collectMember_overflows node enumeration tracks here).bind_error.result
    · obtain ⟨middle, one, -, tracks⟩ := collectMember_runs node enumeration tracks here
      obtain rfl | later := List.mem_cons.mp placed
      · exact (here last).elim
      · rw [collectMembers, result_bind, one.result]
        exact ih tracks later

/-- No member counts as the last number of all, so that there is always a next one. -/
def Counts (declaration : EnumDecl) : Prop :=
  ∀ place ∈ declaration.places, place.counted? declaration.type ≠ some Int64.maxValue.toInt

def described (declaration : EnumDecl) : Enumeration :=
  ⟨declaration.name, declaration.type, declaration.places.filterMap (kept? declaration.name declaration.type)⟩

def memberCauses (declaration : EnumDecl) : List Cause :=
  declaration.places.filterMap fun place => (place.fate declaration.name declaration.type).cause?

section

variable {declaration : EnumDecl} (counts : declaration.Counts)

include counts

theorem collect_runs :
    Runs declaration.collect (.ok declaration.described)
      (declaration.memberCauses ++ if declaration.members.isEmpty then [.emptyEnum declaration.name] else []) := by
  let node : NodeRef := ⟨.enumDeclaration, declaration.range⟩
  obtain ⟨collected, runs, members, type, -⟩ :=
    collectMembers_runs node declaration.name (Tracks.start declaration) counts
  have found : Enumeration.mk declaration.name (collected.underlying.getD .i32) collected.members =
      declaration.described := by
    rw [type, members]
    rfl
  have last := (Runs.lift (Noted.expect (!declaration.members.isEmpty) node (.emptyEnum declaration.name))).map
    fun _ => Enumeration.mk declaration.name (collected.underlying.getD .i32) collected.members
  rw [← found]
  refine runs.bind ?_
  simpa using last

/-- A declaration is checked to what its places tell. Anything else that is wrong with it is about the whole enum. -/
theorem check_runs (env : Env) :
    ∃ after others, Runs (declaration.check env) (.ok (.enumeration declaration.range declaration.described, after))
        (declaration.memberCauses ++ others) ∧
      ∀ cause ∈ others, cause = .emptyEnum declaration.name ∨ cause = .typeNameTaken declaration.name := by
  have registers := (Runs.lift (env.register ⟨.enumDeclaration, declaration.range⟩ (.typeNameTaken declaration.name)
    (env.symbols.addEnum? declaration.described))).map fun after =>
      (TypedDecl.enumeration declaration.range declaration.described, after)
  refine ⟨_, _, List.append_assoc _ _ _ ▸ (collect_runs counts).bind registers, fun cause added => ?_⟩
  obtain empty | taken := List.mem_append.mp added
  · exact .inl (by simpa using (List.mem_ite_nil_right.mp empty).2)
  · rw [Env.causes_register] at taken
    exact .inr (by simpa using (List.mem_ite_nil_left.mp taken).2)

/-- The next number is held before every member. -/
theorem nextNumber_held {place : EnumPlace} (placed : place ∈ declaration.places) :
    (Int64.ofInt (nextNumber declaration.type place.before)).toInt = nextNumber declaration.type place.before := by
  obtain ⟨-, -, -, -, held⟩ :=
    collectMembers_runs ⟨.enumDeclaration, declaration.range⟩ declaration.name (Tracks.start declaration) counts
  obtain ⟨next, same⟩ := held place placed
  rw [← same, Int64.ofInt_toInt]

end

/-- A declaration is lost exactly if some member counts as the last number of all. -/
theorem check_overflows_iff (env : Env) (declaration : EnumDecl) :
    (declaration.check env).result = .error .numberingOverflow ↔ ¬ declaration.Counts := by
  constructor
  · intro faults counts
    obtain ⟨after, others, runs, -⟩ := check_runs counts env
    cases runs.result.symm.trans faults
  · intro lost
    obtain ⟨place, placed, last⟩ : ∃ place ∈ declaration.places,
        place.counted? declaration.type = some Int64.maxValue.toInt := by simpa [Counts] using lost
    have collected := collectMembers_overflows ⟨.enumDeclaration, declaration.range⟩ declaration.name
      (Tracks.start declaration) placed last
    simp only [check, collect, result_bind, collected, Except.bind]

end EnumDecl

namespace EnumPlace

variable {enumeration : String} {ty : Ty} {place : EnumPlace} {value : Constant}

theorem fate_eq_kept_iff : place.fate enumeration ty = .kept value ↔
    place.member.value? (Int64.ofInt (nextNumber ty place.before)) = some value ∧ place.member.fits ty = true ∧
      ∀ other ∈ place.before, other.fits ty = true → other.name ≠ place.member.name := by
  unfold fate
  cases place.member.value? (Int64.ofInt (nextNumber ty place.before)) with
  | none => simp
  | some found =>
    cases place.member.fits ty with
    | false => simp
    | true =>
      simp only [Bool.not_true, Bool.false_eq_true, if_false]
      split <;> simp_all

theorem kept?_eq_some_iff {entry : String × Constant} :
    place.kept? enumeration ty = some entry ↔
      place.fate enumeration ty = .kept entry.2 ∧ place.member.name = entry.1 := by
  obtain ⟨name, value⟩ := entry
  unfold kept?
  cases place.fate enumeration ty <;> simp [EnumFate.value?, and_comm]

def earlier : List EnumMemberDecl → List EnumPlace
  | [] => []
  | member :: before => ⟨before, member⟩ :: earlier before

end EnumPlace

namespace EnumDecl

open EnumPlace

theorem type_cases (declaration : EnumDecl) : declaration.type = .i32 ∨ declaration.type = .string := by
  unfold type
  cases found : declaration.members.findSome? EnumMemberDecl.type? with
  | none => exact .inl rfl
  | some ty =>
    obtain ⟨member, -, typed⟩ := List.exists_of_findSome?_eq_some found
    unfold EnumMemberDecl.type? at typed
    split at typed <;> cases typed <;> simp

/-- A member that is kept and counts as a number is kept with it. -/
theorem kept_of_counted? {declaration : EnumDecl} (counts : declaration.Counts) {place : EnumPlace}
    (placed : place ∈ declaration.places) {number : Int} (counted : place.counted? declaration.type = some number)
    (kept : (place.fate declaration.name declaration.type).cause? = none) :
    ∃ value, value.toInt = number ∧ (place.member.name, .integer value) ∈ declaration.described.members := by
  obtain ⟨fit, value, given, same⟩ := (counted?_eq_some_iff (nextNumber_held counts placed)).mp counted
  cases told : place.fate declaration.name declaration.type with
  | refused cause => simp [told, EnumFate.cause?] at kept
  | kept known =>
    obtain ⟨known_given, -, -⟩ := fate_eq_kept_iff.mp told
    obtain ⟨⟩ := given.symm.trans known_given
    exact ⟨value, same, List.mem_filterMap.mpr ⟨place, placed, kept?_eq_some_iff.mpr ⟨told, rfl⟩⟩⟩

/-- A declaration is lost exactly if a member counts as the last number of 64 bits. It is checked, with all its numbers
in the range of its type, exactly if no member does, and those that are kept count as numbers in that range. -/
theorem check_numbers_iff (env : Env) (declaration : EnumDecl) :
    ((declaration.check env).result = .error .numberingOverflow ↔
      ∃ place ∈ declaration.places, place.counted? declaration.type = some Int64.maxValue.toInt) ∧
    ((∃ found after, (declaration.check env).result = .ok (.enumeration declaration.range found, after) ∧
        ∀ entry ∈ found.members, ∀ number, entry.2 = .integer number → Literal.fits .i32 number.toInt = true) ↔
      ∀ place ∈ declaration.places, ∀ number, place.counted? declaration.type = some number →
        number ≠ Int64.maxValue.toInt ∧
          ((place.fate declaration.name declaration.type).cause? = none → Literal.fits .i32 number = true)) := by
  refine ⟨by simp [check_overflows_iff, Counts], ?_, ?_⟩
  · rintro ⟨found, after, runs, ranged⟩ place placed number counted
    have counts : declaration.Counts := by
      by_contra lost
      cases runs.symm.trans ((check_overflows_iff env declaration).mpr lost)
    obtain ⟨_, _, checks, -⟩ := check_runs counts env
    obtain ⟨⟩ := runs.symm.trans checks.result
    refine ⟨fun last => counts place placed (last ▸ counted), fun kept => ?_⟩
    obtain ⟨value, rfl, member⟩ := kept_of_counted? counts placed counted kept
    exact ranged _ member value rfl
  · intro ranged
    have counts : declaration.Counts := fun place placed last => (ranged place placed _ last).1 rfl
    obtain ⟨after, _, checks, -⟩ := check_runs counts env
    refine ⟨declaration.described, after, checks.result, fun entry member number whole => ?_⟩
    obtain ⟨place, placed, told⟩ := List.mem_filterMap.mp member
    obtain ⟨kept, -⟩ := kept?_eq_some_iff.mp told
    obtain ⟨given, fit, -⟩ := fate_eq_kept_iff.mp kept
    have counted := (counted?_eq_some_iff (nextNumber_held counts placed)).mpr ⟨fit, number, whole ▸ given, rfl⟩
    exact (ranged place placed _ counted).2 (by rw [kept]; rfl)

/-- The first member cannot be followed by another, and the second enum keeps a number that is not of its type. -/
theorem check_out_of_range :
    let span : Span := ⟨⟨1, 1⟩, ⟨1, 9⟩⟩
    let mode (text : String) : EnumDecl := ⟨span, "Mode", [⟨span, "A", some ⟨span, text⟩⟩]⟩
    ((mode "9223372036854775807").check {}).result = .error .numberingOverflow ∧
      (∃ after, ((mode "3000000000").check {}).result =
        .ok (.enumeration span ⟨"Mode", .i32, [("A", .integer 3000000000)]⟩, after)) ∧
      Literal.fits .i32 3000000000 = false := by
  exact ⟨rfl, ⟨_, rfl⟩, rfl⟩

end EnumDecl

end ShaderCheck
