import ShaderCheck.Proofs.Fading
import ShaderCheck.Proofs.FormedTypes

/-!
Written conversions compose: what can be converted in two steps can be converted at once. A cast and a conversion between
numbers are steps that go on from each other, and so are those lifted to vectors and matrices. An enum is opened on the
way from it but not on the way to it, so the one thing to ask is that a step from an enum to an enum by the same name
leaves what is inside alone. In a document it does, where a name stands for one enum.
-/

namespace ShaderCheck

open Noted

namespace Ty

inductive Converts : Ty → Ty → Prop where
  | cast {a b : Ty} (cast : Casts a b) : Converts a b
  | numeric (a b : NumericKind) : Converts (.numeric a) (.numeric b)
  | vector (n : Nat) {a b : Ty} (elements : Converts a b) : Converts (.vector n a) (.vector n b)
  | matrix (r c : Nat) {a b : Ty} (elements : Converts a b) : Converts (.matrix r c a) (.matrix r c b)
  | opened (name : String) {underlying b : Ty} (inside : Converts underlying b) :
      Converts (.enumeration name underlying) b

theorem Converts.of_convertsTo {a b : Ty} (converts : a.convertsTo b = true) : Converts a b := by
  fun_induction Ty.convertsTo a b with
  | case1 x y => exact .numeric x y
  | case2 m a n b ih =>
    rw [Bool.and_eq_true, beq_iff_eq] at converts
    exact converts.1 ▸ .vector m (ih converts.2)
  | case3 r c a s d b ih =>
    simp only [Bool.and_eq_true, beq_iff_eq] at converts
    exact converts.1.1 ▸ converts.1.2 ▸ .matrix r c (ih converts.2)
  | case4 name underlying target ih =>
    rcases Bool.or_eq_true_iff.mp converts with cast | inside
    · exact .cast (castsTo_iff.mp cast)
    · exact .opened name (ih inside)
  | case5 => exact .cast (castsTo_iff.mp converts)

theorem Casts.convertsTo {a b : Ty} (cast : Casts a b) : a.convertsTo b = true := by
  induction cast with
  | vector n _ ih | matrix r c _ ih => simp [Ty.convertsTo, ih]
  | pointer s t same => simp [Ty.convertsTo, Ty.castsTo, same]
  | void | bool | string | numeric | enumeration | struct => simp [Ty.convertsTo, Ty.castsTo, Ty.equals]

theorem Converts.convertsTo {a b : Ty} (converts : Converts a b) : a.convertsTo b = true := by
  induction converts with
  | cast cast => exact cast.convertsTo
  | numeric => rfl
  | vector n _ ih | matrix r c _ ih | opened name _ ih => simp [Ty.convertsTo, ih]

theorem convertsTo_iff {a b : Ty} : a.convertsTo b = true ↔ Converts a b :=
  ⟨Converts.of_convertsTo, Converts.convertsTo⟩

theorem isInvalid_iff {ty : Ty} : ty.isInvalid = true ↔ ty = .invalid := by
  cases ty <;> simp [isInvalid]

/-- The enums that a conversion may open, with the types of their values. Those that pointers and structs hold are only
ever told apart by name. -/
def enums : Ty → List (String × Ty)
  | .vector _ element => element.enums
  | .matrix _ _ element => element.enums
  | .enumeration name underlying => (name, underlying) :: underlying.enums
  | _ => []

/-- Two types do not know different enums by one name. -/
def EnumsAgree (a b : Ty) : Prop :=
  ∀ name first second, (name, first) ∈ a.enums → (name, second) ∈ b.enums → first = second

/-- A conversion may start from what casts into its source. -/
theorem Casts.converts_trans {a b c : Ty} (cast : Casts a b) (agree : EnumsAgree a b) (converts : Converts b c) :
    Converts a c := by
  induction converts generalizing a with
  | cast second => exact .cast (cast.trans second)
  | numeric x y =>
    cases cast with
    | numeric => exact .numeric _ y
  | vector n _ ih =>
    cases cast with
    | vector _ elements => exact .vector n (ih elements agree)
  | matrix rows columns _ ih =>
    cases cast with
    | matrix _ _ elements => exact .matrix rows columns (ih elements agree)
  | opened name inside =>
    cases cast with
    | enumeration _ held =>
      -- Both types hold an enum by this name, so what is inside of one is inside of the other.
      have same := agree name held _ List.mem_cons_self List.mem_cons_self
      exact .opened name (same ▸ inside)

theorem Converts.trans {a b c : Ty} (first : Converts a b) (agree : EnumsAgree a b) (second : Converts b c) :
    Converts a c := by
  induction first generalizing c with
  | cast cast => exact cast.converts_trans agree second
  | numeric x y =>
    cases second with
    | cast cast =>
      cases cast with
      | numeric _ => exact .numeric x _
    | numeric _ z => exact .numeric x z
  | vector n _ ih =>
    cases second with
    | cast cast =>
      cases cast with
      | vector _ elements => exact .vector n (ih agree (.cast elements))
    | vector _ elements => exact .vector n (ih agree elements)
  | matrix rows columns _ ih =>
    cases second with
    | cast cast =>
      cases cast with
      | matrix _ _ elements => exact .matrix rows columns (ih agree (.cast elements))
    | matrix _ _ elements => exact .matrix rows columns (ih agree elements)
  | opened name _ ih =>
    have inside := fun n u v listed => agree n u v (List.mem_cons_of_mem _ listed)
    exact .opened name (ih inside second)

/-- What a type is made of is registered, so an enum in it is the one that its name stands for. -/
theorem Formed.enums_registered {symbols : Symbols} {ty : Ty} (formed : ty.Formed symbols) {name : String}
    {underlying : Ty} (listed : (name, underlying) ∈ ty.enums) :
    (symbols.enumeration? name).map (·.underlying) = some underlying := by
  induction formed with
  | vector _ _ _ ih | matrix _ _ _ _ ih => exact ih listed
  | enumeration registered values =>
    rcases List.mem_cons.mp listed with same | inside
    · cases same
      rw [registered]
      rfl
    · rcases values with rfl | rfl <;> cases inside
  | invalid | void | bool | string | numeric | pointer | struct => cases listed

theorem Arises.enumsAgree {symbols : Symbols} {a b : Ty} (first : a.Arises symbols) (second : b.Arises symbols) :
    EnumsAgree a b := by
  intro name u v left right
  have composite : ∀ {ty : Ty} {entry}, entry ∈ ty.enums → ∀ kind, ty ≠ .numeric kind := by
    rintro _ _ listed kind rfl
    cases listed
  have one := (first.formed (composite left)).enums_registered left
  have other := (second.formed (composite right)).enums_registered right
  exact Option.some.inj (one.symm.trans other)

end Ty

namespace Expr

theorem ty_check_conversion (env : Env) (range : Span) (target : TypeRef) (x : Expr) :
    (check env (.conversion range target x)).value.facts.ty = (target.resolve env.symbols).value := rfl

/-- Nothing is reported about a conversion exactly if nothing is about its operand and its target, and the one converts
into the other or there is no type to convert. -/
theorem quiet_check_conversion (env : Env) (range : Span) (target : TypeRef) (x : Expr) :
    Quiet (check env (.conversion range target x)) ↔
      Quiet (check env x) ∧ Quiet (target.resolve env.symbols) ∧
        ((check env x).value.facts.ty = .invalid ∨ (target.resolve env.symbols).value = .invalid ∨
          (check env x).value.facts.ty.Converts (target.resolve env.symbols).value) := by
  simp only [check, checkConversion, within_bind, within_expect, within_pure, and_true, imp_false, Bool.not_eq_false,
    Bool.or_eq_true, Ty.isInvalid_iff, Ty.convertsTo_iff, or_assoc]

/-- Where a value can be converted in two steps, it can be converted in one. -/
theorem quiet_conversion_of_two {env : Env} {x : Expr} {middle target : TypeRef} {outer inner : Span} (range : Span)
    (valid : (middle.resolve env.symbols).value ≠ .invalid)
    (agree : (check env x).value.facts.ty.EnumsAgree (middle.resolve env.symbols).value)
    (quiet : Quiet (check env (.conversion outer target (.conversion inner middle x)))) :
    Quiet (check env (.conversion range target x)) := by
  rw [quiet_check_conversion, quiet_check_conversion, ty_check_conversion] at quiet
  rcases quiet with ⟨⟨operand, _, first⟩, resolved, second⟩
  rw [quiet_check_conversion]
  refine ⟨operand, resolved, ?_⟩
  rcases first with missing | missing | first
  · exact .inl missing
  · exact absurd missing valid
  · rcases second with missing | missing | second
    · exact absurd missing valid
    · exact .inr (.inl missing)
    · exact .inr (.inr (first.trans agree second))

/-- Conversions compose, as long as the types do not know different enums by one name: if a type converts into a second
and that into a third, the first converts into the third. So where nothing is reported about a value that is converted
into a type, and from that into another, nothing is reported if it is converted into the other at once. Where everything
in force comes from a document and its symbols are fully resolved, that takes no further conditions. -/
theorem conversions_compose :
    (∀ a b c : Ty, a.EnumsAgree b → a.convertsTo b = true → b.convertsTo c = true → a.convertsTo c = true)
    ∧ (∀ (env : Env) (x : Expr) (middle target : TypeRef) (outer inner range : Span),
      (middle.resolve env.symbols).value ≠ .invalid →
      (check env x).value.facts.ty.EnumsAgree (middle.resolve env.symbols).value →
      (check env (.conversion outer target (.conversion inner middle x))).notes.incidents = [] →
      (check env (.conversion range target x)).notes.incidents = [])
    ∧ ∀ env : Env, env.Formed → env.symbols.Whole →
      ∀ (x : Expr) (middle target : TypeRef) (outer inner range : Span),
      (check env (.conversion outer target (.conversion inner middle x))).notes.incidents = [] →
      (check env (.conversion range target x)).notes.incidents = [] := by
  simp only [Ty.convertsTo_iff, ← quiet_iff]
  refine ⟨?_, ?_, ?_⟩
  · intro a b c agree first second
    exact first.trans agree second
  · intro env x middle target outer inner range valid agree quiet
    exact quiet_conversion_of_two range valid agree quiet
  · intro env formed whole x middle target outer inner range quiet
    have named : Quiet (middle.resolve env.symbols) :=
      ((quiet_check_conversion ..).mp ((quiet_check_conversion ..).mp quiet).1).2.1
    have valid := (TypeRef.resolve_whole whole middle named).ne_invalid
    have value := (check_formed formed x).facts.arises
    have written := (TypeRef.resolve_formed formed.symbols middle).arises
    exact quiet_conversion_of_two range valid (value.enumsAgree written) quiet

def moded : Env :=
  let document : NodeRef := ⟨.document, .origin⟩
  { document := some document
    scopes := [⟨.global, .construct document, [⟨"m", .enumeration "Mode" .i32, .variable, .privateSpace, none⟩]⟩]
    symbols := { enums := [⟨"Mode", .i32, [("Fast", .integer 0)]⟩] } }

theorem moded_formed : moded.Formed := by
  have mode : (Ty.enumeration "Mode" .i32).Formed moded.symbols := .enumeration rfl (.inl rfl)
  refine ⟨?_, by simp [moded], ?_, by simp [moded], by simp [moded]⟩
  · intro scope opened binding bound
    have opened := List.mem_singleton.mp opened
    subst opened
    have bound := List.mem_singleton.mp bound
    subst bound
    exact ⟨mode.arises, fun _ => mode⟩
  · intro enumeration registered
    have registered := List.mem_singleton.mp registered
    subst registered
    exact mode

/-- The conversion `u32(Mode(m))`, and so `u32(m)`. -/
theorem moded_conversions :
    let type (name : String) : TypeRef := .mk .origin name []
    let m : Expr := .reference .origin "m"
    moded.Formed ∧ moded.symbols.Whole
    ∧ (check moded (.conversion .origin (type "u32") (.conversion .origin (type "Mode") m))).notes.incidents = []
    ∧ (check moded (.conversion .origin (type "u32") m)).notes.incidents = []
    ∧ (check moded (.conversion .origin (type "bool") m)).notes.incidents ≠ [] := by
  intro type m
  have whole : moded.symbols.Whole := ⟨by simp [moded], by simp [moded], by simp [moded]⟩
  have twice :
      (check moded (.conversion .origin (type "u32") (.conversion .origin (type "Mode") m))).notes.incidents = [] := by
    decide +kernel
  rcases conversions_compose with ⟨_, _, once⟩
  exact ⟨moded_formed, whole, twice, once moded moded_formed whole m _ _ _ _ _ twice, by decide +kernel⟩

/-- Types that know different enums by one name convert in two steps where they do not in one. -/
example :
    (Ty.enumeration "Mode" .i32).convertsTo (.enumeration "Mode" .bool) = true
    ∧ (Ty.enumeration "Mode" .bool).convertsTo .bool = true ∧ (Ty.enumeration "Mode" .i32).convertsTo .bool = false := by
  decide

end Expr

end ShaderCheck
