import ShaderCheck.Ty.Cast

/-!
Implicit casts order the types like a forest. Casting is transitive, of two types that cast into a third one
casts into the other, and two types that cast into a common one have a least such type, which `common` finds.

The order is reflexive only on types that hold no invalid type where a cast looks: below vectors, matrices and
pointers. Structs and enums are compared by name, so what they hold does not matter.
-/

namespace ShaderCheck

namespace NumericKind

theorem castsTo_self (kind : NumericKind) : kind.castsTo kind = true := by
  cases kind <;> rfl

theorem castsTo_trans {a b c : NumericKind} (first : a.castsTo b = true) (second : b.castsTo c = true) :
    a.castsTo c = true := by
  cases a <;> cases b <;> cases c <;> simp_all [castsTo]

/-- The kinds that cast into one kind form a chain. -/
theorem castsTo_total {a b kind : NumericKind} (left : a.castsTo kind = true)
    (right : b.castsTo kind = true) : a.castsTo b = true ∨ b.castsTo a = true := by
  cases kind <;> cases a <;> cases b <;> simp_all [castsTo]

end NumericKind

namespace Ty

/-- Induction over what casts look into: the elements of vectors and matrices, and what pointers point to. -/
@[elab_as_elim]
theorem induction {motive : Ty → Prop} (invalid : motive .invalid) (void : motive .void)
    (bool : motive .bool) (string : motive .string) (numeric : ∀ kind, motive (.numeric kind))
    (vector : ∀ dimension element, motive element → motive (.vector dimension element))
    (matrix : ∀ rows columns element, motive element → motive (.matrix rows columns element))
    (pointer : ∀ referent space, motive referent → motive (.pointer referent space))
    (enumeration : ∀ name underlying, motive (.enumeration name underlying))
    (struct : ∀ name members, motive (.struct name members)) (ty : Ty) : motive ty :=
  -- Casts do not look into the members of structs, so nothing is asked of them.
  @Ty.rec motive (fun _ => True) (fun _ => True) invalid void bool string numeric vector matrix pointer
    (fun name underlying _ => enumeration name underlying) (fun name members _ => struct name members)
    trivial (fun _ _ _ _ => trivial) (fun _ _ _ => trivial) ty

theorem equals_symm {a b : Ty} (same : a.equals b = true) : b.equals a = true := by
  induction a using Ty.induction generalizing b with
  | vector m a ih | matrix r c a ih | pointer a s ih => cases b <;> simp_all [equals]
  | invalid | void | bool | string | numeric | enumeration | struct => cases b <;> simp_all [equals]

theorem equals_trans {a b c : Ty} (first : a.equals b = true) (second : b.equals c = true) :
    a.equals c = true := by
  induction a using Ty.induction generalizing b c with
  | vector m a ih | matrix r c a ih | pointer a s ih =>
    cases b <;> simp only [equals, Bool.and_eq_true, Bool.false_eq_true] at first
    cases c <;> simp only [equals, Bool.and_eq_true, Bool.false_eq_true] at second
    have elements := ih first.2 second.2
    simp_all [equals]
  | invalid | void | bool | string | numeric | enumeration | struct =>
    cases b <;> simp only [equals, Bool.false_eq_true] at first <;> cases c <;> simp_all [equals]

/-- The rules of casting. The invalid type takes part in none. -/
inductive Casts : Ty → Ty → Prop where
  | void : Casts .void .void
  | bool : Casts .bool .bool
  | string : Casts .string .string
  | numeric {a b : NumericKind} (kinds : a.castsTo b = true) : Casts (.numeric a) (.numeric b)
  | vector (n : Nat) {a b : Ty} (elements : Casts a b) : Casts (.vector n a) (.vector n b)
  | matrix (r c : Nat) {a b : Ty} (elements : Casts a b) : Casts (.matrix r c a) (.matrix r c b)
  | pointer (s t : AddressSpace) {a b : Ty} (same : a.equals b = true) :
      Casts (.pointer a s) (.pointer b t)
  | enumeration (n : String) (a b : Ty) : Casts (.enumeration n a) (.enumeration n b)
  | struct (n : String) (xs ys : List (String × Ty)) : Casts (.struct n xs) (.struct n ys)

theorem Casts.of_castsTo {a b : Ty} (cast : a.castsTo b = true) : Casts a b := by
  induction a using Ty.induction generalizing b with
  | numeric k => cases b <;> simp [castsTo, equals] at cast; exact .numeric cast
  | vector n a ih =>
    cases b <;> simp [castsTo, equals] at cast
    obtain ⟨rfl, cast⟩ := cast
    exact .vector n (ih cast)
  | matrix r c a ih =>
    cases b <;> simp [castsTo, equals] at cast
    obtain ⟨⟨rfl, rfl⟩, cast⟩ := cast
    exact .matrix r c (ih cast)
  | pointer a s ih => cases b <;> simp [castsTo, equals] at cast; exact .pointer s _ cast
  | enumeration n a => cases b <;> simp [castsTo, equals] at cast; exact cast ▸ .enumeration n a _
  | struct n xs => cases b <;> simp [castsTo, equals] at cast; exact cast ▸ .struct n xs _
  | invalid => simp [castsTo, equals] at cast
  | void | bool | string => cases b <;> simp [castsTo, equals] at cast; constructor

theorem Casts.castsTo {a b : Ty} (cast : Casts a b) : a.castsTo b = true := by
  induction cast <;> simp_all [Ty.castsTo, equals]

theorem castsTo_iff {a b : Ty} : a.castsTo b = true ↔ Casts a b :=
  ⟨Casts.of_castsTo, Casts.castsTo⟩

/-- Nothing but a truth value is used as one. -/
theorem Casts.eq_bool {a : Ty} (cast : Casts a .bool) : a = .bool := by
  cases cast
  rfl

theorem Casts.trans {a b c : Ty} (first : Casts a b) (second : Casts b c) : Casts a c := by
  induction first generalizing c with
  | void | bool | string => exact second
  | numeric kinds =>
    cases second with
    | numeric others => exact .numeric (NumericKind.castsTo_trans kinds others)
  | vector n _ ih =>
    cases second with
    | vector _ elements => exact .vector n (ih elements)
  | matrix r c _ ih =>
    cases second with
    | matrix _ _ elements => exact .matrix r c (ih elements)
  | pointer s _ same =>
    cases second with
    | pointer _ t other => exact .pointer s t (equals_trans same other)
  | enumeration n a _ =>
    cases second with
    | enumeration _ _ b => exact .enumeration n a b
  | struct n xs _ =>
    cases second with
    | struct _ _ ys => exact .struct n xs ys

/-- What takes part in a cast casts into itself. -/
theorem Casts.self {a b : Ty} (cast : Casts a b) : Casts a a ∧ Casts b b := by
  induction cast with
  | void => exact ⟨.void, .void⟩
  | bool => exact ⟨.bool, .bool⟩
  | string => exact ⟨.string, .string⟩
  | numeric => exact ⟨.numeric (NumericKind.castsTo_self _), .numeric (NumericKind.castsTo_self _)⟩
  | vector n _ ih => exact ⟨.vector n ih.1, .vector n ih.2⟩
  | matrix r c _ ih => exact ⟨.matrix r c ih.1, .matrix r c ih.2⟩
  | pointer s t same =>
    have back := equals_symm same
    exact ⟨.pointer s s (equals_trans same back), .pointer t t (equals_trans back same)⟩
  | enumeration n a b => exact ⟨.enumeration n a a, .enumeration n b b⟩
  | struct n xs ys => exact ⟨.struct n xs xs, .struct n ys ys⟩

/-- The types that cast into one type form a chain. -/
theorem Casts.total {a b m : Ty} (left : Casts a m) (right : Casts b m) : Casts a b ∨ Casts b a := by
  induction left generalizing b with
  | void | bool | string => exact .inr right
  | numeric kinds =>
    cases right with
    | numeric others => exact (NumericKind.castsTo_total kinds others).imp .numeric .numeric
  | vector n _ ih =>
    cases right with
    | vector _ elements => exact (ih elements).imp (.vector n) (.vector n)
  | matrix r c _ ih =>
    cases right with
    | matrix _ _ elements => exact (ih elements).imp (.matrix r c) (.matrix r c)
  | pointer s _ same =>
    cases right with
    | pointer t _ other => exact .inl (.pointer s t (equals_trans same (equals_symm other)))
  | enumeration n a _ =>
    cases right with
    | enumeration _ b _ => exact .inl (.enumeration n a b)
  | struct n xs _ =>
    cases right with
    | struct _ ys _ => exact .inl (.struct n xs ys)

theorem castsTo_self_iff (a : Ty) : a.castsTo a = true ↔ a.equals a = true := by
  induction a using Ty.induction with
  | numeric kind => simp [castsTo, equals, NumericKind.castsTo_self]
  | vector n a ih | matrix r c a ih => simpa [castsTo, equals] using ih
  | pointer | invalid | void | bool | string | enumeration | struct => simp [castsTo, equals]

/-- Whether a type holds no invalid type where a cast looks. -/
def isSolid : Ty → Bool
  | .invalid => false
  | .vector _ element => element.isSolid
  | .matrix _ _ element => element.isSolid
  | .pointer referent _ => referent.isSolid
  | _ => true

theorem equals_self_iff (a : Ty) : a.equals a = true ↔ a.isSolid = true := by
  induction a using Ty.induction with
  | vector n a ih | matrix r c a ih | pointer a s ih => simpa [equals, isSolid] using ih
  | invalid | void | bool | string | numeric | enumeration | struct => simp [equals, isSolid]

theorem Casts.refl {a : Ty} (solid : a.isSolid = true) : Casts a a := by
  rw [← castsTo_iff, castsTo_self_iff, equals_self_iff]
  exact solid

theorem mutuallyCasts_iff {a b : Ty} : a.mutuallyCasts b = true ↔ Casts a b ∨ Casts b a := by
  simp [mutuallyCasts, castsTo_iff]

/-- The common type is the second only where it is strictly above the first. -/
theorem common_cases {a b : Ty} (related : a.mutuallyCasts b = true) :
    (a.common b = a ∧ Casts b a) ∨ (a.common b = b ∧ Casts a b ∧ ¬ Casts b a) := by
  rw [mutuallyCasts_iff] at related
  by_cases back : Casts b a
  · have kept : b.castsTo a = true := back.castsTo
    exact .inl ⟨by simp [common, kept], back⟩
  · have up : Casts a b := related.resolve_right back
    have lost : b.castsTo a = false := by simpa [← castsTo_iff] using back
    exact .inr ⟨by simp [common, lost, up.castsTo], up, back⟩

theorem casts_common {a b : Ty} (related : a.mutuallyCasts b = true) :
    Casts a (a.common b) ∧ Casts b (a.common b) := by
  obtain ⟨kept, back⟩ | ⟨wider, up, -⟩ := common_cases related
  · rw [kept]
    exact ⟨back.self.2, back⟩
  · rw [wider]
    exact ⟨up, up.self.2⟩

theorem common_casts {a b c : Ty} (left : Casts a c) (right : Casts b c) : Casts (a.common b) c := by
  unfold common
  split
  · exact right
  · exact left

theorem mutuallyCasts_iff_bounded {a b : Ty} :
    a.mutuallyCasts b = true ↔ ∃ c, Casts a c ∧ Casts b c := by
  constructor
  · intro related
    exact ⟨a.common b, casts_common related⟩
  · rintro ⟨c, left, right⟩
    exact mutuallyCasts_iff.mpr (left.total right)

theorem mutuallyCasts_comm {a b : Ty} : a.mutuallyCasts b = b.mutuallyCasts a :=
  Bool.or_comm _ _

/-- The order of the two types matters to their common type only up to casts both ways. -/
theorem common_comm {a b : Ty} (related : a.mutuallyCasts b = true) :
    Casts (a.common b) (b.common a) ∧ Casts (b.common a) (a.common b) := by
  have forward := casts_common related
  have backward := casts_common (mutuallyCasts_comm ▸ related)
  exact ⟨common_casts backward.2 backward.1, common_casts forward.2 forward.1⟩

/-- Casting is a preorder on the types that take part in it, the types below any type form a chain, and the
common type is the join of two types that have an upper bound. -/
theorem castsTo_forest :
    (∀ a b c : Ty, a.castsTo b → b.castsTo c → a.castsTo c)
    ∧ (∀ a b : Ty, a.castsTo b → a.castsTo a ∧ b.castsTo b)
    ∧ (∀ a : Ty, a.castsTo a ↔ a.equals a)
    ∧ (∀ a b m : Ty, a.castsTo m → b.castsTo m → a.mutuallyCasts b)
    ∧ (∀ a b : Ty, a.mutuallyCasts b ↔ ∃ c : Ty, a.castsTo c ∧ b.castsTo c)
    ∧ (∀ a b : Ty, a.mutuallyCasts b →
      a.castsTo (a.common b) ∧ b.castsTo (a.common b)
      ∧ ∀ c : Ty, a.castsTo c → b.castsTo c → (a.common b).castsTo c)
    ∧ (∀ a b : Ty, a.mutuallyCasts b →
      (a.common b).castsTo (b.common a) ∧ (b.common a).castsTo (a.common b))
    ∧ (∀ a b : Ty, a.equals b → b.equals a)
    ∧ (∀ a b c : Ty, a.equals b → b.equals c → a.equals c) := by
  simp only [castsTo_iff]
  refine ⟨?_, ?_, ?_, ?_, ?_, ?_, ?_, ?_, ?_⟩
  · exact fun a b c first second => first.trans second
  · exact fun a b cast => cast.self
  · exact fun a => castsTo_iff.symm.trans (castsTo_self_iff a)
  · exact fun a b m left right => mutuallyCasts_iff.mpr (left.total right)
  · exact fun a b => mutuallyCasts_iff_bounded
  · intro a b related
    obtain ⟨left, right⟩ := casts_common related
    exact ⟨left, right, fun c below other => common_casts below other⟩
  · exact fun a b related => common_comm related
  · exact fun a b same => equals_symm same
  · exact fun a b c first second => equals_trans first second

end Ty

end ShaderCheck
