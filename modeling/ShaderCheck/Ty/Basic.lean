/-!
The types of shader values.

Numbers written without a suffix are abstract: they have no storage format yet and take on a concrete one
where they are used. A program that names something unknown still gets a type, `invalid`, which no later check
complains about again.
-/

namespace ShaderCheck

/-- The formats of numbers. The two abstract ones belong to numbers that have no format yet. -/
inductive NumericKind where
  | abstractInt
  | abstractFloat
  | i32
  | u32
  | f16
  | f32
  deriving DecidableEq, Inhabited

namespace NumericKind

/-- Bits that a number of the kind takes. Abstract numbers are kept in 64. -/
def width : NumericKind → Nat
  | .abstractInt | .abstractFloat => 64
  | .i32 | .u32 | .f32 => 32
  | .f16 => 16

def isSigned (kind : NumericKind) : Bool := kind ≠ .u32

def isFloat : NumericKind → Bool
  | .abstractFloat | .f16 | .f32 => true
  | .abstractInt | .i32 | .u32 => false

def isInteger (kind : NumericKind) : Bool := !kind.isFloat

def isConcrete : NumericKind → Bool
  | .abstractInt | .abstractFloat => false
  | .i32 | .u32 | .f16 | .f32 => true

/-- The format that an abstract number takes where nothing asks for another. -/
def concretize : NumericKind → NumericKind
  | .abstractInt => .i32
  | .abstractFloat => .f32
  | kind => kind

def text : NumericKind → String
  | .abstractInt => "abstract-int"
  | .abstractFloat => "abstract-float"
  | .i32 => "i32"
  | .u32 => "u32"
  | .f16 => "f16"
  | .f32 => "f32"

end NumericKind

inductive AddressSpace where
  | function
  | privateSpace
  | workgroup
  | uniform
  | storage
  | handle
  deriving DecidableEq, Inhabited

def AddressSpace.text : AddressSpace → String
  | .function => "function"
  | .privateSpace => "private"
  | .workgroup => "workgroup"
  | .uniform => "uniform"
  | .storage => "storage"
  | .handle => "handle"

/-- The types of values. A struct type carries its members, in order, and an enum type the type of its
members' values. -/
inductive Ty where
  | invalid
  | void
  | bool
  | string
  | numeric (kind : NumericKind)
  | vector (dimension : Nat) (element : Ty)
  | matrix (rows columns : Nat) (element : Ty)
  | pointer (referent : Ty) (space : AddressSpace)
  | enumeration (name : String) (underlying : Ty)
  | struct (name : String) (members : List (String × Ty))
  deriving Inhabited

namespace Ty

abbrev i32 : Ty := .numeric .i32
abbrev u32 : Ty := .numeric .u32
abbrev f16 : Ty := .numeric .f16
abbrev f32 : Ty := .numeric .f32

mutual

def same : Ty → Ty → Bool
  | .invalid, .invalid => true
  | .void, .void => true
  | .bool, .bool => true
  | .string, .string => true
  | .numeric a, .numeric b => a == b
  | .vector m a, .vector n b => m == n && same a b
  | .matrix r c a, .matrix s d b => r == s && c == d && same a b
  | .pointer a s, .pointer b t => s == t && same a b
  | .enumeration m a, .enumeration n b => m == n && same a b
  | .struct m xs, .struct n ys => m == n && sameMembers xs ys
  | _, _ => false
termination_by structural a => a

def sameMembers : List (String × Ty) → List (String × Ty) → Bool
  | [], [] => true
  | (m, a) :: xs, (n, b) :: ys => m == n && same a b && sameMembers xs ys
  | _, _ => false
termination_by structural xs => xs

end

mutual

theorem eq_of_same : ∀ {a b : Ty}, same a b = true → a = b
  | .invalid, b, h | .void, b, h | .bool, b, h | .string, b, h => by cases b <;> simp_all [same]
  | .numeric k, b, h => by cases b <;> simp_all [same]
  | .vector n a, b, h | .matrix r c a, b, h | .pointer a s, b, h | .enumeration n a, b, h => by
    cases b <;> simp_all [same]
    exact eq_of_same (by simp_all)
  | .struct n xs, b, h => by
    cases b <;> simp_all [same]
    exact eq_of_sameMembers h.2
termination_by structural a => a

theorem eq_of_sameMembers : ∀ {xs ys : List (String × Ty)}, sameMembers xs ys = true → xs = ys
  | [], ys, h => by cases ys <;> simp_all [sameMembers]
  | (m, a) :: xs, ys, h => by
    match ys, h with
    | [], h => simp [sameMembers] at h
    | (n, b) :: ys, h =>
      simp only [sameMembers, Bool.and_eq_true, beq_iff_eq] at h
      rw [h.1.1, eq_of_same h.1.2, eq_of_sameMembers h.2]
termination_by structural xs => xs

end

mutual

theorem same_self : ∀ a : Ty, same a a = true
  | .invalid | .void | .bool | .string => rfl
  | .numeric k => by simp [same]
  | .vector n a | .matrix r c a | .pointer a s | .enumeration n a => by simp [same, same_self a]
  | .struct n xs => by simp [same, sameMembers_self xs]
termination_by structural a => a

theorem sameMembers_self : ∀ xs : List (String × Ty), sameMembers xs xs = true
  | [] => rfl
  | (m, a) :: xs => by simp [sameMembers, same_self a, sameMembers_self xs]
termination_by structural xs => xs

end

theorem same_iff {a b : Ty} : same a b = true ↔ a = b :=
  ⟨eq_of_same, fun h => h ▸ same_self a⟩

instance : DecidableEq Ty := fun _ _ => decidable_of_iff _ same_iff

/-- Whether a type is the mark of something that could not be resolved. -/
def isInvalid : Ty → Bool
  | .invalid => true
  | _ => false

def numericKind? : Ty → Option NumericKind
  | .numeric kind => some kind
  | _ => none

def elementType : Ty → Ty
  | .vector _ element => element
  | ty => ty

def concretize : Ty → Ty
  | .numeric kind => .numeric kind.concretize
  | .vector dimension element => .vector dimension element.concretize
  | .matrix rows columns element => .matrix rows columns element.concretize
  | ty => ty

/-- A type as a program writes it. A matrix names its columns first. -/
def text : Ty → String
  | .invalid => "<invalid>"
  | .void => "void"
  | .bool => "bool"
  | .string => "string"
  | .numeric kind => kind.text
  | .vector dimension element => "vec" ++ toString dimension ++ "<" ++ element.text ++ ">"
  | .matrix rows columns element =>
    "mat" ++ toString columns ++ "x" ++ toString rows ++ "<" ++ element.text ++ ">"
  | .pointer referent space => "ptr<" ++ space.text ++ ", " ++ referent.text ++ ">"
  | .enumeration name _ => name
  | .struct name _ => name

end Ty

end ShaderCheck
