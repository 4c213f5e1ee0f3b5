import ShaderCheck.Proofs.References
import ShaderCheck.Proofs.Registrations

/-!
Types that are written out and read back. The text of a type starts with a name, and a type that is made of another one
has the text of that one behind it, in brackets. Written out, it is that name with the other type as its argument. What
is resolved from there is the type itself: the sizes of a matrix come back in their places, and a struct or an enum is
found under its name.
-/

namespace ShaderCheck

open Noted

namespace Ty

def part? : Ty → Option Ty
  | .vector _ element | .matrix _ _ element => some element
  | .pointer referent _ => some referent
  | .invalid | .void | .bool | .string | .numeric _ | .enumeration .. | .struct .. => none

/-- The name in front of the bracket in the text of a type, or all of the text where a type is made of no other. -/
def head (ty : Ty) : String :=
  match ty.part? with
  | some _ => String.ofList (ty.text.toList.takeWhile (· ≠ '<'))
  | none => ty.text

/-- A type written out. Each name stands where the spans say, by the depth that it is nested at. -/
def reference (spans : Nat → Span) : Ty → TypeRef
  | .vector dimension element =>
    .mk (spans 0) (vector dimension element).head [element.reference fun depth => spans (depth + 1)]
  | .matrix rows columns element =>
    .mk (spans 0) (matrix rows columns element).head [element.reference fun depth => spans (depth + 1)]
  | .pointer referent space =>
    .mk (spans 0) (pointer referent space).head [referent.reference fun depth => spans (depth + 1)]
  | ty => .mk (spans 0) ty.head []

def plainTypes : List Ty := [.bool, .i32, .u32, .f16, .f32, .string, .void]

def vectorElements : List Ty := [.bool, .i32, .u32, .f16, .f32]

def matrixElements : List Ty := [.f16, .f32]

/-- The types that can be written out where some symbols are registered. A pointer that is written is one into the space
of a function. A struct or enum with a name of the language is out of reach. -/
inductive Spellable (symbols : Symbols) : Ty → Prop where
  | plain {ty : Ty} (listed : ty ∈ plainTypes) : Spellable symbols ty
  | vector {dimension : Nat} {element : Ty} (size : 2 ≤ dimension ∧ dimension ≤ 4)
      (holds : element ∈ vectorElements) : Spellable symbols (.vector dimension element)
  | matrix {rows columns : Nat} {element : Ty} (height : 2 ≤ rows ∧ rows ≤ 4) (width : 2 ≤ columns ∧ columns ≤ 4)
      (holds : element ∈ matrixElements) : Spellable symbols (.matrix rows columns element)
  | pointer {referent : Ty} (inner : Spellable symbols referent) : Spellable symbols (.pointer referent .function)
  | enumeration {enumeration : Enumeration} (registered : enumeration ∈ symbols.enums)
      (foreign : enumeration.name ∉ TypeRef.languageNames) : Spellable symbols enumeration.ty
  | struct {layout : Layout} (registered : layout ∈ symbols.structs) (foreign : layout.name ∉ TypeRef.languageNames) :
      Spellable symbols layout.ty

theorem Spellable.ne_invalid {symbols : Symbols} {ty : Ty} (spellable : ty.Spellable symbols) : ty ≠ .invalid := by
  cases spellable with
  | plain listed =>
    have valid : ∀ ty ∈ plainTypes, ty ≠ .invalid := by decide
    exact valid ty listed
  | vector | matrix | pointer | enumeration | struct => nofun

theorem head_eq {ty part : Ty} (made : ty.part? = some part) {name : String} (rest : String)
    (text : ty.text = name ++ "<" ++ rest) (plain : '<' ∉ name.toList) : ty.head = name := by
  have letters : ty.text.toList = name.toList ++ '<' :: rest.toList := by simp [text]
  rw [head, made]
  dsimp only
  rw [letters, List.takeWhile_append_of_pos (by grind), List.takeWhile_cons_of_neg (by simp),
    List.append_nil, String.ofList_toList]

theorem reference_of_part?_eq_none {ty : Ty} (made : ty.part? = none) (spans : Nat → Span) :
    ty.reference spans = .mk (spans 0) ty.head [] := by
  cases ty with
  | vector | matrix | pointer => cases made
  | invalid | void | bool | string | numeric | enumeration | struct => rfl

end Ty

namespace TypeFormer

variable (node : NodeRef) {element : Ty}

theorem apply_vector (dimension : Nat) (holds : element.isVectorElement = true) :
    (TypeFormer.vector dimension).apply node element = pure (.vector dimension element) := by
  cases element with
  | bool | numeric => rfl
  | _ => cases holds

theorem apply_matrix (rows columns : Nat) (holds : element.isMatrixElement = true) :
    (TypeFormer.matrix rows columns).apply node element = pure (.matrix rows columns element) := by
  cases element with
  | numeric kind => exact if_pos holds
  | _ => cases holds

theorem apply_pointer (valid : element ≠ .invalid) :
    TypeFormer.pointer.apply node element = pure (.pointer element .function) := by
  cases element with
  | invalid => exact absurd rfl valid
  | _ => rfl

end TypeFormer

namespace TypeHead

theorem ofName?_head_vector {dimension : Nat} (size : 2 ≤ dimension ∧ dimension ≤ 4) (element : Ty) :
    ofName? (Ty.vector dimension element).head = some (.former (.vector dimension)) := by
  have text : (Ty.vector dimension element).text = "vec" ++ toString dimension ++ "<" ++ (element.text ++ ">") := by
    rw [Ty.text, String.append_assoc]
  obtain rfl | rfl | rfl : dimension = 2 ∨ dimension = 3 ∨ dimension = 4 := by omega
  all_goals
    rw [Ty.head_eq rfl _ text (by decide)]
    decide

/-- The columns are in front of the rows, in the name as in the text. -/
theorem ofName?_head_matrix {rows columns : Nat} (height : 2 ≤ rows ∧ rows ≤ 4) (width : 2 ≤ columns ∧ columns ≤ 4)
    (element : Ty) : ofName? (Ty.matrix rows columns element).head = some (.former (.matrix rows columns)) := by
  have text : (Ty.matrix rows columns element).text =
      "mat" ++ toString columns ++ "x" ++ toString rows ++ "<" ++ (element.text ++ ">") := by
    rw [Ty.text, String.append_assoc]
  -- Nine names. With the element cut off, each is a closed text that can be looked up.
  obtain rfl | rfl | rfl : rows = 2 ∨ rows = 3 ∨ rows = 4 := by omega
  all_goals
    obtain rfl | rfl | rfl : columns = 2 ∨ columns = 3 ∨ columns = 4 := by omega
    all_goals
      rw [Ty.head_eq rfl _ text (by decide)]
      decide

theorem ofName?_head_pointer (referent : Ty) (space : AddressSpace) :
    ofName? (Ty.pointer referent space).head = some (.former .pointer) := by
  have text : (Ty.pointer referent space).text = "ptr" ++ "<" ++ (space.text ++ ", " ++ referent.text ++ ">") := by
    simp only [Ty.text, String.append_assoc]
    rfl
  rw [Ty.head_eq rfl _ text (by decide)]
  decide

theorem ofName?_head_plain {ty : Ty} (listed : ty ∈ Ty.plainTypes) : ofName? ty.head = some (.plain ty) := by
  have known : ∀ ty ∈ Ty.plainTypes, ofName? ty.head = some (.plain ty) := by decide
  exact known ty listed

end TypeHead

namespace TypeRef

variable {symbols : Symbols} {range : Span} {name : String} {ty : Ty}

def StandsFor (symbols : Symbols) (ref : TypeRef) (ty : Ty) : Prop :=
  (ref.resolve symbols).value = ty ∧ (ref.resolve symbols).notes.incidents = []

theorem standsFor_plain (head : TypeHead.ofName? name = some (.plain ty)) :
    (TypeRef.mk range name []).StandsFor symbols ty := by
  unfold StandsFor
  rw [resolve, head]
  exact ⟨rfl, rfl⟩

theorem standsFor_former {former : TypeFormer} (head : TypeHead.ofName? name = some (.former former))
    {argument : TypeRef} {part : Ty} (inner : argument.StandsFor symbols part)
    (made : former.apply ⟨.typeDeclaration, range⟩ part = pure ty) :
    (TypeRef.mk range name [argument]).StandsFor symbols ty := by
  unfold StandsFor
  rw [resolve, head]
  dsimp only
  rw [value_bind, notes_bind, inner.1, made, Notes.incidents_append, inner.2]
  exact ⟨rfl, rfl⟩

theorem standsFor_name (foreign : name ∉ languageNames) (known : symbols.type? name = some ty) :
    (TypeRef.mk range name []).StandsFor symbols ty := by
  have head : TypeHead.ofName? name = none := by
    simpa using mt (TypeHead.ofName?_isSome_iff name).mp foreign
  unfold StandsFor
  rw [resolve, head]
  dsimp only [resolveName]
  rw [known]
  exact ⟨rfl, rfl⟩

theorem standsFor_reference_plain (listed : ty ∈ Ty.plainTypes) (spans : Nat → Span) :
    (ty.reference spans).StandsFor symbols ty := by
  have whole : ∀ ty ∈ Ty.plainTypes, ty.part? = none := by decide
  rw [Ty.reference_of_part?_eq_none (whole ty listed)]
  exact standsFor_plain (TypeHead.ofName?_head_plain listed)

/-- A type that is written out stands for itself. -/
theorem standsFor_reference (reachable : symbols.Reachable) (spellable : ty.Spellable symbols) (spans : Nat → Span) :
    (ty.reference spans).StandsFor symbols ty := by
  -- What is inside of a pointer stands one level deeper, at other spans.
  induction spellable generalizing spans with
  | plain listed => exact standsFor_reference_plain listed spans
  | @vector dimension element size holds =>
    have scalar : ∀ element ∈ Ty.vectorElements, element ∈ Ty.plainTypes ∧ element.isVectorElement = true := by decide
    obtain ⟨plain, fits⟩ := scalar element holds
    exact standsFor_former (TypeHead.ofName?_head_vector size element) (standsFor_reference_plain plain _)
      (TypeFormer.apply_vector _ dimension fits)
  | @matrix rows columns element height width holds =>
    have float : ∀ element ∈ Ty.matrixElements, element ∈ Ty.plainTypes ∧ element.isMatrixElement = true := by decide
    obtain ⟨plain, fits⟩ := float element holds
    exact standsFor_former (TypeHead.ofName?_head_matrix height width element) (standsFor_reference_plain plain _)
      (TypeFormer.apply_matrix _ rows columns fits)
  | @pointer referent inner ih =>
    exact standsFor_former (TypeHead.ofName?_head_pointer referent .function) (ih _)
      (TypeFormer.apply_pointer _ inner.ne_invalid)
  | enumeration registered foreign => exact standsFor_name foreign (reachable.type?_of_mem_enums registered)
  | struct registered foreign => exact standsFor_name foreign (reachable.type?_of_mem_structs registered)

/-- Where the symbols are such as can be registered, a type that is written out is resolved to itself, and nothing is
reported. -/
theorem resolve_reference {context : Context} (reachable : context.env.symbols.Reachable) {ty : Ty}
    (spellable : ty.Spellable context.env.symbols) (spans : Nat → Span) :
    ∃ after, (Analysis.note fun env => (ty.reference spans).resolve env.symbols).run context = (.ok ty, after)
      ∧ after.incidents = context.incidents := by
  obtain ⟨value, silent⟩ := standsFor_reference reachable spellable spans
  refine ⟨_, Prod.ext (congrArg Except.ok value) rfl, ?_⟩
  change context.notes.incidents ++ _ = _
  rw [silent, List.append_nil]
  rfl

def mode : Enumeration := ⟨"Mode", .i32, [("Fast", .integer 0)]⟩

def light : Layout := ⟨"Light", [("color", .vector 3 .f32), ("mode", mode.ty)]⟩

def named : Symbols where
  enums := [mode]
  structs := [light]
  aliases := [("Color", .vector 4 .f32)]

/-- A second type by the name of the enum was refused. Pointers to the struct come back, and so does a matrix whose rows
and columns differ. -/
theorem resolve_reference_named :
    let pointer : Ty := .pointer (.pointer light.ty .function) .function
    let matrix : Ty := .matrix 4 2 .f16
    let spans : Nat → Span := fun depth => ⟨⟨1, .ofNat depth⟩, ⟨1, 9⟩⟩
    named.Reachable ∧ pointer.Spellable named ∧ matrix.Spellable named
      ∧ matrix.reference spans = .mk (spans 0) "mat2x4" [.mk (spans 1) "f16" []]
      ∧ ∀ ty ∈ [pointer, matrix], ∃ after,
        (Analysis.note fun env => (ty.reference spans).resolve env.symbols).run { env := { symbols := named } } =
          (.ok ty, after) ∧ after.incidents = [] := by
  intro pointer matrix spans
  have reachable : named.Reachable :=
    ⟨[.enumeration mode, .alias "Color" (.vector 4 .f32), .struct ⟨"Mode", []⟩, .struct light], by decide +kernel⟩
  have registered : light ∈ named.structs := List.mem_cons_self
  have first : pointer.Spellable named := .pointer (.pointer (.struct registered (by decide)))
  have second : matrix.Spellable named := .matrix (by decide) (by decide) (by decide)
  refine ⟨reachable, first, second, rfl, List.forall_mem_cons.mpr ⟨?_, List.forall_mem_singleton.mpr ?_⟩⟩
  · exact resolve_reference reachable first spans
  · exact resolve_reference reachable second spans

end TypeRef

end ShaderCheck
