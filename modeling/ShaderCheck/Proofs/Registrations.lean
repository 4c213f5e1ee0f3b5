import ShaderCheck.Proofs.Lists
import ShaderCheck.Symbol.Table

/-!
The tables of symbols that can come about. Symbols are registered one after the other, and one whose name is taken is
refused. So no two types go by one name, and every type is found under its own.
-/

namespace ShaderCheck

inductive Registration where
  | function (function : Function)
  | enumeration (enumeration : Enumeration)
  | struct (layout : Layout)
  | alias (name : String) (ty : Ty)

namespace Symbols

def register? (symbols : Symbols) : Registration → Option Symbols
  | .function function => symbols.addFunction? function
  | .enumeration enumeration => symbols.addEnum? enumeration
  | .struct layout => symbols.addStruct? layout
  | .alias name ty => symbols.addAlias? name ty

/-- The symbols behind a registration. One that is refused changes nothing. -/
def register (symbols : Symbols) (registration : Registration) : Symbols :=
  (symbols.register? registration).getD symbols

/-- Symbols that some registrations lead to, in their order. -/
def Reachable (symbols : Symbols) : Prop :=
  ∃ registrations : List Registration, symbols = registrations.foldl register {}

def typeNames (symbols : Symbols) : List String :=
  symbols.enums.map (·.name) ++ symbols.structs.map (·.name) ++ symbols.aliases.map (·.1)

variable {symbols : Symbols}

theorem enumeration?_eq_none_iff {name : String} :
    symbols.enumeration? name = none ↔ name ∉ symbols.enums.map (·.name) := by
  simp [enumeration?]

theorem struct?_eq_none_iff {name : String} : symbols.struct? name = none ↔ name ∉ symbols.structs.map (·.name) := by
  simp [struct?]

theorem alias?_eq_none_iff {name : String} : symbols.alias? name = none ↔ name ∉ symbols.aliases.map (·.1) := by
  simp only [alias?, List.lookup_eq_none_iff, List.mem_map, not_exists, not_and, bne_iff_ne, ne_eq]
  exact forall₂_congr fun entry _ => not_congr eq_comm

theorem hasTypeName_eq_false_iff {name : String} : symbols.hasTypeName name = false ↔ name ∉ symbols.typeNames := by
  simp only [hasTypeName, Bool.or_eq_false_iff, Option.isSome_eq_false_iff, Option.isNone_iff_eq_none,
    enumeration?_eq_none_iff, struct?_eq_none_iff, alias?_eq_none_iff, typeNames, List.mem_append, not_or]

/-- A registration adds at most one name of a type, and only a new one. -/
theorem typeNames_register (registration : Registration) :
    (symbols.register registration).typeNames = symbols.typeNames
    ∨ ∃ name ∉ symbols.typeNames, (symbols.register registration).typeNames.Perm (name :: symbols.typeNames) := by
  cases registration with
  | function function =>
    refine .inl ?_
    simp only [register, register?, addFunction?]
    split <;> rfl
  | enumeration enumeration =>
    simp only [register, register?, addEnum?]
    split
    case isTrue => exact .inl rfl
    case isFalse free => exact .inr ⟨_, hasTypeName_eq_false_iff.mp (Bool.eq_false_iff.mpr free), .refl _⟩
  | struct layout =>
    simp only [register, register?, addStruct?]
    split
    case isTrue => exact .inl rfl
    case isFalse free =>
      exact .inr ⟨_, hasTypeName_eq_false_iff.mp (Bool.eq_false_iff.mpr free), List.perm_middle.append_right _⟩
  | «alias» name ty =>
    simp only [register, register?, addAlias?]
    split
    case isTrue => exact .inl rfl
    case isFalse free => exact .inr ⟨_, hasTypeName_eq_false_iff.mp (Bool.eq_false_iff.mpr free), List.perm_middle⟩

theorem nodup_typeNames_register (distinct : symbols.typeNames.Nodup) (registration : Registration) :
    (symbols.register registration).typeNames.Nodup := by
  obtain same | ⟨name, new, names⟩ := typeNames_register registration
  · rwa [same]
  · exact names.nodup_iff.mpr (List.nodup_cons.mpr ⟨new, distinct⟩)

/-- No two types go by one name. -/
theorem nodup_typeNames_foldl (distinct : symbols.typeNames.Nodup) (registrations : List Registration) :
    (registrations.foldl register symbols).typeNames.Nodup := by
  induction registrations generalizing symbols with
  | nil => exact distinct
  | cons first rest ih => exact ih (nodup_typeNames_register distinct first)

theorem Reachable.nodup_typeNames (reachable : symbols.Reachable) : symbols.typeNames.Nodup := by
  obtain ⟨registrations, rfl⟩ := reachable
  have start : (typeNames {}).Nodup := List.nodup_nil
  exact nodup_typeNames_foldl start registrations

namespace Reachable

variable (reachable : symbols.Reachable)

include reachable

/-- An enum is what its name stands for: no alias goes by it. -/
theorem type?_of_mem_enums {enumeration : Enumeration} (registered : enumeration ∈ symbols.enums) :
    symbols.type? enumeration.name = some enumeration.ty := by
  obtain ⟨types, -, apart⟩ := List.nodup_append.mp reachable.nodup_typeNames
  have named : enumeration.name ∈ symbols.enums.map (·.name) := List.mem_map_of_mem registered
  have unaliased : symbols.alias? enumeration.name = none :=
    alias?_eq_none_iff.mpr fun listed => apart _ (List.mem_append_left _ named) _ listed rfl
  have found : symbols.enumeration? enumeration.name = some enumeration :=
    find?_of_nodup (List.nodup_append.mp types).1 registered
  rw [type?, unaliased, found]
  rfl

/-- A struct is what its name stands for: no alias and no enum goes by it. -/
theorem type?_of_mem_structs {layout : Layout} (registered : layout ∈ symbols.structs) :
    symbols.type? layout.name = some layout.ty := by
  obtain ⟨types, -, apart⟩ := List.nodup_append.mp reachable.nodup_typeNames
  obtain ⟨-, structs, different⟩ := List.nodup_append.mp types
  have named : layout.name ∈ symbols.structs.map (·.name) := List.mem_map_of_mem registered
  have unaliased : symbols.alias? layout.name = none :=
    alias?_eq_none_iff.mpr fun listed => apart _ (List.mem_append_right _ named) _ listed rfl
  have noEnum : symbols.enumeration? layout.name = none :=
    enumeration?_eq_none_iff.mpr fun listed => different _ listed _ named rfl
  have found : symbols.struct? layout.name = some layout := find?_of_nodup structs registered
  rw [type?, unaliased, noEnum, found]
  rfl

end Reachable

end Symbols

end ShaderCheck
