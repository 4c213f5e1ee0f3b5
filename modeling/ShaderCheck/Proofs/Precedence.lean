import Mathlib.Data.List.Induction
import ShaderCheck.Proofs.Registrations

/-!
Which of several declarations of a name stands. There are four tables of symbols but only two sets of names: functions
have one to themselves, and enums, structs and aliases share the other. A symbol is kept out by any symbol that came
before it with its name in the same set, whatever table that one is in. So all tables can be told from the symbols in
the order they came: under a name there is the first one that came with it, in the table that it belongs to.
-/

namespace ShaderCheck

inductive Table where
  | functions
  | enums
  | structs
  | aliases
  deriving DecidableEq

def Table.ofTypes : Table → Bool
  | .functions => false
  | .enums | .structs | .aliases => true

theorem Table.exists_iff {p : Table → Prop} :
    (∃ table, p table) ↔ p .functions ∨ p .enums ∨ p .structs ∨ p .aliases := by
  constructor
  · rintro ⟨_ | _ | _ | _, held⟩ <;> simp [held]
  · rintro (held | held | held | held) <;> exact ⟨_, held⟩

namespace Registration

def table : Registration → Table
  | .function _ => .functions
  | .enumeration _ => .enums
  | .struct _ => .structs
  | .alias _ _ => .aliases

def isType (registration : Registration) : Bool := registration.table.ofTypes

def name : Registration → String
  | .function declared => declared.name
  | .enumeration declared => declared.name
  | .struct declared => declared.name
  | .alias declared _ => declared

def function? : Registration → Option Function
  | .function declared => some declared
  | _ => none

def enumeration? : Registration → Option Enumeration
  | .enumeration declared => some declared
  | _ => none

def struct? : Registration → Option Layout
  | .struct declared => some declared
  | _ => none

def alias? : Registration → Option Ty
  | .alias _ ty => some ty
  | _ => none

def type? : Registration → Option Ty
  | .function _ => none
  | .enumeration declared => some declared.ty
  | .struct declared => some declared.ty
  | .alias _ ty => some ty

/-- The first symbol with a name, among the types or among the functions. -/
def first? (types : Bool) (name : String) (registrations : List Registration) : Option Registration :=
  registrations.find? fun registration => registration.isType = types ∧ registration.name = name

variable {types : Bool} {name : String} {registrations : List Registration} {registration : Registration}

theorem first?_concat : first? types name (registrations ++ [registration]) =
    (first? types name registrations).or
      (if registration.isType = types ∧ registration.name = name then some registration else none) := by
  simp [first?, List.find?_append, List.find?_singleton]

theorem of_first? (found : first? types name registrations = some registration) :
    registration.isType = types ∧ registration.name = name := by
  simpa using List.find?_some found

theorem first?_eq_none_iff : first? types name registrations = none ↔
    ∀ earlier ∈ registrations, earlier.isType = types → earlier.name ≠ name := by
  simp [first?]

end Registration

namespace Symbols

open Registration

variable {symbols more : Symbols} {registration : Registration} {registrations : List Registration}

def kept? (symbols : Symbols) (name : String) : Table → Option Registration
  | .functions => (symbols.function? name).map .function
  | .enums => (symbols.enumeration? name).map .enumeration
  | .structs => (symbols.struct? name).map .struct
  | .aliases => (symbols.alias? name).map (.alias name)

/-- A symbol that is added is found under its name in its table, and nothing else changes. -/
theorem kept?_of_register? (added : symbols.register? registration = some more) (name : String) (table : Table) :
    more.kept? name table = if registration.table = table ∧ registration.name = name then some registration
      else symbols.kept? name table := by
  cases registration with
  | function function =>
    obtain ⟨-, ⟨⟩⟩ := Option.ite_none_left_eq_some.mp added
    cases table with
    | functions =>
      by_cases same : function.name = name <;> simp [kept?, function?, Registration.table, Registration.name, same]
    | enums | structs | aliases => rfl
  | enumeration enumeration =>
    obtain ⟨-, ⟨⟩⟩ := Option.ite_none_left_eq_some.mp added
    cases table with
    | enums =>
      by_cases same : enumeration.name = name <;>
        simp [kept?, enumeration?, Registration.table, Registration.name, same]
    | functions | structs | aliases => rfl
  | struct layout =>
    obtain ⟨-, ⟨⟩⟩ := Option.ite_none_left_eq_some.mp added
    cases table with
    | structs =>
      by_cases same : layout.name = name <;> simp [kept?, struct?, Registration.table, Registration.name, same]
    | functions | enums | aliases => rfl
  | «alias» declared ty =>
    obtain ⟨-, ⟨⟩⟩ := Option.ite_none_left_eq_some.mp added
    cases table with
    | aliases =>
      by_cases same : name = declared
      · simp [kept?, alias?, Registration.table, Registration.name, same]
      · have other : (name == declared) = false := by simpa using same
        simp [kept?, alias?, Registration.table, Registration.name, List.lookup_cons, other, Ne.symm same]
    | functions | enums | structs => rfl

theorem hasTypeName_iff {name : String} : symbols.hasTypeName name = true ↔
    ∃ table : Table, table.ofTypes = true ∧ (symbols.kept? name table).isSome = true := by
  simp [Table.exists_iff, Table.ofTypes, kept?, hasTypeName, or_assoc]

/-- A symbol is refused exactly if a table of its sort has its name. -/
theorem register?_eq_none_iff : symbols.register? registration = none ↔
    ∃ table, table.ofTypes = registration.isType ∧ (symbols.kept? registration.name table).isSome = true := by
  have refused {taken : Prop} [Decidable taken] {more : Symbols} :
      (if taken then none else some more) = none ↔ taken := by
    simp
  cases registration with
  | function function =>
    refine refused.trans ?_
    simp [Table.exists_iff, isType, Registration.table, Registration.name, Table.ofTypes, kept?]
  | enumeration | struct | «alias» => exact refused.trans hasTypeName_iff

/-- Under every name there is the first symbol that came with it, in the table that it belongs to. -/
def KeepsFirst (symbols : Symbols) (registrations : List Registration) : Prop :=
  ∀ name table, symbols.kept? name table = (first? table.ofTypes name registrations).filter (·.table = table)

theorem KeepsFirst.refuses_iff (keeps : symbols.KeepsFirst registrations) :
    symbols.register? registration = none ↔
      (first? registration.isType registration.name registrations).isSome = true := by
  rw [register?_eq_none_iff]
  constructor
  · rintro ⟨table, sort, taken⟩
    rw [keeps, sort] at taken
    exact Option.isSome_of_isSome_filter _ _ taken
  · intro taken
    obtain ⟨earlier, found⟩ := Option.isSome_iff_exists.mp taken
    obtain ⟨sort, -⟩ := of_first? found
    refine ⟨earlier.table, sort, ?_⟩
    rw [keeps, show earlier.table.ofTypes = registration.isType from sort, found]
    simp

/-- One more symbol keeps the tables so, whether it is added or refused. -/
theorem KeepsFirst.register (keeps : symbols.KeepsFirst registrations) (registration : Registration) :
    (symbols.register registration).KeepsFirst (registrations ++ [registration]) := by
  intro name table
  rw [first?_concat]
  cases added : symbols.register? registration with
  | none =>
    rw [Symbols.register, added, Option.getD_none, keeps]
    split
    case isTrue due =>
      -- What keeps it out came before it.
      obtain ⟨sort, rfl⟩ := due
      rw [Option.or_of_isSome (sort ▸ keeps.refuses_iff.mp added)]
    case isFalse => rw [Option.or_none]
  | some more =>
    have free : first? registration.isType registration.name registrations = none := by
      rw [← Option.not_isSome_iff_eq_none, ← keeps.refuses_iff, added]
      exact Option.some_ne_none more
    rw [Symbols.register, added, Option.getD_some, kept?_of_register? added, keeps]
    split
    case isTrue due =>
      obtain ⟨rfl, rfl⟩ := due
      rw [if_pos ⟨rfl, rfl⟩, ← isType, free, Option.none_or, Option.filter_some]
      simp
    case isFalse other =>
      split
      case isTrue due =>
        -- It is in another table that has its names to share with this one.
        obtain ⟨sort, rfl⟩ := due
        have elsewhere : registration.table ≠ table := fun same => other ⟨same, rfl⟩
        rw [← sort, free, Option.none_or, Option.filter_some]
        simp [elsewhere]
      case isFalse => rw [Option.or_none]

theorem keepsFirst_foldl (registrations : List Registration) :
    (registrations.foldl register {}).KeepsFirst registrations := by
  induction registrations using List.reverseRecOn with
  | nil =>
    intro name table
    cases table <;> rfl
  | append_singleton earlier last ih =>
    rw [List.foldl_append]
    exact ih.register last

namespace KeepsFirst

variable (keeps : symbols.KeepsFirst registrations) (name : String)

include keeps

/-- What a table has under a name, if only symbols that belong to the table are looked at. -/
theorem lookup_eq (table : Table) {α : Type} {found : Option α} {make : α → Registration}
    {pick : Registration → Option α} (entry : symbols.kept? name table = found.map make)
    (made : ∀ a, pick (make a) = some a) (only : ∀ other : Registration, other.table ≠ table → pick other = none) :
    found = (first? table.ofTypes name registrations).bind pick := by
  have looked : found = (symbols.kept? name table).bind pick := by
    rw [entry]
    cases found with
    | none => rfl
    | some a => exact (made a).symm
  rw [looked, keeps]
  cases first? table.ofTypes name registrations with
  | none => rfl
  | some first =>
    rw [Option.filter_some]
    by_cases same : first.table = table
    · simp [same]
    · simp [same, only first same]

theorem function?_eq : symbols.function? name = (first? false name registrations).bind Registration.function? :=
  keeps.lookup_eq name .functions rfl (fun _ => rfl) fun
    | .function _, other => (other rfl).elim
    | .enumeration _, _ | .struct _, _ | .alias _ _, _ => rfl

theorem enumeration?_eq :
    symbols.enumeration? name = (first? true name registrations).bind Registration.enumeration? :=
  keeps.lookup_eq name .enums rfl (fun _ => rfl) fun
    | .enumeration _, other => (other rfl).elim
    | .function _, _ | .struct _, _ | .alias _ _, _ => rfl

theorem struct?_eq : symbols.struct? name = (first? true name registrations).bind Registration.struct? :=
  keeps.lookup_eq name .structs rfl (fun _ => rfl) fun
    | .struct _, other => (other rfl).elim
    | .function _, _ | .enumeration _, _ | .alias _ _, _ => rfl

theorem alias?_eq : symbols.alias? name = (first? true name registrations).bind Registration.alias? :=
  keeps.lookup_eq name .aliases rfl (fun _ => rfl) fun
    | .alias _ _, other => (other rfl).elim
    | .function _, _ | .enumeration _, _ | .struct _, _ => rfl

/-- Of the ways to come by the type that a name stands for at most one leads anywhere, so they may be tried in any
order. -/
theorem findSome?_eq {order : List (Option Ty)}
    (tried : order.Perm [symbols.alias? name, (symbols.enumeration? name).map Enumeration.ty,
      (symbols.struct? name).map Layout.ty]) :
    order.findSome? id = (first? true name registrations).bind Registration.type? := by
  rw [keeps.alias?_eq, keeps.enumeration?_eq, keeps.struct?_eq] at tried
  apply findSome?_id_of_mem
  · intro one member
    rw [tried.mem_iff] at member
    cases found : first? true name registrations with
    | none => simpa [found] using member
    | some first =>
      cases first <;>
        simpa [found, Registration.alias?, Registration.enumeration?, Registration.struct?, Registration.type?, or_comm]
          using member
  · rw [tried.mem_iff]
    cases found : first? true name registrations with
    | none => simp
    | some first =>
      cases first with
      | function => cases (of_first? found).1
      | enumeration | struct | «alias» =>
        simp [Registration.alias?, Registration.enumeration?, Registration.struct?, Registration.type?]

end KeepsFirst

theorem type?_eq_findSome? (name : String) : symbols.type? name =
    [symbols.alias? name, (symbols.enumeration? name).map Enumeration.ty,
      (symbols.struct? name).map Layout.ty].findSome? id := by
  rw [type?]
  cases symbols.alias? name <;> cases symbols.enumeration? name <;> cases symbols.struct? name <;> rfl

/-- Of several symbols that come with one name the first one stands. No two types go by one name, a symbol is added
exactly if none that came before it in its set of names has its name, and one that is refused changes nothing. What is
found under a name is the first symbol that came with it, in whichever order the tables are searched for a type. -/
theorem first_registration_stands (registrations : List Registration) :
    let symbols := registrations.foldl register {}
    symbols.typeNames.Nodup
    ∧ (∀ next, ((symbols.register? next).isSome = true ↔
          ∀ earlier ∈ registrations, earlier.isType = next.isType → earlier.name ≠ next.name)
        ∧ ((symbols.register? next).isSome = false → symbols.register next = symbols))
    ∧ ∀ name, symbols.function? name = (first? false name registrations).bind Registration.function?
      ∧ symbols.enumeration? name = (first? true name registrations).bind Registration.enumeration?
      ∧ symbols.struct? name = (first? true name registrations).bind Registration.struct?
      ∧ symbols.alias? name = (first? true name registrations).bind Registration.alias?
      ∧ ∀ order : List (Option Ty), order.Perm [symbols.alias? name, (symbols.enumeration? name).map Enumeration.ty,
          (symbols.struct? name).map Layout.ty] →
        order.findSome? id = symbols.type? name := by
  intro symbols
  have keeps : symbols.KeepsFirst registrations := keepsFirst_foldl registrations
  have distinct : symbols.typeNames.Nodup := Reachable.nodup_typeNames ⟨registrations, rfl⟩
  refine ⟨distinct, fun next => ⟨?_, fun refused => ?_⟩, fun name => ⟨keeps.function?_eq name,
    keeps.enumeration?_eq name, keeps.struct?_eq name, keeps.alias?_eq name, fun order tried => ?_⟩⟩
  · rw [← first?_eq_none_iff, ← Option.not_isSome_iff_eq_none, ← keeps.refuses_iff, Option.isSome_iff_ne_none]
  · rw [Option.isSome_eq_false_iff, Option.isNone_iff_eq_none] at refused
    rw [register, refused, Option.getD_none]
  · rw [keeps.findSome?_eq name tried, type?_eq_findSome?, keeps.findSome?_eq name (.refl _)]

/-- An alias by the name of an enum is refused, and the function by that name is not. -/
theorem first_registration_stands_mode :
    let registrations : List Registration := [.enumeration ⟨"Mode", .i32, [("on", .integer 1)]⟩, .alias "Mode" .f32,
      .struct ⟨"Light", []⟩, .function ⟨"Mode", [], none⟩]
    let symbols := registrations.foldl register {}
    symbols.register (.struct ⟨"Mode", [("power", .f32)]⟩) = symbols
    ∧ (symbols.register? (.alias "light" .f32)).isSome = true
    ∧ [(symbols.struct? "Mode").map Layout.ty, (symbols.enumeration? "Mode").map Enumeration.ty,
      symbols.alias? "Mode"].findSome? id = some (.enumeration "Mode" .i32)
    ∧ symbols.function? "Mode" = some ⟨"Mode", [], none⟩ := by
  intro registrations symbols
  obtain ⟨-, added, found⟩ := first_registration_stands registrations
  refine ⟨(added _).2 (by decide), (added _).1.mpr (by decide), ?_, (found "Mode").1⟩
  exact (found "Mode").2.2.2.2 _ (List.reverse_perm [_, _, _])

end Symbols

end ShaderCheck
