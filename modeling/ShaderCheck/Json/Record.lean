import ShaderCheck.Json.Basic

/-!
Records and variants in JSON.

A record is an object, or an array of its fields in their declared order. A variant is a record that also says which
one of several it is: in a `type` field, or as the first item of the array. Fields that a record does not have
are ignored, but one that it has may stand in an object only once.
-/

namespace ShaderCheck.Json

/-- The values of the declared fields, none for a missing one. -/
def record? (names : List String) : Json → Option (List (Option Json))
  | .object fields =>
    names.mapM fun name =>
      match fields.filter (·.1 = name) with
      | [] => some none
      | [(_, value)] => some (some value)
      | _ => none
  | .array items =>
    if items.length ≤ names.length then
      some (items.map some ++ List.replicate (names.length - items.length) none)
    else none
  | _ => none

/-- The variant that a tag names. Inside another variant its position among the variants will do too. -/
def tag? (inner : Bool) (variants : List String) : Json → Option String
  | .string name => if variants.contains name then some name else none
  | .number n => if inner then n.toNat?.bind (variants[·]?) else none
  | _ => none

def variant? (inner : Bool) (variants : List String) : Json → Option (String × Json)
  | .object fields =>
    match fields.filter (·.1 = "type") with
    | [(_, tag)] =>
      (tag? inner variants tag).map fun name => (name, .object (fields.filter (·.1 ≠ "type")))
    | _ => none
  | .array (tag :: items) => (tag? inner variants tag).map fun name => (name, .array items)
  | _ => none

def required {α : Type} (read : Json → Option α) (field : Option Json) : Option α := field.bind read

def optional {α : Type} (read : Json → Option α) : Option Json → Option (Option α)
  | none | some .null => some none
  | some value => (read value).map some

def list {α : Type} (read : Json → Option α) : Json → Option (List α)
  | .array items => items.mapM read
  | _ => none

def defaultList {α : Type} (read : Json → Option α) : Option Json → Option (List α)
  | none => some []
  | some value => list read value

def text? : Json → Option String
  | .string text => some text
  | _ => none

end ShaderCheck.Json
