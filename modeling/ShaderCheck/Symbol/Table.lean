import ShaderCheck.Constant
import ShaderCheck.Symbol.Function

/-!
The symbols that a document declares: functions, and the types that it names. Functions have their names to themselves;
enums, structs and aliases share theirs. The first declaration of a name stands.
-/

namespace ShaderCheck

structure Enumeration where
  name : String
  underlying : Ty
  members : List (String × Constant)
  deriving DecidableEq

namespace Enumeration

def member? (enumeration : Enumeration) (name : String) : Option Constant :=
  enumeration.members.lookup name

def ty (enumeration : Enumeration) : Ty := .enumeration enumeration.name enumeration.underlying

end Enumeration

structure Layout where
  name : String
  members : List (String × Ty)
  deriving DecidableEq

namespace Layout

def member? (layout : Layout) (name : String) : Option Ty := layout.members.lookup name

def ty (layout : Layout) : Ty := .struct layout.name layout.members

end Layout

structure Symbols where
  functions : List Function := []
  enums : List Enumeration := []
  structs : List Layout := []
  aliases : List (String × Ty) := []
  deriving DecidableEq, Inhabited

namespace Symbols

def function? (symbols : Symbols) (name : String) : Option Function :=
  symbols.functions.find? (·.name = name)

def enumeration? (symbols : Symbols) (name : String) : Option Enumeration :=
  symbols.enums.find? (·.name = name)

def struct? (symbols : Symbols) (name : String) : Option Layout :=
  symbols.structs.find? (·.name = name)

def alias? (symbols : Symbols) (name : String) : Option Ty := symbols.aliases.lookup name

def hasTypeName (symbols : Symbols) (name : String) : Bool :=
  (symbols.enumeration? name).isSome || (symbols.struct? name).isSome
    || (symbols.alias? name).isSome

def type? (symbols : Symbols) (name : String) : Option Ty :=
  symbols.alias? name <|> (symbols.enumeration? name).map Enumeration.ty
    <|> (symbols.struct? name).map Layout.ty

def addFunction? (symbols : Symbols) (function : Function) : Option Symbols :=
  if (symbols.function? function.name).isSome then none
  else some { symbols with functions := function :: symbols.functions }

def addEnum? (symbols : Symbols) (enumeration : Enumeration) : Option Symbols :=
  if symbols.hasTypeName enumeration.name then none
  else some { symbols with enums := enumeration :: symbols.enums }

def addStruct? (symbols : Symbols) (layout : Layout) : Option Symbols :=
  if symbols.hasTypeName layout.name then none
  else some { symbols with structs := layout :: symbols.structs }

def addAlias? (symbols : Symbols) (name : String) (ty : Ty) : Option Symbols :=
  if symbols.hasTypeName name then none
  else some { symbols with aliases := (name, ty) :: symbols.aliases }

end Symbols

end ShaderCheck
