import ShaderCheck.Symbol.Table

/-!
The functions that come with the language.
-/

namespace ShaderCheck.Builtin

def restricted (tags : List Tag) : List Generic := [⟨"T", some tags⟩]

def generically (names : List String) : List Parameter := names.map fun name => ⟨name, .generic "T"⟩

def uniform (name : String) (tags : List Tag) (parameters : List String) : Function where
  name := name
  headers := [⟨restricted tags, generically parameters, .generic "T"⟩]
  range := none

def reduction (name : String) : Function where
  name := name
  headers := [.vector 2 .bool, .vector 3 .bool, .vector 4 .bool, .bool].map fun ty =>
    ⟨[], [⟨"e", .concrete ty⟩], .concrete .bool⟩
  range := none

def select : Function where
  name := "select"
  headers :=
    [⟨restricted [.scalar, .vector], generically ["f", "t"] ++ [⟨"cond", .concrete .bool⟩],
      .generic "T"⟩]
  range := none

def floats : List Tag := [.float, .float16]

def all : List Function :=
  [uniform "abs" [.numeric] ["e"],
    uniform "min" [.numeric] ["e1", "e2"],
    uniform "max" [.numeric] ["e1", "e2"],
    uniform "clamp" [.numeric] ["e", "low", "high"],
    uniform "sqrt" floats ["e"],
    uniform "floor" floats ["e"],
    uniform "ceil" floats ["e"],
    uniform "sin" floats ["e"],
    uniform "cos" floats ["e"],
    select,
    reduction "all",
    reduction "any"]

/-- The symbols with the built-in functions, except where a name is taken. -/
def register (symbols : Symbols) : Symbols :=
  all.foldl (fun symbols function => (symbols.addFunction? function).getD symbols) symbols

end ShaderCheck.Builtin
