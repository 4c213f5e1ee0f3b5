/-!
Stretches of source text. A document carries the position of every node it holds, and
incidents are reported where their node stands.
-/

namespace ShaderCheck

structure Position where
  line : UInt32
  column : UInt32
  deriving DecidableEq, Inhabited

namespace Position

/-- Positions come in reading order: by line, and by column within a line. -/
def before (a b : Position) : Bool :=
  a.line < b.line || (a.line == b.line && a.column < b.column)

def earlier (a b : Position) : Position := if b.before a then b else a

def later (a b : Position) : Position := if a.before b then b else a

end Position

structure Span where
  start : Position
  stop : Position
  deriving DecidableEq, Inhabited

namespace Span

/-- The span of nothing in particular, at the very start of a text. -/
def origin : Span := ⟨⟨0, 0⟩, ⟨0, 0⟩⟩

def merge (a b : Span) : Span :=
  ⟨a.start.earlier b.start, a.stop.later b.stop⟩

/-- A span is shown by where it starts. -/
def text (span : Span) : String :=
  toString span.start.line.toNat ++ ":" ++ toString span.start.column.toNat

end Span

end ShaderCheck
