import ShaderCheck.Node

/-!
Faults: what ends the checking of a document.
-/

namespace ShaderCheck

inductive Fault where
  /-- The facts of a node were asked for before it was checked. No check raises it: the check of a part hands the
  facts of the part straight to the check of the whole. -/
  | notYetChecked (node : NodeRef)
  | documentAlreadySet
  | documentNotSet
  | duplicateInScope (name : String)
  /-- A file could not be read. -/
  | unreadable (reason : String)
  /-- A text holds no document. -/
  | malformed (reason : String)
  /-- The numbering of enum members left the range of 64 bits. -/
  | numberingOverflow
  deriving DecidableEq

namespace Fault

def message : Fault → String
  | .notYetChecked node =>
    "Semantic data of " ++ node.kind.name ++ " at " ++ node.range.text
      ++ " was read before the node was processed"
  | .documentAlreadySet => "Document is already set for this context"
  | .documentNotSet => "A scope was requested before the document was set"
  | .duplicateInScope name => "Value " ++ name ++ " is already defined in the current scope"
  | .unreadable reason => "IO error: " ++ reason
  | .malformed reason => "Invalid syntax tree: " ++ reason
  | .numberingOverflow => "attempt to add with overflow"

def range? : Fault → Option Span
  | .notYetChecked node => some node.range
  | _ => none

end Fault

end ShaderCheck
