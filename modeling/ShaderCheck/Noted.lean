import ShaderCheck.Fault
import ShaderCheck.Incident

/-!
Results with notes. Checking a node gives its facts, and notes what is wrong with it and which names it uses.
Notes only ever pile up: those of a step come behind those of the step before it.
-/

namespace ShaderCheck

structure Notes where
  incidents : List Incident := []
  /-- The names that were used, as often as they were. -/
  used : List String := []
  deriving DecidableEq, Inhabited

namespace Notes

def append (a b : Notes) : Notes := ⟨a.incidents ++ b.incidents, a.used ++ b.used⟩

instance : Append Notes := ⟨append⟩

end Notes

/-- A value together with what was noted on the way to it. -/
structure Noted (α : Type) where
  value : α
  notes : Notes := {}

namespace Noted

instance : Monad Noted where
  pure value := ⟨value, {}⟩
  bind a f :=
    let b := f a.value
    ⟨b.value, a.notes ++ b.notes⟩

def report (node : NodeRef) (cause : Cause) : Noted Unit := ⟨(), { incidents := [⟨cause, some node⟩] }⟩

def expect (condition : Bool) (node : NodeRef) (cause : Cause) : Noted Unit :=
  if condition then pure () else report node cause

def use (name : String) : Noted Unit := ⟨(), { used := [name] }⟩

end Noted

/-- A step that may end in a fault. What was noted up to there is kept either way. -/
abbrev Attempt (α : Type) : Type := ExceptT Fault Noted α

end ShaderCheck
