import ShaderCheck.Main
import ShaderCheck.Typed.Record
import ShaderCheck.Proofs.Lists
import ShaderCheck.Proofs.CastOrder
import ShaderCheck.Proofs.Overloads
import ShaderCheck.Proofs.Outcome
import ShaderCheck.Proofs.Rounds
import ShaderCheck.Proofs.Nodes
import ShaderCheck.Proofs.Redeclaration
import ShaderCheck.Proofs.Whole
import ShaderCheck.Proofs.Traversal
import ShaderCheck.Proofs.Declarations
import ShaderCheck.Proofs.Annotation
import ShaderCheck.Proofs.FlowSoundness
import ShaderCheck.Proofs.ScopeWalk
import ShaderCheck.Proofs.ScopeFrame
import ShaderCheck.Proofs.Agreement
import ShaderCheck.Proofs.Lexical
import ShaderCheck.Proofs.Commuting
import ShaderCheck.Proofs.Independence
import ShaderCheck.Proofs.Reordering
import ShaderCheck.Proofs.FormedTypes
import ShaderCheck.Proofs.FormedDocuments
import ShaderCheck.Proofs.NamedTypes
import ShaderCheck.Proofs.WellFormedTypes
import ShaderCheck.Proofs.Coherence
import ShaderCheck.Proofs.Tally
import ShaderCheck.Proofs.Attribution
import ShaderCheck.Proofs.ControlFlow
import ShaderCheck.Proofs.References
import ShaderCheck.Proofs.Fading
import ShaderCheck.Proofs.Throughout
import ShaderCheck.Proofs.FoldedRanges
import ShaderCheck.Proofs.Scripts
import ShaderCheck.Proofs.Formats
import ShaderCheck.Proofs.RoundTrip
import ShaderCheck.Proofs.Generics
import ShaderCheck.Proofs.Arithmetic
import ShaderCheck.Proofs.Combining
import ShaderCheck.Proofs.InferredTypes
import ShaderCheck.Proofs.EnumMembers
import ShaderCheck.Proofs.EnumNames
import ShaderCheck.Proofs.PointerSpaces
import ShaderCheck.Proofs.Constness
import ShaderCheck.Proofs.Transposition
import ShaderCheck.Proofs.Conversions
import ShaderCheck.Proofs.TypeReports
import ShaderCheck.Proofs.Registrations
import ShaderCheck.Proofs.WrittenTypes
import ShaderCheck.Proofs.WholeNumbers
import ShaderCheck.Proofs.CaseValues
import ShaderCheck.Proofs.Precedence
import ShaderCheck.Proofs.TraitOrder
import ShaderCheck.Proofs.InvertedBits
