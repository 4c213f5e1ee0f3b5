import ShaderCheck.Node
import ShaderCheck.Ty.Basic

/-!
Incidents: what is wrong with a document without keeping the rest of it from being checked. An incident holds
its cause; the wording of all causes is in one place.
-/

namespace ShaderCheck

inductive Cause where
  -- Type references
  | unexpectedArguments (type : String)
  | notOneArgument (type : String)
  | vectorElement (found : Ty)
  | matrixElement (found : Ty)
  | unknownType (name : String)
  -- Names, literals and operators
  | invalidLiteral (text : String)
  | unknownName (name : String)
  | unknownOperator (family token : String)
  -- Operands
  | mismatchedOperands (operator : String) (left right : Ty)
  | nonNumericOperands (operator : String) (left right : Ty)
  | nonIntegerOperand (operator : String) (found : Ty)
  | dimensionMismatch (operator : String) (left right : Ty)
  | shiftOfValue (operator : String)
  | signedShiftAmount (found : Ty)
  | incomparable (left right : Ty)
  | unorderedOperands (operator : String) (found : Ty)
  | uncomparedType (found : Ty)
  | nonBooleanOperand (operator : String) (found : Ty)
  | unaryOperand (operator : String) (found : Ty)
  -- Access
  | nonIntegerIndex (found : Ty)
  | notIndexable (found : Ty)
  | unknownStructMember (struct member : String)
  | invalidSwizzle (member : String) (found : Ty)
  | unknownEnumMember (enumeration member : String)
  | noMembers (found : Ty) (member : String)
  -- Calls, conversions and pointers
  | unknownFunction (name : String)
  | noOverload (function : String) (found : List Ty)
  | genericNotInferred (generic function : String)
  | noConversion (source target : Ty)
  | addressOfValue
  | notPointable (found : Ty)
  | notAPointer (found : Ty)
  -- Assignments
  | constantAssigned
  | targetNotStorage
  | notAssignable (value target : Ty)
  | notSteppable (found : Ty)
  -- Control flow
  | nonBooleanCondition (construct : String) (found : Ty)
  | forUpdate
  | selectorNotInteger (found : Ty)
  | caseNotInteger (found : Ty)
  | caseNotConstant
  | repeatedCase (value : Int64)
  | returnOutsideFunction
  | returnMismatch (found expected : Ty) (function : String)
  | breakOutsideLoop
  | continueOutsideLoop
  | discardOutsideFunction
  -- Variables
  | unknownLocalKeyword (keyword : String)
  | unknownGlobalKeyword (keyword : String)
  | constantWithoutInitializer (name : String)
  | nonConstantInitializer (name : String)
  | initializerMismatch (name : String) (declared found : Ty)
  | untypedVariable (name : String)
  | notStorable (ty : Ty) (name : String)
  | initializedExternal (name : String) (space : AddressSpace)
  | untypedExternal (name : String) (space : AddressSpace)
  | notHostShareable (ty : Ty) (name : String)
  -- Enums, structs and aliases
  | enumMemberValue (member : String)
  | mixedEnum (enumeration member : String)
  | repeatedEnumMember (enumeration member : String)
  | emptyEnum (enumeration : String)
  | repeatedStructMember (struct member : String)
  | memberNotStorable (ty : Ty) (struct member : String)
  | typeNameTaken (name : String)
  -- Functions
  | missingHeader (function : String)
  | functionNameTaken (function : String)
  | unknownRestriction (restriction generic : String)
  | repeatedParameter (parameter : String)
  /-- A note that a host adds itself. -/
  | remark (text : String)
  deriving DecidableEq

def inQuotes (word : String) : String := "'" ++ word ++ "'"

def Cause.message : Cause → String
  | .unexpectedArguments type => "Type " ++ inQuotes type ++ " takes no generic arguments"
  | .notOneArgument type => "Type " ++ inQuotes type ++ " needs exactly one generic argument"
  | .vectorElement found => "Vector element type must be scalar, found " ++ found.text
  | .matrixElement found => "Matrix element type must be a float, found " ++ found.text
  | .unknownType name => "Type " ++ inQuotes name ++ " can't be found"
  | .invalidLiteral text => "Invalid literal " ++ inQuotes text
  | .unknownName name => "Name " ++ inQuotes name ++ " can't be found"
  | .unknownOperator family token => "Unknown " ++ family ++ " operator " ++ inQuotes token
  | .mismatchedOperands operator left right =>
    "Can't apply " ++ inQuotes operator ++ " to " ++ left.text ++ " and " ++ right.text
  | .nonNumericOperands operator left right =>
    "Arithmetic " ++ inQuotes operator ++ " needs numeric operands, found " ++ left.text ++ " and "
      ++ right.text
  | .nonIntegerOperand operator found =>
    "Bit operation " ++ inQuotes operator ++ " needs integer operands, found " ++ found.text
  | .dimensionMismatch operator left right =>
    "Operands of " ++ inQuotes operator ++ " differ in dimension: " ++ left.text ++ " and "
      ++ right.text
  | .shiftOfValue operator => "Left side of " ++ inQuotes operator ++ " must be a storage location"
  | .signedShiftAmount found => "Shift amount must be unsigned, found " ++ found.text
  | .incomparable left right => "Can't compare " ++ left.text ++ " with " ++ right.text
  | .unorderedOperands operator found =>
    "Operator " ++ inQuotes operator ++ " needs numeric operands, found " ++ found.text
  | .uncomparedType found => "Values of type " ++ found.text ++ " can't be compared"
  | .nonBooleanOperand operator found =>
    "Logical operator " ++ inQuotes operator ++ " needs boolean operands, found " ++ found.text
  | .unaryOperand operator found =>
    "Operator " ++ inQuotes operator ++ " can't be applied to " ++ found.text
  | .nonIntegerIndex found => "Index must be an integer, found " ++ found.text
  | .notIndexable found => "Values of type " ++ found.text ++ " can't be indexed"
  | .unknownStructMember struct member =>
    "Struct " ++ inQuotes struct ++ " has no member " ++ inQuotes member
  | .invalidSwizzle member found => inQuotes member ++ " is not a valid swizzle of " ++ found.text
  | .unknownEnumMember enumeration member =>
    "Enum " ++ inQuotes enumeration ++ " has no member " ++ inQuotes member
  | .noMembers found member =>
    "Values of type " ++ found.text ++ " have no member " ++ inQuotes member
  | .unknownFunction name => "Function " ++ inQuotes name ++ " can't be found"
  | .noOverload function found =>
    "No overload of " ++ inQuotes function ++ " accepts ("
      ++ String.intercalate ", " (found.map Ty.text) ++ ")"
  | .genericNotInferred generic function =>
    "Generic " ++ inQuotes generic ++ " of " ++ inQuotes function
      ++ " can't be inferred from the call"
  | .noConversion source target => source.text ++ " can't be converted into " ++ target.text
  | .addressOfValue => "Only storage locations have an address"
  | .notPointable found => "Values of type " ++ found.text ++ " can't be pointed to"
  | .notAPointer found => "Only pointers can be dereferenced, found " ++ found.text
  | .constantAssigned => "Constants can't be assigned"
  | .targetNotStorage => "Assignment target must be a storage location"
  | .notAssignable value target => "Can't assign " ++ value.text ++ " to " ++ target.text
  | .notSteppable found => "Only integer scalars can be stepped, found " ++ found.text
  | .nonBooleanCondition construct found =>
    "Condition of " ++ construct ++ " must be a bool, found " ++ found.text
  | .forUpdate => "Update of a for loop must be an assignment, increment, decrement or function call"
  | .selectorNotInteger found => "Switch selector must be an integer, found " ++ found.text
  | .caseNotInteger found => "Case value must be an integer, found " ++ found.text
  | .caseNotConstant => "Case value must be a constant"
  | .repeatedCase value => "Case value " ++ toString value.toInt ++ " is used more than once"
  | .returnOutsideFunction => "Return statement can only be used inside a function"
  | .returnMismatch found expected function =>
    "Return type " ++ found.text ++ " doesn't match the return type " ++ expected.text ++ " of "
      ++ inQuotes function
  | .breakOutsideLoop => "Break statement can only be used inside a loop or switch"
  | .continueOutsideLoop => "Continue statement can only be used inside a loop"
  | .discardOutsideFunction => "Discard statement can only be used inside a function"
  | .unknownLocalKeyword keyword => "Unknown local declaration kind " ++ inQuotes keyword
  | .unknownGlobalKeyword keyword => "Unknown global declaration kind " ++ inQuotes keyword
  | .constantWithoutInitializer name => "Constant " ++ inQuotes name ++ " needs an initializer"
  | .nonConstantInitializer name =>
    "Constant " ++ inQuotes name ++ " must be initialized with a constant expression"
  | .initializerMismatch name declared found =>
    "Can't initialize " ++ inQuotes name ++ " of type " ++ declared.text ++ " with " ++ found.text
  | .untypedVariable name =>
    "Declaration of " ++ inQuotes name ++ " needs a type or an initializer"
  | .notStorable ty name => "Type " ++ ty.text ++ " can't be stored in variable " ++ inQuotes name
  | .initializedExternal name space =>
    inQuotes name ++ " in the " ++ space.text ++ " space can't have an initializer"
  | .untypedExternal name space =>
    inQuotes name ++ " in the " ++ space.text ++ " space needs a declared type"
  | .notHostShareable ty name =>
    "Type " ++ ty.text ++ " of " ++ inQuotes name ++ " can't be shared with the host"
  | .enumMemberValue member =>
    "Enum member " ++ inQuotes member ++ " must be an integer or string literal"
  | .mixedEnum enumeration member =>
    "Enum " ++ inQuotes enumeration ++ " mixes integer and string members at " ++ inQuotes member
  | .repeatedEnumMember enumeration member =>
    "Enum " ++ inQuotes enumeration ++ " declares " ++ inQuotes member ++ " more than once"
  | .emptyEnum enumeration => "Enum " ++ inQuotes enumeration ++ " has no members"
  | .repeatedStructMember struct member =>
    "Struct " ++ inQuotes struct ++ " declares " ++ inQuotes member ++ " more than once"
  | .memberNotStorable ty struct member =>
    "Type " ++ ty.text ++ " of " ++ inQuotes (struct ++ "." ++ member) ++ " can't be stored"
  | .typeNameTaken name => "Type name " ++ inQuotes name ++ " is already declared"
  | .missingHeader function => "Function " ++ inQuotes function ++ " needs at least one header"
  | .functionNameTaken function => "Function " ++ inQuotes function ++ " is already declared"
  | .unknownRestriction restriction generic =>
    "Unknown restriction " ++ inQuotes restriction ++ " on generic " ++ inQuotes generic
  | .repeatedParameter parameter =>
    "Parameter " ++ inQuotes parameter ++ " is declared more than once"
  | .remark text => text

structure Incident where
  cause : Cause
  node : Option NodeRef
  deriving DecidableEq

def Incident.message (incident : Incident) : String := incident.cause.message

end ShaderCheck
