import ShaderCheck.Source.Reader
import ShaderCheck.Proofs.Formats

/-!
The forms of a document in JSON, for every node that it may hold. A document is read back from each of them.
-/

namespace ShaderCheck

open Json

def Span.format (span : Span) : Format :=
  .only (.array ([span.start.line, span.start.column, span.stop.line, span.stop.column].map fun word =>
    .number (.ofNat word.toNat)))

def Span.field (span : Span) : Field := .required "range" span.format

namespace TypeRef

mutual

def format : TypeRef → Format
  | .mk range name arguments => .record [range.field, .text "name" name, .list "generics" (formatAll arguments)]
termination_by structural type => type

def formatAll : List TypeRef → List Format
  | [] => []
  | type :: rest => type.format :: formatAll rest
termination_by structural types => types

end

theorem formatAll_eq (types : List TypeRef) : formatAll types = types.map format := by
  induction types with
  | nil => rfl
  | cons type rest ih => rw [formatAll, ih, List.map_cons]

end TypeRef

def OperatorFamily.tag : OperatorFamily → String
  | .arithmetic => "ArithmeticExpression"
  | .bitwise => "BitOperationExpression"
  | .comparison => "ComparisonExpression"
  | .logical => "LogicalExpression"

namespace Expr

def callFields (range : Span) (callee : String) (generics : List TypeRef) (arguments : List Format) : List Field :=
  [range.field, .text "name" callee, .list "generics" (generics.map TypeRef.format), .list "parameters" arguments]

mutual

def format : Expr → Format
  | .binary family range left operator right =>
    .variant family.tag
      [range.field, .required "left" left.format, .text "operator" operator, .required "right" right.format]
  | .unary range operator operand =>
    .variant "UnaryExpression" [range.field, .text "operator" operator, .required "expression" operand.format]
  | .addressOf range operand => .variant "AddressOfExpression" [range.field, .required "expression" operand.format]
  | .dereference range operand => .variant "PointerExpression" [range.field, .required "expression" operand.format]
  | .parenthesized range inner => .variant "ParenthesizedExpression" [range.field, .required "expression" inner.format]
  | .reference range name => .variant "VariableNameExpression" [range.field, .text "name" name]
  | .literal range text => .variant "LiteralValueExpression" [range.field, .text "textValue" text]
  | .call range callee generics arguments =>
    .variant "FunctionCallExpression" (callFields range callee generics (formatAll arguments))
  | .index range value position =>
    .variant "IndexedValueExpression" [range.field, .required "value" value.format, .required "index" position.format]
  | .member range value property =>
    .variant "ValueDecompositionExpression" [range.field, .required "value" value.format, .text "property" property]
  | .conversion range target operand =>
    .variant "ConversionExpression"
      [range.field, .required "target" target.format, .required "expression" operand.format]
termination_by structural e => e

def formatAll : List Expr → List Format
  | [] => []
  | e :: rest => e.format :: formatAll rest
termination_by structural es => es

end

theorem formatAll_eq (es : List Expr) : formatAll es = es.map format := by
  induction es with
  | nil => rfl
  | cons e rest ih => rw [formatAll, ih, List.map_cons]

end Expr

def VariableDecl.fields (declaration : VariableDecl) : List Field :=
  [declaration.range.field, .text "declarationType" declaration.keyword, .text "name" declaration.name,
    .optional "typeDeclaration" (declaration.type.map TypeRef.format),
    .optional "expression" (declaration.initializer.map Expr.format)]

def Stmt.loopFields (range : Span) (condition : Expr) (body : List Field) : List Field :=
  [range.field, .required "expression" condition.format, .required "block" (.record body)]

mutual

def Stmt.format : Stmt → Format
  | .block body => .variant "BlockStatement" body.fields
  | .branch chosen => .variant "IfStatement" chosen.fields
  | .whileLoop range condition body => .variant "WhileStatement" (Stmt.loopFields range condition body.fields)
  | .doWhile range condition body => .variant "DoWhileStatement" (Stmt.loopFields range condition body.fields)
  | .forLoop range init condition update body =>
    .variant "ForStatement"
      [range.field, .optional "init" (init.map fun declaration => .record declaration.fields),
        .optional "expression" (condition.map Expr.format), .optional "update" (Stmt.formatOption update),
        .required "block" (.record body.fields)]
  | .switch range selector cases fallback =>
    .variant "SwitchStatement"
      [range.field, .required "expression" selector.format, .list "cases" (Case.formatAll cases),
        .optional "default" (Block.formatOption fallback)]
  | .assignment range operator target value =>
    .variant "AssignmentStatement"
      [range.field, .text "operator" operator, .required "variable" target.format,
        .required "expression" value.format]
  | .step range operator target =>
    .variant "IncrementDecrementStatement"
      [range.field, .text "operator" operator, .required "expression" target.format]
  | .variable declaration => .variant "VariableDeclarationStatement" declaration.fields
  | .returning range value =>
    .variant "ReturnStatement" [range.field, .optional "expression" (value.map Expr.format)]
  | .breaking range => .variant "BreakStatement" [range.field]
  | .continuing range => .variant "ContinueStatement" [range.field]
  | .discarding range => .variant "DiscardStatement" [range.field]
  | .call range callRange callee generics arguments =>
    .variant "FunctionCallStatement"
      [range.field, .required "call" (.record (Expr.callFields callRange callee generics (arguments.map Expr.format)))]
termination_by structural s => s

def Stmt.formatAll : List Stmt → List Format
  | [] => []
  | s :: rest => s.format :: Stmt.formatAll rest
termination_by structural ss => ss

def Stmt.formatOption : Option Stmt → Option Format
  | none => none
  | some s => some s.format
termination_by structural s => s

def Block.fields : Block → List Field
  | .mk range statements => [range.field, .list "statements" (Stmt.formatAll statements)]
termination_by structural block => block

def Block.formatOption : Option Block → Option Format
  | none => none
  | some block => some (.record block.fields)
termination_by structural block => block

def Branch.fields : Branch → List Field
  | .mk range condition body otherwise =>
    [range.field, .required "expression" condition.format, .required "block" (.record body.fields),
      .optional "elseBranch" otherwise.format?]
termination_by structural branch => branch

def Otherwise.format? : Otherwise → Option Format
  | .nothing => none
  | .block body => some (.variant "BlockStatement" body.fields)
  | .branch branch => some (.variant "IfStatement" branch.fields)
termination_by structural otherwise => otherwise

def Case.format : Case → Format
  | .mk range values body =>
    .record [range.field, .required "expressions" (.list (values.map Expr.format)),
      .required "block" (.record body.fields)]
termination_by structural item => item

def Case.formatAll : List Case → List Format
  | [] => []
  | item :: rest => item.format :: Case.formatAll rest
termination_by structural items => items

end

def Block.format (block : Block) : Format := .record block.fields

theorem Block.fields_names (block : Block) : block.fields.map Field.name = ["range", "statements"] := by
  cases block
  rfl

theorem Branch.fields_names (branch : Branch) :
    branch.fields.map Field.name = ["range", "expression", "block", "elseBranch"] := by
  cases branch
  rfl

theorem Stmt.formatAll_eq (ss : List Stmt) : formatAll ss = ss.map format := by
  induction ss with
  | nil => rfl
  | cons s rest ih => rw [formatAll, ih, List.map_cons]

theorem Case.formatAll_eq (items : List Case) : formatAll items = items.map format := by
  induction items with
  | nil => rfl
  | cons item rest ih => rw [formatAll, ih, List.map_cons]

theorem Stmt.formatOption_eq (s : Option Stmt) : formatOption s = s.map format := by
  cases s <;> rfl

theorem Block.formatOption_eq (block : Option Block) : formatOption block = block.map format := by
  cases block <;> rfl

def typedFields (range : Span) (name : String) (type : TypeRef) : List Field :=
  [range.field, .text "name" name, .required "typeDeclaration" type.format]

def GenericDecl.format (declaration : GenericDecl) : Format :=
  .record [declaration.range.field, .text "name" declaration.name,
    .optional "restrictions" (declaration.restrictions.map fun tags => .list (tags.map Format.text))]

def ParameterDecl.format (declaration : ParameterDecl) : Format :=
  .record (typedFields declaration.range declaration.name declaration.type)

def HeaderDecl.format (declaration : HeaderDecl) : Format :=
  .record [declaration.range.field, .list "generics" (declaration.generics.map GenericDecl.format),
    .list "parameters" (declaration.parameters.map ParameterDecl.format),
    .required "returnType" declaration.returnType.format]

def FunctionDecl.fields (declaration : FunctionDecl) : List Field :=
  [declaration.range.field, .text "name" declaration.name,
    .required "headers" (.list (declaration.headers.map HeaderDecl.format)),
    .required "block" declaration.body.format]

def LiteralRef.format (literal : LiteralRef) : Format :=
  .record [literal.range.field, .text "textValue" literal.text]

def EnumMemberDecl.format (member : EnumMemberDecl) : Format :=
  .record [member.range.field, .text "name" member.name, .optional "value" (member.value.map LiteralRef.format)]

def EnumDecl.fields (declaration : EnumDecl) : List Field :=
  [declaration.range.field, .text "name" declaration.name,
    .list "values" (declaration.members.map EnumMemberDecl.format)]

def PropertyDecl.format (declaration : PropertyDecl) : Format :=
  .record (typedFields declaration.range declaration.name declaration.type)

def StructDecl.fields (declaration : StructDecl) : List Field :=
  [declaration.range.field, .text "name" declaration.name,
    .list "properties" (declaration.properties.map PropertyDecl.format)]

def Decl.format : Decl → Format
  | .function declaration => .variant "FunctionDeclaration" declaration.fields
  | .enumeration declaration => .variant "EnumDeclaration" declaration.fields
  | .struct declaration => .variant "StructDeclaration" declaration.fields
  | .alias declaration =>
    .variant "AliasDeclaration" (typedFields declaration.range declaration.name declaration.type)
  | .variable declaration => .variant "VariableDeclaration" declaration.fields

def Document.format (document : Document) : Format :=
  .record [document.range.field, .list "declarations" (document.declarations.map Decl.format)]

theorem Span.word?_ofNat (word : UInt32) : Span.word? (.number (.ofNat word.toNat)) = some word := by
  have small : word.toNat < UInt32.size := word.toNat_lt
  simp [Span.word?, Numeral.toNat?, Numeral.ofNat, small]

theorem Span.field_reads (bound : Nat) (span : Span) : span.field.Reads bound (required Span.ofJson?) span := by
  have reads : span.format.Reads bound Span.ofJson? span := by
    rintro _ rfl -
    simp [Span.ofJson?, Span.word?_ofNat]
  exact reads.required "range"

namespace TypeRef

theorem format_depth_pos {type : TypeRef} {json : Json} (admitted : type.format.Admits json) : 0 < json.depth := by
  cases type
  exact IsRecord.depth_pos admitted

theorem read_reads (bound : Nat) (type : TypeRef) : type.format.Reads bound (read bound) type := by
  induction bound generalizing type with
  | zero => exact fun json admitted shallow => absurd shallow (Nat.not_le_of_gt (format_depth_pos admitted))
  | succ bound ih =>
    obtain ⟨range, name, arguments⟩ := type
    simp only [format, formatAll_eq]
    exact Format.record_reads ["range", "name", "generics"] rfl (by decide) fun
      | json, _, same, .cons first (.cons second (.cons third .nil)) => by
        simp [read, same, range.field_reads _ _ first, Format.reads_text _ _ name _ second,
          Format.reads_list _ (fun type _ => ih type) _ third]

theorem reads (bound : Nat) (type : TypeRef) : type.format.Reads bound ofJson? type :=
  fun json admitted _ => read_reads json.depth type json admitted (Nat.le_refl _)

end TypeRef

namespace Expr

theorem format_depth_pos {e : Expr} {json : Json} (admitted : e.format.Admits json) : 0 < json.depth := by
  cases e <;> exact IsVariant.depth_pos admitted

theorem readCall_reads {argument : Json → Option Expr} (bound : Nat) (range : Span) (callee : String)
    (generics : List TypeRef) (arguments : List Expr) (reads : ∀ e ∈ arguments, e.format.Reads (bound - 1) argument e) :
    (Format.record (callFields range callee generics (arguments.map format))).Reads bound (readCall argument)
      (range, callee, generics, arguments) :=
  Format.record_reads ["range", "name", "generics", "parameters"] rfl (by decide) fun
    | json, _, same, .cons first (.cons second (.cons third (.cons fourth .nil))) => by
      simp [readCall, same, range.field_reads _ _ first, Format.reads_text _ _ callee _ second,
        Format.reads_list _ (fun type _ => type.reads _) _ third, Format.reads_list _ reads _ fourth]

theorem read_reads (bound : Nat) (inner : Bool) (e : Expr) : e.format.Reads bound (read bound inner) e := by
  induction bound generalizing e inner with
  | zero => exact fun json admitted shallow => absurd shallow (Nat.not_le_of_gt (format_depth_pos admitted))
  | succ bound ih =>
    cases e with
    | binary family range left operator right =>
      cases family <;>
      exact Format.variant_fields_reads inner variants ["range", "left", "operator", "right"] rfl (by decide)
        (by decide) fun
        | _, _, _, tagged, found, .cons first (.cons second (.cons third (.cons fourth .nil))) => by
          simp only [OperatorFamily.tag] at tagged
          simp only [read, tagged, Option.bind_eq_bind, Option.bind_some]
          simp [readBinary, found, range.field_reads _ _ first, (ih true left).required _ _ second,
            Format.reads_text _ _ operator _ third, (ih true right).required _ _ fourth]
    | unary range operator operand =>
      exact Format.variant_fields_reads inner variants ["range", "operator", "expression"] rfl (by decide)
        (by decide) fun
        | _, _, _, tagged, found, .cons first (.cons second (.cons third .nil)) => by
          simp only [read, tagged, Option.bind_eq_bind, Option.bind_some]
          simp [found, range.field_reads _ _ first, Format.reads_text _ _ operator _ second,
            (ih true operand).required _ _ third]
    | addressOf range operand | dereference range operand | parenthesized range operand =>
      exact Format.variant_fields_reads inner variants ["range", "expression"] rfl (by decide) (by decide) fun
        | _, _, _, tagged, found, .cons first (.cons second .nil) => by
          simp only [read, tagged, Option.bind_eq_bind, Option.bind_some]
          simp [readNested, found, range.field_reads _ _ first, (ih true operand).required _ _ second]
    | reference range name =>
      exact Format.variant_fields_reads inner variants ["range", "name"] rfl (by decide) (by decide) fun
        | _, _, _, tagged, found, .cons first (.cons second .nil) => by
          simp only [read, tagged, Option.bind_eq_bind, Option.bind_some]
          simp [found, range.field_reads _ _ first, Format.reads_text _ _ name _ second]
    | literal range text =>
      exact Format.variant_fields_reads inner variants ["range", "textValue"] rfl (by decide) (by decide) fun
        | _, _, _, tagged, found, .cons first (.cons second .nil) => by
          simp only [read, tagged, Option.bind_eq_bind, Option.bind_some]
          simp [found, range.field_reads _ _ first, Format.reads_text _ _ text _ second]
    | call range callee generics arguments =>
      simp only [format, formatAll_eq]
      refine Format.variant_reads inner variants ["range", "name", "generics", "parameters"] rfl (by decide) (by decide)
        fun json body tagged admitted shallow => ?_
      have called := readCall_reads (bound + 1) range callee generics arguments fun e _ => ih true e
      simp only [read, tagged, Option.bind_eq_bind, Option.bind_some]
      simp [called body admitted shallow]
    | index range value position =>
      exact Format.variant_fields_reads inner variants ["range", "value", "index"] rfl (by decide) (by decide) fun
        | _, _, _, tagged, found, .cons first (.cons second (.cons third .nil)) => by
          simp only [read, tagged, Option.bind_eq_bind, Option.bind_some]
          simp [found, range.field_reads _ _ first, (ih true value).required _ _ second,
            (ih true position).required _ _ third]
    | member range value property =>
      exact Format.variant_fields_reads inner variants ["range", "value", "property"] rfl (by decide) (by decide) fun
        | _, _, _, tagged, found, .cons first (.cons second (.cons third .nil)) => by
          simp only [read, tagged, Option.bind_eq_bind, Option.bind_some]
          simp [found, range.field_reads _ _ first, (ih true value).required _ _ second,
            Format.reads_text _ _ property _ third]
    | conversion range target operand =>
      exact Format.variant_fields_reads inner variants ["range", "target", "expression"] rfl (by decide) (by decide) fun
        | _, _, _, tagged, found, .cons first (.cons second (.cons third .nil)) => by
          simp only [read, tagged, Option.bind_eq_bind, Option.bind_some]
          simp [found, range.field_reads _ _ first, (target.reads _).required _ _ second,
            (ih true operand).required _ _ third]

theorem reads (bound : Nat) (inner : Bool) (e : Expr) : e.format.Reads bound (ofJson? inner) e :=
  fun json admitted _ => read_reads json.depth inner e json admitted (Nat.le_refl _)

end Expr

theorem VariableDecl.reads (bound : Nat) (inner : Bool) (declaration : VariableDecl) :
    (Format.record declaration.fields).Reads bound (ofJson? inner) declaration :=
  Format.record_reads ["range", "declarationType", "name", "typeDeclaration", "expression"] rfl (by decide) fun
    | json, _, same, .cons first (.cons second (.cons third (.cons fourth (.cons fifth .nil)))) => by
      simp [ofJson?, same, declaration.range.field_reads _ _ first, Format.reads_text _ _ _ _ second,
        Format.reads_text _ _ _ _ third, Format.reads_optional _ rfl (fun type _ => type.reads _) _ fourth,
        Format.reads_optional _ rfl (fun e _ => e.reads _ inner) _ fifth]

namespace Stmt

/-- All that the readers at one depth read back. A statement takes two steps of the depth for each level of the value:
one for its tag and one for its record. -/
structure ReadsAt (depth : Nat) : Prop where
  statement : ∀ (bound : Nat) (inner : Bool) (s : Stmt), 2 * bound ≤ depth → s.format.Reads bound (read depth inner) s
  block : ∀ (bound : Nat) (inner : Bool) (b : Block), 2 * bound ≤ depth + 1 →
    b.format.Reads bound (readBlock depth inner) b
  branch : ∀ (bound : Nat) (b : Branch), 2 * bound ≤ depth + 1 →
    (Format.record b.fields).Reads bound (readBranch depth) b
  otherwise : ∀ (bound : Nat) (o : Otherwise), 2 * bound ≤ depth →
    ∀ format ∈ o.format?, format.Reads bound (readOtherwise depth) o
  case : ∀ (bound : Nat) (c : Case), 2 * bound ≤ depth + 1 → c.format.Reads bound (readCase depth) c

theorem format_depth_pos {s : Stmt} {json : Json} (admitted : s.format.Admits json) : 0 < json.depth := by
  cases s <;> exact IsVariant.depth_pos admitted

namespace ReadsAt

variable {depth bound : Nat}

theorem zero : ReadsAt 0 where
  statement bound _ s low json admitted shallow := absurd (format_depth_pos admitted) (by omega)
  block bound _ b low json admitted shallow := absurd (IsRecord.depth_pos admitted) (by omega)
  branch bound b low json admitted shallow := absurd (IsRecord.depth_pos admitted) (by omega)
  otherwise bound o low format mem json admitted shallow := by
    -- No form of a node is of depth zero, so there is nothing to read.
    cases o with
    | nothing => nomatch mem
    | block | branch =>
      cases mem
      exact absurd (IsVariant.depth_pos admitted) (by omega)
  case bound c low json admitted shallow := by
    cases c
    exact absurd (IsRecord.depth_pos admitted) (by omega)

variable (below : ReadsAt depth)

include below

theorem block_succ (inner : Bool) (b : Block) (low : 2 * bound ≤ depth + 2) :
    b.format.Reads bound (readBlock (depth + 1) inner) b := by
  obtain ⟨range, statements⟩ := b
  simp only [Block.format, Block.fields, formatAll_eq]
  exact Format.record_reads ["range", "statements"] rfl (by decide) fun
    | json, _, same, .cons first (.cons second .nil) => by
      simp [readBlock, same, range.field_reads _ _ first,
        Format.reads_list _ (fun s _ => below.statement _ inner s (by omega)) _ second]

/-- What follows a branch is read as an option, which is none if nothing does. -/
theorem otherwise_option (o : Otherwise) (low : 2 * bound ≤ depth) :
    ∃ value, value.getD .nothing = o ∧
      Option.Rel (fun format item => format.Reads bound (readOtherwise depth) item) o.format? value := by
  cases o with
  | nothing => exact ⟨none, rfl, .none⟩
  | block body => exact ⟨some (.block body), rfl, .some (below.otherwise bound _ low _ rfl)⟩
  | branch chosen => exact ⟨some (.branch chosen), rfl, .some (below.otherwise bound _ low _ rfl)⟩

theorem branch_succ (b : Branch) (low : 2 * bound ≤ depth + 2) :
    (Format.record b.fields).Reads bound (readBranch (depth + 1)) b := by
  obtain ⟨range, condition, body, o⟩ := b
  have absent : readOtherwise depth .null = none := by cases depth <;> rfl
  have low : 2 * (bound - 1) ≤ depth := by omega
  obtain ⟨value, same, reads⟩ := below.otherwise_option o low
  simp only [Branch.fields]
  exact Format.record_reads ["range", "expression", "block", "elseBranch"] rfl (by decide) fun
    | json, _, found, .cons first (.cons second (.cons third (.cons fourth .nil))) => by
      simp [readBranch, found, range.field_reads _ _ first, (condition.reads _ true).required _ _ second,
        (below.block _ true body (by omega)).required _ _ third, Format.reads_option _ absent reads _ fourth, same]

theorem otherwise_succ (o : Otherwise) (low : 2 * bound ≤ depth + 1) :
    ∀ format ∈ o.format?, format.Reads bound (readOtherwise (depth + 1)) o := by
  intro format mem
  cases o with
  | nothing => nomatch mem
  | block body =>
    obtain rfl : Format.variant "BlockStatement" body.fields = format := Option.some.inj mem
    refine Format.variant_reads true ["BlockStatement", "IfStatement"] _ body.fields_names (by decide) (by decide)
      fun json inside tagged admitted shallow => ?_
    have found := below.block bound true body low inside admitted shallow
    simp [readOtherwise, tagged, found]
  | branch chosen =>
    obtain rfl : Format.variant "IfStatement" chosen.fields = format := Option.some.inj mem
    refine Format.variant_reads true ["BlockStatement", "IfStatement"] _ chosen.fields_names (by decide) (by decide)
      fun json inside tagged admitted shallow => ?_
    have found := below.branch bound chosen low inside admitted shallow
    simp [readOtherwise, tagged, found]

theorem case_succ (c : Case) (low : 2 * bound ≤ depth + 2) : c.format.Reads bound (readCase (depth + 1)) c := by
  obtain ⟨range, values, body⟩ := c
  simp only [Case.format]
  exact Format.record_reads ["range", "expressions", "block"] rfl (by decide) fun
    | json, _, same, .cons first (.cons second (.cons third .nil)) => by
      simp [readCase, same, range.field_reads _ _ first,
        (Format.list_reads fun e _ => Expr.reads _ true e).required _ _ second,
        (below.block _ true body (by omega)).required _ _ third]

theorem statement_succ (inner : Bool) (s : Stmt) (low : 2 * bound ≤ depth + 1) :
    s.format.Reads bound (read (depth + 1) inner) s := by
  cases s with
  | block body =>
    refine Format.variant_reads inner variants _ body.fields_names (by decide) (by decide)
      fun json inside tagged admitted shallow => ?_
    have found := below.block bound true body low inside admitted shallow
    simp only [read, tagged, Option.bind_eq_bind, Option.bind_some]
    simp [found]
  | branch chosen =>
    refine Format.variant_reads inner variants _ chosen.fields_names (by decide) (by decide)
      fun json inside tagged admitted shallow => ?_
    have found := below.branch bound chosen low inside admitted shallow
    simp only [read, tagged, Option.bind_eq_bind, Option.bind_some]
    simp [found]
  | whileLoop range condition body | doWhile range condition body =>
    exact Format.variant_fields_reads inner variants ["range", "expression", "block"] rfl (by decide) (by decide) fun
      | _, _, _, tagged, found, .cons first (.cons second (.cons third .nil)) => by
        simp only [read, tagged, Option.bind_eq_bind, Option.bind_some]
        simp [readLoop, found, range.field_reads _ _ first, (condition.reads _ true).required _ _ second,
          (below.block _ true body (by omega)).required _ _ third]
  | forLoop range init condition update body =>
    simp only [format, formatOption_eq]
    have absent : read depth true .null = none := by cases depth <;> rfl
    exact Format.variant_fields_reads inner variants ["range", "init", "expression", "update", "block"] rfl (by decide)
      (by decide) fun
      | _, _, _, tagged, found, .cons first (.cons second (.cons third (.cons fourth (.cons fifth .nil)))) => by
        simp only [read, tagged, Option.bind_eq_bind, Option.bind_some]
        simp [found, range.field_reads _ _ first,
          Format.reads_optional _ rfl (fun declaration _ => declaration.reads _ true) _ second,
          Format.reads_optional _ rfl (fun e _ => e.reads _ true) _ third,
          Format.reads_optional _ absent (fun s _ => below.statement _ true s (by omega)) _ fourth,
          (below.block _ true body (by omega)).required _ _ fifth]
  | switch range selector cases fallback =>
    simp only [format, Case.formatAll_eq, Block.formatOption_eq]
    have absent : readBlock depth true .null = none := by cases depth <;> rfl
    exact Format.variant_fields_reads inner variants ["range", "expression", "cases", "default"] rfl (by decide)
      (by decide) fun
      | _, _, _, tagged, found, .cons first (.cons second (.cons third (.cons fourth .nil))) => by
        simp only [read, tagged, Option.bind_eq_bind, Option.bind_some]
        simp [found, range.field_reads _ _ first, (selector.reads _ true).required _ _ second,
          Format.reads_list _ (fun c _ => below.case _ c (by omega)) _ third,
          Format.reads_optional _ absent (fun b _ => below.block _ true b (by omega)) _ fourth]
  | assignment range operator target value =>
    exact Format.variant_fields_reads inner variants ["range", "operator", "variable", "expression"] rfl (by decide)
      (by decide) fun
      | _, _, _, tagged, found, .cons first (.cons second (.cons third (.cons fourth .nil))) => by
        simp only [read, tagged, Option.bind_eq_bind, Option.bind_some]
        simp [found, range.field_reads _ _ first, Format.reads_text _ _ operator _ second,
          (target.reads _ true).required _ _ third, (value.reads _ true).required _ _ fourth]
  | step range operator target =>
    exact Format.variant_fields_reads inner variants ["range", "operator", "expression"] rfl (by decide) (by decide) fun
      | _, _, _, tagged, found, .cons first (.cons second (.cons third .nil)) => by
        simp only [read, tagged, Option.bind_eq_bind, Option.bind_some]
        simp [found, range.field_reads _ _ first, Format.reads_text _ _ operator _ second,
          (target.reads _ true).required _ _ third]
  | «variable» declaration =>
    refine Format.variant_reads inner variants ["range", "declarationType", "name", "typeDeclaration", "expression"] rfl
      (by decide) (by decide) fun json inside tagged admitted shallow => ?_
    have found := declaration.reads bound true inside admitted shallow
    simp only [read, tagged, Option.bind_eq_bind, Option.bind_some]
    simp [found]
  | returning range value =>
    exact Format.variant_fields_reads inner variants ["range", "expression"] rfl (by decide) (by decide) fun
      | _, _, _, tagged, found, .cons first (.cons second .nil) => by
        simp only [read, tagged, Option.bind_eq_bind, Option.bind_some]
        simp [found, range.field_reads _ _ first,
          Format.reads_optional _ rfl (fun e _ => e.reads _ true) _ second]
  | breaking range | continuing range | discarding range =>
    exact Format.variant_fields_reads inner variants ["range"] rfl (by decide) (by decide) fun
      | _, _, _, tagged, found, .cons first .nil => by
        simp only [read, tagged, Option.bind_eq_bind, Option.bind_some]
        simp [readWord, found, range.field_reads _ _ first]
  | call range callRange callee generics arguments =>
    exact Format.variant_fields_reads inner variants ["range", "call"] rfl (by decide) (by decide) fun
      | _, _, _, tagged, found, .cons first (.cons second .nil) => by
        have called := Expr.readCall_reads (bound - 1) callRange callee generics arguments fun e _ => e.reads _ true
        simp only [read, tagged, Option.bind_eq_bind, Option.bind_some]
        simp [found, range.field_reads _ _ first, called.required _ _ second]

omit below

theorem all (depth : Nat) : ReadsAt depth := by
  induction depth with
  | zero => exact zero
  | succ depth below =>
    exact {
      statement := fun _ inner s low => below.statement_succ inner s low
      block := fun _ inner b low => below.block_succ inner b low
      branch := fun _ b low => below.branch_succ b low
      otherwise := fun _ o low => below.otherwise_succ o low
      case := fun _ c low => below.case_succ c low }

end ReadsAt

end Stmt

theorem Block.reads (bound : Nat) (inner : Bool) (b : Block) : b.format.Reads bound (ofJson? inner) b :=
  fun json admitted _ =>
    (Stmt.ReadsAt.all (2 * json.depth)).block json.depth inner b (by omega) json admitted (Nat.le_refl _)

/-- What is declared by a name and a type alone is read as these. -/
theorem typedFields_given {range : Span} {name : String} {type : TypeRef} {json : Json}
    (admitted : (Format.record (typedFields range name type)).Admits json) :
    ∃ first second third, json.record? ["range", "name", "typeDeclaration"] = some [first, second, third] ∧
      required Span.ofJson? first = some range ∧ required text? second = some name ∧
      required TypeRef.ofJson? third = some type := by
  have distinct : ["range", "name", "typeDeclaration"].Nodup := by decide
  obtain ⟨_, same, present⟩ := IsRecord.record? admitted (Nat.le_refl _) rfl distinct
  let .cons first (.cons second (.cons third .nil)) := present
  exact ⟨_, _, _, same, range.field_reads _ _ first, Format.reads_text _ _ name _ second,
    (type.reads _).required _ _ third⟩

theorem GenericDecl.reads (bound : Nat) (declaration : GenericDecl) :
    declaration.format.Reads bound ofJson? declaration :=
  Format.record_reads ["range", "name", "restrictions"] rfl (by decide) fun
    | json, _, same, .cons first (.cons second (.cons third .nil)) => by
      simp [ofJson?, same, declaration.range.field_reads _ _ first, Format.reads_text _ _ _ _ second,
        Format.reads_optional _ rfl (fun tags _ => Format.list_reads fun tag _ => Format.text_reads _ tag) _ third]

theorem ParameterDecl.reads (bound : Nat) (declaration : ParameterDecl) :
    declaration.format.Reads bound ofJson? declaration := by
  intro json admitted _
  obtain ⟨_, _, _, same, first, second, third⟩ := typedFields_given admitted
  simp [ofJson?, same, first, second, third]

theorem HeaderDecl.reads (bound : Nat) (declaration : HeaderDecl) :
    declaration.format.Reads bound ofJson? declaration :=
  Format.record_reads ["range", "generics", "parameters", "returnType"] rfl (by decide) fun
    | json, _, same, .cons first (.cons second (.cons third (.cons fourth .nil))) => by
      simp [ofJson?, same, declaration.range.field_reads _ _ first,
        Format.reads_list _ (fun generic _ => GenericDecl.reads _ generic) _ second,
        Format.reads_list _ (fun parameter _ => ParameterDecl.reads _ parameter) _ third,
        (declaration.returnType.reads _).required _ _ fourth]

theorem FunctionDecl.reads (bound : Nat) (inner : Bool) (declaration : FunctionDecl) :
    (Format.record declaration.fields).Reads bound (ofJson? inner) declaration :=
  Format.record_reads ["range", "name", "headers", "block"] rfl (by decide) fun
    | json, _, same, .cons first (.cons second (.cons third (.cons fourth .nil))) => by
      simp [ofJson?, same, declaration.range.field_reads _ _ first, Format.reads_text _ _ _ _ second,
        (Format.list_reads fun header _ => HeaderDecl.reads _ header).required _ _ third,
        (declaration.body.reads _ inner).required _ _ fourth]

theorem LiteralRef.reads (bound : Nat) (literal : LiteralRef) : literal.format.Reads bound ofJson? literal :=
  Format.record_reads ["range", "textValue"] rfl (by decide) fun
    | json, _, same, .cons first (.cons second .nil) => by
      simp [ofJson?, same, literal.range.field_reads _ _ first, Format.reads_text _ _ _ _ second]

theorem EnumMemberDecl.reads (bound : Nat) (member : EnumMemberDecl) : member.format.Reads bound ofJson? member :=
  Format.record_reads ["range", "name", "value"] rfl (by decide) fun
    | json, _, same, .cons first (.cons second (.cons third .nil)) => by
      simp [ofJson?, same, member.range.field_reads _ _ first, Format.reads_text _ _ _ _ second,
        Format.reads_optional _ rfl (fun literal _ => LiteralRef.reads _ literal) _ third]

theorem EnumDecl.reads (bound : Nat) (declaration : EnumDecl) :
    (Format.record declaration.fields).Reads bound ofJson? declaration :=
  Format.record_reads ["range", "name", "values"] rfl (by decide) fun
    | json, _, same, .cons first (.cons second (.cons third .nil)) => by
      simp [ofJson?, same, declaration.range.field_reads _ _ first, Format.reads_text _ _ _ _ second,
        Format.reads_list _ (fun member _ => EnumMemberDecl.reads _ member) _ third]

theorem PropertyDecl.reads (bound : Nat) (declaration : PropertyDecl) :
    declaration.format.Reads bound ofJson? declaration := by
  intro json admitted _
  obtain ⟨_, _, _, same, first, second, third⟩ := typedFields_given admitted
  simp [ofJson?, same, first, second, third]

theorem StructDecl.reads (bound : Nat) (declaration : StructDecl) :
    (Format.record declaration.fields).Reads bound ofJson? declaration :=
  Format.record_reads ["range", "name", "properties"] rfl (by decide) fun
    | json, _, same, .cons first (.cons second (.cons third .nil)) => by
      simp [ofJson?, same, declaration.range.field_reads _ _ first, Format.reads_text _ _ _ _ second,
        Format.reads_list _ (fun property _ => PropertyDecl.reads _ property) _ third]

theorem AliasDecl.reads (bound : Nat) (declaration : AliasDecl) :
    (Format.record (typedFields declaration.range declaration.name declaration.type)).Reads bound ofJson?
      declaration := by
  intro json admitted _
  obtain ⟨_, _, _, same, first, second, third⟩ := typedFields_given admitted
  simp [ofJson?, same, first, second, third]

theorem Decl.reads (bound : Nat) (declaration : Decl) : declaration.format.Reads bound ofJson? declaration := by
  cases declaration with
  | function declaration =>
    refine Format.variant_reads false variants ["range", "name", "headers", "block"] rfl (by decide) (by decide)
      fun json inside tagged admitted shallow => ?_
    simp [ofJson?, tagged, declaration.reads bound true inside admitted shallow]
  | enumeration declaration =>
    refine Format.variant_reads false variants ["range", "name", "values"] rfl (by decide) (by decide)
      fun json inside tagged admitted shallow => ?_
    simp [ofJson?, tagged, declaration.reads bound inside admitted shallow]
  | struct declaration =>
    refine Format.variant_reads false variants ["range", "name", "properties"] rfl (by decide) (by decide)
      fun json inside tagged admitted shallow => ?_
    simp [ofJson?, tagged, declaration.reads bound inside admitted shallow]
  | «alias» declaration =>
    refine Format.variant_reads false variants ["range", "name", "typeDeclaration"] rfl (by decide) (by decide)
      fun json inside tagged admitted shallow => ?_
    simp [ofJson?, tagged, declaration.reads bound inside admitted shallow]
  | «variable» declaration =>
    refine Format.variant_reads false variants ["range", "declarationType", "name", "typeDeclaration", "expression"] rfl
      (by decide) (by decide) fun json inside tagged admitted shallow => ?_
    simp [ofJson?, tagged, declaration.reads bound true inside admitted shallow]

namespace Document

theorem reads (bound : Nat) (document : Document) : document.format.Reads bound ofJson? document :=
  Format.record_reads fieldNames rfl (by decide) fun
    | json, _, same, .cons first (.cons second .nil) => by
      simp [ofJson?, same, document.range.field_reads _ _ first,
        Format.reads_list _ (fun declaration _ => Decl.reads _ declaration) _ second]

/-- Reading a document from its canonical JSON gives it back, and any other form of it gives the same. -/
theorem ofJson?_of_admits (document : Document) :
    ofJson? document.format.canonical = some document ∧
      ∀ json, document.format.Admits json → ofJson? json = some document := by
  have every (json : Json) (admitted : document.format.Admits json) : ofJson? json = some document :=
    document.reads json.depth json admitted (Nat.le_refl _)
  exact ⟨every _ document.format.sound, every⟩

namespace Sample

def place : Json := Span.origin.format.canonical

def minusOne : Expr := .unary .origin "-" (.literal .origin "1")

/-- Fields in reverse order, around a literal that is an array. -/
def minusOneForm : Json :=
  .object (List.reverse [("type", .string "UnaryExpression"), ("range", place), ("operator", .string "-"),
    ("expression", .array [.string "LiteralValueExpression", place, .string "1"])])

theorem minusOneForm_admitted : minusOne.format.Admits minusOneForm := by
  have literal : (Expr.literal .origin "1").format.Admits
      (.array [.string "LiteralValueExpression", place, .string "1"]) :=
    @IsVariant.array _ _ _ 0 (.cons rfl (.cons rfl .nil))
  exact @IsVariant.object _ _ [some place, some (.string "-"), some _] [] _
    (.cons rfl (.cons rfl (.cons literal .nil))) nofun (List.reverse_perm _)

def f32 : TypeRef := .mk .origin "f32" []

/-- An array that ends before the generics, of which there are none. -/
def f32Form : Json := .array [place, .string "f32"]

theorem f32Form_admitted : f32.format.Admits f32Form :=
  @IsRecord.array _ _ 1 (.cons rfl (.cons rfl (.cons rfl .nil)))

/-- A constant that is an array, an alias that is an object, and a field that no document has. -/
theorem mixedForms_read :
    let document : Document :=
      ⟨.origin, [.variable ⟨.origin, "const", "a", none, some minusOne⟩, .alias ⟨.origin, "b", f32⟩]⟩
    let form : Json := .object (List.reverse [("range", place),
      ("declarations", .array [
        .array [.string "VariableDeclaration", place, .string "const", .string "a", .null, minusOneForm],
        .object [("type", .string "AliasDeclaration"), ("range", place), ("name", .string "b"),
          ("typeDeclaration", f32Form)]]),
      ("version", .bool true)])
    document.format.Admits form ∧ ofJson? form = some document := by
  intro document form
  have constant : (Decl.variable ⟨.origin, "const", "a", none, some minusOne⟩).format.Admits
      (.array [.string "VariableDeclaration", place, .string "const", .string "a", .null, minusOneForm]) :=
    @IsVariant.array _ _ _ 0 (.cons rfl (.cons rfl (.cons rfl (.cons rfl (.cons minusOneForm_admitted .nil)))))
  have renamed : (Decl.alias ⟨.origin, "b", f32⟩).format.Admits
      (.object [("type", .string "AliasDeclaration"), ("range", place), ("name", .string "b"),
        ("typeDeclaration", f32Form)]) :=
    @IsVariant.object _ _ [some place, some (.string "b"), some _] [] _
      (.cons rfl (.cons rfl (.cons f32Form_admitted .nil))) nofun (.refl _)
  have undeclared : ∀ entry ∈ [("version", Json.bool true)], entry.1 ∉ fieldNames := by decide
  have admitted : document.format.Admits form :=
    @IsRecord.object _ [some place, some _] [("version", .bool true)] _
      (.cons rfl (.cons ⟨_, rfl, .cons constant (.cons renamed .nil)⟩ .nil)) undeclared (List.reverse_perm _)
  exact ⟨admitted, (ofJson?_of_admits document).2 form admitted⟩

end Sample

end Document

end ShaderCheck
