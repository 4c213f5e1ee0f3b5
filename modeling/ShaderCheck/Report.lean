import ShaderCheck.Context
import ShaderCheck.Json.Writer
import ShaderCheck.Typed.Decl

/-!
Reports of what was found in a document, as text for people and as JSON for tools.
-/

namespace ShaderCheck

structure Report where
  /-- The file that was checked, as the caller names it. -/
  file : String
  incidents : List Incident
  counts : Counts
  /-- The names that the document uses, sorted. -/
  used : List String
  /-- How many milliseconds the checking took. -/
  elapsed : Nat

namespace Report

def ofContext (file : String) (context : Context) (counts : Counts) (elapsed : Nat) : Report :=
  ⟨file, context.incidents, counts, context.usedNames, elapsed⟩

def success (report : Report) : Bool := report.incidents.isEmpty

def locationJson (file : String) : Option NodeRef → Json
  | none => .null
  | some node =>
    .object
      [("file", .string file),
        ("line", .number (.ofNat node.range.start.line.toNat)),
        ("column", .number (.ofNat node.range.start.column.toNat)),
        ("end_line", .number (.ofNat node.range.stop.line.toNat)),
        ("end_column", .number (.ofNat node.range.stop.column.toNat))]

def incidentJson (file : String) (incident : Incident) : Json :=
  .object
    [("message", .string incident.message),
      ("location", locationJson file incident.node)]

def statsJson (report : Report) : Json :=
  .object
    [("function_count", .number (.ofNat report.counts.functions)),
      ("type_count", .number (.ofNat report.counts.types)),
      ("global_count", .number (.ofNat report.counts.globals)),
      ("incident_count", .number (.ofNat report.incidents.length)),
      ("used_symbols", .array (report.used.map .string)),
      ("analysis_time_ms", .number (.ofNat report.elapsed))]

def json (report : Report) : Json :=
  .object
    [("success", .bool report.success),
      ("source_file", .string report.file),
      ("incidents", .array (report.incidents.map (incidentJson report.file))),
      ("stats", report.statsJson)]

def line (file : String) (incident : Incident) : String :=
  match incident.node with
  | some node => file ++ ":" ++ node.range.text ++ ": " ++ incident.message
  | none => file ++ ": " ++ incident.message

/-- The report for people: one line for each incident, and at most as many as asked for. -/
def text (report : Report) (limit : Option Nat) : String :=
  let shown := report.incidents.take (limit.getD report.incidents.length)
  let hidden := report.incidents.length - shown.length
  let rest := if hidden = 0 then [] else ["... and " ++ toString hidden ++ " more incidents"]
  String.intercalate "\n" (shown.map (line report.file) ++ rest)

end Report

end ShaderCheck
