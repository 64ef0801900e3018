import FenceCheck.Output.Annotation
import FenceCheck.Output.Json
import FenceCheck.Output.Listing

namespace FenceCheck

/-!
# Output formats

Diagnostics are shown as a listing, full or concise, as JSON or as annotations. JSON
covers all documents in one array; the others are written document by document.
-/

inductive Format
  | full
  | concise
  | json
  | annotations
  deriving DecidableEq, Repr

namespace Format

/-- The format of a name, in any case of its letters. Of the characters whose lower case
is a letter of a name, all are ASCII letters. -/
def ofName? (name : String) : Option Format :=
  let lower := name.toList.map Char.toLower
  if lower = "text".toList ∨ lower = "full".toList then some .full
  else if lower = "concise".toList then some .concise
  else if lower = "json".toList then some .json
  else if lower = "github".toList then some .annotations
  else none

def unknownMessage (name : String) : String :=
  "Unknown output format: " ++ name

end Format

def Severity.word : Severity → String
  | .error => "error"
  | .warning => "warning"
  | .information => "information"

namespace Related

def json (r : Related) : Json :=
  .object
    [("line", .number (r.position.line + 1)), ("column", .number (r.position.column + 1)),
      ("message", .string r.message)]

end Related

namespace Diagnostic

def json (file : String) (d : Diagnostic) : Json :=
  .object
    [("file", .string file), ("line", .number d.line), ("column", .number d.column),
      ("offset", .number d.span.start.offset), ("severity", .string d.severity.word),
      ("message", .string d.message), ("source", .string d.source),
      ("related", .array (d.related.map Related.json))]

end Diagnostic

namespace Output

/-- The diagnostics of one document as an array. -/
def json (file : String) (ds : List Diagnostic) : String :=
  (Json.array (ds.map (Diagnostic.json file))).print

/-- The diagnostics of all documents as one array. -/
def jsonAll (documents : List (String × List Diagnostic)) : String :=
  (Json.array (documents.flatMap fun e => e.2.map (Diagnostic.json e.1))).print

def document (format : Format) (coloured : Bool) (file : String) (ds : List Diagnostic) :
    String :=
  match format with
  | .full => Listing.full coloured file ds
  | .concise => Listing.concise file ds
  | .json => json file ds
  | .annotations => Annotation.commands file ds

def summary? (format : Format) (coloured : Bool) (files diagnostics milliseconds : Nat) :
    Option String :=
  match format with
  | .full => some (Listing.summary coloured files diagnostics milliseconds)
  | _ => none

end Output

end FenceCheck
