import FenceCheck.Diagnostic
import FenceCheck.Output.Style
import FenceCheck.Text.Lines

namespace FenceCheck

/-!
# Listings for people and editors

The full listing has each diagnostic with all lines of its message and its related
places. The concise one has one line for each.
-/

def Severity.label : Severity → String
  | .error => "error"
  | .warning => "warning"
  | .information => "info"

def Severity.style : Severity → Style
  | .error => .failure
  | .warning => .caution
  | .information => .notice

namespace Diagnostic

def messageLines (d : Diagnostic) : List String :=
  (Text.shown d.message.toList).map String.ofList

def headline (d : Diagnostic) : String :=
  d.messageLines.headD ""

end Diagnostic

namespace Listing

def location (coloured : Bool) (file : String) (line column : Nat) : String :=
  Style.apply coloured .path file ++ ":" ++ Style.apply coloured .number s!"{line}" ++ ":" ++
    Style.apply coloured .number s!"{column}"

def relatedLine (coloured : Bool) (file : String) (r : Related) : String :=
  "  " ++ Style.apply coloured .good "note:" ++ " " ++
    location coloured file (r.position.line + 1) (r.position.column + 1) ++ ": " ++ r.message

def entry (coloured : Bool) (file : String) (d : Diagnostic) : List String :=
  (location coloured file d.line d.column ++ ": " ++
      Style.apply coloured d.severity.style (d.severity.label ++ ":") ++ " " ++ d.headline) ::
    d.messageLines.tail.map ("    " ++ ·) ++
    d.related.map (relatedLine coloured file)

/-- The full listing, without a line feed at its end. -/
def full (coloured : Bool) (file : String) (ds : List Diagnostic) : String :=
  String.intercalate "\n" (ds.flatMap (entry coloured file))

def conciseLine (file : String) (d : Diagnostic) : String :=
  s!"{file}:{d.line}:{d.column}: {d.severity.label}: {d.headline}"

def concise (file : String) (ds : List Diagnostic) : String :=
  String.intercalate "\n" (ds.map (conciseLine file))

def plural (n : Nat) (noun : String) : String :=
  if n = 1 then noun else noun ++ "s"

/-- The closing line: how much was found, in how many files, in what time. -/
def summary (coloured : Bool) (files diagnostics milliseconds : Nat) : String :=
  let scope := s!"in {files} " ++ plural files "file"
  let text :=
    if diagnostics = 0 then
      Style.apply coloured .good ("Success: no snippet diagnostics " ++ scope)
    else
      Style.apply coloured .failure
        (s!"Found {diagnostics} snippet " ++ plural diagnostics "diagnostic" ++ " " ++ scope)
  "\n" ++ text ++ s!" ({milliseconds}ms)"

end Listing

end FenceCheck
