import FenceCheck.Diagnostic

namespace FenceCheck

/-!
# Workflow annotations

A workflow command is one line: a level, properties, and a message after two colons.
Percent signs and line breaks are written as percent codes, in properties colons and
commas too, so no text can be taken for the structure around it.
-/

namespace Annotation

def level : Severity → String
  | .error => "error"
  | .warning => "warning"
  | .information => "notice"

def dataCode (c : Char) : List Char :=
  if c = '%' then "%25".toList
  else if c = '\r' then "%0D".toList
  else if c = '\n' then "%0A".toList
  else [c]

def propertyCode (c : Char) : List Char :=
  if c = ':' then "%3A".toList
  else if c = ',' then "%2C".toList
  else dataCode c

def data (s : String) : String :=
  String.ofList (s.toList.flatMap dataCode)

def property (s : String) : String :=
  String.ofList (s.toList.flatMap propertyCode)

def command (file : String) (d : Diagnostic) : String :=
  s!"::{level d.severity} file={property file},line={d.line},col={d.column}," ++
    s!"title={property d.source}::{data d.message}"

def commands (file : String) (ds : List Diagnostic) : String :=
  String.intercalate "\n" (ds.map (command file))

end Annotation

end FenceCheck
