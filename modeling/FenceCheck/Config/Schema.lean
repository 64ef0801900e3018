import FenceCheck.Config.Field
import FenceCheck.Output.Json

namespace FenceCheck

/-!
# The schema of configuration files

A JSON schema that describes every field with its default, for editors.
-/

namespace Config.Schema

def described (description : String) (members : List (String × Json)) : Json :=
  .object (("description", .string description) :: members)

def text (description : String) (default : String) : Json :=
  described description [("type", .string "string"), ("default", .string default)]

def textsOf (items : List String) : Json :=
  .array (items.map .string)

def texts (description : String) (default : List String) : Json :=
  described description
    [("type", .string "array"), ("items", .object [("type", .string "string")]),
      ("default", textsOf default)]

def reference (name : String) : String × Json :=
  ("$ref", .string ("#/$defs/" ++ name))

def choice (description : String) (names : List (String × String)) : Json :=
  described description
    [("oneOf", .array (names.map fun e =>
      described e.2 [("type", .string "string"), ("const", .string e.1)]))]

def anchorMode : Json :=
  choice "How fragment line numbers are mapped back onto the document."
    [(Anchor.Mode.name .lineDirective,
        "Replace the opening fence with `#line <n> \"<document>\"`"),
      (Anchor.Mode.name .firstLineOffset,
        "Blank the opening fence and add the fragment\x27s start line to reported lines")]

def fatalPolicy : Json :=
  choice "Handling of `fatal error` lines that carry no `(line,col)`."
    [(FatalPolicy.name .skip,
        "Drop the diagnostic; there is no position to report it at"),
      (FatalPolicy.name .documentStart, "Report it at the start of the document")]

def compiler (d : CompilerConfig) : Json :=
  described "Definition of the external compiler."
    [("type", .string "object"),
      ("properties", .object
        [("command", text "Compiler binary" d.command),
          ("args", texts ("Arguments placed before the staged file; " ++
            "`$\x7bworkspaceRoot\x7d` is substituted") d.args),
          ("include-paths", texts "Extra include directories, each passed with `include-flag`"
            d.includePaths),
          ("include-flag", text "Flag prefix for include directories (default: \"/I\")"
            d.includeFlag),
          ("timeout", described
            "Timeout per compilation in milliseconds, 0 waits forever (default: 30000)"
            [("type", .string "integer"), ("format", .string "uint64"), ("minimum", .number 0),
              ("default", .number d.timeout)])])]

def compilerDefault (d : CompilerConfig) : Json :=
  .object
    [("command", .string d.command), ("args", textsOf d.args),
      ("include-paths", textsOf d.includePaths), ("include-flag", .string d.includeFlag),
      ("timeout", .number d.timeout)]

/-- The properties of the file, in the order of its fields. -/
def properties (d : Config) : Json :=
  .object
    [("language", text "Language tag of fences that get compiled (default: \"cpp\")" d.language),
      ("extension", text "Extension of staged fragment files (default: \"cpp\")" d.extension),
      ("source-tag", text "Source tag attached to every diagnostic" d.sourceTag),
      ("staging-dir", described ("Directory for staged fragments " ++
        "(default: workspace root, else the document\x27s directory)")
        [("type", textsOf ["string", "null"])]),
      ("rebase", described "How compiler line numbers are mapped back onto the document"
        [reference "RebaseStrategy", ("default", .string d.anchorMode.name)]),
      ("fatal-without-location", described "What to do with a fatal error that names no line"
        [reference "FatalWithoutLocation", ("default", .string d.fatalPolicy.name)]),
      (compilerKey, described "External compiler invocation"
        [reference "CompilerConfig", ("default", compilerDefault d.compiler)])]

end Schema

/-- The schema, with the defaults that hold without a file. -/
def schema : Json :=
  .object
    [("$schema", .string "https://json-schema.org/draft/2020-12/schema"),
      ("title", .string "SnippetCheckConfig"),
      ("description", .string "Master configuration for snippet checking."),
      ("type", .string "object"),
      ("properties", Schema.properties .default),
      ("$defs", .object
        [("RebaseStrategy", Schema.anchorMode),
          ("FatalWithoutLocation", Schema.fatalPolicy),
          ("CompilerConfig", Schema.compiler .default)])]

end Config

end FenceCheck
