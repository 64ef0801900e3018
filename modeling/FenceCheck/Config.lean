import FenceCheck.Fragment
import FenceCheck.Report

namespace FenceCheck

/-!
# Settings of a check

The defaults run the MSVC compiler: warnings are errors, conformance is strict, and
the workspace is on the include path.
-/

structure CompilerConfig where
  command : String
  args : List String
  includePaths : List String
  includeFlag : String
  /-- The time for one run in milliseconds; zero sets no limit. -/
  timeout : Nat
  deriving DecidableEq, Repr

structure Config where
  /-- The tag of the fences that are compiled. -/
  language : String
  extension : String
  sourceTag : String
  stagingDir : Option String
  anchorMode : Anchor.Mode
  fatalPolicy : FatalPolicy
  compiler : CompilerConfig
  deriving DecidableEq, Repr

namespace CompilerConfig

def defaultArgs : List String :=
  ["/W4", "/WX", "/EHsc", "/Ox", "/std:c++latest", "/permissive-", "/I$\x7bworkspaceRoot\x7d",
    "/c", "/nologo", "/FC", "/diagnostics:caret"]

def default : CompilerConfig where
  command := "cl.exe"
  args := defaultArgs
  includePaths := []
  includeFlag := "/I"
  timeout := 30000

end CompilerConfig

namespace Config

def default : Config where
  language := "cpp"
  extension := "cpp"
  sourceTag := Diagnostic.defaultSource
  stagingDir := none
  anchorMode := .lineDirective
  fatalPolicy := .skip
  compiler := .default

def target (c : Config) : Fragment.Target := ⟨c.language, c.anchorMode⟩

end Config

end FenceCheck
