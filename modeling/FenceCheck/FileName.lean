import FenceCheck.Text.Blank

namespace FenceCheck

/-!
# File names in compiler output

Compilers echo a name as they were given it or in a form of their own. Two names
are the same when they differ only in blanks around them, in the kind of slash and
in the case of ASCII letters.
-/

namespace FileName

def slash (c : Char) : Char :=
  if c = '\\' then '/' else c

def forward (name : String) : String :=
  String.ofList (name.toList.map slash)

/-- The letters that make two names the same. -/
def key (name : String) : List Char :=
  (Text.trim name.toList).map fun c => (slash c).toLower

def same (a b : String) : Bool :=
  key a == key b

end FileName

end FenceCheck
