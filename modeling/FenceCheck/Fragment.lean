import FenceCheck.Anchor
import FenceCheck.Fragment.Region
import FenceCheck.Log
import FenceCheck.Text.Quoted
import FenceCheck.Text.Utf8

namespace FenceCheck

/-!
# Fragments

Every fenced region of a document is a fragment. Fragments are numbered from one,
foreign and escaped ones included, so a number does not depend on how the others
are tagged. In the text of a fragment that is compiled, the marker that anchors it
takes the place of the three backticks before the tag, and no fence is left; the
further backticks of a longer fence stay in front of the marker.
-/

inductive Disposition
  | compile
  | escaped
  | otherLanguage
  deriving DecidableEq, Repr

def Disposition.name : Disposition → String
  | .compile => "Compile"
  | .escaped => "Escaped"
  | .otherLanguage => "OtherLanguage"

/-- What becomes of a region when `language` is compiled. -/
def Disposition.ofRegion (language : List Char) (r : Region) : Disposition :=
  if r.escaped then .escaped
  else if r.tag? = some language then .compile
  else .otherLanguage

structure Fragment where
  id : Nat
  language : Option String
  /-- The line of the opening fence, from one. -/
  startLine : Nat
  /-- The byte offset of the region. -/
  offset : Nat
  text : String
  disposition : Disposition
  deriving DecidableEq, Repr

namespace Fragment

def isCompilable (f : Fragment) : Bool :=
  f.disposition == .compile

structure Target where
  language : String
  mode : Anchor.Mode
  deriving DecidableEq, Repr

/-- The text to stage for a region: the three backticks before the tag become the marker
together with it, and no fence is left. -/
def staged (language marker raw : List Char) : List Char :=
  Text.replaceAll fence [] (Text.replaceFirst (fence ++ language) marker raw)

/-- A place in a document: the number of the next fragment, the byte offset and the
line. -/
structure Cursor where
  id : Nat
  offset : Nat
  line : Nat
  deriving DecidableEq, Repr

def Cursor.start : Cursor := ⟨1, 0, 1⟩

def Cursor.skip (c : Cursor) (s : List Char) : Cursor :=
  ⟨c.id, c.offset + Text.byteLength s, c.line + s.count '\n'⟩

/-- The fragment of a region that starts at the cursor. -/
def ofRegion (t : Target) (identity : String) (c : Cursor) (r : Region) : Fragment :=
  let d := Disposition.ofRegion t.language.toList r
  { id := c.id
    language := r.tag?.map String.ofList
    startLine := c.line
    offset := c.offset
    text := match d with
      | .compile =>
          String.ofList (staged t.language.toList (t.mode.marker c.line identity).toList r.raw)
      | _ => String.ofList r.raw
    disposition := d }

def ofRegions (t : Target) (identity : String) : Cursor → List Region → List Fragment
  | _, [] => []
  | c, r :: more =>
      let here := c.skip r.gap
      let next := here.skip r.raw
      ofRegion t identity here r :: ofRegions t identity ⟨next.id + 1, next.offset, next.line⟩ more

def extract (t : Target) (text identity : String) : List Fragment :=
  ofRegions t identity .start (Region.cut text.toList).1

def record (f : Fragment) : Log.Record :=
  Log.debug .fragments
    s!"Fragment {f.id} at line {f.startLine}: {f.disposition.name} ({Text.quoteOption f.language})"

end Fragment

end FenceCheck
