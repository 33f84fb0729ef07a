import TraceViewer.LoadState

/-!
# Source files

A source file lives on a host; a line of it is named by its number.  Files are
ordered by host and then by path.
-/

namespace TraceViewer

/-- A source file on a given host. -/
structure SourceFile where
  hostName : String
  filePath : String
deriving Repr, DecidableEq, Inhabited

namespace SourceFile

/-- Files compare by host, then by path. -/
instance : Ord SourceFile where
  compare := compareLex (compareOn SourceFile.hostName) (compareOn SourceFile.filePath)

theorem compare_def :
    (compare : SourceFile → SourceFile → Ordering) =
      compareLex (compareOn SourceFile.hostName) (compareOn SourceFile.filePath) := rfl

instance : Std.TransOrd SourceFile :=
  inferInstanceAs (Std.TransCmp
    (compareLex (compareOn SourceFile.hostName) (compareOn SourceFile.filePath)))

instance : Std.LawfulEqOrd SourceFile where
  eq_of_compare {a b} h := by
    cases a
    cases b
    simp only [compare_def, compareLex_eq_eq, compareOn,
      Std.LawfulEqCmp.compare_eq_iff_eq] at h
    simp [h.1, h.2]

end SourceFile

/-- A line of a source file. -/
structure SourceLine where
  hostName : String
  filePath : String
  lineNumber : UInt32
deriving Repr, DecidableEq, Inhabited

namespace SourceLine

/-- The file of a line. -/
def file (line : SourceLine) : SourceFile :=
  { hostName := line.hostName, filePath := line.filePath }

/-- Whether the line lies in a file. -/
def isInFile (line : SourceLine) (file : SourceFile) : Bool :=
  line.hostName = file.hostName ∧ line.filePath = file.filePath

end SourceLine

/-- The lines of a source file, once loaded, and how far loading has come. -/
structure FileContent where
  phase : LoadPhase := .notLoaded
  lines : Option (List String) := none
deriving Repr, DecidableEq, Inhabited

/-- Whether a character separates the components of a path. -/
def isPathSeparator (c : Char) : Bool := c = '/' || c = '\\'

/-- The last component of a path: what follows the last separator. -/
def concisePath (path : String) : String :=
  String.ofList (path.toList.reverse.takeWhile (!isPathSeparator ·)).reverse

end TraceViewer
