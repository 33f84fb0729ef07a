import TraceViewer.Error
import TraceViewer.StackFrame

/-!
# The source shelf

The list of source files of a run, the content of each, and the line in focus.  The
contents are kept in the order of the list; a file that is listed twice has its
content in its first place.
-/

namespace TraceViewer

/-- The source files of a session. -/
structure SourceShelf where
  /-- How far loading the list has come. -/
  listLoad : LoadState := {}
  files : List SourceFile := []
  /-- The content of each file, in the order of `files`. -/
  contents : List FileContent := []
  /-- The line in focus, as a frame of the stack trace. -/
  focusLine : Option StackFrame := none
deriving Repr, DecidableEq, Inhabited

namespace SourceShelf

/-! ## Looking at the shelf -/

/-- The place of a file in the list. -/
def index? (shelf : SourceShelf) (file : SourceFile) : Option Nat :=
  shelf.files.findIdx? (· = file)

/-- The place of a listed file's content. -/
def place? (shelf : SourceShelf) (file : SourceFile) : Option Nat :=
  (shelf.index? file).filter (· < shelf.contents.length)

/-- The content of a listed file. -/
def content? (shelf : SourceShelf) (file : SourceFile) : Option FileContent :=
  (shelf.index? file).bind fun index => shelf.contents[index]?

/-- The place of the focused line's file. -/
def focusedIndex (shelf : SourceShelf) : Option Nat :=
  shelf.focusLine.bind fun line => shelf.files.findIdx? line.isInFile

/-- The content of the focused line's file. -/
def focusedContent (shelf : SourceShelf) : Option FileContent :=
  shelf.focusedIndex.bind fun index => shelf.contents[index]?

/-! ## Changes -/

/-- Put the focus on a line. -/
def setFocusLine (shelf : SourceShelf) (line : StackFrame) : SourceShelf :=
  { shelf with focusLine := some line }

/-- The list is being fetched. -/
def startListLoading (shelf : SourceShelf) : SourceShelf :=
  { shelf with listLoad := shelf.listLoad.start }

/-- The list could not be fetched. -/
def onListFailed (shelf : SourceShelf) : SourceShelf :=
  { shelf with listLoad := shelf.listLoad.fail }

/-- A list arrived at time `now`.  A file that was listed before keeps its content. -/
def onListLoaded (shelf : SourceShelf) (files : List SourceFile) (now : Nat) : SourceShelf :=
  { shelf with
    listLoad := shelf.listLoad.finish now
    files
    contents := files.map fun file => (shelf.content? file).getD {} }

/-- Change the content of a file, which has to be listed and to have a content. -/
def modifyContent (shelf : SourceShelf) (file : SourceFile)
    (change : FileContent → FileContent) : Except ViewError SourceShelf :=
  match shelf.place? file with
  | none => .error (.unknownSourceFile file)
  | some index => .ok { shelf with contents := shelf.contents.modify index change }

/-- Ask for the content of a listed file.  The result says whether it has to be
fetched: it need not when it is held or being loaded. -/
def requestFile (shelf : SourceShelf) (file : SourceFile) :
    Except ViewError (SourceShelf × Bool) :=
  match shelf.content? file with
  | none => .error (.unknownSourceFile file)
  | some content =>
    match content.phase with
    | .loading | .loaded => .ok (shelf, false)
    | .notLoaded | .failed => do
      return (← shelf.modifyContent file fun content => { content with phase := .loading }, true)

/-- The lines of a listed file arrived. -/
def onFileLoaded (shelf : SourceShelf) (file : SourceFile) (lines : List String) :
    Except ViewError SourceShelf :=
  shelf.modifyContent file fun _ => { phase := .loaded, lines := some lines }

/-- The lines of a file could not be fetched.  A file that is not listed has no
content to mark. -/
def onFileFailed (shelf : SourceShelf) (file : SourceFile) : SourceShelf :=
  match shelf.modifyContent file fun content => { content with phase := .failed } with
  | .error _ => shelf
  | .ok marked => marked

end SourceShelf

end TraceViewer
