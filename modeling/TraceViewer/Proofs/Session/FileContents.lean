import TraceViewer.Proofs.Session.LateFailures

/-!
# The contents of the files

A shelf keeps its files and their contents in two lists, side by side.  A new list of files makes
both anew, with each content looked up under its file in the old pair, and everything else changes
a content in its place.  To those who look at the shelf all that is one table: what is known of
each file (`Catalogue`), and of no file that is not listed.

That the two lists are of one length is what keeps the table and the list of files together
(`mem_files_iff_of_aligned`): a file is known when it is listed.  That a file is looked up in its
first place only is what makes it one table, even if files are listed twice.  Every operation then
does to the shelf what it does to the table, and gives the same answer (`mirrors_perform`), and so
do operations in any order (`shows_performAll`).
-/

namespace TraceViewer

/-- What is known of the contents of the files.  Nothing is known of a file that is not listed. -/
abbrev Catalogue := SourceFile → Option FileContent

/-- An operation on the files of a run. -/
inductive SourceShelf.Act where
  /-- A list of files arrives at a time. -/
  | list (files : List SourceFile) (now : Nat)
  /-- The content of a file is wanted. -/
  | request (file : SourceFile)
  /-- The lines of a file arrive. -/
  | load (file : SourceFile) (lines : List String)
  /-- The lines of a file could not be fetched. -/
  | fail (file : SourceFile)

/-- The file that an operation is about. -/
def SourceShelf.Act.file? : SourceShelf.Act → Option SourceFile
  | .list _ _ => none
  | .request file => some file
  | .load file _ => some file
  | .fail file => some file

/-! ## The table -/

namespace Catalogue

/-- No file is listed. -/
def empty : Catalogue := fun _ => none

/-- List other files.  What is known of a file that was listed before stays. -/
def relist (known : Catalogue) (files : List SourceFile) : Catalogue := fun file =>
  if file ∈ files then some ((known file).getD {}) else none

/-- Change what is known of a file, if it is listed. -/
def revise (known : Catalogue) (file : SourceFile) (change : FileContent → FileContent) :
    Catalogue := fun other =>
  if file = other then (known other).map change else known other

/-- What an operation makes of the table, and whether something has to be fetched for it. -/
def perform (known : Catalogue) : SourceShelf.Act → Catalogue × Except ViewError Bool
  | .list files _ => (known.relist files, .ok false)
  | .request file =>
    match known file with
    | none => (known, .error (.unknownSourceFile file))
    | some content =>
      if content.phase = .notLoaded ∨ content.phase = .failed then
        (known.revise file fun content => { content with phase := .loading }, .ok true)
      else (known, .ok false)
  | .load file lines =>
    match known file with
    | none => (known, .error (.unknownSourceFile file))
    | some _ => (known.revise file fun _ => { phase := .loaded, lines := some lines }, .ok false)
  | .fail file => (known.revise file fun content => { content with phase := .failed }, .ok false)

/-- What operations make of the table, one after the other. -/
def performAll (known : Catalogue) (acts : List SourceShelf.Act) : Catalogue :=
  acts.foldl (fun known act => (known.perform act).1) known

/-- Nothing but a new list changes what is known of another file. -/
theorem perform_other (known : Catalogue) {act : SourceShelf.Act} {file other : SourceFile}
    (hfile : act.file? = some file) (hother : file ≠ other) :
    (known.perform act).1 other = known other := by
  -- the table is revised at the file of the act only
  have hrevise : ∀ change, known.revise file change other = known other := fun change =>
    if_neg hother
  cases act with
  | list files now => cases hfile
  | request asked =>
      cases hfile
      rw [perform]
      split
      · rfl
      · split_ifs
        · exact hrevise _
        · rfl
  | load loaded lines =>
      cases hfile
      rw [perform]
      split
      · rfl
      · exact hrevise _
  | fail failed =>
      cases hfile
      exact hrevise _

end Catalogue

/-! ## The shelf -/

namespace SourceShelf

variable {shelf : SourceShelf} {file : SourceFile} {known : Catalogue}

/-- Carry out an operation.  The answer says whether something has to be fetched for it. -/
def perform (shelf : SourceShelf) : Act → SourceShelf × Except ViewError Bool
  | .list files now => (shelf.onListLoaded files now, .ok false)
  | .request file =>
    match shelf.requestFile file with
    | .error error => (shelf, .error error)
    | .ok (asked, wanted) => (asked, .ok wanted)
  | .load file lines =>
    match shelf.onFileLoaded file lines with
    | .error error => (shelf, .error error)
    | .ok loaded => (loaded, .ok false)
  | .fail file => (shelf.onFileFailed file, .ok false)

/-- Carry out operations, one after the other, refused or not. -/
def performAll (shelf : SourceShelf) (acts : List Act) : SourceShelf :=
  acts.foldl (fun shelf act => (shelf.perform act).1) shelf

/-- With one content for each file, a file is listed when its content is known. -/
theorem mem_files_iff_of_aligned (haligned : shelf.Aligned) :
    file ∈ shelf.files ↔ (shelf.content? file).isSome = true := by
  rw [Option.isSome_iff_exists]
  refine ⟨haligned.exists_content?, fun ⟨content, hcontent⟩ => ?_⟩
  obtain ⟨place, hplace, _⟩ := Option.bind_eq_some_iff.mp hcontent
  exact isSome_index?.mp (Option.isSome_iff_exists.mpr ⟨place, hplace⟩)

/-- Whether a shelf shows a table: there is one content for each file, and it is what the table
says. -/
structure Shows (shelf : SourceShelf) (known : Catalogue) : Prop where
  aligned : shelf.Aligned
  content_eq : ∀ file, shelf.content? file = known file

theorem shows_empty : ({} : SourceShelf).Shows Catalogue.empty := ⟨rfl, fun _ => rfl⟩

/-- Changing a content in its place changes what is known of its file. -/
theorem Shows.revise (hshows : shelf.Shows known) {change : FileContent → FileContent}
    {revised : SourceShelf} (hmodify : shelf.modifyContent file change = .ok revised) :
    revised.Shows (known.revise file change) where
  aligned := hshows.aligned.modifyContent hmodify
  content_eq := by
    intro other
    rw [content?_modifyContent hmodify, hshows.content_eq]
    rfl

/-- A content that is known can be changed. -/
theorem Shows.modifyContent (hshows : shelf.Shows known) {content : FileContent}
    (hknown : known file = some content) (change : FileContent → FileContent) :
    ∃ revised, shelf.modifyContent file change = .ok revised := by
  rw [← hshows.content_eq] at hknown
  cases hmodify : shelf.modifyContent file change with
  | ok revised => exact ⟨revised, rfl⟩
  | error error =>
      rw [(modifyContent_eq_error_iff.mp hmodify).1] at hknown
      cases hknown

/-! ## Operations -/

/-- What an operation does to a shelf, it does to the table that the shelf shows, and the answer
is the same. -/
structure Mirrors (shelf : SourceShelf) (known : Catalogue) (act : Act) : Prop where
  shows : (shelf.perform act).1.Shows (known.perform act).1
  answer_eq : (shelf.perform act).2 = (known.perform act).2

theorem mirrors_list (hshows : shelf.Shows known) (files : List SourceFile) (now : Nat) :
    shelf.Mirrors known (.list files now) where
  shows :=
    { aligned := List.length_map _
      content_eq := by
        intro file
        rw [perform, content?_onListLoaded, hshows.content_eq]
        rfl }
  answer_eq := rfl

theorem mirrors_request (hshows : shelf.Shows known) (file : SourceFile) :
    shelf.Mirrors known (.request file) := by
  have hcontent := hshows.content_eq file
  cases hknown : known file with
  | none =>
      have hrefused : shelf.requestFile file = .error (.unknownSourceFile file) :=
        requestFile_error_iff.mpr ⟨hcontent.trans hknown, rfl⟩
      constructor
      · rw [perform, hrefused, Catalogue.perform, hknown]
        exact hshows
      · rw [perform, hrefused, Catalogue.perform, hknown]
  | some content =>
      -- the shelf and the table ask for the file in the same phases
      by_cases hlacks : content.phase = .notLoaded ∨ content.phase = .failed
      · obtain ⟨asked, hmodify⟩ :=
          hshows.modifyContent hknown fun content => { content with phase := .loading }
        have hrequest : shelf.requestFile file = .ok (asked, true) := by
          rw [requestFile, hcontent, hknown]
          dsimp only
          rcases hlacks with hphase | hphase <;> rw [hphase, hmodify] <;> rfl
        have htable : known.perform (.request file) =
            (known.revise file fun content => { content with phase := .loading }, .ok true) := by
          rw [Catalogue.perform, hknown]
          exact if_pos hlacks
        constructor
        · rw [perform, hrequest, htable]
          exact hshows.revise hmodify
        · rw [perform, hrequest, htable]
      · have hrequest : shelf.requestFile file = .ok (shelf, false) := by
          rw [requestFile, hcontent, hknown]
          dsimp only
          cases hphase : content.phase <;> simp [hphase] at hlacks ⊢
        have htable : known.perform (.request file) = (known, .ok false) := by
          rw [Catalogue.perform, hknown]
          exact if_neg hlacks
        constructor
        · rw [perform, hrequest, htable]
          exact hshows
        · rw [perform, hrequest, htable]

theorem mirrors_load (hshows : shelf.Shows known) (file : SourceFile) (lines : List String) :
    shelf.Mirrors known (.load file lines) := by
  cases hknown : known file with
  | none =>
      have hrefused : shelf.onFileLoaded file lines = .error (.unknownSourceFile file) :=
        modifyContent_of_content?_eq_none ((hshows.content_eq file).trans hknown) _
      constructor
      · rw [perform, hrefused, Catalogue.perform, hknown]
        exact hshows
      · rw [perform, hrefused, Catalogue.perform, hknown]
  | some content =>
      obtain ⟨loaded, hmodify⟩ :=
        hshows.modifyContent hknown fun _ => { phase := .loaded, lines := some lines }
      have hloaded : shelf.onFileLoaded file lines = .ok loaded := hmodify
      constructor
      · rw [perform, hloaded, Catalogue.perform, hknown]
        exact hshows.revise hmodify
      · rw [perform, hloaded, Catalogue.perform, hknown]

theorem mirrors_fail (hshows : shelf.Shows known) (file : SourceFile) :
    shelf.Mirrors known (.fail file) where
  shows :=
    { aligned := by
        rw [perform, onFileFailed]
        split
        · exact hshows.aligned
        · next hmodify => exact hshows.aligned.modifyContent hmodify
      content_eq := by
        intro other
        rw [perform, content?_onFileFailed, hshows.content_eq]
        rfl }
  answer_eq := rfl

theorem mirrors_perform (hshows : shelf.Shows known) (act : Act) : shelf.Mirrors known act := by
  cases act with
  | list files now => exact mirrors_list hshows files now
  | request file => exact mirrors_request hshows file
  | load file lines => exact mirrors_load hshows file lines
  | fail file => exact mirrors_fail hshows file

theorem shows_performAll (hshows : shelf.Shows known) (acts : List Act) :
    (shelf.performAll acts).Shows (known.performAll acts) := by
  induction acts generalizing shelf known with
  | nil => exact hshows
  | cons act rest ih => exact ih (mirrors_perform hshows act).shows

end SourceShelf

/-! ## Files that are not listed -/

/-- A file that is not listed is refused when it is asked for and when it arrives, and its failure
is ignored.  None of it changes anything. -/
structure RunScope.Refuses (scope : RunScope) (file : SourceFile) : Prop where
  request : ∀ run, scope.requestFile run file = (scope, .error (.unknownSourceFile file))
  load : ∀ run now lines, scope.onReply run now (.sourceFile file lines) =
    (scope, .error (.unknownSourceFile file))
  fail : scope.onFetchFailed (.sourceFile file) = scope

theorem RunScope.refuses_of_content?_eq_none {scope : RunScope} {file : SourceFile}
    (hcontent : scope.sources.content? file = none) : scope.Refuses file where
  request := by
    intro run
    rw [requestFile, SourceShelf.requestFile, hcontent]
  load := by
    intro run now lines
    rw [onReply, SourceShelf.onFileLoaded, SourceShelf.modifyContent_of_content?_eq_none hcontent]
  fail := by
    rw [onFetchFailed, SourceShelf.onFileFailed_of_content?_eq_none hcontent]

namespace SourceShelf

/-- Whatever lists, requests, lines and failures came in whatever order, there is one content for
each file, and what is known of the files is what the table says.  Every further operation gives
the answer that the table gives and leaves the contents of other files alone.  A file of which
nothing is known is not listed, and is refused. -/
theorem shelf_is_catalogue (acts : List Act) :
    let shelf := ({} : SourceShelf).performAll acts
    let known := Catalogue.empty.performAll acts
    shelf.contents.length = shelf.files.length ∧
      (∀ file, shelf.content? file = known file) ∧
      (∀ file, file ∈ shelf.files ↔ (known file).isSome = true) ∧
      (∀ act, (shelf.perform act).2 = (known.perform act).2) ∧
      (∀ act file other, act.file? = some file → file ≠ other →
        (shelf.perform act).1.content? other = shelf.content? other) ∧
      ∀ (scope : RunScope) (file : SourceFile), scope.sources = shelf → known file = none →
        scope.Refuses file := by
  intro shelf known
  -- the shelf shows the table after every act, and all else is read off this
  have hshows : shelf.Shows known := shows_performAll shows_empty acts
  refine ⟨hshows.aligned, hshows.content_eq, fun file => ?_,
    fun act => (mirrors_perform hshows act).answer_eq, fun act file other hfile hother => ?_, ?_⟩
  · rw [mem_files_iff_of_aligned hshows.aligned, hshows.content_eq]
  · rw [(mirrors_perform hshows act).shows.content_eq, known.perform_other hfile hother,
      hshows.content_eq]
  · rintro scope file hsources hunknown
    refine RunScope.refuses_of_content?_eq_none ?_
    rw [hsources, hshows.content_eq, hunknown]

/-- A file that is listed twice is loaded, and one that is being fetched fails after the list has
changed.  Then a list comes in another order, which drops one of the files and brings another. -/
theorem shelf_is_catalogue_after_relisting :
    let main := Sample.file "main.py"
    let util := Sample.file "util.py"
    let test := Sample.file "test.py"
    let acts : List Act :=
      [.list [main, util, main] 1, .request main, .request util, .load main ["import math"],
        .list [util, main] 2, .fail util, .list [test, main] 3]
    let shelf := ({} : SourceShelf).performAll acts
    let scope : RunScope := { RunScope.fresh {} (by decide) with sources := shelf }
    shelf.files = [test, main] ∧ shelf.contents = [{}, ⟨.loaded, some ["import math"]⟩] ∧
      shelf.content? main = some ⟨.loaded, some ["import math"]⟩ ∧
      (shelf.perform (.load test [])).1.content? main = shelf.content? main ∧
      scope.Refuses util := by
  intro main util test acts shelf scope
  obtain ⟨_, hcontent, _, _, hothers, hrefuses⟩ := shelf_is_catalogue acts
  refine ⟨by decide +kernel, by decide +kernel, ?_, ?_, ?_⟩
  · exact (hcontent main).trans (by decide +kernel)
  · exact hothers (.load test []) test main rfl (by decide)
  · exact hrefuses scope util rfl (by decide +kernel)

end SourceShelf

end TraceViewer
