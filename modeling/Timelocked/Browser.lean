import Mathlib.Data.Char
import Mathlib.Data.List.Lex
import Timelocked.TuiSession

/-!
The file browser, from `src/userinterfaces/tui/state/browser.rs` and the keys it
takes in `app_state/modal.rs`. The disk may answer differently at every key, so
a browser shows the listing of some disk it has seen.
-/
namespace Browser

open PathText FileTree Base Lock TextFields TuiSession

inductive BrowserMode where
  | file
  | directory
  deriving DecidableEq, Repr

inductive BrowserFileFilter where
  | timelockedOnly
  | allFiles
  deriving DecidableEq, Repr

structure BrowserEntry where
  name : Name
  path : Path
  isDir : Bool
  deriving DecidableEq, Repr

structure FileBrowserState where
  mode : BrowserMode
  target : BrowserTarget
  fileFilter : BrowserFileFilter
  showHidden : Bool
  currentDir : Path
  entries : List BrowserEntry
  selected : Nat
  error : Option String
  deriving DecidableEq, Repr

structure DirEntry where
  fileName : Name
  /-- Whether its metadata calls it a directory, where they can be read. -/
  isDir : Option Bool
  deriving DecidableEq, Repr

structure Disk where
  currentDir : Option Path
  isDir : Path → Bool
  isFile : Path → Bool
  readDir : Path → Except IoErrorKind (List (Except IoErrorKind DirEntry))

def shelf : Disk where
  currentDir := none
  isDir path := path = ofText "d" || path = ofText "d/e"
  isFile path := path = ofText "d/e/.n"
  readDir path :=
    if path = ofText "d" then .ok [.ok ⟨['e'], some true⟩]
    else if path = ofText "d/e" then .ok [.ok ⟨['.', 'n'], some false⟩]
    else .error .notFound

def isHiddenEntryName (name : Name) : Bool := name.head? = some '.'

def isTimelockedFile (path : Path) : Bool :=
  (extension path).any (eqIgnoreAsciiCase · "timelocked".toList)

/-- The body of the loop over a directory; `none` is its `continue`. -/
def browserEntry (dir : Path) (mode : BrowserMode) (fileFilter : BrowserFileFilter)
    (showHidden : Bool) (entry : DirEntry) : Option BrowserEntry :=
  if !showHidden && isHiddenEntryName entry.fileName then none
  else
    let path := join dir [entry.fileName]
    match entry.isDir with
    | none => none
    | some isDir =>
        if mode = .directory && !isDir then none
        else if !isDir && mode = .file && fileFilter = .timelockedOnly &&
            !isTimelockedFile path then none
        else some ⟨entry.fileName, path, isDir⟩

def lowered (name : Name) : Name := name.map Char.toLower

/-- The comparison that sorts a listing: `left` does not come after `right`. -/
def entryLe (left right : BrowserEntry) : Bool :=
  match left.isDir, right.isDir with
  | true, false => true
  | false, true => false
  | _, _ => lowered left.name ≤ lowered right.name

def dirEntries (disk : Disk) (dir : Path) : Except IoErrorKind (List DirEntry) := do
  let listing ← disk.readDir dir
  listing.mapM id

def readBrowserEntries (disk : Disk) (dir : Path) (mode : BrowserMode)
    (fileFilter : BrowserFileFilter) (showHidden : Bool) :
    Except IoErrorKind (List BrowserEntry) := do
  let found ← dirEntries disk dir
  .ok ((found.filterMap (browserEntry dir mode fileFilter showHidden)).mergeSort entryLe)

def defaultBrowserSelectionIndex (entries : List BrowserEntry) (mode : BrowserMode)
    (fileFilter : BrowserFileFilter) : Nat :=
  if entries.isEmpty then 0
  else if mode = .file ∧ fileFilter = .timelockedOnly then
    (entries.findIdx? fun entry => !entry.isDir).getD 0
  else 0

def defaultBrowserFileFilter (mode : BrowserMode) (target : BrowserTarget) : BrowserFileFilter :=
  if mode ≠ .file then .allFiles
  else
    match target with
    | .lockFileInput => .allFiles
    | .unlockOutputDir => .allFiles
    | .unlockInput => .timelockedOnly
    | .inspectInput => .timelockedOnly
    | .verifyInput => .timelockedOnly

def browserFilterToggleAvailable (mode : BrowserMode) (target : BrowserTarget) : Bool :=
  mode = .file && (target = .unlockInput || target = .inspectInput || target = .verifyInput)

def resolveBrowseStartDir (disk : Disk) (path : Path) : Option Path :=
  if path = [[]] then none
  else if disk.isDir path then some path
  else if disk.isFile path then parent path
  else parent path

namespace FileBrowserState

def reloadEntries (disk : Disk) (state : FileBrowserState) : FileBrowserState :=
  match readBrowserEntries disk state.currentDir state.mode state.fileFilter state.showHidden with
  | .ok entries =>
      { state with
        error := none
        selected := defaultBrowserSelectionIndex entries state.mode state.fileFilter
        entries := entries }
  | .error kind =>
      { state with entries := [], selected := 0, error := some (describeIo kind) }

def new (disk : Disk) (mode : BrowserMode) (target : BrowserTarget)
    (preferredPath : Option Path) : FileBrowserState :=
  let currentDir := (((preferredPath.bind (resolveBrowseStartDir disk)).or disk.currentDir)).getD
    [['.']]
  reloadEntries disk
    ⟨mode, target, defaultBrowserFileFilter mode target, false, currentDir, [], 0, none⟩

def toggleFileFilter (disk : Disk) (state : FileBrowserState) : FileBrowserState :=
  if browserFilterToggleAvailable state.mode state.target then
    let toggled := match state.fileFilter with
      | .timelockedOnly => .allFiles
      | .allFiles => .timelockedOnly
    reloadEntries disk { state with fileFilter := toggled }
  else state

def toggleHiddenEntries (disk : Disk) (state : FileBrowserState) : FileBrowserState :=
  reloadEntries disk { state with showHidden := !state.showHidden }

def selectedEntry (state : FileBrowserState) : Option BrowserEntry :=
  state.entries[state.selected]?

def moveUp (state : FileBrowserState) : FileBrowserState :=
  if state.entries.isEmpty then state
  else if state.selected = 0 then { state with selected := state.entries.length - 1 }
  else { state with selected := state.selected - 1 }

def moveDown (state : FileBrowserState) : FileBrowserState :=
  if state.entries.isEmpty then state
  else { state with selected := (state.selected + 1) % state.entries.length }

def navigateSelected (disk : Disk) (state : FileBrowserState) : FileBrowserState :=
  match state.selectedEntry with
  | none => state
  | some entry =>
      if entry.isDir then reloadEntries disk { state with currentDir := entry.path } else state

def navigateParent (disk : Disk) (state : FileBrowserState) : FileBrowserState :=
  match parent state.currentDir with
  | some up => reloadEntries disk { state with currentDir := up }
  | none => state

end FileBrowserState

open FileBrowserState

inductive Outcome where
  | stays
  | closes
  /-- The browser closes and its target takes the path. -/
  | selects (path : Path)
  deriving DecidableEq, Repr

def handleBrowserKey (disk : Disk) (browser : FileBrowserState) (key : KeyEvent) :
    FileBrowserState × Outcome :=
  match key.code with
  | .esc => (browser, .closes)
  | .up => (moveUp browser, .stays)
  | .char 'k' => (moveUp browser, .stays)
  | .down => (moveDown browser, .stays)
  | .char 'j' => (moveDown browser, .stays)
  | .left => (navigateParent disk browser, .stays)
  | .right => (navigateSelected disk browser, .stays)
  | .char 'h' => (toggleHiddenEntries disk browser, .stays)
  | .char 'f' =>
      if browserFilterToggleAvailable browser.mode browser.target then
        (toggleFileFilter disk browser, .stays)
      else (browser, .stays)
  | .char 's' =>
      if browser.mode = .directory then (browser, .selects browser.currentDir)
      else (browser, .stays)
  | .enter =>
      match selectedEntry browser with
      | none => (browser, .stays)
      | some entry =>
          match browser.mode with
          | .file =>
              if entry.isDir then (navigateSelected disk browser, .stays)
              else (browser, .selects entry.path)
          | .directory =>
              if entry.isDir then (browser, .selects entry.path) else (browser, .stays)
  | _ => (browser, .stays)

/-! A listing holds the entries it admits, each as often as the directory does, directories
first and names in order. -/

structure Admitted (dir : Path) (mode : BrowserMode) (fileFilter : BrowserFileFilter)
    (showHidden : Bool) (entry : DirEntry) (shown : BrowserEntry) : Prop where
  name : shown.name = entry.fileName
  path : shown.path = join dir [entry.fileName]
  known : entry.isDir = some shown.isDir
  visible : showHidden = false → isHiddenEntryName entry.fileName = false
  browsable : mode = .directory → shown.isDir = true
  wanted : mode = .file → shown.isDir = false → fileFilter = .timelockedOnly →
    isTimelockedFile shown.path = true

theorem browserEntry_eq_some (dir : Path) (mode : BrowserMode) (fileFilter : BrowserFileFilter)
    (showHidden : Bool) (entry : DirEntry) (shown : BrowserEntry) :
    browserEntry dir mode fileFilter showHidden entry = some shown ↔
      Admitted dir mode fileFilter showHidden entry shown := by
  unfold browserEntry
  constructor
  · intro listed
    split at listed
    · cases listed
    · rename_i visible
      split at listed
      · cases listed
      · rename_i isDir known
        split at listed
        · cases listed
        · rename_i browsable
          dsimp only at listed
          split at listed
          · cases listed
          · rename_i wanted
            obtain rfl := Option.some.inj listed
            refine ⟨rfl, rfl, known, ?_, ?_, ?_⟩
            · intro covered
              simpa [covered] using visible
            · intro directories
              simpa [directories] using browsable
            · intro files plain only
              have plain : isDir = false := plain
              simpa [files, plain, only] using wanted
  · rintro ⟨name, path, known, visible, browsable, wanted⟩
    obtain ⟨shownName, shownPath, isDir⟩ := shown
    obtain rfl : shownName = entry.fileName := name
    obtain rfl : shownPath = join dir [entry.fileName] := path
    simp only at known browsable wanted
    cases mode <;> cases isDir <;> cases fileFilter <;> cases showHidden <;>
      simp_all

/-- Directories come first, and each kind is in the order of its lower-cased names. -/
def InOrder (left right : BrowserEntry) : Prop :=
  left.isDir = true ∧ right.isDir = false ∨
    left.isDir = right.isDir ∧ lowered left.name ≤ lowered right.name

theorem entryLe_iff (left right : BrowserEntry) :
    entryLe left right = true ↔ InOrder left right := by
  unfold entryLe InOrder
  cases left.isDir <;> cases right.isDir <;> simp

theorem entryLe_trans (a b c : BrowserEntry) (first : entryLe a b = true)
    (second : entryLe b c = true) : entryLe a c = true := by
  rw [entryLe_iff] at first second ⊢
  rcases first with ⟨directory, plain⟩ | ⟨same, before⟩
  · rcases second with ⟨directory', _⟩ | ⟨same', _⟩
    · rw [plain] at directory'
      cases directory'
    · exact .inl ⟨directory, same' ▸ plain⟩
  · rcases second with ⟨directory', plain'⟩ | ⟨same', before'⟩
    · exact .inl ⟨same ▸ directory', plain'⟩
    · exact .inr ⟨same.trans same', le_trans before before'⟩

theorem entryLe_total (a b : BrowserEntry) : (entryLe a b || entryLe b a) = true := by
  rw [Bool.or_eq_true, entryLe_iff, entryLe_iff]
  unfold InOrder
  cases a.isDir <;> cases b.isDir <;> simp [le_total]

inductive Shown (disk : Disk) (state : FileBrowserState) : Prop where
  | listed (found : List DirEntry) (read : dirEntries disk state.currentDir = .ok found)
      (silent : state.error = none)
      (same : state.entries.Perm (found.filterMap
        (browserEntry state.currentDir state.mode state.fileFilter state.showHidden)))
      (sorted : state.entries.Pairwise InOrder)
  | failed (kind : IoErrorKind) (read : dirEntries disk state.currentDir = .error kind)
      (told : state.error = some (describeIo kind)) (empty : state.entries = [])

def Inside (state : FileBrowserState) : Prop := state.selected < max state.entries.length 1

theorem defaultBrowserSelectionIndex_lt (entries : List BrowserEntry) (mode : BrowserMode)
    (fileFilter : BrowserFileFilter) :
    defaultBrowserSelectionIndex entries mode fileFilter < max entries.length 1 := by
  unfold defaultBrowserSelectionIndex
  split
  · omega
  · split
    · cases first : entries.findIdx? fun entry => !entry.isDir with
      | none =>
          rw [Option.getD_none]
          omega
      | some index =>
          obtain ⟨inside, _⟩ := List.findIdx?_eq_some_iff_getElem.mp first
          rw [Option.getD_some]
          omega
    · omega

section Reload
variable (disk : Disk) (state : FileBrowserState)

@[simp] theorem reloadEntries_mode : (reloadEntries disk state).mode = state.mode := by
  unfold reloadEntries
  split <;> rfl

@[simp] theorem reloadEntries_target : (reloadEntries disk state).target = state.target := by
  unfold reloadEntries
  split <;> rfl

@[simp] theorem reloadEntries_fileFilter :
    (reloadEntries disk state).fileFilter = state.fileFilter := by
  unfold reloadEntries
  split <;> rfl

@[simp] theorem reloadEntries_showHidden :
    (reloadEntries disk state).showHidden = state.showHidden := by
  unfold reloadEntries
  split <;> rfl

@[simp] theorem reloadEntries_currentDir :
    (reloadEntries disk state).currentDir = state.currentDir := by
  unfold reloadEntries
  split <;> rfl

theorem reloadEntries_inside : Inside (reloadEntries disk state) := by
  unfold reloadEntries Inside
  split
  · exact defaultBrowserSelectionIndex_lt _ _ _
  · exact Nat.zero_lt_one

theorem reloadEntries_shown : Shown disk (reloadEntries disk state) := by
  cases read : dirEntries disk state.currentDir with
  | error kind =>
      have failed : readBrowserEntries disk state.currentDir state.mode state.fileFilter
          state.showHidden = .error kind := by
        rw [readBrowserEntries, read]
        rfl
      have reloaded : reloadEntries disk state =
          { state with entries := [], selected := 0, error := some (describeIo kind) } := by
        rw [reloadEntries, failed]
      rw [reloaded]
      exact .failed kind read rfl rfl
  | ok found =>
      have listed : readBrowserEntries disk state.currentDir state.mode state.fileFilter
          state.showHidden = .ok ((found.filterMap (browserEntry state.currentDir state.mode
            state.fileFilter state.showHidden)).mergeSort entryLe) := by
        rw [readBrowserEntries, read]
        rfl
      have sorted := List.pairwise_mergeSort entryLe_trans entryLe_total
        (found.filterMap (browserEntry state.currentDir state.mode state.fileFilter
          state.showHidden))
      rw [reloadEntries, listed]
      refine .listed found read rfl (List.mergeSort_perm _ _) (sorted.imp ?_)
      intro left right before
      exact (entryLe_iff left right).mp before

end Reload

inductive Turned (disk : Disk) (before : FileBrowserState) : FileBrowserState → Prop where
  | moved (index : Nat) (inside : Inside before → index < max before.entries.length 1) :
      Turned disk before { before with selected := index }
  | listed (dir : Path) (fileFilter : BrowserFileFilter) (showHidden : Bool)
      (changes : fileFilter ≠ before.fileFilter →
        browserFilterToggleAvailable before.mode before.target = true) :
      Turned disk before (reloadEntries disk
        { before with currentDir := dir, fileFilter := fileFilter, showHidden := showHidden })

theorem turned_refl (disk : Disk) (state : FileBrowserState) : Turned disk state state :=
  .moved state.selected id

theorem moveUp_turned (disk : Disk) (state : FileBrowserState) :
    Turned disk state (moveUp state) := by
  unfold moveUp
  split
  · exact turned_refl disk state
  · rename_i some_
    have positive : 0 < state.entries.length := List.length_pos_iff.mpr (by simpa using some_)
    split
    · exact .moved _ fun _ => by omega
    · exact .moved _ fun inside => by unfold Inside at inside; omega

theorem moveDown_turned (disk : Disk) (state : FileBrowserState) :
    Turned disk state (moveDown state) := by
  unfold moveDown
  split
  · exact turned_refl disk state
  · rename_i some_
    have positive : 0 < state.entries.length := List.length_pos_iff.mpr (by simpa using some_)
    have wrapped := Nat.mod_lt (state.selected + 1) positive
    exact .moved _ fun _ => by omega

theorem navigateSelected_turned (disk : Disk) (state : FileBrowserState) :
    Turned disk state (navigateSelected disk state) := by
  unfold navigateSelected
  split
  · exact turned_refl disk state
  · split
    · exact .listed _ state.fileFilter state.showHidden fun changed => absurd rfl changed
    · exact turned_refl disk state

theorem navigateParent_turned (disk : Disk) (state : FileBrowserState) :
    Turned disk state (navigateParent disk state) := by
  unfold navigateParent
  split
  · exact .listed _ state.fileFilter state.showHidden fun changed => absurd rfl changed
  · exact turned_refl disk state

theorem toggleFileFilter_turned (disk : Disk) (state : FileBrowserState) :
    Turned disk state (toggleFileFilter disk state) := by
  unfold toggleFileFilter
  split
  · rename_i available
    exact .listed state.currentDir _ state.showHidden fun _ => available
  · exact turned_refl disk state

theorem toggleHiddenEntries_turned (disk : Disk) (state : FileBrowserState) :
    Turned disk state (toggleHiddenEntries disk state) :=
  .listed state.currentDir state.fileFilter _ fun changed => absurd rfl changed

theorem handleBrowserKey_turned (disk : Disk) (state : FileBrowserState) (key : KeyEvent) :
    Turned disk state (handleBrowserKey disk state key).1 := by
  unfold handleBrowserKey
  split
  · exact turned_refl disk state
  · exact moveUp_turned disk state
  · exact moveUp_turned disk state
  · exact moveDown_turned disk state
  · exact moveDown_turned disk state
  · exact navigateParent_turned disk state
  · exact navigateSelected_turned disk state
  · exact toggleHiddenEntries_turned disk state
  · split
    · exact toggleFileFilter_turned disk state
    · exact turned_refl disk state
  · split <;> exact turned_refl disk state
  · split
    · exact turned_refl disk state
    · split
      · split
        · exact navigateSelected_turned disk state
        · exact turned_refl disk state
      · split <;> exact turned_refl disk state
  · exact turned_refl disk state

/-- A selection is the directory shown, or the entry selected in it. -/
theorem handleBrowserKey_selects (disk : Disk) (state after : FileBrowserState) (key : KeyEvent)
    (path : Path) (selected : handleBrowserKey disk state key = (after, .selects path)) :
    state.mode = .directory ∧ path = state.currentDir ∨
      ∃ entry ∈ state.entries, path = entry.path ∧
        entry.isDir = decide (state.mode = .directory) := by
  unfold handleBrowserKey at selected
  split at selected <;> try cases selected
  · split at selected <;> cases selected
  · split at selected
    · rename_i directories
      cases selected
      exact .inl ⟨directories, rfl⟩
    · cases selected
  · split at selected
    · cases selected
    · rename_i entry chosen
      have member : entry ∈ state.entries := List.mem_of_getElem? chosen
      split at selected <;> rename_i mode
      · split at selected
        · cases selected
        · rename_i plain
          cases selected
          exact .inr ⟨entry, member, rfl, by simpa [mode] using plain⟩
      · split at selected
        · rename_i directory
          cases selected
          exact .inr ⟨entry, member, rfl, by simpa [mode] using directory⟩
        · cases selected

/-- The disks are those that the browser has seen, the last one first. -/
inductive Browsed (mode : BrowserMode) (target : BrowserTarget) :
    List Disk → FileBrowserState → Prop where
  | opened (disk : Disk) (preferredPath : Option Path) :
      Browsed mode target [disk] (FileBrowserState.new disk mode target preferredPath)
  | pressed {disks : List Disk} {before after : FileBrowserState} (disk : Disk) (key : KeyEvent)
      (browsed : Browsed mode target disks before)
      (stays : handleBrowserKey disk before key = (after, .stays)) :
      Browsed mode target (disk :: disks) after

structure Kept (mode : BrowserMode) (target : BrowserTarget) (disks : List Disk)
    (state : FileBrowserState) : Prop where
  mode_ : state.mode = mode
  target_ : state.target = target
  shown : ∃ disk ∈ disks, Shown disk state
  inside : Inside state
  filtered : state.fileFilter = .timelockedOnly → browserFilterToggleAvailable mode target = true

section Runs
variable {mode : BrowserMode} {target : BrowserTarget} {disks : List Disk}
  {state : FileBrowserState}

theorem new_kept (disk : Disk) (preferredPath : Option Path) :
    Kept mode target [disk] (FileBrowserState.new disk mode target preferredPath) where
  mode_ := by simp [FileBrowserState.new]
  target_ := by simp [FileBrowserState.new]
  shown := ⟨disk, List.mem_singleton_self disk, reloadEntries_shown _ _⟩
  inside := reloadEntries_inside _ _
  filtered := by
    simp only [FileBrowserState.new, reloadEntries_fileFilter]
    cases mode <;> cases target <;>
      simp [defaultBrowserFileFilter, browserFilterToggleAvailable]

theorem turned_kept {before after : FileBrowserState} (disk : Disk)
    (kept : Kept mode target disks before) (turned : Turned disk before after) :
    Kept mode target (disk :: disks) after := by
  obtain ⟨seen, member, shown⟩ := kept.shown
  cases turned with
  | moved index inside =>
      refine ⟨kept.mode_, kept.target_, ⟨seen, List.mem_cons_of_mem disk member, ?_⟩,
        inside kept.inside, kept.filtered⟩
      cases shown with
      | listed found read silent same sorted => exact .listed found read silent same sorted
      | failed kind read told empty => exact .failed kind read told empty
  | listed dir fileFilter showHidden changes =>
      refine ⟨?_, ?_, ⟨disk, List.mem_cons_self, reloadEntries_shown _ _⟩,
        reloadEntries_inside _ _, ?_⟩
      · rw [reloadEntries_mode]
        exact kept.mode_
      · rw [reloadEntries_target]
        exact kept.target_
      · intro only
        rw [reloadEntries_fileFilter] at only
        by_cases same : fileFilter = before.fileFilter
        · exact kept.filtered (same ▸ only)
        · have available := changes same
          rwa [kept.mode_, kept.target_] at available

theorem browsed_kept (browsed : Browsed mode target disks state) :
    Kept mode target disks state := by
  induction browsed with
  | opened disk preferredPath => exact new_kept disk preferredPath
  | @pressed disks before after disk key _ stays ih =>
      have turned := handleBrowserKey_turned disk before key
      rw [stays] at turned
      exact turned_kept disk ih turned

inductive Chosen (mode : BrowserMode) (disks : List Disk) (state : FileBrowserState)
    (path : Path) : Prop where
  | shownDirectory (directories : mode = .directory) (current : path = state.currentDir)
  | entry (disk : Disk) (seen : disk ∈ disks) (found : List DirEntry)
      (read : dirEntries disk state.currentDir = .ok found) (entry : DirEntry)
      (member : entry ∈ found) (path_ : path = join state.currentDir [entry.fileName])
      (kind : entry.isDir = some (decide (mode = .directory)))
      (visible : state.showHidden = false → isHiddenEntryName entry.fileName = false)
      (wanted : mode = .file → state.fileFilter = .timelockedOnly → isTimelockedFile path = true)

/-- However it is driven, and however the disk changes meanwhile, a browser shows what one of the
disks it saw holds, and selects nothing else. -/
theorem browser_sound (browsed : Browsed mode target disks state) :
    Kept mode target disks state ∧
      ∀ (disk : Disk) (key : KeyEvent) (after : FileBrowserState) (path : Path),
        handleBrowserKey disk state key = (after, .selects path) →
          Chosen mode disks state path := by
  have kept := browsed_kept browsed
  refine ⟨kept, ?_⟩
  intro disk key after path selected
  obtain ⟨seen, member, shown⟩ := kept.shown
  rcases handleBrowserKey_selects disk state after key path selected with
    ⟨directories, current⟩ | ⟨entry, listed, rfl, kind⟩
  · exact .shownDirectory (kept.mode_ ▸ directories) current
  · cases shown with
    | failed failure read told empty =>
        rw [empty] at listed
        cases listed
    | listed found read silent same sorted =>
        obtain ⟨origin, originMember, shownAs⟩ := List.mem_filterMap.mp (same.mem_iff.mp listed)
        have admitted := (browserEntry_eq_some _ _ _ _ _ _).mp shownAs
        rw [kept.mode_] at kind
        refine .entry seen member found read origin originMember admitted.path
          (admitted.known.trans (congrArg some kind)) admitted.visible ?_
        intro files only
        have plain : entry.isDir = false := by simpa [files] using kind
        exact admitted.wanted (kept.mode_.trans files) plain only

def uncoveredShelf : FileBrowserState :=
  toggleHiddenEntries shelf
    (FileBrowserState.new shelf .file .lockFileInput (some (ofText "d/e")))

theorem uncoveredShelf_shows :
    uncoveredShelf = ⟨.file, .lockFileInput, .allFiles, true, ofText "d/e",
      [⟨['.', 'n'], ofText "d/e/.n", false⟩], 0, none⟩ := by
  have read : readBrowserEntries shelf (ofText "d/e") .file .allFiles true =
      .ok [⟨['.', 'n'], ofText "d/e/.n", false⟩] :=
    congrArg Except.ok (List.mergeSort_singleton _)
  let opened := FileBrowserState.new shelf .file .lockFileInput (some (ofText "d/e"))
  have again : uncoveredShelf = reloadEntries shelf ⟨.file, .lockFileInput, .allFiles, true,
      ofText "d/e", opened.entries, opened.selected, none⟩ := rfl
  rw [again, reloadEntries, read]
  rfl

theorem browser_sound_shelf :
    Chosen .file [shelf, shelf] uncoveredShelf (ofText "d/e/.n") := by
  have browsed : Browsed .file .lockFileInput [shelf, shelf] uncoveredShelf :=
    .pressed shelf (struck (.char 'h')) (.opened shelf (some (ofText "d/e"))) rfl
  refine (browser_sound browsed).2 shelf (struck .enter) uncoveredShelf _ ?_
  rw [uncoveredShelf_shows]
  rfl

end Runs

/-! Driving a browser: keys one after another, until one of them closes it. -/

def drive : FileBrowserState → List (Disk × KeyEvent) → FileBrowserState × Outcome
  | state, [] => (state, .stays)
  | state, (disk, key) :: later =>
      match handleBrowserKey disk state key with
      | (after, .stays) => drive after later
      | ended => ended

theorem drive_stays (state after : FileBrowserState) (disk : Disk) (key : KeyEvent)
    (later : List (Disk × KeyEvent)) (stays : handleBrowserKey disk state key = (after, .stays)) :
    drive state ((disk, key) :: later) = drive after later := by
  rw [drive, stays]

theorem drive_selects (state after : FileBrowserState) (disk : Disk) (key : KeyEvent)
    (path : Path) (later : List (Disk × KeyEvent))
    (selects : handleBrowserKey disk state key = (after, .selects path)) :
    drive state ((disk, key) :: later) = (after, .selects path) := by
  rw [drive, selects]

theorem drive_append (first later : List (Disk × KeyEvent)) (state between : FileBrowserState)
    (driven : drive state first = (between, .stays)) :
    drive state (first ++ later) = drive between later := by
  induction first generalizing state with
  | nil =>
      cases driven
      rfl
  | cons step rest ih =>
      obtain ⟨disk, key⟩ := step
      cases pressed : handleBrowserKey disk state key with
      | mk after outcome =>
          rw [drive, pressed] at driven
          rw [List.cons_append, drive, pressed]
          cases outcome with
          | stays => exact ih after driven
          | closes => cases driven
          | selects path => cases driven

def onDisk (disk : Disk) (keys : List KeyEvent) : List (Disk × KeyEvent) :=
  keys.map fun key => (disk, key)

theorem onDisk_append (disk : Disk) (first later : List KeyEvent) :
    onDisk disk (first ++ later) = onDisk disk first ++ onDisk disk later := List.map_append

/-- From a directory, through listings and their parents, a path of this kind is listed. -/
inductive Reaches (disk : Disk) : Path → Path → Bool → Prop where
  | listed {dir : Path} {found : List DirEntry} {entry : DirEntry} {kind : Bool}
      (read : dirEntries disk dir = .ok found) (member : entry ∈ found)
      (known : entry.isDir = some kind) : Reaches disk dir (join dir [entry.fileName]) kind
  | down {dir path : Path} {found : List DirEntry} {entry : DirEntry} {kind : Bool}
      (read : dirEntries disk dir = .ok found) (member : entry ∈ found)
      (known : entry.isDir = some true)
      (later : Reaches disk (join dir [entry.fileName]) path kind) : Reaches disk dir path kind
  | up {dir above path : Path} {kind : Bool} (upper : parent dir = some above)
      (later : Reaches disk above path kind) : Reaches disk dir path kind

section Complete
variable {disk : Disk} {mode : BrowserMode} {target : BrowserTarget}

structure Revealed (disk : Disk) (mode : BrowserMode) (state : FileBrowserState) : Prop where
  mode_ : state.mode = mode
  shown : Shown disk state
  inside : Inside state
  uncovered : state.showHidden = true
  unfiltered : state.fileFilter = .allFiles

theorem reloaded_revealed (state : FileBrowserState) (mode_ : state.mode = mode)
    (uncovered : state.showHidden = true) (unfiltered : state.fileFilter = .allFiles) :
    Revealed disk mode (reloadEntries disk state) where
  mode_ := (reloadEntries_mode disk state).trans mode_
  shown := reloadEntries_shown disk state
  inside := reloadEntries_inside disk state
  uncovered := (reloadEntries_showHidden disk state).trans uncovered
  unfiltered := (reloadEntries_fileFilter disk state).trans unfiltered

/-- Presses of `Down` go through the entries in a circle. -/
theorem drive_down (count : Nat) (state : FileBrowserState)
    (inside : state.selected < state.entries.length) :
    drive state (onDisk disk (List.replicate count (struck .down))) =
      ({ state with selected := (state.selected + count) % state.entries.length }, .stays) := by
  induction count generalizing state with
  | zero =>
      rw [Nat.add_zero, Nat.mod_eq_of_lt inside]
      rfl
  | succ count ih =>
      have positive : 0 < state.entries.length := Nat.lt_of_le_of_lt (Nat.zero_le _) inside
      have someEntry : state.entries.isEmpty = false := by
        rw [List.isEmpty_eq_false_iff]
        exact List.length_pos_iff.mp positive
      have moved : handleBrowserKey disk state (struck .down) =
          ({ state with selected := (state.selected + 1) % state.entries.length }, .stays) := by
        simp [handleBrowserKey, struck, moveDown, someEntry]
      have later := ih { state with selected := (state.selected + 1) % state.entries.length }
        (Nat.mod_lt _ positive)
      rw [List.replicate_succ, onDisk, List.map_cons, drive_stays _ _ _ _ _ moved]
      refine later.trans ?_
      simp only [Nat.mod_add_mod]
      rw [Nat.add_assoc, Nat.add_comm 1 count]

/-- The presses that bring the selection to an entry of the directory. -/
theorem drive_to (state : FileBrowserState) (revealed : Revealed disk mode state)
    (found : List DirEntry) (read : dirEntries disk state.currentDir = .ok found)
    (entry : DirEntry) (member : entry ∈ found) (kind : Bool) (known : entry.isDir = some kind)
    (browsable : mode = .directory → kind = true) :
    ∃ keys index, drive state (onDisk disk keys) = ({ state with selected := index }, .stays) ∧
      state.entries[index]? =
        some ⟨entry.fileName, join state.currentDir [entry.fileName], kind⟩ := by
  have admitted : Admitted state.currentDir state.mode state.fileFilter state.showHidden entry
      ⟨entry.fileName, join state.currentDir [entry.fileName], kind⟩ := by
    refine ⟨rfl, rfl, known, ?_, ?_, ?_⟩
    · intro covered
      rw [revealed.uncovered] at covered
      cases covered
    · intro directories
      exact browsable (revealed.mode_ ▸ directories)
    · intro _ _ only
      rw [revealed.unfiltered] at only
      cases only
  cases revealed.shown with
  | failed failure failedRead told empty =>
      rw [read] at failedRead
      cases failedRead
  | listed found' read' silent same sorted =>
      obtain rfl : found = found' := Except.ok.inj (read.symm.trans read')
      have listed := same.mem_iff.mpr (List.mem_filterMap.mpr
        ⟨entry, member, (browserEntry_eq_some _ _ _ _ _ _).mpr admitted⟩)
      obtain ⟨index, bounded, there⟩ := List.mem_iff_getElem.mp listed
      have inside : state.selected < state.entries.length := by
        have kept := revealed.inside
        unfold Inside at kept
        omega
      refine ⟨List.replicate (index + state.entries.length - state.selected) (struck .down),
        index, ?_, ?_⟩
      · have around : state.selected + (index + state.entries.length - state.selected) =
            index + state.entries.length := by omega
        rw [drive_down _ state inside, around, Nat.add_mod_right, Nat.mod_eq_of_lt bounded]
      · rw [List.getElem?_eq_getElem bounded, there]

/-- Presses of `h` that uncover hidden entries, having read the disk again. -/
theorem drive_uncovered (state : FileBrowserState) :
    ∃ keys listing, drive state (onDisk disk keys) = (reloadEntries disk listing, .stays) ∧
      listing.showHidden = true ∧ listing.mode = state.mode ∧ listing.target = state.target ∧
      listing.fileFilter = state.fileFilter ∧ listing.currentDir = state.currentDir := by
  let toggled := toggleHiddenEntries disk state
  have once : handleBrowserKey disk state (struck (.char 'h')) = (toggled, .stays) := rfl
  cases covered : state.showHidden with
  | false =>
      refine ⟨[struck (.char 'h')], { state with showHidden := !state.showHidden },
        drive_stays _ _ _ _ _ once, ?_, rfl, rfl, rfl, rfl⟩
      rw [covered]
      rfl
  | true =>
      let pressed := toggleHiddenEntries disk toggled
      have twice : handleBrowserKey disk toggled (struck (.char 'h')) = (pressed, .stays) := rfl
      refine ⟨[struck (.char 'h'), struck (.char 'h')],
        { toggled with showHidden := !toggled.showHidden },
        (drive_stays _ _ _ _ _ once).trans (drive_stays _ _ _ _ _ twice), ?_, ?_, ?_, ?_, ?_⟩ <;>
        simp [toggled, toggleHiddenEntries, covered]

/-- Presses of `h` and `f` that reveal everything, on the disk of the moment. -/
theorem drive_revealed {disks : List Disk} {state : FileBrowserState}
    (kept : Kept mode target disks state) :
    ∃ keys after, drive state (onDisk disk keys) = (after, .stays) ∧ Revealed disk mode after ∧
      after.currentDir = state.currentDir := by
  obtain ⟨keys, listing, driven, uncovered, mode_, target_, filter, current⟩ :=
    @drive_uncovered disk state
  cases filtered : state.fileFilter with
  | allFiles =>
      exact ⟨keys, reloadEntries disk listing, driven,
        reloaded_revealed listing (mode_.trans kept.mode_) uncovered (filter.trans filtered),
        (reloadEntries_currentDir disk listing).trans current⟩
  | timelockedOnly =>
      have available := kept.filtered filtered
      rw [← kept.mode_, ← kept.target_, ← mode_, ← target_] at available
      let opened : FileBrowserState :=
        { reloadEntries disk listing with fileFilter := .allFiles }
      have unfiltered : handleBrowserKey disk (reloadEntries disk listing) (struck (.char 'f')) =
          (reloadEntries disk opened, .stays) := by
        simp [handleBrowserKey, struck, available, toggleFileFilter, filter, filtered, opened]
      refine ⟨keys ++ [struck (.char 'f')], reloadEntries disk opened, ?_,
        reloaded_revealed opened ?_ ?_ rfl, ?_⟩
      · rw [onDisk_append, drive_append _ _ _ _ driven]
        exact drive_stays _ _ _ _ _ unfiltered
      · exact (reloadEntries_mode disk listing).trans (mode_.trans kept.mode_)
      · exact (reloadEntries_showHidden disk listing).trans uncovered
      · rw [reloadEntries_currentDir]
        exact (reloadEntries_currentDir disk listing).trans current

theorem revealed_selects {dir path : Path} {kind : Bool} (reaches : Reaches disk dir path kind)
    (state : FileBrowserState) (revealed : Revealed disk mode state)
    (current : state.currentDir = dir) (wanted : kind = decide (mode = .directory)) :
    ∃ keys after, drive state (onDisk disk keys) = (after, .selects path) := by
  induction reaches generalizing state with
  | @listed dir found entry kind read member known =>
      subst current
      obtain ⟨keys, index, driven, chosen⟩ :=
        drive_to state revealed found read entry member kind known (by rw [wanted]; simp)
      have selected : handleBrowserKey disk { state with selected := index } (struck .enter) =
          ({ state with selected := index },
            .selects (join state.currentDir [entry.fileName])) := by
        cases mode <;>
          simp [handleBrowserKey, struck, selectedEntry, chosen, revealed.mode_, wanted]
      refine ⟨keys ++ [struck .enter], { state with selected := index }, ?_⟩
      rw [onDisk_append, drive_append _ _ _ _ driven]
      exact drive_selects _ _ _ _ _ _ selected
  | @down dir path found entry kind read member known _ ih =>
      subst current
      obtain ⟨keys, index, driven, chosen⟩ :=
        drive_to state revealed found read entry member true known fun _ => rfl
      let opened : FileBrowserState :=
        { state with selected := index, currentDir := join state.currentDir [entry.fileName] }
      have entered : handleBrowserKey disk { state with selected := index } (struck .right) =
          (reloadEntries disk opened, .stays) := by
        simp [handleBrowserKey, struck, navigateSelected, selectedEntry, chosen, opened]
      obtain ⟨later, after, selected⟩ := ih (reloadEntries disk opened)
        (reloaded_revealed opened revealed.mode_ revealed.uncovered revealed.unfiltered)
        (reloadEntries_currentDir disk opened) wanted
      refine ⟨keys ++ struck .right :: later, after, ?_⟩
      rw [onDisk_append, drive_append _ _ _ _ driven]
      exact (drive_stays _ _ _ _ _ entered).trans selected
  | @up dir above path kind upper _ ih =>
      subst current
      let opened : FileBrowserState := { state with currentDir := above }
      have entered : handleBrowserKey disk state (struck .left) =
          (reloadEntries disk opened, .stays) := by
        simp [handleBrowserKey, struck, navigateParent, upper, opened]
      obtain ⟨later, after, selected⟩ := ih (reloadEntries disk opened)
        (reloaded_revealed opened revealed.mode_ revealed.uncovered revealed.unfiltered)
        (reloadEntries_currentDir disk opened) wanted
      exact ⟨struck .left :: later, after, (drive_stays _ _ _ _ _ entered).trans selected⟩

/-- Whatever a browser has been through, once the disk stays as it is keys bring it to any file
that listings lead to, hidden or filtered out as it may be, and as a directory browser to any
directory. -/
theorem browser_complete {disks : List Disk} {state : FileBrowserState}
    (browsed : Browsed mode target disks state) (path : Path)
    (reaches : Reaches disk state.currentDir path (decide (mode = .directory))) :
    ∃ keys after, drive state (onDisk disk keys) = (after, .selects path) := by
  obtain ⟨keys, between, driven, revealed, current⟩ :=
    @drive_revealed disk mode target disks state (browsed_kept browsed)
  obtain ⟨later, after, selected⟩ := revealed_selects reaches between revealed current rfl
  refine ⟨keys ++ later, after, ?_⟩
  rw [onDisk_append, drive_append _ _ _ _ driven, selected]

theorem shelf_reaches : Reaches shelf (ofText "d") (ofText "d/e/.n") false := by
  have outer : dirEntries shelf (ofText "d") = .ok [⟨['e'], some true⟩] := rfl
  have inner : dirEntries shelf (ofText "d/e") = .ok [⟨['.', 'n'], some false⟩] := rfl
  have listed : Reaches shelf (ofText "d/e") (ofText "d/e/.n") false :=
    .listed inner (List.mem_singleton_self _) rfl
  exact .down outer (List.mem_singleton_self _) rfl listed

theorem browser_complete_shelf :
    ∃ keys after,
      drive (FileBrowserState.new shelf .file .unlockInput (some (ofText "d")))
        (onDisk shelf keys) = (after, .selects (ofText "d/e/.n")) :=
  browser_complete (.opened shelf (some (ofText "d"))) _ shelf_reaches

end Complete

/-! A file name alone, typed into the field a browser starts from. -/

/-- A browser in the directory with the empty name, which no system lists. -/
structure Stranded (state : FileBrowserState) : Prop where
  current : state.currentDir = [[]]
  empty : state.entries = []
  told : state.error = some (describeIo .notFound)

section Stranding
variable {disk : Disk}

theorem reloaded_stranded (state : FileBrowserState) (refused : disk.readDir [[]] = .error .notFound)
    (current : state.currentDir = [[]]) : Stranded (reloadEntries disk state) := by
  have failed : readBrowserEntries disk state.currentDir state.mode state.fileFilter
      state.showHidden = .error .notFound := by
    rw [current, readBrowserEntries, dirEntries, refused]
    rfl
  rw [reloadEntries, failed]
  exact ⟨current, rfl, rfl⟩

theorem toggleFileFilter_stranded (state : FileBrowserState)
    (refused : disk.readDir [[]] = .error .notFound) (stranded : Stranded state) :
    Stranded (toggleFileFilter disk state) := by
  unfold toggleFileFilter
  split
  · exact reloaded_stranded _ refused stranded.current
  · exact stranded

theorem handleBrowserKey_stranded (state : FileBrowserState) (key : KeyEvent)
    (refused : disk.readDir [[]] = .error .notFound) (stranded : Stranded state) :
    Stranded (handleBrowserKey disk state key).1 := by
  have still : moveUp state = state ∧ moveDown state = state := by
    simp [moveUp, moveDown, stranded.empty]
  have nothing : selectedEntry state = none := by
    rw [selectedEntry, stranded.empty]
    rfl
  have noParent : parent state.currentDir = none := by
    rw [stranded.current]
    rfl
  have held : navigateParent disk state = state ∧ navigateSelected disk state = state := by
    simp [navigateParent, navigateSelected, nothing, noParent]
  unfold handleBrowserKey
  split
  · exact stranded
  · rwa [still.1]
  · rwa [still.1]
  · rwa [still.2]
  · rwa [still.2]
  · rwa [held.1]
  · rwa [held.2]
  · exact reloaded_stranded _ refused stranded.current
  · split
    · exact toggleFileFilter_stranded state refused stranded
    · exact stranded
  · split <;> exact stranded
  · rw [nothing]
    exact stranded
  · exact stranded

theorem stranded_selects (state after : FileBrowserState) (key : KeyEvent) (path : Path)
    (stranded : Stranded state)
    (selected : handleBrowserKey disk state key = (after, .selects path)) :
    state.mode = .directory ∧ path = [[]] := by
  rcases handleBrowserKey_selects disk state after key path selected with
    ⟨directories, current⟩ | ⟨entry, listed, _⟩
  · exact ⟨directories, current.trans stranded.current⟩
  · rw [stranded.empty] at listed
    cases listed

theorem drive_stranded (steps : List (Disk × KeyEvent)) (state after : FileBrowserState)
    (outcome : Outcome) (refused : ∀ step ∈ steps, step.1.readDir [[]] = .error .notFound)
    (stranded : Stranded state) (driven : drive state steps = (after, outcome)) :
    Stranded after ∧ after.mode = state.mode ∧
      ∀ path, outcome = .selects path → state.mode = .directory ∧ path = [[]] := by
  induction steps generalizing state with
  | nil =>
      cases driven
      exact ⟨stranded, rfl, fun _ selected => by cases selected⟩
  | cons step later ih =>
      obtain ⟨disk, key⟩ := step
      have here : disk.readDir [[]] = .error .notFound := refused _ List.mem_cons_self
      cases pressed : handleBrowserKey disk state key with
      | mk between first =>
          have held := handleBrowserKey_stranded state key here stranded
          have turned := handleBrowserKey_turned disk state key
          rw [pressed] at held turned
          have mode_ : between.mode = state.mode := by
            cases turned with
            | moved index inside => rfl
            | listed dir fileFilter showHidden changes => exact reloadEntries_mode _ _
          rw [drive, pressed] at driven
          cases first with
          | stays =>
              have after_ := ih between (fun step member =>
                refused step (List.mem_cons_of_mem _ member)) held driven
              rwa [mode_] at after_
          | closes =>
              cases driven
              exact ⟨held, mode_, fun _ selected => by cases selected⟩
          | selects path =>
              cases driven
              refine ⟨held, mode_, ?_⟩
              rintro _ ⟨⟩
              exact stranded_selects state _ key path stranded pressed

theorem parent_single (name : Name) (named : name ≠ []) : parent [name] = some [[]] := by
  by_cases dot : name = ['.']
  · rw [dot]
    rfl
  · have start : lead [name] = .bare := by
      unfold lead
      split <;> simp_all
    have later : body [name] = [name] := by
      unfold body
      split <;> simp_all
    have spoken : silent name = false := by
      unfold silent bodyComponent
      split <;> simp_all
    simp [parent, start, later, popBody, spoken, rebuild]

/-- Opened where its field holds one name that is no directory, a browser shows nothing but an
error. No key leads it anywhere else, whatever it is pressed: it never selects a file, and as a
directory browser selects the empty path only. -/
theorem bare_name_strands (mode : BrowserMode) (target : BrowserTarget) (name : Name)
    (named : name ≠ []) (noDirectory : disk.isDir [name] = false)
    (refused : disk.readDir [[]] = .error .notFound) (steps : List (Disk × KeyEvent))
    (alwaysRefused : ∀ step ∈ steps, step.1.readDir [[]] = .error .notFound)
    (after : FileBrowserState) (outcome : Outcome)
    (driven : drive (FileBrowserState.new disk mode target (some [name])) steps =
      (after, outcome)) :
    Stranded after ∧ ∀ path, outcome = .selects path → mode = .directory ∧ path = [[]] := by
  have startDir : resolveBrowseStartDir disk [name] = some [[]] := by
    simp [resolveBrowseStartDir, named, noDirectory, parent_single name named]
  have opened : Stranded (FileBrowserState.new disk mode target (some [name])) := by
    unfold FileBrowserState.new
    refine reloaded_stranded _ refused ?_
    rw [Option.bind_some, startDir]
    rfl
  obtain ⟨stranded, _, selects⟩ := drive_stranded steps _ after outcome alwaysRefused opened driven
  refine ⟨stranded, ?_⟩
  intro path selected
  obtain ⟨directories, empty⟩ := selects path selected
  have kept : Kept mode target [disk] _ := new_kept disk (some [name])
  exact ⟨kept.mode_.symm.trans directories, empty⟩

def strandedRun : FileBrowserState × Outcome :=
  drive (FileBrowserState.new shelf .directory .unlockOutputDir (some [['n']]))
    (onDisk shelf [struck .left, struck (.char 'h'), struck (.char 's')])

theorem bare_name_strands_shelf : Stranded strandedRun.1 ∧ strandedRun.2 = .selects [[]] := by
  refine ⟨(@bare_name_strands shelf .directory .unlockOutputDir ['n'] (by simp) rfl rfl
    (onDisk shelf [struck .left, struck (.char 'h'), struck (.char 's')]) ?_ strandedRun.1
    strandedRun.2 rfl).1, rfl⟩
  intro step member
  obtain ⟨key, _, rfl⟩ := List.mem_map.mp member
  rfl

end Stranding

end Browser
