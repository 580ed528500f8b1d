import Timelocked.ByteCodec
import Timelocked.PathText

/-!
A directory tree without links, and the calls a process makes on it. A location
is the list of names from a node up to the root, so that `..` is `List.tail`.
A path is walked segment by segment: every segment but the last must lead
through a directory, which is why `missing/../file` does not resolve.
-/
namespace FileTree
open ByteCodec PathText

abbrev Location := List Name

def proper (name : Name) : Bool :=
  name ≠ [] && name ≠ ['.'] && name ≠ ['.', '.'] && !name.contains '/' &&
    !name.contains '\x00' && (asBytes (String.ofList name)).length ≤ 255

structure Tree where
  dirs : Location → Bool
  files : Location → Option Bytes
  root : dirs [] = true
  dirParent : ∀ name location, dirs (name :: location) = true →
    proper name = true ∧ dirs location = true
  fileParent : ∀ name location, files (name :: location) ≠ none →
    proper name = true ∧ dirs location = true
  fileNotDir : ∀ location, files location ≠ none → dirs location = false

inductive IoErrorKind where
  | notFound
  | notADirectory
  | isADirectory
  | alreadyExists
  | invalidFilename
  | resourceBusy
  | unexpectedEof
  | other
  deriving DecidableEq, Repr

namespace Tree

def bare : Tree where
  dirs location := location = []
  files _ := none
  root := rfl
  dirParent _ _ there := by simp at there
  fileParent _ _ there := by simp at there
  fileNotDir _ there := by simp at there

def present (tree : Tree) (location : Location) : Bool :=
  tree.dirs location || (tree.files location).isSome

/-- One segment of a walk. The node it leaves must be a directory. -/
def enter (tree : Tree) (location : Location) (segment : Name) : Except IoErrorKind Location :=
  if tree.dirs location then
    match segment with
    | [] => .ok location
    | ['.'] => .ok location
    | ['.', '.'] => .ok location.tail
    | name => if tree.present (name :: location) then .ok (name :: location) else .error .notFound
  else .error .notADirectory

def walk (tree : Tree) : Location → List Name → Except IoErrorKind Location
  | location, [] => .ok location
  | location, segment :: rest =>
      match tree.enter location segment with
      | .ok next => walk tree next rest
      | .error kind => .error kind

def start (cwd : Location) : Path → Location × List Name
  | [] :: segment :: rest => ([], segment :: rest)
  | segments => (cwd, segments)

def resolve (tree : Tree) (cwd : Location) (path : Path) : Except IoErrorKind Location :=
  if path = [[]] then .error .notFound
  else tree.walk (start cwd path).1 (start cwd path).2

def pathExists (tree : Tree) (cwd : Location) (path : Path) : Bool :=
  (tree.resolve cwd path).toBool

def isDir (tree : Tree) (cwd : Location) (path : Path) : Bool :=
  match tree.resolve cwd path with
  | .ok location => tree.dirs location
  | .error _ => false

def readFile (tree : Tree) (cwd : Location) (path : Path) : Except IoErrorKind Bytes :=
  match tree.resolve cwd path with
  | .ok location =>
      match tree.files location with
      | some contents => .ok contents
      | none => .error .isADirectory
  | .error kind => .error kind

/-- The directory a new entry goes to, and the name it gets there. -/
def place (tree : Tree) (cwd : Location) (path : Path) : Except IoErrorKind (Location × Name) :=
  let (from_, segments) := start cwd path
  match segments.getLast? with
  | none => .error .notFound
  | some name =>
      match tree.walk from_ segments.dropLast with
      | .error kind => .error kind
      | .ok location =>
          if tree.dirs location then
            if proper name then .ok (location, name) else .error .invalidFilename
          else .error .notADirectory

def addDir (tree : Tree) (name : Name) (location : Location) (named : proper name = true)
    (above : tree.dirs location = true) (free : tree.files (name :: location) = none) : Tree where
  dirs := Function.update tree.dirs (name :: location) true
  files := tree.files
  root := by simp [Function.update, tree.root]
  dirParent := by
    intro other up there
    by_cases same : other :: up = name :: location
    · obtain ⟨rfl, rfl⟩ := List.cons.inj same
      exact ⟨named, by simpa [Function.update] using above⟩
    · rw [Function.update_of_ne same] at there
      obtain ⟨otherNamed, upper⟩ := tree.dirParent other up there
      refine ⟨otherNamed, ?_⟩
      by_cases here : up = name :: location
      · rw [here, Function.update_self]
      · rw [Function.update_of_ne here]
        exact upper
  fileParent := by
    intro other up there
    obtain ⟨otherNamed, upper⟩ := tree.fileParent other up there
    refine ⟨otherNamed, ?_⟩
    by_cases here : up = name :: location
    · rw [here, Function.update_self]
    · rw [Function.update_of_ne here]
      exact upper
  fileNotDir := by
    intro other there
    have different : other ≠ name :: location := by
      rintro rfl
      exact there free
    rw [Function.update_of_ne different]
    exact tree.fileNotDir other there

def insert (tree : Tree) (name : Name) (location : Location) (contents : Bytes)
    (named : proper name = true) (above : tree.dirs location = true)
    (notDir : tree.dirs (name :: location) = false) : Tree where
  dirs := tree.dirs
  files := Function.update tree.files (name :: location) (some contents)
  root := tree.root
  dirParent := tree.dirParent
  fileParent := by
    intro other up there
    by_cases same : other :: up = name :: location
    · obtain ⟨rfl, rfl⟩ := List.cons.inj same
      exact ⟨named, above⟩
    · rw [Function.update_of_ne same] at there
      exact tree.fileParent other up there
  fileNotDir := by
    intro other there
    by_cases same : other = name :: location
    · rw [same]
      exact notDir
    · rw [Function.update_of_ne same] at there
      exact tree.fileNotDir other there

/-! Where a walk ends does not depend on the tree it succeeds in. -/

def move (location : Location) (segment : Name) : Location :=
  match segment with
  | [] => location
  | ['.'] => location
  | ['.', '.'] => location.tail
  | name => name :: location

/-- The location a path names when every directory on the way is there. -/
def lexical (cwd : Location) (path : Path) : Location :=
  (start cwd path).2.foldl move (start cwd path).1

theorem enter_eq_ok (tree : Tree) (location next : Location) (segment : Name)
    (entered : tree.enter location segment = .ok next) :
    tree.dirs location = true ∧ next = move location segment := by
  unfold enter at entered
  split at entered
  · rename_i here
    refine ⟨here, ?_⟩
    unfold move
    split at entered
    · exact (Except.ok.inj entered).symm
    · exact (Except.ok.inj entered).symm
    · exact (Except.ok.inj entered).symm
    · split at entered
      · exact (Except.ok.inj entered).symm
      · cases entered
  · cases entered

theorem walk_eq_ok (tree : Tree) (segments : List Name) (location last : Location)
    (walked : tree.walk location segments = .ok last) :
    last = segments.foldl move location := by
  induction segments generalizing location with
  | nil => exact (Except.ok.inj walked).symm
  | cons segment rest ih =>
      rw [walk] at walked
      split at walked
      · rename_i next entered
        rw [List.foldl_cons, ← (enter_eq_ok tree location next segment entered).2]
        exact ih next walked
      · cases walked

theorem place_eq_ok (tree : Tree) (cwd location : Location) (path : Path) (name : Name)
    (placed : tree.place cwd path = .ok (location, name)) :
    name :: location = lexical cwd path ∧ proper name = true ∧ tree.dirs location = true := by
  unfold place at placed
  dsimp only at placed
  split at placed
  · cases placed
  · rename_i last ends
    split at placed
    · cases placed
    · rename_i front walked
      split at placed
      · rename_i above
        split at placed
        · rename_i named
          obtain ⟨rfl, rfl⟩ := Prod.mk.inj (Except.ok.inj placed)
          refine ⟨?_, named, above⟩
          have split : (start cwd path).2 = (start cwd path).2.dropLast ++ [last] := by
            obtain ⟨before, whole⟩ := List.getLast?_eq_some_iff.mp ends
            rw [whole, List.dropLast_concat]
          have moved : move front last = last :: front := by
            unfold move
            split
            · exact absurd named (by decide)
            · exact absurd named (by decide)
            · exact absurd named (by decide)
            · rfl
          rw [lexical, split, List.foldl_append, List.foldl_cons, List.foldl_nil,
            ← walk_eq_ok tree _ _ front walked, moved]
        · cases placed
      · cases placed

/-- `mkdir`; a trailing separator is allowed. -/
def mkdir (tree : Tree) (cwd : Location) (path : Path) : Except IoErrorKind Tree :=
  if tree.pathExists cwd path then .error .alreadyExists
  else
    match placed : tree.place cwd (path.reverse.dropWhile (· = [])).reverse with
    | .error kind => .error kind
    | .ok (location, name) =>
        if taken : tree.present (name :: location) then .error .alreadyExists
        else .ok (tree.addDir name location (place_eq_ok tree cwd location _ name placed).2.1
          (place_eq_ok tree cwd location _ name placed).2.2
          (by simp only [present, Bool.or_eq_true, not_or] at taken; simpa using taken.2))

/-- `fs::create_dir_all`: on a missing parent, the parent first. Every round
drops a component, so `fuel` above their number is never used up. -/
def createDirAll (cwd : Location) : Nat → Path → Tree → Except IoErrorKind Unit × Tree
  | 0, _, tree => (.error .other, tree)
  | fuel + 1, path, tree =>
      if components path = [] then (.ok (), tree)
      else
        match tree.mkdir cwd path with
        | .ok made => (.ok (), made)
        | .error .notFound =>
            match parent path with
            | none => (.error .other, tree)
            | some up =>
                match createDirAll cwd fuel up tree with
                | (.error kind, left) => (.error kind, left)
                | (.ok _, above) =>
                    match above.mkdir cwd path with
                    | .ok made => (.ok (), made)
                    | .error kind =>
                        if above.isDir cwd path then (.ok (), above) else (.error kind, above)
        | .error kind => if tree.isDir cwd path then (.ok (), tree) else (.error kind, tree)

/-- Why a path is no target to rename a file onto. Trailing separators count
only once the directory they stand in is found. -/
def refusal (tree : Tree) (cwd : Location) (path : Path) : IoErrorKind :=
  let trimmed := (path.reverse.dropWhile (· = [])).reverse
  match trimmed.getLast? with
  | none => if path = [[]] then .notFound else .resourceBusy
  | some name =>
      match tree.walk (start cwd trimmed).1 (start cwd trimmed).2.dropLast with
      | .error kind => kind
      | .ok location =>
          if tree.dirs location = false then .notADirectory
          else if name = ['.'] ∨ name = ['.', '.'] then .resourceBusy
          else if proper name then .notADirectory
          else .invalidFilename

/-- Renaming a finished temporary file onto its target: a file there is
replaced, a directory is not. -/
def persist (tree : Tree) (cwd : Location) (path : Path) (contents : Bytes) :
    Except IoErrorKind Tree :=
  match placed : tree.place cwd path with
  | .error _ => .error (tree.refusal cwd path)
  | .ok (location, name) =>
      if isDir : tree.dirs (name :: location) then .error .isADirectory
      else .ok (tree.insert name location contents
        (place_eq_ok tree cwd location path name placed).2.1
        (place_eq_ok tree cwd location path name placed).2.2 (by simpa using isDir))

def holdsTemp (tree : Tree) (cwd : Location) (dir : Path) : Except IoErrorKind Unit :=
  match tree.walk (start cwd dir).1 (start cwd dir).2 with
  | .ok location => if tree.dirs location then .ok () else .error .notADirectory
  | .error kind => .error kind

theorem persist_eq_ok (tree tree' : Tree) (cwd : Location) (path : Path) (contents : Bytes)
    (persisted : tree.persist cwd path contents = .ok tree') :
    tree'.files = Function.update tree.files (lexical cwd path) (some contents) ∧
      tree'.dirs = tree.dirs := by
  unfold persist at persisted
  split at persisted
  · cases persisted
  · rename_i location name placed
    split at persisted
    · cases persisted
    · obtain rfl := Except.ok.inj persisted
      rw [← (place_eq_ok tree cwd location path name placed).1]
      exact ⟨rfl, rfl⟩

/-- What making directories may do: files stay, directories stay. -/
def Grown (before after : Tree) : Prop :=
  after.files = before.files ∧ ∀ location, before.dirs location = true → after.dirs location = true

theorem grown_refl (tree : Tree) : Grown tree tree := ⟨rfl, fun _ there => there⟩

theorem grown_trans (a b c : Tree) (first : Grown a b) (second : Grown b c) : Grown a c :=
  ⟨second.1.trans first.1, fun location there => second.2 location (first.2 location there)⟩

theorem mkdir_grown (tree tree' : Tree) (cwd : Location) (path : Path)
    (made : tree.mkdir cwd path = .ok tree') : Grown tree tree' := by
  unfold mkdir at made
  split at made
  · cases made
  · split at made
    · cases made
    · rename_i location name placed
      split at made
      · cases made
      · obtain rfl := Except.ok.inj made
        refine ⟨rfl, fun other there => ?_⟩
        by_cases same : other = name :: location
        · simp [addDir, same]
        · simpa [addDir, Function.update_of_ne same] using there

theorem createDirAll_grown (cwd : Location) (fuel : Nat) (path : Path) (tree : Tree) :
    Grown tree (createDirAll cwd fuel path tree).2 := by
  induction fuel generalizing path tree with
  | zero => exact grown_refl tree
  | succ fuel ih =>
      unfold createDirAll
      split
      · exact grown_refl tree
      · split
        · rename_i made success
          exact mkdir_grown tree made cwd path success
        · split
          · exact grown_refl tree
          · rename_i up _
            have above := ih up tree
            split
            · rename_i left outcome
              rw [outcome] at above
              exact above
            · rename_i left outcome
              rw [outcome] at above
              split
              · rename_i made success
                exact grown_trans _ _ _ above (mkdir_grown left made cwd path success)
              · split <;> exact above
        · split <;> exact grown_refl tree

/-- Nothing happens where the directory is already there. -/
theorem createDirAll_isDir (cwd : Location) (fuel : Nat) (path : Path) (tree : Tree)
    (there : tree.isDir cwd path = true) :
    createDirAll cwd (fuel + 1) path tree = (.ok (), tree) := by
  have exists_ : tree.pathExists cwd path = true := by
    unfold isDir at there
    unfold pathExists
    split at there
    · rename_i location resolved
      rw [resolved]
      rfl
    · cases there
  have taken : tree.mkdir cwd path = .error .alreadyExists := by
    unfold mkdir
    rw [if_pos exists_]
  unfold createDirAll
  split
  · rfl
  · simp only [taken]

/-- What is there stays there, though a file may hold something else. -/
structure Extends (before after : Tree) : Prop where
  dirs : ∀ location, before.dirs location = true → after.dirs location = true
  present : ∀ location, before.present location = true → after.present location = true

theorem grown_extends (before after : Tree) (grown : Grown before after) :
    Extends before after := by
  refine ⟨grown.2, fun location there => ?_⟩
  unfold present at there ⊢
  rw [grown.1]
  rcases Bool.or_eq_true _ _ |>.mp there with dir | file
  · rw [grown.2 location dir, Bool.true_or]
  · rw [file, Bool.or_true]

theorem enter_extends (before after : Tree) (extended : Extends before after)
    (location next : Location) (segment : Name)
    (entered : before.enter location segment = .ok next) :
    after.enter location segment = .ok next := by
  have here := extended.dirs location (enter_eq_ok before location next segment entered).1
  unfold enter at entered ⊢
  rw [if_pos here]
  split at entered
  · split at entered
    · exact entered
    · exact entered
    · exact entered
    · split at entered
      · rename_i there
        rw [extended.present _ there]
        exact entered
      · cases entered
  · cases entered

theorem walk_extends (before after : Tree) (extended : Extends before after)
    (segments : List Name) (location last : Location)
    (walked : before.walk location segments = .ok last) :
    after.walk location segments = .ok last := by
  induction segments generalizing location with
  | nil => exact walked
  | cons segment rest ih =>
      rw [walk] at walked ⊢
      split at walked
      · rename_i next entered
        rw [enter_extends before after extended location next segment entered]
        exact ih next walked
      · cases walked

theorem resolve_extends (before after : Tree) (extended : Extends before after)
    (cwd location : Location) (path : Path) (resolved : before.resolve cwd path = .ok location) :
    after.resolve cwd path = .ok location := by
  unfold resolve at resolved ⊢
  split at resolved
  · cases resolved
  · rename_i named
    rw [if_neg named]
    exact walk_extends before after extended _ _ _ resolved

theorem readFile_grown (before after : Tree) (grown : Grown before after) (cwd : Location)
    (path : Path) (contents : Bytes) (read : before.readFile cwd path = .ok contents) :
    after.readFile cwd path = .ok contents := by
  unfold readFile at read ⊢
  split at read
  · rename_i location resolved
    rw [resolve_extends before after (grown_extends before after grown) cwd location path resolved]
    dsimp only
    rw [grown.1]
    exact read
  · cases read

theorem walk_append (tree : Tree) (front later : List Name) (location : Location) :
    tree.walk location (front ++ later) =
      match tree.walk location front with
      | .ok next => tree.walk next later
      | .error kind => .error kind := by
  induction front generalizing location with
  | nil => rfl
  | cons segment rest ih =>
      rw [List.cons_append, walk, walk]
      cases tree.enter location segment with
      | ok next => exact ih next
      | error kind => rfl

theorem start_bare (cwd : Location) (path : Path) (loud : path.head? ≠ some []) :
    start cwd path = (cwd, path) := by
  unfold start
  split
  · exact absurd rfl loud
  · rfl

/-- A sibling's walk takes the same steps up to its own name. -/
theorem start_withFileName (cwd : Location) (path : Path) (wanted name : Name)
    (named : PathText.fileName path = some wanted) (long : name ≠ []) :
    ∃ origin front later, later ≠ [] ∧ start cwd path = (origin, front ++ later) ∧
      start cwd (withFileName path name) = (origin, front ++ [name]) := by
  obtain ⟨rest, later, more, whole, plain, beside⟩ :=
    withFileName_segments path wanted name named
  rw [beside]
  -- The first segment decides where a walk starts: the root, `.`, or the directory itself.
  cases starts : lead path with
  | root =>
      refine ⟨[], rest, later, more, ?_, ?_⟩
      · unfold lead at starts
        split at starts
        · rw [← whole]
          rfl
        · cases starts
        · cases starts
      · dsimp only
        cases rest <;> rfl
  | here =>
      refine ⟨cwd, ['.'] :: rest, later, more, ?_, rfl⟩
      unfold lead at starts
      split at starts
      · cases starts
      · rw [List.cons_append, ← whole]
        rfl
      · cases starts
  | bare =>
      have spoken : path ≠ [[]] := by
        rintro rfl
        cases named
      obtain ⟨⟨loud, _⟩, same⟩ := lead_bare_body path starts spoken
      rw [same] at whole loud
      refine ⟨cwd, rest, later, more, ?_, ?_⟩
      · rw [← whole]
        exact start_bare cwd path loud
      · apply start_bare cwd (rest ++ [name])
        cases rest with
        | nil => simpa using long
        | cons segment tail => exact (plain starts).1

/-- A path that exists lies in a directory, and so does its sibling. -/
theorem beside_exists (tree : Tree) (cwd : Location) (path : Path) (wanted name : Name)
    (named : PathText.fileName path = some wanted) (some_ : name ≠ [])
    (there : tree.pathExists cwd path = true) :
    ∃ origin front location, start cwd (withFileName path name) = (origin, front ++ [name]) ∧
      tree.walk origin front = .ok location ∧ tree.dirs location = true := by
  obtain ⟨origin, front, later, more, from_, beside⟩ :=
    start_withFileName cwd path wanted name named some_
  refine ⟨origin, front, ?_⟩
  unfold pathExists resolve at there
  split at there
  · cases there
  · rw [from_] at there
    -- The walk to the path passes through the directory its sibling would be put in.
    dsimp only at there
    rw [walk_append] at there
    cases walked : tree.walk origin front with
    | error kind =>
        rw [walked] at there
        cases there
    | ok location =>
        rw [walked] at there
        obtain ⟨segment, rest, rfl⟩ := List.exists_cons_of_ne_nil more
        dsimp only at there
        rw [walk] at there
        cases entered : tree.enter location segment with
        | error kind =>
            rw [entered] at there
            cases there
        | ok next =>
            exact ⟨location, beside, rfl, (enter_eq_ok tree location next segment entered).1⟩

theorem enter_regular (tree : Tree) (location : Location) (name : Name)
    (named : bodyComponent name = some (.normal name)) (above : tree.dirs location = true) :
    tree.enter location name =
      if tree.present (name :: location) then .ok (name :: location) else .error .notFound := by
  unfold enter
  rw [if_pos above]
  split
  · cases named
  · cases named
  · cases named
  · rfl

theorem move_regular (location : Location) (name : Name)
    (named : bodyComponent name = some (.normal name)) : move location name = name :: location := by
  unfold move
  split
  · cases named
  · cases named
  · cases named
  · rfl

/-- Where the last step of a walk leads, and whether anything is there. -/
theorem last_step (tree : Tree) (cwd origin location : Location) (path front : Path) (name : Name)
    (named : bodyComponent name = some (.normal name))
    (segments : start cwd path = (origin, front ++ [name]))
    (walked : tree.walk origin front = .ok location) (above : tree.dirs location = true) :
    lexical cwd path = name :: location ∧
      tree.pathExists cwd path = tree.present (name :: location) := by
  constructor
  · rw [lexical, segments, List.foldl_append, ← walk_eq_ok tree front origin location walked,
      List.foldl_cons, List.foldl_nil, move_regular location name named]
  · have notEmpty : path ≠ [[]] := by
      rintro rfl
      obtain ⟨_, split⟩ := Prod.mk.inj segments
      have last := congrArg List.getLast? split
      rw [List.getLast?_concat] at last
      obtain rfl := Option.some.inj last
      cases named
    unfold pathExists resolve
    rw [if_neg notEmpty, segments]
    dsimp only
    rw [walk_append, walked]
    dsimp only
    rw [walk, enter_regular tree location name named above]
    cases tree.present (name :: location) <;> rfl

/-- Beside a path that exists, a name that does not exist is free. -/
theorem sibling_free (tree : Tree) (cwd : Location) (path : Path) (wanted name : Name)
    (named : PathText.fileName path = some wanted) (long : 2 < name.length)
    (there : tree.pathExists cwd path = true)
    (missing : tree.pathExists cwd (withFileName path name) = false) :
    tree.files (lexical cwd (withFileName path name)) = none := by
  obtain ⟨origin, front, location, beside, walked, above⟩ :=
    beside_exists tree cwd path wanted name named (by rintro rfl; cases long) there
  obtain ⟨leads, same⟩ := last_step tree cwd origin location _ front name
    (bodyComponent_long name long) beside walked above
  rw [leads]
  rw [missing] at same
  by_contra file
  unfold present at same
  rw [Option.isSome_iff_ne_none.mpr file, Bool.or_true] at same
  cases same

end Tree

namespace Tree

/-- Directories made on the way do not change what an existing path holds. -/
theorem readFile_ungrown (before after : Tree) (grown : Grown before after) (cwd : Location)
    (path : Path) (contents : Bytes) (there : before.pathExists cwd path = true)
    (read : after.readFile cwd path = .ok contents) : before.readFile cwd path = .ok contents := by
  unfold pathExists at there
  cases resolved : before.resolve cwd path with
  | error kind =>
      rw [resolved] at there
      cases there
  | ok location =>
      have same := resolve_extends before after (grown_extends before after grown) cwd location path
        resolved
      unfold readFile at read ⊢
      rw [same] at read
      rw [resolved]
      dsimp only at read ⊢
      rw [← grown.1]
      exact read

theorem readFile_exists (tree : Tree) (cwd : Location) (path : Path) (contents : Bytes)
    (read : tree.readFile cwd path = .ok contents) : tree.pathExists cwd path = true := by
  unfold readFile at read
  unfold pathExists
  split at read
  · rename_i location resolved
    rw [resolved]
    rfl
  · cases read

theorem start_split (cwd : Location) (path : Path) (present : path ≠ []) :
    ∃ lead front last, path = lead ++ (front ++ [last]) ∧
      (start cwd path).2 = front ++ [last] := by
  unfold start
  split
  · rename_i segment rest
    refine ⟨[[]], (segment :: rest).dropLast, (segment :: rest).getLast (by simp), ?_, ?_⟩
    · rw [List.dropLast_concat_getLast]
      rfl
    · rw [List.dropLast_concat_getLast]
  · refine ⟨[], path.dropLast, path.getLast present, ?_, ?_⟩
    · rw [List.dropLast_concat_getLast]
      rfl
    · rw [List.dropLast_concat_getLast]

/-- A path to a file ends with the file's name. -/
theorem readFile_named (tree : Tree) (cwd : Location) (path : Path) (contents : Bytes)
    (present : path ≠ []) (read : tree.readFile cwd path = .ok contents) :
    ∃ name, PathText.fileName path = some name ∧ proper name = true := by
  obtain ⟨lead, front, last, whole, segments⟩ := start_split cwd path present
  unfold readFile at read
  split at read
  · rename_i location resolved
    have file : tree.files location ≠ none := by
      intro nothing
      rw [nothing] at read
      cases read
    unfold resolve at resolved
    split at resolved
    · cases resolved
    · rw [segments, walk_append] at resolved
      split at resolved
      · rename_i above _
        rw [walk] at resolved
        split at resolved
        · rename_i next entered
          obtain rfl := Except.ok.inj resolved
          have notDir := tree.fileNotDir _ file
          obtain ⟨here, moved⟩ := enter_eq_ok tree above next last entered
          -- The last step went down: any other step ends in a directory, which holds no contents.
          have named : bodyComponent last = some (.normal last) ∧ next = last :: above := by
            rw [moved] at notDir ⊢
            unfold move at notDir ⊢
            split at notDir
            · rw [here] at notDir
              cases notDir
            · rw [here] at notDir
              cases notDir
            · cases above with
              | nil =>
                  rw [List.tail_nil, tree.root] at notDir
                  cases notDir
              | cons name up =>
                  rw [List.tail_cons, (tree.dirParent name up here).2] at notDir
                  cases notDir
            · rename_i notEmpty notDot notDots
              refine ⟨?_, rfl⟩
              unfold bodyComponent
              split <;> simp_all
          refine ⟨last, ?_, ?_⟩
          · rw [whole, ← List.append_assoc]
            exact fileName_concat _ last named.1
          · rw [named.2] at file
            exact (tree.fileParent last above file).1
        · cases resolved
      · cases resolved
  · cases read

/-- Where a new entry goes is where its path leads. -/
theorem place_walk (tree : Tree) (cwd location : Location) (path : Path) (name : Name)
    (placed : tree.place cwd path = .ok (location, name)) :
    ∃ front, (start cwd path).2 = front ++ [name] ∧
      tree.walk (start cwd path).1 front = .ok location := by
  unfold place at placed
  dsimp only at placed
  split at placed
  · cases placed
  · rename_i last ends
    split at placed
    · cases placed
    · rename_i above walked
      split at placed
      · split at placed
        · obtain ⟨rfl, rfl⟩ := Prod.mk.inj (Except.ok.inj placed)
          obtain ⟨front, whole⟩ := List.getLast?_eq_some_iff.mp ends
          rw [whole, List.dropLast_concat] at walked
          exact ⟨front, whole, walked⟩
        · cases placed
      · cases placed

theorem enter_proper (tree : Tree) (location : Location) (name : Name)
    (named : proper name = true) (above : tree.dirs location = true)
    (there : tree.present (name :: location) = true) :
    tree.enter location name = .ok (name :: location) := by
  unfold enter
  rw [if_pos above]
  split
  · cases named
  · cases named
  · exact absurd named (by decide)
  · rw [if_pos there]

theorem insert_extends (tree : Tree) (name : Name) (location : Location) (contents : Bytes)
    (named : proper name = true) (above : tree.dirs location = true)
    (notDir : tree.dirs (name :: location) = false) :
    Extends tree (tree.insert name location contents named above notDir) := by
  refine ⟨fun _ there => there, fun other there => ?_⟩
  unfold present at there ⊢
  by_cases same : other = name :: location
  · rw [same]
    simp [insert]
  · simpa [insert, Function.update_of_ne same] using there

/-- What was moved to a path is read from it. -/
theorem readFile_persisted (tree tree' : Tree) (cwd : Location) (path : Path) (contents : Bytes)
    (persisted : tree.persist cwd path contents = .ok tree') :
    tree'.readFile cwd path = .ok contents := by
  unfold persist at persisted
  split at persisted
  · cases persisted
  · rename_i location name placed
    split at persisted
    · cases persisted
    · rename_i free
      obtain rfl := Except.ok.inj persisted
      obtain ⟨_, named, above⟩ := place_eq_ok tree cwd location path name placed
      obtain ⟨front, segments, walked⟩ := place_walk tree cwd location path name placed
      have notDir : tree.dirs (name :: location) = false := by simpa using free
      have extended := insert_extends tree name location contents named above notDir
      have notEmpty : path ≠ [[]] := by
        rintro rfl
        have last := congrArg List.getLast? segments
        rw [List.getLast?_concat] at last
        obtain rfl := Option.some.inj last
        cases named
      have entered := enter_proper (tree.insert name location contents named above notDir) location
        name named above (by simp [present, insert])
      -- The new entry disturbs no walk, and the last step now finds it.
      have resolved : (tree.insert name location contents named above notDir).resolve cwd path =
          .ok (name :: location) := by
        unfold resolve
        rw [if_neg notEmpty, segments, walk_append,
          walk_extends _ _ extended _ _ _ walked]
        dsimp only
        rw [walk, entered]
        rfl
      unfold readFile
      rw [resolved]
      simp [insert]

theorem walk_empties (tree : Tree) (location : Location) (there : tree.dirs location = true)
    (segments : List Name) (empties : ∀ segment ∈ segments, segment = []) :
    tree.walk location segments = .ok location := by
  induction segments with
  | nil => rfl
  | cons segment rest ih =>
      obtain rfl := empties segment (by simp)
      have entered : tree.enter location [] = .ok location := by
        unfold enter
        rw [if_pos there]
      rw [walk, entered]
      exact ih fun other member => empties other (by simp [member])

/-- A trailing separator does not change where a walk starts. -/
theorem start_append (cwd : Location) (front later : List Name) (name : Name) (loud : name ≠ []) :
    start cwd (front ++ [name] ++ later) =
      ((start cwd (front ++ [name])).1, (start cwd (front ++ [name])).2 ++ later) := by
  cases front with
  | nil =>
      rw [List.nil_append, start_bare cwd [name] (by simpa using loud), start_bare]
      simpa using loud
  | cons first rest =>
      by_cases rooted : first = []
      · subst rooted
        cases rest <;> rfl
      · rw [start_bare cwd (first :: rest ++ [name]) (by simpa using rooted), start_bare]
        simpa using rooted

theorem addDir_extends (tree : Tree) (name : Name) (location : Location)
    (named : proper name = true) (above : tree.dirs location = true)
    (free : tree.files (name :: location) = none) :
    Extends tree (tree.addDir name location named above free) := by
  apply grown_extends
  refine ⟨rfl, fun other there => ?_⟩
  by_cases same : other = name :: location
  · simp [addDir, same]
  · simpa [addDir, Function.update_of_ne same] using there

theorem mkdir_isDir (tree tree' : Tree) (cwd : Location) (path : Path)
    (made : tree.mkdir cwd path = .ok tree') : tree'.isDir cwd path = true := by
  unfold mkdir at made
  split at made
  · cases made
  · split at made
    · cases made
    · rename_i location name placed
      split at made
      · cases made
      · rename_i taken
        obtain rfl := Except.ok.inj made
        obtain ⟨_, named, above⟩ := place_eq_ok tree cwd location _ name placed
        obtain ⟨front, segments, walked⟩ := place_walk tree cwd location _ name placed
        have loud : name ≠ [] := by
          rintro rfl
          cases named
        have short : (path.reverse.dropWhile (· = [])).reverse ≠ [] := by
          intro nothing
          rw [nothing] at segments
          simp [start] at segments
        obtain ⟨lead, front', last, whole, segments'⟩ := start_split cwd _ short
        have sameLast : last = name := by
          rw [segments'] at segments
          simpa using congrArg List.getLast? segments
        subst sameLast
        have empties : ∀ segment ∈ (path.reverse.takeWhile (· = [])).reverse, segment = [] := by
          intro segment member
          simpa using List.mem_takeWhile_imp (List.mem_reverse.mp member)
        -- Trailing separators are empty segments, which a walk passes over in place.
        have split : path = lead ++ front' ++ [last] ++
            (path.reverse.takeWhile (· = [])).reverse := by
          rw [List.append_assoc lead, ← whole, ← List.reverse_append, List.takeWhile_append_dropWhile,
            List.reverse_reverse]
        have started := start_append cwd (lead ++ front') (path.reverse.takeWhile (· = [])).reverse
          last loud
        rw [← split, List.append_assoc lead, ← whole, segments] at started
        have extended := addDir_extends tree last location named above
          (by simp only [present, Bool.or_eq_true, not_or] at taken; simpa using taken.2)
        have there : (tree.addDir last location named above
            (by simp only [present, Bool.or_eq_true, not_or] at taken; simpa using taken.2)).dirs
            (last :: location) = true := by
          simp [addDir]
        have entered := enter_proper _ location last named (extended.dirs _ above)
          (by simp [present, there])
        have notEmpty : path ≠ [[]] := by
          rintro rfl
          exact short rfl
        unfold isDir resolve
        rw [if_neg notEmpty, started, walk_append, walk_append,
          walk_extends _ _ extended _ _ _ walked]
        dsimp only
        rw [walk, entered]
        dsimp only [walk]
        rw [walk_empties _ _ there _ empties]
        exact there

/-- Making directories a second time changes nothing. -/
theorem createDirAll_again (cwd : Location) (fuel fuel' : Nat) (path : Path) (tree made : Tree)
    (success : createDirAll cwd fuel path tree = (.ok (), made)) :
    createDirAll cwd (fuel' + 1) path made = (.ok (), made) := by
  cases fuel with
  | zero => cases success
  | succ fuel =>
      by_cases empty : components path = []
      · unfold createDirAll
        rw [if_pos empty]
      · apply createDirAll_isDir
        unfold createDirAll at success
        rw [if_neg empty] at success
        split at success
        · rename_i made' once
          obtain ⟨_, rfl⟩ := Prod.mk.inj success
          exact mkdir_isDir tree made' cwd path once
        · -- The first call failed for want of a parent: it was made, then the directory.
          split at success
          · cases success
          · split at success
            · cases success
            · rename_i left _
              split at success
              · rename_i made' once
                obtain ⟨_, rfl⟩ := Prod.mk.inj success
                exact mkdir_isDir left made' cwd path once
              · split at success
                · rename_i there
                  obtain ⟨_, rfl⟩ := Prod.mk.inj success
                  exact there
                · cases success
        · split at success
          · rename_i there
            obtain ⟨_, rfl⟩ := Prod.mk.inj success
            exact there
          · cases success

/-- A directory on the way of a walk is there for the path that ends in it. -/
theorem walk_front (tree : Tree) (origin location : Location) (front later : List Name)
    (walked : tree.walk origin (front ++ later) = .ok location)
    (above : tree.dirs location = true) :
    ∃ between, tree.walk origin front = .ok between ∧ tree.dirs between = true := by
  rw [walk_append] at walked
  cases first : tree.walk origin front with
  | error kind =>
      rw [first] at walked
      cases walked
  | ok between =>
      refine ⟨between, rfl, ?_⟩
      rw [first] at walked
      cases later with
      | nil =>
          obtain rfl := Except.ok.inj walked
          exact above
      | cons segment rest =>
          dsimp only at walked
          rw [walk] at walked
          cases entered : tree.enter between segment with
          | error kind =>
              rw [entered] at walked
              cases walked
          | ok next => exact (enter_eq_ok tree between next segment entered).1

theorem dir_ready (tree : Tree) (cwd between : Location) (up : Path)
    (walked : tree.walk (start cwd up).1 (start cwd up).2 = .ok between)
    (there : tree.dirs between = true) :
    (∀ fuel, createDirAll cwd (fuel + 1) up tree = (.ok (), tree)) ∧
      tree.holdsTemp cwd up = .ok () := by
  constructor
  · intro fuel
    by_cases empty : up = [[]]
    · rw [empty]
      rfl
    · refine createDirAll_isDir cwd fuel up tree ?_
      unfold isDir resolve
      rw [if_neg empty, walked]
      exact there
  · unfold holdsTemp
    rw [walked]
    dsimp only
    rw [if_pos there]

theorem append_split (front rest later : List Name) (name : Name) (more : later ≠ [])
    (same : rest ++ later = front ++ [name]) : ∃ between, front = rest ++ between := by
  have last := List.dropLast_concat_getLast more
  rw [← last, ← List.append_assoc] at same
  exact ⟨later.dropLast, (List.append_inj_left' same rfl).symm⟩

/-- A path whose walk leads through a directory to its last name has a parent
that needs no making and takes a temporary file. -/
theorem parent_ready (tree : Tree) (cwd origin location : Location) (path front : Path)
    (name wanted : Name) (named : PathText.fileName path = some wanted)
    (segments : start cwd path = (origin, front ++ [name]))
    (walked : tree.walk origin front = .ok location) (above : tree.dirs location = true) :
    ∃ up, parent path = some up ∧ (∀ fuel, createDirAll cwd (fuel + 1) up tree = (.ok (), tree)) ∧
      tree.holdsTemp cwd up = .ok () := by
  obtain ⟨rest, later, more, _, whole, plain, up⟩ := parent_segments path wanted named
  refine ⟨_, up, ?_⟩
  -- The cases of `parent_segments`: what is left of the path names the same directory.
  cases starts : lead path with
  | root =>
      have from_ : start cwd path = ([], body path) := by
        unfold lead at starts
        split at starts
        · rfl
        · cases starts
        · cases starts
      rw [segments, whole] at from_
      obtain ⟨rfl, same⟩ := Prod.mk.inj from_
      obtain ⟨between, rfl⟩ := append_split front rest later name more same.symm
      obtain ⟨there, reached, dir⟩ := walk_front tree [] location rest between walked above
      cases rest with
      | nil =>
          refine dir_ready tree cwd [] [[], []] ?_ tree.root
          simp [start, walk, enter, tree.root]
      | cons segment tail => exact dir_ready tree cwd there ([] :: segment :: tail) reached dir
  | here =>
      have from_ : start cwd path = (cwd, ['.'] :: body path) := by
        unfold lead at starts
        split at starts
        · cases starts
        · rfl
        · cases starts
      rw [segments, whole, ← List.cons_append] at from_
      obtain ⟨rfl, same⟩ := Prod.mk.inj from_
      obtain ⟨between, rfl⟩ := append_split front (['.'] :: rest) later name more same.symm
      obtain ⟨there, reached, dir⟩ := walk_front tree origin location _ between walked above
      cases rest with
      | nil => exact dir_ready tree origin there [['.']] reached dir
      | cons segment tail => exact dir_ready tree origin there _ reached dir
  | bare =>
      have spoken : path ≠ [[]] := by
        rintro rfl
        cases named
      obtain ⟨⟨loud, _⟩, same⟩ := lead_bare_body path starts spoken
      rw [same] at loud whole
      rw [start_bare cwd path loud, whole] at segments
      obtain ⟨rfl, same'⟩ := Prod.mk.inj segments
      obtain ⟨between, rfl⟩ := append_split front rest later name more same'
      obtain ⟨there, reached, dir⟩ := walk_front tree cwd location rest between walked above
      cases rest with
      | nil =>
          obtain rfl := Except.ok.inj reached
          refine dir_ready tree cwd cwd [[]] ?_ dir
          simp [start, walk, enter, dir]
      | cons segment tail =>
          refine dir_ready tree cwd there (segment :: tail) ?_ dir
          rw [start_bare cwd (segment :: tail) (plain starts).1]
          exact reached

theorem proper_regular (name : Name) (named : proper name = true) :
    bodyComponent name = some (.normal name) := by
  unfold bodyComponent
  split
  · cases named
  · cases named
  · exact absurd named (by decide)
  · rfl

/-- A proper name that is not there can be moved to. -/
theorem persist_free (tree : Tree) (cwd origin location : Location) (path front : Path)
    (name : Name) (contents : Bytes) (named : proper name = true)
    (segments : start cwd path = (origin, front ++ [name]))
    (walked : tree.walk origin front = .ok location) (above : tree.dirs location = true)
    (free : tree.pathExists cwd path = false) :
    ∃ tree', tree.persist cwd path contents = .ok tree' := by
  have there : tree.place cwd path = .ok (location, name) := by
    unfold place
    simp only [segments, List.getLast?_concat, List.dropLast_concat, walked, if_pos above,
      if_pos named]
  obtain ⟨_, same⟩ := last_step tree cwd origin location path front name
    (proper_regular name named) segments walked above
  rw [free] at same
  unfold persist
  split
  · rename_i kind refused
    rw [there] at refused
    cases refused
  · rename_i location' name' placed
    rw [there] at placed
    cases placed
    split
    · rename_i dir
      unfold present at same
      rw [dir, Bool.true_or] at same
      cases same
    · exact ⟨_, rfl⟩

/-- Beside a path that exists, a free proper name can be written: its directory
needs no making and takes a temporary file, which can be moved to the name. -/
theorem beside_ready (tree : Tree) (cwd : Location) (path : Path) (wanted name : Name)
    (named : PathText.fileName path = some wanted) (fits : proper name = true)
    (there : tree.pathExists cwd path = true)
    (free : tree.pathExists cwd (withFileName path name) = false) :
    ∃ up, parent (withFileName path name) = some up ∧
      (∀ fuel, createDirAll cwd (fuel + 1) up tree = (.ok (), tree)) ∧
      tree.holdsTemp cwd up = .ok () ∧
      ∀ contents, ∃ tree', tree.persist cwd (withFileName path name) contents = .ok tree' := by
  have some_ : name ≠ [] := by
    rintro rfl
    cases fits
  obtain ⟨origin, front, location, segments, walked, above⟩ :=
    beside_exists tree cwd path wanted name named some_ there
  obtain ⟨up, parented, made, holds⟩ := parent_ready tree cwd origin location _ front name name
    (fileName_withFileName path wanted name named (proper_regular name fits)) segments walked above
  exact ⟨up, parented, made, holds, fun contents =>
    persist_free tree cwd origin location _ front name contents fits segments walked above free⟩

end Tree

end FileTree
