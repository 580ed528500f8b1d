import Timelocked.Application
import Timelocked.LockEffects

/-!
The output that the form for a file suggests. It follows the input until it is
edited, and what the form shows is read back as a path once more when the lock
is started.
-/
namespace SuggestedOutput

open RunRules Base PathText LockForms Lock LockDifficulty Forms Application TextFields TuiSession
  TuiKeys Calibration
open LockedArtifact (keepingHost)

structure Trimmed (text : List Char) : Prop where
  first : ∀ character ∈ text.head?, isWhitespace character = false
  last : ∀ character ∈ text.getLast?, isWhitespace character = false

theorem trim_toList (text : String) :
    (trim text).toList = (text.toList.dropWhile isWhitespace).rdropWhile isWhitespace := by
  rw [trim, String.toList_ofList]
  rfl

theorem trim_trimmed (text : String) : Trimmed (trim text).toList := by
  rw [trim_toList]
  refine ⟨fun character first => ?_, fun character last => ?_⟩
  · have started := List.head?_dropWhile_not isWhitespace text.toList
    obtain ⟨rest, starts⟩ := List.head?_eq_some_iff.mp first
    obtain ⟨later, whole⟩ :=
      List.rdropWhile_prefix isWhitespace (text.toList.dropWhile isWhitespace)
    rw [starts] at whole
    rw [← whole] at started
    simpa using started
  · obtain ⟨front, ends⟩ := List.getLast?_eq_some_iff.mp last
    have stopped := List.rdropWhile_last_not isWhitespace (text.toList.dropWhile isWhitespace)
      (by simp [ends])
    simpa [ends] using stopped

theorem trim_of_trimmed (text : List Char) (trimmed : Trimmed text) :
    trim (String.ofList text) = String.ofList text := by
  refine String.toList_inj.mp ?_
  rw [trim_toList, String.toList_ofList]
  have started : text.dropWhile isWhitespace = text := by
    cases text with
    | nil => rfl
    | cons first rest => simp [trimmed.first first rfl]
  rw [started, List.rdropWhile_eq_self_iff]
  intro some_
  simp [trimmed.last _ (List.getLast?_eq_some_getLast some_)]

theorem describePath_toList (path : Path) :
    (describePath path).toList = List.intercalate ['/'] path := String.toList_ofList

theorem describePath_ofText (text : String) : describePath (ofText text) = text := by
  refine String.toList_inj.mp ?_
  rw [describePath_toList]
  exact List.intercalate_splitOn '/'

def Plain (path : Path) : Prop := path ≠ [] ∧ ∀ segment ∈ path, '/' ∉ segment

theorem ofText_describePath (path : Path) (plain : Plain path) :
    ofText (describePath path) = path := by
  rw [ofText, describePath_toList]
  exact List.splitOn_intercalate '/' plain.2 plain.1

theorem splitOn_plain (text : List Char) : ∀ segment ∈ text.splitOn '/', '/' ∉ segment := by
  induction text with
  | nil => simp
  | cons character rest ih =>
      rw [List.splitOn_cons_eq_if_modifyHead]
      split
      · simpa using ih
      · rename_i other
        cases cut : rest.splitOn '/' with
        | nil => exact absurd cut (List.splitOn_ne_nil _ _)
        | cons segment later =>
            rw [cut] at ih
            simp only [List.modifyHead_cons, List.mem_cons, forall_eq_or_imp] at ih ⊢
            refine ⟨?_, ih.2⟩
            simp only [not_or]
            exact ⟨fun same => other (by simp [← same]), ih.1⟩

theorem ofText_plain (text : String) : Plain (ofText text) :=
  ⟨ofText_ne_nil text, splitOn_plain text.toList⟩

/-- A suffix of the last segment is one of the text. -/
theorem intercalate_suffix (front : List Name) (last suffix : Name) :
    List.intercalate ['/'] (front ++ [last ++ suffix]) =
      List.intercalate ['/'] (front ++ [last]) ++ suffix := by
  induction front with
  | nil => simp
  | cons segment rest ih =>
      rw [List.cons_append, List.cons_append, List.intercalate_cons_of_ne_nil (by simp),
        List.intercalate_cons_of_ne_nil (by simp), ih]
      simp

theorem intercalate_head (segment : Name) (rest : List Name) (named : segment ≠ []) :
    (List.intercalate ['/'] (segment :: rest)).head? = segment.head? := by
  cases rest with
  | nil => simp
  | cons next later =>
      rw [List.intercalate_cons_cons]
      cases segment with
      | nil => exact absurd rfl named
      | cons character more => rfl

theorem fileName_mem (path : Path) (name : Name) (named : fileName path = some name) :
    name ∈ body path := by
  obtain ⟨before, split⟩ := fileName_components path name named
  have member : Component.normal name ∈ components path := by simp [split]
  rw [components, List.mem_append] at member
  rcases member with start | found
  · cases starts : lead path <;> simp [starts, Lead.components] at start
  · obtain ⟨segment, there, normal⟩ := List.mem_filterMap.mp found
    obtain ⟨rfl, _⟩ := bodyComponent_normal segment name normal
    exact there

theorem body_subset (path : Path) : body path ⊆ path := by
  intro segment member
  unfold body at member
  split at member
  · exact List.mem_cons_of_mem _ member
  · exact List.mem_cons_of_mem _ member
  · exact member

def start (path : Path) : Option Char := (List.intercalate ['/'] path).head?

theorem start_root (segment : Name) (rest : List Name) :
    start ([] :: segment :: rest) = some '/' := by
  rw [start, List.intercalate_cons_cons]
  rfl

theorem start_named (segment : Name) (rest : List Name) (named : segment ≠ []) :
    start (segment :: rest) = segment.head? := intercalate_head segment rest named

theorem lead_root {path : Path} (root : lead path = .root) :
    ∃ segment rest, path = [] :: segment :: rest := by
  unfold lead at root
  split at root
  · exact ⟨_, _, rfl⟩
  · cases root
  · cases root

theorem lead_here {path : Path} (here : lead path = .here) : ∃ rest, path = ['.'] :: rest := by
  unfold lead at here
  split at here
  · cases here
  · exact ⟨_, rfl⟩
  · cases here

theorem bodyComponent_spoken (segment : Name) (notEmpty : segment ≠ []) (notDot : segment ≠ ['.']) :
    ∃ component, bodyComponent segment = some component := by
  unfold bodyComponent
  split
  · exact absurd rfl notEmpty
  · exact absurd rfl notDot
  · exact ⟨_, rfl⟩
  · exact ⟨_, rfl⟩

/-- A bare path with nothing above its name starts with it. -/
theorem bare_alone {path : Path} {wanted : Name} (bare : lead path = .bare)
    (named : fileName path = some wanted) (popped : popBody (body path) = some []) :
    ∃ rest, path = wanted :: rest := by
  have spoken : path ≠ [[]] := by
    rintro rfl
    cases named
  obtain ⟨⟨notEmpty, notDot⟩, whole⟩ := lead_bare_body path bare spoken
  rw [whole] at notEmpty notDot popped
  cases path with
  | nil => cases named
  | cons first rest =>
      obtain ⟨component, said⟩ := bodyComponent_spoken first (fun same => notEmpty (by simp [same]))
        (fun same => notDot (by simp [same]))
      obtain ⟨last, _, counted⟩ := popBody_eq_some _ _ popped
      obtain ⟨before, split⟩ := fileName_components _ _ named
      rw [components, whole, bare, counted] at split
      rw [List.filterMap_cons_some said] at counted
      cases spokenLast : bodyComponent last with
      | none => simp [spokenLast] at counted
      | some component_ =>
          simp only [spokenLast, List.filterMap_nil, List.nil_append, Option.toList_some,
            List.cons.injEq] at counted
          obtain ⟨rfl, quiet⟩ := counted
          simp only [spokenLast, Lead.components, List.filterMap_nil, List.nil_append,
            Option.toList_some] at split
          obtain ⟨_, same⟩ := @List.append_inj' _ [] _ _ _ split rfl
          rw [List.singleton_inj.mp same] at said
          obtain ⟨rfl, _⟩ := bodyComponent_normal first wanted said
          exact ⟨rest, rfl⟩

/-- A suffix leaves the first character of a path. -/
theorem suffixed_start (path : Path) (suffix : Name) (character : Char)
    (first : start path = some character) :
    start (appendSuffixToPath path suffix) = some character := by
  unfold appendSuffixToPath
  cases named : fileName path with
  | none =>
      have some_ : path ≠ [] := by
        rintro rfl
        cases first
      dsimp only
      rw [start, intercalate_suffix]
      have whole : path.dropLast ++ [path.getLast?.getD []] = path := by
        rw [List.getLast?_eq_some_getLast some_]
        exact List.dropLast_append_getLast some_
      rw [whole]
      obtain ⟨rest, starts⟩ := List.head?_eq_some_iff.mp first
      rw [starts]
      rfl
  | some wanted =>
      dsimp only
      obtain ⟨rest, popped⟩ := popBody_named path wanted named
      rw [withFileName_rebuild path wanted _ rest named popped]
      cases leads : lead path with
      | root =>
          obtain ⟨segment, later, rfl⟩ := lead_root leads
          rw [start_root] at first
          rw [← first]
          cases rest with
          | nil => exact start_root _ _
          | cons next more => exact start_root _ _
      | here =>
          obtain ⟨later, rfl⟩ := lead_here leads
          rw [start_named _ _ (by simp)] at first
          rw [← first]
          exact start_named _ _ (by simp)
      | bare =>
          cases rest with
          | nil =>
              have some_ := fileName_ne_nil path wanted named
              obtain ⟨later, rfl⟩ := bare_alone leads named popped
              rw [start_named _ _ some_] at first
              rw [List.nil_append, show rebuild .bare [wanted ++ suffix] = [wanted ++ suffix] from rfl,
                start_named _ _ (by simp [some_])]
              cases wanted with
              | nil => exact absurd rfl some_
              | cons _ _ => exact first
          | cons next more =>
              have above := popBody_bare path _ leads popped
              have some_ : next ≠ [] := fun same => above.1 (by simp [same])
              have spoken : path ≠ [[]] := by
                rintro rfl
                cases named
              obtain ⟨_, whole⟩ := lead_bare_body path leads spoken
              obtain ⟨later, continues⟩ := popBody_prefix _ _ popped
              rw [whole] at continues
              rw [← continues, List.cons_append, start_named _ _ some_] at first
              rw [← first]
              exact start_named _ _ some_

theorem suffixed_last (path : Path) (suffix : Name) :
    ∃ front, List.intercalate ['/'] (appendSuffixToPath path suffix) = front ++ suffix := by
  unfold appendSuffixToPath
  cases named : fileName path with
  | none => exact ⟨_, intercalate_suffix _ _ _⟩
  | some wanted =>
      dsimp only
      obtain ⟨rest, popped⟩ := popBody_named path wanted named
      rw [withFileName_rebuild path wanted _ rest named popped]
      cases leads : lead path with
      | root =>
          refine ⟨List.intercalate ['/'] ([] :: rest ++ [wanted]), ?_⟩
          rw [← intercalate_suffix]
          cases rest <;> rfl
      | here =>
          refine ⟨List.intercalate ['/'] (['.'] :: rest ++ [wanted]), ?_⟩
          rw [← intercalate_suffix]
          rfl
      | bare =>
          refine ⟨List.intercalate ['/'] (rest ++ [wanted]), ?_⟩
          rw [← intercalate_suffix]
          cases rest <;> rfl

theorem suffixed_plain (path : Path) (suffix : Name) (plain : Plain path)
    (single : '/' ∉ suffix) : Plain (appendSuffixToPath path suffix) := by
  obtain ⟨some_, inside⟩ := plain
  unfold appendSuffixToPath
  cases named : fileName path with
  | none =>
      refine ⟨by simp, fun segment member => ?_⟩
      rcases List.mem_append.mp member with front | last
      · exact inside segment (List.mem_of_mem_dropLast front)
      · rw [List.mem_singleton.mp last, List.getLast?_eq_some_getLast some_, List.mem_append,
          not_or]
        exact ⟨inside _ (List.getLast_mem some_), single⟩
  | some wanted =>
      dsimp only
      obtain ⟨rest, later, _, whole, _, beside⟩ :=
        withFileName_segments path wanted (wanted ++ suffix) named
      have new : '/' ∉ wanted ++ suffix := by
        rw [List.mem_append, not_or]
        exact ⟨inside _ (body_subset path (fileName_mem path wanted named)), single⟩
      have old : ∀ segment ∈ rest, '/' ∉ segment := fun segment member =>
        inside segment (body_subset path (by simp [whole, member]))
      have all : ∀ segment ∈ rest ++ [wanted ++ suffix], '/' ∉ segment := by
        intro segment member
        rcases List.mem_append.mp member with front | last
        · exact old segment front
        · rw [List.mem_singleton.mp last]
          exact new
      rw [beside]
      cases lead path with
      | root => exact ⟨by simp, by simpa using all⟩
      | here => exact ⟨by simp, by simpa using all⟩
      | bare => exact ⟨by simp, all⟩

def EndsTimelocked (path : Path) : Prop :=
  (extension path).any (eqIgnoreAsciiCase · "timelocked".toList) = true

theorem suffixed_extension (path : Path) (wanted : Name) (named : fileName path = some wanted) :
    EndsTimelocked (defaultTimelockedOutputPath path) := by
  have long : 2 < (wanted ++ timelockedExtension).length := by
    rw [List.length_append, show timelockedExtension.length = 11 from rfl]
    omega
  have renamed := fileName_withFileName path wanted (wanted ++ timelockedExtension) named
    (bodyComponent_long _ long)
  have cut : rsplitAtDot (wanted ++ timelockedExtension) =
      some (wanted, "timelocked".toList) :=
    (rsplitAtDot_eq_some _ _ _).mpr ⟨rfl, by decide⟩
  have ends : extension (defaultTimelockedOutputPath path) = some "timelocked".toList := by
    unfold defaultTimelockedOutputPath appendSuffixToPath
    rw [named]
    dsimp only
    rw [extension, renamed, Option.bind_some, cut]
    cases wanted with
    | nil => exact absurd rfl (fileName_ne_nil path [] named)
    | cons first rest => rfl
  unfold EndsTimelocked
  rw [ends]
  rfl

/-- What the form shows for an input is, as it is read back, what the input comes to. -/
theorem derived_reads (input : List Char) (some_ : trim (String.ofList input) ≠ "") :
    ofText (trim (String.ofList (deriveDefaultOutput input))) =
      ensureTimelockedExtension (ofText (trim (String.ofList input))) := by
  have shown : String.ofList (deriveDefaultOutput input) =
      describePath (ensureTimelockedExtension (ofText (trim (String.ofList input)))) := by
    unfold deriveDefaultOutput
    dsimp only
    rw [if_neg (by simpa using some_), String.ofList_toList]
  rw [shown]
  have trimmed := trim_trimmed (String.ofList input)
  by_cases ends : EndsTimelocked (ofText (trim (String.ofList input)))
  · have same : ensureTimelockedExtension (ofText (trim (String.ofList input))) =
        ofText (trim (String.ofList input)) := if_pos ends
    rw [same, describePath_ofText]
    refine congrArg ofText ?_
    simpa using trim_of_trimmed _ trimmed
  · have same : ensureTimelockedExtension (ofText (trim (String.ofList input))) =
        appendSuffixToPath (ofText (trim (String.ofList input))) timelockedExtension := if_neg ends
    have still : Trimmed (List.intercalate ['/']
        (appendSuffixToPath (ofText (trim (String.ofList input))) timelockedExtension)) := by
      constructor
      · obtain ⟨character, first⟩ : ∃ character,
            (trim (String.ofList input)).toList.head? = some character := by
          cases text : (trim (String.ofList input)).toList with
          | nil => exact absurd (String.toList_eq_nil_iff.mp text) some_
          | cons character rest => exact ⟨character, rfl⟩
        have begins : start (ofText (trim (String.ofList input))) = some character := by
          rw [start, ← describePath_toList, describePath_ofText]
          exact first
        intro other begun
        rw [show (List.intercalate ['/'] _).head? = some character from
          suffixed_start _ timelockedExtension character begins] at begun
        cases begun
        exact trimmed.first character first
      · obtain ⟨front, ends⟩ :=
          suffixed_last (ofText (trim (String.ofList input))) timelockedExtension
        intro other last
        rw [ends, show timelockedExtension = ".timelocke".toList ++ ['d'] from rfl,
          ← List.append_assoc, List.getLast?_concat] at last
        cases last
        rfl
    rw [same, describePath, trim_of_trimmed _ still]
    exact ofText_describePath _ (suffixed_plain _ _ (ofText_plain _) (by decide))

theorem lockFileFormKey_locks (outside : Outside) (state : Forms.LockFileFormState)
    (key : KeyEvent) (calibration : SessionCalibration) (request : LockRequest)
    (inputDisplay outputDisplay : String)
    (locks : (handleLockFileFormKey outside state key calibration).2.1 =
      .locks request inputDisplay outputDisplay) :
    (startLockFile outside state calibration).2.1 =
      .locks request inputDisplay outputDisplay := by
  unfold handleLockFileFormKey at locks
  split at locks
  · cases locks
  · split at locks
    · cases locks
    · unfold pressLockFile at locks
      cases focus : state.focus with
      | lock =>
          simp only [focus] at locks
          split at locks
          · exact locks
          · cases locks
      | inputPath =>
          simp only [focus] at locks
          split at locks <;> cases locks
      | outputPath =>
          simp only [focus] at locks
          split at locks <;> cases locks
      | browseInput =>
          simp only [focus] at locks
          split at locks <;> cases locks
      | cancel =>
          simp only [focus] at locks
          split at locks <;> cases locks
      | _ =>
          simp only [focus] at locks
          cases locks

/-- A check for cancellation goes on with the files as they are, or is the end. -/
theorem ensureNotCancelled_cases (cancellation : Option CancellationToken) (before : World) :
    (∃ after, ensureNotCancelled cancellation before = (.error .cancelled, after)) ∨
      ∃ after, ensureNotCancelled cancellation before = (.ok (), after) ∧
        after.tree = before.tree := by
  unfold ensureNotCancelled
  cases cancellation with
  | none => exact .inr ⟨before, rfl, rfl⟩
  | some isCancelled =>
      dsimp only
      split
      · exact .inl ⟨_, rfl⟩
      · exact .inr ⟨_, rfl, rfl⟩

theorem resolveAndStageInput_taken (host : LockHost) (cancellation : Option CancellationToken)
    (input : String) (path : Path) (before : World)
    (taken : before.tree.pathExists host.cwd (ensureTimelockedExtension path) = true) :
    resolveAndStageInput host cancellation input (some path) before =
      (.error (.outputExists (ensureTimelockedExtension path)), before) := by
  have chosen : resolveLockOutputPath (resolveInputSource (before.tree.pathExists host.cwd) input)
      (some path) = .ok (ensureTimelockedExtension path) := rfl
  unfold resolveAndStageInput
  rw [Run.read_bind, Run.lift_bind_of_ok chosen]
  refine Run.bind_of_error ?_ _
  rw [rejectIf, if_pos taken]
  rfl

theorem execute_taken (host : LockHost) (onProgress : Bool)
    (cancellation : Option CancellationToken) (request : LockRequest) (before : World)
    (path : Path) (asked : request.output = some path)
    (taken : before.tree.pathExists host.cwd (ensureTimelockedExtension path) = true) :
    ∃ reason after,
      executeWithCancel host onProgress cancellation request before = (.error reason, after) ∧
        (reason = .cancelled ∨ reason = .outputExists (ensureTimelockedExtension path)) ∧
        after.tree.files = before.tree.files := by
  have stops : ∃ reason after,
      prepare host onProgress cancellation request before = (.error reason, after) ∧
        (reason = .cancelled ∨ reason = .outputExists (ensureTimelockedExtension path)) := by
    unfold prepare
    rcases ensureNotCancelled_cases cancellation before with
      ⟨after, cancelled⟩ | ⟨after, going, same⟩
    · exact ⟨_, after, Run.bind_of_error cancelled _, .inl rfl⟩
    · rw [← same] at taken
      refine ⟨_, after, ?_, .inr rfl⟩
      rw [Run.bind_of_ok going, asked]
      exact Run.bind_of_error
        (resolveAndStageInput_taken host cancellation request.input path after taken) _
  obtain ⟨reason, after, stopped, known⟩ := stops
  have grown := Run.keeps_outcome (LockEffects.prepare_grown host onProgress cancellation request) stopped
  exact ⟨reason, after, Run.bind_of_error stopped _, known, grown.1⟩

/-- As long as the output is as the form suggests it, a lock of a file goes where the file's own
name says, as without an explicit output. Only the name of an artifact suggests that artifact
itself, and while it is there the lock fails. -/
theorem suggested_output {app : Application.App} {outside : Outside} {key : KeyEvent} {request : LockRequest}
    {inputDisplay outputDisplay : String} (reached : Leads Application.start app)
    (untouched : app.slots.lockFile.outputTouched = false)
    (locks : (handleLockFileFormKey outside app.slots.lockFile key app.slots.calibration).2.1 =
      .locks request inputDisplay outputDisplay) :
    (¬ EndsTimelocked (ofText request.input) → fileName (ofText request.input) ≠ none →
      resolveLockOutputPath (.file (ofText request.input)) request.output =
        resolveLockOutputPath (.file (ofText request.input)) none) ∧
    (EndsTimelocked (ofText request.input) →
      ∀ (host : LockHost) (onProgress : Bool) (cancellation : Option CancellationToken)
        (before : World), before.tree.pathExists host.cwd (ofText request.input) = true →
        ∃ reason after,
          executeWithCancel host onProgress cancellation request before =
              (.error reason, after) ∧
            (reason = .cancelled ∨ reason = .outputExists (ofText request.input)) ∧
            after.tree.files = before.tree.files) := by
  have kept := (reached_kept reached).fields.lockFile
  have starts := lockFileFormKey_locks outside _ key _ request inputDisplay outputDisplay locks
  obtain ⟨input, some_, output, _⟩ := buildLockRequest_ok _ _ _ _ _ _ _ _ _ _
    (startLockFile_request outside _ _ request inputDisplay outputDisplay starts)
  have suggested : request.output = some (ensureTimelockedExtension (ofText request.input)) := by
    rw [output, input]
    refine congrArg some ?_
    show ofText (trim (String.ofList app.slots.lockFile.outputPath.value)) = _
    rw [kept.derived untouched]
    exact derived_reads _ some_
  constructor
  · intro plain named
    obtain ⟨wanted, named⟩ := Option.ne_none_iff_exists'.mp named
    have default_ : ensureTimelockedExtension (ofText request.input) =
        defaultTimelockedOutputPath (ofText request.input) := if_neg plain
    have again : ensureTimelockedExtension (defaultTimelockedOutputPath (ofText request.input)) =
        defaultTimelockedOutputPath (ofText request.input) :=
      if_pos (suffixed_extension _ wanted named)
    rw [suggested, default_, resolveLockOutputPath, again]
    rfl
  · intro ends host onProgress cancellation before there
    have itself : ensureTimelockedExtension (ofText request.input) = ofText request.input :=
      if_pos ends
    rw [itself] at suggested
    have failed := execute_taken host onProgress cancellation request before _ suggested
      (by rw [itself]; exact there)
    rw [itself] at failed
    exact failed

def locking (name : String) : Application.App :=
  typed beside (struck .enter :: name.toList.map (fun symbol => struck (.char symbol)) ++
    List.replicate 7 (struck .tab))

def suggestedLock (name output : String) : LockRequest where
  input := name
  output := some [output.toList]
  modulusBits := 2048
  target := some "3d"
  iterations := none
  hardwareProfile := some "desktop-2026"
  currentMachineIterationsPerSecond := none
  password := none
  verify := false

def artifactTree : FileTree.Tree :=
  FileTree.Tree.bare.insert "a.timelocked".toList [] [7] rfl FileTree.Tree.bare.root rfl

set_option maxRecDepth 20000 in
theorem suggested_output_entered :
    resolveLockOutputPath (.file (ofText "a")) (suggestedLock "a" "a.timelocked").output =
        resolveLockOutputPath (.file (ofText "a")) none ∧
      ∃ reason after,
        executeWithCancel (keepingHost []) false none (suggestedLock "a.timelocked" "a.timelocked")
            (freshWorld artifactTree) = (.error reason, after) ∧
          (reason = .cancelled ∨ reason = .outputExists (ofText "a.timelocked")) ∧
          after.tree.files = artifactTree.files := by
  have plain : (handleLockFileFormKey beside (locking "a").slots.lockFile (struck .enter)
      (locking "a").slots.calibration).2.1 =
        .locks (suggestedLock "a" "a.timelocked") "a" "a.timelocked" := rfl
  have relocks : (handleLockFileFormKey beside (locking "a.timelocked").slots.lockFile
      (struck .enter) (locking "a.timelocked").slots.calibration).2.1 =
        .locks (suggestedLock "a.timelocked" "a.timelocked") "a.timelocked" "a.timelocked" := rfl
  have there : (freshWorld artifactTree).tree.pathExists (keepingHost []).cwd
      (ofText "a.timelocked") = true := by decide +kernel
  exact ⟨(suggested_output (leads_typed beside _) rfl plain).1 (by unfold EndsTimelocked; decide)
      (by decide +kernel),
    (suggested_output (leads_typed beside _) rfl relocks).2 rfl (keepingHost []) false none
      (freshWorld artifactTree) there⟩

end SuggestedOutput
