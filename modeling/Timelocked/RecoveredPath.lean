import Timelocked.ArtifactWriter
import Timelocked.Unlock

/-!
Where a recovered file goes. The recorded name is joined to the directory as a
path, not as a name: a separator, a `..` or a leading root in it moves the file
elsewhere, and the search for a free name keeps it there.
-/
namespace RecoveredPath
open ByteCodec RunRules Base PathText ArtifactReader ArtifactWriter OutputPath Unlock

def DirectChild (dir path : Path) : Prop :=
  ∃ up, parent path = some up ∧ components up = components dir

/-- A recorded name that, as a path, is one component below the directory. -/
def StaysIn (dir name : Path) : Prop :=
  if isAbsolute name = true then ∃ last, last ≠ .rootDir ∧ components name = components dir ++ [last]
  else ∃ last, (if dir = [] ∨ dir = [[]] then components name
    else name.filterMap bodyComponent) = [last]

theorem directChild_iff (dir path : Path) :
    DirectChild dir path ↔ ∃ last, last ≠ .rootDir ∧ components path = components dir ++ [last] := by
  constructor
  · rintro ⟨up, above, same⟩
    obtain ⟨last, notRoot, split⟩ := parent_components path up above
    exact ⟨last, notRoot, by rw [split, same]⟩
  · rintro ⟨last, notRoot, split⟩
    exact parent_of_components path _ last split notRoot

theorem components_relative (path : Path) (relative : isAbsolute path = false) :
    .rootDir ∉ components path := by
  intro member
  rcases List.mem_append.mp member with start | later
  · cases begins : lead path with
    | root =>
        unfold lead at begins
        split at begins
        · cases relative
        · cases begins
        · cases begins
    | here => simp [begins, Lead.components] at start
    | bare => simp [begins, Lead.components] at start
  · obtain ⟨segment, _, spoken⟩ := List.mem_filterMap.mp later
    exact bodyComponent_ne_rootDir segment spoken

theorem join_directChild (dir name : Path) (more : name ≠ []) :
    DirectChild dir (join dir name) ↔ StaysIn dir name := by
  rw [directChild_iff, StaysIn]
  by_cases absolute : isAbsolute name = true
  · rw [if_pos absolute, join_absolute dir name absolute]
  · have relative : isAbsolute name = false := by simpa using absolute
    rw [if_neg absolute]
    -- A join with an empty directory is the name itself and may start differently.
    by_cases empty : dir = [] ∨ dir = [[]]
    · have joined : join dir name = name := by
        rcases empty with rfl | rfl
        · simp [join, relative]
        · exact join_empty name
      have nothing : components dir = [] := by
        rcases empty with rfl | rfl <;> rfl
      rw [if_pos empty, joined, nothing]
      constructor
      · rintro ⟨last, _, split⟩
        exact ⟨last, split⟩
      · rintro ⟨last, split⟩
        refine ⟨last, ?_, split⟩
        rintro rfl
        exact components_relative name relative (by rw [split]; simp)
    · obtain ⟨start, named⟩ := not_or.mp empty
      rw [if_neg empty, components_join dir name start named more relative]
      constructor
      · rintro ⟨last, _, split⟩
        exact ⟨last, List.append_cancel_left split⟩
      · rintro ⟨last, split⟩
        refine ⟨last, ?_, by rw [split]⟩
        rintro rfl
        obtain ⟨segment, _, spoken⟩ := List.mem_filterMap.mp
          (show Component.rootDir ∈ name.filterMap bodyComponent by rw [split]; simp)
        exact bodyComponent_ne_rootDir segment spoken

/-- The search for a free name moves a path only within its parent. -/
theorem available_directChild (pathExists : Path → Bool) (dir path found : Path)
    (success : resolveAvailableOutputPath pathExists path = .ok found) :
    DirectChild dir found ↔ DirectChild dir path := by
  obtain ⟨_, rfl | ⟨wanted, name, up, _, _, split, _, split'⟩⟩ :=
    resolveAvailableOutputPath_ok pathExists path found success
  · exact Iff.rfl
  · rw [directChild_iff, directChild_iff, split, split']
    constructor
    · rintro ⟨last, _, same⟩
      obtain ⟨before, _⟩ := List.append_inj' same rfl
      exact ⟨.normal wanted, by simp, by rw [before]⟩
    · rintro ⟨last, _, same⟩
      obtain ⟨before, _⟩ := List.append_inj' same rfl
      exact ⟨.normal name, by simp, by rw [before]⟩

/-- Of whatever file was parsed: the chosen path is a direct child of the
requested directory exactly when the recorded name stays in it. -/
theorem recovered_path_iff (parsed : StoredTimelockedArtifact) (originalFilename : String)
    (kind : parsed.payloadKind = .file originalFilename) (request : UnlockRequest)
    (implicit : request.out = none) (pathExists : Path → Bool) (path : Path)
    (chosen : chooseRecoveredFilePath pathExists request parsed.payloadKind = .ok (some path)) :
    DirectChild (requestedDir request) path ↔
      StaysIn (requestedDir request) (ofText originalFilename) := by
  rw [← join_directChild _ _ (ofText_ne_nil originalFilename)]
  unfold chooseRecoveredFilePath resolveRecoveredFilePath at chosen
  rw [kind, implicit] at chosen
  dsimp only at chosen
  rw [ok_bind] at chosen
  obtain ⟨found, available, returned⟩ := (bind_eq_ok _ _ _).mp chosen
  cases returned
  exact available_directChild pathExists _ _ _ available

/-! An artifact whose recorded name climbs out of the directory. -/

def climbingRequest : LockArtifactRequest :=
  { smallRequest with originalFilename := some "../x" }

def climbingArtifact : Bytes :=
  ((capture (writeTimelockedArtifact (calmHost plainCrates) .memory climbingRequest smallReader
    false none) (freshWorld .bare)).1.toOption.map Prod.snd).getD []

def intoD : UnlockRequest := ⟨[['a']], some [['d']], none⟩

def besideD : Path := [['d'], ['.', '.'], ['x']]

theorem besideD_chosen :
    chooseRecoveredFilePath (fun _ => false) intoD (.file "../x") = .ok (some besideD) := by
  decide +kernel

theorem besideD_not_child : ¬ DirectChild (requestedDir intoD) besideD := by
  rw [directChild_iff]
  rintro ⟨last, _, split⟩
  have length := congrArg List.length split
  have three : (components besideD).length = 3 := by decide
  have one : (components (requestedDir intoD)).length = 1 := by decide
  rw [List.length_append, three, one] at length
  cases length

theorem climbingArtifact_file :
    ∃ parsed, readTimelockedArtifactBytes plainCrates climbingArtifact = .ok parsed ∧
      parsed.payloadKind = .file "../x" := by
  have shown : (readTimelockedArtifactBytes plainCrates climbingArtifact).toOption.map
      StoredTimelockedArtifact.payloadKind = some (.file "../x") := by
    decide +kernel
  cases read : readTimelockedArtifactBytes plainCrates climbingArtifact with
  | error reason =>
      rw [read] at shown
      cases shown
  | ok parsed =>
      rw [read] at shown
      exact ⟨parsed, rfl, Option.some.inj shown⟩

theorem recovered_path_iff_climbing :
    DirectChild (requestedDir intoD) besideD ↔ StaysIn (requestedDir intoD) (ofText "../x") := by
  obtain ⟨parsed, _, kind⟩ := climbingArtifact_file
  exact recovered_path_iff parsed "../x" kind intoD rfl (fun _ => false) besideD
    (kind ▸ besideD_chosen)

/-- A file can be made that is recovered beside the directory, not in it. -/
theorem recovered_path_escapes :
    ∃ bytes parsed originalFilename request path,
      readTimelockedArtifactBytes plainCrates bytes = .ok parsed ∧
        parsed.payloadKind = .file originalFilename ∧ request.out = none ∧
        chooseRecoveredFilePath (fun _ => false) request parsed.payloadKind = .ok (some path) ∧
        ¬ DirectChild (requestedDir request) path := by
  obtain ⟨parsed, read, kind⟩ := climbingArtifact_file
  exact ⟨climbingArtifact, parsed, "../x", intoD, besideD, read, kind, rfl, kind ▸ besideD_chosen,
    besideD_not_child⟩

end RecoveredPath
