import Mathlib.Data.List.DropRight
import Mathlib.Data.List.TakeDrop
import Mathlib.Data.List.TakeWhile

/-!
Path text and its components, with the meaning `std::path` gives them on Unix.
A path is its text cut at every `/`, so `a//b`, `a/b/` and `/a` stay apart:
components, parents and joins are computed from the segments the way the
standard library computes them from the text.
-/
namespace PathText

abbrev Name := List Char

/-- The segments of a path's text; the empty text is one empty segment. -/
abbrev Path := List Name

def ofText (text : String) : Path := text.toList.splitOn '/'

inductive Component where
  | rootDir
  | curDir
  | parentDir
  | normal (name : Name)
  deriving DecidableEq, Repr

def isAbsolute : Path → Bool
  | [] :: _ :: _ => true
  | _ => false

/-- A segment after the first: empty ones and `.` are silent. -/
def bodyComponent : Name → Option Component
  | [] => none
  | ['.'] => none
  | ['.', '.'] => some .parentDir
  | name => some (.normal name)

/-- How a path starts: at the root, with an explicit `.`, or with neither. -/
inductive Lead where
  | root
  | here
  | bare
  deriving DecidableEq, Repr

def Lead.components : Lead → List Component
  | .root => [.rootDir]
  | .here => [.curDir]
  | .bare => []

def lead : Path → Lead
  | [] :: _ :: _ => .root
  | ['.'] :: _ => .here
  | _ => .bare

def body : Path → List Name
  | [] :: segment :: rest => segment :: rest
  | ['.'] :: rest => rest
  | segments => segments

def components (path : Path) : List Component :=
  (lead path).components ++ (body path).filterMap bodyComponent

def rebuild : Lead → List Name → Path
  | .root, [] => [[], []]
  | .root, segments => [] :: segments
  | .here, segments => ['.'] :: segments
  | .bare, [] => [[]]
  | .bare, segments => segments

def silent (segment : Name) : Bool := (bodyComponent segment).isNone

/-- Drops the last component of a body and the silent segments before it. -/
def popBody (segments : List Name) : Option (List Name) :=
  match segments.reverse.dropWhile silent with
  | [] => none
  | _ :: rest => some (rest.dropWhile silent).reverse

def parent (path : Path) : Option Path :=
  match popBody (body path), lead path with
  | some rest, start => some (rebuild start rest)
  | none, .here => some (rebuild .bare [])
  | none, _ => none

def fileName (path : Path) : Option Name :=
  match (components path).getLast? with
  | some (.normal name) => some name
  | _ => none

/-- `Path::join`: an absolute path replaces the base. -/
def join (base path : Path) : Path :=
  if isAbsolute path then path
  else if base.getLast?.getD [] = [] then base.dropLast ++ path
  else base ++ path

def withFileName (path : Path) (name : Name) : Path :=
  let base := if (fileName path).isSome then (parent path).getD path else path
  join base [name]

/-- `rsplit_once('.')`. -/
def rsplitAtDot (name : Name) : Option (Name × Name) :=
  match name.reverse.span (· ≠ '.') with
  | (_, []) => none
  | (after, _ :: before) => some (before.reverse, after.reverse)

def fileStem (path : Path) : Option Name :=
  (fileName path).map fun name =>
    match rsplitAtDot name with
    | none => name
    | some ([], _) => name
    | some (stem, _) => stem

def extension (path : Path) : Option Name :=
  (fileName path).bind fun name =>
    match rsplitAtDot name with
    | none => none
    | some ([], _) => none
    | some (_, ext) => some ext

/-! Components determine where a path leads, so the rest of the development
reasons about them and about the segments the operating system walks. -/

theorem filterMap_dropWhile_silent (segments : List Name) :
    (segments.dropWhile silent).filterMap bodyComponent = segments.filterMap bodyComponent := by
  induction segments with
  | nil => rfl
  | cons segment rest ih =>
      rw [List.dropWhile_cons]
      split
      · rename_i quiet
        have nothing : bodyComponent segment = none := by
          simpa [silent] using quiet
        rw [ih, List.filterMap_cons_none nothing]
      · rfl

theorem popBody_eq_some (segments rest : List Name) (popped : popBody segments = some rest) :
    ∃ component, bodyComponent component ≠ none ∧
      segments.filterMap bodyComponent =
        rest.filterMap bodyComponent ++ (bodyComponent component).toList := by
  unfold popBody at popped
  split at popped
  · cases popped
  · rename_i last before split
    obtain rfl := Option.some.inj popped
    have head := List.head_dropWhile_not silent (l := segments.reverse) (by simp [split])
    simp only [split, List.head_cons] at head
    have spoken : bodyComponent last ≠ none := by
      intro nothing
      simp [silent, nothing] at head
    have flipped : (segments.filterMap bodyComponent).reverse =
        (last :: before).filterMap bodyComponent := by
      rw [← List.filterMap_reverse, ← filterMap_dropWhile_silent segments.reverse, split]
    refine ⟨last, spoken, ?_⟩
    obtain ⟨component, named⟩ := Option.ne_none_iff_exists'.mp spoken
    rw [List.filterMap_reverse, filterMap_dropWhile_silent, ← List.reverse_inj, flipped,
      List.filterMap_cons_some named, named]
    simp

theorem popBody_eq_none (segments : List Name) :
    popBody segments = none ↔ segments.filterMap bodyComponent = [] := by
  unfold popBody
  constructor
  · intro popped
    split at popped
    · rename_i dropped
      have flipped := filterMap_dropWhile_silent segments.reverse
      rw [dropped, List.filterMap_reverse] at flipped
      simpa using flipped.symm
    · cases popped
  · intro quiet
    have all : segments.reverse.dropWhile silent = [] := by
      rw [List.dropWhile_eq_nil_iff]
      intro segment member
      have nothing := List.filterMap_eq_nil_iff.mp quiet segment (by simpa using member)
      simp [silent, nothing]
    rw [all]

theorem popBody_prefix (segments rest : List Name) (popped : popBody segments = some rest) :
    rest <+: segments := by
  unfold popBody at popped
  split at popped
  · cases popped
  · rename_i last before split
    obtain rfl := Option.some.inj popped
    have dropped : last :: before <:+ segments.reverse := split ▸ List.dropWhile_suffix _
    have later : before.dropWhile silent <:+ segments.reverse :=
      ((List.dropWhile_suffix _).trans (List.suffix_cons _ _)).trans dropped
    simpa using List.reverse_prefix.mpr later

theorem bodyComponent_ne_rootDir (segment : Name) : bodyComponent segment ≠ some .rootDir := by
  unfold bodyComponent
  split <;> simp

/-- A bare start may not be mistaken for one of the other two. -/
def Bare (segments : List Name) : Prop :=
  segments.head? ≠ some [] ∧ segments.head? ≠ some ['.']

theorem components_rebuild (start : Lead) (segments : List Name)
    (kept : start = .bare → Bare segments) :
    components (rebuild start segments) =
      start.components ++ segments.filterMap bodyComponent := by
  cases start with
  | root =>
      cases segments with
      | nil => rfl
      | cons segment rest => rfl
  | here =>
      cases segments with
      | nil => rfl
      | cons segment rest => rfl
  | bare =>
      cases segments with
      | nil => rfl
      | cons segment rest =>
          obtain ⟨notEmpty, notDot⟩ := kept rfl
          have start : lead (segment :: rest) = .bare := by
            unfold lead
            split <;> simp_all
          have later : body (segment :: rest) = segment :: rest := by
            unfold body
            split <;> simp_all
          simp [components, rebuild, start, later]

theorem lead_bare_body (path : Path) (start : lead path = .bare) (silenced : path ≠ [[]]) :
    Bare (body path) ∧ body path = path := by
  unfold lead at start
  split at start
  · cases start
  · cases start
  · rename_i notRoot notHere
    have same : body path = path := by
      unfold body
      split
      · exact absurd rfl (notRoot _ _)
      · exact absurd rfl (notHere _)
      · rfl
    refine ⟨⟨?_, ?_⟩, same⟩
    · rw [same]
      intro empty
      obtain ⟨rest, rfl⟩ := List.head?_eq_some_iff.mp empty
      cases rest with
      | nil => exact silenced rfl
      | cons segment rest => exact notRoot segment rest rfl
    · rw [same]
      intro dot
      obtain ⟨rest, rfl⟩ := List.head?_eq_some_iff.mp dot
      exact notHere rest rfl

theorem popBody_bare (path rest : List Name) (start : lead path = .bare)
    (popped : popBody (body path) = some rest) : Bare rest := by
  have spoken : path ≠ [[]] := by
    rintro rfl
    cases popped
  obtain ⟨⟨notEmpty, notDot⟩, _⟩ := lead_bare_body path start spoken
  cases rest with
  | nil => simp [Bare]
  | cons segment rest =>
      obtain ⟨more, whole⟩ := popBody_prefix _ _ popped
      rw [← whole] at notEmpty notDot
      exact ⟨notEmpty, notDot⟩

/-- The parent of a path has all of its components but the last. -/
theorem parent_components (path up : Path) (above : parent path = some up) :
    ∃ last, last ≠ .rootDir ∧ components path = components up ++ [last] := by
  unfold parent at above
  split at above
  · rename_i start rest popped
    obtain rfl := Option.some.inj above
    obtain ⟨segment, spoken, split⟩ := popBody_eq_some _ _ popped
    obtain ⟨component, named⟩ := Option.ne_none_iff_exists'.mp spoken
    have notRoot : component ≠ .rootDir := by
      rintro rfl
      exact bodyComponent_ne_rootDir segment named
    refine ⟨component, notRoot, ?_⟩
    rw [components_rebuild _ _ (fun bare => popBody_bare path rest bare popped), components,
      split, named]
    simp
  · rename_i popped start
    obtain rfl := Option.some.inj above
    have quiet := (popBody_eq_none _).mp popped
    refine ⟨.curDir, by simp, ?_⟩
    rw [components, start, quiet]
    rfl
  · cases above

theorem parent_eq_none (path : Path) :
    parent path = none ↔ components path = [] ∨ components path = [.rootDir] := by
  unfold parent components
  cases popped : popBody (body path) with
  | some rest =>
      obtain ⟨segment, spoken, split⟩ := popBody_eq_some _ _ popped
      obtain ⟨component, named⟩ := Option.ne_none_iff_exists'.mp spoken
      have notRoot : component ≠ .rootDir := by
        rintro rfl
        exact bodyComponent_ne_rootDir segment named
      rw [split, named]
      cases start : lead path <;>
        simp [Lead.components, List.append_eq_cons_iff, notRoot]
  | none =>
      have quiet := (popBody_eq_none _).mp popped
      cases start : lead path <;> simp [Lead.components, quiet]

theorem parent_of_components (path : Path) (before : List Component) (last : Component)
    (split : components path = before ++ [last]) (notRoot : last ≠ .rootDir) :
    ∃ up, parent path = some up ∧ components up = before := by
  cases above : parent path with
  | none =>
      rcases (parent_eq_none path).mp above with empty | root
      · simp [empty] at split
      · rw [root] at split
        rw [← List.nil_append [Component.rootDir]] at split
        obtain ⟨_, same⟩ := List.append_inj' split rfl
        exact absurd (List.cons.inj same).1.symm notRoot
  | some up =>
      obtain ⟨last', _, split'⟩ := parent_components path up above
      have same := split.symm.trans split'
      exact ⟨up, rfl, (List.append_inj_left' same rfl).symm⟩

/-! Joining. The text of a path always has a first segment. -/

theorem ofText_ne_nil (text : String) : ofText text ≠ [] :=
  List.splitOn_ne_nil _ _

theorem join_absolute (base path : Path) (absolute : isAbsolute path = true) :
    join base path = path := by
  simp [join, absolute]

theorem join_empty (path : Path) : join [[]] path = path := by
  unfold join
  split <;> simp

theorem components_append (front later : Path) (start : front ≠ []) (named : front ≠ [[]]) :
    components (front ++ later) = components front ++ later.filterMap bodyComponent := by
  cases front with
  | nil => exact absurd rfl start
  | cons first rest =>
  cases first with
  | nil =>
      cases rest with
      | nil => exact absurd rfl named
      | cons segment rest =>
          simp only [components, lead, body, List.cons_append, List.append_assoc,
            ← List.filterMap_append]
  | cons c cs =>
      by_cases dot : c :: cs = ['.']
      · rw [dot]
        simp [components, lead, body]
      · have bare : ∀ tail, lead ((c :: cs) :: tail) = .bare := by
          intro tail
          unfold lead
          split <;> simp_all
        have whole : ∀ tail, body ((c :: cs) :: tail) = (c :: cs) :: tail := by
          intro tail
          unfold body
          split <;> simp_all
        have spread : ((c :: cs) :: (rest ++ later)).filterMap bodyComponent =
            ((c :: cs) :: rest).filterMap bodyComponent ++ later.filterMap bodyComponent := by
          rw [← List.filterMap_append, List.cons_append]
        simp only [components, List.cons_append, bare, whole, spread, List.append_assoc]

/-- Joining a relative path adds its components to those of the base. -/
theorem components_join (base path : Path) (start : base ≠ []) (named : base ≠ [[]])
    (more : path ≠ []) (relative : isAbsolute path = false) :
    components (join base path) = components base ++ path.filterMap bodyComponent := by
  unfold join
  rw [relative, if_neg (by simp)]
  split
  · -- A base that ends in a slash ends in an empty segment, which the join replaces.
    rename_i slash
    have whole : base = base.dropLast ++ [[]] := by
      have last := List.dropLast_concat_getLast start
      rw [List.getLast?_eq_some_getLast start, Option.getD_some] at slash
      rw [slash] at last
      exact last.symm
    have front : base.dropLast ≠ [] := by
      intro nothing
      rw [nothing] at whole
      exact named whole
    by_cases root : base.dropLast = [[]]
    · rw [root] at whole ⊢
      obtain ⟨segment, rest, rfl⟩ := List.exists_cons_of_ne_nil more
      rw [whole]
      rfl
    · have before : components base = components base.dropLast := by
        calc components base = components (base.dropLast ++ [[]]) := congrArg components whole
          _ = components base.dropLast := by
            rw [components_append _ _ front root]
            simp [bodyComponent]
      rw [before]
      exact components_append _ _ front root
  · exact components_append base path start named

/-- A candidate name beside a path keeps the components of its parent. -/
theorem components_withFileName (path up : Path) (name : Name) (component : Component)
    (above : parent path = some up) (named : (fileName path).isSome)
    (spoken : bodyComponent name = some component) (start : up ≠ []) :
    components (withFileName path name) = components up ++ [component] := by
  have relative : isAbsolute [name] = false := by
    unfold isAbsolute
    split <;> simp_all
  simp only [withFileName, named, above, if_true, Option.getD_some]
  by_cases empty : up = [[]]
  · rw [empty, join_empty]
    have notDot : name ≠ ['.'] := by
      rintro rfl
      cases spoken
    have bare : lead [name] = .bare := by
      unfold lead
      split <;> simp_all
    have whole : body [name] = [name] := by
      unfold body
      split <;> simp_all
    have nothing : components [[]] = [] := rfl
    rw [nothing, components, bare, whole, List.filterMap_cons_some spoken]
    rfl
  · rw [components_join up [name] start empty (by simp) relative]
    simp [spoken]

theorem parent_ne_nil (path up : Path) (above : parent path = some up) : up ≠ [] := by
  have built : ∀ start segments, rebuild start segments ≠ [] := by
    intro start segments
    unfold rebuild
    split <;> simp_all
  unfold parent at above
  split at above
  · obtain rfl := Option.some.inj above
    exact built _ _
  · obtain rfl := Option.some.inj above
    exact built _ _
  · cases above

theorem fileName_components (path : Path) (name : Name) (named : fileName path = some name) :
    ∃ before, components path = before ++ [.normal name] := by
  unfold fileName at named
  split at named
  · rename_i last
    obtain rfl := Option.some.inj named
    exact List.getLast?_eq_some_iff.mp last
  · cases named

theorem bodyComponent_normal (segment name : Name)
    (named : bodyComponent segment = some (.normal name)) : segment = name ∧ name ≠ [] := by
  unfold bodyComponent at named
  split at named
  · cases named
  · cases named
  · cases named
  · rename_i notEmpty _ _
    obtain rfl := Component.normal.inj (Option.some.inj named)
    exact ⟨rfl, notEmpty⟩

theorem bodyComponent_long (name : Name) (long : 2 < name.length) :
    bodyComponent name = some (.normal name) := by
  unfold bodyComponent
  split <;> simp_all

theorem fileName_ne_nil (path : Path) (name : Name) (named : fileName path = some name) :
    name ≠ [] := by
  obtain ⟨before, split⟩ := fileName_components path name named
  have member : Component.normal name ∈ components path := by
    rw [split]
    exact List.mem_append_right _ (List.mem_singleton_self _)
  rcases List.mem_append.mp member with start | later
  · cases begins : lead path <;> simp [begins, Lead.components] at start
  · obtain ⟨segment, _, spoken⟩ := List.mem_filterMap.mp later
    exact (bodyComponent_normal segment name spoken).2

theorem fileStem_ne_nil (path : Path) (stem : Name) (stemmed : fileStem path = some stem) :
    (∃ name, fileName path = some name) ∧ stem ≠ [] := by
  obtain ⟨name, named, same⟩ := Option.map_eq_some_iff.mp stemmed
  have present := fileName_ne_nil path name named
  refine ⟨⟨name, named⟩, ?_⟩
  split at same
  · exact same ▸ present
  · exact same ▸ present
  · rename_i notEmpty _
    rw [← same]
    exact notEmpty

/-- A path with a file name has a parent, and is that name in it. -/
theorem parent_of_fileName (path : Path) (name : Name) (named : fileName path = some name) :
    ∃ up, parent path = some up ∧ components path = components up ++ [.normal name] := by
  obtain ⟨before, split⟩ := fileName_components path name named
  obtain ⟨up, above, same⟩ := parent_of_components path before (.normal name) split (by simp)
  exact ⟨up, above, by rw [split, same]⟩

/-- A body is its parent's body and at least one more segment. -/
theorem popBody_split (segments rest : List Name) (popped : popBody segments = some rest) :
    ∃ later, later ≠ [] ∧ segments = rest ++ later ∧ rest.getLast? ≠ some [] := by
  obtain ⟨later, whole⟩ := popBody_prefix segments rest popped
  refine ⟨later, ?_, whole.symm, ?_⟩
  · rintro rfl
    obtain ⟨component, spoken, counted⟩ := popBody_eq_some segments rest popped
    rw [← whole, List.append_nil] at counted
    obtain ⟨named, same⟩ := Option.ne_none_iff_exists'.mp spoken
    have longer := congrArg List.length counted
    rw [same] at longer
    simp at longer
  · intro last
    unfold popBody at popped
    split at popped
    · cases popped
    · rename_i dropped before split
      obtain rfl := Option.some.inj popped
      rw [List.getLast?_reverse] at last
      obtain ⟨tail, starts⟩ := List.head?_eq_some_iff.mp last
      have loud := List.head_dropWhile_not silent (l := before) (by simp [starts])
      simp [starts, silent, bodyComponent] at loud

/-- A path with a file name has a segment to pop. -/
theorem popBody_named (path : Path) (wanted : Name) (named : fileName path = some wanted) :
    ∃ rest, popBody (body path) = some rest := by
  cases popped : popBody (body path) with
  | none =>
      have quiet := (popBody_eq_none (body path)).mp popped
      obtain ⟨before, split⟩ := fileName_components path wanted named
      rw [components, quiet, List.append_nil] at split
      cases starts : lead path <;> simp [starts, Lead.components, List.cons_eq_append_iff] at split
  | some rest => exact ⟨rest, rfl⟩

theorem parent_popped (path : Path) (rest : List Name) (popped : popBody (body path) = some rest) :
    parent path = some (rebuild (lead path) rest) := by
  unfold parent
  rw [popped]

/-- The body of a named path is its parent's and at least one more segment. -/
theorem parent_segments (path : Path) (wanted : Name) (named : fileName path = some wanted) :
    ∃ rest later, later ≠ [] ∧ rest.getLast? ≠ some [] ∧ body path = rest ++ later ∧
      (lead path = .bare → Bare rest) ∧ parent path = some (rebuild (lead path) rest) := by
  obtain ⟨rest, popped⟩ := popBody_named path wanted named
  obtain ⟨later, more, whole, ends⟩ := popBody_split _ _ popped
  exact ⟨rest, later, more, ends, whole, fun starts => popBody_bare path rest starts popped,
    parent_popped path rest popped⟩

/-- The path beside a named one is its parent with the new name. -/
theorem withFileName_rebuild (path : Path) (wanted name : Name) (rest : List Name)
    (named : fileName path = some wanted) (popped : popBody (body path) = some rest) :
    withFileName path name = rebuild (lead path) (rest ++ [name]) := by
  obtain ⟨_, _, _, ends⟩ := popBody_split _ _ popped
  have relative : isAbsolute [name] = false := by
    cases name <;> rfl
  simp only [withFileName, named, parent_popped path rest popped, Option.isSome_some, if_true,
    Option.getD_some]
  cases rest with
  | nil => cases lead path <;> simp [join, relative, rebuild]
  | cons segment tail =>
      have loud : (segment :: tail).getLast?.getD [] ≠ [] := by
        intro empty
        apply ends
        rw [List.getLast?_eq_some_getLast (by simp)] at empty ⊢
        rw [← empty, Option.getD_some]
      cases lead path <;> simp [join, relative, rebuild, loud]

/-- The path beside a named one takes the segments of its parent, then the new name. -/
theorem withFileName_segments (path : Path) (wanted name : Name)
    (named : fileName path = some wanted) :
    ∃ rest later, later ≠ [] ∧ body path = rest ++ later ∧ (lead path = .bare → Bare rest) ∧
      withFileName path name =
        match lead path with
        | .root => [] :: (rest ++ [name])
        | .here => ['.'] :: (rest ++ [name])
        | .bare => rest ++ [name] := by
  obtain ⟨rest, popped⟩ := popBody_named path wanted named
  obtain ⟨later, more, whole, _⟩ := popBody_split _ _ popped
  refine ⟨rest, later, more, whole, fun starts => popBody_bare path rest starts popped, ?_⟩
  rw [withFileName_rebuild path wanted name rest named popped]
  cases lead path <;> cases rest <;> rfl

/-- Where the last segment is a name, it is the file name. -/
theorem fileName_concat (front : Path) (name : Name)
    (named : bodyComponent name = some (.normal name)) :
    fileName (front ++ [name]) = some name := by
  have last : (components (front ++ [name])).getLast? = some (.normal name) := by
    by_cases start : front = []
    · obtain rfl := start
      have notDot : name ≠ ['.'] := by
        rintro rfl
        cases named
      have bare : lead [name] = .bare := by
        unfold lead
        split <;> simp_all
      have whole : body [name] = [name] := by
        unfold body
        split <;> simp_all
      rw [List.nil_append, components, bare, whole, List.filterMap_cons_some named]
      rfl
    · by_cases empty : front = [[]]
      · rw [empty]
        simp [components, lead, body, named]
      · rw [components_append front [name] start empty, List.filterMap_cons_some named]
        simp
  unfold fileName
  rw [last]

/-- The new file name of a path that had one. -/
theorem fileName_withFileName (path : Path) (wanted name : Name)
    (named : fileName path = some wanted)
    (regular : bodyComponent name = some (.normal name)) :
    fileName (withFileName path name) = some name := by
  obtain ⟨rest, _, _, _, _, beside⟩ := withFileName_segments path wanted name named
  rw [beside]
  cases lead path with
  | root => exact fileName_concat ([] :: rest) name regular
  | here => exact fileName_concat (['.'] :: rest) name regular
  | bare => exact fileName_concat rest name regular

theorem fileName_ne (path : Path) (name : Name) (named : fileName path = some name) :
    path ≠ [] := by
  rintro rfl
  cases named

/-- A text without a separator is one segment. -/
theorem ofText_single (name : Name) (plain : '/' ∉ name) :
    ofText (String.ofList name) = [name] := by
  rw [ofText, String.toList_ofList]
  exact List.splitOn_eq_singleton plain

/-- Both halves of a name cut at its last dot are made of its characters. -/
theorem rsplitAtDot_mem (name front after : Name) (split : rsplitAtDot name = some (front, after)) :
    (∀ character ∈ front, character ∈ name) ∧ ∀ character ∈ after, character ∈ name := by
  unfold rsplitAtDot at split
  have whole := List.takeWhile_append_dropWhile (p := fun character => decide (character ≠ '.'))
    (l := name.reverse)
  rw [List.span_eq_takeWhile_dropWhile] at split
  split at split
  · cases split
  · rename_i later dot before same
    cases split
    obtain ⟨taken, dropped⟩ := Prod.mk.inj same
    rw [taken, dropped] at whole
    constructor
    · intro character member
      rw [← List.mem_reverse, ← whole]
      simp [List.mem_reverse.mp member]
    · intro character member
      rw [← List.mem_reverse, ← whole]
      simp [List.mem_reverse.mp member]

/-- A name is cut at its last dot. -/
theorem rsplitAtDot_eq_some (name front after : Name) :
    rsplitAtDot name = some (front, after) ↔ name = front ++ '.' :: after ∧ '.' ∉ after := by
  unfold rsplitAtDot
  rw [List.span_eq_takeWhile_dropWhile]
  constructor
  · intro split
    have whole := List.takeWhile_append_dropWhile (p := fun character => decide (character ≠ '.'))
      (l := name.reverse)
    split at split
    · cases split
    · rename_i later dot before same
      cases split
      obtain ⟨taken, dropped⟩ := Prod.mk.inj same
      have present : name.reverse.dropWhile (fun character => decide (character ≠ '.')) ≠ [] := by
        rw [dropped]
        simp
      have stops := List.head_dropWhile_not _ present
      simp only [dropped, List.head_cons] at stops
      obtain rfl : dot = '.' := by simpa using stops
      have plain : ∀ character ∈ later, character ≠ '.' := by
        intro character member
        rw [← taken] at member
        simpa using List.mem_takeWhile_imp member
      rw [taken, dropped] at whole
      refine ⟨?_, fun member => plain '.' (List.mem_reverse.mp member) rfl⟩
      rw [← List.reverse_inj, ← whole]
      simp
  · rintro ⟨rfl, plain⟩
    have before : ∀ character ∈ after.reverse, decide (character ≠ '.') = true := by
      intro character member
      have inside := List.mem_reverse.mp member
      simp only [ne_eq, decide_not, Bool.not_eq_true', decide_eq_false_iff_not]
      rintro rfl
      exact plain inside
    have spread : (front ++ '.' :: after).reverse = after.reverse ++ '.' :: front.reverse := by
      simp
    rw [spread, List.takeWhile_append_of_pos before, List.dropWhile_append_of_pos before]
    simp

theorem lead_rebuild (start : Lead) (segments : List Name) (some_ : segments ≠ [])
    (kept : start = .bare → Bare segments) :
    lead (rebuild start segments) = start ∧ body (rebuild start segments) = segments := by
  obtain ⟨segment, rest, rfl⟩ := List.exists_cons_of_ne_nil some_
  cases start with
  | root => exact ⟨rfl, rfl⟩
  | here => exact ⟨rfl, rfl⟩
  | bare =>
      obtain ⟨notEmpty, notDot⟩ := kept rfl
      constructor
      · unfold lead
        split <;> simp_all [rebuild]
      · unfold body
        split <;> simp_all [rebuild]

/-- What a body is popped to ends in no silent segment. -/
theorem popBody_concat (segments rest : List Name) (popped : popBody segments = some rest)
    (name : Name) (loud : bodyComponent name ≠ none) : popBody (rest ++ [name]) = some rest := by
  have speaks : silent name = false := by
    unfold silent
    cases spoken : bodyComponent name with
    | none => exact absurd spoken loud
    | some component => rfl
  have trimmed : rest.reverse.dropWhile silent = rest.reverse := by
    unfold popBody at popped
    split at popped
    · cases popped
    · obtain rfl := Option.some.inj popped
      rw [List.reverse_reverse]
      exact List.dropWhile_idempotent _ _
  unfold popBody
  rw [List.reverse_append, List.reverse_singleton, List.singleton_append, List.dropWhile_cons,
    speaks]
  simp [trimmed]

/-- A path and the path beside it have one parent. -/
theorem parent_withFileName (path : Path) (wanted name : Name)
    (named : fileName path = some wanted) (loud : bodyComponent name = some (.normal name)) :
    parent (withFileName path name) = parent path := by
  obtain ⟨rest, popped⟩ := popBody_named path wanted named
  have bare : lead path = .bare → Bare (rest ++ [name]) := by
    intro starts
    have kept := popBody_bare path rest starts popped
    cases rest with
    | nil =>
        constructor <;> intro head <;> obtain rfl := Option.some.inj head <;> cases loud
    | cons segment tail => exact kept
  obtain ⟨starts, later⟩ := lead_rebuild (lead path) (rest ++ [name]) (by simp) bare
  have again : popBody (body (rebuild (lead path) (rest ++ [name]))) = some rest := by
    rw [later]
    exact popBody_concat _ _ popped name (by simp [loud])
  rw [withFileName_rebuild path wanted name rest named popped, parent_popped _ rest again, starts,
    parent_popped path rest popped]

end PathText
