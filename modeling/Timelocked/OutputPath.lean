import Timelocked.Base

/-!
Finding a free name. The search only asks which paths exist, so it is stated
over any such answer; a path it returns did not exist when it was asked for,
and it differs from the wanted one in the file name alone.
-/
namespace OutputPath
open ByteCodec RunRules Base PathText FileTree

def digits (index : Nat) : Name := Nat.toDigits 10 index

def parseDigits (suffix : Name) : Nat :=
  suffix.foldl (fun value digit => value * 10 + (digit.toNat - '0'.toNat)) 0

def u64Max : Nat := 2 ^ 64 - 1

def parseSuffixIndex (fileStem : Name) : Name × Nat :=
  match rsplitAtDot fileStem with
  | none => (fileStem, 1)
  | some (front, suffix) =>
      if front = [] ∨ suffix = [] ∨ ¬ (suffix.all fun character => character.isDigit) = true then
        (fileStem, 1)
      else if parseDigits suffix > u64Max then (fileStem, 1)
      else if parseDigits suffix = u64Max then (front, u64Max)
      else (front, parseDigits suffix + 1)

def candidateName (baseStem : Name) (extension : Option Name) (index : Nat) : Name :=
  match extension with
  | some ext => baseStem ++ '.' :: (digits index ++ '.' :: ext)
  | none => baseStem ++ '.' :: digits index

section Search
variable (pathExists : Path → Bool) (path : Path)

def searchFrom (baseStem : Name) (extension : Option Name) : Nat → Nat → Except Error Path
  | later, index =>
      let candidate := withFileName path (candidateName baseStem extension index)
      if pathExists candidate = false then .ok candidate
      else match later with
        | 0 => .error (.invalidArgument "unable to derive available output filename")
        | later + 1 => searchFrom baseStem extension later (index + 1)

def resolveAvailableOutputPath : Except Error Path :=
  if pathExists path = false then .ok path
  else match fileStem path with
    | none => .error (.invalidArgument "output filename is invalid")
    | some stem =>
        let (baseStem, startIndex) := parseSuffixIndex stem
        searchFrom pathExists path baseStem (extension path) (u64Max - startIndex) startIndex

/-- The search ends at the first free candidate. -/
theorem searchFrom_ok (baseStem : Name) (extension : Option Name) (later index : Nat) (found : Path)
    (success : searchFrom pathExists path baseStem extension later index = .ok found) :
    ∃ steps, steps ≤ later ∧
      found = withFileName path (candidateName baseStem extension (index + steps)) ∧
      pathExists found = false ∧ ∀ earlier, earlier < steps →
        pathExists (withFileName path (candidateName baseStem extension (index + earlier))) =
          true := by
  -- Induction on the indices left; the steps count the candidates passed over.
  induction later generalizing index with
  | zero =>
      rw [searchFrom] at success
      split at success
      · rename_i free
        cases success
        exact ⟨0, Nat.le_refl 0, rfl, free, fun _ before => absurd before (Nat.not_lt_zero _)⟩
      · cases success
  | succ later ih =>
      rw [searchFrom] at success
      split at success
      · rename_i free
        cases success
        exact ⟨0, Nat.zero_le _, rfl, free, fun _ before => absurd before (Nat.not_lt_zero _)⟩
      · rename_i here
        obtain ⟨steps, enough, same, free, taken⟩ := ih _ success
        have further : ∀ ahead, index + (ahead + 1) = index + 1 + ahead := fun ahead => by omega
        refine ⟨steps + 1, Nat.succ_le_succ enough, ?_, free, fun earlier before => ?_⟩
        · rw [further]
          exact same
        · cases earlier with
          | zero => simpa using here
          | succ earlier =>
              rw [further]
              exact taken earlier (Nat.lt_of_succ_lt_succ before)

theorem candidateName_long (baseStem : Name) (extension : Option Name) (index : Nat)
    (named : baseStem ≠ []) : 2 < (candidateName baseStem extension index).length := by
  have stem : 0 < baseStem.length := List.length_pos_iff.mpr named
  have digit : 0 < (digits index).length := Nat.length_toDigits_pos
  unfold candidateName
  cases extension with
  | none =>
      rw [List.length_append, List.length_cons]
      omega
  | some ext =>
      rw [List.length_append, List.length_cons, List.length_append]
      omega

theorem parseSuffixIndex_le (fileStem : Name) : (parseSuffixIndex fileStem).2 ≤ u64Max := by
  have one : 1 ≤ u64Max := by decide
  unfold parseSuffixIndex
  split
  · exact one
  · split
    · exact one
    · split
      · exact one
      · split
        · exact Nat.le_refl u64Max
        · dsimp only
          omega

theorem parseSuffixIndex_ne_nil (fileStem : Name) (named : fileStem ≠ []) :
    (parseSuffixIndex fileStem).1 ≠ [] := by
  unfold parseSuffixIndex
  split
  · exact named
  · rename_i front suffix _
    by_cases kept : front = [] ∨ suffix = [] ∨
        ¬ (suffix.all fun character => character.isDigit) = true
    · rw [if_pos kept]
      exact named
    · rw [if_neg kept]
      have present : front ≠ [] := fun empty => kept (.inl empty)
      split
      · exact named
      · split <;> exact present

def candidate (stem : Name) (index : Nat) : Name :=
  candidateName (parseSuffixIndex stem).1 (extension path) index

structure FirstFree (stem : Name) (index : Nat) : Prop where
  least : (parseSuffixIndex stem).2 ≤ index
  bounded : index ≤ u64Max
  free : pathExists (withFileName path (candidate path stem index)) = false
  taken : ∀ earlier, (parseSuffixIndex stem).2 ≤ earlier → earlier < index →
    pathExists (withFileName path (candidate path stem earlier)) = true

/-- It finds the first free candidate where there is one. -/
theorem searchFrom_free (baseStem : Name) (extension : Option Name) (later index steps : Nat)
    (enough : steps ≤ later)
    (free : pathExists (withFileName path (candidateName baseStem extension (index + steps))) =
      false)
    (taken : ∀ earlier, earlier < steps →
      pathExists (withFileName path (candidateName baseStem extension (index + earlier))) = true) :
    searchFrom pathExists path baseStem extension later index =
      .ok (withFileName path (candidateName baseStem extension (index + steps))) := by
  induction steps generalizing later index with
  | zero =>
      cases later <;> rw [searchFrom] <;> exact if_pos free
  | succ steps ih =>
      obtain ⟨fewer, rfl⟩ := Nat.exists_eq_add_of_le' (Nat.one_le_of_lt enough)
      have first := taken 0 (Nat.succ_pos steps)
      rw [Nat.add_zero] at first
      have further : ∀ ahead, index + (ahead + 1) = index + 1 + ahead := fun ahead => by omega
      rw [searchFrom, first, if_neg (by simp), further steps]
      apply ih fewer (index + 1) (Nat.le_of_succ_le_succ enough)
      · rw [← further]
        exact free
      · intro earlier before
        rw [← further]
        exact taken (earlier + 1) (Nat.succ_lt_succ before)

theorem resolveAvailableOutputPath_firstFree (stem : Name) (index : Nat)
    (taken : pathExists path = true) (stemmed : fileStem path = some stem)
    (first : FirstFree pathExists path stem index) :
    resolveAvailableOutputPath pathExists path =
      .ok (withFileName path (candidate path stem index)) := by
  obtain ⟨steps, rfl⟩ := Nat.exists_eq_add_of_le first.least
  have bounded := first.bounded
  have searched := searchFrom_free pathExists path (parseSuffixIndex stem).1 (extension path)
    (u64Max - (parseSuffixIndex stem).2) (parseSuffixIndex stem).2 steps (by omega) first.free
    fun earlier before => first.taken _ (Nat.le_add_right _ _) (Nat.add_lt_add_left before _)
  unfold resolveAvailableOutputPath
  rw [taken, if_neg (by simp), stemmed]
  exact searched

/-- A path that exists is left for its first free candidate. -/
theorem resolveAvailableOutputPath_taken (found : Path) (taken : pathExists path = true) :
    resolveAvailableOutputPath pathExists path = .ok found ↔
      ∃ stem index, fileStem path = some stem ∧ FirstFree pathExists path stem index ∧
        found = withFileName path (candidate path stem index) := by
  constructor
  · intro success
    unfold resolveAvailableOutputPath at success
    rw [taken, if_neg (by simp)] at success
    split at success
    · cases success
    · rename_i stem stemmed
      obtain ⟨steps, enough, same, free, before⟩ := searchFrom_ok pathExists path
        (parseSuffixIndex stem).1 (extension path) (u64Max - (parseSuffixIndex stem).2)
        (parseSuffixIndex stem).2 found success
      refine ⟨stem, _, stemmed, ⟨Nat.le_add_right _ steps, ?_, same ▸ free, ?_⟩, same⟩
      · have start := parseSuffixIndex_le stem
        omega
      · intro earlier least less
        obtain ⟨ahead, rfl⟩ := Nat.exists_eq_add_of_le least
        exact before ahead (Nat.lt_of_add_lt_add_left less)
  · rintro ⟨stem, index, stemmed, first, rfl⟩
    exact resolveAvailableOutputPath_firstFree pathExists path stem index taken stemmed first

/-- That candidate is a sibling with a longer name. -/
theorem resolveAvailableOutputPath_sibling (found : Path)
    (success : resolveAvailableOutputPath pathExists path = .ok found)
    (taken : pathExists path = true) :
    ∃ wanted name, fileName path = some wanted ∧ 2 < name.length ∧
      found = withFileName path name := by
  obtain ⟨stem, index, stemmed, _, same⟩ :=
    (resolveAvailableOutputPath_taken pathExists path found taken).mp success
  obtain ⟨⟨wanted, named⟩, present⟩ := fileStem_ne_nil path stem stemmed
  exact ⟨wanted, _, named, candidateName_long _ (extension path) index
    (parseSuffixIndex_ne_nil stem present), same⟩

theorem resolveAvailableOutputPath_free (found : Path)
    (success : resolveAvailableOutputPath pathExists path = .ok found) :
    pathExists found = false := by
  by_cases missing : pathExists path = false
  · unfold resolveAvailableOutputPath at success
    rw [if_pos missing] at success
    exact Except.ok.inj success ▸ missing
  · obtain ⟨_, _, _, first, rfl⟩ := (resolveAvailableOutputPath_taken pathExists path found
      (by simpa using missing)).mp success
    exact first.free

/-- What is chosen was free, and is the wanted path or a sibling of it. -/
theorem resolveAvailableOutputPath_ok (found : Path)
    (success : resolveAvailableOutputPath pathExists path = .ok found) :
    pathExists found = false ∧
      (found = path ∨ ∃ wanted name up, fileName path = some wanted ∧ parent path = some up ∧
        components path = components up ++ [.normal wanted] ∧
        found = withFileName path name ∧ components found = components up ++ [.normal name]) := by
  refine ⟨resolveAvailableOutputPath_free pathExists path found success, ?_⟩
  by_cases free : pathExists path = false
  · unfold resolveAvailableOutputPath at success
    rw [if_pos free] at success
    exact .inl (Except.ok.inj success).symm
  · obtain ⟨wanted, name, named, long, rfl⟩ :=
      resolveAvailableOutputPath_sibling pathExists path found success (by simpa using free)
    obtain ⟨up, above, split⟩ := parent_of_fileName path wanted named
    refine .inr ⟨wanted, name, up, named, above, split, rfl, ?_⟩
    exact components_withFileName path up name _ above (by rw [named]; rfl)
      (bodyComponent_long name long) (parent_ne_nil path up above)

/-! The characters of a candidate are those of the wanted name, digits and dots,
so only its length can make it a name no file can have. -/

theorem parseSuffixIndex_mem (stem : Name) :
    ∀ character ∈ (parseSuffixIndex stem).1, character ∈ stem := by
  unfold parseSuffixIndex
  split
  · exact fun _ member => member
  · rename_i front suffix split
    obtain ⟨inFront, _⟩ := rsplitAtDot_mem stem front suffix split
    by_cases kept : front = [] ∨ suffix = [] ∨
        ¬ (suffix.all fun character => character.isDigit) = true
    · rw [if_pos kept]
      exact fun _ member => member
    · rw [if_neg kept]
      split
      · exact fun _ member => member
      · split <;> exact inFront

theorem fileStem_mem (stem wanted : Name) (named : fileName path = some wanted)
    (stemmed : fileStem path = some stem) : ∀ character ∈ stem, character ∈ wanted := by
  unfold fileStem at stemmed
  rw [named, Option.map_some] at stemmed
  obtain rfl := Option.some.inj stemmed
  split
  · exact fun _ member => member
  · exact fun _ member => member
  · rename_i front after _ split
    exact (rsplitAtDot_mem wanted front after split).1

theorem extension_mem (ext wanted : Name) (named : fileName path = some wanted)
    (extended : extension path = some ext) : ∀ character ∈ ext, character ∈ wanted := by
  unfold extension at extended
  rw [named, Option.bind_some] at extended
  split at extended
  · cases extended
  · cases extended
  · rename_i front after _ split
    cases extended
    exact (rsplitAtDot_mem wanted front ext split).2

theorem candidate_mem (stem wanted : Name) (index : Nat) (named : fileName path = some wanted)
    (stemmed : fileStem path = some stem) (character : Char)
    (member : character ∈ candidate path stem index) :
    character ∈ wanted ∨ character = '.' ∨ character.isDigit = true := by
  have front : ∀ c ∈ (parseSuffixIndex stem).1, c ∈ wanted := fun c inside =>
    fileStem_mem path stem wanted named stemmed c (parseSuffixIndex_mem stem c inside)
  have counted : ∀ c ∈ digits index, c.isDigit = true := fun c inside =>
    Nat.isDigit_of_mem_toDigits (by decide) (by decide) inside
  -- A candidate is stem, dot, digits, and the extension if there is one.
  unfold candidate candidateName at member
  cases extended : extension path with
  | none =>
      rw [extended] at member
      dsimp only at member
      rw [List.mem_append, List.mem_cons] at member
      rcases member with inside | dot | digit
      · exact .inl (front character inside)
      · exact .inr (.inl dot)
      · exact .inr (.inr (counted character digit))
  | some ext =>
      rw [extended] at member
      dsimp only at member
      rw [List.mem_append, List.mem_cons, List.mem_append, List.mem_cons] at member
      rcases member with inside | dot | digit | dot | inside
      · exact .inl (front character inside)
      · exact .inr (.inl dot)
      · exact .inr (.inr (counted character digit))
      · exact .inr (.inl dot)
      · exact .inl (extension_mem path ext wanted named extended character inside)

theorem candidate_proper (stem wanted : Name) (index : Nat) (named : fileName path = some wanted)
    (stemmed : fileStem path = some stem) (wantedFits : proper wanted = true)
    (fits : (asBytes (String.ofList (candidate path stem index))).length ≤ 255) :
    proper (candidate path stem index) = true := by
  obtain ⟨_, present⟩ := fileStem_ne_nil path stem stemmed
  have long : 2 < (candidate path stem index).length :=
    candidateName_long _ (extension path) index (parseSuffixIndex_ne_nil stem present)
  have spelled := candidate_mem path stem wanted index named stemmed
  unfold proper at wantedFits ⊢
  simp only [Bool.and_eq_true, decide_eq_true_eq, Bool.not_eq_true', ne_eq] at wantedFits ⊢
  obtain ⟨⟨⟨_, noSlash⟩, noNul⟩, _⟩ := wantedFits
  -- A candidate adds no character that a name may not have; only its length can be wrong.
  have without : ∀ character, wanted.contains character = false → character ≠ '.' →
      character.isDigit = false → (candidate path stem index).contains character = false := by
    intro character absent notDot notDigit
    rw [List.contains_eq_mem, decide_eq_false_iff_not] at absent ⊢
    intro member
    rcases spelled character member with inside | dot | digit
    · exact absent inside
    · exact notDot dot
    · rw [notDigit] at digit
      cases digit
  refine ⟨⟨⟨⟨⟨?_, ?_⟩, ?_⟩, without '/' noSlash (by decide) (by decide)⟩,
    without '\x00' noNul (by decide) (by decide)⟩, fits⟩
  · intro empty
    rw [empty] at long
    cases long
  · intro dot
    rw [dot] at long
    simp at long
  · intro dots
    rw [dots] at long
    simp at long

end Search

end OutputPath
