import Timelocked.OutputPath

/-!
What the search for a free name promises, for every answer to which paths
exist: the first free index from the start on, in the same directory. The
extension stays where there is one; a name without any ends in the index.
-/
namespace OutputNames
open RunRules Base PathText OutputPath

/-- A stem that ends in a counter: a front, a dot, and decimal digits that fit 64 bits. -/
structure Counted (stem front : Name) (counter : Nat) : Prop where
  spelled : ∃ suffix, stem = front ++ '.' :: suffix ∧ suffix ≠ [] ∧
    (∀ digit ∈ suffix, digit.isDigit = true) ∧ parseDigits suffix = counter
  named : front ≠ []
  bounded : counter ≤ u64Max

/-- Where the search starts, and from which stem. -/
def StartsAt (stem base : Name) (start : Nat) : Prop :=
  (∃ counter, Counted stem base counter ∧
      start = if counter = u64Max then u64Max else counter + 1) ∨
    ((∀ front counter, ¬ Counted stem front counter) ∧ base = stem ∧ start = 1)

def numbered (path : Path) (base : Name) (index : Nat) : Path :=
  withFileName path (candidateName base (extension path) index)

/-- The path the search settles on when the wanted one is taken. -/
structure Settled (pathExists : Path → Bool) (path found : Path) (base : Name)
    (start index : Nat) : Prop where
  found_eq : found = numbered path base index
  least : start ≤ index
  bounded : index ≤ u64Max
  free : pathExists found = false
  taken : ∀ earlier, start ≤ earlier → earlier < index →
    pathExists (numbered path base earlier) = true
  parent_eq : parent found = parent path
  extension_eq : ∀ ext, extension path = some ext → extension found = some ext
  extensionless : extension path = none →
    fileName found = some (base ++ '.' :: digits index)

theorem counted_cut (stem front : Name) (counter : Nat) (counted : Counted stem front counter) :
    ∃ suffix, rsplitAtDot stem = some (front, suffix) ∧ suffix ≠ [] ∧
      (suffix.all fun character => character.isDigit) = true ∧ parseDigits suffix = counter := by
  obtain ⟨⟨suffix, spelled, present, each, value⟩, _, _⟩ := counted
  refine ⟨suffix, (rsplitAtDot_eq_some _ _ _).mpr ⟨spelled, fun dot => ?_⟩, present,
    List.all_eq_true.mpr each, value⟩
  have digit := each '.' dot
  cases digit

theorem counted_unique (stem front front' : Name) (counter counter' : Nat)
    (one : Counted stem front counter) (other : Counted stem front' counter') :
    front = front' ∧ counter = counter' := by
  obtain ⟨suffix, cut, _, _, value⟩ := counted_cut stem front counter one
  obtain ⟨suffix', cut', _, _, value'⟩ := counted_cut stem front' counter' other
  obtain ⟨rfl, rfl⟩ := Prod.mk.inj (Option.some.inj (cut.symm.trans cut'))
  exact ⟨rfl, value.symm.trans value'⟩

theorem startsAt_unique (stem base base' : Name) (start start' : Nat)
    (one : StartsAt stem base start) (other : StartsAt stem base' start') :
    base = base' ∧ start = start' := by
  rcases one with ⟨counter, counted, rfl⟩ | ⟨uncounted, rfl, rfl⟩
  · rcases other with ⟨counter', counted', rfl⟩ | ⟨uncounted', _, _⟩
    · obtain ⟨rfl, rfl⟩ := counted_unique stem base base' counter counter' counted counted'
      exact ⟨rfl, rfl⟩
    · exact absurd counted (uncounted' base counter)
  · rcases other with ⟨counter', counted', _⟩ | ⟨_, rfl, rfl⟩
    · exact absurd counted' (uncounted base' counter')
    · exact ⟨rfl, rfl⟩

/-- The parsed suffix says where the search starts. -/
theorem parseSuffixIndex_startsAt (stem base : Name) (start : Nat) :
    parseSuffixIndex stem = (base, start) ↔ StartsAt stem base start := by
  have starts : StartsAt stem (parseSuffixIndex stem).1 (parseSuffixIndex stem).2 := by
    unfold parseSuffixIndex
    split
    · rename_i uncut
      refine .inr ⟨fun front counter counted => ?_, rfl, rfl⟩
      obtain ⟨_, cut, _⟩ := counted_cut stem front counter counted
      rw [uncut] at cut
      cases cut
    · rename_i front suffix cut
      -- No other cut of the stem can be a counter.
      have only : ∀ front' counter, Counted stem front' counter →
          front ≠ [] ∧ suffix ≠ [] ∧ (suffix.all fun character => character.isDigit) = true ∧
            parseDigits suffix = counter ∧ counter ≤ u64Max := by
        intro front' counter counted
        obtain ⟨suffix', cut', present, each, value⟩ := counted_cut stem front' counter counted
        rw [cut] at cut'
        obtain ⟨rfl, rfl⟩ := Prod.mk.inj (Option.some.inj cut')
        exact ⟨counted.named, present, each, value, counted.bounded⟩
      by_cases kept : front = [] ∨ suffix = [] ∨
          ¬ (suffix.all fun character => character.isDigit) = true
      · rw [if_pos kept]
        refine .inr ⟨fun front' counter counted => ?_, rfl, rfl⟩
        obtain ⟨present, some_, each, _⟩ := only front' counter counted
        rcases kept with nothing | nothing | other
        · exact present nothing
        · exact some_ nothing
        · exact other each
      · obtain ⟨present, some_, each⟩ : front ≠ [] ∧ suffix ≠ [] ∧
            (suffix.all fun character => character.isDigit) = true := by
          simpa only [not_or, not_not] using kept
        rw [if_neg kept]
        have counted (bounded : parseDigits suffix ≤ u64Max) :
            Counted stem front (parseDigits suffix) :=
          ⟨⟨suffix, ((rsplitAtDot_eq_some _ _ _).mp cut).1, some_, List.all_eq_true.mp each, rfl⟩,
            present, bounded⟩
        split
        · rename_i long
          refine .inr ⟨fun front' counter other => ?_, rfl, rfl⟩
          obtain ⟨_, _, _, value, bounded⟩ := only front' counter other
          omega
        · rename_i short
          have bounded := Nat.not_lt.mp short
          split
          · rename_i last
            exact .inl ⟨_, counted bounded, by rw [if_pos last]⟩
          · rename_i notLast
            exact .inl ⟨_, counted bounded, by rw [if_neg notLast]⟩
  constructor
  · intro parsed
    rw [parsed] at starts
    exact starts
  · intro other
    obtain ⟨front, index⟩ := startsAt_unique stem _ _ _ _ starts other
    exact Prod.ext front index

theorem parseSuffixIndex_starts (stem : Name) :
    StartsAt stem (parseSuffixIndex stem).1 (parseSuffixIndex stem).2 :=
  (parseSuffixIndex_startsAt stem _ _).mp rfl

section Numbered
variable (path : Path) (wanted base : Name) (index : Nat) (named : fileName path = some wanted)
  (present : base ≠ [])
include named present

theorem numbered_fileName :
    fileName (numbered path base index) = some (candidateName base (extension path) index) :=
  fileName_withFileName path wanted _ named
    (bodyComponent_long _ (candidateName_long base (extension path) index present))

theorem numbered_parent : parent (numbered path base index) = parent path :=
  parent_withFileName path wanted _ named
    (bodyComponent_long _ (candidateName_long base (extension path) index present))

/-- The extension is what follows the last dot, before the index and after it. -/
theorem numbered_extension (ext : Name) (extended : extension path = some ext) :
    extension (numbered path base index) = some ext := by
  have plain : '.' ∉ ext := by
    unfold extension at extended
    rw [named, Option.bind_some] at extended
    split at extended
    · cases extended
    · cases extended
    · rename_i front after _ cut
      cases extended
      exact ((rsplitAtDot_eq_some _ _ _).mp cut).2
  have cut : rsplitAtDot (base ++ '.' :: (digits index ++ '.' :: ext)) =
      some (base ++ '.' :: digits index, ext) :=
    (rsplitAtDot_eq_some _ _ _).mpr ⟨by simp, plain⟩
  have numberedName := numbered_fileName path wanted base index named present
  rw [extended] at numberedName
  have spelled : candidateName base (some ext) index = base ++ '.' :: (digits index ++ '.' :: ext) :=
    rfl
  have front : base ++ '.' :: digits index ≠ [] := by simp
  unfold extension
  rw [numberedName, Option.bind_some, spelled, cut]
  split
  · rename_i nothing
    exact absurd nothing (by simp)
  · rename_i split
    exact absurd (Prod.mk.inj (Option.some.inj split)).1 front
  · rename_i split
    rw [(Prod.mk.inj (Option.some.inj split)).2]

end Numbered

/-- Where the search fails, every index was taken. -/
theorem searchFrom_error (pathExists : Path → Bool) (path : Path) (baseStem : Name)
    (extension : Option Name) (later index : Nat) (reason : Error)
    (failed : searchFrom pathExists path baseStem extension later index = .error reason) :
    ∀ steps, steps ≤ later →
      pathExists (withFileName path (candidateName baseStem extension (index + steps))) = true := by
  induction later generalizing index with
  | zero =>
      intro steps within
      obtain rfl := Nat.le_zero.mp within
      rw [searchFrom] at failed
      split at failed
      · cases failed
      · rename_i here
        simpa using here
  | succ later ih =>
      intro steps within
      rw [searchFrom] at failed
      split at failed
      · cases failed
      · rename_i here
        cases steps with
        | zero => simpa using here
        | succ steps =>
            have further := ih (index + 1) failed steps (Nat.le_of_succ_le_succ within)
            rwa [Nat.add_assoc, Nat.add_comm 1 steps] at further

/-- A free path is left alone. A taken one is left for the first free index from
its start on, beside it; the search gives up only on a path without a stem, or
when every index is taken. -/
theorem output_name_fresh (pathExists : Path → Bool) (path : Path) :
    (pathExists path = false → resolveAvailableOutputPath pathExists path = .ok path) ∧
    (∀ found, pathExists path = true → resolveAvailableOutputPath pathExists path = .ok found →
      ∃ stem base start index, fileStem path = some stem ∧ StartsAt stem base start ∧
        Settled pathExists path found base start index) ∧
    ∀ reason, resolveAvailableOutputPath pathExists path = .error reason →
      pathExists path = true ∧ (fileStem path = none ∨
        ∃ stem base start, fileStem path = some stem ∧ StartsAt stem base start ∧
          ∀ index, start ≤ index → index ≤ u64Max →
            pathExists (numbered path base index) = true) := by
  refine ⟨fun free => if_pos free, fun found taken success => ?_, fun reason failed => ?_⟩
  · obtain ⟨stem, index, stemmed, first, rfl⟩ :=
      (resolveAvailableOutputPath_taken pathExists path found taken).mp success
    obtain ⟨⟨wanted, named⟩, spoken⟩ := fileStem_ne_nil path stem stemmed
    have present := parseSuffixIndex_ne_nil stem spoken
    refine ⟨stem, _, _, index, stemmed, parseSuffixIndex_starts stem, rfl, first.least,
      first.bounded, first.free, first.taken, ?_, ?_, ?_⟩
    · exact numbered_parent path wanted _ index named present
    · exact numbered_extension path wanted _ index named present
    · intro plain
      have name := numbered_fileName path wanted _ index named present
      rw [plain] at name
      exact name
  · unfold resolveAvailableOutputPath at failed
    split at failed
    · cases failed
    · rename_i taken
      refine ⟨by simpa using taken, ?_⟩
      split at failed
      · rename_i stemless
        exact .inl stemless
      · rename_i stem stemmed
        refine .inr ⟨stem, _, _, stemmed, parseSuffixIndex_starts stem, fun index least bounded => ?_⟩
        have all := searchFrom_error pathExists path (parseSuffixIndex stem).1 (extension path)
          (u64Max - (parseSuffixIndex stem).2) (parseSuffixIndex stem).2 reason failed
          (index - (parseSuffixIndex stem).2) (by omega)
        rwa [Nat.add_sub_cancel' least] at all

def twoTaken (path : Path) : Bool := path = ofText "out" || path = ofText "out.1"

theorem output_name_fresh_second :
    ∃ stem base start index, fileStem (ofText "out") = some stem ∧ StartsAt stem base start ∧
      Settled twoTaken (ofText "out") (ofText "out.2") base start index :=
  (output_name_fresh twoTaken (ofText "out")).2.1 (ofText "out.2") (by decide +kernel)
    (by decide +kernel)

/-- A name without an extension gets one, the index. -/
theorem extension_grows :
    ¬ ∀ (pathExists : Path → Bool) (path found : Path), pathExists path = true →
      resolveAvailableOutputPath pathExists path = .ok found →
        extension found = extension path := by
  intro all
  have same := all twoTaken (ofText "out") (ofText "out.2") (by decide +kernel) (by decide +kernel)
  have plain : extension (ofText "out") = none := by decide +kernel
  have grown : extension (ofText "out.2") = some ['2'] := by decide +kernel
  rw [plain, grown] at same
  cases same

end OutputNames
