import DocSite.Proofs.Config.Loading
import DocSite.Proofs.Storage.Walking
import Mathlib.Data.List.Infix

/-!
# The nearest configuration file

The search for a configuration file looks into the directory where it starts and then into each
directory above it, up to the root. It ends at the first file that it meets, so nothing beyond that
file, and nothing beside the way up, makes a difference to it.
-/

namespace DocSite.Config

open Storage

/-! ## The search -/

/-- The search for a configuration file, with the directories that it looks into and the path of the
file that it meets. -/
inductive Climb (files : FileSystem) : Place → List Place → Option Text → Prop
  /-- There is a file. -/
  | found {start : Place} (there : isFound files start) :
      Climb files start [start] (some (pathIn start fileName))
  /-- There is none up to the root. -/
  | top {start : Place} (absent : ¬isFound files start) (root : start = []) :
      Climb files start [start] none
  /-- There is none here, and the search goes on in the directory above. -/
  | up {start : Place} {looked : List Place} {found : Option Text}
      (absent : ¬isFound files start) (below : start ≠ [])
      (behind : Climb files start.dropLast looked found) : Climb files start (start :: looked) found

/-- A directory is the nearest one with a configuration file, on the way up from the start. -/
structure IsNearest (files : FileSystem) (start place : Place) : Prop where
  above : place <+: start
  there : isFound files place
  nearest : ∀ other, other <+: start → isFound files other → other <+: place

variable {files other : FileSystem} {start place : Place} {looked others : List Place}
  {found otherFound : Option Text}

/-! ## Steps of the search -/

theorem chain_eq (below : start ≠ []) : chain start = start :: chain start.dropLast := by
  rw [← List.dropLast_concat_getLast below, List.dropLast_concat, chain, List.reverse_concat,
    chainFrom, List.reverse_cons, List.reverse_reverse, chain]

theorem nearest?_eq (files : FileSystem) (start : Place) :
    nearest? files start =
      if isFound files start then some (pathIn start fileName)
      else if start = [] then none
      else nearest? files start.dropLast := by
  rcases eq_or_ne start [] with rfl | below
  · have alone : chain [] = [[]] := rfl
    rw [nearest?, alone, List.find?_singleton, if_pos rfl]
    split <;> rfl
  · rw [nearest?, nearest?, chain_eq below, List.find?_cons, if_neg below]
    cases isFound files start <;> rfl

theorem prefix_dropLast_iff (below : start ≠ []) :
    place <+: start ↔ place = start ∨ place <+: start.dropLast := by
  rw [← List.dropLast_concat_getLast below, List.prefix_concat_iff, List.dropLast_concat]

theorem length_dropLast_lt (below : start ≠ []) : start.dropLast.length < start.length := by
  have some := List.length_pos_of_ne_nil below
  rw [List.length_dropLast]
  omega

theorem exists_climb (files : FileSystem) (start : Place) :
    ∃ looked, Climb files start looked (nearest? files start) := by
  rw [nearest?_eq]
  split
  · next there => exact ⟨_, .found there⟩
  · next absent =>
      split
      · next root => exact ⟨_, .top absent root⟩
      · next below =>
          have shorter := length_dropLast_lt below
          obtain ⟨looked, behind⟩ := exists_climb files start.dropLast
          exact ⟨_, .up absent below behind⟩
termination_by start.length

namespace Climb

theorem unique (climb : Climb files start looked found)
    (also : Climb files start others otherFound) : others = looked ∧ otherFound = found := by
  induction climb generalizing others otherFound with
  | found there =>
      cases also with
      | found => exact ⟨rfl, rfl⟩
      | top absent | up absent => exact (absent there).elim
  | top absent root =>
      cases also with
      | found there => exact (absent there).elim
      | top => exact ⟨rfl, rfl⟩
      | up _ below => exact (below root).elim
  | up absent below behind induction =>
      cases also with
      | found there => exact (absent there).elim
      | top _ root => exact (below root).elim
      | up _ _ alsoBehind =>
          obtain ⟨rfl, rfl⟩ := induction alsoBehind
          exact ⟨rfl, rfl⟩

theorem length_le (climb : Climb files start looked found) :
    looked.length ≤ start.length + 1 := by
  induction climb with
  | found there => exact Nat.succ_le_succ (Nat.zero_le _)
  | top absent root => exact Nat.succ_le_succ (Nat.zero_le _)
  | up absent below behind induction =>
      rw [List.length_cons]
      exact Nat.succ_le_succ (induction.trans (length_dropLast_lt below))

/-- The search looks into the directories from the start up to the nearest file. -/
theorem mem_looked_iff (climb : Climb files start looked found) :
    place ∈ looked ↔
      place <+: start ∧ ∀ other, other <+: start → isFound files other → other <+: place := by
  induction climb with
  | found there =>
      rw [List.mem_singleton]
      constructor
      · rintro rfl
        exact ⟨List.prefix_rfl, fun other isAbove _ => isAbove⟩
      · rintro ⟨isAbove, nearest⟩
        exact isAbove.eq_of_length_le (nearest _ List.prefix_rfl there).length_le
  | top absent root =>
      rw [List.mem_singleton, root]
      constructor
      · rintro rfl
        exact ⟨List.prefix_rfl, fun other isAbove _ => isAbove⟩
      · exact fun ⟨isAbove, _⟩ => List.prefix_nil.mp isAbove
  | @up start _ _ absent below behind induction =>
      have isAbove := List.dropLast_prefix start
      rw [List.mem_cons, induction]
      constructor
      · rintro (rfl | ⟨above, nearest⟩)
        · exact ⟨List.prefix_rfl, fun other isAbove _ => isAbove⟩
        · refine ⟨above.trans isAbove, fun other otherAbove there => ?_⟩
          rcases (prefix_dropLast_iff below).mp otherAbove with rfl | otherAbove
          · exact (absent there).elim
          · exact nearest other otherAbove there
      · rintro ⟨above, nearest⟩
        refine ((prefix_dropLast_iff below).mp above).imp_right fun above => ⟨above, ?_⟩
        exact fun other otherAbove => nearest other (otherAbove.trans isAbove)

end Climb

theorem isNearest_iff_of_isFound (there : isFound files start) :
    IsNearest files start place ↔ place = start := by
  constructor
  · rintro ⟨above, -, nearest⟩
    exact above.eq_of_length_le (nearest start List.prefix_rfl there).length_le
  · rintro rfl
    exact ⟨List.prefix_rfl, there, fun other isAbove _ => isAbove⟩

theorem isNearest_iff_dropLast (absent : ¬isFound files start) (below : start ≠ []) :
    IsNearest files start place ↔ IsNearest files start.dropLast place := by
  have isAbove := List.dropLast_prefix start
  constructor
  · rintro ⟨above, there, nearest⟩
    refine ⟨?_, there, fun other otherAbove => nearest other (otherAbove.trans isAbove)⟩
    rcases (prefix_dropLast_iff below).mp above with rfl | above
    · exact (absent there).elim
    · exact above
  · rintro ⟨above, there, nearest⟩
    refine ⟨above.trans isAbove, there, fun other otherAbove otherThere => ?_⟩
    rcases (prefix_dropLast_iff below).mp otherAbove with rfl | otherAbove
    · exact (absent otherThere).elim
    · exact nearest other otherAbove otherThere

theorem Climb.found_eq_some_iff (climb : Climb files start looked found) {path : Text} :
    found = some path ↔ ∃ place, IsNearest files start place ∧ path = pathIn place fileName := by
  induction climb with
  | found there =>
      simp only [isNearest_iff_of_isFound there, exists_eq_left, Option.some_inj]
      exact eq_comm
  | top absent root =>
      refine iff_of_false nofun ?_
      rintro ⟨place, ⟨above, there, -⟩, -⟩
      rw [root, List.prefix_nil] at above
      exact absent (root ▸ above ▸ there)
  | up absent below behind induction =>
      simp only [induction, isNearest_iff_dropLast absent below]

theorem Climb.found_eq_none_iff (climb : Climb files start looked found) :
    found = none ↔ ∀ place, place <+: start → ¬isFound files place := by
  induction climb with
  | found there => exact iff_of_false nofun fun none => none _ List.prefix_rfl there
  | top absent root =>
      refine iff_of_true rfl fun place isAbove there => ?_
      rw [root, List.prefix_nil] at isAbove
      exact absent (root ▸ isAbove ▸ there)
  | up absent below behind induction =>
      rw [induction]
      constructor
      · intro none place isAbove
        rcases (prefix_dropLast_iff below).mp isAbove with rfl | isAbove
        · exact absent
        · exact none place isAbove
      · exact fun none place isAbove => none place (isAbove.trans (List.dropLast_prefix _))

/-! ## What makes no difference -/

/-- Two file systems are alike wherever a search looks that goes through certain directories. -/
def AlikeOnWay (files other : FileSystem) (looked : List Place) : Prop :=
  ∀ place ∈ looked, ∀ seen ∈ FileSystem.visited place (pathIn place fileName),
    (files.entry seen).SameKind (other.entry seen)

theorem isFound_eq_of_alike (alike : AlikeOnWay files other looked) (member : place ∈ looked) :
    isFound files place = isFound other place :=
  FileSystem.isPresent_eq_of_sameKind (alike place member)

theorem Climb.of_alike (climb : Climb files start looked found)
    (alike : AlikeOnWay files other looked) : Climb other start looked found := by
  induction climb with
  | found there =>
      rw [isFound_eq_of_alike alike List.mem_cons_self] at there
      exact .found there
  | top absent root =>
      rw [isFound_eq_of_alike alike List.mem_cons_self] at absent
      exact .top absent root
  | up absent below behind induction =>
      rw [isFound_eq_of_alike alike List.mem_cons_self] at absent
      exact .up absent below
        (induction fun place member => alike place (List.mem_cons_of_mem _ member))

theorem nearest?_eq_of_climb (climb : Climb files start looked found) :
    nearest? files start = found := by
  obtain ⟨others, also⟩ := exists_climb files start
  exact (climb.unique also).2

/-- The file that is read is the one that is named, or else the nearest one. -/
theorem path_of_load {surroundings : Surroundings} {path? : Option Text}
    {overrides? : Option Overrides} {loaded : Loaded}
    (loads : load surroundings path? overrides? = .ok loaded) :
    loaded.path = path?.or (nearest? surroundings.files surroundings.directory) := by
  obtain ⟨found?, isFound, loads⟩ := Except.bind_eq_ok_iff.mp loads
  rw [← filePath_eq_ok isFound]
  cases found? with
  | none =>
      obtain ⟨config, -, same⟩ := Except.bind_eq_ok_iff.mp loads
      cases same
      rfl
  | some file =>
      obtain ⟨base, -, loads⟩ := Except.bind_eq_ok_iff.mp loads
      obtain ⟨config, -, same⟩ := Except.bind_eq_ok_iff.mp loads
      cases same
      rfl

theorem isName_fileName : IsName fileName :=
  ⟨by decide, by decide, by decide, by decide⟩

/-- A start with names alone: the directories on the way up and the files with the right name are
all that the search looks at. -/
theorem alikeOnWay_of_names (allNames : ∀ name ∈ start, IsName name)
    (climb : Climb files start looked found)
    (directories : ∀ place, place <+: start → (files.entry place).SameKind (other.entry place))
    (candidates : ∀ place ∈ looked,
      (files.entry (place ++ [fileName])).SameKind (other.entry (place ++ [fileName]))) :
    AlikeOnWay files other looked := by
  intro place member seen isSeen
  have isAbove := (climb.mem_looked_iff.mp member).1
  have names : ∀ name ∈ place, IsName name := fun name within =>
    allNames name (isAbove.subset within)
  rcases (FileSystem.mem_visited_pathIn_iff names isName_fileName place seen).mp isSeen with
    above | rfl
  · exact directories seen (above.trans isAbove)
  · exact candidates place member

/-- Wherever it starts, the search for a configuration file ends, after it has looked into no more
directories than there are from the start to the root. It finds the file in the nearest of them that
has one, and it finds nothing exactly if none of them has one. It looks no further up than to that
file: as long as the entries on the way to the files that it looks for stay of their kinds, whatever
else is added, changed or removed, the same file is read. For a start with names alone, these
entries are the directories from the root to the start, and one entry in each directory that is
looked into. -/
theorem nearest_file_is_read (files : FileSystem) (start : Place) :
    ∃ looked,
      (∀ others found, Climb files start others found ↔
        others = looked ∧ found = nearest? files start) ∧
      looked.length ≤ start.length + 1 ∧
      (∀ path, nearest? files start = some path ↔
        ∃ place, IsNearest files start place ∧ path = pathIn place fileName) ∧
      (nearest? files start = none ↔ ∀ place, place <+: start → ¬isFound files place) ∧
      (∀ place, place ∈ looked ↔
        place <+: start ∧ ∀ other, other <+: start → isFound files other → other <+: place) ∧
      (∀ other environment, AlikeOnWay files other looked →
        filePath ⟨other, start, environment⟩ none = .ok (nearest? files start) ∧
        ∀ overrides? loaded, load ⟨other, start, environment⟩ none overrides? = .ok loaded →
          loaded.path = nearest? files start) ∧
      ((∀ name ∈ start, IsName name) →
        (∀ place, place <+: start → (isFound files place ↔
          (∀ above, above <+: place → files.entry above = .directory) ∧
            files.entry (place ++ [fileName]) ≠ .missing)) ∧
        ∀ other,
          (∀ place, place <+: start → (files.entry place).SameKind (other.entry place)) →
          (∀ place ∈ looked,
            (files.entry (place ++ [fileName])).SameKind (other.entry (place ++ [fileName]))) →
          AlikeOnWay files other looked) := by
  obtain ⟨looked, climb⟩ := exists_climb files start
  refine ⟨looked, fun others found => ⟨climb.unique, ?_⟩, climb.length_le,
    fun path => climb.found_eq_some_iff, climb.found_eq_none_iff, fun place => climb.mem_looked_iff,
    fun other environment alike => ?_, fun allNames => ⟨fun place isAbove => ?_, fun other =>
      alikeOnWay_of_names allNames climb⟩⟩
  · rintro ⟨rfl, rfl⟩
    exact climb
  · have same := nearest?_eq_of_climb (climb.of_alike alike)
    refine ⟨congrArg Except.ok same, fun overrides? loaded loads => ?_⟩
    rw [path_of_load loads]
    exact same
  · exact FileSystem.isPresent_pathIn_iff (fun name within => allNames name (isAbove.subset within))
      isName_fileName

/-- There is a file in the directory above the start and one at the root. The first of them is
written anew, and the other one is removed. -/
theorem nearest_file_is_read_two_files :
    let start : Place := ["docs", "sql"]
    let files : FileSystem := ⟨fun place =>
      if place <+: start then .directory
      else if place = ["docs", "jb.toml"] ∨ place = ["jb.toml"] then .file []
      else .missing⟩
    let other : FileSystem := ⟨fun place =>
      if place <+: start then .directory
      else if place = ["docs", "jb.toml"] ∨ place = ["docs", "sql", "select.md"] then .file [35]
      else .missing⟩
    IsNearest files start ["docs"] ∧ nearest? files start = some "/docs/jb.toml".toList ∧
      ∀ environment, filePath ⟨other, start, environment⟩ none = .ok (some "/docs/jb.toml") := by
  intro start files other
  have isNearest : IsNearest files start ["docs"] := by
    have all : ∀ place ∈ start.inits, isFound files place → place <+: ["docs"] := by decide +kernel
    exact ⟨⟨["sql"], rfl⟩, by decide +kernel, fun place isAbove =>
      all place ((List.mem_inits _ _).mpr isAbove)⟩
  have allNames : ∀ name ∈ start, IsName name := by
    rw [List.forall_mem_cons, List.forall_mem_singleton]
    exact ⟨⟨by decide, by decide, by decide, by decide⟩,
      ⟨by decide, by decide, by decide, by decide⟩⟩
  obtain ⟨looked, -, -, isRead, -, inLooked, unchanged, names⟩ := nearest_file_is_read files start
  have nearest : nearest? files start = some "/docs/jb.toml".toList :=
    (isRead _).mpr ⟨_, isNearest, by decide +kernel⟩
  refine ⟨isNearest, nearest, fun environment => ?_⟩
  rw [← nearest]
  refine (unchanged other environment ((names allNames).2 other ?_ ?_)).1
  · intro place isAbove
    have directory : files.entry place = .directory := if_pos isAbove
    have otherDirectory : other.entry place = .directory := if_pos isAbove
    rw [directory, otherDirectory]
    exact .directory
  · intro place member
    obtain ⟨isAbove, below⟩ := (inLooked place).mp member
    have both : ∀ place ∈ start.inits, (["docs"] : Place) <+: place →
        (files.entry (place ++ [fileName]) = .file [] ∧
          other.entry (place ++ [fileName]) = .file [35]) ∨
        (files.entry (place ++ [fileName]) = .missing ∧
          other.entry (place ++ [fileName]) = .missing) := by
      decide +kernel
    have near := below _ isNearest.above isNearest.there
    rcases both place ((List.mem_inits _ _).mpr isAbove) near with
      ⟨before, after⟩ | ⟨before, after⟩
    · rw [before, after]
      exact .file [] [35]
    · rw [before, after]
      exact .missing

end DocSite.Config
