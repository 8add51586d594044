import DocSite.Proofs.Storage.Walking

/-!
# Writing files

A file is only written where there is no directory, so that every path leads to the same place as
before. The path that names a file to write leads to it afterwards.
-/

namespace DocSite

namespace FileSystem

open Storage

/-- The content of the file that a path leads to. -/
def contentAt? (files : FileSystem) (current : Place) (path : Text) : Option Text.Bytes :=
  match files.locate current path with
  | .error _ => none
  | .ok place =>
    match files.entry place with
    | .missing | .directory => none
    | .file content => some content

variable {files : FileSystem} {current place found : Place} {path : Text}

/-! ## Entries -/

@[simp] theorem entry_write_self (files : FileSystem) (place : Place) (content : Text.Bytes) :
    (files.write place content).entry place = .file content :=
  if_pos rfl

theorem entry_write_of_ne {other : Place} (different : other ≠ place) (content : Text.Bytes) :
    (files.write place content).entry other = files.entry other :=
  if_neg different

/-! ## Paths -/

theorem step_write (apart : files.entry place ≠ .directory) (content : Text.Bytes)
    {start next : Place} {part : Text} (stepped : files.step start part = .ok next) :
    (files.write place content).step start part = .ok next := by
  obtain ⟨directory, isTarget⟩ := step_eq_ok_iff.mp stepped
  have different : start ≠ place := fun same => apart (same ▸ directory)
  exact step_eq_ok_iff.mpr ⟨(entry_write_of_ne different content).trans directory, isTarget⟩

theorem foldlM_step_write (apart : files.entry place ≠ .directory) (content : Text.Bytes)
    {parts : List Text} {start next : Place} (walked : parts.foldlM files.step start = .ok next) :
    parts.foldlM (files.write place content).step start = .ok next := by
  induction parts generalizing start with
  | nil => exact walked
  | cons part parts induction =>
      rw [List.foldlM_cons] at walked ⊢
      obtain ⟨between, stepped, behind⟩ := Except.bind_eq_ok_iff.mp walked
      rw [step_write apart content stepped, Except.ok_bind]
      exact induction behind

/-- A path still leads to where it led to before a file was written. -/
theorem locate_write (apart : files.entry place ≠ .directory) (content : Text.Bytes)
    (located : files.locate current path = .ok found) :
    (files.write place content).locate current path = .ok found := by
  rw [locate] at located ⊢
  split at located
  · cases located
  · next any =>
      rw [if_neg any]
      exact foldlM_step_write apart content located

/-! ## The place of a file to write -/

theorem lastPart_eq (path : Text) :
    lastPart path = (path.rdropWhile (· != '/'), path.rtakeWhile (· != '/')) := by
  have whole := List.rdropWhile_append_rtakeWhile (p := (· != '/')) (l := path)
  have long : path.length - (path.rtakeWhile (· != '/')).length =
      (path.rdropWhile (· != '/')).length := by
    have lengths := congrArg List.length whole
    rw [List.length_append] at lengths
    omega
  refine Prod.ext ?_ rfl
  change path.take (path.length - (path.rtakeWhile (· != '/')).length) = _
  rw [long]
  exact (List.prefix_iff_eq_take.mp ⟨_, whole⟩).symm

/-- A path is a name alone, or a name behind a slash. -/
theorem lastPart_cases (path : Text) : '/' ∉ (lastPart path).2 ∧
    (lastPart path = ([], path) ∨
      ∃ front name, path = front ++ '/' :: name ∧ lastPart path = (front ++ ['/'], name)) := by
  have whole := List.rdropWhile_append_rtakeWhile (p := (· != '/')) (l := path)
  rw [lastPart_eq]
  refine ⟨fun slash => by simpa using List.mem_rtakeWhile_imp slash, ?_⟩
  by_cases alone : path.rdropWhile (· != '/') = []
  · rw [alone] at whole ⊢
    exact .inl (Prod.ext rfl whole)
  · have slash := List.rdropWhile_last_not _ path alone
    rw [bne_iff_ne, not_not] at slash
    have parent := List.dropLast_append_getLast alone
    rw [slash] at parent
    refine .inr ⟨_, _, ?_, Prod.ext parent.symm rfl⟩
    rw [List.append_cons, parent, whole]

theorem locate_of_name {name : Text} (any : name ≠ []) (whole : '/' ∉ name) :
    files.locate current name = files.step (startOf current name) name := by
  rw [locate, if_neg (by simpa using any), Text.splitAt_eq_singleton_iff.mpr whole]
  exact bind_pure _

theorem locate_of_parent {front name : Text} (whole : '/' ∉ name) {directory : Place}
    (located : files.locate current (front ++ ['/']) = .ok directory) :
    files.locate current (front ++ '/' :: name) = files.step directory name := by
  have alone := Text.splitAt_eq_singleton_iff.mpr whole
  have start : startOf current (front ++ '/' :: name) = startOf current (front ++ ['/']) := by
    cases front with
    | nil => rfl
    | cons c front => rfl
  rw [locate, if_neg (by simp)] at located ⊢
  rw [start]
  rw [Text.splitAt_eq_splitOn] at located alone ⊢
  rw [List.splitOn_append_cons_self, List.foldlM_append] at located ⊢
  obtain ⟨above, walked, last⟩ := Except.bind_eq_ok_iff.mp located
  obtain ⟨next, stepped, same⟩ := Except.bind_eq_ok_iff.mp last
  cases same
  obtain ⟨-, rfl⟩ := step_eq_ok_iff.mp stepped
  rw [walked, alone, Except.ok_bind, List.foldlM_cons]
  exact bind_pure _

/-- What is known of the place of a file to write: its directory is there, and its name is the last
part of the path. -/
theorem of_writable_eq_ok (isPlace : files.writable current path = .ok place) :
    (lastPart path).2 ≠ [] ∧ files.entry place ≠ .directory ∧
      ∃ directory, files.step directory (lastPart path).2 = .ok place ∧
        ((lastPart path).1 = [] → directory = startOf current path) ∧
        ((lastPart path).1 ≠ [] → files.locate current (lastPart path).1 = .ok directory) := by
  rw [writable] at isPlace
  split at isPlace
  · nomatch isPlace
  dsimp only [pure_bind] at isPlace
  rw [← apply_ite (fun first : Except FileError Place => first >>= _)] at isPlace
  obtain ⟨directory, isDirectory, isPlace⟩ := Except.bind_eq_ok_iff.mp isPlace
  obtain ⟨next, stepped, isPlace⟩ := Except.bind_eq_ok_iff.mp isPlace
  split at isPlace
  · nomatch isPlace
  next named =>
  simp only [Bool.or_eq_true, bne_iff_ne, decide_eq_true_eq, not_or, not_not] at named
  obtain ⟨⟨⟨trimmed, any⟩, -⟩, -⟩ := named
  rw [trimmed] at isDirectory stepped any
  have apart : next = place ∧ files.entry next ≠ .directory := by
    cases entry : files.entry next with
    | directory =>
        rw [entry] at isPlace
        nomatch isPlace
    | missing | file =>
        rw [entry] at isPlace
        exact ⟨Except.ok.inj isPlace, nofun⟩
  obtain ⟨rfl, apart⟩ := apart
  refine ⟨any, apart, directory, stepped, fun alone => ?_, fun below => ?_⟩
  · rw [alone] at isDirectory
    exact (Except.ok.inj isDirectory).symm
  · rw [if_neg (by simpa using below)] at isDirectory
    exact isDirectory

/-- The path of a file to write leads to its place, which is no directory. -/
theorem locate_of_writable (isPlace : files.writable current path = .ok place) :
    files.locate current path = .ok place ∧ files.entry place ≠ .directory := by
  obtain ⟨any, apart, directory, stepped, here, below⟩ := of_writable_eq_ok isPlace
  refine ⟨?_, apart⟩
  obtain ⟨whole, alone | ⟨front, name, isPath, parted⟩⟩ := lastPart_cases path
  · rw [alone] at any whole stepped here
    rw [locate_of_name any whole, ← here rfl]
    exact stepped
  · rw [parted] at whole stepped below
    rw [isPath, locate_of_parent whole (below (by simp))]
    exact stepped

/-- What is written to the file of a path is found there. -/
theorem contentAt?_write (isPlace : files.writable current path = .ok place)
    (content : Text.Bytes) :
    (files.write place content).contentAt? current path = some content := by
  obtain ⟨located, apart⟩ := locate_of_writable isPlace
  rw [contentAt?, locate_write apart content located]
  dsimp only
  rw [entry_write_self]

end FileSystem

end DocSite
