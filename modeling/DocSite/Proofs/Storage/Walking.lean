import DocSite.Proofs.Except
import DocSite.Proofs.Text.Pieces
import DocSite.Storage.FileSystem

/-!
# Walking along paths

A path is walked part by part, and only through directories. Where it leads to depends on nothing
but the kinds of the entries on the way. On a path of names alone, these are the directories above
its end.
-/

namespace DocSite

namespace Storage

/-- Entries that are alike as long as they are not read. -/
inductive Entry.SameKind : Entry → Entry → Prop
  | missing : SameKind .missing .missing
  | directory : SameKind .directory .directory
  | file (content other : Text.Bytes) : SameKind (.file content) (.file other)

/-- A part of a path that is the name of an entry of a directory. -/
structure IsName (part : Text) : Prop where
  any : part ≠ []
  whole : '/' ∉ part
  isNotHere : part ≠ ['.']
  isNotAbove : part ≠ ['.', '.']

/-- The place that one part of a path leads to, if it is followed from a directory. -/
def target (place : Place) (part : Text) : Place :=
  if part = [] ∨ part = ['.'] then place
  else if part = ['.', '.'] then place.dropLast
  else place ++ [part]

theorem target_of_isName {part : Text} (isName : IsName part) (place : Place) :
    target place part = place ++ [part] := by
  rw [target, if_neg (not_or_intro isName.any isName.isNotHere), if_neg isName.isNotAbove]

/-- The places that have been looked at, after one more part of a path; the last of them comes
first. -/
def visit (places : List Place) (part : Text) : List Place :=
  let place := places.headD []
  if part = [] ∨ part = ['.'] then places
  else if part = ['.', '.'] then place.dropLast :: places
  else (place ++ [part]) :: places

theorem headD_visit (places : List Place) (part : Text) :
    (visit places part).headD [] = target (places.headD []) part := by
  rw [visit, target]
  split
  · rfl
  · split <;> rfl

theorem suffix_visit (places : List Place) (part : Text) : places <:+ visit places part := by
  rw [visit]
  split
  · exact List.suffix_rfl
  · split <;> exact List.suffix_cons _ _

theorem suffix_foldl_visit (parts : List Text) (places : List Place) :
    places <:+ parts.foldl visit places := by
  induction parts generalizing places with
  | nil => exact List.suffix_rfl
  | cons part parts induction => exact (suffix_visit places part).trans (induction _)

theorem visit_of_isName {part : Text} (isName : IsName part) (places : List Place) :
    visit places part = (places.headD [] ++ [part]) :: places := by
  rw [visit, if_neg (not_or_intro isName.any isName.isNotHere), if_neg isName.isNotAbove]

end Storage

namespace FileSystem

open Storage

variable {files other : FileSystem}

/-! ## Walking in two file systems -/

theorem step_eq_ok_iff {place next : Place} {part : Text} :
    files.step place part = .ok next ↔
      files.entry place = .directory ∧ next = target place part := by
  rw [step, target]
  cases files.entry place with
  | missing | file => simp
  | directory => grind

theorem step_eq_of_sameKind {place : Place}
    (same : (files.entry place).SameKind (other.entry place)) (part : Text) :
    files.step place part = other.step place part := by
  rw [step, step]
  generalize files.entry place = entry at same ⊢
  generalize other.entry place = otherEntry at same ⊢
  cases same <;> rfl

theorem visited_eq (current : Place) (path : Text) :
    visited current path =
      (Text.splitAt (· == '/') path).foldl visit [startOf current path] :=
  rfl

theorem foldlM_step_of_sameKind {parts : List Text} {places : List Place} (any : places ≠ [])
    (same : ∀ place ∈ parts.foldl visit places, (files.entry place).SameKind (other.entry place)) :
    parts.foldlM files.step (places.headD []) = parts.foldlM other.step (places.headD []) ∧
    ∀ place, parts.foldlM files.step (places.headD []) = .ok place →
      place ∈ parts.foldl visit places := by
  induction parts generalizing places with
  | nil =>
      obtain ⟨place, above, rfl⟩ := List.exists_cons_of_ne_nil any
      refine ⟨rfl, ?_⟩
      rintro _ ⟨⟩
      exact List.mem_cons_self
  | cons part parts induction =>
      have first : places.headD [] ∈ parts.foldl visit (visit places part) := by
        obtain ⟨place, above, rfl⟩ := List.exists_cons_of_ne_nil any
        exact (suffix_foldl_visit (part :: parts) _).subset List.mem_cons_self
      have more : visit places part ≠ [] := fun none =>
        any (List.suffix_nil.mp (none ▸ suffix_visit places part))
      obtain ⟨alike, ends⟩ := induction more same
      rw [headD_visit] at alike ends
      rw [List.foldlM_cons, List.foldlM_cons, ← step_eq_of_sameKind (same _ first)]
      cases stepped : files.step (places.headD []) part with
      | error error => exact ⟨rfl, nofun⟩
      | ok next =>
          obtain ⟨-, rfl⟩ := step_eq_ok_iff.mp stepped
          exact ⟨alike, ends⟩

/-- Whether something is where a path leads to depends on the kinds of the entries on the way. -/
theorem isPresent_eq_of_sameKind {current : Place} {path : Text}
    (same : ∀ place ∈ visited current path, (files.entry place).SameKind (other.entry place)) :
    files.isPresent current path = other.isPresent current path := by
  obtain ⟨alike, ends⟩ := foldlM_step_of_sameKind (List.cons_ne_nil _ _) same
  rw [List.headD_cons] at alike ends
  rw [isPresent, isPresent, locate, locate, ← alike]
  cases path.isEmpty with
  | true => rfl
  | false =>
      rw [if_neg Bool.false_ne_true]
      cases located : (Text.splitAt (· == '/') path).foldlM files.step (startOf current path) with
      | error error => rfl
      | ok place =>
          have kinds := same place (ends place located)
          dsimp only
          generalize files.entry place = entry at kinds ⊢
          generalize other.entry place = otherEntry at kinds ⊢
          cases kinds <;> rfl

/-! ## Walking in one file system -/

/-- Names are followed if and only if there are directories at all places before the last. -/
theorem foldlM_step_names_iff {names : List Text} (allNames : ∀ name ∈ names, IsName name)
    {start place : Place} :
    names.foldlM files.step start = .ok place ↔
      place = start ++ names ∧
        ∀ above, above <+: names → above ≠ names → files.entry (start ++ above) = .directory := by
  induction names generalizing start with
  | nil =>
      rw [List.append_nil]
      constructor
      · rintro ⟨⟩
        exact ⟨rfl, fun above isAbove below => (below (List.prefix_nil.mp isAbove)).elim⟩
      · rintro ⟨rfl, -⟩
        rfl
  | cons name names induction =>
      rw [List.forall_mem_cons] at allNames
      rw [List.foldlM_cons, Except.bind_eq_ok_iff]
      simp only [step_eq_ok_iff, target_of_isName allNames.1, induction allNames.2]
      constructor
      · rintro ⟨next, ⟨directory, rfl⟩, rfl, directories⟩
        refine ⟨by simp, fun above isAbove below => ?_⟩
        cases above with
        | nil => simpa using directory
        | cons first above =>
            obtain ⟨rfl, isBehind⟩ := List.cons_prefix_cons.mp isAbove
            simpa using directories above isBehind (by simpa using below)
      · rintro ⟨rfl, directories⟩
        refine ⟨start ++ [name], ⟨?_, rfl⟩, by simp, fun above isAbove below => ?_⟩
        · simpa using directories [] List.nil_prefix (List.cons_ne_nil _ _).symm
        · have longer : name :: above <+: name :: names := List.cons_prefix_cons.mpr ⟨rfl, isAbove⟩
          simpa using directories _ longer (by simpa using below)

theorem mem_foldl_visit_names_iff {names : List Text} (allNames : ∀ name ∈ names, IsName name)
    {place seen : Place} {places : List Place} :
    seen ∈ names.foldl visit (place :: places) ↔
      seen ∈ places ∨ ∃ above, above <+: names ∧ seen = place ++ above := by
  induction names generalizing place places with
  | nil =>
      simp only [List.foldl_nil, List.mem_cons, List.prefix_nil, exists_eq_left, List.append_nil,
        or_comm]
  | cons name names induction =>
      rw [List.forall_mem_cons] at allNames
      rw [List.foldl_cons, visit_of_isName allNames.1, induction allNames.2, List.headD_cons,
        List.mem_cons]
      constructor
      · rintro ((rfl | seen) | ⟨above, isAbove, rfl⟩)
        · exact .inr ⟨[], List.nil_prefix, (List.append_nil seen).symm⟩
        · exact .inl seen
        · exact .inr ⟨name :: above, List.cons_prefix_cons.mpr ⟨rfl, isAbove⟩,
            List.append_assoc place [name] above⟩
      · rintro (seen | ⟨above, isAbove, rfl⟩)
        · exact .inl (.inr seen)
        · cases above with
          | nil => exact .inl (.inl (List.append_nil place))
          | cons first above =>
              obtain ⟨rfl, isBehind⟩ := List.cons_prefix_cons.mp isAbove
              exact .inr ⟨above, isBehind, (List.append_assoc place [first] above).symm⟩

/-! ## Paths of files in directories -/

theorem startOf_pathIn (current place : Place) (name : Text) :
    startOf current (pathIn place name) = [] := by
  rw [startOf, if_pos]
  cases place with
  | nil => rfl
  | cons first place => rfl

section Names

variable {place : Place} (allNames : ∀ name ∈ place, IsName name) {name : Text}
  (isName : IsName name)
include allNames isName

theorem isName_of_mem_concat : ∀ part ∈ place ++ [name], IsName part := by
  rw [List.forall_mem_append, List.forall_mem_singleton]
  exact ⟨allNames, isName⟩

theorem splitAt_pathIn :
    Text.splitAt (· == '/') (pathIn place name) = [] :: (place ++ [name]) := by
  have joined : pathIn place name = Text.join ['/'] ([] :: (place ++ [name])) := by
    rw [Text.join_cons, List.flatMap_append, List.flatMap_singleton]
    rfl
  rw [joined]
  refine Text.splitAt_join ?_ (List.cons_ne_nil _ _)
  rw [List.forall_mem_cons]
  exact ⟨List.not_mem_nil, fun part member =>
    (isName_of_mem_concat allNames isName part member).whole⟩

theorem mem_visited_pathIn_iff (current seen : Place) :
    seen ∈ visited current (pathIn place name) ↔ seen <+: place ∨ seen = place ++ [name] := by
  have here : visit [[]] [] = [[]] := rfl
  rw [visited_eq, splitAt_pathIn allNames isName, startOf_pathIn, List.foldl_cons, here,
    mem_foldl_visit_names_iff (isName_of_mem_concat allNames isName)]
  simp only [List.not_mem_nil, false_or, List.nil_append, exists_eq_right', List.prefix_concat_iff,
    or_comm]

theorem locate_pathIn_iff {current found : Place} :
    files.locate current (pathIn place name) = .ok found ↔
      found = place ++ [name] ∧ ∀ above, above <+: place → files.entry above = .directory := by
  have some : ¬(pathIn place name).isEmpty := by simp [pathIn]
  have here : target [] [] = [] := rfl
  rw [locate, if_neg some, splitAt_pathIn allNames isName, startOf_pathIn, List.foldlM_cons,
    Except.bind_eq_ok_iff]
  simp only [step_eq_ok_iff, here,
    foldlM_step_names_iff (isName_of_mem_concat allNames isName)]
  constructor
  · rintro ⟨_, ⟨root, rfl⟩, rfl, directories⟩
    refine ⟨rfl, fun above isAbove => ?_⟩
    refine directories above (List.prefix_concat_iff.mpr (.inr isAbove)) ?_
    rintro rfl
    have short := isAbove.length_le
    rw [List.length_append, List.length_singleton] at short
    omega
  · rintro ⟨rfl, directories⟩
    refine ⟨[], ⟨directories [] List.nil_prefix, rfl⟩, rfl, fun above isAbove below => ?_⟩
    exact directories above ((List.prefix_concat_iff.mp isAbove).resolve_left below)

theorem isPresent_pathIn_iff {current : Place} :
    files.isPresent current (pathIn place name) ↔
      (∀ above, above <+: place → files.entry above = .directory) ∧
        files.entry (place ++ [name]) ≠ .missing := by
  have located := @locate_pathIn_iff files place allNames name isName current
  rw [isPresent]
  split
  · next found isPlace =>
      obtain ⟨rfl, directories⟩ := located.mp isPlace
      rw [bne_iff_ne]
      exact (and_iff_right directories).symm
  · next error fails =>
      constructor
      · exact nofun
      · rintro ⟨directories, -⟩
        rw [located.mpr ⟨rfl, directories⟩] at fails
        nomatch fails

end Names

end FileSystem

end DocSite
