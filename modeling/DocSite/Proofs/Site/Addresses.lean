import DocSite.Proofs.Text.Pieces
import DocSite.Site.Address

/-!
# Addresses and their paths

An address is made of all segments up to the last one that is present. Its path is these segments
with slashes between them; no slash is lost at its end, since no segment is empty.
-/

namespace DocSite

namespace Address

theorem ext_segments {left right : Address} (same : left.segments = right.segments) :
    left = right := by
  cases left
  cases right
  simpa using same

theorem ofSegments_eq_ok_iff {given : List Text} {address : Address} :
    ofSegments given = .ok address ↔ dropAbsent given = address.segments := by
  constructor
  · intro made
    rw [ofSegments] at made
    split at made
    · split at made
      · rw [← Except.ok.inj made]
      · exact nomatch made
    · exact nomatch made
  · intro same
    have length_le : (dropAbsent given).length ≤ 3 := by
      rw [same]
      exact address.length_le
    have ne_nil : ∀ segment ∈ dropAbsent given, segment ≠ [] := by
      rw [same]
      exact address.ne_nil
    rw [ofSegments]
    simp only [dif_pos length_le, dif_pos ne_nil, Except.ok.injEq]
    exact ext_segments same

theorem dropAbsent_append_replicate (given : List Text) (count : Nat) :
    dropAbsent (given ++ List.replicate count []) = dropAbsent given :=
  rdropWhile_append_replicate rfl given count

theorem exists_eq_dropAbsent_append_replicate (given : List Text) :
    ∃ count, given = dropAbsent given ++ List.replicate count [] :=
  exists_eq_rdropWhile_append_replicate (fun _ => List.isEmpty_iff.mp) given

theorem dropAbsent_segments (address : Address) :
    dropAbsent address.segments = address.segments := by
  refine (List.rdropWhile_eq_self_iff (p := List.isEmpty)).mpr fun any last => ?_
  exact address.ne_nil _ (List.getLast_mem any) (List.isEmpty_iff.mp last)

/-- The path of a page, without a prefix. -/
def path (address : Address) : Text :=
  Text.join "/" address.segments

/-- No segment holds a slash. -/
def Whole (address : Address) : Prop :=
  ∀ segment ∈ address.segments, '/' ∉ segment

theorem route_root : root.route = "/docs".toList :=
  List.append_nil _

theorem segments_ne_nil {address : Address} (other : address ≠ root) : address.segments ≠ [] :=
  fun none => other (ext_segments none)

theorem join_eq_flatMap (segments : List Text) (any : segments ≠ []) :
    '/' :: Text.join "/" segments = segments.flatMap ('/' :: ·) := by
  induction segments using Text.join.induct with
  | case1 => exact (any rfl).elim
  | case2 segment => simp [Text.join]
  | case3 segment next rest induction =>
      rw [Text.join, List.flatMap_cons, ← induction (List.cons_ne_nil next rest)]
      simp

theorem route_of_ne_root {address : Address} (other : address ≠ root) :
    address.route = "/docs/".toList ++ address.path := by
  have below := join_eq_flatMap address.segments (segments_ne_nil other)
  calc address.route
    _ = "/docs".toList ++ '/' :: Text.join "/" address.segments :=
      congrArg ("/docs".toList ++ ·) below.symm
    _ = "/docs/".toList ++ address.path := rfl

/-- Slashes behind the path of a page are all that is dropped at its end, since no segment is empty
or holds a slash. -/
theorem Whole.dropEndWhile_path {address : Address} (whole : address.Whole) :
    Text.dropEndWhile (· == '/') address.path = address.path := by
  by_cases isRoot : address = root
  · rw [isRoot]
    rfl
  obtain ⟨count, path_eq⟩ :=
    exists_eq_rdropWhile_append_replicate (p := (· == '/')) (fun _ => eq_of_beq) address.path
  have cut := Text.splitAt_join whole (segments_ne_nil isRoot)
  change Text.splitAt (· == '/') address.path = address.segments at cut
  rw [path_eq, Text.splitAt_append_replicate] at cut
  have none : count = 0 := by
    by_contra some
    have member : [] ∈ address.segments := by
      rw [← cut]
      exact List.mem_append_right _ (List.mem_replicate.mpr ⟨some, rfl⟩)
    exact address.ne_nil [] member rfl
  rw [none, List.replicate_zero, List.append_nil] at path_eq
  exact path_eq.symm

end Address

end DocSite
