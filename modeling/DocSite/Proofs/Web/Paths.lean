import DocSite.Proofs.Site.Addresses
import DocSite.Web.Server

/-!
# Paths of pages

A path names a page if it is the path of that page with any number of slashes behind it, and no
other path does.
-/

namespace DocSite.Web.Server

section Pieces

variable {path : Text}

theorem parseAddress_of_ok {address : Address}
    (made : Address.ofSegments (Text.splitAt (· == '/') path) = .ok address) :
    parseAddress path = .ok address := by
  rw [parseAddress, made]
  rfl

theorem parseAddress_of_error {reason : AddressError}
    (failed : Address.ofSegments (Text.splitAt (· == '/') path) = .error reason) :
    parseAddress path = .error { path, reason } := by
  rw [parseAddress, failed]
  rfl

/-- An error tells the path that was given. -/
theorem path_of_parseAddress {error : PageError} (failed : parseAddress path = .error error) :
    error.path = path := by
  cases made : Address.ofSegments (Text.splitAt (· == '/') path) with
  | error reason =>
      rw [parseAddress_of_error made] at failed
      rw [← Except.error.inj failed]
  | ok address => exact nomatch (parseAddress_of_ok made).symm.trans failed

theorem parseAddress_eq_ok_iff_pieces {address : Address} :
    parseAddress path = .ok address ↔
      Address.dropAbsent (Text.splitAt (· == '/') path) = address.segments := by
  rw [← Address.ofSegments_eq_ok_iff]
  cases made : Address.ofSegments (Text.splitAt (· == '/') path) with
  | error reason => simp [parseAddress_of_error made]
  | ok found => simp [parseAddress_of_ok made]

end Pieces

theorem splitAt_ne_nil (path : Text) : Text.splitAt (· == '/') path ≠ [] := by
  rw [Text.splitAt_eq_splitOnP]
  exact List.splitOnP_ne_nil _ path

/-- A path is read as a page if and only if it is the path of the page with slashes behind it. -/
theorem parseAddress_eq_ok_iff {path : Text} {address : Address} :
    parseAddress path = .ok address ↔
      address.Whole ∧ ∃ count, path = address.path ++ List.replicate count '/' := by
  rw [parseAddress_eq_ok_iff_pieces]
  constructor
  · intro segments_eq
    obtain ⟨count, pieces_eq⟩ :=
      Address.exists_eq_dropAbsent_append_replicate (Text.splitAt (· == '/') path)
    rw [segments_eq] at pieces_eq
    have whole : address.Whole := by
      intro segment member
      apply Text.not_mem_of_mem_splitAt
      rw [pieces_eq]
      exact List.mem_append_left _ member
    have joined : Text.join "/" (Text.splitAt (· == '/') path) = path := Text.join_splitAt path
    rw [pieces_eq] at joined
    refine ⟨whole, ?_⟩
    by_cases isRoot : address = .root
    · -- The path of the root page is empty, and cut into one piece, as every text is.
      subst isRoot
      cases count with
      | zero => exact (splitAt_ne_nil path pieces_eq).elim
      | succ count =>
          refine ⟨count, joined.symm.trans ?_⟩
          have noSlash : ∀ piece ∈ ([[]] : List Text), '/' ∉ piece := by simp
          exact Text.join_append_replicate noSlash (List.cons_ne_nil _ _) count
    · refine ⟨count, joined.symm.trans ?_⟩
      exact Text.join_append_replicate whole (Address.segments_ne_nil isRoot) count
  · rintro ⟨whole, count, rfl⟩
    rw [Text.splitAt_append_replicate, Address.dropAbsent_append_replicate]
    by_cases isRoot : address = .root
    · rw [isRoot]
      rfl
    · have cut : Text.splitAt (· == '/') address.path = address.segments :=
        Text.splitAt_join whole (Address.segments_ne_nil isRoot)
      rw [cut, Address.dropAbsent_segments]

variable {path other : Text} {address : Address}

theorem dropEndWhile_of_parseAddress (parsed : parseAddress path = .ok address) :
    Text.dropEndWhile (· == '/') path = address.path := by
  obtain ⟨whole, count, rfl⟩ := parseAddress_eq_ok_iff.mp parsed
  exact (rdropWhile_append_replicate rfl address.path count).trans whole.dropEndWhile_path

/-- Two paths lead to one page if and only if they differ in slashes at their ends. -/
theorem parseAddress_eq_iff {otherAddress : Address} (parsed : parseAddress path = .ok address)
    (otherParsed : parseAddress other = .ok otherAddress) :
    address = otherAddress ↔
      Text.dropEndWhile (· == '/') path = Text.dropEndWhile (· == '/') other := by
  rw [dropEndWhile_of_parseAddress parsed, dropEndWhile_of_parseAddress otherParsed]
  constructor
  · exact congrArg Address.path
  · intro same
    obtain ⟨otherWhole, -⟩ := parseAddress_eq_ok_iff.mp otherParsed
    obtain ⟨whole, -⟩ := parseAddress_eq_ok_iff.mp parsed
    have leads : parseAddress address.path = .ok address :=
      parseAddress_eq_ok_iff.mpr ⟨whole, 0, by simp⟩
    have otherLeads : parseAddress address.path = .ok otherAddress :=
      parseAddress_eq_ok_iff.mpr ⟨otherWhole, 0, by simp [same]⟩
    exact Except.ok.inj (leads.symm.trans otherLeads)

end DocSite.Web.Server
