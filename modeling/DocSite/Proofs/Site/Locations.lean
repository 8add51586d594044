import DocSite.Proofs.Site.Addresses
import DocSite.Site.Location

/-!
# Pages and their documents

The path of a document is made of the segments of its page, where a category stands for the page
`index` in it. The path of the root document is the only one without a slash, and every other one is
cut at its slashes into the segments again. So two pages share a document only if the one is a
category and the other one is the page `index` in it.
-/

namespace DocSite

namespace Address

/-- The address is that of a category, and the other one is that of the page `index` in it. -/
def IsAboveIndex (address other : Address) : Prop :=
  ∃ category, address.segments = [category] ∧ other.segments = [category, "index".toList]

/-- The segments that the path of a page's document is made of. -/
def documentSegments (address : Address) : List Text :=
  match address.segments with
  | [category] => [category, "index".toList]
  | segments => segments

variable {address left right : Address}

theorem documentSegments_of_category {category : Text} (alone : address.segments = [category]) :
    address.documentSegments = [category, "index".toList] := by
  rw [documentSegments, alone]

theorem documentSegments_of_ne (other : ∀ category, address.segments ≠ [category]) :
    address.documentSegments = address.segments := by
  rw [documentSegments]
  split
  · exact (other _ ‹_›).elim
  · rfl

/-- Below the root there are two segments at least. -/
theorem exists_documentSegments_eq (other : address ≠ root) :
    ∃ first second rest, address.documentSegments = first :: second :: rest := by
  by_cases alone : ∃ category, address.segments = [category]
  · obtain ⟨category, alone⟩ := alone
    exact ⟨_, _, _, documentSegments_of_category alone⟩
  · rw [documentSegments_of_ne (not_exists.mp alone)]
    match split : address.segments with
    | [] => exact (segments_ne_nil other split).elim
    | [category] => exact (alone ⟨category, split⟩).elim
    | first :: second :: rest => exact ⟨first, second, rest, rfl⟩

theorem Whole.documentSegments (whole : address.Whole) :
    ∀ segment ∈ address.documentSegments, '/' ∉ segment := by
  by_cases alone : ∃ category, address.segments = [category]
  · obtain ⟨category, alone⟩ := alone
    have category_whole : '/' ∉ category := whole category (by simp [alone])
    rw [documentSegments_of_category alone]
    exact List.forall_mem_cons.mpr
      ⟨category_whole, List.forall_mem_singleton.mpr (by decide)⟩
  · rw [documentSegments_of_ne (not_exists.mp alone)]
    exact whole

/-- Two pages have the same segments in the paths of their documents only if they are the same page,
or a category and the page `index` in it. -/
theorem documentSegments_eq_iff :
    left.documentSegments = right.documentSegments ↔
      left = right ∨ left.IsAboveIndex right ∨ right.IsAboveIndex left := by
  constructor
  · intro same
    by_cases leftAlone : ∃ category, left.segments = [category]
    · obtain ⟨category, leftAlone⟩ := leftAlone
      rw [documentSegments_of_category leftAlone] at same
      by_cases rightAlone : ∃ category, right.segments = [category]
      · obtain ⟨other, rightAlone⟩ := rightAlone
        rw [documentSegments_of_category rightAlone] at same
        have categories : category = other := (List.cons.inj same).1
        exact .inl (ext_segments (by rw [leftAlone, rightAlone, categories]))
      · rw [documentSegments_of_ne (not_exists.mp rightAlone)] at same
        exact .inr (.inl ⟨category, leftAlone, same.symm⟩)
    · rw [documentSegments_of_ne (not_exists.mp leftAlone)] at same
      by_cases rightAlone : ∃ category, right.segments = [category]
      · obtain ⟨category, rightAlone⟩ := rightAlone
        rw [documentSegments_of_category rightAlone] at same
        exact .inr (.inr ⟨category, rightAlone, same⟩)
      · rw [documentSegments_of_ne (not_exists.mp rightAlone)] at same
        exact .inl (ext_segments same)
  · have index {address other : Address} (above : address.IsAboveIndex other) :
        address.documentSegments = other.documentSegments := by
      obtain ⟨category, alone, below⟩ := above
      rw [documentSegments_of_category alone, documentSegments_of_ne (by simp [below]), below]
    rintro (rfl | above | above)
    · rfl
    · exact index above
    · exact (index above).symm

end Address

namespace Location

variable {location : Location} {address left right : Address}

theorem documentPath_of_ne_root (location : Location) (other : address ≠ .root) :
    location.documentPath address =
      Text.join "/" address.documentSegments ++ ".md".toList := by
  by_cases alone : ∃ category, address.segments = [category]
  · obtain ⟨category, alone⟩ := alone
    rw [documentPath, alone, Address.documentSegments_of_category alone]
    simp [Text.join]
  · rw [documentPath, Address.documentSegments_of_ne (not_exists.mp alone)]
    split
    · exact (Address.segments_ne_nil other ‹_›).elim
    · exact (alone ⟨_, ‹_›⟩).elim
    · rfl

theorem slash_mem_documentPath (location : Location) (other : address ≠ .root) :
    '/' ∈ location.documentPath address := by
  obtain ⟨first, second, rest, split⟩ := Address.exists_documentSegments_eq other
  simp [documentPath_of_ne_root location other, split, Text.join]

/-- Cutting the paths of documents at their slashes gives the segments back. -/
theorem documentPath_eq_iff (location : Location) (leftOther : left ≠ .root)
    (rightOther : right ≠ .root) (leftWhole : left.Whole) (rightWhole : right.Whole) :
    location.documentPath left = location.documentPath right ↔
      left.documentSegments = right.documentSegments := by
  have any {address : Address} (other : address ≠ .root) : address.documentSegments ≠ [] := by
    obtain ⟨first, second, rest, split⟩ := Address.exists_documentSegments_eq other
    simp [split]
  rw [documentPath_of_ne_root location leftOther, documentPath_of_ne_root location rightOther,
    List.append_left_inj]
  constructor
  · intro same
    rw [← Text.splitAt_join leftWhole.documentSegments (any leftOther),
      ← Text.splitAt_join rightWhole.documentSegments (any rightOther)]
    exact congrArg (Text.splitAt (· == '/')) same
  · exact congrArg (Text.join "/")

theorem url_eq_iff_documentPath_eq :
    location.url left = location.url right ↔
      location.documentPath left = location.documentPath right := by
  rw [url, url, List.append_right_inj, List.cons.injEq]
  exact and_iff_right rfl

/-- The root page shares its document with no other page. -/
theorem url_eq_url_root_iff (rootWhole : '/' ∉ location.rootDocument) :
    location.url address = location.url .root ↔ address = .root := by
  refine ⟨fun same => ?_, congrArg location.url⟩
  rw [url_eq_iff_documentPath_eq] at same
  by_contra other
  have slash := slash_mem_documentPath location other
  rw [same] at slash
  exact rootWhole slash

/-- Different pages have different documents, except that a category has that of the page `index` in
it, if there are no slashes in the root document and in segments. Whatever the segments are, the
root page shares its document with no other page. -/
theorem url_eq_url_iff (rootWhole : '/' ∉ location.rootDocument) :
    (∀ left right : Address, left.Whole → right.Whole →
      (location.url left = location.url right ↔
        left = right ∨ left.IsAboveIndex right ∨ right.IsAboveIndex left)) ∧
      ∀ address : Address, location.url address = location.url .root ↔ address = .root := by
  refine ⟨fun left right leftWhole rightWhole => ?_, fun address => url_eq_url_root_iff rootWhole⟩
  have isRoot {other : Address} : ¬Address.root.IsAboveIndex other ∧ ¬other.IsAboveIndex .root := by
    constructor <;> rintro ⟨category, above, below⟩
    · exact List.cons_ne_nil _ _ above.symm
    · exact List.cons_ne_nil _ _ below.symm
  by_cases leftRoot : left = .root
  · subst leftRoot
    rw [eq_comm, url_eq_url_root_iff rootWhole]
    simp [isRoot, eq_comm]
  by_cases rightRoot : right = .root
  · subst rightRoot
    rw [url_eq_url_root_iff rootWhole]
    simp [isRoot]
  rw [url_eq_iff_documentPath_eq, documentPath_eq_iff location leftRoot rightRoot leftWhole
    rightWhole, Address.documentSegments_eq_iff]

/-- A category with dots in its name, the page `index` in it, and a subpage of the category `index`
with the name of the root document. -/
theorem url_eq_url_iff_dots :
    let location := Location.of "https://docs.test/" "index.md"
    let category : Address := ⟨["a.md".toList], by decide, by decide⟩
    let index : Address := ⟨["a.md".toList, "index".toList], by decide, by decide⟩
    let subpage : Address := ⟨["index".toList, "index.md".toList], by decide, by decide⟩
    '/' ∉ location.rootDocument ∧ category.Whole ∧ index.Whole ∧ subpage.Whole ∧
      location.url category = location.url index ∧
      location.url category ≠ location.url subpage ∧
      location.url subpage ≠ location.url .root := by
  intro location category index subpage
  have rootWhole : '/' ∉ location.rootDocument := by decide
  have categoryWhole : category.Whole := (by decide : ∀ segment ∈ category.segments, '/' ∉ segment)
  have indexWhole : index.Whole := (by decide : ∀ segment ∈ index.segments, '/' ∉ segment)
  have subpageWhole : subpage.Whole := (by decide : ∀ segment ∈ subpage.segments, '/' ∉ segment)
  have above : category.IsAboveIndex index := ⟨"a.md".toList, rfl, rfl⟩
  have apart : ¬(category = subpage ∨ category.IsAboveIndex subpage ∨
      subpage.IsAboveIndex category) := by
    rintro (same | ⟨name, -, below⟩ | ⟨name, above, -⟩)
    · exact absurd same (by decide)
    · exact absurd (List.cons.inj (List.cons.inj below).2).1 (by decide)
    · exact absurd (List.cons.inj above).2 (List.cons_ne_nil _ _)
  obtain ⟨pages, root⟩ := url_eq_url_iff rootWhole
  exact ⟨rootWhole, categoryWhole, indexWhole, subpageWhole,
    (pages category index categoryWhole indexWhole).mpr (.inr (.inl above)),
    fun same => apart ((pages category subpage categoryWhole subpageWhole).mp same),
    fun same => absurd ((root subpage).mp same) (by decide)⟩

-- With slashes in segments, other pages share documents too.
example :
    Location.default.url ⟨["a/b".toList], by decide, by decide⟩ =
      Location.default.url ⟨["a".toList, "b/index".toList], by decide, by decide⟩ := by
  decide

end Location

end DocSite
