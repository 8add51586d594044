import DocSite.Proofs.Site.Addresses

/-!
# Segments without gaps

Segments are an address if those that are present come first and are three at most. Otherwise it is
told which is the last one, if that comes after the third place, or else the first gap: the first
absent segment, and the first present one behind it. The places in a gap are below three, so each of
them has a name.
-/

namespace DocSite

namespace Level

/-- The index of a level. -/
def index : Level → Nat
  | category => 0
  | subpage => 1
  | subsubpage => 2

theorem ofIndex_index (level : Level) : ofIndex level.index = level := by
  cases level <;> rfl

theorem index_ofIndex : {index : Nat} → index < 3 → (ofIndex index).index = index
  | 0, _ | 1, _ | 2, _ => rfl

end Level

namespace Address

/-! ## Places of segments -/

/-- A segment that is not empty is given at an index. -/
def IsPresent (given : List Text) (index : Nat) : Prop :=
  ∃ segment, given[index]? = some segment ∧ segment ≠ []

/-- The last segment that is present is the one with this number, counted from one. -/
def IsLast (given : List Text) (count : Nat) : Prop :=
  IsPresent given (count - 1) ∧ ∀ index, IsPresent given index → index < count

/-- The first gap in some segments. -/
structure IsGap (given : List Text) (first next : Nat) : Prop where
  /-- It begins with an empty segment. -/
  absent : given[first]? = some []
  /-- All segments before it are present. -/
  before : ∀ index < first, IsPresent given index
  /-- The segment behind it is present. -/
  present : IsPresent given next
  first_lt : first < next
  /-- All segments in it are empty. -/
  between : ∀ index, first < index → index < next → given[index]? = some []

variable {given other : List Text} {count index first next : Nat}

theorem IsPresent.lt_length (present : IsPresent given index) : index < given.length := by
  obtain ⟨segment, found, -⟩ := present
  exact (List.getElem?_eq_some_iff.mp found).1

theorem isPresent_iff (inside : index < given.length) :
    IsPresent given index ↔ given[index].isEmpty = false := by
  simp [IsPresent, inside, List.isEmpty_eq_false_iff]

theorem not_isPresent (absent : given[index]? = some []) : ¬IsPresent given index := by
  rintro ⟨segment, found, any⟩
  rw [absent] at found
  exact any (Option.some.inj found).symm

theorem isPresent_append_replicate (kept : List Text) (count : Nat) :
    IsPresent (kept ++ List.replicate count []) index ↔ IsPresent kept index := by
  by_cases inside : index < kept.length
  · rw [IsPresent, IsPresent, List.getElem?_append_left inside]
  · refine ⟨fun present => ?_, fun present => (inside present.lt_length).elim⟩
    obtain ⟨segment, found, any⟩ := present
    rw [List.getElem?_append_right (Nat.le_of_not_lt inside)] at found
    exact (any (List.eq_of_mem_replicate (List.mem_of_getElem? found))).elim

/-! ## Without the empty segments at the end -/

theorem getElem?_dropAbsent (inside : index < (dropAbsent given).length) :
    (dropAbsent given)[index]? = given[index]? := by
  obtain ⟨count, split⟩ := exists_eq_dropAbsent_append_replicate given
  have same : (dropAbsent given ++ List.replicate count [])[index]? = _ :=
    List.getElem?_append_left inside
  rw [← split] at same
  exact same.symm

theorem isPresent_dropAbsent : IsPresent (dropAbsent given) index ↔ IsPresent given index := by
  obtain ⟨count, split⟩ := exists_eq_dropAbsent_append_replicate given
  have same : IsPresent (dropAbsent given ++ List.replicate count []) index ↔ _ :=
    isPresent_append_replicate _ _
  rw [← split] at same
  exact same.symm

theorem isPresent_last (any : dropAbsent given ≠ []) :
    IsPresent (dropAbsent given) ((dropAbsent given).length - 1) := by
  have last := List.rdropWhile_last_not (p := List.isEmpty) given any
  refine ⟨(dropAbsent given).getLast any, ?_, fun empty => last (List.isEmpty_iff.mpr empty)⟩
  rw [← List.getLast?_eq_getElem?, List.getLast?_eq_some_getLast any]

theorem isLast_iff :
    IsLast given count ↔ dropAbsent given ≠ [] ∧ count = (dropAbsent given).length := by
  constructor
  · rintro ⟨present, last⟩
    have inside := (isPresent_dropAbsent.mpr present).lt_length
    have any : dropAbsent given ≠ [] := List.ne_nil_of_length_pos (by omega)
    have above := last _ (isPresent_dropAbsent.mp (isPresent_last any))
    exact ⟨any, by omega⟩
  · rintro ⟨any, rfl⟩
    exact ⟨isPresent_dropAbsent.mp (isPresent_last any),
      fun index present => (isPresent_dropAbsent.mpr present).lt_length⟩

/-! ## Gaps -/

/-- A gap is seen from the segments up to the one behind it. -/
theorem IsGap.congr (isGap : IsGap given first next)
    (same : ∀ index ≤ next, given[index]? = other[index]?) : IsGap other first next := by
  have first_lt := isGap.first_lt
  have present {index : Nat} (inside : index ≤ next) (present : IsPresent given index) :
      IsPresent other index := by
    rwa [IsPresent, ← same index inside]
  refine
    { absent := (same first (by omega)).symm.trans isGap.absent
      before := fun index below => present (by omega) (isGap.before index below)
      present := present le_rfl isGap.present
      first_lt := first_lt
      between := fun index above below => ?_ }
  exact (same index (by omega)).symm.trans (isGap.between index above below)

theorem isGap_dropAbsent : IsGap (dropAbsent given) first next ↔ IsGap given first next := by
  constructor
  · intro isGap
    have inside := isGap.present.lt_length
    exact isGap.congr fun index below => getElem?_dropAbsent (by omega)
  · intro isGap
    have inside := (isPresent_dropAbsent.mpr isGap.present).lt_length
    exact isGap.congr fun index below => (getElem?_dropAbsent (by omega)).symm

/-- There is one first gap at most. -/
theorem IsGap.unique {otherFirst otherNext : Nat} (isGap : IsGap given first next)
    (other : IsGap given otherFirst otherNext) : first = otherFirst ∧ next = otherNext := by
  have same : first = otherFirst := by
    rcases Nat.lt_trichotomy first otherFirst with below | same | above
    · exact (not_isPresent isGap.absent (other.before first below)).elim
    · exact same
    · exact (not_isPresent other.absent (isGap.before otherFirst above)).elim
  refine ⟨same, ?_⟩
  rcases Nat.lt_trichotomy next otherNext with below | same_next | above
  · have behind : otherFirst < next := same ▸ isGap.first_lt
    exact (not_isPresent (other.between next behind below) isGap.present).elim
  · exact same_next
  · have behind : first < otherNext := same ▸ other.first_lt
    exact (not_isPresent (isGap.between otherNext behind above) other.present).elim

/-- If a segment is missing and the last one is present, the first gap is found. -/
theorem isGap_gap (missing : [] ∈ given) (last : IsPresent given (given.length - 1)) :
    IsGap given (gap given) (afterGap given) := by
  have gap_inside : gap given < given.length :=
    List.findIdx_lt_length_of_exists ⟨[], missing, rfl⟩
  have gap_empty : given[gap given].isEmpty = true := List.findIdx_getElem
  -- The last segment stands behind the gap, so the search for a present one ends before it.
  have last_inside : given.length - 1 < given.length := last.lt_length
  have ends : ∃ segment ∈ given.drop (gap given), (!segment.isEmpty) = true := by
    refine ⟨given[given.length - 1], ?_, ?_⟩
    · exact List.mem_drop_iff_getElem.mpr
        ⟨given.length - 1 - gap given, by omega, by congr 1; omega⟩
    · rw [(isPresent_iff last_inside).mp last]
      rfl
  have offset_inside := List.findIdx_lt_length_of_exists ends
  have next_inside : afterGap given < given.length := by
    rw [List.length_drop] at offset_inside
    rw [afterGap]
    omega
  have found := List.findIdx_getElem (w := offset_inside)
  rw [List.getElem_drop] at found
  have next_present : given[afterGap given].isEmpty = false := by
    exact (Bool.not_eq_true' _).mp found
  refine
    { absent := ?absent
      before := fun index below => ?before
      present := (isPresent_iff next_inside).mpr next_present
      first_lt := ?behind
      between := fun index above below => ?between }
  case absent => rw [List.getElem?_eq_getElem gap_inside, List.isEmpty_iff.mp gap_empty]
  case before => exact (isPresent_iff (below.trans gap_inside)).mpr (List.not_of_lt_findIdx below)
  case behind =>
    refine lt_of_le_of_ne (Nat.le_add_right _ _) fun same => ?_
    simp only [← same, gap_empty, Bool.true_eq_false] at next_present
  case between =>
    have inside : index - gap given < (given.drop (gap given)).findIdx
        fun segment => !segment.isEmpty := by
      rw [afterGap] at below
      omega
    have empty := List.not_of_lt_findIdx inside
    have position : gap given + (index - gap given) = index := by omega
    simp only [List.getElem_drop, position, Bool.not_eq_false'] at empty
    rw [List.getElem?_eq_getElem (below.trans next_inside), List.isEmpty_iff.mp empty]

/-! ## What becomes of segments -/

/-- There are three outcomes. -/
theorem ofSegments_cases (given : List Text) :
    (3 < (dropAbsent given).length ∧
        ofSegments given = .error (.tooManySegments (dropAbsent given).length)) ∨
      ((dropAbsent given).length ≤ 3 ∧ [] ∈ dropAbsent given ∧
        ofSegments given = .error (.missingParent (.ofIndex (afterGap (dropAbsent given)))
          (.ofIndex (gap (dropAbsent given))))) ∨
      ∃ address, dropAbsent given = address.segments ∧ ofSegments given = .ok address := by
  by_cases short : (dropAbsent given).length ≤ 3
  · by_cases all : ∀ segment ∈ dropAbsent given, segment ≠ []
    · let address : Address := ⟨dropAbsent given, short, all⟩
      exact .inr (.inr ⟨address, rfl, ofSegments_eq_ok_iff.mpr rfl⟩)
    · have missing : [] ∈ dropAbsent given := by
        by_contra none
        exact all fun segment member empty => none (empty ▸ member)
      refine .inr (.inl ⟨short, missing, ?_⟩)
      simp only [ofSegments, dif_pos short, dif_neg all]
  · refine .inl ⟨Nat.lt_of_not_le short, ?_⟩
    simp only [ofSegments, dif_neg short]

/-- The gap that is told of is the first one, and its ends have names. -/
theorem isGap_of_missing (short : (dropAbsent given).length ≤ 3) (missing : [] ∈ dropAbsent given) :
    IsGap given (gap (dropAbsent given)) (afterGap (dropAbsent given)) ∧
      afterGap (dropAbsent given) < 3 := by
  have isGap := isGap_gap missing (isPresent_last (List.ne_nil_of_mem missing))
  exact ⟨isGap_dropAbsent.mp isGap, isGap.present.lt_length.trans_le short⟩

theorem ofSegments_eq_tooManySegments_iff :
    ofSegments given = .error (.tooManySegments count) ↔ 3 < count ∧ IsLast given count := by
  rw [isLast_iff]
  rcases ofSegments_cases given with ⟨long, outcome⟩ | ⟨short, -, outcome⟩ |
    ⟨address, same, outcome⟩
  · have any : dropAbsent given ≠ [] := List.ne_nil_of_length_pos (by omega)
    rw [outcome, Except.error.injEq, AddressError.tooManySegments.injEq]
    constructor
    · rintro rfl
      exact ⟨long, any, rfl⟩
    · rintro ⟨-, -, rfl⟩
      rfl
  · rw [outcome]
    refine ⟨nofun, ?_⟩
    rintro ⟨long, -, rfl⟩
    omega
  · have short := address.length_le
    rw [outcome, same]
    refine ⟨nofun, ?_⟩
    rintro ⟨long, -, rfl⟩
    omega

theorem ofSegments_eq_missingParent_iff {segment parent : Level} :
    ofSegments given = .error (.missingParent segment parent) ↔
      (∀ index, IsPresent given index → index < 3) ∧ IsGap given parent.index segment.index := by
  rcases ofSegments_cases given with ⟨long, outcome⟩ | ⟨short, missing, outcome⟩ |
    ⟨address, same, outcome⟩
  · rw [outcome]
    refine ⟨nofun, ?_⟩
    rintro ⟨few, -⟩
    have any : dropAbsent given ≠ [] := List.ne_nil_of_length_pos (by omega)
    have last := few _ (isPresent_dropAbsent.mp (isPresent_last any))
    omega
  · obtain ⟨isGap, named⟩ := isGap_of_missing short missing
    have first_lt := isGap.first_lt
    rw [outcome, Except.error.injEq, AddressError.missingParent.injEq]
    constructor
    · rintro ⟨rfl, rfl⟩
      refine ⟨fun index present => ?_, ?_⟩
      · exact (isPresent_dropAbsent.mpr present).lt_length.trans_le short
      · rwa [Level.index_ofIndex named, Level.index_ofIndex (by omega)]
    · rintro ⟨-, other⟩
      obtain ⟨first, next⟩ := isGap.unique other
      rw [next, first, Level.ofIndex_index, Level.ofIndex_index]
      exact ⟨rfl, rfl⟩
  · rw [outcome]
    refine ⟨nofun, ?_⟩
    rintro ⟨-, isGap⟩
    have absent := List.mem_of_getElem? (isGap_dropAbsent.mpr isGap).absent
    rw [same] at absent
    exact (address.ne_nil [] absent rfl).elim

/-- Segments are an address just if they are three at most, none of them empty, with empty ones
behind them. If the last one that is present comes after the third place, the error tells its
number. Otherwise it names the first segment that is absent and the first present one behind it; the
indices of both are below three. Parts that are absent count as empty segments. -/
theorem ofSegments_outcome (given : List Text) :
    (∀ segments, (∃ address, ofSegments given = .ok address ∧ address.segments = segments) ↔
      segments.length ≤ 3 ∧ (∀ segment ∈ segments, segment ≠ []) ∧
        ∃ count, given = segments ++ List.replicate count []) ∧
    (∀ count, ofSegments given = .error (.tooManySegments count) ↔
      3 < count ∧ IsLast given count) ∧
    (∀ segment parent : Level, ofSegments given = .error (.missingParent segment parent) ↔
      (∀ index, IsPresent given index → index < 3) ∧
        IsGap given parent.index segment.index) ∧
    (∀ segment parent : Level, ofSegments given = .error (.missingParent segment parent) →
      gap (dropAbsent given) < afterGap (dropAbsent given) ∧ afterGap (dropAbsent given) < 3) ∧
    ∀ category subpage subsubpage : Option Text,
      ofParts category subpage subsubpage =
        ofSegments [category.getD [], subpage.getD [], subsubpage.getD []] := by
  refine ⟨fun segments => ⟨?made, ?given⟩, fun count => ofSegments_eq_tooManySegments_iff,
    fun segment parent => ofSegments_eq_missingParent_iff, fun segment parent failed => ?named,
    fun category subpage subsubpage => rfl⟩
  case made =>
    rintro ⟨address, made, rfl⟩
    obtain ⟨count, split⟩ := exists_eq_dropAbsent_append_replicate given
    rw [ofSegments_eq_ok_iff.mp made] at split
    exact ⟨address.length_le, address.ne_nil, count, split⟩
  case given =>
    rintro ⟨length_le, ne_nil, count, rfl⟩
    let address : Address := ⟨segments, length_le, ne_nil⟩
    refine ⟨address, ofSegments_eq_ok_iff.mpr ?_, rfl⟩
    exact (dropAbsent_append_replicate segments count).trans (dropAbsent_segments address)
  case named =>
    rcases ofSegments_cases given with ⟨-, outcome⟩ | ⟨short, missing, -⟩ | ⟨address, -, outcome⟩
    · exact nomatch outcome.symm.trans failed
    · obtain ⟨isGap, named⟩ := isGap_of_missing short missing
      exact ⟨isGap.first_lt, named⟩
    · exact nomatch outcome.symm.trans failed

-- Two faults: the segment that comes too late counts for more than the gap before it.
example :
    ofSegments [[], "b".toList, [], "d".toList, []] = .error (.tooManySegments 4) ∧
      ofSegments [[], [], "c".toList, [], []] = .error (.missingParent .subsubpage .category) :=
  ⟨rfl, rfl⟩

end Address

end DocSite
