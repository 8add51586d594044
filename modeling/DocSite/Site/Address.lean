import DocSite.Text.Basic

/-!
# Page addresses

A page of the site is named by up to three segments: a category, a subpage in it and a subsubpage in
that. A segment that is empty counts as absent, and no segment may follow one that is absent.
-/

namespace DocSite

/-- The place of a segment in an address. -/
inductive Level
  | category
  | subpage
  | subsubpage
  deriving DecidableEq, Repr

namespace Level

/-- The name of a level. -/
def name : Level → Text
  | category => "category"
  | subpage => "subpage"
  | subsubpage => "subsubpage"

/-- The level at an index; the last level stands for every index from two on. -/
def ofIndex : Nat → Level
  | 0 => category
  | 1 => subpage
  | _ => subsubpage

end Level

/-- Why segments are no address. -/
inductive AddressError
  /-- A segment is given, and the one before it is absent. -/
  | missingParent (segment parent : Level)
  /-- The last segment that is given comes after the third place. -/
  | tooManySegments (count : Nat)
  deriving DecidableEq, Repr

/-- The message of an error. -/
def AddressError.message : AddressError → Text
  | .missingParent segment parent =>
    segment.name ++ " given without a ".toList ++ parent.name
  | .tooManySegments count =>
    "Too many path segments: ".toList ++ Text.ofNat count ++ " (at most 3)".toList

/-- The address of a page. -/
structure Address where
  /-- The segments that are present, the least specific first. -/
  segments : List Text
  /-- There are at most three. -/
  length_le : segments.length ≤ 3
  /-- None is empty. -/
  ne_nil : ∀ segment ∈ segments, segment ≠ []
  deriving DecidableEq, Repr

namespace Address

/-- The address of the root page. -/
def root : Address where
  segments := []
  length_le := by decide
  ne_nil := by simp

instance : Inhabited Address := ⟨root⟩

/-- Drops the empty segments at the end. -/
def dropAbsent (segments : List Text) : List Text :=
  (segments.reverse.dropWhile List.isEmpty).reverse

/-- The index of the first empty segment. -/
def gap (segments : List Text) : Nat :=
  segments.findIdx List.isEmpty

/-- The index of the first segment after `gap` that is not empty. -/
def afterGap (segments : List Text) : Nat :=
  gap segments + ((segments.drop (gap segments)).findIdx fun segment => !segment.isEmpty)

/-- The address with certain segments. Empty segments at the end are left out. -/
def ofSegments (given : List Text) : Except AddressError Address :=
  let segments := dropAbsent given
  if length_le : segments.length ≤ 3 then
    if ne_nil : ∀ segment ∈ segments, segment ≠ [] then
      .ok { segments, length_le, ne_nil }
    else
      .error (.missingParent (.ofIndex (afterGap segments)) (.ofIndex (gap segments)))
  else
    .error (.tooManySegments segments.length)

/-- The address with certain parts, each of which may be absent. -/
def ofParts (category subpage subsubpage : Option Text) : Except AddressError Address :=
  ofSegments ([category, subpage, subsubpage].map (·.getD []))

/-- The first segment. -/
def category? (address : Address) : Option Text :=
  address.segments[0]?

/-- The second segment. -/
def subpage? (address : Address) : Option Text :=
  address.segments[1]?

/-- The third segment. -/
def subsubpage? (address : Address) : Option Text :=
  address.segments[2]?

/-- Whether this is the root page. -/
def isRoot (address : Address) : Bool :=
  address.segments.isEmpty

/-- The route of a page on the site. -/
def route (address : Address) : Text :=
  "/docs".toList ++ address.segments.flatMap ('/' :: ·)

end Address

end DocSite
