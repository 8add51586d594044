import DocSite.Site.Address

/-!
# Where documents are

The documents of a site lie below one base address, each page's document at a place that follows
from the page's address.
-/

namespace DocSite

/-- Where the documents of a site are. -/
structure Location where
  /-- The address below which they lie, without slashes at its end. -/
  base : Text
  /-- The document of the root page, relative to the base. -/
  rootDocument : Text
  deriving DecidableEq, Repr

namespace Location

/-- The base address that is used when none is given. -/
def defaultBase : Text :=
  "https://raw.githubusercontent.com/ItsSitanshu/jugadbase/refs/heads/main/docs"

/-- The root document that is used when none is given. -/
def defaultRootDocument : Text := "index.md"

/-- The place of the table of contents that is used when none is given. -/
def defaultSidebarUrl : Text :=
  "https://raw.githubusercontent.com/ItsSitanshu/jugadbase/main/docs/config.json"

/-- The location with a base, whose slashes at the end are ignored. -/
def of (base rootDocument : Text) : Location where
  base := Text.dropEndWhile (· == '/') base
  rootDocument := rootDocument

/-- The location that is used when none is given. -/
def default : Location := .of defaultBase defaultRootDocument

/-- The path of a page's document below the base. -/
def documentPath (location : Location) (address : Address) : Text :=
  match address.segments with
  | [] => location.rootDocument
  | [category] => category ++ "/index.md".toList
  | segments => Text.join "/" segments ++ ".md".toList

/-- The URL of a page's document. -/
def url (location : Location) (address : Address) : Text :=
  location.base ++ '/' :: location.documentPath address

end Location

end DocSite
