import DocSite.Document.Outline
import DocSite.Site.Sidebar

/-!
# Listings

An outline or a table of contents in lines of plain text, one for each heading or link. A line is
indented by two spaces for each level.
-/

namespace DocSite

/-- The spaces before a line at a depth. -/
def indentation (depth : Nat) : Text :=
  List.replicate (2 * depth) ' '

/-- The line of a heading: its text and its mark. Headings of the second level are not indented. -/
def Document.Heading.line (heading : Document.Heading) : Text :=
  indentation (heading.level - 2) ++ heading.text ++ " (#".toList ++ heading.id ++ [')', '\n']

/-- The lines of an outline. -/
def Document.listing (headings : List Document.Heading) : Text :=
  headings.flatMap Document.Heading.line

/-- The line of a link: its title, its route and its description. -/
def SidebarLink.line (depth : Nat) (link : SidebarLink) : Text :=
  let description := match link.description with
    | some text => "  - ".toList ++ text
    | none => []
  indentation depth ++ link.title ++ "  ".toList ++ link.href ++ description ++ ['\n']

/-- The lines of a table of contents at a depth. -/
def Sidebar.listing (depth : Nat) : Sidebar → Text
  | empty => []
  | link first subsections rest =>
    first.line depth ++ subsections.listing (depth + 1) ++ rest.listing depth

end DocSite
