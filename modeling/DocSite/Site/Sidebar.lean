import DocSite.Json.Skip
import DocSite.Json.Value
import DocSite.Site.Fetch

/-!
# The table of contents

The sidebar of the site is a tree of links, kept in the order in which it was written. It is read
from a JSON object that has a member for each link: the link's title and file, perhaps a
description, and perhaps its subsections, which form such an object again.
-/

namespace DocSite

/-- A link of the sidebar. -/
structure SidebarLink where
  /-- The name of its member. -/
  key : Text
  /-- What it shows. -/
  title : Text
  /-- The page it leads to, relative to the pages of the site. -/
  file : Text
  /-- What is shown when a pointer rests on it. -/
  description : Option Text
  deriving DecidableEq, Repr

/-- The route that a link leads to. -/
def SidebarLink.href (link : SidebarLink) : Text :=
  "/docs/".toList ++ link.file

/-- A list of links, each with the links below it. -/
inductive Sidebar
  /-- No links. -/
  | empty
  /-- A link, the links below it, and the links that follow it on its level. -/
  | link (first : SidebarLink) (subsections rest : Sidebar)
  deriving DecidableEq, Repr

/-- Why there is no sidebar. -/
inductive SidebarError
  /-- It could not be fetched. -/
  | fetch (cause : FetchError)
  /-- It is not in the right form. -/
  | parse (cause : Json.Failure)
  deriving DecidableEq, Repr

/-- The message of an error. -/
def SidebarError.message : SidebarError → Text
  | .fetch _ => "Failed to fetch sidebar"
  | .parse cause => "Invalid sidebar JSON: ".toList ++ cause.message

namespace Sidebar

instance : Inhabited Sidebar := ⟨empty⟩

/-- Whether there are no links. -/
def isEmpty : Sidebar → Bool
  | empty => true
  | link .. => false

/-- Puts a list of links after another. -/
def append : Sidebar → Sidebar → Sidebar
  | empty, after => after
  | link first subsections rest, after => link first subsections (rest.append after)

/-! ## Writing -/

/-- The members of the object for a link, by the object for its subsections. -/
def linkMembers (first : SidebarLink) (subsections : List (Text × Json)) : List (Text × Json) :=
  [("title".toList, .string first.title), ("file".toList, .string first.file)] ++
    (first.description.map fun text => ("description".toList, Json.string text)).toList ++
    (if subsections.isEmpty then [] else [("subsections".toList, .object subsections)])

/-- The members of the object for a list of links. -/
def members : Sidebar → List (Text × Json)
  | empty => []
  | link first subsections rest =>
    (first.key, .object (linkMembers first subsections.members)) :: rest.members

/-- The JSON object for a list of links. -/
def toJson (sidebar : Sidebar) : Json :=
  .object sidebar.members

/-! ## Reading -/

open Json

/-- What has been read of the object for a link. -/
structure Draft where
  /-- The title. -/
  title : Option Text := none
  /-- The file. -/
  file : Option Text := none
  /-- The description, which may be null. -/
  description : Option (Option Text) := none
  /-- The subsections, which may be null. -/
  subsections : Option (Option Sidebar) := none

/-- The link with a certain key that a draft describes, and its subsections. -/
def Draft.finish (draft : Draft) (key : Text) : Except Json.Fault (SidebarLink × Sidebar) :=
  match draft.title, draft.file with
  | none, _ => .error (.missingMember "title")
  | some _, none => .error (.missingMember "file")
  | some title, some file =>
    let description := draft.description.getD none
    .ok ({ key, title, file, description }, (draft.subsections.getD none).getD empty)

/-- The failure of a member that comes a second time. It is noticed behind the member's name, or
behind the brace that follows. -/
def repeated {α : Type} (name : Text) (cursor : Cursor) : Except Failure α :=
  let cursor := cursor.skipBlank
  match cursor.rest with
  | '\x7d' :: _ => cursor.next.failHere (.repeatedMember name)
  | _ => cursor.failHere (.repeatedMember name)

/-- How a link's object is called in messages. -/
def linkKind : Text := "struct EntryBody"

/-- How a link's list of values is called in messages. -/
def linkListKind : Text := "struct EntryBody with 4 elements"

/-- How a list of links is called in messages. -/
def sidebarKind : Text := "a map of sidebar entries"

mutual

/-- Reads the object for a list of links, in which objects and lists may nest to a certain
depth. -/
def readSidebar : (fuel depth : Nat) → Cursor → Except Failure (Sidebar × Cursor)
  | 0, _, cursor => cursor.failHere .endInValue
  | fuel + 1, depth, cursor =>
    let cursor := cursor.skipBlank
    match cursor.rest with
    | [] => cursor.failHere .endInValue
    | '\x7b' :: _ =>
      match depth with
      | 0 => cursor.failNext .tooDeep
      | depth + 1 => readLinks fuel depth true cursor.next
    | _ => wrongKind sidebarKind cursor

/-- Reads the members of the object for a list of links. -/
def readLinks : (fuel depth : Nat) → (isFirst : Bool) → Cursor →
    Except Failure (Sidebar × Cursor)
  | 0, _, _, cursor => cursor.failHere .endInObject
  | fuel + 1, depth, isFirst, cursor => do
    match ← nextMember isFirst cursor with
    | (false, cursor) => return (empty, cursor)
    | (true, cursor) =>
      let (key, cursor) ← scanString cursor
      let cursor ← skipColon cursor
      let (first, subsections, cursor) ← readLink fuel depth key cursor
      let (rest, cursor) ← readLinks fuel depth false cursor
      return (link first subsections rest, cursor)

/-- Reads the object for a link, or the list of its values. -/
def readLink : (fuel depth : Nat) → (key : Text) → Cursor →
    Except Failure (SidebarLink × Sidebar × Cursor)
  | 0, _, _, cursor => cursor.failHere .endInValue
  | fuel + 1, depth, key, cursor =>
    let cursor := cursor.skipBlank
    match cursor.rest with
    | [] => cursor.failHere .endInValue
    | c :: _ =>
      if c == '\x7b' then
        match depth with
        | 0 => cursor.failNext .tooDeep
        | depth + 1 => do
          let (draft, cursor) ← readMembers fuel depth true {} cursor.next
          match draft.finish key with
          | .ok (first, subsections) => return (first, subsections, cursor)
          | .error fault => cursor.failHere fault
      else if c == '[' then
        match depth with
        | 0 => cursor.failNext .tooDeep
        | depth + 1 => readItems fuel depth key cursor.next
      else wrongKind linkKind cursor

/-- Reads the members of the object for a link. -/
def readMembers : (fuel depth : Nat) → (isFirst : Bool) → Draft → Cursor →
    Except Failure (Draft × Cursor)
  | 0, _, _, _, cursor => cursor.failHere .endInObject
  | fuel + 1, depth, isFirst, draft, cursor => do
    match ← nextMember isFirst cursor with
    | (false, cursor) => return (draft, cursor)
    | (true, cursor) =>
      let (name, cursor) ← scanString cursor
      if name == "title".toList then
        if draft.title.isSome then repeated name cursor
        else
          let (title, cursor) ← readText (← skipColon cursor)
          readMembers fuel depth false { draft with title := some title } cursor
      else if name == "file".toList then
        if draft.file.isSome then repeated name cursor
        else
          let (file, cursor) ← readText (← skipColon cursor)
          readMembers fuel depth false { draft with file := some file } cursor
      else if name == "description".toList then
        if draft.description.isSome then repeated name cursor
        else
          let (description, cursor) ← readOptional readText (← skipColon cursor)
          readMembers fuel depth false { draft with description := some description } cursor
      else if name == "subsections".toList then
        if draft.subsections.isSome then repeated name cursor
        else
          let (subsections, cursor) ← readOptional (readSidebar fuel depth) (← skipColon cursor)
          readMembers fuel depth false { draft with subsections := some subsections } cursor
      else
        let cursor ← skipColon cursor
        readMembers fuel depth false draft (← skipValue (enoughFuel cursor) cursor)

/-- Reads the list of the values of a link: title, file, description and subsections, of which the
last two may be left out. -/
def readItems : (fuel depth : Nat) → (key : Text) → Cursor →
    Except Failure (SidebarLink × Sidebar × Cursor)
  | 0, _, _, cursor => cursor.failHere .endInList
  | fuel + 1, depth, key, cursor => do
    match ← nextItem true cursor with
    | (false, cursor) => cursor.next.failHere (.wrongLength 0 linkListKind)
    | (true, cursor) =>
      let (title, cursor) ← readText cursor
      match ← nextItem false cursor with
      | (false, cursor) => cursor.next.failHere (.wrongLength 1 linkListKind)
      | (true, cursor) =>
        let (file, cursor) ← readText cursor
        match ← nextItem false cursor with
        | (false, cursor) =>
          return ({ key, title, file, description := none }, empty, cursor.next)
        | (true, cursor) =>
          let (description, cursor) ← readOptional readText cursor
          match ← nextItem false cursor with
          | (false, cursor) => return ({ key, title, file, description }, empty, cursor.next)
          | (true, cursor) =>
            let (subsections, cursor) ← readOptional (readSidebar fuel depth) cursor
            return ({ key, title, file, description }, subsections.getD empty, ← endList cursor)

end

/-- How deep objects and lists may nest. -/
def depthLimit : Nat := 127

/-- Reads a sidebar from JSON. -/
def ofJson (text : Text) : Except SidebarError Sidebar :=
  let outcome := do
    let (sidebar, cursor) ← readSidebar (3 * text.length + 3) depthLimit (.of text)
    endText cursor
    return sidebar
  outcome.mapError .parse

/-! ## Fetching -/

/-- The sidebar that an answer gives. -/
def ofFetched : Fetched → Except SidebarError Sidebar
  | .ok body => ofJson body
  | .error cause => .error (.fetch cause)

/-- Fetches a sidebar. -/
def fetch (url : Text) : Fetching (Except SidebarError Sidebar) := do
  return ofFetched (← Fetching.fetch url)

/-- The sidebar, or an empty one in the place of an error. -/
def orEmpty (outcome : Except SidebarError Sidebar) : Sidebar :=
  match outcome with
  | .ok sidebar => sidebar
  | .error _ => empty

/-- Fetches a sidebar; if that fails, there are no links. -/
def fetchOrEmpty (url : Text) : Fetching Sidebar := do
  return orEmpty (← fetch url)

end Sidebar

end DocSite
