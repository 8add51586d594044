import DocSite.Toml.Scalar

/-!
# TOML documents

The statements of a text, one after the other, build one table. A key gets a value once, and a table
that was written in one way is not added to in another: a header opens a table that has none yet, a
dotted key adds to tables made by dotted keys, and a table in braces is complete.
-/

namespace DocSite.Toml

/-! ## Adding to tables -/

/-- Whether a step into a table with a certain form is allowed. A dotted key does not step into a
table with a header. -/
def canEnter (step form : TableForm) : Bool :=
  match form with
  | .inline => false
  | .header => step != .dotted
  | .implied | .dotted => true

/-- Changes the last of some tables. -/
def changeLast (change : Members → Except Fault Members) : List Members → Except Fault (List Members)
  | [] => .error .malformed
  | [last] => do return [← change last]
  | first :: rest => do return first :: (← changeLast change rest)

/-- Changes the table at a path below a table with a certain form. Tables that are missing on the
way are made. -/
def changeAt (step : TableForm) (change : TableForm → Members → Except Fault Members) :
    List Text → TableForm → Members → Except Fault Members
  | [], form, members => change form members
  | key :: path, _, members => do
    match members.find? key with
    | none => return members.put key (.table step (← changeAt step change path step []))
    | some (.table form inner) =>
      if canEnter step form then
        return members.put key (.table form (← changeAt step change path form inner))
      else throw .malformed
    | some (.tables elements) =>
      return members.put key
        (.tables (← changeLast (changeAt step change path .header) elements))
    | some _ => throw .malformed

/-- Adds a member with a dotted key to a table: `path` leads to the table that gets the member. -/
def addMember (path : List Text) (key : Text) (value : Value) :
    TableForm → Members → Except Fault Members :=
  changeAt .dotted (fun form members =>
    if (!path.isEmpty && form != .dotted) || (members.find? key).isSome then .error .malformed
    else .ok (members.put key value)) path

/-- Opens a table that has no header yet. -/
def openTable (key : Text) (_ : TableForm) (members : Members) : Except Fault Members :=
  match members.find? key with
  | none => .ok (members.put key (.table .header []))
  | some (.table .implied inner) => .ok (members.put key (.table .header inner))
  | some _ => .error .malformed

/-- Opens a new element of a list of tables. -/
def openElement (key : Text) (_ : TableForm) (members : Members) : Except Fault Members :=
  match members.find? key with
  | none => .ok (members.put key (.tables [[]]))
  | some (.tables elements) => .ok (members.put key (.tables (elements ++ [[]])))
  | some _ => .error .malformed

/-! ## Values -/

/-- The names of the keys of a path but the last one, and the name of the last one. -/
def namesOf : Path → Except Fault (List Text × Text)
  | [] => .error .malformed
  | [key] => do return ([], ← key.name)
  | key :: rest => do
    let name ← key.name
    let (path, last) ← namesOf rest
    return (name :: path, last)

mutual

/-- The value that is written. -/
def valueOf : Written → Except Fault Value
  | .word text => valueOfWord text
  | .basic body => do return .string (← unescape false 0 body)
  | .literal body => .ok (.string body)
  | .basicLines body => do return .string (← unescape true 0 body)
  | .literalLines body => .ok (.string (joinBreaks body))
  | .list items => do return .list (← itemsOf items)
  | .table members => do return .table .inline (← membersOf [] members)

/-- The values that are written in a list. -/
def itemsOf : List Written → Except Fault (List Value)
  | [] => .ok []
  | item :: rest => do
    let value ← valueOf item
    return value :: (← itemsOf rest)

/-- Adds the members that are written in braces. -/
def membersOf (members : Members) : List (Path × Written) → Except Fault Members
  | [] => .ok members
  | (path, written) :: rest => do
    let (path, key) ← namesOf path
    let value ← valueOf written
    membersOf (← addMember path key value .header members) rest

end

/-! ## Statements -/

/-- A document in the making. -/
structure Draft where
  /-- The members so far. -/
  members : Members
  /-- The path of the table that members are added to. -/
  current : List Text
  deriving Repr

/-- Takes up one statement. -/
def Draft.take (draft : Draft) : Statement → Except Fault Draft
  | .header path => do
    let (path, key) ← namesOf path
    let members ← changeAt .implied (openTable key) path .header draft.members
    return { members, current := path ++ [key] }
  | .listHeader path => do
    let (path, key) ← namesOf path
    let members ← changeAt .implied (openElement key) path .header draft.members
    return { members, current := path ++ [key] }
  | .member path written => do
    let (path, key) ← namesOf path
    let value ← valueOf written
    let members ← changeAt .implied (addMember path key value) draft.current .header draft.members
    return { draft with members }

/-- The table that a text stands for. -/
def parse (text : Text) : Except Fault Members :=
  match statements? text with
  | none => .error .malformed
  | some statements => do
    let draft ← statements.foldlM Draft.take { members := [], current := [] }
    return draft.members

end DocSite.Toml
