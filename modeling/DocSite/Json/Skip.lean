import DocSite.Json.Scan

/-!
# Reading members, items and values that are not kept

What all readers of objects and lists share: the commas and colons between their parts, and the
way past a value of any kind.
-/

namespace DocSite.Json

open Cursor

/-! ## Values that are not kept -/

mutual

/-- Passes a value of any kind. -/
def skipValue : (fuel : Nat) → Cursor → Except Failure Cursor
  | 0, cursor => cursor.failHere .endInValue
  | fuel + 1, cursor =>
    let cursor := cursor.skipBlank
    match cursor.rest with
    | [] => cursor.failHere .endInValue
    | c :: _ =>
      if c == 'n' then scanLiteral "ull" cursor.next
      else if c == 't' then scanLiteral "rue" cursor.next
      else if c == 'f' then scanLiteral "alse" cursor.next
      else if c == '-' then skipNumber cursor.next
      else if Text.isAsciiDigit c then skipNumber cursor
      else if c == '\x22' then skipString cursor.next
      else if c == '[' then
        let cursor := cursor.next.skipBlank
        match cursor.rest with
        | [] => cursor.failHere .endInList
        | ']' :: _ => .ok cursor.next
        | _ => skipItems fuel cursor
      else if c == '\x7b' then
        let cursor := cursor.next.skipBlank
        match cursor.rest with
        | [] => cursor.failHere .endInObject
        | '\x7d' :: _ => .ok cursor.next
        | _ => skipMembers fuel cursor
      else cursor.failNext .expectedValue

/-- Passes the items of a list, of which there is at least one. -/
def skipItems : (fuel : Nat) → Cursor → Except Failure Cursor
  | 0, cursor => cursor.failHere .endInList
  | fuel + 1, cursor => do
    let cursor := (← skipValue fuel cursor).skipBlank
    match cursor.rest with
    | [] => cursor.failHere .endInList
    | ',' :: _ => skipItems fuel cursor.next
    | ']' :: _ => .ok cursor.next
    | _ => cursor.failNext .expectedListCommaOrEnd

/-- Passes the members of an object, of which there is at least one. -/
def skipMembers : (fuel : Nat) → Cursor → Except Failure Cursor
  | 0, cursor => cursor.failHere .endInObject
  | fuel + 1, cursor =>
    let cursor := cursor.skipBlank
    match cursor.rest with
    | [] => cursor.failHere .endInObject
    | '\x22' :: _ => do
      let cursor := (← skipString cursor.next).skipBlank
      match cursor.rest with
      | [] => cursor.failHere .endInObject
      | ':' :: _ =>
        let cursor := (← skipValue fuel cursor.next).skipBlank
        match cursor.rest with
        | [] => cursor.failHere .endInObject
        | ',' :: _ => skipMembers fuel cursor.next
        | '\x7d' :: _ => .ok cursor.next
        | _ => cursor.failNext .expectedObjectCommaOrEnd
      | _ => cursor.failNext .expectedColon
    | _ => cursor.failNext .keyNotString

end

/-- The fuel that the way past any value at a cursor needs. -/
def enoughFuel (cursor : Cursor) : Nat :=
  2 * cursor.rest.length + 2

/-! ## Parts of objects and lists -/

/-- Passes the brace of an object that ends, or the comma before its next member; gives whether
there is a next member, whose name starts at the cursor. -/
def nextMember (isFirst : Bool) (cursor : Cursor) : Except Failure (Bool × Cursor) :=
  let cursor := cursor.skipBlank
  match cursor.rest with
  | [] => cursor.failHere .endInObject
  | c :: _ =>
    if c == '\x7d' then .ok (false, cursor.next)
    else if isFirst then
      if c == '\x22' then .ok (true, cursor.next) else cursor.failNext .keyNotString
    else if c == ',' then
      let cursor := cursor.next.skipBlank
      match cursor.rest with
      | [] => cursor.failHere .endInValue
      | '\x22' :: _ => .ok (true, cursor.next)
      | '\x7d' :: _ => cursor.failNext .trailingComma
      | _ => cursor.failNext .keyNotString
    else cursor.failNext .expectedObjectCommaOrEnd

/-- Passes the colon between the name of a member and its value. -/
def skipColon (cursor : Cursor) : Except Failure Cursor :=
  let cursor := cursor.skipBlank
  match cursor.rest with
  | [] => cursor.failHere .endInObject
  | ':' :: _ => .ok cursor.next
  | _ => cursor.failNext .expectedColon

/-- The comma before the next item of a list; gives whether there is a next item. The bracket of a
list that ends is not passed. -/
def nextItem (isFirst : Bool) (cursor : Cursor) : Except Failure (Bool × Cursor) :=
  let cursor := cursor.skipBlank
  match cursor.rest with
  | [] => cursor.failHere .endInList
  | c :: _ =>
    if c == ']' then .ok (false, cursor)
    else if isFirst then .ok (true, cursor)
    else if c == ',' then
      let cursor := cursor.next.skipBlank
      match cursor.rest with
      | [] => cursor.failHere .endInValue
      | ']' :: _ => cursor.failNext .trailingComma
      | _ => .ok (true, cursor)
    else cursor.failNext .expectedListCommaOrEnd

/-- Passes the bracket of a list of which no more items are wanted. -/
def endList (cursor : Cursor) : Except Failure Cursor :=
  let cursor := cursor.skipBlank
  match cursor.rest with
  | [] => cursor.failHere .endInList
  | ']' :: _ => .ok cursor.next
  | ',' :: _ =>
    let cursor := cursor.next.skipBlank
    match cursor.rest with
    | ']' :: _ => cursor.failNext .trailingComma
    | _ => cursor.failNext .trailingCharacters
  | _ => cursor.failNext .trailingCharacters

/-- Makes sure that nothing but blanks follows. -/
def endText (cursor : Cursor) : Except Failure Unit :=
  let cursor := cursor.skipBlank
  match cursor.rest with
  | [] => .ok ()
  | _ => cursor.failNext .trailingCharacters

/-! ## Values of the wrong kind -/

/-- Reads the value at the cursor for the sake of a message; of a list or an object only the kind
is of interest. -/
def scanFound (cursor : Cursor) : Except Failure (Found × Cursor) :=
  match cursor.rest with
  | [] => cursor.failHere .expectedValue
  | c :: _ =>
    if c == 'n' then do return (.null, ← scanLiteral "ull" cursor.next)
    else if c == 't' then do return (.boolean true, ← scanLiteral "rue" cursor.next)
    else if c == 'f' then do return (.boolean false, ← scanLiteral "alse" cursor.next)
    else if c == '-' then scanNumber true cursor.next
    else if Text.isAsciiDigit c then scanNumber false cursor
    else if c == '\x22' then do
      let (text, cursor) ← scanString cursor.next
      return (.string text, cursor)
    else if c == '[' then .ok (.list, cursor)
    else if c == '\x7b' then .ok (.object, cursor)
    else cursor.failNext .expectedValue

/-- The failure of a value that is not of the kind expected. -/
def wrongKind {α : Type} (expected : Text) (cursor : Cursor) : Except Failure α := do
  let (found, cursor) ← scanFound cursor
  cursor.failHere (.wrongKind found expected)

/-! ## Texts -/

/-- Reads a value that must be a string. -/
def readText (cursor : Cursor) : Except Failure (Text × Cursor) :=
  let cursor := cursor.skipBlank
  match cursor.rest with
  | [] => cursor.failHere .endInValue
  | '\x22' :: _ => scanString cursor.next
  | _ => wrongKind "a string" cursor

/-- Reads a value that may be null, by a reader for the others. -/
def readOptional {α : Type} (read : Cursor → Except Failure (α × Cursor)) (cursor : Cursor) :
    Except Failure (Option α × Cursor) :=
  let cursor := cursor.skipBlank
  match cursor.rest with
  | 'n' :: _ => do return (none, ← scanLiteral "ull" cursor.next)
  | _ => do
    let (value, cursor) ← read cursor
    return (some value, cursor)

end DocSite.Json
