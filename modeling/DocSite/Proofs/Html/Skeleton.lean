import DocSite.Proofs.Html.Vocabulary

/-!
# The skeleton of markup

A reader of markup goes from character to character and finds tags. It knows where it is: in a text,
in some part of a tag, in a comment, or in an element whose content is no markup. The skeleton of a
text is the list of the tags that are found in it, with the names of their attributes, but without
values. Every text has a skeleton, whether or not it is well-formed.
-/

namespace DocSite.Html

/-! ## Tags and elements -/

/-- A tag without the values of its attributes. -/
structure TagForm where
  /-- Whether it closes an element. -/
  isClosing : Bool
  /-- The name of the element. -/
  name : Text
  /-- The names of the attributes. -/
  attributes : List Text := []
  deriving DecidableEq, Repr

/-- The tag with one more attribute. -/
def TagForm.withAttribute (tag : TagForm) (name : Text) : TagForm :=
  { tag with attributes := tag.attributes ++ [name] }

/-- An element whose content is no markup. -/
inductive RawElement
  | title
  | textarea
  | style
  | script
  | noscript
  | xmp
  | iframe
  | noembed
  | noframes
  | plaintext
  deriving DecidableEq, Repr

namespace RawElement

/-- All elements whose content is no markup. -/
def all : List RawElement :=
  [title, textarea, style, script, noscript, xmp, iframe, noembed, noframes, plaintext]

/-- The name of an element. -/
def name : RawElement → Text
  | title => "title"
  | textarea => "textarea"
  | style => "style"
  | script => "script"
  | noscript => "noscript"
  | xmp => "xmp"
  | iframe => "iframe"
  | noembed => "noembed"
  | noframes => "noframes"
  | plaintext => "plaintext"

/-- Whether a name is that of an element, in letters of any case. -/
def isNamed (element : RawElement) (name : Text) : Bool :=
  element.name == name.map Text.asciiLower

/-- The element with a name, if its content is no markup. -/
def of? (name : Text) : Option RawElement :=
  all.find? (·.isNamed name)

/-- Whether a tag with a name closes an element. Nothing closes plain text. -/
def isClosedBy (element : RawElement) (name : Text) : Bool :=
  element != plaintext && element.isNamed name

theorem isClosedBy_eq_false {name : Text} (keeps : of? name = none) (element : RawElement) :
    element.isClosedBy name = false := by
  have member : element ∈ all := by cases element <;> decide
  have other : element.isNamed name = false := by
    simpa using List.find?_eq_none.mp keeps element member
  rw [isClosedBy, other, Bool.and_false]

end RawElement

/-! ## Reading -/

/-- A quotation mark around the value of an attribute. -/
inductive QuoteMark
  | single
  | double
  deriving DecidableEq, Repr

/-- The character of a quotation mark. -/
def QuoteMark.char : QuoteMark → Char
  | single => '\x27'
  | double => '\x22'

/-- How much of the end of a comment has been read. -/
inductive CommentMark
  /-- Nothing: the comment has just begun. -/
  | opening
  /-- The comment has begun with a hyphen. -/
  | openingHyphen
  /-- Nothing. -/
  | inside
  /-- A hyphen. -/
  | hyphen
  /-- Two hyphens. -/
  | hyphens
  /-- Two hyphens and an exclamation mark. -/
  | exclamation
  deriving DecidableEq, Repr

/-- What has been read of the end of a comment behind one more character; nothing if the comment
ends. -/
def CommentMark.next? : CommentMark → Char → Option CommentMark
  | opening, c => if c == '>' then none else some (if c == '-' then openingHyphen else inside)
  | openingHyphen, c => if c == '>' then none else some (if c == '-' then hyphens else inside)
  | inside, c => some (if c == '-' then hyphen else inside)
  | hyphen, c => some (if c == '-' then hyphens else inside)
  | hyphens, c =>
    if c == '>' then none
    else some (if c == '-' then hyphens else if c == '!' then exclamation else inside)
  | exclamation, c => if c == '>' then none else some (if c == '-' then hyphen else inside)

/-- How much of a closing tag has been read in an element whose content is no markup. -/
inductive RawMark
  | inside
  | bracket
  | slash
  | name (read : Text)
  deriving DecidableEq, Repr

/-- Where a reader is. -/
inductive Spot
  /-- Between tags. -/
  | text
  /-- Behind an opening bracket. -/
  | bracket
  /-- Behind an opening bracket and a slash. -/
  | slash
  /-- In the name of a tag. -/
  | name (tag : TagForm)
  /-- Before an attribute or the end of a tag. -/
  | between (tag : TagForm)
  /-- In the name of an attribute. -/
  | key (tag : TagForm) (read : Text)
  /-- In the blanks behind the name of an attribute. -/
  | named (tag : TagForm)
  /-- Before the value of an attribute. -/
  | assigned (tag : TagForm)
  /-- In a value with quotes. -/
  | quoted (tag : TagForm) (quote : QuoteMark)
  /-- In a value without quotes. -/
  | bare (tag : TagForm)
  /-- Behind an opening bracket and an exclamation mark. -/
  | exclamation
  /-- Behind an opening bracket, an exclamation mark and a hyphen. -/
  | hyphen
  /-- In a declaration, which the next closing bracket ends. -/
  | declaration
  /-- In a comment. -/
  | comment (mark : CommentMark)
  /-- In an element whose content is no markup. -/
  | raw (element : RawElement) (mark : RawMark)
  deriving DecidableEq, Repr

/-- What a reader does at a character. -/
inductive Move
  /-- It goes on. -/
  | to (spot : Spot)
  /-- It has found a tag. -/
  | found (tag : TagForm)
  deriving DecidableEq, Repr

/-- A blank in a tag. -/
def isTagBlank (c : Char) : Bool :=
  c == ' ' || c == '\t' || c == '\n' || c == '\x0c' || c == '\r'

/-- What a reader does at a character before an attribute or the end of a tag. -/
def moveBetween (tag : TagForm) (c : Char) : Move :=
  if c == '>' then .found tag
  else if c == '/' || isTagBlank c then .to (.between tag)
  else .to (.key tag [c])

/-- What a reader does at a character in an element whose content is no markup. -/
def RawMark.move (element : RawElement) (mark : RawMark) (c : Char) : Move :=
  match mark with
  | inside => .to (.raw element (if c == '<' then bracket else inside))
  | bracket =>
    .to (.raw element (if c == '/' then slash else if c == '<' then bracket else inside))
  | slash =>
    .to (.raw element
      (if Text.isAsciiLetter c then name [c] else if c == '<' then bracket else inside))
  | name read =>
    if Text.isAsciiLetter c then .to (.raw element (name (read ++ [c])))
    else if element.isClosedBy read && (c == '>' || c == '/' || isTagBlank c) then
      moveBetween ⟨true, read, []⟩ c
    else .to (.raw element (if c == '<' then bracket else inside))

/-- What a reader does at a character. -/
def Spot.move : Spot → Char → Move
  | text, c => .to (if c == '<' then bracket else text)
  | bracket, c =>
    .to (if Text.isAsciiLetter c then name ⟨false, [c], []⟩ else if c == '/' then slash
      else if c == '!' then exclamation else if c == '?' then declaration
      else if c == '<' then bracket else text)
  | slash, c =>
    .to (if Text.isAsciiLetter c then name ⟨true, [c], []⟩ else if c == '>' then text
      else declaration)
  | name tag, c =>
    if c == '>' || c == '/' || isTagBlank c then moveBetween tag c
    else .to (name { tag with name := tag.name ++ [c] })
  | between tag, c => moveBetween tag c
  | key tag read, c =>
    if c == '=' then .to (assigned (tag.withAttribute read))
    else if isTagBlank c then .to (named (tag.withAttribute read))
    else if c == '>' || c == '/' then moveBetween (tag.withAttribute read) c
    else .to (key tag (read ++ [c]))
  | named tag, c =>
    if c == '=' then .to (assigned tag)
    else if isTagBlank c then .to (named tag)
    else moveBetween tag c
  | assigned tag, c =>
    if c == '\x22' then .to (quoted tag .double)
    else if c == '\x27' then .to (quoted tag .single)
    else if isTagBlank c then .to (assigned tag)
    else if c == '>' then .found tag
    else .to (bare tag)
  | quoted tag quote, c => .to (if c == quote.char then between tag else quoted tag quote)
  | bare tag, c =>
    if c == '>' || isTagBlank c then moveBetween tag c else .to (bare tag)
  | exclamation, c =>
    .to (if c == '-' then hyphen else if c == '>' then text else declaration)
  | hyphen, c =>
    .to (if c == '-' then comment .opening else if c == '>' then text else declaration)
  | declaration, c => .to (if c == '>' then text else declaration)
  | comment mark, c => .to ((mark.next? c).elim text comment)
  | raw element mark, c => mark.move element c

/-- Where a reader is behind a tag. -/
def TagForm.behind (tag : TagForm) : Spot :=
  if tag.isClosing then .text else (RawElement.of? tag.name).elim .text (.raw · .inside)

/-- What has been found, and where the reader is. -/
structure Scan where
  /-- The tags that have been found. -/
  found : List TagForm := []
  /-- Where the reader is. -/
  spot : Spot := .text
  deriving DecidableEq, Repr

namespace Scan

/-- Reads one character. -/
def next (scan : Scan) (c : Char) : Scan :=
  match scan.spot.move c with
  | .to spot => { scan with spot }
  | .found tag => ⟨scan.found ++ [tag], tag.behind⟩

/-- Reads a text. -/
def readAll (scan : Scan) (text : Text) : Scan :=
  text.foldl next scan

@[simp] theorem readAll_nil (scan : Scan) : scan.readAll [] = scan :=
  rfl

@[simp] theorem readAll_cons (scan : Scan) (c : Char) (text : Text) :
    scan.readAll (c :: text) = (scan.next c).readAll text :=
  rfl

@[simp] theorem readAll_append (scan : Scan) (left right : Text) :
    scan.readAll (left ++ right) = (scan.readAll left).readAll right :=
  List.foldl_append

end Scan

/-- The tags in a text, without the values of their attributes. -/
def skeleton (text : Text) : List TagForm :=
  (Scan.readAll {} text).found

/-! ## Plain names -/

/-- A letter, and then letters and digits. -/
def IsPlainName (name : Text) : Prop :=
  (name.head?.any Text.isAsciiLetter && name.all Text.isAsciiAlphanumeric) = true

instance (name : Text) : Decidable (IsPlainName name) :=
  inferInstanceAs (Decidable (_ = true))

theorem IsPlainName.exists_cons {name : Text} (plain : IsPlainName name) :
    ∃ c rest, name = c :: rest ∧ Text.isAsciiLetter c = true ∧
      ∀ d ∈ rest, Text.isAsciiAlphanumeric d = true := by
  cases name with
  | nil => nomatch plain
  | cons c rest =>
      simp only [IsPlainName, List.head?_cons, Option.any_some, Bool.and_eq_true,
        List.all_cons, List.all_eq_true] at plain
      exact ⟨c, rest, rfl, plain.1, plain.2.2⟩

theorem IsPlainName.plain {name : Text} (plain : IsPlainName name) :
    ∀ c ∈ name, Text.isAsciiAlphanumeric c = true :=
  List.all_eq_true.mp (Bool.and_eq_true_iff.mp plain).2

theorem ne_of_plain {c other : Char} (plain : Text.isAsciiAlphanumeric c = true)
    (unlike : Text.isAsciiAlphanumeric other = false) : c ≠ other := by
  rintro rfl
  rw [plain] at unlike
  nomatch unlike

/-- A letter or digit is part of a name, and ends none. -/
theorem goesOn_of_plain {c : Char} (plain : Text.isAsciiAlphanumeric c = true) :
    c ≠ '>' ∧ c ≠ '/' ∧ c ≠ '=' ∧ isTagBlank c = false := by
  refine ⟨ne_of_plain plain (by decide), ne_of_plain plain (by decide),
    ne_of_plain plain (by decide), ?_⟩
  simp [isTagBlank, ne_of_plain plain (show Text.isAsciiAlphanumeric ' ' = false by decide),
    ne_of_plain plain (show Text.isAsciiAlphanumeric '\t' = false by decide),
    ne_of_plain plain (show Text.isAsciiAlphanumeric '\n' = false by decide),
    ne_of_plain plain (show Text.isAsciiAlphanumeric '\x0c' = false by decide),
    ne_of_plain plain (show Text.isAsciiAlphanumeric '\r' = false by decide)]

end DocSite.Html
