import DocSite.Text.Alphanumeric

/-!
# References to variables

A text may refer to variables of the environment: `${NAME}` stands for the value of a variable, and
`${NAME:-text}` stands for the text if there is no such variable. In a text with a dollar sign before
an opening brace, `$NAME` stands for the value of a variable too, and two dollar signs stand for one.
A text is a list of pieces, and each piece is expanded by itself, so that values are not expanded
again.
-/

namespace DocSite

/-- The variables of the environment. -/
abbrev Environment := Text → Option Text

namespace Config

/-! ## Pieces -/

/-- A piece of a text. -/
inductive Piece
  /-- A character that stands for itself. -/
  | plain (c : Char)
  /-- Two dollar signs. -/
  | doubled
  /-- A dollar sign and a name. -/
  | bare (name : Text)
  /-- A dollar sign and what stands in the braces behind it. -/
  | braced (content : Text)
  deriving DecidableEq, Repr

/-- A character of a name behind a dollar sign: a letter or digit of any script, or the underscore. -/
def isNameChar (c : Char) : Bool :=
  Text.isAlphanumeric c || c == '_'

namespace Piece

/-- A piece as it is written. -/
def source : Piece → Text
  | plain c => [c]
  | doubled => ['$', '$']
  | bare name => '$' :: name
  | braced content => '$' :: '\x7b' :: content ++ ['\x7d']

/-- The piece behind a dollar sign; a dollar sign that begins no piece is a plain character. -/
def behindDollar : Text → Piece
  | [] => plain '$'
  | c :: rest =>
    if c == '\x7b' then
      if rest.contains '\x7d' then braced (rest.takeWhile (· != '\x7d')) else plain '$'
    else if isNameChar c then bare (c :: rest.takeWhile isNameChar)
    else if c == '$' then doubled
    else plain '$'

/-- The pieces of a text behind `skip` characters, which belong to a piece that has been found. -/
def splitFrom : (skip : Nat) → Text → List Piece
  | _, [] => []
  | skip + 1, _ :: rest => splitFrom skip rest
  | 0, c :: rest =>
    let piece := if c == '$' then behindDollar rest else plain c
    piece :: splitFrom (piece.source.length - 1) rest

/-- The pieces of a text. -/
def split (text : Text) : List Piece :=
  splitFrom 0 text

/-- Splits the content of braces at the first colon with a hyphen behind it. -/
def cutDefault : Text → Option (Text × Text)
  | [] => none
  | ':' :: '-' :: rest => some ([], rest)
  | c :: rest => (cutDefault rest).map fun (name, text) => (c :: name, text)

/-- The name in braces and the text for a variable that is missing. A name is not empty: where there
is none before the colon, the whole content is the name. -/
def reference (content : Text) : Text × Option Text :=
  match cutDefault content with
  | some ([], _) | none => (content, none)
  | some (name, text) => (name, some text)

/-- The name of the variable that a piece refers to. -/
def name? : Piece → Option Text
  | plain _ | doubled => none
  | bare name => some name
  | braced content => some (reference content).1

/-- What a piece stands for. A reference to a missing variable without a text in its place stands for
itself. -/
def value (environment : Environment) : Piece → Text
  | plain c => [c]
  | doubled => ['$']
  | bare name => (environment name).getD (bare name).source
  | braced content =>
    match reference content with
    | (name, default?) => (environment name).getD (default?.getD (braced content).source)

/-- The name of the variable that a piece refers to, if there is no such variable. -/
def missing? (environment : Environment) (piece : Piece) : Option Text :=
  piece.name?.filter fun name => (environment name).isNone

end Piece

/-! ## Expansion -/

/-- Whether a text refers to a variable in braces. -/
def hasReference (text : Text) : Bool :=
  Text.contains ['$', '\x7b'] text

/-- The text with its references expanded, or the name of the first missing variable to which the
result still refers. A text with no dollar sign before a brace is kept. -/
def expand (environment : Environment) (text : Text) : Except Text Text :=
  if hasReference text then
    let pieces := Piece.split text
    let expanded := pieces.flatMap (Piece.value environment)
    let missing := pieces.filterMap (Piece.missing? environment)
    match missing.find? fun name => Text.contains (Piece.braced name).source expanded with
    | some name => .error name
    | none => .ok expanded
  else .ok text

end Config

end DocSite
