import DocSite.Code.Language
import DocSite.Code.Sql
import DocSite.Html.Piece
import DocSite.Text.Quoted

/-!
# Highlighted code

Code in a known language is written as a span with the classes of the language, and with its
special characters escaped. Parts of the code may have spans of their own in it. The classes are given
colours by a colour theme.
-/

namespace DocSite.Code

/-- The written form of a character of highlighted code. -/
def escapeChar (c : Char) : Text :=
  if c == '&' then "&amp;"
  else if c == '<' then "&lt;"
  else if c == '>' then "&gt;"
  else if c == '\x22' then "&quot;"
  else if c == '\x27' then "&#39;"
  else [c]

/-- The written form of highlighted code. -/
def escape (code : Text) : Text :=
  code.flatMap escapeChar

/-- Whether code in a language can be highlighted. -/
def supports (language : Text) : Bool :=
  (findLanguage language).isSome

/-- The classes of the span around some code; code without text has no span. -/
def scope? (code language : Text) : Option Text :=
  if code.isEmpty then none else (findLanguage language).map (·.scope.toList)

/-- A piece of markup in a span with certain classes. -/
def spanOf (classes : Text) (content : List Html.Piece) : List Html.Piece :=
  .startTag "span" [.of "class" classes] :: content ++ [.endTag "span"]

/-- A part of some code, in a span if it has classes of its own. -/
def Token.pieces (token : Token) : List Html.Piece :=
  match token.classes with
  | some classes => spanOf classes [.markup (escape token.text)]
  | none => [.markup (escape token.text)]

/-- The parts of some code that have classes of their own, and the code between them. -/
def tokens (code language : Text) : List Token :=
  if (findLanguage language).any (·.name == "SQL") then Sql.tokens code else [⟨none, code⟩]

/-- Highlighted code, if the language is known. -/
def highlight? (code language : Text) : Option (List Html.Piece) :=
  if supports language then
    match scope? code language with
    | some scope => some (spanOf scope ((tokens code language).flatMap Token.pieces))
    | none => some []
  else none

/-! ## Colour themes -/

/-- The names of the colour themes, sorted. -/
def themeNames : List Text :=
  ["InspiredGitHub".toList, "Solarized (dark)".toList, "Solarized (light)".toList,
    "base16-eighties.dark".toList, "base16-mocha.dark".toList, "base16-ocean.dark".toList,
    "base16-ocean.light".toList]

/-- The colour theme that is used when none is asked for. -/
def defaultTheme : Text := "base16-ocean.dark"

/-- A highlighter with a colour theme. -/
structure Highlighter where
  /-- The name of the theme. -/
  theme : Text
  deriving DecidableEq, Repr

/-- Why a highlighter cannot be made. -/
inductive HighlightError
  /-- There is no theme of this name. -/
  | unknownTheme (name : Text)
  /-- There are no rules for the colours of the theme. -/
  | failed (cause : Text)
  deriving DecidableEq, Repr

/-- The message of an error. -/
def HighlightError.message : HighlightError → Text
  | .unknownTheme name =>
    "Unknown code theme '".toList ++ name ++ "' (available: ".toList ++
      Text.join ", " themeNames ++ ")".toList
  | .failed cause => "Highlighting failed: ".toList ++ cause

namespace Highlighter

/-- The highlighter with a certain theme. -/
def withTheme (name : Text) : Except HighlightError Highlighter :=
  if themeNames.contains name then .ok ⟨name⟩ else .error (.unknownTheme name)

/-- A description of a highlighter for developers; only its theme is told. -/
def describe (highlighter : Highlighter) : Text :=
  "Highlighter \x7b theme_name: ".toList ++ Text.quoted highlighter.theme ++ ", .. \x7d".toList

/-- The highlighter that is used when none is asked for. -/
def default : Highlighter := ⟨defaultTheme⟩

end Highlighter

end DocSite.Code
