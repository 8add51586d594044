import DocSite.Text.Basic

/-!
# Stylesheets

A stylesheet is a list of rules. A rule gives values to properties of the elements that a selector
chooses, and is written on one line or over several.
-/

namespace DocSite.Html

/-- How a rule is laid out. -/
inductive RuleLayout
  /-- Everything on one line. -/
  | onOneLine
  /-- Each declaration on a line of its own. -/
  | onLines
  deriving DecidableEq, Repr

/-- A value for a property. -/
structure Declaration where
  /-- The property. -/
  property : Text
  /-- Its value. -/
  value : Text
  deriving DecidableEq, Repr

namespace Declaration

/-- Writes a declaration. -/
def write (declaration : Declaration) : Text :=
  declaration.property ++ ": ".toList ++ declaration.value ++ [';']

end Declaration

/-- A rule of a stylesheet. -/
structure Rule where
  /-- How it is laid out. -/
  layout : RuleLayout
  /-- The elements that it is about. -/
  selector : Text
  /-- The values that it gives. -/
  declarations : List Declaration
  deriving DecidableEq, Repr

namespace Rule

/-- Writes a rule. -/
def write (rule : Rule) : Text :=
  match rule.layout with
  | .onOneLine =>
    rule.selector ++ " \x7b ".toList ++
      rule.declarations.flatMap (fun declaration => declaration.write ++ [' ']) ++ "\x7d\n".toList
  | .onLines =>
    rule.selector ++ " \x7b\n".toList ++
      rule.declarations.flatMap (fun declaration => "  ".toList ++ declaration.write ++ ['\n']) ++
      "\x7d\n".toList

/-- Writes rules one after the other. -/
def writeAll (rules : List Rule) : Text :=
  rules.flatMap write

end Rule

end DocSite.Html
