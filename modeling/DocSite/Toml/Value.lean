import DocSite.Decimal.Double
import DocSite.Text.Quoted

/-!
# TOML values

A table is a list of members in the order of their keys, in which a key occurs once. It remembers how
it was written, since that decides what may be added to it later in the text.
-/

namespace DocSite.Toml

/-- A number with a fraction or an exponent, or one of the special numbers. -/
inductive Fraction
  /-- A number of double precision and its sign. -/
  | finite (negative : Bool) (magnitude : Decimal.Double)
  /-- Infinity and its sign. -/
  | infinite (negative : Bool)
  /-- Not a number. -/
  | undefined
  /-- A number that is too large for double precision. -/
  | tooLarge
  deriving DecidableEq, Repr

/-- How a table was written. -/
inductive TableForm
  /-- It has a header of its own. -/
  | header
  /-- It is the parent of a table with a header. -/
  | implied
  /-- It is the parent of the member of a dotted key. -/
  | dotted
  /-- It is in braces. -/
  | inline
  deriving DecidableEq, Repr

/-- A value. -/
inductive Value
  /-- A text. -/
  | string (text : Text)
  /-- An integer of any size. -/
  | integer (number : Int)
  /-- A number with a fraction. -/
  | fraction (number : Fraction)
  /-- A truth value. -/
  | boolean (truth : Bool)
  /-- A date, a time or both. -/
  | dateTime
  /-- A list in brackets. -/
  | list (items : List Value)
  /-- A list of tables, each with a header. -/
  | tables (elements : List (List (Text × Value)))
  /-- A table. -/
  | table (form : TableForm) (members : List (Text × Value))
  deriving Repr

/-- The members of a table. -/
abbrev Members := List (Text × Value)

/-- Whether a text comes before another one in the order of their characters. -/
def comesBefore : Text → Text → Bool
  | _, [] => false
  | [], _ :: _ => true
  | a :: left, b :: right => a < b || (a == b && comesBefore left right)

namespace Members

/-- The value of a key. -/
def find? (key : Text) : Members → Option Value
  | [] => none
  | (name, value) :: rest => if name = key then some value else find? key rest

/-- Gives a key a value. -/
def put (key : Text) (value : Value) : Members → Members
  | [] => [(key, value)]
  | (name, other) :: rest =>
    if name = key then (key, value) :: rest
    else if comesBefore key name then (key, value) :: (name, other) :: rest
    else (name, other) :: put key value rest

end Members

/-! ## Faults -/

/-- Why a text does not have a meaning. -/
inductive Fault
  /-- The text does not follow the rules of the format. -/
  | malformed
  /-- An escape names a code point that is no character. -/
  | noCharacter
  /-- A number is too large. -/
  | numberTooLarge
  /-- A value of another kind is expected. -/
  | wrongKind (found expected : Text)
  /-- A value in another range is expected. -/
  | wrongValue (found expected : Text)
  deriving DecidableEq, Repr

/-- The message of a fault. -/
def Fault.message : Fault → Text
  | malformed => "not a TOML document"
  | noCharacter => "invalid value, expected unicode hexadecimal value"
  | numberTooLarge => "number overflowed"
  | wrongKind found expected =>
    "invalid type: ".toList ++ found ++ ", expected ".toList ++ expected
  | wrongValue found expected =>
    "invalid value: ".toList ++ found ++ ", expected ".toList ++ expected

/-! ## Descriptions -/

/-- An integer in decimal digits. -/
def integerText (number : Int) : Text :=
  (if number < 0 then ['-'] else []) ++ Text.ofNat number.natAbs

/-- The text of a number that is not too large. -/
def Fraction.text : Fraction → Text
  | finite negative magnitude => (if negative then ['-'] else []) ++ magnitude.plain
  | infinite negative => (if negative then ['-'] else []) ++ "inf".toList
  | undefined => "NaN"
  | tooLarge => []

/-- A power of two. -/
def powerOfTwo (bits : Nat) : Int :=
  (Nat.pow 2 bits : Nat)

/-- Names an integer by its size; beyond 128 bits it has no name. -/
def integerDescription (number : Int) : Except Fault Text :=
  let quoted := "integer `".toList ++ integerText number ++ ['\x60']
  if -powerOfTwo 63 ≤ number ∧ number < powerOfTwo 64 then .ok quoted
  else if -powerOfTwo 127 ≤ number ∧ number < powerOfTwo 127 then .ok (quoted ++ " as i128".toList)
  else if 0 ≤ number ∧ number < powerOfTwo 128 then .ok (quoted ++ " as u128".toList)
  else .error .numberTooLarge

/-- Names a value in a message. -/
def Value.description : Value → Except Fault Text
  | string text => .ok ("string ".toList ++ Text.quoted text)
  | integer number => integerDescription number
  | fraction .tooLarge => .error .numberTooLarge
  | fraction number => .ok ("floating point `".toList ++ number.text ++ ['\x60'])
  | boolean true => .ok "boolean `true`".toList
  | boolean false => .ok "boolean `false`".toList
  | dateTime | table .. => .ok "map".toList
  | list _ | tables _ => .ok "sequence".toList

/-- Refuses a value of the wrong kind. -/
def Value.refuse {α : Type} (value : Value) (expected : Text) : Except Fault α := do
  throw (.wrongKind (← value.description) expected)

end DocSite.Toml
