import DocSite.Json.Skip
import DocSite.Proofs.Json.Objects

/-!
# The grammar of JSON

What it is for a text to begin with a value, told without a reader. Each form is told by the text
that begins with it and the text that is behind it. The marks of a string are kept apart, since an
escape may stand for half of a character.
-/

namespace DocSite.Json

/-! ## Blanks -/

/-- A blank that may stand between two tokens. -/
def isBlank (c : Char) : Bool :=
  c == ' ' || c == '\n' || c == '\t' || c == '\r'

/-- A text without the blanks at its start. -/
def unblank (text : Text) : Text :=
  text.dropWhile isBlank

/-! ## Strings -/

/-- What is written in a string: a character, or a code unit of sixteen bits as an escape. -/
inductive Mark
  | char (c : Char)
  | unit (value : Nat)
  deriving DecidableEq, Repr

/-- The letters that stand for characters behind a backslash. -/
def escapeLetters : List (Char × Char) :=
  [('\x22', '\x22'), ('\\', '\\'), ('/', '/'), ('b', '\x08'), ('f', '\x0c'), ('n', '\n'),
    ('r', '\r'), ('t', '\t')]

/-- A text begins with an escape, behind its backslash. -/
inductive BeginsEscape : Text → Mark → Text → Prop
  | letter {letter meant : Char} {rest : Text} (known : (letter, meant) ∈ escapeLetters) :
      BeginsEscape (letter :: rest) (.char meant) rest
  | unit {digits rest : Text} (four : digits.length = 4) (hex : digits.all Text.isHexDigit) :
      BeginsEscape ('u' :: (digits ++ rest)) (.unit (Text.hexadecimalValue digits)) rest

/-- A text begins with a string, behind its opening quotation mark. -/
inductive BeginsString : Text → List Mark → Text → Prop
  | close {rest : Text} : BeginsString ('\x22' :: rest) [] rest
  | plain {c : Char} {text rest : Text} {marks : List Mark} (noQuote : c ≠ '\x22')
      (noEscape : c ≠ '\\') (visible : ' ' ≤ c) (more : BeginsString text marks rest) :
      BeginsString (c :: text) (.char c :: marks) rest
  | escape {text behind rest : Text} {mark : Mark} {marks : List Mark}
      (first : BeginsEscape text mark behind) (more : BeginsString behind marks rest) :
      BeginsString ('\\' :: text) (mark :: marks) rest

/-- The first half of a surrogate pair. -/
def IsHigh (unit : Nat) : Prop :=
  0xD800 ≤ unit ∧ unit ≤ 0xDBFF

/-- The second half of a surrogate pair. -/
def IsLow (unit : Nat) : Prop :=
  0xDC00 ≤ unit ∧ unit ≤ 0xDFFF

instance (unit : Nat) : Decidable (IsHigh unit) :=
  inferInstanceAs (Decidable (_ ∧ _))

instance (unit : Nat) : Decidable (IsLow unit) :=
  inferInstanceAs (Decidable (_ ∧ _))

/-- The character of a surrogate pair. -/
def pairChar (high low : Nat) : Char :=
  Char.ofNat ((high - 0xD800) * 0x400 + (low - 0xDC00) + 0x10000)

/-- The text that marks stand for, unless a half of a surrogate pair stands alone. -/
def textOf? : List Mark → Option Text
  | [] => some []
  | .char c :: marks => (textOf? marks).map (c :: ·)
  | .unit unit :: marks =>
    if IsLow unit then none
    else if IsHigh unit then
      match marks with
      | .unit low :: marks =>
        if IsLow low then (textOf? marks).map (pairChar unit low :: ·) else none
      | _ => none
    else (textOf? marks).map (Char.ofNat unit :: ·)

/-! ## Numbers -/

/-- One or more digits. -/
def IsDigits (digits : Text) : Prop :=
  digits ≠ [] ∧ ∀ c ∈ digits, Text.isAsciiDigit c

/-- The integer part of a number, with no zero in front of other digits. -/
inductive IsWhole : Text → Prop
  | zero : IsWhole ['0']
  | digits {c : Char} {more : Text} (noZero : c ≠ '0') (isDigits : IsDigits (c :: more)) :
      IsWhole (c :: more)

/-- The fraction of a number, which may be left out. -/
inductive IsFraction : Text → Prop
  | none : IsFraction []
  | digits {digits : Text} (isDigits : IsDigits digits) : IsFraction ('.' :: digits)

/-- The exponent of a number, which may be left out. -/
inductive IsExponent : Text → Prop
  | none : IsExponent []
  | digits {mark : Char} {sign digits : Text} (isMark : mark = 'e' ∨ mark = 'E')
      (isSign : sign ∈ [[], ['+'], ['-']]) (isDigits : IsDigits digits) :
      IsExponent (mark :: (sign ++ digits))

/-- A number without a sign. -/
def IsUnsigned (written : Text) : Prop :=
  ∃ whole fraction exponent, written = whole ++ (fraction ++ exponent) ∧ IsWhole whole ∧
    IsFraction fraction ∧ IsExponent exponent

/-! ## Values -/

/-- A value as it is written. -/
inductive Tree
  | null
  | boolean (value : Bool)
  | number
  | string (marks : List Mark)
  | list (items : List Tree)
  | object (members : List (List Mark × Tree))

/-- Where an item or a member begins: at once if it is the first one, else behind a comma. -/
def Separated (isFirst : Bool) (text item : Text) : Prop :=
  if isFirst then unblank text = item else ∃ more, unblank text = ',' :: more ∧ unblank more = item

mutual

/-- A text begins with a value. -/
inductive Begins : Text → Tree → Text → Prop
  | null {rest : Text} : Begins ('n' :: 'u' :: 'l' :: 'l' :: rest) .null rest
  | true {rest : Text} : Begins ('t' :: 'r' :: 'u' :: 'e' :: rest) (.boolean true) rest
  | false {rest : Text} : Begins ('f' :: 'a' :: 'l' :: 's' :: 'e' :: rest) (.boolean false) rest
  | number {written rest : Text} (isUnsigned : IsUnsigned written) :
      Begins (written ++ rest) .number rest
  | negative {written rest : Text} (isUnsigned : IsUnsigned written) :
      Begins ('-' :: (written ++ rest)) .number rest
  | string {text rest : Text} {marks : List Mark} (isString : BeginsString text marks rest) :
      Begins ('\x22' :: text) (.string marks) rest
  | list {text rest : Text} {items : List Tree} (areItems : BeginsItems true text items rest) :
      Begins ('[' :: text) (.list items) rest
  | object {text rest : Text} {members : List (List Mark × Tree)}
      (areMembers : BeginsMembers true text members rest) :
      Begins ('\x7b' :: text) (.object members) rest

/-- A text begins with items of a list, and with the bracket behind them. -/
inductive BeginsItems : Bool → Text → List Tree → Text → Prop
  | done {isFirst : Bool} {text rest : Text} (closed : unblank text = ']' :: rest) :
      BeginsItems isFirst text [] rest
  | item {isFirst : Bool} {text start behind rest : Text} {item : Tree} {items : List Tree}
      (separated : Separated isFirst text start) (first : Begins start item behind)
      (more : BeginsItems false behind items rest) : BeginsItems isFirst text (item :: items) rest

/-- A text begins with members of an object, and with the brace behind them. -/
inductive BeginsMembers : Bool → Text → List (List Mark × Tree) → Text → Prop
  | done {isFirst : Bool} {text rest : Text} (closed : unblank text = '\x7d' :: rest) :
      BeginsMembers isFirst text [] rest
  | member {isFirst : Bool} {text start named value behind rest : Text} {name : List Mark}
      {tree : Tree} {members : List (List Mark × Tree)}
      (separated : Separated isFirst text ('\x22' :: start))
      (isName : BeginsString start name named) (colon : unblank named = ':' :: value)
      (first : Begins (unblank value) tree behind)
      (more : BeginsMembers false behind members rest) :
      BeginsMembers isFirst text ((name, tree) :: members) rest

end

/-- A text is one value, perhaps with blanks around it. -/
def Spells (text : Text) (tree : Tree) : Prop :=
  ∃ rest, Begins (unblank text) tree rest ∧ unblank rest = []

/-! ## Lengths -/

theorem length_unblank_le (text : Text) : (unblank text).length ≤ text.length :=
  (List.dropWhile_sublist isBlank).length_le

theorem length_lt_of_unblank {c : Char} {text rest : Text} (starts : unblank text = c :: rest) :
    rest.length < text.length := by
  have before := length_unblank_le text
  rwa [starts, List.length_cons] at before

theorem BeginsEscape.length_lt {text rest : Text} {mark : Mark}
    (escape : BeginsEscape text mark rest) : rest.length < text.length := by
  cases escape with
  | letter known => exact Nat.lt_succ_self _
  | unit four hex =>
      rw [List.length_cons, List.length_append]
      omega

theorem BeginsString.length_lt {text rest : Text} {marks : List Mark}
    (isString : BeginsString text marks rest) : rest.length < text.length := by
  induction isString with
  | close => exact Nat.lt_succ_self _
  | plain _ _ _ _ induction => exact Nat.lt_succ_of_lt induction
  | escape first _ induction => exact Nat.lt_succ_of_lt (induction.trans first.length_lt)

theorem Separated.length_le {isFirst : Bool} {text item : Text}
    (separated : Separated isFirst text item) : item.length ≤ text.length := by
  have before := length_unblank_le text
  unfold Separated at separated
  split at separated
  · rwa [separated] at before
  · obtain ⟨more, comma, rfl⟩ := separated
    exact (length_unblank_le more).trans (length_lt_of_unblank comma).le

theorem IsUnsigned.length_pos {written : Text} (isUnsigned : IsUnsigned written) :
    0 < written.length := by
  obtain ⟨whole, fraction, exponent, rfl, isWhole, -, -⟩ := isUnsigned
  cases isWhole <;> exact Nat.succ_pos _

mutual

theorem Begins.length_lt {text rest : Text} {tree : Tree} :
    Begins text tree rest → rest.length < text.length
  | .null => by simp only [List.length_cons]; omega
  | .true => by simp only [List.length_cons]; omega
  | .false => by simp only [List.length_cons]; omega
  | .number isUnsigned => by
      have positive := isUnsigned.length_pos
      rw [List.length_append]
      omega
  | .negative isUnsigned => by
      rw [List.length_cons, List.length_append]
      omega
  | .string isString => Nat.lt_succ_of_lt isString.length_lt
  | .list areItems => Nat.lt_succ_of_lt areItems.length_lt
  | .object areMembers => Nat.lt_succ_of_lt areMembers.length_lt

theorem BeginsItems.length_lt {isFirst : Bool} {text rest : Text} {items : List Tree} :
    BeginsItems isFirst text items rest → rest.length < text.length
  | .done closed => length_lt_of_unblank closed
  | .item separated first more => by
      have start := separated.length_le
      have value := first.length_lt
      have behind := more.length_lt
      omega

theorem BeginsMembers.length_lt {isFirst : Bool} {text rest : Text}
    {members : List (List Mark × Tree)} :
    BeginsMembers isFirst text members rest → rest.length < text.length
  | .done closed => length_lt_of_unblank closed
  | .member separated isName colon first more => by
      have start := Nat.lt_of_succ_le separated.length_le
      have name := isName.length_lt
      have opened := length_lt_of_unblank colon
      have value := first.length_lt.trans_le (length_unblank_le _)
      have behind := more.length_lt
      omega

end

end DocSite.Json
