import DocSite.Text.Basic
import Mathlib.Data.List.TakeDrop

/-!
# The tokens of stylesheets

What a browser takes a stylesheet apart into before it looks for rules and declarations, after the
module of the CSS standard on syntax. The parts that matter most here are strings: a quotation mark
ends one, a line break spoils it, and behind a backslash characters stand for others.
-/

namespace DocSite.Css

/-! ## Characters -/

/-- What a character is read as: all line breaks are alike, and there is no null. -/
def readAs (c : Char) : Char :=
  if c == '\r' || c == '\x0c' then '\n' else if c == '\x00' then '\ufffd' else c

/-- The text of which the tokens are read. A carriage return with a line feed is one line break. -/
def preprocess : Text → Text
  | [] => []
  | c :: rest =>
    if c == '\r' && rest.head? == some '\n' then preprocess rest else readAs c :: preprocess rest

/-- A character that white space consists of. -/
def isSpace (c : Char) : Bool :=
  c == ' ' || c == '\t' || c == '\n'

/-- A character that a name may begin with. -/
def isNameStart (c : Char) : Bool :=
  Text.isAsciiLetter c || c == '_' || '\x80' ≤ c

/-- A character that a name may hold. -/
def isNameChar (c : Char) : Bool :=
  isNameStart c || Text.isAsciiDigit c || c == '-'

/-- A character that no address without quotation marks may hold. -/
def isNonPrintable (c : Char) : Bool :=
  c ≤ '\x08' || c == '\x0b' || ('\x0e' ≤ c && c ≤ '\x1f') || c == '\x7f'

/-- A character that is a token by itself. -/
def isMark (c : Char) : Bool :=
  [':', ';', ',', '(', ')', '[', ']', '\x7b', '\x7d'].contains c

/-! ## Escapes -/

/-- Whether a text begins with an escape. -/
def startsEscape : Text → Bool
  | '\\' :: '\n' :: _ => false
  | '\\' :: _ => true
  | _ => false

/-- The character with a certain number, if there is one that text may hold. -/
def charOf (number : Nat) : Char :=
  if number == 0 then '\ufffd' else if number.isValidChar then Char.ofNat number else '\ufffd'

/-- The hexadecimal digits that an escape begins with. -/
def escapeDigits (text : Text) : Text :=
  (text.takeWhile Text.isHexDigit).take 6

/-- The length of the white space that closes an escape with digits. -/
def closingLength : Text → Nat
  | c :: _ => if isSpace c then 1 else 0
  | [] => 0

/-- The character that an escape stands for and its length, behind the backslash. -/
def escaped : Text → Char × Nat
  | [] => ('\ufffd', 0)
  | c :: rest =>
    let digits := escapeDigits (c :: rest)
    if digits.isEmpty then (c, 1)
    else
      (charOf (Text.hexadecimalValue digits),
        digits.length + closingLength ((c :: rest).drop digits.length))

/-! ## Tokens -/

/-- A token of a stylesheet. Numbers are kept as they are written. -/
inductive Token
  | whitespace
  | name (value : Text)
  | call (value : Text)
  | atName (value : Text)
  | hash (value : Text)
  | string (value : Text)
  | badString
  | url (value : Text)
  | badUrl
  | number (written : Text)
  | percentage (written : Text)
  | dimension (written unit : Text)
  | markupOpen
  | markupClose
  | mark (c : Char)
  | other (c : Char)
  deriving DecidableEq, Repr

/-- The name at the start of a text and what is behind it; the first `skip` characters belong to an
escape. -/
def nameFrom : (skip : Nat) → Text → Text × Text
  | _, [] => ([], [])
  | skip + 1, _ :: rest => nameFrom skip rest
  | 0, c :: rest =>
    if isNameChar c then
      let (value, behind) := nameFrom 0 rest
      (c :: value, behind)
    else if startsEscape (c :: rest) then
      let (meant, length) := escaped rest
      let (value, behind) := nameFrom length rest
      (meant :: value, behind)
    else ([], c :: rest)

/-- The value of a string behind its opening quotation mark, unless a line break spoils it, and what
is behind it; the first `skip` characters belong to an escape. The end of the stylesheet ends a
string as well. -/
def stringFrom (quote : Char) : (skip : Nat) → Text → Option Text × Text
  | _, [] => (some [], [])
  | skip + 1, _ :: rest => stringFrom quote skip rest
  | 0, c :: rest =>
    if c == quote then (some [], rest)
    else if c == '\n' then (none, c :: rest)
    else if c == '\\' then
      if rest.isEmpty then (some [], [])
      else if rest.head? == some '\n' then stringFrom quote 1 rest
      else
        let (meant, length) := escaped rest
        let (value, behind) := stringFrom quote length rest
        (value.map (meant :: ·), behind)
    else
      let (value, behind) := stringFrom quote 0 rest
      (value.map (c :: ·), behind)

/-- What is behind an address that is not in order; the first `skip` characters belong to an
escape. -/
def behindBadUrl : (skip : Nat) → Text → Text
  | _, [] => []
  | skip + 1, _ :: rest => behindBadUrl skip rest
  | 0, c :: rest =>
    if c == ')' then rest
    else if startsEscape (c :: rest) then behindBadUrl (escaped rest).2 rest
    else behindBadUrl 0 rest

/-- An address without quotation marks, unless it is not in order, and what is behind it; the first
`skip` characters belong to an escape. -/
def urlFrom : (skip : Nat) → Text → Option Text × Text
  | _, [] => (some [], [])
  | skip + 1, _ :: rest => urlFrom skip rest
  | 0, c :: rest =>
    if c == ')' then (some [], rest)
    else if isSpace c then
      match rest.dropWhile isSpace with
      | [] => (some [], [])
      | ')' :: behind => (some [], behind)
      | behind => (none, behindBadUrl 0 behind)
    else if startsEscape (c :: rest) then
      let (meant, length) := escaped rest
      let (value, behind) := urlFrom length rest
      (value.map (meant :: ·), behind)
    else if c == '\x22' || c == '\'' || c == '(' || c == '\\' || isNonPrintable c then
      (none, behindBadUrl 0 rest)
    else
      let (value, behind) := urlFrom 0 rest
      (value.map (c :: ·), behind)

/-! ## The next token -/

/-- Whether a text begins with a name. -/
def startsName : Text → Bool
  | '-' :: c :: rest => isNameStart c || c == '-' || startsEscape (c :: rest)
  | c :: rest => isNameStart c || startsEscape (c :: rest)
  | [] => false

/-- How many digits a text begins with. -/
def digitCount (text : Text) : Nat :=
  Text.countWhile Text.isAsciiDigit text

/-- The length of the sign that a text begins with. -/
def signLength : Text → Nat
  | '+' :: _ => 1
  | '-' :: _ => 1
  | _ => 0

/-- The length of the fraction of a number, with its point. -/
def fractionLength : Text → Nat
  | '.' :: rest => if 0 < digitCount rest then digitCount rest + 1 else 0
  | _ => 0

/-- The length of the exponent of a number. -/
def exponentLength : Text → Nat
  | c :: rest =>
    let digits := digitCount (rest.drop (signLength rest))
    if (c == 'e' || c == 'E') && 0 < digits then signLength rest + digits + 1 else 0
  | [] => 0

/-- The length of the number that a text begins with; zero if there is none. -/
def numberLength (text : Text) : Nat :=
  let sign := signLength text
  let whole := digitCount (text.drop sign)
  let fraction := fractionLength (text.drop (sign + whole))
  if whole + fraction = 0 then 0
  else
    let length := sign + whole + fraction
    length + exponentLength (text.drop length)

/-- The token of a number, and what is behind it. -/
def numeric (text : Text) : Token × Text :=
  let written := text.take (numberLength text)
  let behind := text.drop (numberLength text)
  if startsName behind then
    let (unit, behind) := nameFrom 0 behind
    (.dimension written unit, behind)
  else
    match behind with
    | '%' :: behind => (.percentage written, behind)
    | _ => (.number written, behind)

/-- The token of a name, and what is behind it. -/
def named (text : Text) : Token × Text :=
  let (value, behind) := nameFrom 0 text
  match behind with
  | '(' :: inside =>
    if Text.equalsIgnoringCase value "url".toList then
      match inside.dropWhile isSpace with
      | '\x22' :: _ => (.call value, inside)
      | '\'' :: _ => (.call value, inside)
      | start =>
        let (address, behind) := urlFrom 0 start
        (address.elim .badUrl .url, behind)
    else (.call value, inside)
  | _ => (.name value, behind)

/-- What is behind a comment, which may lack its end. -/
def behindComment : Text → Text
  | '*' :: '/' :: rest => rest
  | _ :: rest => behindComment rest
  | [] => []

/-- The next token of a text that does not begin with a comment, and what is behind it. -/
def tokenAt (c : Char) (rest : Text) : Token × Text :=
  let text := c :: rest
  if isSpace c then (.whitespace, rest.dropWhile isSpace)
  else if c == '\x22' || c == '\'' then
    let (value, behind) := stringFrom c 0 rest
    (value.elim .badString .string, behind)
  else if c == '#' then
    if (rest.head?.any isNameChar) || startsEscape rest then
      let (value, behind) := nameFrom 0 rest
      (.hash value, behind)
    else (.other c, rest)
  else if 0 < numberLength text then numeric text
  else if Text.startsWith text "-->".toList then (.markupClose, rest.drop 2)
  else if startsName text then named text
  else if Text.startsWith text "<!--".toList then (.markupOpen, rest.drop 3)
  else if c == '@' && startsName rest then
    let (value, behind) := nameFrom 0 rest
    (.atName value, behind)
  else if isMark c then (.mark c, rest)
  else (.other c, rest)

/-- A text is taken apart into tokens; comments are left out. -/
inductive Tokens : Text → List Token → Prop
  | nil : Tokens [] []
  | comment {rest : Text} {tokens : List Token} (behind : Tokens (behindComment rest) tokens) :
      Tokens ('/' :: '*' :: rest) tokens
  | token {c : Char} {rest : Text} {tokens : List Token}
      (noComment : ∀ inside, c :: rest ≠ '/' :: '*' :: inside)
      (behind : Tokens (tokenAt c rest).2 tokens) :
      Tokens (c :: rest) ((tokenAt c rest).1 :: tokens)

/-- A stylesheet consists of certain tokens. -/
def ConsistsOf (stylesheet : Text) (tokens : List Token) : Prop :=
  Tokens (preprocess stylesheet) tokens

/-! ## Preprocessed texts -/

theorem readAs_readAs (c : Char) : readAs (readAs c) = readAs c := by
  by_cases isBreak : c == '\r' || c == '\x0c'
  · rw [show readAs c = '\n' by rw [readAs, if_pos isBreak]]
    rfl
  · by_cases isNull : c == '\x00'
    · rw [show readAs c = '\ufffd' by rw [readAs, if_neg isBreak, if_pos isNull]]
      rfl
    · have same : readAs c = c := by rw [readAs, if_neg isBreak, if_neg isNull]
      rw [same, same]

theorem preprocess_cons {c : Char} {rest : Text}
    (apart : c ≠ '\r' ∨ rest.head? ≠ some '\n') :
    preprocess (c :: rest) = readAs c :: preprocess rest := by
  rw [preprocess, if_neg]
  simpa [imp_iff_not_or] using apart

theorem readAs_of_mem_preprocess {text : Text} {c : Char} (member : c ∈ preprocess text) :
    readAs c = c := by
  induction text with
  | nil => nomatch member
  | cons first rest induction =>
      rw [preprocess] at member
      split at member
      · exact induction member
      · rcases List.mem_cons.mp member with rfl | member
        · exact readAs_readAs first
        · exact induction member

theorem length_preprocess_le (text : Text) : (preprocess text).length ≤ text.length := by
  induction text with
  | nil => exact Nat.le_refl 0
  | cons c rest induction =>
      rw [preprocess]
      split
      · exact Nat.le_succ_of_le induction
      · exact Nat.succ_le_succ induction

/-- Characters that are read as they are stay in front. -/
theorem preprocess_append {left : Text} (same : ∀ c ∈ left, readAs c = c) (right : Text) :
    preprocess (left ++ right) = left ++ preprocess right := by
  induction left with
  | nil => rfl
  | cons c left induction =>
      rw [List.forall_mem_cons] at same
      have apart : c ≠ '\r' := by
        rintro rfl
        exact absurd same.1 (by decide)
      rw [List.cons_append, preprocess_cons (.inl apart), same.1, induction same.2,
        List.cons_append]

theorem preprocess_append_cons {c : Char} (noFeed : c ≠ '\n') (left right : Text) :
    preprocess (left ++ c :: right) = preprocess left ++ preprocess (c :: right) := by
  induction left with
  | nil => rfl
  | cons first left induction =>
      have next : (left ++ c :: right).head? == some '\n' ↔ left.head? == some '\n' := by
        cases left <;> simp [noFeed]
      rw [List.cons_append, preprocess, preprocess, induction, Bool.eq_iff_iff.mpr next]
      split <;> rfl

/-! ## Strings -/

theorem escapeDigits_append (text rest : Text) :
    escapeDigits (text ++ '\x22' :: rest) = escapeDigits text := by
  have same : (text ++ '\x22' :: rest).takeWhile Text.isHexDigit =
      text.takeWhile Text.isHexDigit := by
    induction text with
    | nil => rfl
    | cons c text induction =>
        rw [List.cons_append, List.takeWhile_cons, List.takeWhile_cons, induction]
  rw [escapeDigits, escapeDigits, same]

theorem length_escapeDigits_le (text : Text) : (escapeDigits text).length ≤ text.length :=
  ((List.take_sublist 6 _).trans (List.takeWhile_sublist _)).length_le

/-- An escape in front of a quotation mark ends before it, unless it stands for the quotation mark
itself. -/
theorem escaped_length {text : Text} (any : text ≠ []) (rest : Text) :
    0 < (escaped (text ++ '\x22' :: rest)).2 ∧
      (escaped (text ++ '\x22' :: rest)).2 ≤ text.length := by
  obtain ⟨c, more, rfl⟩ := List.exists_cons_of_ne_nil any
  have digits := escapeDigits_append (c :: more) rest
  have within := length_escapeDigits_le (c :: more)
  rw [List.cons_append] at digits ⊢
  rw [escaped, digits]
  split
  · exact ⟨Nat.one_pos, Nat.succ_le_succ (Nat.zero_le _)⟩
  · next nonempty =>
      have positive : 0 < (escapeDigits (c :: more)).length :=
        List.length_pos_iff.mpr (by simpa using nonempty)
      refine ⟨Nat.add_pos_left positive _, ?_⟩
      rw [← List.cons_append, List.drop_append_of_le_length within]
      -- White space behind the digits cannot be the quotation mark.
      cases behind : (c :: more).drop (escapeDigits (c :: more)).length with
      | nil => exact within
      | cons next others =>
          have room := congrArg List.length behind
          simp only [List.length_drop, List.length_cons] at room within ⊢
          dsimp only [List.cons_append, closingLength]
          split <;> omega

theorem stringFrom_drop (quote : Char) {skip : Nat} {text : Text} :
    stringFrom quote skip text = stringFrom quote 0 (text.drop skip) := by
  induction text generalizing skip with
  | nil => cases skip <;> rfl
  | cons c rest induction =>
      cases skip with
      | zero => rfl
      | succ skip => rw [stringFrom, induction, List.drop_succ_cons]

/-- A character stands for itself in a string in quotation marks. -/
def StandsForItself (c : Char) : Prop :=
  c ≠ '\x22' ∧ c ≠ '\n' ∧ c ≠ '\\'

theorem stringFrom_cons {c : Char} (stands : StandsForItself c) (rest : Text) :
    stringFrom '\x22' 0 (c :: rest) =
      ((stringFrom '\x22' 0 rest).1.map (c :: ·), (stringFrom '\x22' 0 rest).2) := by
  rw [stringFrom, if_neg (by simpa using stands.1), if_neg (by simpa using stands.2.1),
    if_neg (by simpa using stands.2.2)]

theorem stringFrom_escape {rest : Text} (any : rest ≠ []) (noBreak : rest.head? ≠ some '\n') :
    (stringFrom '\x22' 0 ('\\' :: rest)).1 =
      (stringFrom '\x22' 0 (rest.drop (escaped rest).2)).1.map ((escaped rest).1 :: ·) := by
  rw [stringFrom, if_neg (by decide), if_neg (by decide), if_pos (by decide),
    if_neg (by simpa using any), if_neg (by simpa using noBreak), ← stringFrom_drop]

theorem stringFrom_of_standsForItself {text : Text} (stands : ∀ c ∈ text, StandsForItself c)
    (rest : Text) : stringFrom '\x22' 0 (text ++ '\x22' :: rest) = (some text, rest) := by
  induction text with
  | nil => rfl
  | cons c text induction =>
      rw [List.forall_mem_cons] at stands
      rw [List.cons_append, stringFrom_cons stands.1, induction stands.2]
      rfl

/-- What closes a declaration whose value is in quotation marks. -/
def closing (rest : Text) : Text :=
  '\x22' :: ';' :: '\n' :: rest

theorem length_le_of_escape {text rest value : Text}
    (bound : ∀ part : Text, part.length ≤ text.length → ∀ value,
      (stringFrom '\x22' 0 (part ++ closing rest)).1 = some value → value.length ≤ part.length)
    (read : (stringFrom '\x22' 0 ('\\' :: (text ++ closing rest))).1 = some value) :
    value.length ≤ text.length := by
  cases text with
  | nil => nomatch read
  | cons c text =>
      by_cases isBreak : c = '\n'
      · subst isBreak
        have shorter := bound text (Nat.le_succ _) value read
        exact Nat.le_succ_of_le shorter
      · obtain ⟨positive, within⟩ := escaped_length (List.cons_ne_nil c text) (';' :: '\n' :: rest)
        rw [stringFrom_escape (by simp) (by simpa using isBreak)] at read
        obtain ⟨more, readMore, rfl⟩ := Option.map_eq_some_iff.mp read
        rw [closing, List.drop_append_of_le_length within] at readMore
        have shorter := bound _ (by rw [List.length_drop]; omega) more readMore
        rw [List.length_drop] at shorter
        rw [List.length_cons]
        omega

/-- A string in quotation marks at the end of a line is read as no more characters than stand
between these marks: the line break spoils it if the closing one is not read as such. -/
theorem length_stringFrom_le {text rest value : Text}
    (read : (stringFrom '\x22' 0 (text ++ closing rest)).1 = some value) :
    value.length ≤ text.length := by
  induction size : text.length using Nat.strongRecOn generalizing text value with
  | _ size induction =>
      subst size
      cases text with
      | nil =>
          obtain rfl := Option.some.inj read
          exact Nat.le_refl 0
      | cons c text =>
          have bound (part : Text) (shorter : part.length ≤ text.length) (value : Text)
              (read : (stringFrom '\x22' 0 (part ++ closing rest)).1 = some value) :
              value.length ≤ part.length :=
            induction part.length (Nat.lt_succ_of_le shorter) read rfl
          by_cases isQuote : c = '\x22'
          · subst isQuote
            obtain rfl := Option.some.inj read
            exact Nat.zero_le _
          by_cases isBreak : c = '\n'
          · subst isBreak
            nomatch read
          by_cases isEscape : c = '\\'
          · subst isEscape
            exact Nat.le_succ_of_le (length_le_of_escape bound read)
          · rw [List.cons_append, stringFrom_cons ⟨isQuote, isBreak, isEscape⟩] at read
            obtain ⟨more, readMore, rfl⟩ := Option.map_eq_some_iff.mp read
            exact Nat.succ_le_succ (bound text (Nat.le_refl _) more readMore)

/-- If it is read as that many characters, then each of them stands for itself. -/
theorem stringFrom_full {text rest value : Text}
    (read : (stringFrom '\x22' 0 (text ++ closing rest)).1 = some value)
    (full : text.length ≤ value.length) : value = text ∧ ∀ c ∈ text, StandsForItself c := by
  induction text generalizing value with
  | nil =>
      obtain rfl := Option.some.inj read
      exact ⟨rfl, fun c member => nomatch member⟩
  | cons c text induction =>
      by_cases isQuote : c = '\x22'
      · subst isQuote
        obtain rfl := Option.some.inj read
        nomatch full
      by_cases isBreak : c = '\n'
      · subst isBreak
        nomatch read
      by_cases isEscape : c = '\\'
      · subst isEscape
        have shorter := length_le_of_escape (fun _ _ _ => length_stringFrom_le) read
        exact absurd full (Nat.not_le_of_lt (Nat.lt_succ_of_le shorter))
      · rw [List.cons_append, stringFrom_cons ⟨isQuote, isBreak, isEscape⟩] at read
        obtain ⟨more, readMore, rfl⟩ := Option.map_eq_some_iff.mp read
        obtain ⟨rfl, others⟩ := induction readMore (Nat.le_of_succ_le_succ full)
        exact ⟨rfl, List.forall_mem_cons.mpr ⟨⟨isQuote, isBreak, isEscape⟩, others⟩⟩

/-- A text that may stand in quotation marks as it is: none of its characters ends the string,
spoils it, begins an escape or is read as another one. -/
def IsPlain (text : Text) : Prop :=
  ∀ c ∈ text, c ∉ ['\x22', '\n', '\\', '\r', '\x0c', '\x00']

instance (text : Text) : Decidable (IsPlain text) :=
  List.decidableBAll (· ∉ ['\x22', '\n', '\\', '\r', '\x0c', '\x00']) text

theorem isPlain_iff {text : Text} :
    IsPlain text ↔ preprocess text = text ∧ ∀ c ∈ text, StandsForItself c := by
  have each (c : Char) : c ∉ ['\x22', '\n', '\\', '\r', '\x0c', '\x00'] ↔
      readAs c = c ∧ StandsForItself c := by
    unfold readAs StandsForItself
    by_cases isReturn : c = '\r'
    · subst isReturn; decide
    by_cases isFeed : c = '\x0c'
    · subst isFeed; decide
    by_cases isNull : c = '\x00'
    · subst isNull; decide
    simp [isReturn, isFeed, isNull]
  simp only [IsPlain, each]
  constructor
  · intro plain
    have kept := preprocess_append (fun c member => (plain c member).1) []
    rw [List.append_nil] at kept
    exact ⟨kept.trans (List.append_nil text), fun c member => (plain c member).2⟩
  · rintro ⟨kept, stands⟩ c member
    exact ⟨readAs_of_mem_preprocess (kept.symm ▸ member), stands c member⟩

/-! ## Tokens as they are written -/

variable {rest behind : Text} {token found : Token} {tokens : List Token}

theorem Tokens.unique {text : Text} {others : List Token} (consists : Tokens text tokens)
    (also : Tokens text others) : tokens = others := by
  induction consists generalizing others with
  | nil => cases also; rfl
  | comment behind induction =>
      cases also with
      | comment alsoBehind => exact induction alsoBehind
      | token noComment _ => exact absurd rfl (noComment _)
  | token noComment behind induction =>
      cases also with
      | comment _ => exact absurd rfl (noComment _)
      | token _ alsoBehind => rw [induction alsoBehind]

theorem tokens_cons_iff {c : Char} (noSlash : c ≠ '/') (read : tokenAt c rest = (found, behind)) :
    Tokens (c :: rest) (token :: tokens) ↔ found = token ∧ Tokens behind tokens := by
  have noComment : ∀ inside, c :: rest ≠ '/' :: '*' :: inside := fun inside same =>
    noSlash (List.cons.inj same).1
  constructor
  · intro consists
    cases consists with
    | comment _ => exact absurd rfl (noComment _)
    | token _ behind => rw [read] at behind ⊢; exact ⟨rfl, behind⟩
  · rintro ⟨rfl, consists⟩
    have whole : Tokens (c :: rest) ((tokenAt c rest).1 :: tokens) :=
      .token noComment (by rwa [read])
    rwa [read] at whole

theorem tokens_space_iff {blank : Text} (any : blank ≠ []) (spaces : ∀ c ∈ blank, isSpace c)
    {next : Char} (noSpace : isSpace next = false) :
    Tokens (blank ++ next :: rest) (.whitespace :: tokens) ↔ Tokens (next :: rest) tokens := by
  obtain ⟨c, blank, rfl⟩ := List.exists_cons_of_ne_nil any
  rw [List.forall_mem_cons] at spaces
  have read : tokenAt c (blank ++ next :: rest) = (.whitespace, next :: rest) := by
    rw [tokenAt, if_pos spaces.1, List.dropWhile_append_of_pos spaces.2,
      List.dropWhile_cons_of_neg (by simp [noSpace])]
  rw [List.cons_append, tokens_cons_iff (by rintro rfl; nomatch spaces.1) read]
  exact and_iff_right rfl

theorem nameFrom_append {name : Text} (chars : ∀ c ∈ name, isNameChar c) {next : Char}
    (noChar : isNameChar next = false) (noEscape : next ≠ '\\') :
    nameFrom 0 (name ++ next :: rest) = (name, next :: rest) := by
  induction name with
  | nil =>
      have apart : startsEscape (next :: rest) = false := by
        unfold startsEscape
        split
        · rfl
        · next same => exact absurd (List.cons.inj same).1 noEscape
        · rfl
      rw [List.nil_append, nameFrom, noChar, apart]
      rfl
  | cons c name induction =>
      rw [List.forall_mem_cons] at chars
      rw [List.cons_append, nameFrom, if_pos chars.1, induction chars.2]

/-- A name with two hyphens in front is read as a whole. -/
theorem tokens_custom_iff {c : Char} {name : Text} (chars : ∀ d ∈ c :: name, isNameChar d) :
    Tokens ('-' :: '-' :: c :: name ++ ':' :: rest) (.name ('-' :: '-' :: c :: name) :: tokens) ↔
      Tokens (':' :: rest) tokens := by
  have whole : nameFrom 0 ('-' :: '-' :: c :: (name ++ ':' :: rest)) =
      ('-' :: '-' :: c :: name, ':' :: rest) := by
    have inName : ∀ d ∈ '-' :: '-' :: c :: name, isNameChar d := by
      rw [List.forall_mem_cons, List.forall_mem_cons]
      exact ⟨rfl, rfl, chars⟩
    exact nameFrom_append inName rfl (by decide)
  have noClose : ¬Text.startsWith ('-' :: '-' :: c :: (name ++ ':' :: rest)) "-->".toList := by
    have other : ('>' == c) = false := by
      rw [beq_eq_false_iff_ne]
      rintro rfl
      nomatch chars _ List.mem_cons_self
    simp [Text.startsWith, List.isPrefixOf, other]
  have read : tokenAt '-' ('-' :: c :: (name ++ ':' :: rest)) =
      (.name ('-' :: '-' :: c :: name), ':' :: rest) := by
    have begins : startsName ('-' :: '-' :: c :: (name ++ ':' :: rest)) = true := rfl
    have noNumber : numberLength ('-' :: '-' :: c :: (name ++ ':' :: rest)) = 0 := rfl
    rw [tokenAt, if_neg (by decide), if_neg (by decide), if_neg (by decide),
      if_neg (by rw [noNumber]; decide), if_neg noClose, if_pos begins, named, whole]
    rfl
  simp only [List.cons_append]
  rw [tokens_cons_iff (by decide) read]
  exact and_iff_right rfl

theorem isNameChar_of_isHexDigit {c : Char} (hex : Text.isHexDigit c) : isNameChar c := by
  simp only [Text.isHexDigit, isNameChar, isNameStart, Text.isAsciiLetter, Text.isAsciiDigit,
    Bool.or_eq_true, Bool.and_eq_true, decide_eq_true_eq, Char.le_def,
    UInt32.le_iff_toNat_le] at hex ⊢
  simp at hex ⊢
  omega

theorem tokens_hash_iff {digits : Text} (any : digits ≠ [])
    (hex : ∀ c ∈ digits, Text.isHexDigit c) :
    Tokens ('#' :: digits ++ ';' :: rest) (.hash digits :: tokens) ↔
      Tokens (';' :: rest) tokens := by
  have chars : ∀ c ∈ digits, isNameChar c := fun c member =>
    isNameChar_of_isHexDigit (hex c member)
  have whole : nameFrom 0 (digits ++ ';' :: rest) = (digits, ';' :: rest) :=
    nameFrom_append chars rfl (by decide)
  have begins : (digits ++ ';' :: rest).head?.any isNameChar := by
    obtain ⟨c, digits, rfl⟩ := List.exists_cons_of_ne_nil any
    exact chars c List.mem_cons_self
  have read : tokenAt '#' (digits ++ ';' :: rest) = (.hash digits, ';' :: rest) := by
    rw [tokenAt, if_neg (by decide), if_neg (by decide), if_pos (by decide), begins,
      Bool.true_or, if_pos (by decide), whole]
  rw [List.cons_append, tokens_cons_iff (by decide) read]
  exact and_iff_right rfl

theorem tokens_mark_iff {c : Char} (isMark : c ∈ [':', ';', '\x7b', '\x7d']) :
    Tokens (c :: rest) (.mark c :: tokens) ↔ Tokens rest tokens := by
  have noSlash : c ≠ '/' := by
    rintro rfl
    exact absurd isMark (by decide)
  have read : tokenAt c rest = (.mark c, rest) := by
    simp only [List.mem_cons, List.not_mem_nil, or_false] at isMark
    rcases isMark with rfl | rfl | rfl | rfl <;> rfl
  rw [tokens_cons_iff noSlash read]
  exact and_iff_right rfl

/-- A text in quotation marks is read as this text just if it is plain. -/
theorem tokens_string_iff {text : Text} :
    Tokens ('\x22' :: (preprocess text ++ closing rest)) (.string text :: tokens) ↔
      IsPlain text ∧ Tokens (';' :: '\n' :: rest) tokens := by
  have read : tokenAt '\x22' (preprocess text ++ closing rest) =
      ((stringFrom '\x22' 0 (preprocess text ++ closing rest)).1.elim .badString .string,
        (stringFrom '\x22' 0 (preprocess text ++ closing rest)).2) :=
    rfl
  rw [tokens_cons_iff (by decide) read, isPlain_iff]
  constructor
  · rintro ⟨same, consists⟩
    cases value : (stringFrom '\x22' 0 (preprocess text ++ closing rest)).1 with
    | none =>
        rw [value] at same
        nomatch same
    | some found =>
        rw [value] at same
        obtain rfl : found = text := Token.string.inj same
        obtain ⟨kept, stands⟩ := stringFrom_full value (length_preprocess_le found)
        rw [← kept] at stands
        rw [← kept, closing, stringFrom_of_standsForItself stands] at consists
        exact ⟨⟨kept.symm, stands⟩, consists⟩
  · rintro ⟨⟨kept, stands⟩, consists⟩
    rw [kept, closing, stringFrom_of_standsForItself stands]
    exact ⟨rfl, consists⟩

end DocSite.Css
