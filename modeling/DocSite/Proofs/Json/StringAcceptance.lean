import DocSite.Proofs.Json.Grammar

/-!
# Which strings the readers of JSON accept

A reader comes to a result on just those texts that begin with what it reads, and it stops behind
that; where in a text it is plays no part in this. A string that is kept must stand for a text, a
string that is passed over need not.
-/

namespace DocSite.Json

/-! ## Outcomes -/

variable {α : Type} {cursor : Cursor} {rest : Text}

/-- A reader without a result has stopped in front of a text. -/
def Passes (outcome : Except Failure Cursor) (rest : Text) : Prop :=
  ∃ after, outcome = .ok after ∧ after.rest = rest

/-- A reader has come to a result and has stopped in front of a text. -/
def Gives (outcome : Except Failure (α × Cursor)) (value : α) (rest : Text) : Prop :=
  ∃ after, outcome = .ok (value, after) ∧ after.rest = rest

@[simp] theorem passes_ok_iff : Passes (.ok cursor) rest ↔ cursor.rest = rest :=
  ⟨fun ⟨_, same, ends⟩ => Except.ok.inj same ▸ ends, fun ends => ⟨cursor, rfl, ends⟩⟩

@[simp] theorem gives_ok_iff {found value : α} :
    Gives (.ok (found, cursor)) value rest ↔ value = found ∧ cursor.rest = rest := by
  constructor
  · rintro ⟨after, same, ends⟩
    obtain ⟨rfl, rfl⟩ := Prod.mk.inj (Except.ok.inj same)
    exact ⟨rfl, ends⟩
  · rintro ⟨rfl, ends⟩
    exact ⟨cursor, rfl, ends⟩

@[simp] theorem not_passes_failHere (fault : Fault) : ¬Passes (cursor.failHere fault) rest :=
  nofun

@[simp] theorem not_passes_failNext (fault : Fault) : ¬Passes (cursor.failNext fault) rest :=
  nofun

@[simp] theorem not_passes_error (failure : Failure) : ¬Passes (.error failure) rest :=
  nofun

@[simp] theorem not_gives_failHere {value : α} (fault : Fault) :
    ¬Gives (cursor.failHere fault) value rest :=
  nofun

@[simp] theorem not_gives_failNext {value : α} (fault : Fault) :
    ¬Gives (cursor.failNext fault) value rest :=
  nofun

@[simp] theorem not_gives_error {value : α} (failure : Failure) :
    ¬Gives (.error failure) value rest :=
  nofun

theorem passes_bind_iff {outcome : Except Failure α} {next : α → Except Failure Cursor} :
    Passes (outcome >>= next) rest ↔ ∃ value, outcome = .ok value ∧ Passes (next value) rest :=
  Except.holds_bind_iff (Passes · rest) not_passes_error

theorem gives_bind_iff {β : Type} {outcome : Except Failure β}
    {next : β → Except Failure (α × Cursor)} {value : α} :
    Gives (outcome >>= next) value rest ↔
      ∃ found, outcome = .ok found ∧ Gives (next found) value rest :=
  Except.holds_bind_iff (Gives · value rest) not_gives_error

/-- What follows a reader is reached by way of a text that the reader stops in front of. -/
theorem passes_then_iff {outcome : Except Failure Cursor} {next : Cursor → Except Failure Cursor}
    (follows : Text → Prop)
    (each : ∀ after, Passes outcome after.rest → (Passes (next after) rest ↔ follows after.rest)) :
    Passes (outcome >>= next) rest ↔ ∃ between, Passes outcome between ∧ follows between := by
  rw [passes_bind_iff]
  constructor
  · rintro ⟨after, found, passes⟩
    have reached : Passes outcome after.rest := ⟨after, found, rfl⟩
    exact ⟨after.rest, reached, (each after reached).mp passes⟩
  · rintro ⟨_, ⟨after, found, rfl⟩, known⟩
    exact ⟨after, found, (each after ⟨after, found, rfl⟩).mpr known⟩

/-! ## Literals -/

theorem passes_scanLiteral_iff {expected : Text} :
    Passes (scanLiteral expected cursor) rest ↔ cursor.rest = expected ++ rest := by
  induction expected generalizing cursor with
  | nil => exact passes_ok_iff
  | cons letter more induction =>
      obtain ⟨place, text⟩ := cursor
      cases text with
      | nil => simp [scanLiteral]
      | cons c text =>
          by_cases same : c = letter
          · subst same
            simp [scanLiteral, induction, Cursor.next]
          · simp [scanLiteral, same]

/-! ## Escapes -/

/-- The next four characters are hexadecimal digits. -/
def FourDigits (text : Text) : Prop :=
  (text.take 4).length = 4 ∧ (text.take 4).all Text.isHexDigit

theorem fourHexDigits_eq_ok_iff {value : Nat} :
    fourHexDigits cursor = .ok value ↔
      FourDigits cursor.rest ∧ Text.hexadecimalValue (cursor.rest.take 4) = value := by
  unfold fourHexDigits
  dsimp only
  split
  · next found =>
      exact ⟨fun same => ⟨found, Except.ok.inj same⟩, fun same => congrArg Except.ok same.2⟩
  · next missing =>
      have fails : ¬(FourDigits cursor.rest ∧
          Text.hexadecimalValue (cursor.rest.take 4) = value) := fun found => missing found.1
      split <;> exact iff_of_false nofun fails

theorem beginsEscape_u_iff {text behind : Text} {mark : Mark} :
    BeginsEscape ('u' :: text) mark behind ↔ FourDigits text ∧
      mark = .unit (Text.hexadecimalValue (text.take 4)) ∧ behind = text.drop 4 := by
  constructor
  · intro escape
    cases escape with
    | letter known => simp [escapeLetters] at known
    | @unit digits _ four hex =>
        have digits_eq : (digits ++ behind).take 4 = digits := by rw [← four, List.take_left]
        have behind_eq : (digits ++ behind).drop 4 = behind := by rw [← four, List.drop_left]
        rw [FourDigits, digits_eq, behind_eq]
        exact ⟨⟨four, hex⟩, rfl, rfl⟩
  · rintro ⟨⟨four, hex⟩, rfl, rfl⟩
    have escape : BeginsEscape ('u' :: (text.take 4 ++ text.drop 4)) _ (text.drop 4) :=
      .unit four hex
    rwa [List.take_append_drop] at escape

theorem isEscapeLetter_iff {c : Char} :
    ['\x22', '\\', '/', 'b', 'f', 'n', 'r', 't'].contains c ↔
      ∃ meant, (c, meant) ∈ escapeLetters := by
  simp [escapeLetters, exists_or]

theorem beginsEscape_of_escapeLength {length : Nat} (found : escapeLength cursor = .ok length) :
    ∃ mark, BeginsEscape cursor.rest mark (cursor.rest.drop length) := by
  obtain ⟨place, text⟩ := cursor
  cases text with
  | nil => nomatch found
  | cons c text =>
      rw [escapeLength] at found
      dsimp only at found
      split at found
      · next isLetter =>
          obtain rfl := Except.ok.inj found
          obtain ⟨meant, known⟩ := isEscapeLetter_iff.mp isLetter
          exact ⟨.char meant, .letter known⟩
      · split at found
        · next isUnit =>
            obtain rfl := eq_of_beq isUnit
            obtain ⟨value, digits, same⟩ := Except.bind_eq_ok_iff.mp found
            obtain rfl := Except.ok.inj same
            exact ⟨_, beginsEscape_u_iff.mpr ⟨(fourHexDigits_eq_ok_iff.mp digits).1, rfl, rfl⟩⟩
        · nomatch found

theorem escapeLength_of_beginsEscape {mark : Mark} {behind : Text}
    (escape : BeginsEscape cursor.rest mark behind) :
    ∃ length, escapeLength cursor = .ok length ∧ behind = cursor.rest.drop length := by
  obtain ⟨place, text⟩ := cursor
  dsimp only at escape
  cases escape with
  | @letter letter meant _ known =>
      refine ⟨1, ?_, rfl⟩
      rw [escapeLength]
      dsimp only
      rw [if_pos (isEscapeLetter_iff.mpr ⟨meant, known⟩)]
  | @unit digits _ four hex =>
      obtain ⟨found, -, behind_eq⟩ := beginsEscape_u_iff.mp (.unit four hex)
      refine ⟨5, ?_, behind_eq⟩
      have digits := fourHexDigits_eq_ok_iff.mpr
        (show FourDigits (Cursor.mk place ('u' :: (digits ++ behind))).next.rest ∧ _ from
          ⟨found, rfl⟩)
      change (fourHexDigits _ >>= fun _ => Except.ok 5) = _
      rw [digits]
      rfl

/-! ## Strings of which nothing is kept -/

theorem beginsString_quote_iff {text : Text} {marks : List Mark} :
    BeginsString ('\x22' :: text) marks rest ↔ text = rest ∧ marks = [] := by
  constructor
  · intro isString
    cases isString with
    | close => exact ⟨rfl, rfl⟩
    | plain noQuote => exact (noQuote rfl).elim
  · rintro ⟨rfl, rfl⟩
    exact .close

theorem beginsString_backslash_iff {text : Text} {marks : List Mark} :
    BeginsString ('\\' :: text) marks rest ↔ ∃ mark behind more,
      BeginsEscape text mark behind ∧ BeginsString behind more rest ∧ marks = mark :: more := by
  constructor
  · intro isString
    cases isString with
    | plain _ noEscape => exact (noEscape rfl).elim
    | escape first more => exact ⟨_, _, _, first, more, rfl⟩
  · rintro ⟨mark, behind, more, first, isString, rfl⟩
    exact .escape first isString

theorem beginsString_plain_iff {c : Char} {text : Text} {marks : List Mark}
    (noQuote : c ≠ '\x22') (noEscape : c ≠ '\\') :
    BeginsString (c :: text) marks rest ↔
      ' ' ≤ c ∧ ∃ more, BeginsString text more rest ∧ marks = .char c :: more := by
  constructor
  · intro isString
    cases isString with
    | close => exact (noQuote rfl).elim
    | plain _ _ visible more => exact ⟨visible, _, more, rfl⟩
    | escape => exact (noEscape rfl).elim
  · rintro ⟨visible, more, isString, rfl⟩
    exact .plain noQuote noEscape visible isString

theorem passes_skipStringFrom_iff {skip : Nat} {place : Place} {text : Text} :
    Passes (skipStringFrom skip place text) rest ↔
      ∃ marks, BeginsString (text.drop skip) marks rest := by
  induction text generalizing skip place with
  | nil =>
      rw [List.drop_nil]
      exact iff_of_false (by cases skip <;> nofun) nofun
  | cons c text induction =>
      cases skip with
      | succ skip => exact induction
      | zero =>
          rw [skipStringFrom, List.drop_zero]
          split
          · next isQuote =>
              obtain rfl := eq_of_beq isQuote
              simp [beginsString_quote_iff]
          · next noQuote =>
              split
              · next isEscape =>
                  obtain rfl := eq_of_beq isEscape
                  simp only [beginsString_backslash_iff, passes_bind_iff, induction]
                  constructor
                  · rintro ⟨length, found, marks, isString⟩
                    obtain ⟨mark, escape⟩ := beginsEscape_of_escapeLength found
                    exact ⟨_, mark, _, marks, escape, isString, rfl⟩
                  · rintro ⟨_, mark, behind, marks, escape, isString, -⟩
                    obtain ⟨length, found, rfl⟩ := escapeLength_of_beginsEscape
                      (show BeginsEscape (Cursor.mk (place.pass '\\') text).rest mark behind
                        from escape)
                    exact ⟨length, found, marks, isString⟩
              · next noEscape =>
                  have other : c ≠ '\x22' ∧ c ≠ '\\' :=
                    ⟨by simpa using noQuote, by simpa using noEscape⟩
                  simp only [beginsString_plain_iff other.1 other.2]
                  split
                  · next control => simp [Char.not_le.mpr control]
                  · next visible =>
                      simp only [induction, List.drop_zero]
                      simp [Char.not_lt.mp visible]

theorem passes_skipString_iff :
    Passes (skipString cursor) rest ↔ ∃ marks, BeginsString cursor.rest marks rest :=
  passes_skipStringFrom_iff

/-! ## Strings that are kept -/

/-- What follows a backslash stands for a character, perhaps with the escape that comes next. -/
inductive Means : Text → List Mark → Char → Text → Prop
  | letter {letter meant : Char} {rest : Text} (known : (letter, meant) ∈ escapeLetters) :
      Means (letter :: rest) [.char meant] meant rest
  | unit {text rest : Text} {unit : Nat} (escape : BeginsEscape text (.unit unit) rest)
      (noLow : ¬IsLow unit) (noHigh : ¬IsHigh unit) :
      Means text [.unit unit] (Char.ofNat unit) rest
  | pair {text between rest : Text} {high low : Nat}
      (first : BeginsEscape text (.unit high) ('\\' :: between))
      (second : BeginsEscape between (.unit low) rest) (isHigh : IsHigh high)
      (isLow : IsLow low) : Means text [.unit high, .unit low] (pairChar high low) rest

theorem not_isLow_of_isHigh {unit : Nat} (isHigh : IsHigh unit) : ¬IsLow unit := by
  unfold IsHigh at isHigh
  unfold IsLow
  omega

theorem Means.textOf?_append {text behind : Text} {first more : List Mark} {meant : Char}
    (means : Means text first meant behind) :
    textOf? (first ++ more) = (textOf? more).map (meant :: ·) := by
  cases means with
  | letter known => rfl
  | unit escape noLow noHigh =>
      rw [List.singleton_append, textOf?.eq_def]
      dsimp only
      rw [if_neg noLow, if_neg noHigh]
  | pair _ _ isHigh isLow =>
      rw [List.cons_append, List.singleton_append, textOf?, if_neg (not_isLow_of_isHigh isHigh),
        if_pos isHigh]
      exact if_pos isLow

theorem Means.beginsString {text behind : Text} {first more : List Mark} {meant : Char}
    (means : Means text first meant behind) (isString : BeginsString behind more rest) :
    BeginsString ('\\' :: text) (first ++ more) rest := by
  cases means with
  | letter known => exact .escape (.letter known) isString
  | unit escape => exact .escape escape isString
  | pair first second => exact .escape first (.escape second isString)

/-- A string whose marks stand for a text begins with an escape that stands for a character. -/
theorem exists_means_of_textOf? {text behind value : Text} {mark : Mark} {marks : List Mark}
    (escape : BeginsEscape text mark behind) (isString : BeginsString behind marks rest)
    (known : textOf? (mark :: marks) = some value) :
    ∃ first meant after more follows, Means text first meant after ∧
      BeginsString after more rest ∧ textOf? more = some follows ∧ value = meant :: follows := by
  cases mark with
  | char c =>
      obtain ⟨follows, found, rfl⟩ := Option.map_eq_some_iff.mp known
      cases escape with
      | letter isLetter => exact ⟨_, _, _, _, _, .letter isLetter, isString, found, rfl⟩
  | unit unit =>
      rw [textOf?.eq_def] at known
      dsimp only at known
      split at known
      · nomatch known
      · next noLow =>
          split at known
          · next isHigh =>
              split at known
              · split at known
                · next isLow =>
                    obtain ⟨follows, found, rfl⟩ := Option.map_eq_some_iff.mp known
                    cases isString with
                    | escape second more =>
                        exact ⟨_, _, _, _, _, .pair escape second isHigh isLow, more, found, rfl⟩
                · nomatch known
              · nomatch known
          · next noHigh =>
              obtain ⟨follows, found, rfl⟩ := Option.map_eq_some_iff.mp known
              exact ⟨_, _, _, _, _, .unit escape noLow noHigh, isString, found, rfl⟩

theorem rest_next {cursor : Cursor} : cursor.next.rest = cursor.rest.tail := by
  obtain ⟨place, text⟩ := cursor
  cases text <;> rfl

theorem rest_skipMany {count : Nat} : (skipMany count cursor).rest = cursor.rest.drop count := by
  induction count generalizing cursor with
  | zero => rfl
  | succ count induction => rw [skipMany, induction, rest_next, List.drop_tail]

theorem BeginsEscape.exists_eq_u {text behind : Text} {unit : Nat}
    (escape : BeginsEscape text (.unit unit) behind) : ∃ more, text = 'u' :: more := by
  cases escape with
  | unit => exact ⟨_, rfl⟩

theorem secondHalf_of_u {more : Text} (opened : cursor.rest = '\\' :: 'u' :: more) (half : Nat) :
    secondHalf cursor = .ok half ↔
      IsLow half ∧ FourDigits more ∧ Text.hexadecimalValue (more.take 4) = half := by
  obtain ⟨place, text⟩ := cursor
  obtain rfl : text = '\\' :: 'u' :: more := opened
  change (fourHexDigits (Cursor.mk place ('\\' :: 'u' :: more)).next.next >>= fun unit =>
    if IsLow unit then Except.ok unit else _) = _ ↔ _
  rw [Except.bind_eq_ok_iff]
  constructor
  · rintro ⟨unit, digits, found⟩
    split at found
    · next isLow =>
        obtain rfl := Except.ok.inj found
        exact ⟨isLow, fourHexDigits_eq_ok_iff.mp digits⟩
    · nomatch found
  · rintro ⟨isLow, digits⟩
    exact ⟨half, fourHexDigits_eq_ok_iff.mpr digits, if_pos isLow⟩

theorem secondHalf_eq_ok_iff {half : Nat} :
    secondHalf cursor = .ok half ↔ IsLow half ∧
      ∃ between, cursor.rest = '\\' :: between ∧
        BeginsEscape between (.unit half) (cursor.rest.drop 6) := by
  constructor
  · intro found
    have opened : ∃ more, cursor.rest = '\\' :: 'u' :: more := by
      unfold secondHalf at found
      split at found
      · nomatch found
      · next rest same =>
          split at found
          · nomatch found
          · exact ⟨_, same⟩
          · nomatch found
      · nomatch found
    obtain ⟨more, opened⟩ := opened
    obtain ⟨isLow, four, rfl⟩ := (secondHalf_of_u opened half).mp found
    exact ⟨isLow, _, opened, beginsEscape_u_iff.mpr ⟨four, rfl, by rw [opened]; rfl⟩⟩
  · rintro ⟨isLow, between, opened, escape⟩
    obtain ⟨more, rfl⟩ := escape.exists_eq_u
    obtain ⟨four, same, -⟩ := beginsEscape_u_iff.mp escape
    exact (secondHalf_of_u opened half).mpr ⟨isLow, four, (Mark.unit.inj same).symm⟩

theorem means_of_unescape {meant : Char} {length : Nat}
    (found : unescape cursor = .ok (meant, length)) :
    ∃ marks, Means cursor.rest marks meant (cursor.rest.drop length) := by
  obtain ⟨place, text⟩ := cursor
  unfold unescape at found
  dsimp only at found ⊢
  split at found
  case h_1 => nomatch found
  case h_10 =>
    obtain ⟨unit, digits, found⟩ := Except.bind_eq_ok_iff.mp found
    obtain ⟨four, rfl⟩ := fourHexDigits_eq_ok_iff.mp digits
    have escape := beginsEscape_u_iff.mpr ⟨four, rfl, rfl⟩
    split at found
    · nomatch found
    · next noLow =>
        split at found
        · next isHigh =>
            obtain ⟨half, second, found⟩ := Except.bind_eq_ok_iff.mp found
            obtain ⟨isLow, between, opened, other⟩ := secondHalf_eq_ok_iff.mp second
            obtain ⟨rfl, rfl⟩ := Prod.mk.inj (Except.ok.inj found)
            rw [rest_skipMany] at opened other
            rw [rest_next, List.tail_cons, ← List.drop_succ_cons, opened] at escape
            rw [List.drop_drop] at other
            exact ⟨_, .pair escape other isHigh isLow⟩
        · next noHigh =>
            obtain ⟨rfl, rfl⟩ := Prod.mk.inj (Except.ok.inj found)
            exact ⟨_, .unit escape noLow noHigh⟩
  case h_11 => nomatch found
  all_goals
    obtain ⟨rfl, rfl⟩ := Prod.mk.inj (Except.ok.inj found)
    exact ⟨_, .letter (by simp [escapeLetters])⟩

theorem unescape_of_u {more : Text} (opened : cursor.rest = 'u' :: more) (four : FourDigits more)
    {unit : Nat} (same : unit = Text.hexadecimalValue (more.take 4)) :
    unescape cursor =
      if IsLow unit then (skipMany 5 cursor).failHere .loneSurrogate
      else if IsHigh unit then do
        let half ← secondHalf (skipMany 5 cursor)
        .ok (pairChar unit half, 11)
      else .ok (Char.ofNat unit, 5) := by
  obtain ⟨place, text⟩ := cursor
  obtain rfl : text = 'u' :: more := opened
  have digits := fourHexDigits_eq_ok_iff.mpr
    (show FourDigits (Cursor.mk place ('u' :: more)).next.rest ∧ _ from ⟨four, same.symm⟩)
  change (fourHexDigits _ >>= _) = _
  rw [digits]
  rfl

theorem unescape_of_means {marks : List Mark} {meant : Char} {behind : Text}
    (means : Means cursor.rest marks meant behind) :
    ∃ length, unescape cursor = .ok (meant, length) ∧ behind = cursor.rest.drop length := by
  obtain ⟨place, text⟩ := cursor
  dsimp only at means ⊢
  cases means with
  | letter known =>
      refine ⟨1, ?_, rfl⟩
      simp only [escapeLetters, List.mem_cons, Prod.mk.injEq, List.not_mem_nil, or_false] at known
      rcases known with ⟨rfl, rfl⟩ | ⟨rfl, rfl⟩ | ⟨rfl, rfl⟩ | ⟨rfl, rfl⟩ | ⟨rfl, rfl⟩ |
        ⟨rfl, rfl⟩ | ⟨rfl, rfl⟩ | ⟨rfl, rfl⟩ <;> rfl
  | unit escape noLow noHigh =>
      obtain ⟨more, rfl⟩ := escape.exists_eq_u
      obtain ⟨four, same, rfl⟩ := beginsEscape_u_iff.mp escape
      refine ⟨5, ?_, rfl⟩
      rw [unescape_of_u rfl four (Mark.unit.inj same), if_neg noLow, if_neg noHigh]
  | @pair _ between _ high low first second isHigh isLow =>
      obtain ⟨more, rfl⟩ := first.exists_eq_u
      obtain ⟨four, same, opened⟩ := beginsEscape_u_iff.mp first
      obtain ⟨digits, rfl⟩ := second.exists_eq_u
      obtain ⟨others, unit, rfl⟩ := beginsEscape_u_iff.mp second
      have behind_eq : digits.drop 4 = ('u' :: more).drop 11 := by
        rw [List.drop_succ_cons, ← List.drop_drop (i := 6) (j := 4), ← opened]
        rfl
      refine ⟨11, ?_, behind_eq⟩
      have half : secondHalf (skipMany 5 ⟨place, 'u' :: more⟩) = .ok low :=
        (secondHalf_of_u (rest_skipMany.trans opened.symm) low).mpr
          ⟨isLow, others, (Mark.unit.inj unit).symm⟩
      rw [unescape_of_u rfl four (Mark.unit.inj same), if_neg (not_isLow_of_isHigh isHigh),
        if_pos isHigh, half]
      rfl

theorem gives_cons_iff {outcome : Except Failure (Text × Cursor)} {c : Char} {value : Text} :
    Gives (do let (text, after) ← outcome; .ok (c :: text, after)) value rest ↔
      ∃ text, Gives outcome text rest ∧ value = c :: text := by
  cases outcome with
  | ok found =>
      obtain ⟨text, after⟩ := found
      simp [and_comm]
  | error failure => exact iff_of_false nofun nofun

theorem gives_scanStringFrom_iff {skip : Nat} {place : Place} {text value : Text} :
    Gives (scanStringFrom skip place text) value rest ↔
      ∃ marks, BeginsString (text.drop skip) marks rest ∧ textOf? marks = some value := by
  induction text generalizing skip place value with
  | nil =>
      rw [List.drop_nil]
      exact iff_of_false (by cases skip <;> nofun) nofun
  | cons c text induction =>
      cases skip with
      | succ skip => exact induction
      | zero =>
          rw [scanStringFrom, List.drop_zero]
          split
          · next isQuote =>
              obtain rfl := eq_of_beq isQuote
              simp [beginsString_quote_iff, textOf?, eq_comm, and_comm]
          · next noQuote =>
              split
              · next isEscape =>
                  obtain rfl := eq_of_beq isEscape
                  rw [gives_bind_iff, Prod.exists]
                  constructor
                  · rintro ⟨meant, length, found, whole⟩
                    obtain ⟨follows, gives, rfl⟩ := gives_cons_iff.mp whole
                    obtain ⟨marks, isString, known⟩ := induction.mp gives
                    obtain ⟨first, means⟩ := means_of_unescape found
                    exact ⟨_, means.beginsString isString,
                      means.textOf?_append.trans (congrArg (Option.map _) known)⟩
                  · rintro ⟨marks, isString, whole⟩
                    obtain ⟨mark, behind, others, escape, isOthers, rfl⟩ :=
                      beginsString_backslash_iff.mp isString
                    obtain ⟨first, meant, after, more, follows, means, isMore, known, rfl⟩ :=
                      exists_means_of_textOf? escape isOthers whole
                    obtain ⟨length, found, rfl⟩ := unescape_of_means
                      (show Means (Cursor.mk (place.pass '\\') text).rest first meant after
                        from means)
                    exact ⟨meant, length, found, gives_cons_iff.mpr
                      ⟨follows, induction.mpr ⟨more, isMore, known⟩, rfl⟩⟩
              · next noEscape =>
                  have other : c ≠ '\x22' ∧ c ≠ '\\' :=
                    ⟨by simpa using noQuote, by simpa using noEscape⟩
                  simp only [beginsString_plain_iff other.1 other.2]
                  split
                  · next control => simp [Char.not_le.mpr control]
                  · next visible =>
                      rw [gives_cons_iff]
                      simp only [induction, List.drop_zero, Char.not_lt.mp visible, true_and]
                      constructor
                      · rintro ⟨follows, ⟨marks, isString, known⟩, rfl⟩
                        exact ⟨_, ⟨marks, isString, rfl⟩, congrArg (Option.map _) known⟩
                      · rintro ⟨_, ⟨marks, isString, rfl⟩, whole⟩
                        obtain ⟨follows, known, rfl⟩ := Option.map_eq_some_iff.mp whole
                        exact ⟨follows, ⟨marks, isString, known⟩, rfl⟩

theorem gives_scanString_iff {value : Text} :
    Gives (scanString cursor) value rest ↔
      ∃ marks, BeginsString cursor.rest marks rest ∧ textOf? marks = some value :=
  gives_scanStringFrom_iff

end DocSite.Json
