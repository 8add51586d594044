import DocSite.Proofs.Json.ValueAcceptance

/-!
# Which parts of JSON the readers accept

The readers of texts, of values that may be null, and of what stands between the parts of objects
and lists. What a reader takes is told by the values that it comes to a result on.
-/

namespace DocSite.Json

variable {α : Type} {cursor : Cursor} {rest : Text}

/-! ## Between the parts -/

/-- Finds the name of a member behind a comma. -/
def memberBehindComma (cursor : Cursor) : Except Failure (Bool × Cursor) :=
  let cursor := cursor.skipBlank
  match cursor.rest with
  | [] => cursor.failHere .endInValue
  | '\x22' :: _ => .ok (true, cursor.next)
  | '\x7d' :: _ => cursor.failNext .trailingComma
  | _ => cursor.failNext .keyNotString

theorem gives_memberBehindComma_iff {isMember : Bool} :
    Gives (memberBehindComma cursor) isMember rest ↔
      isMember ∧ unblank cursor.rest = '\x22' :: rest := by
  rw [← rest_skipBlank, memberBehindComma]
  split
  · next ends => simp [ends]
  · next opened => simp [opened, rest_next]
  · next closed => simp [closed]
  · next noName _ => exact iff_of_false (not_gives_failNext _) fun found => noName _ found.2

/-- A member is found where one may begin, and none where the object is closed. -/
theorem gives_nextMember_iff {isFirst isMember : Bool} :
    Gives (nextMember isFirst cursor) isMember rest ↔
      if isMember then Separated isFirst cursor.rest ('\x22' :: rest)
      else unblank cursor.rest = '\x7d' :: rest := by
  rw [Separated, ← rest_skipBlank, nextMember]
  dsimp only
  split
  · next ends => simp [ends]
  · next c text opened =>
      have behind : cursor.skipBlank.next.rest = text := by rw [rest_next, opened, List.tail_cons]
      rw [opened]
      by_cases isBrace : c = '\x7d'
      · cases isMember <;> simp [isBrace, behind]
      · cases isFirst with
        | true =>
            by_cases isQuote : c = '\x22' <;> cases isMember <;> simp [isBrace, isQuote, behind]
        | false =>
            by_cases isComma : c = ','
            · have comma : Gives (memberBehindComma cursor.skipBlank.next) isMember rest ↔ _ :=
                gives_memberBehindComma_iff
              rw [behind] at comma
              simp only [isComma]
              exact comma.trans (by cases isMember <;> simp)
            · cases isMember <;> simp [isBrace, isComma]

/-- Finds an item behind a comma. -/
def itemBehindComma (cursor : Cursor) : Except Failure (Bool × Cursor) :=
  let cursor := cursor.skipBlank
  match cursor.rest with
  | [] => cursor.failHere .endInValue
  | ']' :: _ => cursor.failNext .trailingComma
  | _ => .ok (true, cursor)

theorem gives_itemBehindComma_iff {isItem : Bool} {c : Char} {text : Text} :
    Gives (itemBehindComma cursor) isItem (c :: text) ↔
      isItem ∧ unblank cursor.rest = c :: text ∧ c ≠ ']' := by
  rw [← rest_skipBlank, itemBehindComma]
  split
  · next ends => simp [ends]
  · next closed =>
      refine iff_of_false (not_gives_failNext _) ?_
      rintro ⟨-, opened, noBracket⟩
      exact noBracket (List.cons.inj (opened.symm.trans closed)).1
  · next noBracket =>
      simp only [gives_ok_iff, and_congr_right_iff, iff_self_and]
      rintro - opened rfl
      exact noBracket _ opened

/-- An item is found where one may begin, and none where the list is closed. -/
theorem gives_nextItem_iff {isFirst isItem : Bool} {c : Char} {text : Text} :
    Gives (nextItem isFirst cursor) isItem (c :: text) ↔
      if isItem then Separated isFirst cursor.rest (c :: text) ∧ c ≠ ']'
      else unblank cursor.rest = c :: text ∧ c = ']' := by
  rw [Separated, ← rest_skipBlank, nextItem]
  dsimp only
  split
  · next ends => simp [ends]
  · next first more opened =>
      have behind : cursor.skipBlank.next.rest = more := by rw [rest_next, opened, List.tail_cons]
      rw [opened]
      by_cases isBracket : first = ']'
      · subst isBracket
        cases isItem <;> simp [opened] <;> grind
      · cases isFirst with
        | true => cases isItem <;> simp [isBracket, opened] <;> grind
        | false =>
            by_cases isComma : first = ','
            · have comma : Gives (itemBehindComma cursor.skipBlank.next) isItem (c :: text) ↔ _ :=
                gives_itemBehindComma_iff
              rw [behind] at comma
              simp only [isComma]
              exact comma.trans (by cases isItem <;> grind)
            · cases isItem <;> simp [isBracket, isComma]
              grind

theorem passes_endList_iff :
    Passes (endList cursor) rest ↔ unblank cursor.rest = ']' :: rest := by
  rw [← rest_skipBlank, endList]
  split
  · next ends => simp [ends]
  · next closed => simp [closed, rest_next]
  · next comma =>
      rw [comma]
      refine iff_of_false ?_ nofun
      dsimp only
      split <;> exact not_passes_failNext _
  · next noEnd noComma => exact iff_of_false (not_passes_failNext _) (noEnd rest)

theorem endText_eq_ok_iff : endText cursor = .ok () ↔ unblank cursor.rest = [] := by
  rw [← rest_skipBlank, endText]
  split
  · next ends => simp [ends]
  · next more => exact iff_of_false nofun more

theorem not_gives_nextItem_nil {isFirst isItem : Bool} :
    ¬Gives (nextItem isFirst cursor) isItem [] := by
  unfold nextItem
  dsimp only
  split
  · nofun
  · next c text opened =>
      split_ifs
      · simp [opened]
      · simp [opened]
      · split
        · nofun
        · nofun
        · next noEnd _ => exact fun gives => noEnd (gives_ok_iff.mp gives).2
      · nofun

theorem Separated.unblank_eq {isFirst : Bool} {text item : Text}
    (separated : Separated isFirst text item) : unblank item = item := by
  unfold Separated at separated
  split at separated
  · rw [← separated, unblank_unblank]
  · obtain ⟨more, -, rfl⟩ := separated
    exact unblank_unblank more

/-! ## Values of a kind -/

theorem begins_null_iff {text : Text} : Begins text .null rest ↔ text = "null".toList ++ rest := by
  constructor
  · intro begins
    cases begins
    rfl
  · rintro rfl
    exact .null

theorem eq_null_of_begins {text : Text} {tree : Tree} (begins : Begins ('n' :: text) tree rest) :
    tree = .null := by
  have known := begins_cons_iff.mp begins
  simp only [Text.isAsciiDigit] at known
  simp_all

theorem begins_string_iff {text : Text} {marks : List Mark} :
    Begins text (.string marks) rest ↔
      ∃ more, text = '\x22' :: more ∧ BeginsString more marks rest := by
  constructor
  · intro begins
    cases begins with
    | string isString => exact ⟨_, rfl, isString⟩
  · rintro ⟨more, rfl, isString⟩
    exact .string isString

theorem begins_list_iff {text : Text} {items : List Tree} :
    Begins text (.list items) rest ↔
      ∃ more, text = '[' :: more ∧ BeginsItems true more items rest := by
  constructor
  · intro begins
    cases begins with
    | list areItems => exact ⟨_, rfl, areItems⟩
  · rintro ⟨more, rfl, areItems⟩
    exact .list areItems

theorem begins_object_iff {text : Text} {members : List (List Mark × Tree)} :
    Begins text (.object members) rest ↔
      ∃ more, text = '\x7b' :: more ∧ BeginsMembers true more members rest := by
  constructor
  · intro begins
    cases begins with
    | object areMembers => exact ⟨_, rfl, areMembers⟩
  · rintro ⟨more, rfl, areMembers⟩
    exact .object areMembers

theorem exists_begins_list_iff {isForm : Tree → Prop} {text : Text} :
    (∃ tree, Begins ('[' :: text) tree rest ∧ isForm tree) ↔
      ∃ items, BeginsItems true text items rest ∧ isForm (.list items) := by
  simp [begins_cons_iff, Text.isAsciiDigit]

theorem exists_begins_object_iff {isForm : Tree → Prop} {text : Text} :
    (∃ tree, Begins ('\x7b' :: text) tree rest ∧ isForm tree) ↔
      ∃ members, BeginsMembers true text members rest ∧ isForm (.object members) := by
  simp [begins_cons_iff, Text.isAsciiDigit]

/-! ## Texts -/

/-- Within a limit of length, a reader takes just the values of a certain form. -/
def Takes (read : Cursor → Except Failure (α × Cursor)) (isForm : Tree → Prop) (limit : Nat) :
    Prop :=
  ∀ {cursor : Cursor} {rest : Text}, cursor.rest.length < limit →
    ((∃ value, Gives (read cursor) value rest) ↔
      ∃ tree, Begins (unblank cursor.rest) tree rest ∧ isForm tree)

/-- A string that stands for a text. -/
def Tree.IsText : Tree → Prop
  | .string marks => (textOf? marks).isSome
  | _ => False

theorem takes_readText (limit : Nat) : Takes readText Tree.IsText limit := by
  intro cursor rest _
  rw [← rest_skipBlank]
  unfold readText
  dsimp only
  split
  · next ends => simp [ends, not_begins_nil]
  · next text opened =>
      simp only [gives_scanString_iff, rest_next, opened, List.tail_cons]
      constructor
      · rintro ⟨value, marks, isString, known⟩
        exact ⟨.string marks, .string isString, Option.isSome_of_eq_some known⟩
      · rintro ⟨tree, begins, isText⟩
        cases tree with
        | string marks =>
            obtain ⟨more, same, isString⟩ := begins_string_iff.mp begins
            obtain ⟨value, known⟩ := Option.isSome_iff_exists.mp isText
            exact ⟨value, marks, (List.cons.inj same).2 ▸ isString, known⟩
        | _ => exact isText.elim
  · next noEnd noQuote =>
      refine iff_of_false ?_ ?_
      · rintro ⟨value, after, found, -⟩
        exact wrongKind_ne_ok found
      · rintro ⟨tree, begins, isText⟩
        cases tree with
        | string marks =>
            obtain ⟨more, opened, -⟩ := begins_string_iff.mp begins
            exact noQuote more opened
        | _ => exact isText.elim

theorem Takes.readOptional {read : Cursor → Except Failure (α × Cursor)} {isForm : Tree → Prop}
    {limit : Nat} (takes : Takes read isForm limit) :
    Takes (readOptional read) (fun tree => tree = .null ∨ isForm tree) limit := by
  intro cursor rest short
  have shorter : cursor.skipBlank.rest.length ≤ cursor.rest.length := length_unblank_le cursor.rest
  have own : _ ↔ ∃ tree, Begins _ tree rest ∧ isForm tree := takes (shorter.trans_lt short)
  rw [rest_skipBlank, unblank_unblank, ← rest_skipBlank] at own
  rw [← rest_skipBlank]
  unfold Json.readOptional
  dsimp only
  split
  · next text opened =>
      have literal : Passes (scanLiteral "ull".toList cursor.skipBlank.next) rest ↔
          text = "ull".toList ++ rest := by
        rw [passes_scanLiteral_iff, rest_next, opened, List.tail_cons]
      constructor
      · rintro ⟨value, after, found, ends⟩
        obtain ⟨behind, scanned, same⟩ := Except.bind_eq_ok_iff.mp found
        cases same
        refine ⟨.null, ?_, .inl rfl⟩
        rw [begins_null_iff, opened, literal.mp ⟨after, scanned, ends⟩]
        rfl
      · rintro ⟨tree, begins, -⟩
        rw [opened] at begins
        obtain rfl := eq_null_of_begins begins
        obtain ⟨behind, scanned, ends⟩ := literal.mpr (List.cons.inj (begins_null_iff.mp begins)).2
        exact ⟨none, behind, by rw [scanned]; rfl, ends⟩
  · next noNull =>
      constructor
      · rintro ⟨value, after, found, ends⟩
        obtain ⟨⟨kept, behind⟩, read, same⟩ := Except.bind_eq_ok_iff.mp found
        cases same
        obtain ⟨tree, begins, known⟩ := own.mp ⟨kept, behind, read, ends⟩
        exact ⟨tree, begins, .inr known⟩
      · rintro ⟨tree, begins, isNull | known⟩
        · subst isNull
          exact (noNull _ (begins_null_iff.mp begins)).elim
        · obtain ⟨value, after, read, ends⟩ := own.mpr ⟨tree, begins, known⟩
          exact ⟨some value, after, by rw [read]; rfl, ends⟩

end DocSite.Json
