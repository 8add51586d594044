import DocSite.Proofs.Json.Strings

/-!
# JSON is read in one way

No two values are written alike: the first character of a written value tells its kind, and whatever
follows the value, it is known where it ends.
-/

namespace DocSite.Json

/-! ## Kinds -/

/-- The kinds of values. -/
inductive Kind
  | null
  | string
  | number
  | list
  | object
  deriving DecidableEq

/-- The kind of a value. -/
def kind : Json → Kind
  | null => .null
  | string _ => .string
  | number _ => .number
  | list _ => .list
  | object _ => .object

/-- The kind of the values that begin with a character. -/
def kindOf? (c : Char) : Option Kind :=
  if Text.isAsciiDigit c then some .number
  else if c == 'n' then some .null
  else if c == '\x22' then some .string
  else if c == '[' then some .list
  else if c == '\x7b' then some .object
  else none

theorem kind_compact (value : Json) (rest : Text) :
    (value.compact ++ rest).head?.bind kindOf? = some value.kind := by
  cases value with
  | null => rfl
  | string text => rfl
  | number n =>
      obtain ⟨digit, digits, written⟩ := List.exists_cons_of_ne_nil (Text.ofNat_ne_nil n)
      have isDigit : Text.isAsciiDigit digit :=
        Text.isAsciiDigit_of_mem_ofNat (by rw [written]; exact List.mem_cons_self)
      simp [compact, written, kindOf?, isDigit, kind]
  | list items => rfl
  | object members => rfl

theorem compact_append_ne {c : Char} (none : kindOf? c = none) (value : Json) (rest more : Text) :
    value.compact ++ rest ≠ c :: more := by
  intro same
  have kind := kind_compact value rest
  rw [same] at kind
  simp [none] at kind

/-! ## Numbers -/

/-- A number ends before this text. -/
def Stops (rest : Text) : Prop :=
  ∀ c, rest.head? = some c → Text.isAsciiDigit c = false

theorem takeWhile_ofNat_append {rest : Text} (stops : Stops rest) (n : Nat) :
    (Text.ofNat n ++ rest).takeWhile Text.isAsciiDigit = Text.ofNat n :=
  Text.takeWhile_run (fun _ member => Text.isAsciiDigit_of_mem_ofNat member) stops

theorem ofNat_append_inj {n m : Nat} {left right : Text} (leftStops : Stops left)
    (rightStops : Stops right) (same : Text.ofNat n ++ left = Text.ofNat m ++ right) :
    n = m ∧ left = right := by
  have digits : Text.ofNat n = Text.ofNat m := by
    rw [← takeWhile_ofNat_append leftStops n, same, takeWhile_ofNat_append rightStops m]
  rw [digits] at same
  have values := congrArg Text.decimalValue digits
  rw [Text.decimalValue_ofNat, Text.decimalValue_ofNat] at values
  exact ⟨values, List.append_cancel_left same⟩

/-! ## Lists and objects -/

/-- What follows an item of a list. -/
def behindItem (items : List Json) (rest : Text) : Text :=
  match items with
  | [] => ']' :: rest
  | _ :: _ => ',' :: (compactItems items ++ ']' :: rest)

/-- What follows a member of an object. -/
def behindMember (members : List (Text × Json)) (rest : Text) : Text :=
  match members with
  | [] => '\x7d' :: rest
  | _ :: _ => ',' :: (compactMembers members ++ '\x7d' :: rest)

theorem compactItems_cons (item : Json) (items : List Json) (rest : Text) :
    compactItems (item :: items) ++ ']' :: rest = item.compact ++ behindItem items rest := by
  cases items with
  | nil => rfl
  | cons next items => simp [compactItems, behindItem]

theorem compactMembers_cons (member : Text × Json) (members : List (Text × Json)) (rest : Text) :
    compactMembers (member :: members) ++ '\x7d' :: rest =
      quote member.1 ++ ':' :: (member.2.compact ++ behindMember members rest) := by
  cases members with
  | nil => simp [compactMembers, behindMember]
  | cons next members => simp [compactMembers, behindMember]

theorem stops_behindItem (items : List Json) (rest : Text) : Stops (behindItem items rest) := by
  cases items <;> rintro c ⟨⟩ <;> decide

theorem stops_behindMember (members : List (Text × Json)) (rest : Text) :
    Stops (behindMember members rest) := by
  cases members <;> rintro c ⟨⟩ <;> decide

theorem behindItem_eq {items others : List Json} {left right : Text}
    (same : compactItems items ++ ']' :: left = compactItems others ++ ']' :: right) :
    behindItem items left = behindItem others right := by
  cases items with
  | nil =>
      cases others with
      | nil => exact same
      | cons other others =>
          rw [compactItems_cons] at same
          exact (compact_append_ne (by decide) _ _ _ same.symm).elim
  | cons item items =>
      cases others with
      | nil =>
          rw [compactItems_cons] at same
          exact (compact_append_ne (by decide) _ _ _ same).elim
      | cons other others => exact congrArg (',' :: ·) same

theorem behindMember_eq {members others : List (Text × Json)} {left right : Text}
    (same : compactMembers members ++ '\x7d' :: left = compactMembers others ++ '\x7d' :: right) :
    behindMember members left = behindMember others right := by
  cases members with
  | nil =>
      cases others with
      | nil => exact same
      | cons other others =>
          rw [compactMembers_cons] at same
          simp [compactMembers, quote] at same
  | cons member members =>
      cases others with
      | nil =>
          rw [compactMembers_cons] at same
          simp [compactMembers, quote] at same
      | cons other others => exact congrArg (',' :: ·) same

/-! ## Values -/

-- The induction is over what is behind an item, since the rest of a list has no bracket before it.
mutual

theorem compact_append_inj (value other : Json) {left right : Text} (leftStops : Stops left)
    (rightStops : Stops right) (same : value.compact ++ left = other.compact ++ right) :
    value = other ∧ left = right := by
  have kinds : some value.kind = some other.kind := by
    rw [← kind_compact value left, same, kind_compact]
  cases value with
  | null =>
      cases other <;> simp [kind] at kinds
      exact ⟨rfl, List.append_cancel_left same⟩
  | string text =>
      cases other <;> simp [kind] at kinds
      obtain ⟨rfl, rest⟩ := quote_append_inj same
      exact ⟨rfl, rest⟩
  | number n =>
      cases other <;> simp [kind] at kinds
      obtain ⟨rfl, rest⟩ := ofNat_append_inj leftStops rightStops same
      exact ⟨rfl, rest⟩
  | list items =>
      cases other <;> simp [kind] at kinds
      simp only [compact, List.cons_append, List.append_assoc, List.nil_append, List.cons.injEq,
        true_and] at same
      obtain ⟨rfl, rest⟩ := behindItem_inj items _ (behindItem_eq same)
      exact ⟨rfl, rest⟩
  | object members =>
      cases other <;> simp [kind] at kinds
      simp only [compact, List.cons_append, List.append_assoc, List.nil_append, List.cons.injEq,
        true_and] at same
      obtain ⟨rfl, rest⟩ := behindMember_inj members _ (behindMember_eq same)
      exact ⟨rfl, rest⟩
termination_by structural value

theorem behindItem_inj (items others : List Json) {left right : Text}
    (same : behindItem items left = behindItem others right) :
    items = others ∧ left = right := by
  cases items with
  | nil =>
      cases others with
      | nil => exact ⟨rfl, List.tail_eq_of_cons_eq same⟩
      | cons other others => simp [behindItem] at same
  | cons item items =>
      cases others with
      | nil => simp [behindItem] at same
      | cons other others =>
          have written := List.tail_eq_of_cons_eq same
          rw [compactItems_cons, compactItems_cons] at written
          obtain ⟨rfl, behind⟩ := compact_append_inj item other (stops_behindItem _ _)
            (stops_behindItem _ _) written
          obtain ⟨rfl, rest⟩ := behindItem_inj items others behind
          exact ⟨rfl, rest⟩
termination_by structural items

theorem behindMember_inj (members others : List (Text × Json)) {left right : Text}
    (same : behindMember members left = behindMember others right) :
    members = others ∧ left = right := by
  cases members with
  | nil =>
      cases others with
      | nil => exact ⟨rfl, List.tail_eq_of_cons_eq same⟩
      | cons other others => simp [behindMember] at same
  | cons member members =>
      obtain ⟨name, value⟩ := member
      cases others with
      | nil => simp [behindMember] at same
      | cons other others =>
          obtain ⟨otherName, otherValue⟩ := other
          have written := List.tail_eq_of_cons_eq same
          rw [compactMembers_cons, compactMembers_cons] at written
          obtain ⟨rfl, written⟩ := quote_append_inj written
          obtain ⟨rfl, behind⟩ := compact_append_inj value otherValue (stops_behindMember _ _)
            (stops_behindMember _ _) (List.tail_eq_of_cons_eq written)
          obtain ⟨rfl, rest⟩ := behindMember_inj members others behind
          exact ⟨rfl, rest⟩
termination_by structural members

end

/-- A written value is that of one value only. -/
theorem compact_injective : Function.Injective compact := by
  intro value other same
  have nothing : Stops [] := by simp [Stops]
  have read := compact_append_inj value other nothing nothing (congrArg (· ++ []) same)
  exact read.1

end DocSite.Json
