import DocSite.Proofs.Html.Vocabulary

/-!
# Escaped texts read back

What is escaped in markup is read back as it was meant.
-/

namespace DocSite.Html

/-- The references that escaped characters are written as, and the characters. -/
def escapedChars : List (Text × Char) :=
  [("&amp;", '&'), ("&lt;", '<'), ("&gt;", '>'), ("&quot;", '\x22'), ("&#x27;", '\x27'),
    ("&#39;", '\x27')]

/-- Reads escaped text behind some characters that belong to a reference that has been read. -/
def decodeFrom : (skipped : Nat) → Text → Text
  | _, [] => []
  | skipped + 1, _ :: rest => decodeFrom skipped rest
  | 0, c :: rest =>
    match escapedChars.find? fun entry => entry.1.isPrefixOf (c :: rest) with
    | some (reference, meant) => meant :: decodeFrom (reference.length - 1) rest
    | none => c :: decodeFrom 0 rest

/-- Reads escaped text. -/
def decode (text : Text) : Text :=
  decodeFrom 0 text

theorem decode_cons_plain {c : Char} (plain : c ≠ '&') (rest : Text) :
    decode (c :: rest) = c :: decode rest := by
  have unknown : (escapedChars.find? fun entry => entry.1.isPrefixOf (c :: rest)) = none := by
    simp [escapedChars, List.isPrefixOf, Ne.symm plain]
  rw [decode, decodeFrom, unknown]
  rfl

theorem decode_escapeChar (c : Char) (rest : Text) :
    decode (escapeChar c ++ rest) = c :: decode rest := by
  by_cases unlike : c ∈ Vocabulary.special
  · simp only [Vocabulary.special, List.mem_cons, List.not_mem_nil, or_false] at unlike
    rcases unlike with rfl | rfl | rfl | rfl | rfl <;> rfl
  · rw [Vocabulary.escapeChar_plain unlike]
    apply decode_cons_plain
    rintro rfl
    exact unlike (by decide)

theorem decode_escape (text : Text) : decode (escape text) = text := by
  induction text with
  | nil => rfl
  | cons c text induction =>
      rw [escape, List.flatMap_cons, decode_escapeChar]
      exact congrArg (c :: ·) induction

theorem escape_unquoted (text : Text) : ∀ c ∈ escape text, (c != '\x22') = true := by
  have isText : (⟨[], [], Vocabulary.escapes⟩ : Vocabulary).IsText (escape text) :=
    Vocabulary.isText_escape (List.Subset.refl _) text
  intro c member
  simpa using (isText.1 c member).2.2.1

end DocSite.Html
