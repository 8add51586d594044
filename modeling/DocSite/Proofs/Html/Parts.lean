import DocSite.Proofs.Html.Lookalike

/-!
# Markup with places for texts

Markup that is written for texts consists of parts, and a part has a place for at most one text.
The form of a part is what it is without the text. By its form alone, the text is read back from
what is written, and parts with the same forms look the same to a reader of markup.
-/

namespace DocSite.Html

/-- A part of markup with at most one place for a text. -/
inductive Part
  /-- A piece without a place. -/
  | fixed (piece : Piece)
  /-- A tag whose last attribute has the place at the end of its value. -/
  | tag (name : Text) (before : List Attribute) (key front content : Text)
  /-- The place, some text that follows it, and the end of the element. -/
  | shown (name ending content : Text)
  deriving DecidableEq, Repr

namespace Part

/-! ## Writing -/

/-- The pieces of a part. -/
def pieces : Part → List Piece
  | fixed piece => [piece]
  | tag name before key front content =>
    [.startTag name (before ++ [.of key (front ++ content)])]
  | shown name ending content => [.text (content ++ ending), .endTag name]

/-- The text that is put in a part. -/
def content? : Part → Option Text
  | fixed _ => none
  | tag _ _ _ _ content | shown _ _ content => some content

/-- The part without its text. -/
def form : Part → Part
  | fixed piece => fixed piece
  | tag name before key front _ => tag name before key front []
  | shown name ending _ => shown name ending []

/-- Writes parts one after the other. -/
def writeAll (parts : List Part) : Text :=
  Piece.writeAll (parts.flatMap pieces)

@[simp] theorem writeAll_cons (part : Part) (parts : List Part) :
    writeAll (part :: parts) = Piece.writeAll part.pieces ++ writeAll parts := by
  rw [writeAll, writeAll, List.flatMap_cons, Piece.writeAll, List.flatMap_append]
  rfl

@[simp] theorem writeAll_append (left right : List Part) :
    writeAll (left ++ right) = writeAll left ++ writeAll right := by
  rw [writeAll, writeAll, writeAll, List.flatMap_append, Piece.writeAll, List.flatMap_append]
  rfl

/-- Pieces are parts without places. -/
theorem flatMap_pieces_fixed (written : List Piece) :
    (written.map fixed).flatMap pieces = written := by
  induction written with
  | nil => rfl
  | cons piece written induction =>
      rw [List.map_cons, List.flatMap_cons, induction]
      rfl

theorem filterMap_content?_fixed (written : List Piece) :
    (written.map fixed).filterMap content? = [] := by
  simp [List.filterMap_map, Function.comp_def, content?]

/-! ## Reading back -/

/-- What stands before the place in a tag. -/
def opening (name : Text) (before : List Attribute) (key front : Text) : Text :=
  '<' :: name ++ before.flatMap Attribute.write ++ ' ' :: key ++ '=' :: '\x22' :: escape front

/-- What is read in the place of a part at the start of a text, and what stands behind it. -/
def read : Part → Text → Option Text × Text
  | fixed piece, text => (none, text.drop piece.write.length)
  | tag name before key front _, text =>
    let behind := text.drop (opening name before key front).length
    let value := behind.takeWhile (· != '\x22')
    (some (decode value), behind.drop (value.length + 2))
  | shown name ending _, text =>
    let value := text.takeWhile (· != '<')
    (some (decode (value.take (value.length - (escape ending).length))),
      text.drop (value.length + (Piece.endTag name).write.length))

/-- Reads the texts in the places of parts. -/
def readBack : List Part → Text → List Text
  | [], _ => []
  | part :: parts, text => (part.read text).1.toList ++ readBack parts (part.read text).2

theorem read_form (part : Part) : part.form.read = part.read := by
  cases part <;> rfl

/-- For reading back, the texts that the parts have are of no use. -/
theorem readBack_map_form (parts : List Part) : readBack (parts.map form) = readBack parts := by
  induction parts with
  | nil => rfl
  | cons part parts induction =>
      funext text
      rw [List.map_cons, readBack, readBack, read_form, induction]

theorem read_tag (name : Text) (before : List Attribute) (key front content rest : Text) :
    (tag name before key front content).read
        (Piece.writeAll (tag name before key front content).pieces ++ rest) =
      (some content, rest) := by
  have written : Piece.writeAll (tag name before key front content).pieces ++ rest =
      opening name before key front ++ (escape content ++ '\x22' :: '>' :: rest) := by
    simp [Piece.writeAll, pieces, Piece.write, Attribute.of, Attribute.write, opening, escape]
  have value : (escape content ++ '\x22' :: '>' :: rest).takeWhile (· != '\x22') =
      escape content := by
    rw [List.takeWhile_append_of_pos (escape_unquoted content)]
    simp
  rw [written, read, List.drop_left]
  simp [value, decode_escape, List.drop_append]

theorem read_shown (name ending content rest : Text) :
    (shown name ending content).read
        (Piece.writeAll (shown name ending content).pieces ++ rest) = (some content, rest) := by
  have written : Piece.writeAll (shown name ending content).pieces ++ rest =
      escape (content ++ ending) ++ ((Piece.endTag name).write ++ rest) := by
    simp [Piece.writeAll, pieces, Piece.write]
  have value : (escape (content ++ ending) ++ ((Piece.endTag name).write ++ rest)).takeWhile
      (· != '<') = escape (content ++ ending) := by
    have plain : ∀ c ∈ escape (content ++ ending), (c != '<') = true := by
      rintro c member
      rw [bne_iff_ne]
      rintro rfl
      exact not_mem_escape (by decide) _ member
    rw [List.takeWhile_append_of_pos plain]
    simp [Piece.write]
  have split : escape (content ++ ending) = escape content ++ escape ending :=
    List.flatMap_append
  rw [written, read]
  simp only [value]
  rw [split, List.length_append, Nat.add_sub_cancel, List.take_left, decode_escape,
    ← List.length_append, ← List.length_append, ← List.append_assoc, List.drop_left]

/-- What is read in a part is the text that has been put there. -/
theorem read_write (part : Part) (rest : Text) :
    part.read (Piece.writeAll part.pieces ++ rest) = (part.content?, rest) := by
  cases part with
  | fixed piece => simp [read, Piece.writeAll, pieces, content?]
  | tag name before key front content => exact read_tag name before key front content rest
  | shown name ending content => exact read_shown name ending content rest

/-- The texts that have been put in parts are read back. -/
theorem readBack_writeAll (parts : List Part) :
    readBack parts (writeAll parts) = parts.filterMap content? := by
  induction parts with
  | nil => rfl
  | cons part parts induction =>
      rw [readBack, writeAll_cons, read_write, induction, List.filterMap_cons]
      cases part.content? <;> rfl

/-! ## Parts that look the same -/

/-- A part of plain pieces. -/
def IsPlain : Part → Prop
  | fixed piece => piece.IsPlain
  | tag name before key _ _ =>
    (Piece.startTag name before).IsPlain ∧ IsPlainName key
  | shown name _ _ => (Piece.endTag name).IsPlain

theorem alike_of_form_eq {part other : Part} (same : part.form = other.form)
    (plain : part.IsPlain) : List.Forall₂ Piece.Alike part.pieces other.pieces := by
  cases part with
  | fixed piece =>
      cases other with
      | fixed like =>
          obtain rfl : piece = like := by simpa [form] using same
          exact .cons plain.alike .nil
      | _ => simp [form] at same
  | tag name before key front content =>
      cases other with
      | tag likeName likeBefore likeKey likeFront other =>
          obtain ⟨rfl, rfl, rfl, rfl⟩ :
              name = likeName ∧ before = likeBefore ∧ key = likeKey ∧ front = likeFront := by
            simpa [form] using same
          obtain ⟨⟨named, keeps, plain⟩, keyed⟩ := plain
          have attributes (value : Text) :
              ∀ attr ∈ before ++ [Attribute.of key value], attr.IsPlain := by
            have last : (Attribute.of key value).IsPlain := ⟨keyed, rfl⟩
            simpa [or_imp, forall_and] using ⟨plain, last⟩
          have names : (before ++ [Attribute.of key (front ++ content)]).map Attribute.name =
              (before ++ [Attribute.of key (front ++ other)]).map Attribute.name := by
            simp [Attribute.of]
          exact .cons (.startTag named keeps names (attributes _) (attributes _)) .nil
      | _ => simp [form] at same
  | shown name ending content =>
      cases other with
      | shown likeName likeEnding other =>
          obtain ⟨rfl, rfl⟩ : name = likeName ∧ ending = likeEnding := by
            simpa [form] using same
          exact .cons (.text _ _) (.cons (.endTag plain.1 plain.2) .nil)
      | _ => simp [form] at same

theorem alike_of_forms_eq {parts others : List Part} (same : parts.map form = others.map form)
    (plain : ∀ part ∈ parts, part.IsPlain) :
    List.Forall₂ Piece.Alike (parts.flatMap pieces) (others.flatMap pieces) := by
  induction parts generalizing others with
  | nil =>
      cases others with
      | nil => exact .nil
      | cons other others => nomatch same
  | cons part parts induction =>
      cases others with
      | nil => nomatch same
      | cons other others =>
          obtain ⟨first, rest⟩ := List.cons.inj same
          obtain ⟨firstPlain, plain⟩ := List.forall_mem_cons.mp plain
          rw [List.flatMap_cons, List.flatMap_cons]
          exact List.rel_append (alike_of_form_eq first firstPlain) (induction rest plain)

end Part

/-- Readers that are near each other stay so at parts with the same forms. -/
theorem Scan.Near.writeParts {scan other : Scan} (near : scan.Near other)
    {parts others : List Part} (same : parts.map Part.form = others.map Part.form)
    (plain : ∀ part ∈ parts, part.IsPlain) :
    (scan.readAll (Part.writeAll parts)).Near (other.readAll (Part.writeAll others)) :=
  near.writeAll (Part.alike_of_forms_eq same plain)

end DocSite.Html
