import DocSite.Proofs.Html.Tags
import DocSite.Proofs.Html.Unseen
import DocSite.Proofs.Text.Pieces

/-!
# Elements in markup

Markup whose elements all have an end is read as a tree: between the two tags of an element stand
texts and elements in turn. What is written for a tree is read back as that tree, whatever the texts
and the values of its attributes are, and whatever follows it.
-/

namespace DocSite.Html

/-! ## Trees -/

/-- The tag that opens an element. -/
structure ElementTag where
  /-- The name of the element. -/
  name : Text
  /-- The names of its attributes, with their values. -/
  attributes : List (Text × Text) := []
  deriving DecidableEq, Repr

/-- What stands in an element: other elements, with a text before each one and behind the last. -/
inductive Nodes
  | text (last : Text)
  | element (before : Text) (tag : ElementTag) (inner rest : Nodes)
  deriving DecidableEq, Repr

namespace ElementTag

/-- The value of an attribute. -/
def value? (tag : ElementTag) (key : Text) : Option Text :=
  tag.attributes.lookup key

/-- The tag as a piece of markup. -/
def start (tag : ElementTag) : Piece :=
  .startTag tag.name (tag.attributes.map fun attr => .of attr.1 attr.2)

/-- The tag that closes the element. -/
def finish (tag : ElementTag) : Piece :=
  .endTag tag.name

/-- No name in the tag has a character that ends it. -/
def IsPlain (tag : ElementTag) : Prop :=
  IsElementName tag.name ∧ ∀ attr ∈ tag.attributes, '>' ∉ attr.1 ∧ '\x22' ∉ attr.1

instance (tag : ElementTag) : Decidable tag.IsPlain :=
  inferInstanceAs (Decidable (_ ∧ _))

end ElementTag

namespace Nodes

/-- Writes nodes. -/
def write : Nodes → Text
  | text last => escape last
  | element before tag inner rest =>
    escape before ++ (tag.start.write ++ (inner.write ++ (tag.finish.write ++ rest.write)))

/-- An element that holds only text, before other ones. -/
theorem write_element_text (before content : Text) (tag : ElementTag) (others : Nodes) :
    (element before tag (text content) others).write =
      escape before ++ (Piece.writeAll [tag.start, .text content, tag.finish] ++ others.write) := by
  simp [write, Piece.writeAll, Piece.write]

/-- The texts of nodes, without any tags. -/
def content : Nodes → Text
  | text last => last
  | element before _ inner rest => before ++ inner.content ++ rest.content

/-- The first element with a certain kind of tag, and what stands in it. Elements inside of other
ones are not looked at. -/
def find? (p : ElementTag → Bool) : Nodes → Option (ElementTag × Nodes)
  | text _ => none
  | element _ tag inner rest => if p tag then some (tag, inner) else rest.find? p

/-- All tags are plain. -/
def IsPlain : Nodes → Prop
  | text _ => True
  | element _ tag inner rest => tag.IsPlain ∧ inner.IsPlain ∧ rest.IsPlain

end Nodes

/-! ## Reading -/

/-- The attributes in the text of a tag that has been cut at its quotes. Each name has a space
before it and an equals sign behind it. -/
def attributesIn : List Text → List (Text × Text)
  | key :: value :: rest => ((key.drop 1).dropLast, decode value) :: attributesIn rest
  | _ => []

/-- The tag at the beginning of a text, without its first bracket, and what follows it. -/
def readTag (text : Text) : ElementTag × Text :=
  let name := nameAt text
  let behind := text.drop name.length
  let quoted := Text.splitAt (· == '\x22') (behind.takeWhile (· != '>'))
  ({ name, attributes := attributesIn quoted }, (behind.dropWhile (· != '>')).drop 1)

/-- The element at the beginning of a text, without the first bracket of its tag, and what follows
it. What stands in the element is read as given. -/
def readElementWith (readInner : Text → Option (Nodes × Text)) (text : Text) :
    Option (ElementTag × Nodes × Text) := do
  let (tag, behind) := readTag text
  let (inner, behind) ← readInner behind
  let rest ← tag.finish.write.isPrefixOf? behind
  return (tag, inner, rest)

/-- The nodes at the beginning of a text, up to a tag that closes no element among them, and what
follows them. -/
def readNodes : (fuel : Nat) → Text → Option (Nodes × Text)
  | 0, _ => none
  | fuel + 1, text =>
    let before := decode (text.takeWhile (· != '<'))
    match text.dropWhile (· != '<') with
    | '<' :: rest =>
      if rest.head? = some '/' then some (.text before, '<' :: rest)
      else do
        let (tag, inner, behind) ← readElementWith (readNodes fuel) rest
        let (others, behind) ← readNodes fuel behind
        return (.element before tag inner others, behind)
    | rest => some (.text before, rest)

/-- The element at the beginning of a text, and what follows it. -/
def readElement? : Text → Option (ElementTag × Nodes × Text)
  | '<' :: text => readElementWith (readNodes text.length) text
  | _ => none

/-! ## Tags read back -/

namespace ElementTag

/-- The attributes as they are written. -/
def attributeText (attributes : List (Text × Text)) : Text :=
  (attributes.map fun attr => Attribute.of attr.1 attr.2).flatMap Attribute.write

theorem attributeText_cons (key value : Text) (attributes : List (Text × Text)) :
    attributeText ((key, value) :: attributes) =
      (' ' :: key ++ ['=']) ++ '\x22' :: (escape value ++ '\x22' :: attributeText attributes) := by
  simp [attributeText, Attribute.of, Attribute.write]

theorem attributesIn_attributeText {attributes : List (Text × Text)}
    (plain : ∀ attr ∈ attributes, '\x22' ∉ attr.1) :
    attributesIn (Text.splitAt (· == '\x22') (attributeText attributes)) = attributes := by
  induction attributes with
  | nil => rfl
  | cons attr attributes induction =>
      obtain ⟨key, value⟩ := attr
      simp only [List.forall_mem_cons] at plain
      have front : ∀ c ∈ ' ' :: key ++ ['='], (c == '\x22') = false := by
        have absent : '\x22' ∉ ' ' :: key ++ ['='] := by simp [plain.1]
        exact fun c member => beq_eq_false_iff_ne.mpr (ne_of_mem_of_not_mem member absent)
      have unquoted : ∀ c ∈ escape value, (c == '\x22') = false := fun c member =>
        beq_eq_false_iff_ne.mpr (bne_iff_ne.mp (escape_unquoted value c member))
      rw [Text.splitAt_eq_splitOnP] at induction ⊢
      rw [attributeText_cons, List.splitOnP_append_cons_of_forall_mem front _ rfl,
        List.splitOnP_append_cons_of_forall_mem unquoted _ rfl, attributesIn, induction plain.2,
        decode_escape]
      simp

theorem start_write_append (tag : ElementTag) (rest : Text) :
    tag.start.write ++ rest =
      '<' :: (tag.name ++ (attributeText tag.attributes ++ '>' :: rest)) := by
  simp [start, Piece.write, attributeText]

theorem finish_write_append (tag : ElementTag) (rest : Text) :
    tag.finish.write ++ rest = '<' :: '/' :: (tag.name ++ '>' :: rest) := by
  simp [finish, Piece.write]

theorem not_mem_attributeText {attributes : List (Text × Text)}
    (plain : ∀ attr ∈ attributes, '>' ∉ attr.1) : '>' ∉ attributeText attributes := by
  induction attributes with
  | nil => simp [attributeText]
  | cons attr attributes induction =>
      obtain ⟨key, value⟩ := attr
      simp only [List.forall_mem_cons] at plain
      have unwritten : '>' ∉ escape value := not_mem_escape (by decide) value
      rw [attributeText_cons]
      simp [plain.1, unwritten, induction plain.2]

/-- A tag is read back behind its first bracket. -/
theorem readTag_write {tag : ElementTag} (plain : tag.IsPlain) (rest : Text) :
    readTag (tag.name ++ (attributeText tag.attributes ++ '>' :: rest)) = (tag, rest) := by
  have stops : (attributeText tag.attributes ++ '>' :: rest).head? = some ' ' ∨
      (attributeText tag.attributes ++ '>' :: rest).head? = some '>' := by
    cases tag.attributes with
    | nil => exact .inr rfl
    | cons attr attributes => exact .inl rfl
  have name := plain.1.nameAt_append stops
  have inside : ∀ c ∈ attributeText tag.attributes, (c != '>') = true := by
    intro c member
    have absent := not_mem_attributeText fun attr among => (plain.2 attr among).1
    exact bne_iff_ne.mpr (ne_of_mem_of_not_mem member absent)
  have attributes := attributesIn_attributeText fun attr among => (plain.2 attr among).2
  simp only [readTag, name, List.drop_left, List.takeWhile_append_of_pos inside,
    List.dropWhile_append_of_pos inside]
  simp [attributes]

end ElementTag

/-! ## Trees read back -/

variable {readInner : Text → Option (Nodes × Text)} {tag : ElementTag} {inner nodes : Nodes}

/-- An element is read back if that is so for what stands in it. -/
theorem readElementWith_write (plain : tag.IsPlain) {rest : Text}
    (readsInner : readInner (inner.write ++ (tag.finish.write ++ rest)) =
      some (inner, tag.finish.write ++ rest)) :
    readElementWith readInner (tag.name ++ (ElementTag.attributeText tag.attributes ++
        '>' :: (inner.write ++ (tag.finish.write ++ rest)))) = some (tag, inner, rest) := by
  have closed : tag.finish.write.isPrefixOf? (tag.finish.write ++ rest) = some rest :=
    List.isPrefixOf?_eq_some_iff_append_eq.mpr rfl
  simp [readElementWith, ElementTag.readTag_write plain, readsInner, closed]

theorem escape_unbracketed (text : Text) : ∀ c ∈ escape text, (c != '<') = true :=
  fun _ member => bne_iff_ne.mpr (ne_of_mem_of_not_mem member (not_mem_escape (by decide) text))

theorem readNodes_text (fuel : Nat) (last rest : Text) :
    readNodes (fuel + 1) (escape last ++ '<' :: '/' :: rest) =
      some (.text last, '<' :: '/' :: rest) := by
  have unbracketed := escape_unbracketed last
  simp [readNodes, List.takeWhile_append_of_pos unbracketed,
    List.dropWhile_append_of_pos unbracketed, decode_escape]

theorem readNodes_element {fuel : Nat} {text behind : Text} (before : Text)
    (opens : text.head? ≠ some '/')
    (reads : readElementWith (readNodes fuel) text = some (tag, inner, behind)) :
    readNodes (fuel + 1) (escape before ++ '<' :: text) =
      (readNodes fuel behind).map fun found => (.element before tag inner found.1, found.2) := by
  have unbracketed := escape_unbracketed before
  rw [readNodes, List.dropWhile_append_of_pos unbracketed,
    List.takeWhile_append_of_pos unbracketed]
  simp only [bne_self_eq_false, Bool.false_eq_true, not_false_eq_true,
    List.takeWhile_cons_of_neg, List.dropWhile_cons_of_neg, if_neg opens, reads, decode_escape,
    List.append_nil]
  show (readNodes fuel behind).bind _ = _
  cases readNodes fuel behind <;> rfl

theorem IsElementName.head?_append {name : Text} (isName : IsElementName name) (rest : Text) :
    (name ++ rest).head? ≠ some '/' := by
  obtain ⟨c, tail, rfl⟩ := List.exists_cons_of_ne_nil isName.2.2.2.2
  have slash : '/' ∉ c :: tail := isName.2.2.2.1
  rintro equality
  simp_all

/-- Nodes are read back up to any tag that closes no element among them. -/
theorem readNodes_write (plain : nodes.IsPlain) {fuel : Nat} (enough : nodes.write.length < fuel)
    (rest : Text) :
    readNodes fuel (nodes.write ++ '<' :: '/' :: rest) = some (nodes, '<' :: '/' :: rest) := by
  induction nodes generalizing fuel rest with
  | text last =>
      obtain ⟨fuel, rfl⟩ := Nat.exists_eq_succ_of_ne_zero (Nat.ne_zero_of_lt enough)
      exact readNodes_text fuel last rest
  | element before tag inner others innerInduction othersInduction =>
      obtain ⟨fuel, rfl⟩ := Nat.exists_eq_succ_of_ne_zero (Nat.ne_zero_of_lt enough)
      obtain ⟨plainTag, plainInner, plainOthers⟩ := plain
      have shorter : inner.write.length < fuel ∧ others.write.length < fuel := by
        have bracket := congrArg List.length (tag.start_write_append [])
        simp only [List.length_append, List.length_cons] at bracket
        simp only [Nodes.write, List.length_append] at enough
        omega
      have readsInner := innerInduction plainInner shorter.1
        (tag.name ++ '>' :: (others.write ++ '<' :: '/' :: rest))
      rw [← tag.finish_write_append] at readsInner
      have reads := readElementWith_write plainTag readsInner
      have opens := plainTag.1.head?_append (ElementTag.attributeText tag.attributes ++ '>' ::
        (inner.write ++ (tag.finish.write ++ (others.write ++ '<' :: '/' :: rest))))
      calc readNodes (fuel + 1)
            ((Nodes.element before tag inner others).write ++ '<' :: '/' :: rest)
        _ = readNodes (fuel + 1) (escape before ++ (tag.start.write ++
              (inner.write ++ (tag.finish.write ++ (others.write ++ '<' :: '/' :: rest))))) := by
          simp only [Nodes.write, List.append_assoc]
        _ = some (.element before tag inner others, '<' :: '/' :: rest) := by
          rw [tag.start_write_append, readNodes_element before opens reads,
            othersInduction plainOthers shorter.2]
          rfl

/-- An element is read back, whatever follows it. -/
theorem readElement?_write (plainTag : tag.IsPlain) (plain : inner.IsPlain) (rest : Text) :
    readElement? (tag.start.write ++ (inner.write ++ (tag.finish.write ++ rest))) =
      some (tag, inner, rest) := by
  rw [tag.start_write_append, readElement?]
  refine readElementWith_write plainTag ?_
  rw [tag.finish_write_append]
  refine readNodes_write plain ?_ _
  simp only [List.length_append, List.length_cons]
  omega

end DocSite.Html
