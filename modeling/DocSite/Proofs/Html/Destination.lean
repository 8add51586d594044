import DocSite.Proofs.Html.Decoding
import DocSite.Proofs.Html.Writing

/-!
# Destinations of links and images

A browser passes over control characters and spaces before an address, and over tabs and line ends
anywhere in it. The writer looks at the scheme of a destination behind blank characters only. So the
destinations that still run a script when they are written are those in which such a character hides
the scheme.
-/

namespace DocSite.Html

/-! ## Addresses as browsers read them -/

/-- A control character of ASCII or a space, which is passed over before an address. -/
def ignoredBefore (c : Char) : Bool :=
  c ≤ ' '

/-- A tab or a line end, which is passed over anywhere in an address. -/
def ignoredAnywhere (c : Char) : Bool :=
  c == '\t' || c == '\n' || c == '\r'

/-- What a browser reads of an address. -/
def browserAddress (address : Text) : Text :=
  (address.dropWhile ignoredBefore).filter fun c => !ignoredAnywhere c

/-- Whether an address begins with a scheme, in whatever case its letters are. -/
def namesScheme (address scheme : Text) : Bool :=
  Text.startsWith (address.map Text.asciiLower) scheme

/-- Whether a browser takes an address for a script. -/
def runsScript (address : Text) : Bool :=
  blockedSchemes.any (namesScheme (browserAddress address))

/-- A destination names a blocked scheme to browsers, and hides it: before the scheme stands a
control character that is not blank, or in the scheme a tab or a line end. -/
def HidesScheme (destination : Text) : Prop :=
  ∃ scheme ∈ blockedSchemes, namesScheme (browserAddress destination) scheme ∧
    ((∃ c ∈ destination.takeWhile ignoredBefore, Text.isBlank c = false) ∨
      namesScheme (destination.dropWhile ignoredBefore) scheme = false)

theorem safeAddress_eq (address : Text) :
    safeAddress address =
      if blockedSchemes.any (namesScheme (Text.trimStart address)) then "#".toList else address :=
  rfl

/-! ## Schemes -/

theorem isAsciiLetter_of_asciiLower {c : Char} (letter : Text.isAsciiLetter (Text.asciiLower c)) :
    Text.isAsciiLetter c := by
  unfold Text.asciiLower at letter
  split at letter
  · rename_i upper
    simp [Text.isAsciiLetter, upper]
  · exact letter

theorem toNat_of_isAsciiLetter {c : Char} (letter : Text.isAsciiLetter c) :
    65 ≤ c.toNat ∧ c.toNat ≤ 122 := by
  simp only [Text.isAsciiLetter, Bool.or_eq_true, Bool.and_eq_true, decide_eq_true_eq, Char.le_def,
    UInt32.le_iff_toNat_le] at letter
  rcases letter with ⟨low, high⟩ | ⟨low, high⟩
  · exact ⟨Nat.le_trans (by decide) low, high⟩
  · exact ⟨low, Nat.le_trans high (by decide)⟩

theorem not_ignoredBefore_of_isAsciiLetter {c : Char} (letter : Text.isAsciiLetter c) :
    ignoredBefore c = false := by
  have bounds := toNat_of_isAsciiLetter letter
  simp only [ignoredBefore, decide_eq_false_iff_not, Char.le_def, UInt32.le_iff_toNat_le]
  exact fun low => absurd (Nat.le_trans bounds.1 low) (by decide)

theorem not_isBlank_of_isAsciiLetter {c : Char} (letter : Text.isAsciiLetter c) :
    Text.isBlank c = false := by
  have bounds := toNat_of_isAsciiLetter letter
  simp [Text.isBlank, Char.le_def, UInt32.le_iff_toNat_le, ← Char.toNat_inj]
  omega

theorem namesScheme_cons {c first : Char} {rest scheme : Text} :
    namesScheme (c :: rest) (first :: scheme) ↔
      first = Text.asciiLower c ∧ namesScheme rest scheme := by
  simp [namesScheme, Text.startsWith]

/-- What names a blocked scheme begins with a letter, the first one of the scheme. -/
theorem exists_letter_of_namesScheme {address scheme : Text} (blocked : scheme ∈ blockedSchemes)
    (names : namesScheme address scheme) :
    ∃ c rest, address = c :: rest ∧ scheme.head? = some (Text.asciiLower c) ∧
      Text.isAsciiLetter c := by
  have letters : ∀ scheme ∈ blockedSchemes, scheme.head?.any Text.isAsciiLetter := by decide
  have letter := letters scheme blocked
  cases scheme with
  | nil => simp at letter
  | cons first scheme =>
      cases address with
      | nil => simp [namesScheme, Text.startsWith] at names
      | cons c rest =>
          obtain ⟨rfl, _⟩ := namesScheme_cons.mp names
          exact ⟨c, rest, rfl, rfl, isAsciiLetter_of_asciiLower (by simpa using letter)⟩

/-- An address names at most one blocked scheme: their first letters differ. -/
theorem eq_of_namesScheme {address scheme other : Text} (blocked : scheme ∈ blockedSchemes)
    (otherBlocked : other ∈ blockedSchemes) (names : namesScheme address scheme)
    (otherNames : namesScheme address other) : scheme = other := by
  have distinct : ∀ scheme ∈ blockedSchemes, ∀ other ∈ blockedSchemes,
      scheme.head? = other.head? → scheme = other := by decide
  obtain ⟨c, rest, rfl, first, _⟩ := exists_letter_of_namesScheme blocked names
  obtain ⟨_, _, same, otherFirst, _⟩ := exists_letter_of_namesScheme otherBlocked otherNames
  obtain ⟨rfl, rfl⟩ := List.cons.inj same
  exact distinct scheme blocked other otherBlocked (first.trans otherFirst.symm)

/-- Passing over characters that are in no scheme keeps the scheme that an address names. -/
theorem namesScheme_filter {address scheme : Text} {kept : Char → Bool}
    (within : ∀ c, Text.asciiLower c ∈ scheme → kept c) (names : namesScheme address scheme) :
    namesScheme (address.filter kept) scheme := by
  induction scheme generalizing address with
  | nil => simp [namesScheme, Text.startsWith]
  | cons first scheme induction =>
      cases address with
      | nil => simp [namesScheme, Text.startsWith] at names
      | cons c rest =>
          obtain ⟨rfl, behind⟩ := namesScheme_cons.mp names
          rw [List.filter_cons_of_pos (within c (by simp)), namesScheme_cons]
          exact ⟨rfl, induction (fun c member => within c (by simp [member])) behind⟩

theorem kept_of_blocked {scheme : Text} (blocked : scheme ∈ blockedSchemes) (c : Char)
    (member : Text.asciiLower c ∈ scheme) : (!ignoredAnywhere c) = true := by
  -- The ignored characters have no case.
  have kept : ∀ scheme ∈ blockedSchemes, '\t' ∉ scheme ∧ '\n' ∉ scheme ∧ '\r' ∉ scheme := by decide
  obtain ⟨tab, newLine, carriage⟩ := kept scheme blocked
  cases ignored : ignoredAnywhere c with
  | false => rfl
  | true =>
      simp only [ignoredAnywhere, Bool.or_eq_true, beq_iff_eq] at ignored
      rcases ignored with (rfl | rfl) | rfl
      · exact (tab member).elim
      · exact (newLine member).elim
      · exact (carriage member).elim

theorem ignoredBefore_of_ignoredAnywhere {c : Char} (ignored : ignoredAnywhere c) :
    ignoredBefore c := by
  simp only [ignoredAnywhere, Bool.or_eq_true, beq_iff_eq] at ignored
  rcases ignored with (rfl | rfl) | rfl <;> decide

/-! ## What gets past the writer -/

section Leading

variable {destination scheme : Text}

/-- Behind the leading controls and spaces of an address that names a blocked scheme is a letter. -/
theorem exists_letter_dropWhile (blocked : scheme ∈ blockedSchemes)
    (names : namesScheme (browserAddress destination) scheme) :
    ∃ c rest, destination.dropWhile ignoredBefore = c :: rest ∧ Text.isAsciiLetter c := by
  obtain ⟨letter, _, seen, _, isLetter⟩ := exists_letter_of_namesScheme blocked names
  cases body : destination.dropWhile ignoredBefore with
  | nil => simp [browserAddress, body] at seen
  | cons c rest =>
      have outside : ignoredBefore c = false := by
        have found := List.head?_dropWhile_not ignoredBefore destination
        rw [body] at found
        simpa using found
      have kept : ignoredAnywhere c = false := by
        cases ignored : ignoredAnywhere c with
        | false => rfl
        | true => simp [ignoredBefore_of_ignoredAnywhere ignored] at outside
      rw [browserAddress, body, List.filter_cons_of_pos (by simp [kept])] at seen
      obtain ⟨rfl, _⟩ := List.cons.inj seen
      exact ⟨c, rest, rfl, isLetter⟩

/-- If only blank characters stand before that letter, the writer drops them as well. -/
theorem trimStart_of_blank (blank : ∀ c ∈ destination.takeWhile ignoredBefore, Text.isBlank c)
    (blocked : scheme ∈ blockedSchemes)
    (names : namesScheme (browserAddress destination) scheme) :
    Text.trimStart destination = destination.dropWhile ignoredBefore := by
  obtain ⟨c, rest, body, letter⟩ := exists_letter_dropWhile blocked names
  calc Text.trimStart destination
      = (destination.takeWhile ignoredBefore ++ destination.dropWhile ignoredBefore).dropWhile
          Text.isBlank := by rw [List.takeWhile_append_dropWhile, Text.trimStart]
    _ = (c :: rest).dropWhile Text.isBlank := by
          rw [List.dropWhile_append_of_pos blank, body]
    _ = destination.dropWhile ignoredBefore := by
          rw [List.dropWhile_cons_of_neg (by simp [not_isBlank_of_isAsciiLetter letter]), body]

/-- If another control character stands there, the writer sees a control character and no scheme. -/
theorem not_namesScheme_trimStart {hidden : Char}
    (member : hidden ∈ destination.takeWhile ignoredBefore)
    (unlike : Text.isBlank hidden = false) (blocked : scheme ∈ blockedSchemes) :
    ¬namesScheme (Text.trimStart destination) scheme := by
  induction destination with
  | nil => simp at member
  | cons first destination induction =>
      have ignored : ignoredBefore first := by
        cases ignored : ignoredBefore first with
        | true => rfl
        | false => simp [ignored] at member
      cases blank : Text.isBlank first with
      | false =>
          intro names
          rw [Text.trimStart, List.dropWhile_cons_of_neg (by simp [blank])] at names
          obtain ⟨_, _, same, _, letter⟩ := exists_letter_of_namesScheme blocked names
          obtain ⟨rfl, _⟩ := List.cons.inj same
          simp [not_ignoredBefore_of_isAsciiLetter letter] at ignored
      | true =>
          rw [List.takeWhile_cons_of_pos ignored, List.mem_cons] at member
          rcases member with rfl | member
          · simp [unlike] at blank
          · rw [Text.trimStart, List.dropWhile_cons_of_pos blank]
            exact induction member

end Leading

/-- A destination runs a script when it is written just if it hides its scheme. -/
theorem runsScript_safeAddress_iff (destination : Text) :
    runsScript (safeAddress destination) ↔ HidesScheme destination := by
  have numberSign : runsScript "#".toList = false := by decide
  rw [safeAddress_eq]
  constructor
  · intro runs
    split at runs
    · exact (Bool.eq_false_iff.mp numberSign runs).elim
    · rename_i passed
      obtain ⟨scheme, blocked, names⟩ := List.any_eq_true.mp runs
      refine ⟨scheme, blocked, names, ?_⟩
      by_cases blank : ∀ c ∈ destination.takeWhile ignoredBefore, Text.isBlank c
      · rw [trimStart_of_blank blank blocked names] at passed
        simp only [List.any_eq_true, not_exists, not_and, Bool.not_eq_true] at passed
        exact .inr (passed scheme blocked)
      · simp only [Classical.not_forall, Bool.not_eq_true, exists_prop] at blank
        exact .inl blank
  · rintro ⟨scheme, blocked, names, hidden⟩
    have passed : ¬blockedSchemes.any (namesScheme (Text.trimStart destination)) := by
      intro caught
      obtain ⟨other, otherBlocked, otherNames⟩ := List.any_eq_true.mp caught
      by_cases blank : ∀ c ∈ destination.takeWhile ignoredBefore, Text.isBlank c
      · rcases hidden with ⟨c, member, unlike⟩ | unnamed
        · simp [blank c member] at unlike
        · -- The writer has seen the scheme itself, and not another one.
          rw [trimStart_of_blank blank blocked names] at otherNames
          have filtered := namesScheme_filter (kept_of_blocked otherBlocked) otherNames
          obtain rfl := eq_of_namesScheme blocked otherBlocked names filtered
          simp [unnamed] at otherNames
      · simp only [Classical.not_forall, Bool.not_eq_true, exists_prop] at blank
        obtain ⟨c, member, unlike⟩ := blank
        exact not_namesScheme_trimStart member unlike otherBlocked otherNames
    rw [if_neg passed]
    exact List.any_eq_true.mpr ⟨scheme, blocked, names⟩

/-! ## What is written -/

/-- The value of an attribute, read back from the text behind its opening quote. -/
def quotedValue (text : Text) : Text :=
  decode (text.takeWhile (· != '\x22'))

theorem quotedValue_escape (value rest : Text) :
    quotedValue (escape value ++ '\x22' :: rest) = value := by
  rw [quotedValue, List.takeWhile_append_of_pos (escape_unquoted value)]
  simp [decode_escape]

/-- How many images are open after some events, if no end comes without its start. -/
def imagesAfter? : (depth : Nat) → List Event → Option Nat
  | depth, [] => some depth
  | depth, .start (.image _ _) :: rest => imagesAfter? (depth + 1) rest
  | 0, .finish .image :: _ => none
  | depth + 1, .finish .image :: rest => imagesAfter? depth rest
  | depth, _ :: rest => imagesAfter? depth rest

namespace Writer

/-- An event other than the start or the end of an image leaves the open image as it is. -/
theorem step_other (writer : Writer) (event : Event)
    (notStart : ∀ destination title, event ≠ .start (.image destination title))
    (notEnd : event ≠ .finish .image) :
    (writer.step event).1.imageDepth = writer.imageDepth ∧
      (writer.step event).1.pendingImage = writer.pendingImage := by
  cases event with
  | start tag =>
      cases tag with
      | image destination title => exact (notStart destination title rfl).elim
      | list start => cases start <;> exact ⟨rfl, rfl⟩
      | _ => exact ⟨rfl, rfl⟩
  | finish tag =>
      cases tag with
      | image => exact (notEnd rfl).elim
      | blockQuote alert =>
          simp only [step, endTag]
          split <;> exact ⟨rfl, rfl⟩
      | codeBlock =>
          simp only [step, endTag]
          split <;> exact ⟨rfl, rfl⟩
      | _ => exact ⟨rfl, rfl⟩
  | text content =>
      simp only [step]
      split
      · exact ⟨rfl, rfl⟩
      · split <;> exact ⟨rfl, rfl⟩
  | code content =>
      simp only [step]
      split <;> exact ⟨rfl, rfl⟩
  | softBreak =>
      simp only [step]
      split <;> exact ⟨rfl, rfl⟩
  | _ => exact ⟨rfl, rfl⟩

/-- Events that leave an image open leave its destination pending. -/
theorem run_inside_image {writer : Writer} {events : List Event} (outer : Nat) {depth last : Nat}
    (inside : writer.imageDepth = outer + depth + 1)
    (after : imagesAfter? depth events = some last) :
    (writer.run events).1.imageDepth = outer + last + 1 ∧
      (writer.run events).1.pendingImage = writer.pendingImage := by
  fun_induction imagesAfter? depth events generalizing writer with
  | case1 depth =>
      obtain rfl := Option.some.inj after
      exact ⟨inside, rfl⟩
  | case2 depth destination title rest induction =>
      have deeper : (writer.step (.start (.image destination title))).1 =
          { writer with imageDepth := writer.imageDepth + 1 } := by
        simp [step, startTag, inImage, inside]
      rw [run_cons, deeper]
      exact induction (congrArg (· + 1) inside) after
  | case3 => simp at after
  | case4 depth rest induction =>
      have higher : (writer.step (.finish .image)).1 =
          { writer with imageDepth := writer.imageDepth - 1 } := by
        simp [step, endTag, inImage, inside]
      rw [run_cons, higher]
      exact induction (congrArg (· - 1) inside) after
  | case5 depth event rest notStart notEnd notInnerEnd induction =>
      have same := writer.step_other event
        (fun destination title start => notStart destination title start)
        (fun stop => by
          cases depth with
          | zero => exact notEnd rfl stop
          | succ depth => exact notInnerEnd depth rfl stop)
      rw [run_cons, ← same.2]
      exact induction (same.1.trans inside) after

theorem render_link {writer : Writer} (outside : writer.inImage = false)
    (destination title : Text) :
    ∃ rest, (writer.render [.start (.link destination title)]).2 =
      "<a href=\"".toList ++ (escape (safeAddress destination) ++ '\x22' :: rest) := by
  refine ⟨(titleAttribute title).flatMap Attribute.write ++ ['>'], ?_⟩
  simp [render, run, step, startTag, inlineMarkup, outside, Piece.writeAll, Piece.write,
    Attribute.write, Attribute.of]

/-- An image is written at its end, behind what the events in it write. -/
theorem render_image {writer : Writer} (outside : writer.inImage = false)
    (destination title : Text) {inner : List Event} (closed : imagesAfter? 0 inner = some 0) :
    let opened := (writer.step (.start (.image destination title))).1
    ∃ rest, (writer.render (.start (.image destination title) :: inner ++ [.finish .image])).2 =
      (opened.render inner).2 ++
        ("<img src=\"".toList ++ (escape (safeAddress destination) ++ '\x22' :: rest)) := by
  intro opened
  have start : writer.step (.start (.image destination title)) = (opened, []) := by
    simp [opened, step, startTag, outside]
  have inside : opened.imageDepth = 0 + 0 + 1 := by simp [opened, step, startTag, outside]
  have pending : opened.pendingImage = some (destination, title) := by
    simp [opened, step, startTag, outside]
  obtain ⟨depth, kept⟩ := run_inside_image 0 inside closed
  let last := (opened.run inner).1
  have finish : (last.step (.finish .image)).2 = [imagePiece destination last.altText title] := by
    simp only [step, endTag, inImage, last, depth, kept, pending]
    rfl
  refine ⟨" alt=\"".toList ++ escape last.altText ++ '\x22' ::
    ((titleAttribute title).flatMap Attribute.write ++ ['>']), ?_⟩
  rw [List.cons_append, render, run_cons, start, run_append]
  simp only [run_cons, finish, last]
  simp [render, run, Piece.writeAll, Piece.write, imagePiece, Attribute.write, Attribute.of]

/-- An image inside an image writes nothing of its own. -/
theorem render_inner_image {writer : Writer} (inside : writer.inImage)
    (destination title : Text) {inner : List Event} (closed : imagesAfter? 0 inner = some 0) :
    let opened := (writer.step (.start (.image destination title))).1
    (writer.render (.start (.image destination title) :: inner ++ [.finish .image])).2 =
      (opened.render inner).2 := by
  intro opened
  obtain ⟨outer, depth⟩ : ∃ outer, writer.imageDepth = outer + 1 :=
    Nat.exists_eq_succ_of_ne_zero (by simpa [inImage] using inside)
  have start : writer.step (.start (.image destination title)) = (opened, []) := by
    simp [opened, step, startTag, inside]
  have deeper : opened.imageDepth = (outer + 1) + 0 + 1 := by
    simp [opened, step, startTag, inside, depth]
  obtain ⟨lastDepth, _⟩ := run_inside_image (outer + 1) deeper closed
  have finish : ((opened.run inner).1.step (.finish .image)).2 = [] := by
    simp [step, endTag, inImage, lastDepth]
  rw [List.cons_append, render, run_cons, start, run_append]
  simp only [run_cons, finish]
  simp [render, run]

end Writer

open Writer

/-- Outside of images a link and an image write their destination, and what is written runs a script
just if the destination hides its scheme. Inside an image neither of them is written. -/
theorem written_destination_runs_script_iff (writer : Writer) (destination title : Text) :
    let link := writer.render [.start (.link destination title)]
    let opened := (writer.step (.start (.image destination title))).1
    let image (inner : List Event) :=
      writer.render (.start (.image destination title) :: inner ++ [.finish .image])
    (writer.inImage = false →
      (∃ rest, link.2 = "<a href=\"".toList ++ rest ∧
        (runsScript (quotedValue rest) ↔ HidesScheme destination)) ∧
      ∀ inner, imagesAfter? 0 inner = some 0 →
        ∃ rest, (image inner).2 = (opened.render inner).2 ++ ("<img src=\"".toList ++ rest) ∧
          (runsScript (quotedValue rest) ↔ HidesScheme destination)) ∧
    (writer.inImage → link.2 = [] ∧
      ∀ inner, imagesAfter? 0 inner = some 0 → (image inner).2 = (opened.render inner).2) := by
  intro link opened image
  constructor
  · intro outside
    constructor
    · obtain ⟨rest, written⟩ := render_link outside destination title
      refine ⟨_, written, ?_⟩
      rw [quotedValue_escape, runsScript_safeAddress_iff]
    · intro inner closed
      obtain ⟨rest, written⟩ := render_image outside destination title closed
      refine ⟨_, written, ?_⟩
      rw [quotedValue_escape, runsScript_safeAddress_iff]
  · intro inside
    constructor
    · simp [link, Writer.render, run, step, startTag, inlineMarkup, inside, Piece.writeAll]
    · exact fun inner closed => render_inner_image inside destination title closed

/-- A tab in the scheme of a link, and a control character before that of an image whose text holds
another image. -/
theorem written_destination_runs_script_iff_tab :
    let writer : Writer := {}
    let inner : List Event := [.start (.image "a" []), .text "b", .finish .image]
    let opened := (writer.step (.start (.image "\x01data:,x" []))).1
    writer.inImage = false ∧ imagesAfter? 0 inner = some 0 ∧
      (∃ rest, (writer.render [.start (.link "java\tscript:alert(1)" [])]).2 =
          "<a href=\"".toList ++ rest ∧ runsScript (quotedValue rest)) ∧
      ∃ rest, (writer.render (.start (.image "\x01data:,x" []) :: inner ++ [.finish .image])).2 =
          (opened.render inner).2 ++ ("<img src=\"".toList ++ rest) ∧
        runsScript (quotedValue rest) := by
  intro writer inner opened
  have tab : HidesScheme "java\tscript:alert(1)" :=
    ⟨"javascript:".toList, by decide, by decide, .inr (by decide)⟩
  have control : HidesScheme "\x01data:,x" :=
    ⟨"data:".toList, by decide, by decide, .inl ⟨'\x01', by decide, by decide⟩⟩
  obtain ⟨⟨rest, written, runs⟩, _⟩ :=
    (written_destination_runs_script_iff writer "java\tscript:alert(1)" []).1 rfl
  obtain ⟨_, images⟩ := (written_destination_runs_script_iff writer "\x01data:,x" []).1 rfl
  obtain ⟨imageRest, imageWritten, imageRuns⟩ := images inner rfl
  exact ⟨rfl, rfl, ⟨rest, written, runs.mpr tab⟩, imageRest, imageWritten, imageRuns.mpr control⟩

end DocSite.Html
