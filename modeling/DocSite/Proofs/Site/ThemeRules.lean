import DocSite.Config.Validity
import DocSite.Proofs.Config.Loading
import DocSite.Proofs.Css.Tokens
import DocSite.Proofs.Site.Loading
import DocSite.Proofs.Text.Search
import Mathlib.Data.Option.Basic

/-!
# The stylesheet of a theme

The custom properties of a theme are one `:root` block. Colours are checked, so they are always one
token each; fonts are only checked to be there. The block is what it is meant to be just if no font
holds a character that means something in a string, and no style element ends within it just if no
font holds its end tag.
-/

namespace DocSite

namespace Css

/-! ## Blocks of declarations -/

/-- The tokens of the declaration of a custom property, with the white space before it. -/
def declarationTokens (property : Text × Token) : List Token :=
  [.whitespace, .name ('-' :: '-' :: property.1), .mark ':', .whitespace, property.2, .mark ';']

/-- The tokens of one `:root` block in which custom properties have one token each as their
value. -/
def rootBlock (properties : List (Text × Token)) : List Token :=
  [.mark ':', .name "root", .whitespace, .mark '\x7b'] ++ properties.flatMap declarationTokens ++
    [.whitespace, .mark '\x7d']

/-- The text of the declaration of a custom property, with the line break before it. -/
def declarationText (property : Text × Text) : Text :=
  ['\n', ' ', ' ', '-', '-'] ++ property.1 ++ [':', ' '] ++ property.2 ++ [';']

/-- A text that is the name of a custom property behind two hyphens. -/
def IsCustomName (name : Text) : Prop :=
  name ≠ [] ∧ ∀ c ∈ name, isNameChar c

/-- What a token says holds: a string is plain. -/
def Token.IsSound : Token → Prop
  | .string value => IsPlain value
  | _ => True

/-- A value at the end of a line is read as a certain token just if this token is sound. -/
def ReadsAs (value : Text) (token : Token) : Prop :=
  (∃ c more, value = c :: more ∧ (c = '#' ∨ c = '\x22')) ∧
    ∀ (rest : Text) (tokens : List Token),
      Tokens (preprocess (value ++ ';' :: '\n' :: rest)) (token :: tokens) ↔
        token.IsSound ∧ Tokens (preprocess (';' :: '\n' :: rest)) tokens

/-- The declaration of a property is read as one of the same property with one token as its
value. -/
def Declares (property : Text × Text) (found : Text × Token) : Prop :=
  property.1 = found.1 ∧ ReadsAs property.2 found.2

theorem readAs_of_isNameChar {c : Char} (char : isNameChar c) : readAs c = c := by
  have noBreak : ¬(c == '\r' || c == '\x0c') := by
    rw [Bool.or_eq_true, beq_iff_eq, beq_iff_eq]
    rintro (rfl | rfl) <;> nomatch char
  have noNull : ¬(c == '\x00') := by
    rw [beq_iff_eq]
    rintro rfl
    nomatch char
  rw [readAs, if_neg noBreak, if_neg noNull]

variable {name value rest : Text} {token : Token} {tokens : List Token}

theorem preprocess_declarationText (kept : ∀ c ∈ name, readAs c = c) (rest : Text) :
    preprocess (declarationText (name, value) ++ rest) =
      ['\n', ' ', ' '] ++ '-' :: '-' :: (name ++ ':' :: ([' '] ++
        preprocess (value ++ ';' :: rest))) := by
  have whole : declarationText (name, value) ++ rest =
      (['\n', ' ', ' ', '-', '-'] ++ name ++ [':', ' ']) ++ (value ++ ';' :: rest) := by
    simp [declarationText]
  rw [whole, preprocess_append]
  · simp
  · simp only [List.forall_mem_append]
    exact ⟨⟨by simp [readAs], kept⟩, by simp [readAs]⟩

theorem tokens_declaration_iff (custom : IsCustomName name) (reads : ReadsAs value token) :
    Tokens (preprocess (declarationText (name, value) ++ '\n' :: rest))
        (declarationTokens (name, token) ++ tokens) ↔
      token.IsSound ∧ Tokens (preprocess ('\n' :: rest)) tokens := by
  obtain ⟨⟨c, more, value_eq, start⟩, reads⟩ := reads
  obtain ⟨any, chars⟩ := custom
  obtain ⟨first, name, rfl⟩ := List.exists_cons_of_ne_nil any
  have noSpace : isSpace c = false := by rcases start with rfl | rfl <;> rfl
  obtain ⟨others, shown⟩ : ∃ others, preprocess (value ++ ';' :: '\n' :: rest) = c :: others := by
    refine ⟨preprocess (more ++ ';' :: '\n' :: rest), ?_⟩
    rw [value_eq, List.cons_append]
    rcases start with rfl | rfl <;> exact preprocess_cons (.inl (by decide))
  have closes : preprocess (';' :: '\n' :: rest) = ';' :: preprocess ('\n' :: rest) :=
    preprocess_cons (.inl (by decide))
  rw [preprocess_declarationText fun c member => readAs_of_isNameChar (chars c member), shown]
  calc Tokens (['\n', ' ', ' '] ++ '-' :: '-' :: (first :: name ++ ':' :: ([' '] ++ c :: others)))
        (declarationTokens (first :: name, token) ++ tokens)
    _ ↔ Tokens ('-' :: '-' :: first :: name ++ ':' :: ([' '] ++ c :: others)) _ :=
        tokens_space_iff (by simp) (by simp [isSpace]) rfl
    _ ↔ Tokens (':' :: ([' '] ++ c :: others)) _ :=
        tokens_custom_iff chars
    _ ↔ Tokens ([' '] ++ c :: others) _ := tokens_mark_iff (by simp)
    _ ↔ Tokens (c :: others) (token :: .mark ';' :: tokens) :=
        tokens_space_iff (by simp) (by simp [isSpace]) noSpace
    _ ↔ token.IsSound ∧ Tokens (';' :: preprocess ('\n' :: rest)) (.mark ';' :: tokens) := by
        rw [← shown, reads, closes]
    _ ↔ token.IsSound ∧ Tokens (preprocess ('\n' :: rest)) tokens :=
        and_congr_right fun _ => tokens_mark_iff (by simp)

/-- Declarations are read one by one. -/
theorem tokens_declarations_iff {written : List (Text × Text)} {read : List (Text × Token)}
    (custom : ∀ property ∈ written, IsCustomName property.1)
    (each : List.Forall₂ Declares written read) :
    Tokens (preprocess (written.flatMap declarationText ++ '\n' :: rest))
        (read.flatMap declarationTokens ++ tokens) ↔
      (∀ found ∈ read, found.2.IsSound) ∧ Tokens (preprocess ('\n' :: rest)) tokens := by
  induction each with
  | nil => simp
  | @cons property found written read here _ induction =>
      obtain ⟨name, value⟩ := property
      obtain ⟨name, token⟩ := found
      obtain ⟨rfl, reads⟩ := here
      rw [List.forall_mem_cons] at custom
      obtain ⟨more, lineEnds⟩ : ∃ more, written.flatMap declarationText ++ '\n' :: rest =
          '\n' :: more := by
        cases written with
        | nil => exact ⟨_, rfl⟩
        | cons property written => exact ⟨_, rfl⟩
      rw [List.flatMap_cons, List.flatMap_cons, List.append_assoc, List.append_assoc,
        List.forall_mem_cons, lineEnds, tokens_declaration_iff custom.1 reads, ← lineEnds,
        induction custom.2, and_assoc]

/-- The text of a `:root` block with some declarations. -/
def rootText (properties : List (Text × Text)) : Text :=
  [':', 'r', 'o', 'o', 't', ' ', '\x7b'] ++ properties.flatMap declarationText ++ ['\n', '\x7d']

theorem tokens_rootBlock_iff {written : List (Text × Text)} {read : List (Text × Token)}
    (custom : ∀ property ∈ written, IsCustomName property.1)
    (each : List.Forall₂ Declares written read) :
    Tokens (preprocess (rootText written ++ rest)) (rootBlock read ++ tokens) ↔
      (∀ found ∈ read, found.2.IsSound) ∧ Tokens (preprocess rest) tokens := by
  let inside := preprocess (written.flatMap declarationText ++ '\n' :: '\x7d' :: rest)
  have opened : preprocess (rootText written ++ rest) =
      ':' :: 'r' :: 'o' :: 'o' :: 't' :: ([' '] ++ '\x7b' :: inside) := by
    have whole : rootText written ++ rest = [':', 'r', 'o', 'o', 't', ' ', '\x7b'] ++
        (written.flatMap declarationText ++ '\n' :: '\x7d' :: rest) := by
      simp [rootText]
    rw [whole, preprocess_append (by simp [readAs])]
    rfl
  have closed : preprocess ('\n' :: '\x7d' :: rest) = ['\n'] ++ '\x7d' :: preprocess rest := by
    rw [preprocess_cons (.inl (by decide)), preprocess_cons (.inl (by decide))]
    rfl
  have name : tokenAt 'r' ('o' :: 'o' :: 't' :: ([' '] ++ '\x7b' :: inside)) =
      (.name "root", [' '] ++ '\x7b' :: inside) := rfl
  let behind := read.flatMap declarationTokens ++ .whitespace :: .mark '\x7d' :: tokens
  have block : rootBlock read ++ tokens =
      .mark ':' :: .name "root" :: .whitespace :: .mark '\x7b' :: behind := by
    simp [rootBlock, behind]
  rw [opened, block]
  calc Tokens (':' :: 'r' :: 'o' :: 'o' :: 't' :: ([' '] ++ '\x7b' :: inside)) _
    _ ↔ Tokens ('r' :: 'o' :: 'o' :: 't' :: ([' '] ++ '\x7b' :: inside)) _ :=
        tokens_mark_iff (by simp)
    _ ↔ Tokens ([' '] ++ '\x7b' :: inside) (.whitespace :: .mark '\x7b' :: behind) := by
        rw [tokens_cons_iff (by decide) name]
        exact and_iff_right rfl
    _ ↔ Tokens ('\x7b' :: inside) _ := tokens_space_iff (by simp) (by simp [isSpace]) rfl
    _ ↔ Tokens inside behind := tokens_mark_iff (by simp)
    _ ↔ (∀ found ∈ read, found.2.IsSound) ∧
          Tokens (['\n'] ++ '\x7d' :: preprocess rest) (.whitespace :: .mark '\x7d' :: tokens) := by
        rw [tokens_declarations_iff custom each, closed]
    _ ↔ (∀ found ∈ read, found.2.IsSound) ∧ Tokens (preprocess rest) tokens :=
        and_congr_right fun _ => (tokens_space_iff (by simp) (by simp [isSpace]) rfl).trans
          (tokens_mark_iff (by simp))

/-! ## Values -/

theorem readsAs_colour (valid : Config.isColour value) : ReadsAs value (.hash value.tail) := by
  unfold Config.isColour at valid
  split at valid
  · next digits =>
      rw [Bool.and_eq_true, List.all_eq_true] at valid
      obtain ⟨length, hex⟩ := valid
      have any : digits ≠ [] := by
        rintro rfl
        nomatch length
      have kept : ∀ c ∈ '#' :: digits, readAs c = c :=
        List.forall_mem_cons.mpr ⟨rfl, fun c member =>
          readAs_of_isNameChar (isNameChar_of_isHexDigit (hex c member))⟩
      refine ⟨⟨'#', digits, rfl, .inl rfl⟩, fun rest tokens => ?_⟩
      rw [preprocess_append kept, preprocess_cons (.inl (by decide))]
      exact (tokens_hash_iff any hex).trans (and_iff_right trivial).symm
  · nomatch valid

theorem readsAs_string : ReadsAs (Theme.inQuotes value) (.string value) := by
  refine ⟨⟨'\x22', value ++ ['\x22'], rfl, .inr rfl⟩, fun rest tokens => ?_⟩
  have ends : preprocess (';' :: '\n' :: rest) = ';' :: '\n' :: preprocess rest := by
    rw [preprocess_cons (.inl (by decide)), preprocess_cons (.inl (by decide))]
    rfl
  have whole : preprocess (Theme.inQuotes value ++ ';' :: '\n' :: rest) =
      '\x22' :: (preprocess value ++ closing (preprocess rest)) := by
    have apart : Theme.inQuotes value ++ ';' :: '\n' :: rest =
        '\x22' :: (value ++ '\x22' :: ';' :: '\n' :: rest) := by
      simp [Theme.inQuotes]
    rw [apart, preprocess_cons (.inl (by decide)), preprocess_append_cons (by decide),
      preprocess_cons (.inl (by decide)), ends]
    rfl
  rw [whole, ends]
  exact tokens_string_iff

end Css

/-! ## Themes -/

namespace Theme

open Css

/-- The tokens of the values of the custom properties: a colour is the hash sign with its digits, a
font one string. -/
def propertyTokens (theme : Theme) : List (Text × Token) :=
  [("background".toList, .hash theme.background.tail),
    ("foreground".toList, .hash theme.foreground.tail),
    ("primary".toList, .hash theme.primary.tail), ("secondary".toList, .hash theme.secondary.tail),
    ("tertiary".toList, .hash theme.tertiary.tail),
    ("light-background".toList, .hash theme.lightBackground.tail),
    ("dark-background".toList, .hash theme.darkBackground.tail),
    ("font-heading".toList, .string theme.headingFont),
    ("font-body".toList, .string theme.bodyFont)]

variable {theme : Theme} {rest : Text} {tokens : List Token}

/-- The declaration of a custom property. -/
def declared (property : Text × Text) : Html.Declaration :=
  ⟨'-' :: '-' :: property.1, property.2⟩

theorem cons_flatMap_declared (properties : List (Text × Text)) :
    '\n' :: (properties.map declared).flatMap
        (fun declaration => "  ".toList ++ declaration.write ++ ['\n']) =
      properties.flatMap declarationText ++ ['\n'] := by
  induction properties with
  | nil => rfl
  | cons property properties induction =>
      rw [List.flatMap_cons, List.append_assoc, ← induction]
      simp [declarationText, declared, Html.Declaration.write]

theorem customProperties_eq (theme : Theme) :
    theme.customProperties = rootText theme.properties ++ ['\n'] := by
  have rule : theme.variablesRule = ⟨.onLines, ":root", theme.properties.map declared⟩ := rfl
  have written : theme.customProperties = [':', 'r', 'o', 'o', 't', ' ', '\x7b'] ++
      ('\n' :: (theme.properties.map declared).flatMap
        (fun declaration => "  ".toList ++ declaration.write ++ ['\n'])) ++ ['\x7d', '\n'] := by
    simp [customProperties, rule, Html.Rule.write]
  rw [written, cons_flatMap_declared]
  simp [rootText]

theorem colours_of_valid (valid : Config.themeDefect? theme = none) :
    Config.isColour theme.background ∧ Config.isColour theme.foreground ∧
      Config.isColour theme.primary ∧ Config.isColour theme.secondary ∧
      Config.isColour theme.tertiary ∧ Config.isColour theme.lightBackground ∧
      Config.isColour theme.darkBackground := by
  have colour {setting value : Text} (fine : Config.colourDefect? setting value = none) :
      Config.isColour value := by
    unfold Config.colourDefect? Config.defectUnless at fine
    split at fine
    · assumption
    · nomatch fine
  simp only [Config.themeDefect?, Option.orElse_eq_none] at valid
  obtain ⟨a, b, c, d, e, f, g, -⟩ := valid
  exact ⟨colour a, colour b, colour c, colour d, colour e, colour f, colour g⟩

theorem isCustomName_of_mem : ∀ property ∈ theme.properties, IsCustomName property.1 := by
  have names : theme.properties.map Prod.fst = default.properties.map Prod.fst := rfl
  have each : (default.properties.map Prod.fst).all
      fun name => !name.isEmpty && name.all isNameChar := by decide +kernel
  rw [← names, List.all_map, List.all_eq_true] at each
  intro property member
  simpa [IsCustomName] using each property member

theorem declares_properties (valid : Config.themeDefect? theme = none) :
    List.Forall₂ Declares theme.properties theme.propertyTokens := by
  obtain ⟨background, foreground, primary, secondary, tertiary, light, dark⟩ :=
    colours_of_valid valid
  simp only [properties, propertyTokens, List.forall₂_cons, List.forall₂_nil_left_iff, Declares,
    true_and, and_true]
  exact ⟨readsAs_colour background, readsAs_colour foreground, readsAs_colour primary,
    readsAs_colour secondary, readsAs_colour tertiary, readsAs_colour light, readsAs_colour dark,
    readsAs_string, readsAs_string⟩

theorem tokens_customProperties_iff (valid : Config.themeDefect? theme = none) :
    ConsistsOf (theme.customProperties ++ rest) (rootBlock theme.propertyTokens ++ tokens) ↔
      (IsPlain theme.headingFont ∧ IsPlain theme.bodyFont) ∧ ConsistsOf ('\n' :: rest) tokens := by
  have sound : (∀ found ∈ theme.propertyTokens, found.2.IsSound) ↔
      IsPlain theme.headingFont ∧ IsPlain theme.bodyFont := by
    simp [propertyTokens, Token.IsSound]
  rw [ConsistsOf, customProperties_eq, List.append_assoc,
    tokens_rootBlock_iff theme.isCustomName_of_mem (declares_properties valid), sound]
  rfl

/-- The custom properties by themselves are the block if the fonts are plain. -/
theorem consistsOf_customProperties_iff (valid : Config.themeDefect? theme = none) :
    ConsistsOf theme.customProperties (rootBlock theme.propertyTokens ++ [.whitespace]) ↔
      IsPlain theme.headingFont ∧ IsPlain theme.bodyFont := by
  have lastBreak : ConsistsOf ['\n'] [.whitespace] :=
    (tokens_cons_iff (show '\n' ≠ '/' by decide) rfl).mpr ⟨rfl, .nil⟩
  have whole : ConsistsOf (theme.customProperties ++ [])
      (rootBlock theme.propertyTokens ++ [.whitespace]) ↔ _ :=
    tokens_customProperties_iff valid
  rw [List.append_nil] at whole
  exact whole.trans (and_iff_left lastBreak)

/-! ## Style elements -/

/-- Whether a text holds the end tag of a style element, in letters of either case. -/
def closesStyle (text : Text) : Bool :=
  Text.contains "</style".toList (text.map Text.asciiLower)

theorem asciiLower_eq_bracket_iff {c : Char} : Text.asciiLower c = '<' ↔ c = '<' := by
  unfold Text.asciiLower
  split
  · next upper =>
      simp only [Bool.and_eq_true, decide_eq_true_eq, Char.le_def, UInt32.le_iff_toNat_le] at upper
      have low : 65 ≤ c.toNat := upper.1
      have high : c.toNat ≤ 90 := upper.2
      have letters : ∀ n : Fin 26, Char.ofNat (n + 65 + 32) ≠ '<' := by decide
      have lower := letters ⟨c.toNat - 65, by omega⟩
      rw [Nat.sub_add_cancel low] at lower
      exact iff_of_false lower (by rintro rfl; exact absurd low (by decide))
  · rfl

theorem closesStyle_append {left : Text} (absent : '<' ∉ left) (right : Text) :
    closesStyle (left ++ right) = closesStyle right := by
  have lowered : '<' ∉ left.map Text.asciiLower := by
    simpa [asciiLower_eq_bracket_iff] using absent
  have nowhere := Text.beginsIn_of_not_mem lowered "/style".toList (right.map Text.asciiLower)
  rw [closesStyle, List.map_append, Text.contains_append]
  exact (congrArg (· || closesStyle right) nowhere).trans (Bool.false_or _)

/-- The end tag lies on one side of a character that it does not hold. -/
theorem closesStyle_append_cons {stop : Char} (apart : stop = '\x22' ∨ stop = ';')
    (left right : Text) :
    closesStyle (left ++ stop :: right) = (closesStyle left || closesStyle right) := by
  rw [closesStyle, List.map_append, List.map_cons]
  refine Text.contains_append_cons (by decide +kernel) ?_ _ _
  rcases apart with rfl | rfl <;> decide +kernel

@[simp] theorem closesStyle_nil : closesStyle [] = false := by
  decide +kernel

theorem closesStyle_inQuotes (value : Text) : closesStyle (inQuotes value) = closesStyle value := by
  have whole : inQuotes value = ['\x22'] ++ (value ++ '\x22' :: []) := rfl
  rw [whole, closesStyle_append (by simp), closesStyle_append_cons (.inl rfl), closesStyle_nil,
    Bool.or_false]

theorem closesStyle_of_isColour {value : Text} (valid : Config.isColour value) :
    closesStyle value = false := by
  have absent : '<' ∉ value := by
    unfold Config.isColour at valid
    split at valid
    · rw [Bool.and_eq_true, List.all_eq_true] at valid
      intro member
      rcases List.mem_cons.mp member with same | member
      · nomatch same
      · nomatch valid.2 _ member
    · nomatch valid
  rw [← List.append_nil value, closesStyle_append absent, closesStyle_nil]

theorem closesStyle_declarations {written : List (Text × Text)}
    (custom : ∀ property ∈ written, IsCustomName property.1) (rest : Text) :
    closesStyle (written.flatMap declarationText ++ rest) =
      (written.any (closesStyle ·.2) || closesStyle rest) := by
  induction written with
  | nil => rfl
  | cons property written induction =>
      rw [List.forall_mem_cons] at custom
      have absent : '<' ∉ ['\n', ' ', ' ', '-', '-'] ++ property.1 ++ [':', ' '] := by
        have inName : '<' ∉ property.1 := fun member => nomatch custom.1.2 _ member
        simp [inName]
      have whole : (property :: written).flatMap declarationText ++ rest =
          (['\n', ' ', ' ', '-', '-'] ++ property.1 ++ [':', ' ']) ++
            (property.2 ++ ';' :: (written.flatMap declarationText ++ rest)) := by
        simp [declarationText]
      rw [whole, closesStyle_append absent, closesStyle_append_cons (.inr rfl),
        induction custom.2, List.any_cons, Bool.or_assoc]

/-- A style element that begins with the custom properties of a theme ends in them just if the name
of a font ends it. -/
theorem closesStyle_customProperties (valid : Config.themeDefect? theme = none) (rest : Text) :
    closesStyle (theme.customProperties ++ rest) =
      (closesStyle theme.headingFont || closesStyle theme.bodyFont || closesStyle rest) := by
  obtain ⟨background, foreground, primary, secondary, tertiary, light, dark⟩ :=
    colours_of_valid valid
  have behind : closesStyle ('\n' :: '\x7d' :: '\n' :: rest) = closesStyle rest :=
    closesStyle_append (show '<' ∉ ['\n', '\x7d', '\n'] by decide) rest
  have whole : theme.customProperties ++ rest = [':', 'r', 'o', 'o', 't', ' ', '\x7b'] ++
      (theme.properties.flatMap declarationText ++ '\n' :: '\x7d' :: '\n' :: rest) := by
    rw [customProperties_eq, rootText]
    simp
  rw [whole, closesStyle_append (by simp), closesStyle_declarations theme.isCustomName_of_mem,
    behind]
  simp [properties, closesStyle_inQuotes, closesStyle_of_isColour, *]

theorem bracket_not_mem_layout : '<' ∉ '\n' :: Html.Rule.writeAll layoutRules := by
  decide +kernel

/-- The rules behind the custom properties are those of the layout and those for code. -/
theorem stylesheet_eq (theme : Theme) (codeRules : Text) :
    theme.stylesheet codeRules =
      theme.customProperties ++ ('\n' :: Html.Rule.writeAll layoutRules ++ codeRules) :=
  List.append_assoc _ _ _

/-- The end tag of a style element stands in a stylesheet just if it stands in a font or in the
rules for code. -/
theorem closesStyle_stylesheet (valid : Config.themeDefect? theme = none) (codeRules : Text) :
    closesStyle (theme.stylesheet codeRules) =
      (closesStyle theme.headingFont || closesStyle theme.bodyFont || closesStyle codeRules) := by
  rw [stylesheet_eq, closesStyle_customProperties valid,
    closesStyle_append bracket_not_mem_layout]

theorem themeDefect?_of_defect? {config : Config} (valid : config.defect? = none) :
    Config.themeDefect? config.theme = none := by
  simp only [Config.defect?, Option.orElse_eq_none] at valid
  exact valid.2.2.2.2.2.2.2.1

/-- For a configuration that is in order, the custom properties are one `:root` block that declares
nine of them, the seven colours with one token each and the two fonts as one string each, just if
both fonts are plain, and are then nothing else; and they hold the end tag of a style element just
if a font does. The stylesheet of its viewer begins with this block under the same condition, and
the rules of the layout and those for code are then read as they would be by themselves. A style
element with the stylesheet in it ends in there just if a font or the rules for code end it. -/
theorem root_block_is_closed_iff (config : Config) (valid : config.defect? = none) :
    let theme := config.viewerSettings.theme
    let fonts := [theme.headingFont, theme.bodyFont]
    (ConsistsOf theme.customProperties (rootBlock theme.propertyTokens ++ [.whitespace]) ↔
      ∀ font ∈ fonts, IsPlain font) ∧
    ((∀ font ∈ fonts, IsPlain font) → ∀ tokens, ConsistsOf theme.customProperties tokens →
      tokens = rootBlock theme.propertyTokens ++ [.whitespace]) ∧
    (closesStyle theme.customProperties ↔ ∃ font ∈ fonts, closesStyle font) ∧
    ∀ (tools : Document.Tools) (viewer : Viewer), config.viewer tools = .ok viewer →
      ∃ codeRules, tools.codeRules config.codeTheme = .ok codeRules ∧
        (∀ tokens, ConsistsOf viewer.stylesheet (rootBlock theme.propertyTokens ++ tokens) ↔
          (∀ font ∈ fonts, IsPlain font) ∧
            ConsistsOf (['\n', '\n'] ++ Html.Rule.writeAll layoutRules ++ codeRules) tokens) ∧
        (closesStyle viewer.stylesheet ↔
          (∃ font ∈ fonts, closesStyle font) ∨ closesStyle codeRules) := by
  intro theme fonts
  have themeValid : Config.themeDefect? theme = none := themeDefect?_of_defect? valid
  have plain : (∀ font ∈ fonts, IsPlain font) ↔
      IsPlain theme.headingFont ∧ IsPlain theme.bodyFont := by
    simp [fonts]
  have closes : (∃ font ∈ fonts, closesStyle font) ↔
      (closesStyle theme.headingFont || closesStyle theme.bodyFont) := by
    simp [fonts]
  rw [plain, closes]
  have alone := consistsOf_customProperties_iff themeValid
  refine ⟨alone, fun plain tokens consists => consists.unique (alone.mpr plain), ?inMarkup,
    fun tools viewer made => ?served⟩
  case inMarkup =>
    have whole := closesStyle_customProperties themeValid []
    rw [List.append_nil, closesStyle_nil, Bool.or_false] at whole
    rw [whole]
  case served =>
    obtain ⟨-, codeRules, written, rfl⟩ := Viewer.of_eq_ok_iff.mp made
    refine ⟨codeRules, written, fun tokens => ?_, ?_⟩
    · show ConsistsOf (theme.stylesheet codeRules) _ ↔ _
      rw [stylesheet_eq]
      exact tokens_customProperties_iff themeValid
    · have whole := closesStyle_stylesheet themeValid codeRules
      show closesStyle (theme.stylesheet codeRules) ↔ _
      rw [whole, Bool.or_eq_true]

/-- A font whose name ends the string and the block, and one whose name ends a style element. -/
theorem root_block_is_closed_iff_two_fonts :
    let theme := { Theme.default with headingFont := "A\"; \x7d * \x7b", bodyFont := "</STYLE><b>" }
    let config := { Config.default with theme }
    let tools := { Document.Tools.standard with codeRules := fun _ => .ok ".hl-code \x7b\x7d" }
    config.defect? = none ∧ Config.default.defect? = none ∧
      ConsistsOf Theme.default.customProperties
        (rootBlock Theme.default.propertyTokens ++ [.whitespace]) ∧
      ¬ConsistsOf theme.customProperties (rootBlock theme.propertyTokens ++ [.whitespace]) ∧
      (∃ viewer, Config.default.viewer tools = .ok viewer ∧ ¬closesStyle viewer.stylesheet) ∧
      ∃ viewer, config.viewer tools = .ok viewer ∧ closesStyle viewer.stylesheet := by
  intro theme config tools
  have valid : config.defect? = none := by decide +kernel
  obtain ⟨block, -, -, served⟩ := root_block_is_closed_iff config valid
  obtain ⟨plainBlock, -, -, plainServed⟩ :=
    root_block_is_closed_iff Config.default Config.defect?_default
  have made (config : Config) (known : config.codeTheme ∈ Code.themeNames) :
      ∃ viewer, config.viewer tools = .ok viewer :=
    ⟨_, Viewer.of_eq_ok_iff.mpr ⟨known, _, rfl, rfl⟩⟩
  have noEnd : closesStyle ".hl-code \x7b\x7d" = false := by decide +kernel
  refine ⟨valid, Config.defect?_default, ?_, ?_, ?_, ?_⟩
  · exact plainBlock.mpr (by decide +kernel)
  · exact mt block.mp (by decide +kernel)
  · obtain ⟨viewer, isMade⟩ := made Config.default (by decide +kernel)
    obtain ⟨codeRules, written, -, closes⟩ := plainServed tools viewer isMade
    obtain rfl := Except.ok.inj written
    refine ⟨viewer, isMade, mt closes.mp ?_⟩
    rw [noEnd]
    decide +kernel
  · obtain ⟨viewer, isMade⟩ := made config (by decide +kernel)
    obtain ⟨codeRules, -, -, closes⟩ := served tools viewer isMade
    exact ⟨viewer, isMade, closes.mpr (.inl (by decide +kernel))⟩

end Theme

end DocSite
