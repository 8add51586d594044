import Mathlib.Data.List.Find
import DocSite.Proofs.Config.References

/-!
# Templates

A template is a text in which every dollar sign begins a closed reference in braces. It stands for
the text with the value of each variable in the place of its references, or else with the text that
a reference has for this case. Expanding a template gives what it stands for, or names a variable
that is missing; a value that reads like a reference can make a variable count as missing for which
there is a text.
-/

namespace DocSite.Config

/-! ## References -/

/-- A reference to a variable in braces. -/
structure Reference where
  /-- The name of the variable. -/
  name : Text
  /-- The text in its place if there is no such variable. -/
  default? : Option Text
  /-- There is a name. -/
  name_ne_nil : name ≠ [] := by decide
  /-- No other reference begins in the name. -/
  dollar_not_mem_name : '$' ∉ name := by decide
  /-- The braces are not closed in the name. -/
  brace_not_mem_name : '\x7d' ∉ name := by decide
  /-- The text in the place of the variable does not begin in the name. -/
  mark_not_infix_name : ¬[':', '-'] <:+: name := by decide
  /-- No other reference begins in the text, and the braces are not closed in it. -/
  default_whole : ∀ text ∈ default?, '$' ∉ text ∧ '\x7d' ∉ text := by decide

namespace Reference

variable (reference : Reference)

/-- What stands in the braces. -/
def content : Text :=
  match reference.default? with
  | none => reference.name
  | some text => reference.name ++ ':' :: '-' :: text

/-- What a reference stands for, if there is such a variable or a text in its place. -/
def meaning? (environment : Environment) : Option Text :=
  (environment reference.name).or reference.default?

theorem brace_not_mem_content : '\x7d' ∉ reference.content := by
  rw [content]
  split
  · exact reference.brace_not_mem_name
  · rename_i text given
    have whole := (reference.default_whole text given).2
    simp [reference.brace_not_mem_name, whole]

end Reference

namespace Piece

theorem source_braced (content : Text) :
    (braced content).source = '$' :: '\x7b' :: (content ++ ['\x7d']) :=
  rfl

theorem cutDefault_cons {c : Char} {rest : Text} (other : ¬[':', '-'] <+: c :: rest) :
    cutDefault (c :: rest) = (cutDefault rest).map fun (name, text) => (c :: name, text) := by
  refine cutDefault.eq_3 c rest fun behind isColon isHyphen => other ?_
  rw [isColon, isHyphen]
  exact ⟨behind, rfl⟩

theorem cutDefault_eq_none {name : Text} (whole : ¬[':', '-'] <:+: name) :
    cutDefault name = none := by
  induction name with
  | nil => rfl
  | cons c rest induction =>
      rw [List.infix_cons_iff, not_or] at whole
      rw [cutDefault_cons whole.1, induction whole.2, Option.map_none]

theorem cutDefault_append {name : Text} (whole : ¬[':', '-'] <:+: name) (text : Text) :
    cutDefault (name ++ ':' :: '-' :: text) = some (name, text) := by
  induction name with
  | nil => rfl
  | cons c rest induction =>
      rw [List.infix_cons_iff, not_or] at whole
      -- A colon at the end of the name is followed by another one.
      have other : ¬[':', '-'] <+: c :: (rest ++ ':' :: '-' :: text) := by
        intro begins
        refine whole.1 ?_
        rw [List.cons_prefix_cons] at begins ⊢
        refine ⟨begins.1, ?_⟩
        cases rest with
        | nil => simp at begins
        | cons d rest =>
            rw [List.cons_append, List.cons_prefix_cons] at begins
            exact List.cons_prefix_cons.mpr ⟨begins.2.1, List.nil_prefix⟩
      rw [List.cons_append, cutDefault_cons other, induction whole.2, Option.map_some]

end Piece

theorem Reference.reference_content (reference : Reference) :
    Piece.reference reference.content = (reference.name, reference.default?) := by
  obtain ⟨name, default?, name_ne_nil, -, -, whole, -⟩ := reference
  cases default? with
  | none =>
      rw [content, Piece.reference, Piece.cutDefault_eq_none whole]
  | some text =>
      obtain ⟨c, rest, rfl⟩ := List.exists_cons_of_ne_nil name_ne_nil
      rw [content, Piece.reference]
      dsimp only
      rw [Piece.cutDefault_append whole]

/-! ## Parts -/

/-- A part of a template. -/
inductive Part
  /-- A character other than the dollar sign. -/
  | plain (c : Char) (other : c ≠ '$')
  /-- A reference to a variable. -/
  | braced (reference : Reference)

namespace Part

/-- The piece that a part is. -/
def piece : Part → Piece
  | plain c _ => .plain c
  | braced reference => .braced reference.content

/-- What a part stands for, if it stands for anything. -/
def meaning? (environment : Environment) : Part → Option Text
  | plain c _ => some [c]
  | braced reference => reference.meaning? environment

/-- What is written for a part: a part that stands for nothing is kept. -/
def text (environment : Environment) (part : Part) : Text :=
  (part.meaning? environment).getD part.piece.source

/-- The value that is put in the place of a part. -/
def inserted? (environment : Environment) : Part → Option Text
  | plain _ _ => none
  | braced reference => environment reference.name

/-- The name of the variable that a part refers to, if there is no such variable. -/
def unset? (environment : Environment) : Part → Option Text
  | plain _ _ => none
  | braced reference => if (environment reference.name).isNone then some reference.name else none

/-- The name of the variable for want of which a part stands for nothing. -/
def missing? (environment : Environment) : Part → Option Text
  | plain _ _ => none
  | braced reference =>
    if (reference.meaning? environment).isNone then some reference.name else none

theorem value_piece (environment : Environment) (part : Part) :
    part.piece.value environment = part.text environment := by
  cases part with
  | plain c other => rfl
  | braced reference =>
      rw [piece, Piece.value, reference.reference_content, text, meaning?, Reference.meaning?]
      dsimp only
      cases environment reference.name with
      | none => rw [Option.none_or, piece, Option.getD_none]
      | some value => rfl

theorem missing?_piece (environment : Environment) (part : Part) :
    part.piece.missing? environment = part.unset? environment := by
  cases part with
  | plain c other => rfl
  | braced reference =>
      rw [piece, Piece.missing?, Piece.name?, reference.reference_content, unset?]
      rfl

theorem unset?_of_missing? {environment : Environment} {part : Part} {name : Text}
    (missing : part.missing? environment = some name) : part.unset? environment = some name := by
  cases part with
  | plain c other => nomatch missing
  | braced reference =>
      rw [missing?, Reference.meaning?] at missing
      rw [unset?]
      cases given : environment reference.name with
      | none =>
          rw [given] at missing
          split at missing
          · exact missing
          · nomatch missing
      | some value =>
          rw [given] at missing
          nomatch missing

end Part

/-! ## Templates -/

/-- A text in which every dollar sign begins a reference in braces. -/
abbrev Template := List Part

namespace Template

/-- A template as it is written. -/
def source (template : Template) : Text :=
  template.flatMap fun part => part.piece.source

/-- What a template stands for, if each of its parts stands for something. -/
def meaning? (environment : Environment) (template : Template) : Option Text :=
  (template.mapM (Part.meaning? environment)).map List.flatten

/-- What is written for a template. -/
def text (environment : Environment) (template : Template) : Text :=
  template.flatMap (Part.text environment)

/-- The names of all missing variables to which a template refers. -/
def unset (environment : Environment) (template : Template) : List Text :=
  template.filterMap (Part.unset? environment)

/-- The names of the missing variables to which a template refers without a text in their place. -/
def missing (environment : Environment) (template : Template) : List Text :=
  template.filterMap (Part.missing? environment)

/-- Whether a reference to a variable begins in one of the values that are put into a template. -/
def spells (environment : Environment) (name : Text) : Template → Bool
  | [] => false
  | part :: template =>
    (part.inserted? environment).any
        (Text.beginsIn (Piece.braced name).source (text environment template)) ||
      spells environment name template

/-- Whether a variable is named in what is written for a template, by a reference that stands for
nothing or in a value. -/
def isNamed (environment : Environment) (template : Template) (name : Text) : Bool :=
  (template.missing environment).contains name || template.spells environment name

variable (environment : Environment) (template : Template)

/-! ### Reading a template -/

theorem readAs_source : ReadAs template.source (template.map Part.piece) := by
  induction template with
  | nil => exact .nil
  | cons part template induction =>
      cases part with
      | plain c other => exact .plain other induction
      | braced reference =>
          have read := ReadAs.braced reference.brace_not_mem_content induction
          simpa [source, Part.piece, Piece.source] using read

/-! ### What is named -/

theorem beginsIn_source {reference : Reference} (given : reference.default? = none)
    {name : Text} (whole : '\x7d' ∉ name) (rest : Text) :
    Text.beginsIn (Piece.braced name).source rest (Piece.braced reference.content).source =
      decide (reference.name = name) := by
  have content : reference.content = reference.name := by rw [Reference.content, given]
  have behind : '$' ∉ '\x7b' :: (reference.name ++ ['\x7d']) := by
    simp [reference.dollar_not_mem_name]
  rw [content, Piece.source_braced, Piece.source_braced, Text.beginsIn,
    Text.beginsIn_of_not_mem behind, Bool.or_false]
  simp only [List.cons_append, List.append_assoc, List.nil_append, Text.startsWith_cons_cons,
    beq_self_eq_true, Bool.true_and]
  exact Text.startsWith_closed reference.brace_not_mem_name whole rest

theorem beginsIn_text (part : Part) {name : Text} (whole : '\x7d' ∉ name) (rest : Text) :
    Text.beginsIn (Piece.braced name).source rest (part.text environment) =
      (part.missing? environment == some name ||
        (part.inserted? environment).any (Text.beginsIn (Piece.braced name).source rest)) := by
  cases part with
  | plain c other =>
      have absent : '$' ∉ [c] := fun member => other (List.mem_singleton.mp member).symm
      exact Text.beginsIn_of_not_mem absent _ rest
  | braced reference =>
      rw [Part.text, Part.missing?, Part.inserted?, Part.meaning?, Reference.meaning?]
      cases environment reference.name with
      | some value => rfl
      | none =>
          cases given : reference.default? with
          | some text =>
              have absent := (reference.default_whole text given).1
              exact Text.beginsIn_of_not_mem absent _ rest
          | none =>
              rw [Option.or_none, Option.getD_none, Part.piece, beginsIn_source given whole,
                Option.isNone_none, if_pos rfl, Option.some_beq_some, beq_eq_decide]
              exact (Bool.or_false _).symm

theorem contains_missing_cons (part : Part) (name : Text) :
    (missing environment (part :: template)).contains name =
      (part.missing? environment == some name || (missing environment template).contains name) := by
  rw [missing, missing, List.filterMap_cons]
  cases part.missing? environment with
  | none => rfl
  | some other => rw [List.contains_cons, Option.some_beq_some, BEq.comm]

/-- What is written for a template refers to a variable if a reference to it stands for nothing or
if one begins in a value. -/
theorem contains_text {name : Text} (whole : '\x7d' ∉ name) :
    Text.contains (Piece.braced name).source (template.text environment) =
      template.isNamed environment name := by
  induction template with
  | nil => rfl
  | cons part template induction =>
      rw [text, List.flatMap_cons, Text.contains_append, ← text, induction,
        beginsIn_text environment part whole, isNamed, isNamed, contains_missing_cons, spells]
      ac_rfl

/-! ### Expanding a template -/

theorem brace_not_mem_of_mem_unset {name : Text} (member : name ∈ template.unset environment) :
    '\x7d' ∉ name := by
  obtain ⟨part, -, isUnset⟩ := List.mem_filterMap.mp member
  cases part with
  | plain c other => nomatch isUnset
  | braced reference =>
      rw [Part.unset?] at isUnset
      split at isUnset
      · exact Option.some.inj isUnset ▸ reference.brace_not_mem_name
      · nomatch isUnset

theorem exists_plain {template : Template} (has : ¬hasReference template.source = true) :
    ∀ part ∈ template, ∃ c other, part = .plain c other := by
  intro part member
  cases part with
  | plain c other => exact ⟨c, other, rfl⟩
  | braced reference =>
      refine absurd ((hasReference_iff _).mpr ?_) has
      have begins : ['$', '\x7b'] <:+: (Part.braced reference).piece.source :=
        List.IsPrefix.isInfix ⟨_, rfl⟩
      rw [source, List.flatMap_def]
      exact begins.trans (List.infix_of_mem_flatten (List.mem_map_of_mem member))

theorem expand_source :
    expand environment template.source =
      match (template.unset environment).find? (template.isNamed environment) with
      | some name => .error name
      | none => .ok (template.text environment) := by
  rw [expand]
  by_cases has : hasReference template.source = true
  · have text_eq : (template.map Part.piece).flatMap (Piece.value environment) =
        template.text environment := by
      rw [List.flatMap_map]
      exact List.flatMap_congr fun part _ => part.value_piece environment
    have unset_eq : (template.map Part.piece).filterMap (Piece.missing? environment) =
        template.unset environment := by
      rw [List.filterMap_map]
      exact List.filterMap_congr fun part _ => part.missing?_piece environment
    rw [if_pos has, (readAs_source template).split_eq]
    dsimp only
    rewrite [text_eq, unset_eq, List.find?_congr fun name member =>
      contains_text environment template (brace_not_mem_of_mem_unset environment template member)]
    rfl
  · have plain := exists_plain has
    have unset_eq : template.unset environment = [] := by
      refine List.filterMap_eq_nil_iff.mpr fun part member => ?_
      obtain ⟨c, other, rfl⟩ := plain part member
      rfl
    have text_eq : template.text environment = template.source := by
      refine List.flatMap_congr fun part member => ?_
      obtain ⟨c, other, rfl⟩ := plain part member
      rfl
    rw [if_neg has, unset_eq, text_eq]
    rfl

/-! ### What a template stands for -/

theorem isSome_missing? (part : Part) :
    (part.missing? environment).isSome = (part.meaning? environment).isNone := by
  cases part with
  | plain c other => rfl
  | braced reference =>
      rw [Part.missing?, Part.meaning?]
      cases reference.meaning? environment <;> rfl

theorem meaning?_eq :
    template.meaning? environment =
      if template.missing environment = [] then some (template.text environment) else none := by
  induction template with
  | nil => rfl
  | cons part template induction =>
      have next : meaning? environment (part :: template) =
          (part.meaning? environment).bind fun first =>
            (meaning? environment template).map (first ++ ·) := by
        rw [meaning?, meaning?, List.mapM_cons]
        cases part.meaning? environment <;> cases template.mapM (Part.meaning? environment) <;> rfl
      have isMissing := isSome_missing? environment part
      rw [next, induction, missing, missing, List.filterMap_cons, text, text, List.flatMap_cons,
        Part.text]
      cases means : part.meaning? environment with
      | none =>
          rw [means] at isMissing
          obtain ⟨name, found⟩ := Option.isSome_iff_exists.mp isMissing
          rw [found, if_neg (List.cons_ne_nil _ _)]
          rfl
      | some first =>
          rw [means] at isMissing
          have notMissing := Option.isNone_iff_eq_none.mp (Option.isSome_eq_false_iff.mp isMissing)
          rw [notMissing]
          split_ifs <;> rfl

theorem mem_unset_of_mem_missing {name : Text} (member : name ∈ template.missing environment) :
    name ∈ template.unset environment := by
  obtain ⟨part, inside, isMissing⟩ := List.mem_filterMap.mp member
  exact List.mem_filterMap.mpr ⟨part, inside, Part.unset?_of_missing? isMissing⟩

theorem isNamed_of_mem_missing {name : Text} (member : name ∈ template.missing environment) :
    template.isNamed environment name = true := by
  rw [isNamed, List.contains_iff_mem.mpr member, Bool.true_or]

theorem find?_isNamed_eq_none_iff :
    (template.unset environment).find? (template.isNamed environment) = none ↔
      template.missing environment = [] ∧
        ∀ name ∈ template.unset environment, template.spells environment name = false := by
  rw [List.find?_eq_none]
  constructor
  · intro unnamed
    refine ⟨List.eq_nil_iff_forall_not_mem.mpr fun name member => ?_, fun name member => ?_⟩
    · exact unnamed name (mem_unset_of_mem_missing environment template member)
        (isNamed_of_mem_missing environment template member)
    · have notNamed := Bool.eq_false_iff.mpr (unnamed name member)
      exact (Bool.or_eq_false_iff.mp notNamed).2
  · rintro ⟨complete, unspelled⟩ name member
    rw [isNamed, complete, unspelled name member]
    exact Bool.false_ne_true

/-- A template is expanded to what it stands for: the value of each variable, as it is, or else the
text in its place. This fails only if a part stands for nothing or a value refers to a variable that
is missing. -/
theorem expand_eq_ok_iff {expanded : Text} :
    expand environment template.source = .ok expanded ↔
      template.meaning? environment = some expanded ∧
        ∀ name ∈ template.unset environment, template.spells environment name = false := by
  rw [expand_source, meaning?_eq]
  cases named : (template.unset environment).find? (template.isNamed environment) with
  | none =>
      obtain ⟨complete, unspelled⟩ := (find?_isNamed_eq_none_iff environment template).mp named
      rw [if_pos complete, Except.ok.injEq, Option.some.injEq]
      exact ⟨fun same => ⟨same, unspelled⟩, And.left⟩
  | some name =>
      refine ⟨nofun, fun ⟨means, unspelled⟩ => ?_⟩
      have complete : template.missing environment = [] := by
        by_contra incomplete
        rw [if_neg incomplete] at means
        nomatch means
      rw [(find?_isNamed_eq_none_iff environment template).mpr ⟨complete, unspelled⟩] at named
      nomatch named

/-- The first member of a list with a property is a certain one that has it, if no member before
that one has the property. -/
theorem find?_eq_iff {α : Type} [BEq α] [LawfulBEq α] {list : List α} {p : α → Bool}
    {first? : Option α}
    (holds : ∀ first ∈ first?, first ∈ list ∧ p first = true) :
    list.find? p = first? ↔ ∀ x ∈ list.takeWhile (some · != first?), p x = false := by
  induction list with
  | nil =>
      cases first? with
      | none => simp
      | some first => nomatch (holds first rfl).1
  | cons x list induction =>
      by_cases same : some x = first?
      · have found := (holds x same.symm).2
        rw [List.find?_cons_of_pos found, List.takeWhile_cons_of_neg (by simp [same])]
        exact ⟨fun _ => nofun, fun _ => same⟩
      · have later : ∀ first ∈ first?, first ∈ list ∧ p first = true := by
          intro first isFirst
          obtain ⟨member, found⟩ := holds first isFirst
          refine ⟨(List.mem_cons.mp member).resolve_left ?_, found⟩
          rintro rfl
          exact same isFirst.symm
        rw [List.takeWhile_cons_of_pos (by simpa using same), List.forall_mem_cons]
        cases found : p x with
        | true =>
            rw [List.find?_cons_of_pos found]
            exact ⟨fun isFirst => absurd isFirst same, fun ⟨absurd, _⟩ => nomatch absurd⟩
        | false =>
            rw [List.find?_cons_of_neg (by simp [found]), induction later]
            exact ⟨fun rest => ⟨rfl, rest⟩, And.right⟩

/-- Expanding a template fails with the name of the first missing variable, whether there is a text
in its place or not, that is named in what is written for the template. This is the first variable
that is missing without a text in its place if and only if none of the missing variables before it
is named. -/
theorem expand_eq_error_iff :
    (∀ name, expand environment template.source = .error name ↔
      (template.unset environment).find? (template.isNamed environment) = some name) ∧
    ((∀ name, expand environment template.source = .error name ↔
        (template.missing environment).head? = some name) ↔
      ∀ name ∈ (template.unset environment).takeWhile
          (some · != (template.missing environment).head?),
        template.isNamed environment name = false) := by
  have fails : ∀ name, expand environment template.source = .error name ↔
      (template.unset environment).find? (template.isNamed environment) = some name := by
    intro name
    rw [expand_source]
    cases (template.unset environment).find? (template.isNamed environment) with
    | none => exact ⟨nofun, nofun⟩
    | some found => rw [Except.error.injEq, Option.some.injEq]
  refine ⟨fails, ?_⟩
  have first : ∀ name ∈ (template.missing environment).head?,
      name ∈ template.unset environment ∧ template.isNamed environment name = true := by
    intro name isFirst
    have member := List.mem_of_head? isFirst
    exact ⟨mem_unset_of_mem_missing environment template member,
      isNamed_of_mem_missing environment template member⟩
  rw [← find?_eq_iff first, Option.ext_iff]
  exact forall_congr' fun name => by rw [fails]

/-- A value that reads like a reference takes the text away from another reference. -/
example :
    let environment : Environment := fun name =>
      if name = "R".toList then some "$\x7bU\x7d".toList else none
    let template : Template := [.braced { name := ['R'], default? := none },
      .braced { name := ['U'], default? := some ['x'] }]
    template.source = "$\x7bR\x7d$\x7bU:-x\x7d".toList ∧
      template.meaning? environment = some "$\x7bU\x7dx".toList ∧
      expand environment template.source = .error "U".toList := by
  decide +kernel

end Template

end DocSite.Config
