import DocSite.Markdown.Bracket

/-!
# Reference definitions

A definition gives a label a destination and perhaps a title: `[label]: destination "title"`. It
may run over several lines as long as these go on as lines of a paragraph would.
-/

namespace DocSite.Markdown.Reference

/-- Whether a line, read up to this text, ends a definition before it. -/
def stops (containers : List Container) (inside : Bool) (text : Text) : Bool :=
  interrupts containers inside text || (underline? text).isSome

/-- Reads the start of a line that has to go on with a definition: its container marks and up to
four columns of white space. -/
def resume? (containers : List Container) (text : Text) : Option Margin :=
  let (resumed, margin) := Container.resumeAll containers (Margin.ofText text)
  let (missing, indented) := margin.skipColumns 4
  if missing != 0 && stops containers (resumed == containers.length) indented.rest then none
  else some indented

/-- The width of the container marks at the start of a line that has to go on with a label. -/
def labelMargin? (containers : List Container) (text : Text) : Option Nat :=
  let (resumed, margin) := Container.resumeAll containers (Margin.ofText text)
  if stops containers (resumed == containers.length) margin.rest then none else some margin.read

/-- White space between the parts of a definition, in which one line may end: how many characters
it takes, and whether a line has ended. -/
def space? (containers : List Container) : (fuel : Nat) → (crossed : Bool) → Text →
    Option (Nat × Bool)
  | 0, _, _ => none
  | fuel + 1, crossed, text =>
    let white := Text.countWhile isLineSpace text
    let rest := text.drop white
    match lineEnd? rest with
    | none => some (white, crossed)
    | some n =>
      if crossed then none
      else do
        let margin ← resume? containers (rest.drop n)
        let (length, crossed) ← space? containers fuel true margin.rest
        some (white + n + margin.read + length, crossed)

/-- The title of a definition after its opening mark: how many characters it takes up to and with
its closing mark, and its raw text without the margins of its lines. -/
def titleRest? (containers : List Container) (closing : Char) :
    (fuel : Nat) → Text → Option (Nat × Text)
  | 0, _ => none
  | fuel + 1, text =>
    match text with
    | [] => none
    | c :: rest =>
      let keep (length : Nat) (image rest : Text) :=
        (titleRest? containers closing fuel rest).map fun found =>
          (found.1 + length, image ++ found.2)
      if c == closing then some (1, [])
      else if c == '(' && closing == ')' then none
      else if c == '\n' || c == '\r' then
        let ending := if c == '\r' && rest.head? == some '\n' then 2 else 1
        match resume? containers (text.drop ending) with
        | none => none
        | some margin =>
          let content := margin.skipAll
          if content.atEnd then none
          else keep (ending + content.read) ['\n'] content.rest
      else if c == '\\' then
        match rest with
        | next :: more =>
          if next == '\n' || next == '\r' then keep 1 [c] rest else keep 2 [c, next] more
        | [] => none
      else keep 1 [c] rest

/-- The title at the start of a text. -/
def title? (containers : List Container) (text : Text) : Option (Nat × Text) :=
  match text with
  | [] => none
  | opening :: rest =>
    if opening == '\x27' || opening == '\x22' || opening == '(' then
      let closing := if opening == '(' then ')' else opening
      (titleRest? containers closing text.length rest).map fun found => (found.1 + 1, found.2)
    else none

/-- What follows the colon of a definition: how many characters it takes, the destination and the
title. A title that is not alone on its last line is none, which spoils the definition unless the
title stands on a line of its own. -/
def target? (containers : List Container) (text : Text) : Option (Nat × Text × Text) := do
  let fuel := text.length + 1
  let (gap, _) ← space? containers fuel false text
  let (length, raw) ← Link.destination? (text.drop gap)
  if length == 0 then none
  let destination := unescape false 0 raw
  let afterDestination := gap + length
  let rest := text.drop afterDestination
  let untitled := (afterDestination, destination, ([] : Text))
  match space? containers fuel false rest with
  | none => some untitled
  | some (titleGap, crossed) =>
    if titleGap == 0 && !crossed && !rest.isEmpty then none
    else
      let titleText := rest.drop titleGap
      match title? containers titleText with
      | some (titleLength, title) =>
        if (blankLine? (titleText.drop titleLength)).isSome then
          some (afterDestination + titleGap + titleLength, destination, unescape false 0 title)
        else if crossed then some untitled
        else none
      | none => if crossed then some untitled else none

/-- A definition at the start of a text, and how many characters it takes. -/
def definition? (containers : List Container) (text : Text) : Option (Nat × Definition) := do
  let (length, label) ← Link.label? false (labelMargin? containers) text
  if (text.drop length).head? != some ':' then none
  let (targetLength, destination, title) ← target? containers (text.drop (length + 1))
  some (length + 1 + targetLength, { label := Text.fold label, destination, title })

end DocSite.Markdown.Reference
