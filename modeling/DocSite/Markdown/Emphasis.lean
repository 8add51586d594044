import DocSite.Markdown.Inline

/-!
# Emphasis

Runs of `*`, `_` and `~` pair up into emphasis. A run that can close looks back for the nearest
run that it can close; what remains unpaired is plain text.
-/

namespace DocSite.Markdown

/-- A run of emphasis marks. -/
structure Run where
  /-- The mark that is repeated. -/
  mark : Char
  /-- How many marks have not been paired yet. -/
  count : Nat
  /-- How many marks the run had at first. -/
  length : Nat
  /-- Whether the run can open emphasis. -/
  opens : Bool
  /-- Whether the run can close emphasis. -/
  closes : Bool
  /-- The text of the whole run. -/
  written : Text

/-- The text of the marks that are not paired. -/
def Run.leftover (run : Run) : Text :=
  if run.count == run.length then run.written else List.replicate run.count run.mark

/-- Running text in which emphasis has not been looked for. -/
inductive Part
  /-- A piece that is understood. -/
  | done (piece : Inline)
  /-- A run of emphasis marks. -/
  | run (run : Run)
  /-- A line break that a backslash or spaces have made. -/
  | hardBreak (backslash : Bool)

/-- Whether a run closes an earlier one. A run that can stand on both sides closes only such runs
that their lengths do not add up to a multiple of three, unless both are one; tildes pair in equal
numbers. -/
def Run.closesRun (closer opener : Run) : Bool :=
  opener.mark == closer.mark &&
    (closer.mark != '~' || closer.length == opener.length) &&
    ((!(closer.opens && closer.closes) && !(opener.opens && opener.closes)) ||
      (closer.length + opener.length) % 3 != 0 || closer.length % 3 == 0)

/-- A run that may yet be closed, with what has come after it, latest piece first. -/
structure Opener where
  /-- The run. -/
  run : Run
  /-- What has come after it. -/
  content : List Inline

/-- Content whose emphasis is being looked for. -/
structure EmphasisScan where
  /-- What came before the first open run, latest piece first. -/
  settled : List Inline := []
  /-- The runs that may yet be closed, latest first. -/
  openers : List Opener := []

namespace EmphasisScan

/-- Adds a piece after the latest open run. -/
def push (piece : Inline) (scan : EmphasisScan) : EmphasisScan :=
  match scan.openers with
  | [] => { scan with settled := piece :: scan.settled }
  | opener :: outer =>
    { scan with openers := { opener with content := piece :: opener.content } :: outer }

/-- Turns open runs into text, latest first; the result is what they and all that came after them
amount to, latest piece first. -/
def dissolve : List Opener → List Inline
  | [] => []
  | opener :: outer => opener.content ++ .text opener.run.leftover :: dissolve outer

/-- Splits the open runs at the latest one that the closer can close. -/
def findOpener (closer : Run) : List Opener → Option (List Opener × Opener × List Opener)
  | [] => none
  | opener :: outer =>
    if closer.closesRun opener.run then some ([], opener, outer)
    else (findOpener closer outer).map fun (inner, found, rest) => (opener :: inner, found, rest)

/-- Wraps content in the emphasis that `count` pairs of marks make; two make strong emphasis, and
the innermost pair comes first. -/
def wrap (mark : Char) : (count : Nat) → List Inline → List Inline
  | 0, content => content
  | 1, content => [if mark == '~' then .strikethrough content else .emphasis content]
  | count + 2, content =>
    wrap mark count [if mark == '~' then .strikethrough content else .strong content]

/-- Pairs a closing run with earlier ones as long as it has marks and there is one to close; the
second part is what is left of it. -/
def close : (fuel : Nat) → Run → EmphasisScan → EmphasisScan × Run
  | 0, closer, scan => (scan, closer)
  | fuel + 1, closer, scan =>
    if closer.count == 0 then (scan, closer)
    else match findOpener closer scan.openers with
      | none => (scan, closer)
      | some (inner, opener, outer) =>
        let pairs := min closer.count opener.run.count
        let content := (dissolve inner ++ opener.content).reverse
        let wrapped := (wrap closer.mark pairs content).reverse
        let rest := { opener.run with count := opener.run.count - pairs }
        let scan : EmphasisScan :=
          if rest.count == 0 then
            match outer with
            | [] => { settled := wrapped ++ scan.settled, openers := [] }
            | next :: more =>
              { scan with openers := { next with content := wrapped ++ next.content } :: more }
          else { scan with openers := ⟨rest, wrapped⟩ :: outer }
        close fuel { closer with count := closer.count - pairs } scan

/-- Takes in one part; `last` says that nothing follows it. -/
def step (last : Bool) (scan : EmphasisScan) : Part → EmphasisScan
  | .done piece => scan.push piece
  | .hardBreak backslash =>
    if !last then scan.push .hardBreak
    else if backslash then scan.push (.text ['\\'])
    else scan.push .softBreak
  | .run marks =>
    let (scan, rest) := if marks.closes then scan.close marks.count marks else (scan, marks)
    if rest.count == 0 then scan
    else if rest.opens then { scan with openers := ⟨rest, []⟩ :: scan.openers }
    else scan.push (.text rest.leftover)

/-- Takes in all parts. -/
def run : EmphasisScan → List Part → EmphasisScan
  | scan, [] => scan
  | scan, part :: rest => run (scan.step rest.isEmpty part) rest

end EmphasisScan

/-- A part whose emphasis does not matter. -/
def Part.plain : Part → Inline
  | .done piece => piece
  | .run marks => .text marks.leftover
  | .hardBreak _ => .hardBreak

/-- Finds the emphasis in running text. What comes before the first run of marks is left alone. -/
def resolveEmphasis (parts : List Part) : List Inline :=
  let isRun : Part → Bool := fun part => match part with
    | .run _ => true
    | _ => false
  let before := parts.takeWhile fun part => !isRun part
  let found := EmphasisScan.run {} (parts.dropWhile fun part => !isRun part)
  before.map Part.plain ++ (EmphasisScan.dissolve found.openers ++ found.settled).reverse

end DocSite.Markdown
