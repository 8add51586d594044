import DocSite.Command.Run
import DocSite.Proofs.Command.LeftOut
import DocSite.Proofs.Site.Fetching
import DocSite.Proofs.Storage.Writing
import DocSite.Proofs.Text.Utf8

/-!
# Pages that are written to files

A page is written to a file as it would be written to the output, or nothing is written. The source
has no say in which of the two it is: a document that cannot be fetched is shown as such.
-/

namespace DocSite

open Storage

/-- The files after a command has ended. -/
def Outcome.filesAfter (outcome : Outcome) (files : FileSystem) : FileSystem :=
  match outcome.written with
  | none => files
  | some (place, text) => files.write place (Text.toUtf8 text)

namespace Command

/-! ## Words -/

theorem optionValue_without (environment : Environment) (spec : CommandSpec) (given : Given)
    {name other : Text} (different : other ≠ name) :
    optionValue environment spec (given.without name) other =
      optionValue environment spec given other := by
  rw [optionValue, optionValue]
  cases found : spec.options.find? (·.name = other) with
  | none => rfl
  | some option =>
      have isName : option.name = other := by simpa using List.find?_some found
      rw [Option.bind_some, Option.bind_some, valueOf, valueOf, isName, Given.value?_without,
        if_neg different]

theorem ofGiven_render_without (environment : Environment) (given : Given) :
    ofGiven environment renderSpec (given.without "output") =
      .render (.ofGiven given) (.ofGiven environment renderSpec given) (given.has "fragment")
        none := by
  have source : SourceOptions.ofGiven environment renderSpec (given.without "output") =
      .ofGiven environment renderSpec given := by
    simp only [SourceOptions.ofGiven]
    rw [optionValue_without, optionValue_without, optionValue_without]
    all_goals decide
  have fragment : (given.without "output").has "fragment" = given.has "fragment" :=
    Given.has_without_of_ne (by decide)
  have file : (given.without "output").value? "output" = none := by
    rw [Given.value?_without, if_pos rfl]
  change Command.render (.ofGiven (given.without "output"))
    (.ofGiven environment renderSpec (given.without "output"))
    ((given.without "output").has "fragment") ((given.without "output").value? "output") = _
  rw [source, fragment, file]
  rfl

theorem exists_given_of_render {environment : Environment} {words : List Text}
    {page : PageOperands} {source : SourceOptions} {fragment : Bool} {file : Option Text}
    (asked : ofWords environment words = .ok (.render page source fragment file)) :
    ∃ rest given, words = "render".toList :: rest ∧ takeWords renderSpec none {} rest = .ok given ∧
      page = .ofGiven given ∧ source = .ofGiven environment renderSpec given ∧
      fragment = given.has "fragment" ∧ file = given.value? "output" := by
  obtain ⟨spec, member, rest, given, rfl, taken, same⟩ := exists_given_of_ofWords asked
  simp only [specs, List.mem_cons, List.not_mem_nil, or_false] at member
  rcases member with rfl | rfl | rfl | rfl | rfl
  case inr.inl =>
    cases same
    exact ⟨rest, given, rfl, taken, rfl, rfl, rfl, rfl⟩
  all_goals nomatch same

theorem exists_output : ∃ option ∈ renderSpec.options, option.name = "output".toList ∧
    option.letter = some 'o' ∧ option.kind = .path ∧
      ∀ other ∈ renderSpec.options, other.name = option.name → other = option := by
  decide +kernel

/-- If a page is written to a file, a few words say so. Without them it is written to the output. -/
theorem exists_words_of_file {environment : Environment} {words : List Text} {page : PageOperands}
    {source : SourceOptions} {fragment : Bool} {path : Text}
    (asked : ofWords environment words = .ok (.render page source fragment (some path))) :
    ∃ before own after, words = before ++ own ++ after ∧ Gives "output" 'o' path own ∧
      ofWords environment (before ++ after) = .ok (.render page source fragment none) := by
  obtain ⟨rest, given, rfl, taken, rfl, rfl, rfl, isFile⟩ := exists_given_of_render asked
  obtain ⟨option, -, isName, isLetter, isPath, only⟩ := exists_output
  have valued : LettersHaveValues renderSpec := by
    unfold LettersHaveValues
    decide +kernel
  obtain ⟨before, own, after, rfl, gives, left⟩ := exists_gives valued (by simp [isPath]) only
    isLetter (by rintro _ ⟨⟩) rfl taken (by rw [isName, ← isFile])
  rw [isName] at gives left
  refine ⟨"render".toList :: before, own, after, rfl, gives, ?_⟩
  have isSpec : specs.find? (·.name = "render".toList) = some renderSpec := rfl
  rw [List.cons_append, ofWords, isSpec]
  dsimp only
  rw [left, Except.ok_bind, ofGiven_render_without]
  rfl

/-! ## Outcomes -/

/-- How a page is written to the file that a path names, next to how it is written to the output. -/
structure WholeOrNothing (surroundings : Surroundings) (tools : Document.Tools)
    (page : PageOperands) (source : SourceOptions) (path : Text) (outcome plain : Outcome) :
    Prop where
  /-- Nothing but the page, the configuration, the colours and the path may be the cause of a
  failure. -/
  fails_iff : outcome.status ≠ 0 ↔
    (∃ error, shown surroundings page source tools = .error error) ∨
      ∃ cause, surroundings.files.writable surroundings.directory path = .error cause
  /-- If there is no page to show, both fail alike. -/
  alike : ∀ error, shown surroundings page source tools = .error error →
    outcome = .failed [] error ∧ plain = .failed [] error
  /-- After a failure, all files are as they were. -/
  untouched : outcome.status ≠ 0 → outcome.filesAfter surroundings.files = surroundings.files
  /-- After a success, the file holds what is written to the output otherwise. -/
  whole : outcome.status = 0 → plain.status = 0 ∧ outcome.output = [] ∧
    (outcome.filesAfter surroundings.files).contentAt? surroundings.directory path =
      some (Text.toUtf8 plain.output)
  /-- No other file is written. -/
  others : ∀ place, surroundings.files.writable surroundings.directory path ≠ .ok place →
    (outcome.filesAfter surroundings.files).entry place = surroundings.files.entry place

section Outcomes

variable {surroundings : Surroundings} {tools : Document.Tools} {page : PageOperands}
  {source : SourceOptions} {path : Text}

theorem wholeOrNothing_failed {error : CommandError}
    (fails : shown surroundings page source tools = .error error) :
    WholeOrNothing surroundings tools page source path (.failed [] error)
      (.failed [] error) where
  fails_iff := iff_of_true Nat.one_ne_zero (.inl ⟨error, fails⟩)
  alike other alsoFails := by
    cases Except.error.inj (fails.symm.trans alsoFails)
    exact ⟨rfl, rfl⟩
  untouched _ := rfl
  whole succeeded := nomatch succeeded
  others _ _ := rfl

theorem wholeOrNothing_deliver {address : Address} {viewer : Viewer}
    (prepared : shown surroundings page source tools = .ok (address, viewer)) (text : Text) :
    WholeOrNothing surroundings tools page source path
      (deliver surroundings address (some path) text)
      (deliver surroundings address none text) := by
  have noError (error : CommandError) : shown surroundings page source tools ≠ .error error := by
    rw [prepared]
    exact nofun
  rw [deliver, deliver]
  cases isPlace : surroundings.files.writable surroundings.directory path with
  | error cause =>
      exact {
        fails_iff := iff_of_true Nat.one_ne_zero (.inr ⟨cause, isPlace⟩)
        alike := fun error fails => (noError error fails).elim
        untouched := fun _ => rfl
        whole := nofun
        others := fun _ _ => rfl }
  | ok place =>
      have succeeds : ¬((∃ error, shown surroundings page source tools = .error error) ∨
          ∃ cause, surroundings.files.writable surroundings.directory path = .error cause) := by
        rintro (⟨error, fails⟩ | ⟨cause, fails⟩)
        · exact noError error fails
        · nomatch isPlace.symm.trans fails
      exact {
        fails_iff := iff_of_false (fun failed => failed rfl) succeeds
        alike := fun error fails => (noError error fails).elim
        untouched := fun failed => (failed rfl).elim
        whole := fun _ => ⟨rfl, rfl, FileSystem.contentAt?_write isPlace _⟩
        others := fun other different => by
          refine FileSystem.entry_write_of_ne ?_ _
          rintro rfl
          exact different isPlace }

/-- Both commands ask for the same, and end as they should whatever is answered. -/
theorem runRender_together (surroundings : Surroundings) (tools : Document.Tools)
    (page : PageOperands) (source : SourceOptions) (fragment : Bool) (path : Text) :
    (runRender surroundings page source fragment (some path) tools).Together
      (WholeOrNothing surroundings tools page source path)
      (runRender surroundings page source fragment none tools) := by
  rw [runRender, runRender]
  cases prepared : shown surroundings page source tools with
  | error error => exact .done (wholeOrNothing_failed prepared)
  | ok both =>
      obtain ⟨address, viewer⟩ := both
      exact Fetching.together_map (fun text => wholeOrNothing_deliver prepared text) _

end Outcomes

/-! ## Commands -/

/-- A few words of a command that writes a page to a file name the file. Without these words the
command asks for the same, and writes to its output what it writes to the file otherwise. If it
fails, all files are as they were, and no answer makes it fail. -/
theorem page_file_is_whole_or_untouched {surroundings : Surroundings} (tools : Document.Tools)
    {words : List Text} {page : PageOperands} {source : SourceOptions} {fragment : Bool}
    {path : Text}
    (asked : ofWords surroundings.environment words =
      .ok (.render page source fragment (some path))) :
    ∃ before own after, words = before ++ own ++ after ∧ Gives "output" 'o' path own ∧
      ofWords surroundings.environment (before ++ after) =
        .ok (.render page source fragment none) ∧
      (runWords surroundings words tools).Together
        (fun action other => ∃ outcome plain, action = .finish outcome ∧ other = .finish plain ∧
          WholeOrNothing surroundings tools page source path outcome plain)
        (runWords surroundings (before ++ after) tools) := by
  obtain ⟨before, own, after, rfl, gives, left⟩ := exists_words_of_file asked
  refine ⟨before, own, after, rfl, gives, left, ?_⟩
  rw [runWords, runWords, asked, left]
  exact (runRender_together surroundings tools page source fragment path).map
    fun outcome plain ends => ⟨outcome, plain, rfl, rfl, ends⟩

/-- A document that cannot be fetched, written to a new file in the root directory. -/
theorem page_file_is_whole_or_untouched_no_answer :
    let files : FileSystem := ⟨fun place => if place = [] then .directory else .missing⟩
    let surroundings : Surroundings := ⟨files, [], fun _ => none⟩
    let silent : Source := fun url => .error (.transport url)
    ∃ outcome plain,
      (runWords surroundings ["render", "sql", "-o", "sql.html", "--fragment"]).result silent =
        .finish outcome ∧
      (runWords surroundings ["render", "sql", "--fragment"]).result silent = .finish plain ∧
      outcome.status = 0 ∧ outcome.output = [] ∧
      (outcome.filesAfter files).contentAt? [] "sql.html" = some (Text.toUtf8 plain.output) := by
  intro files surroundings silent
  let page : PageOperands := ⟨some "sql", none, none⟩
  let source : SourceOptions := ⟨none, none, none⟩
  have asked : ofWords surroundings.environment
      ["render", "sql", "-o", "sql.html", "--fragment"] =
        .ok (.render page source true (some "sql.html")) := by
    decide +kernel
  have alsoAsked : ofWords surroundings.environment ["render", "sql", "--fragment"] =
      .ok (.render page source true none) := by
    decide +kernel
  have succeeds : ¬((∃ error, shown surroundings page source = .error error) ∨
      ∃ cause, files.writable [] "sql.html" = .error cause) := by
    have isPage : (shown surroundings page source).isOk := by decide +kernel
    have isPlace : (files.writable [] "sql.html").isOk := by decide +kernel
    rintro (⟨error, fails⟩ | ⟨cause, fails⟩)
    · rw [fails] at isPage
      nomatch isPage
    · rw [fails] at isPlace
      nomatch isPlace
  obtain ⟨before, own, after, -, -, left, together⟩ :=
    page_file_is_whole_or_untouched .standard asked
  obtain ⟨outcome, plain, ends, plainEnds, known⟩ := together.result silent
  have status : outcome.status = 0 := not_not.mp fun failed => succeeds (known.fails_iff.mp failed)
  obtain ⟨-, output, content⟩ := known.whole status
  refine ⟨outcome, plain, ends, ?_, status, output, content⟩
  rw [← plainEnds, runWords, runWords, left, alsoAsked]

end Command

end DocSite
