import DocSite.Command.Run
import DocSite.Proofs.Command.LeftOut
import DocSite.Proofs.Config.Loading
import DocSite.Proofs.Web.Requests

/-!
# What commands about a page ask for

All commands about a page read their words in one way, and find the page and the configuration in
one way. The URL that one of them tells is the URL that the others ask for first, and so does a
server that is started with the same options when it is asked for the page.
-/

namespace DocSite

/-! ## Words -/

namespace Command

section Words

variable {narrow wide : CommandSpec} (options : narrow.options <+: wide.options)
  (operands : wide.operands = narrow.operands)

include options in
theorem find?_wide {p : OptionSpec → Bool} {found : OptionSpec}
    (known : narrow.options.find? p = some found) : wide.options.find? p = some found := by
  obtain ⟨more, whole⟩ := options
  rw [← whole, List.find?_append, known, Option.some_or]

include options in
theorem takeName_wide {given : Given} {word : Text} {result : Given × Option OptionSpec}
    (taken : takeName narrow given word = .ok result) :
    takeName wide given word = .ok result := by
  unfold takeName at taken ⊢
  generalize splitName word = parts at taken ⊢
  obtain ⟨name, value?⟩ := parts
  dsimp only at taken ⊢
  split at taken
  · nomatch taken
  · next other =>
      rw [if_neg other]
      cases known : narrow.options.find? (·.name = name) with
      | none =>
          rw [known] at taken
          nomatch taken
      | some option =>
          rw [known] at taken
          rw [find?_wide options known]
          exact taken

include options in
theorem takeLetters_wide {given : Given} {letters : Text} {result : Given × Option OptionSpec}
    (taken : takeLetters narrow given letters = .ok result) :
    takeLetters wide given letters = .ok result := by
  induction letters generalizing given with
  | nil => exact taken
  | cons letter letters induction =>
      rw [takeLetters] at taken ⊢
      split at taken
      · cases taken
      · next other =>
          rw [if_neg other]
          cases known : narrow.options.find? (·.letter = some letter) with
          | none =>
              rw [known] at taken
              cases taken
          | some option =>
              rw [known] at taken
              rw [find?_wide options known]
              dsimp only at taken ⊢
              split at taken
              · next alone =>
                  obtain ⟨more, added, behind⟩ := Except.bind_eq_ok_iff.mp taken
                  rw [if_pos alone, added]
                  exact induction behind
              · next valued =>
                  rw [if_neg valued]
                  exact taken

include options operands in
/-- Words that a command takes are taken alike by a command that has more options. -/
theorem takeWords_wide {waiting : Option OptionSpec} {given result : Given} {words : List Text}
    (taken : takeWords narrow waiting given words = .ok result) :
    takeWords wide waiting given words = .ok result := by
  have same (given : Given) (words : List Text) :
      given.addOperands wide words = given.addOperands narrow words := by
    rw [Given.addOperands, Given.addOperands, operands]
  fun_induction takeWords narrow waiting given words with
  | case1 | case3 => cases taken
  | case2 waiting given idle =>
      rw [takeWords, if_neg idle]
      exact taken
  | case4 given rest =>
      rw [takeWords, same]
      exact taken
  | case5 given rest name named induction =>
      obtain ⟨⟨more, waiting⟩, ofName, behind⟩ := Except.bind_eq_ok_iff.mp taken
      rw [takeWords, takeName_wide options ofName]
      · exact induction more waiting behind
      · exact named
  | case6 given rest letter letters lettered short induction =>
      obtain ⟨⟨more, waiting⟩, ofLetters, behind⟩ := Except.bind_eq_ok_iff.mp taken
      rw [takeWords, takeLetters_wide options ofLetters]
      · exact induction more waiting behind
      · exact lettered
      · exact short
  | case7 given rest value option plain induction =>
      obtain ⟨more, added, behind⟩ := Except.bind_eq_ok_iff.mp taken
      rw [takeWords, added]
      · exact induction more behind
      · exact plain
  | case8 given rest operand noEnd noName noLetters induction =>
      obtain ⟨more, added, behind⟩ := Except.bind_eq_ok_iff.mp taken
      rw [takeWords, same, added]
      · exact induction more behind
      · exact noEnd
      · exact noName
      · exact noLetters

end Words

section Parsing

variable {environment : Environment} {words : List Text} {page : PageOperands}
  {options : SourceOptions}
  (isUrl : ofWords environment ("url".toList :: words) = .ok (.url page options))
include isUrl

theorem exists_given : ∃ given, takeWords urlSpec none {} words = .ok given ∧
    page = .ofGiven given ∧ options = .ofGiven environment urlSpec given := by
  have isSpec : specs.find? (·.name = "url".toList) = some urlSpec := rfl
  rw [ofWords, isSpec] at isUrl
  obtain ⟨given, taken, same⟩ := Except.bind_eq_ok_iff.mp isUrl
  cases same
  exact ⟨given, taken, rfl, rfl⟩

theorem ofWords_render : ∃ fragment file,
    ofWords environment ("render".toList :: words) = .ok (.render page options fragment file) := by
  obtain ⟨given, taken, rfl, rfl⟩ := exists_given isUrl
  have isSpec : specs.find? (·.name = "render".toList) = some renderSpec := rfl
  have more : urlSpec.options <+: renderSpec.options := List.prefix_append _ _
  have alike : takeWords renderSpec none {} words = .ok given := takeWords_wide more rfl taken
  refine ⟨given.has "fragment", given.value? "output", ?_⟩
  rw [ofWords, isSpec]
  dsimp only
  rw [alike]
  rfl

theorem ofWords_headings : ∃ json,
    ofWords environment ("headings".toList :: words) = .ok (.headings page options json) := by
  obtain ⟨given, taken, rfl, rfl⟩ := exists_given isUrl
  have isSpec : specs.find? (·.name = "headings".toList) = some headingsSpec := rfl
  have more : urlSpec.options <+: headingsSpec.options := List.prefix_append _ _
  have alike : takeWords headingsSpec none {} words = .ok given := takeWords_wide more rfl taken
  refine ⟨given.has "json", ?_⟩
  rw [ofWords, isSpec]
  dsimp only
  rw [alike]
  rfl

end Parsing

/-! ## Pages -/

/-- A command shows a page or its headings. -/
inductive Shows (page : PageOperands) (options : SourceOptions) : Command → Prop
  | render (fragment : Bool) (file : Option Text) :
      Shows page options (.render page options fragment file)
  | headings (json : Bool) : Shows page options (.headings page options json)

/-- The URL of a page's document is told, and nothing else happens. -/
def Tells (surroundings : Surroundings) (page : PageOperands) (options : SourceOptions)
    (url : Text) : Prop :=
  ∀ tools, run surroundings (.url page options) tools = .done (.finish { output := onLine url })

theorem Tells.unique {surroundings : Surroundings} {page : PageOperands} {options : SourceOptions}
    {url other : Text} (tells : Tells surroundings page options url)
    (also : Tells surroundings page options other) : url = other := by
  have both := (tells .standard).symm.trans (also .standard)
  injection both with same
  injection same with same
  exact List.append_cancel_right (congrArg Outcome.output same)

end Command

theorem Config.location_viewer {config : Config} {tools : Document.Tools} {viewer : Viewer}
    (made : config.viewer tools = .ok viewer) : viewer.location = config.location := by
  obtain ⟨-, _, -, rfl⟩ := Viewer.of_eq_ok_iff.mp made
  rfl

namespace Command

section Pages

variable {surroundings : Surroundings} {page : PageOperands} {options : SourceOptions}
  {tools : Document.Tools} {command : Command} {address : Address} {viewer : Viewer}
  {config : Config}

theorem run_shows_error {error : CommandError} (shows : Shows page options command)
    (fails : shown surroundings page options tools = .error error) :
    run surroundings command tools = .done (.finish (.failed [] error)) := by
  cases shows with
  | render fragment file =>
      rw [run, runRender, fails]
      rfl
  | headings json =>
      rw [run, runHeadings, fails]
      rfl

theorem head?_requests_shows (shows : Shows page options command)
    (prepared : shown surroundings page options tools = .ok (address, viewer)) (source : Source) :
    ((run surroundings command tools).requests source).head? =
      some (viewer.location.url address) := by
  cases shows with
  | render fragment file =>
      rw [run, runRender, prepared, proceed, Fetching.requests_bind, Fetching.requests_bind]
      cases fragment with
      | true =>
          rw [markup, if_pos rfl, Fetching.requests_bind, Viewer.document_requests]
          rfl
      | false =>
          rw [markup, if_neg Bool.false_ne_true, Fetching.requests_bind, Viewer.standalonePage,
            Viewer.pageWith_requests]
          rfl
  | headings json =>
      rw [run, runHeadings, prepared, proceed, Fetching.requests_bind, Fetching.requests_bind,
        Viewer.load_requests]
      rfl

theorem tells_of_config (isAddress : page.address = .ok address)
    (loads : options.config surroundings = .ok config) :
    Tells surroundings page options (config.location.url address) := by
  intro tools
  rw [run, runUrl, isAddress, loads]
  rfl

theorem tells_of_shown (prepared : shown surroundings page options tools = .ok (address, viewer)) :
    Tells surroundings page options (viewer.location.url address) := by
  obtain ⟨address, isAddress, prepared⟩ := Except.bind_eq_ok_iff.mp prepared
  obtain ⟨viewer, isViewer, same⟩ := Except.bind_eq_ok_iff.mp prepared
  cases same
  obtain ⟨config, loads, made⟩ := Except.bind_eq_ok_iff.mp isViewer
  rw [Config.location_viewer (Except.mapError_eq_ok_iff.mp made)]
  exact tells_of_config isAddress loads

/-- If no URL is told, no page is shown for the same reason. -/
theorem shown_of_run_url {outcome : Outcome}
    (ends : run surroundings (.url page options) tools = .done (.finish outcome))
    (failed : outcome.status ≠ 0) :
    ∃ error, shown surroundings page options tools = .error error ∧ outcome = .failed [] error := by
  rw [run, runUrl] at ends
  cases isAddress : page.address with
  | error error =>
      rw [isAddress] at ends
      cases ends
      exact ⟨error, by rw [shown, isAddress]; rfl, rfl⟩
  | ok address =>
      cases loads : options.config surroundings with
      | error error =>
          rw [isAddress, loads] at ends
          cases ends
          exact ⟨error, by rw [shown, isAddress, SourceOptions.viewer, loads]; rfl, rfl⟩
      | ok config =>
          rw [isAddress, loads] at ends
          cases ends
          exact (failed rfl).elim

end Pages

end Command

/-! ## Servers -/

namespace Config

theorem defect?_atPlaceOf {config other : Config} (valid : config.defect? = none)
    (otherValid : other.defect? = none) :
    { config with host := other.host, port := other.port }.defect? = none := by
  simp only [defect?, Option.orElse_eq_none] at valid otherValid ⊢
  exact ⟨otherValid.1, otherValid.2.1, valid.2.2⟩

/-- A configuration that is in order with a host and a port is so without them. -/
theorem override_elsewhere {config after : Config} {overrides : Overrides}
    (valid : config.defect? = none) (overridden : config.override (some overrides) = .ok after) :
    config.override (some { overrides with host := none, port := none }) =
      .ok { after with host := config.host, port := config.port } := by
  obtain ⟨rfl, afterValid⟩ := checked_eq_ok overridden
  have stillValid := defect?_atPlaceOf afterValid valid
  rw [override, checked]
  have same : config.withLayer { overrides with host := none, port := none }.layer =
      { config.withLayer overrides.layer with host := config.host, port := config.port } := rfl
  rw [same, stillValid]

theorem load_elsewhere {surroundings : Surroundings} {path? : Option Text} {overrides : Overrides}
    {loaded : Loaded} (loads : load surroundings path? (some overrides) = .ok loaded) :
    ∃ base, load surroundings path? (some { overrides with host := none, port := none }) =
        .ok base ∧ base.config.location = loaded.config.location := by
  obtain ⟨found?, found, loads⟩ := Except.bind_eq_ok_iff.mp loads
  cases found? with
  | none =>
      obtain ⟨config, overridden, same⟩ := Except.bind_eq_ok_iff.mp loads
      cases same
      have elsewhere := override_elsewhere defect?_default overridden
      refine ⟨⟨{ config with host := default.host, port := default.port }, none⟩, ?_, rfl⟩
      rw [load, found, Except.ok_bind]
      dsimp only
      rw [elsewhere]
      rfl
  | some file =>
      obtain ⟨base, read, loads⟩ := Except.bind_eq_ok_iff.mp loads
      obtain ⟨config, overridden, same⟩ := Except.bind_eq_ok_iff.mp loads
      cases same
      have elsewhere := override_elsewhere (ofFile_eq_ok read).1 overridden
      refine ⟨⟨{ config with host := base.host, port := base.port }, some file⟩, ?_, rfl⟩
      rw [load, found, Except.ok_bind]
      dsimp only
      rw [read, Except.ok_bind, elsewhere]
      rfl

end Config

namespace Web

/-- A request asks for the page of an address, or for its document. -/
def Request.AsksFor (request : Request) (address : Address) : Prop :=
  request.IsRead ∧ ∃ rest, Names rest address ∧
    (Below "/docs" request.target.path rest ∨ Below "/api/docs" request.target.path rest)

theorem Server.head?_requests_respond {viewer : Viewer} {request : Request} {address : Address}
    (asks : request.AsksFor address) (source : Source) :
    ((respond viewer request).requests source).head? = some (viewer.location.url address) := by
  obtain ⟨read, rest, names, page | document⟩ := asks
  · rw [(asks_of_fetches (.page read page names)).requests source]
    rfl
  · rw [(asks_of_fetches (.document read document names)).requests source]
    rfl

end Web

/-! ## The first request -/

namespace Command

theorem tells_of_load {surroundings : Surroundings} {page : PageOperands}
    {options : SourceOptions} {address : Address} {host : Option Text} {port : Option Nat}
    {loaded : Config.Loaded} (isAddress : page.address = .ok address)
    (loads : options.load surroundings host port = .ok loaded) :
    Tells surroundings page options (loaded.config.location.url address) := by
  obtain ⟨base, baseLoads, same⟩ := Config.load_elsewhere (Except.mapError_eq_ok_iff.mp loads)
  have alone : options.load surroundings none none = .ok base :=
    Except.mapError_eq_ok_iff.mpr baseLoads
  have config : options.config surroundings = .ok base.config := by
    rw [SourceOptions.config, alone]
    rfl
  rw [← same]
  exact tells_of_config isAddress config

/-- The words of the command that tells a URL are understood alike by the commands that show a page
or its headings. If one of these asks for anything, the command succeeds, and tells what is asked
for first. It tells also what a server with the same options, on whatever host and port, asks for
first when it is asked for the page. If it fails, the others fail for the same reason. -/
theorem told_url_is_asked_for_first (surroundings : Surroundings) (tools : Document.Tools)
    (page : PageOperands) (options : SourceOptions) :
    (∀ words, ofWords surroundings.environment ("url".toList :: words) = .ok (.url page options) →
      (∃ fragment file, ofWords surroundings.environment ("render".toList :: words) =
        .ok (.render page options fragment file)) ∧
      ∃ json, ofWords surroundings.environment ("headings".toList :: words) =
        .ok (.headings page options json)) ∧
    (∀ command, Shows page options command → ∀ source,
      (run surroundings command tools).requests source ≠ [] →
      ∃ url, Tells surroundings page options url ∧
        ((run surroundings command tools).requests source).head? = some url) ∧
    (∀ host port loaded viewer address, options.load surroundings host port = .ok loaded →
      loaded.config.viewer tools = .ok viewer → page.address = .ok address →
      ∃ url, Tells surroundings page options url ∧
        ∀ request : Web.Request, request.AsksFor address → ∀ source,
          ((Web.Server.respond viewer request).requests source).head? = some url) ∧
    ∀ outcome, run surroundings (.url page options) tools = .done (.finish outcome) →
      outcome.status ≠ 0 → ∀ command, Shows page options command →
        run surroundings command tools = .done (.finish outcome) := by
  refine ⟨fun words isUrl => ⟨ofWords_render isUrl, ofWords_headings isUrl⟩, ?shown, ?served,
    ?failed⟩
  case shown =>
    intro command shows source asks
    cases prepared : shown surroundings page options tools with
    | error error =>
        rw [run_shows_error shows prepared] at asks
        exact (asks rfl).elim
    | ok both =>
        exact ⟨_, tells_of_shown prepared, head?_requests_shows shows prepared source⟩
  case served =>
    intro host port loaded viewer address loads made isAddress
    refine ⟨viewer.location.url address, ?_, fun request asks source =>
      Web.Server.head?_requests_respond asks source⟩
    rw [Config.location_viewer made]
    exact tells_of_load isAddress loads
  case failed =>
    intro outcome ends failed command shows
    obtain ⟨error, prepared, rfl⟩ := shown_of_run_url ends failed
    exact run_shows_error shows prepared

/-- A page below a base with slashes at its end, a server on another port, and a page that is not
there. -/
theorem told_url_is_asked_for_first_slashes :
    let surroundings : Surroundings := ⟨⟨fun _ => .missing⟩, [], fun _ => none⟩
    let page : PageOperands := ⟨some "sql", some "select", none⟩
    let options : SourceOptions := ⟨none, some "https://docs.test//", none⟩
    let viewer : Viewer :=
      { Viewer.default with location := .of "https://docs.test//" Location.defaultRootDocument }
    let silent : Source := fun url => .error (.transport url)
    let request : Web.Request := ⟨"GET", ⟨"/docs/sql/select"⟩⟩
    let url : Text := "https://docs.test/sql/select.md"
    let gap : PageOperands := ⟨none, some "select", none⟩
    (∃ fragment file, ofWords surroundings.environment
        ["render", "sql", "select", "--base-url", "https://docs.test//"] =
      .ok (.render page options fragment file)) ∧
    Tells surroundings page options url ∧
    ((run surroundings (.headings page options false)).requests silent).head? = some url ∧
    ((Web.Server.respond viewer request).requests silent).head? = some url ∧
    run surroundings (.headings gap options false) =
      .done (.finish (.failed [] (.address (.missingParent .subpage .category)))) := by
  intro surroundings page options viewer silent request url gap
  let address : Address := ⟨["sql".toList, "select".toList], by simp, by simp⟩
  let config : Config := { Config.default with port := 9000, baseUrl := "https://docs.test//" }
  have isAddress : page.address = .ok address := rfl
  have loads : options.load surroundings none (some 9000) = .ok ⟨config, none⟩ := by
    decide +kernel
  have made : config.viewer = .ok viewer := rfl
  have names : Web.Names "sql/select" address := ⟨"sql/select", by decide +kernel, rfl⟩
  have asks : request.AsksFor address := ⟨.inl rfl, _, names, .inl (.behind _)⟩
  have same : viewer.location.url address = url := by decide +kernel
  have isUrl : ofWords surroundings.environment
      ["url", "sql", "select", "--base-url", "https://docs.test//"] = .ok (.url page options) := by
    decide +kernel
  obtain ⟨words, first, served, -⟩ :=
    told_url_is_asked_for_first surroundings .standard page options
  obtain ⟨-, -, -, failed⟩ := told_url_is_asked_for_first surroundings .standard gap options
  obtain ⟨told, tells, ofServer⟩ := served none (some 9000) ⟨config, none⟩ viewer address loads
    made isAddress
  have ofServer := ofServer request asks silent
  obtain rfl : told = viewer.location.url address := by
    rw [Web.Server.head?_requests_respond asks silent] at ofServer
    exact (Option.some.inj ofServer).symm
  rw [same] at tells ofServer
  obtain ⟨shown, alsoTells, ofHeadings⟩ := first _ (.headings false) silent (by decide +kernel)
  obtain rfl := tells.unique alsoTells
  exact ⟨(words _ isUrl).1, tells, ofHeadings, ofServer,
    failed _ rfl (by decide) _ (.headings false)⟩

end Command

end DocSite
