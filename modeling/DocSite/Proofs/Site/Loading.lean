import DocSite.Proofs.Except
import DocSite.Proofs.Site.Fetching
import DocSite.Site.Viewer

/-!
# What a viewer fetches and shows

A viewer can be made if its code can be given colours. All that it shows of a page comes from one
answer for its document, and what it shows around the document from one answer for the table of
contents. The document is fetched first.
-/

namespace DocSite

/-! ## Making viewers -/

theorem Code.Highlighter.withTheme_eq_ok_iff {name : Text} {highlighter : Code.Highlighter} :
    withTheme name = .ok highlighter ↔ name ∈ themeNames ∧ ⟨name⟩ = highlighter := by
  by_cases known : name ∈ themeNames <;> simp [withTheme, known]

theorem ViewerSettings.stylesheet_eq_ok_iff {settings : ViewerSettings} {tools : Document.Tools}
    {stylesheet : Text} :
    settings.stylesheet tools = .ok stylesheet ↔
      settings.codeTheme ∈ Code.themeNames ∧
        ∃ codeRules, tools.codeRules settings.codeTheme = .ok codeRules ∧
          settings.theme.stylesheet codeRules = stylesheet := by
  constructor
  · intro written
    obtain ⟨highlighter, isMade, written⟩ := Except.bind_eq_ok_iff.mp written
    obtain ⟨codeRules, rules, same⟩ := Except.bind_eq_ok_iff.mp written
    obtain ⟨known, rfl⟩ := Code.Highlighter.withTheme_eq_ok_iff.mp isMade
    exact ⟨known, codeRules, Except.mapError_eq_ok_iff.mp rules, Except.ok.inj same⟩
  · rintro ⟨known, codeRules, rules, rfl⟩
    refine Except.bind_eq_ok_iff.mpr
      ⟨_, Code.Highlighter.withTheme_eq_ok_iff.mpr ⟨known, rfl⟩, ?_⟩
    exact Except.bind_eq_ok_iff.mpr ⟨codeRules, Except.mapError_eq_ok_iff.mpr rules, rfl⟩

namespace Viewer

/-- A viewer can be made if its colour theme is known and the tools write rules for it. -/
theorem of_eq_ok_iff {settings : ViewerSettings} {tools : Document.Tools} {viewer : Viewer} :
    of settings tools = .ok viewer ↔
      settings.codeTheme ∈ Code.themeNames ∧
        ∃ codeRules, tools.codeRules settings.codeTheme = .ok codeRules ∧
          viewer =
            { location := .of settings.baseUrl settings.rootDocument
              sidebarUrl := settings.sidebarUrl
              theme := settings.theme
              tools := tools
              stylesheet := settings.theme.stylesheet codeRules } := by
  rw [of]
  constructor
  · intro made
    split at made
    · nomatch made
    · next stylesheet written =>
        obtain ⟨known, codeRules, rules, rfl⟩ :=
          ViewerSettings.stylesheet_eq_ok_iff.mp written
        exact ⟨known, codeRules, rules, (Except.ok.inj made).symm⟩
  · rintro ⟨known, codeRules, rules, rfl⟩
    rw [ViewerSettings.stylesheet_eq_ok_iff.mpr ⟨known, codeRules, rules, rfl⟩]

/-! ## Loading pages -/

variable (viewer : Viewer) (source : Source) (address : Address)

/-- The document of a page as a source gives it. -/
def renditionFrom : Rendition :=
  .of viewer.renderer (.ofFetched (source (viewer.location.url address)))

theorem load_requests :
    (viewer.load address).requests source = [viewer.location.url address] :=
  rfl

theorem rendition_load :
    ((viewer.load address).result source).rendition = viewer.renditionFrom source address :=
  rfl

theorem document_result :
    (viewer.document address).result source = viewer.renditionFrom source address := by
  rw [document, Fetching.result_bind, Fetching.result_pure, rendition_load]

theorem document_requests :
    (viewer.document address).requests source = [viewer.location.url address] :=
  rfl

theorem sidebar_requests : viewer.sidebar.requests source = [viewer.sidebarUrl] :=
  rfl

theorem pageWith_result (stylesheet : Stylesheet) :
    (viewer.pageWith stylesheet address).result source =
      { address := address
        content := (viewer.renditionFrom source address).html
        headings := (viewer.renditionFrom source address).headings
        sidebar := viewer.sidebar.result source
        stylesheet := stylesheet
        fontsUrl := viewer.theme.fontsUrl } := by
  simp only [pageWith, Fetching.result_bind, Fetching.result_pure, document_result]

theorem pageWith_requests (stylesheet : Stylesheet) :
    (viewer.pageWith stylesheet address).requests source =
      [viewer.location.url address, viewer.sidebarUrl] := by
  simp only [pageWith, Fetching.requests_bind, Fetching.requests_pure, document_requests,
    sidebar_requests, List.append_nil, List.singleton_append]

end Viewer

end DocSite
