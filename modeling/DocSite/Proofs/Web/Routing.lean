import DocSite.Proofs.Site.Loading
import DocSite.Proofs.Web.Answers
import DocSite.Proofs.Web.Paths
import DocSite.Proofs.Web.PercentForm

/-!
# Each page has its own path

Whatever is in the segments of an address, its page is found where its segments, in any percent
forms, are put one behind the other. What is served there belongs to that address and to no other.
-/

namespace DocSite

/-! ## Targets -/

namespace Web.Target

theorem pathOf?_eq {path : Text} (plain : ∀ c ∈ path, isPathChar c) :
    pathOf? path = some path := by
  have all : ∀ c ∈ path, (c != '?' && c != '#') = true := by
    intro c member
    have isPath := plain c member
    simp only [Bool.and_eq_true, bne_iff_ne, ne_eq]
    constructor
    · rintro rfl
      exact absurd isPath (by decide)
    · rintro rfl
      exact absurd isPath (by decide)
  have whole : path.takeWhile (fun c => c != '?' && c != '#') = path :=
    List.takeWhile_eq_self_iff.mpr all
  have isPath : path.all isPathChar = true := List.all_eq_true.mpr plain
  simp [pathOf?, whole, isPath]

theorem parse?_path {rest : Text} (plain : ∀ c ∈ '/' :: rest, isPathChar c)
    (short : (Text.toUtf8 ('/' :: rest)).length ≤ greatestLength) :
    parse? ('/' :: rest) = some { path := '/' :: rest } := by
  rw [parse?, if_neg (by omega), pathOf?_eq plain]
  rfl

end Web.Target

namespace Web

/-! ## Percent forms of paths -/

theorem percentForm_slashes (count : Nat) :
    PercentForm (List.replicate count '/') (List.replicate count '/') := by
  induction count with
  | zero => exact .nil
  | succ count induction => exact .kept (by decide) (by decide) induction

theorem percentForm_join {written segments : List Text}
    (forms : List.Forall₂ PercentForm written segments) :
    PercentForm (Text.join "/" written) (Text.join "/" segments) := by
  induction forms with
  | nil => exact .nil
  | @cons first segment written segments form forms induction =>
      cases forms with
      | nil => exact form
      | cons next rest =>
          have slash := percentForm_slashes 1
          exact (form.append slash).append induction

/-- What a path is read as when it is made of percent forms of an address. -/
theorem percentForm_path {address : Address} {written : List Text}
    (forms : List.Forall₂ PercentForm written address.segments) (slashes : Nat) :
    PercentForm (Text.join "/" written ++ List.replicate slashes '/')
      (address.path ++ List.replicate slashes '/') :=
  (percentForm_join forms).append (percentForm_slashes slashes)

/-! ## Pages at their paths -/

namespace Server

/-- A request for a URI is in order, and is answered by what a certain computation gives, with the
headers that guard pages. -/
def Answers (viewer : Viewer) (uri : Text) (answer : Fetching Response) : Prop :=
  ∃ target, Target.parse? uri = some target ∧
    respond viewer { method := "GET", target } = do return (← answer).guarded

/-- The server takes URIs of this length. -/
def Fits (uri : Text) : Prop :=
  (Text.toUtf8 uri).length ≤ Target.greatestLength

theorem isPathChar_docs : ∀ c ∈ "/docs/".toList, Target.isPathChar c :=
  List.all_eq_true.mp (by decide)

theorem isPathChar_apiDocs : ∀ c ∈ "/api/docs/".toList, Target.isPathChar c :=
  List.all_eq_true.mp (by decide)

theorem answers_of_respond {viewer : Viewer} {start path : Text} {answer : Fetching Response}
    (startPlain : ∀ c ∈ '/' :: start, Target.isPathChar c)
    (plain : ∀ c ∈ path, Target.isPathChar c) (fits : Fits ('/' :: start ++ path))
    (responds : respond viewer { method := "GET", target := { path := '/' :: start ++ path } } = do
      return (← answer).guarded) :
    Answers viewer ('/' :: start ++ path) answer := by
  have allPlain : ∀ c ∈ '/' :: start ++ path, Target.isPathChar c :=
    List.forall_mem_append.mpr ⟨startPlain, plain⟩
  exact ⟨_, Target.parse?_path allPlain fits, responds⟩

section Forms

variable {address : Address} {path : Text} {slashes : Nat} (whole : address.Whole)
  (form : PercentForm path (address.path ++ List.replicate slashes '/'))
include whole form

theorem withAddress_of_percentForm (answer : Address → Fetching Response) :
    withAddress path answer = answer address :=
  withAddress_ok form.read_eq (parseAddress_eq_ok_iff.mpr ⟨whole, slashes, rfl⟩) answer

theorem answers_page {viewer : Viewer} (fits : Fits ("/docs/".toList ++ path)) :
    Answers viewer ("/docs/".toList ++ path) (servePage viewer address) := by
  have responds := respond_pageRequest viewer path
  rw [withAddress_of_percentForm whole form (servePage viewer)] at responds
  exact answers_of_respond isPathChar_docs form.isPathChar fits responds

theorem answers_document {viewer : Viewer} (fits : Fits ("/api/docs/".toList ++ path)) :
    Answers viewer ("/api/docs/".toList ++ path) (serveDocument viewer address) := by
  have responds := respond_documentRequest viewer path
  rw [withAddress_of_percentForm whole form (serveDocument viewer)] at responds
  exact answers_of_respond isPathChar_apiDocs form.isPathChar fits responds

end Forms

theorem servePage_requests (viewer : Viewer) (source : Source) (address : Address) :
    (servePage viewer address).requests source =
      [viewer.location.url address, viewer.sidebarUrl] := by
  rw [servePage, Fetching.requests_bind, Viewer.page, Viewer.pageWith_requests]
  rfl

theorem serveDocument_requests (viewer : Viewer) (source : Source) (address : Address) :
    (serveDocument viewer address).requests source = [viewer.location.url address] := by
  rw [serveDocument, Fetching.requests_bind, Viewer.load_requests]
  rfl

theorem route_of_parseAddress {path : Text} {address : Address}
    (parsed : parseAddress path = .ok address) :
    address.route =
      if address = .root then "/docs".toList
      else "/docs/".toList ++ Text.dropEndWhile (· == '/') path := by
  rw [dropEndWhile_of_parseAddress parsed]
  split
  · next isRoot => rw [isRoot, Address.route_root]
  · next other => exact Address.route_of_ne_root other

/-- The page of an address and its document are found where the segments stand in any percent forms,
with any number of slashes behind them, and its document is what is fetched first. The route of an
address is the path that leads to it, without the slashes at its end, and two paths lead to one
address if and only if they differ in such slashes. -/
theorem page_has_own_paths (viewer : Viewer) :
    (∀ (address : Address) (written : List Text) (slashes : Nat), address.Whole →
      List.Forall₂ PercentForm written address.segments →
      let path := Text.join "/" written ++ List.replicate slashes '/'
      (Fits ("/docs/".toList ++ path) →
        Answers viewer ("/docs/".toList ++ path) (servePage viewer address)) ∧
      (Fits ("/api/docs/".toList ++ path) →
        Answers viewer ("/api/docs/".toList ++ path) (serveDocument viewer address)) ∧
      ∀ source,
        (servePage viewer address).requests source =
          [viewer.location.url address, viewer.sidebarUrl] ∧
        (serveDocument viewer address).requests source = [viewer.location.url address]) ∧
    (∀ path address, parseAddress path = .ok address →
      address.route =
        if address = .root then "/docs".toList
        else "/docs/".toList ++ Text.dropEndWhile (· == '/') path) ∧
    ∀ path other address otherAddress,
      parseAddress path = .ok address → parseAddress other = .ok otherAddress →
      (address = otherAddress ↔
        Text.dropEndWhile (· == '/') path = Text.dropEndWhile (· == '/') other) := by
  refine ⟨?_, fun _ _ => route_of_parseAddress, fun _ _ _ _ => parseAddress_eq_iff⟩
  intro address written slashes whole forms path
  have form := percentForm_path forms slashes
  refine ⟨answers_page whole form, answers_document whole form, fun source => ?_⟩
  exact ⟨servePage_requests viewer source address, serveDocument_requests viewer source address⟩

/-- A page whose segments hold a percent sign, a space and the marks of a query and a fragment. -/
theorem page_has_own_paths_marks :
    let viewer := Viewer.default
    let address : Address := ⟨["100%".toList, "a ?#..".toList], by simp, by simp⟩
    Answers viewer "/docs/100%25/a%20%3f%23%2e%2e//".toList (servePage viewer address) ∧
      address.route = "/docs/".toList ++ Text.dropEndWhile (· == '/') "100%/a ?#..//".toList ∧
      ∀ other, parseAddress "100%/a ?#../".toList = .ok other → address = other := by
  intro viewer address
  have own := page_has_own_paths viewer
  have whole : address.Whole := by
    simp [Address.Whole, address]
  have forms := percentForms_alphanumeric address.segments
  have parsed : parseAddress "100%/a ?#..//".toList = .ok address := rfl
  refine ⟨(own.1 address _ 2 whole forms).1 ?_, ?_, fun other otherParsed => ?_⟩
  · rw [Fits]
    decide +kernel
  · exact (own.2.1 _ address parsed).trans (if_neg (by simp [address, Address.root]))
  · exact (own.2.2 _ _ address other parsed otherParsed).mpr (by decide +kernel)

end Server

end Web

end DocSite
