import DocSite.Text.Basic

/-!
# Fetching

A source answers URLs with texts or failures. A computation that needs answers is a value of
`Fetching`: it is done, or it asks for one URL and goes on with the answer. Running it against a
source gives its result, and the list of the URLs that it asked for.
-/

namespace DocSite

/-- Why a text could not be fetched. -/
inductive FetchError
  /-- No answer was received. -/
  | transport (url : Text)
  /-- The answer has a status that is no success. -/
  | status (url : Text) (code : Nat)
  /-- The body of the answer is no text. -/
  | body (url : Text)
  deriving DecidableEq, Repr

namespace FetchError

/-- The URL that was asked for. -/
def url : FetchError → Text
  | transport url => url
  | status url _ => url
  | body url => url

/-- The message of an error. -/
def message : FetchError → Text
  | transport url => "Request to ".toList ++ url ++ " failed".toList
  | status url code => "Request to ".toList ++ url ++ " returned HTTP ".toList ++ Text.ofNat code
  | body url => "Failed to read response body from ".toList ++ url

end FetchError

/-- What fetching a URL gives. -/
abbrev Fetched := Except FetchError Text

/-- Something that answers URLs. -/
abbrev Source := Text → Fetched

/-- A computation that may ask for texts by their URLs. -/
inductive Fetching (α : Type)
  /-- The result is known. -/
  | done (result : α)
  /-- A text is asked for; what follows depends on the answer. -/
  | ask (url : Text) (next : Fetched → Fetching α)

namespace Fetching

/-- Goes on with the result of a computation. -/
def bind {α β : Type} (first : Fetching α) (next : α → Fetching β) : Fetching β :=
  match first with
  | done result => next result
  | ask url rest => ask url fun answer => (rest answer).bind next

instance : Monad Fetching where
  pure := done
  bind := bind

/-- Asks for one text. -/
def fetch (url : Text) : Fetching Fetched :=
  ask url done

/-- The result of a computation when a source answers it. -/
def result {α : Type} (source : Source) : Fetching α → α
  | done value => value
  | ask url next => (next (source url)).result source

/-- The URLs that a computation asks a source for, in order. -/
def requests {α : Type} (source : Source) : Fetching α → List Text
  | done _ => []
  | ask url next => url :: (next (source url)).requests source

end Fetching

/-! ## Documents that have been fetched -/

/-- The document of the current page. -/
inductive Content
  /-- Nothing has been fetched yet. -/
  | empty
  /-- The Markdown text that was fetched. -/
  | markdown (body : Text)
  /-- Fetching failed. -/
  | unavailable
  deriving DecidableEq, Repr

namespace Content

/-- What is shown in the place of a document that could not be fetched. -/
def placeholder : Text := "Error loading content."

/-- The content that an answer gives. -/
def ofFetched : Fetched → Content
  | .ok body => markdown body
  | .error _ => unavailable

/-- The Markdown text to show. -/
def text : Content → Text
  | empty => []
  | markdown body => body
  | unavailable => placeholder

/-- Whether fetching failed. -/
def isUnavailable : Content → Bool
  | unavailable => true
  | _ => false

end Content

end DocSite
