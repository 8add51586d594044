import DocSite.Text.Basic

/-!
# Responses

What the server answers: a status, headers and a body. The headers that tell a browser what the
pages of the site may do are set on a response when it is made, in the place of others of their
names.
-/

namespace DocSite.Web

/-- A header: its name and its value. -/
abbrev Header := Text × Text

/-- An answer of the server. -/
structure Response where
  /-- The status. -/
  status : Nat
  /-- The headers. -/
  headers : List Header
  /-- The body. -/
  body : Text
  deriving DecidableEq, Repr

namespace Response

/-! ## Headers -/

/-- A body of a certain type. -/
def contentType (value : String) : Header :=
  ("content-type".toList, value.toList)

/-- How long a response may be kept. -/
def cacheControl (value : String) : Header :=
  ("cache-control".toList, value.toList)

/-- What pages may load: no scripts, fonts and their styles from one host, and images from
everywhere. -/
def contentPolicy : Text :=
  Text.join "; " [
    "default-src 'self'".toList,
    "script-src 'none'".toList,
    "style-src 'self' 'unsafe-inline' https://fonts.googleapis.com".toList,
    "font-src 'self' https://fonts.gstatic.com".toList,
    "img-src 'self' data: https:".toList,
    "connect-src 'self'".toList,
    "frame-ancestors 'none'".toList]

/-- The headers that guard pages. -/
def securityHeaders : List Header :=
  [("content-security-policy".toList, contentPolicy),
    ("x-content-type-options".toList, "nosniff".toList),
    ("x-frame-options".toList, "DENY".toList)]

/-- The response with a header, which takes the place of all others of its name. -/
def withHeader (response : Response) (header : Header) : Response :=
  { response with
    headers := response.headers.filter (fun other => other.1 != header.1) ++ [header] }

/-- The response with the headers that guard pages. -/
def guarded (response : Response) : Response :=
  securityHeaders.foldl withHeader response

/-! ## Responses -/

/-- A page. -/
def page (markup : Text) : Response where
  status := 200
  headers := [contentType "text/html; charset=utf-8", cacheControl "no-cache"]
  body := markup

/-- A stylesheet. -/
def stylesheet (rules : Text) : Response where
  status := 200
  headers := [contentType "text/css; charset=utf-8", cacheControl "public, max-age=3600"]
  body := rules

/-- JSON with a status. -/
def json (status : Nat) (written : Text) : Response where
  status := status
  headers := [contentType "application/json"]
  body := written

/-- The way to another route. -/
def redirect (route : Text) : Response where
  status := 307
  headers := [("location".toList, route)]
  body := []

/-- There is nothing at this path. -/
def notFound : Response where
  status := 404
  headers := []
  body := []

/-- The path is known, and the method is not. -/
def methodNotAllowed : Response where
  status := 405
  headers := [("allow".toList, "GET,HEAD".toList)]
  body := []

/-- The path stands for no text. -/
def invalidPath : Response where
  status := 400
  headers := [contentType "text/plain; charset=utf-8"]
  body := "Invalid URL: Invalid UTF-8 in `path`"

/-- The response without its body. -/
def withoutBody (response : Response) : Response :=
  { response with body := [] }

end Response

end DocSite.Web
