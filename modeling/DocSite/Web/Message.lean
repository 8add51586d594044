import DocSite.Site.Fetch
import DocSite.Text.Blank
import DocSite.Web.Server

/-!
# Messages on a connection

A request and a reply are sent as lines that end in a carriage return and a line feed, an empty line
and a body. This module reads and writes them, both for fetching documents and for serving pages. Each
connection carries one request and one reply.
-/

namespace DocSite.Web

/-! ## Heads and bodies -/

/-- The end of a line. -/
def lineEnd : Text := ['\r', '\n']

/-- The bytes of a text whose characters are bytes. -/
def bytesOf (text : Text) : Text.Bytes :=
  text.map fun c => UInt8.ofNat c.toNat

/-- The text whose characters are some bytes. -/
def textOf (bytes : Text.Bytes) : Text :=
  bytes.map fun byte => Char.ofNat byte.toNat

/-- Cuts bytes behind the first empty line. -/
def cutHead? : Text.Bytes → Option (Text.Bytes × Text.Bytes)
  | [] => none
  | 13 :: 10 :: 13 :: 10 :: body => some ([], body)
  | byte :: rest => (cutHead? rest).map fun (head, body) => (byte :: head, body)

/-- The lines of a head. -/
def headLines (head : Text.Bytes) : List Text :=
  (Text.splitAt (· == '\n') (textOf head)).map fun line =>
    Text.dropEndWhile (· == '\r') line

/-- The header on a line, with its name in lower case. -/
def headerOf? (line : Text) : Option Header :=
  let name := line.takeWhile (· != ':')
  match line.drop name.length with
  | _ :: value => some (name.map Text.asciiLower, Text.trim value)
  | [] => none

/-- The number that a text of digits of some base stands for. -/
def numberOf? (isDigit : Char → Bool) (value : Text → Nat) (text : Text) : Option Nat :=
  if text.isEmpty || !text.all isDigit then none else some (value text)

/-- The bytes of a body in chunks, each of which has its length on a line before it. -/
def joinChunks? : (fuel : Nat) → Text.Bytes → Option Text.Bytes
  | 0, _ => none
  | fuel + 1, bytes =>
    let line := bytes.takeWhile (· != 10)
    let digits := (textOf line).takeWhile Text.isHexDigit
    match numberOf? Text.isHexDigit Text.hexadecimalValue digits with
    | none => none
    | some 0 => some []
    | some length =>
      let rest := bytes.drop (line.length + 1)
      if rest.length < length + 2 then none
      else (joinChunks? fuel (rest.drop (length + 2))).map (rest.take length ++ ·)

/-! ## Fetching -/

/-- What a URL without encryption leads to. -/
structure Destination where
  /-- The name of the host. -/
  host : Text
  /-- The number of the port. -/
  port : Nat
  /-- The path and the query. -/
  target : Text
  deriving DecidableEq, Repr

namespace Destination

/-- The scheme of URLs without encryption. -/
def scheme : Text := "http://"

/-- The name and the port in the part of a URL that names a host. -/
def hostAndPort? (authority : Text) : Option (Text × Nat) :=
  let named := (authority.reverse.takeWhile (· != '@')).reverse
  let digits := (named.reverse.takeWhile Text.isAsciiDigit).reverse
  let before := named.take (named.length - digits.length)
  match before.reverse with
  | ':' :: host =>
    if host.isEmpty then none
    else if digits.isEmpty then some (host.reverse, 80)
    else some (host.reverse, Text.decimalValue digits)
  | _ => if named.isEmpty then none else some (named, 80)

/-- The destination of a URL. There is none for URLs with other schemes. -/
def parse? (url : Text) : Option Destination := do
  guard (Text.startsWithIgnoringCase url scheme && (Target.parse? url).isSome)
  let rest := url.drop scheme.length
  let authority := rest.takeWhile fun c => c != '/' && c != '?' && c != '#'
  let (host, port) ← hostAndPort? authority
  let target := (rest.drop authority.length).takeWhile (· != '#')
  let target := if Text.startsWith target ['/'] then target else '/' :: target
  return { host, port, target }

/-- The request for a document. -/
def request (destination : Destination) : Text.Bytes :=
  let port := if destination.port = 80 then [] else ':' :: Text.ofNat destination.port
  Text.toUtf8 <|
    "GET ".toList ++ destination.target ++ " HTTP/1.1".toList ++ lineEnd ++
    "Host: ".toList ++ destination.host ++ port ++ lineEnd ++
    "Accept: text/markdown, text/plain, */*".toList ++ lineEnd ++
    "Connection: close".toList ++ lineEnd ++ lineEnd

end Destination

/-- What a host replies. -/
structure Reply where
  /-- The status. -/
  status : Nat
  /-- The headers, with names in lower case. -/
  headers : List Header
  /-- The body. -/
  body : Text.Bytes
  deriving DecidableEq, Repr

namespace Reply

/-- The status on the first line of a reply. -/
def statusOf? (line : Text) : Option Nat :=
  match Text.words line with
  | version :: code :: _ =>
    if Text.startsWith version "HTTP/1.".toList then
      numberOf? Text.isAsciiDigit Text.decimalValue code
    else none
  | _ => none

/-- The body that the headers announce, in the bytes that have been received. -/
def bodyOf? (headers : List Header) (received : Text.Bytes) : Option Text.Bytes :=
  if headers.lookup "transfer-encoding".toList = some "chunked".toList then
    joinChunks? received.length received
  else
    match headers.lookup "content-length".toList with
    | none => some received
    | some digits => do
      let length ← numberOf? Text.isAsciiDigit Text.decimalValue digits
      if received.length < length then none else some (received.take length)

/-- The reply in the bytes that have been received. -/
def parse? (received : Text.Bytes) : Option Reply := do
  let (head, rest) ← cutHead? received
  match headLines head with
  | [] => none
  | first :: lines =>
    let status ← statusOf? first
    let headers := lines.filterMap headerOf?
    return { status, headers, body := ← bodyOf? headers rest }

/-- The greatest number of bytes in a document. -/
def greatestBody : Nat := 10 * 1024 * 1024

/-- What a reply to the request for a URL gives. -/
def fetched (reply : Reply) (url : Text) : Fetched :=
  if 200 ≤ reply.status ∧ reply.status < 300 then
    if greatestBody < reply.body.length then .error (.body url)
    else
      match Text.ofUtf8? reply.body with
      | some text => .ok text
      | none => .error (.body url)
  else .error (.status url reply.status)

/-- The URL up to its path. -/
def originOf (url : Text) : Text :=
  url.take 7 ++ (url.drop 7).takeWhile fun c => c != '/' && c != '?' && c != '#'

/-- The URL up to the last slash of its path. -/
def directoryOf (url : Text) : Text :=
  let origin := originOf url
  let path := (url.drop origin.length).takeWhile fun c => c != '?' && c != '#'
  origin ++ if path.isEmpty then ['/'] else (path.reverse.dropWhile (· != '/')).reverse

/-- The URL that a reply to the request for a URL points to. -/
def redirection? (reply : Reply) (url : Text) : Option Text :=
  if [301, 302, 303, 307, 308].contains reply.status then
    (reply.headers.lookup "location".toList).map fun location =>
      if (Target.scheme? location).isSome then location
      else if Text.startsWith location "//".toList then url.takeWhile (· != '/') ++ location
      else if Text.startsWith location ['/'] then originOf url ++ location
      else directoryOf url ++ location
  else none

end Reply

/-! ## Serving -/

/-- The request in the bytes that have been received. -/
def Request.parse? (received : Text.Bytes) : Option Request := do
  let (head, _) ← cutHead? received
  match headLines head with
  | [] => none
  | first :: _ =>
    match Text.splitAt (· == ' ') first with
    | [method, target, _] => return { method, target := ← Target.parse? target }
    | _ => none

namespace Response

/-- The request is not in order. -/
def badRequest : Response where
  status := 400
  headers := []
  body := []

/-- The words for a status. -/
def reason (status : Nat) : Text :=
  if status = 200 then "OK"
  else if status = 307 then "Temporary Redirect"
  else if status = 400 then "Bad Request"
  else if status = 404 then "Not Found"
  else "Method Not Allowed"

/-- A response as it is sent. -/
def send (response : Response) : Text.Bytes :=
  let body := Text.toUtf8 response.body
  let headers := response.headers ++
    [("content-length".toList, Text.ofNat body.length), ("connection".toList, "close".toList)]
  let head := "HTTP/1.1 ".toList ++ Text.ofNat response.status ++ ' ' :: reason response.status ++
    lineEnd ++ headers.flatMap (fun (name, value) => name ++ ':' :: ' ' :: value ++ lineEnd) ++
    lineEnd
  Text.toUtf8 head ++ body

end Response

end DocSite.Web
