import DocSite.Text.Utf8

/-!
# Request targets

The target of a request is a path with perhaps a query, an address with a scheme in front of these,
the name of a host, or an asterisk. A path may hold characters in the form of a percent sign and two
hexadecimal digits for each of their bytes.
-/

namespace DocSite.Web

/-! ## Percent signs -/

/-- The bytes of a text in which a percent sign with two hexadecimal digits stands for a byte; the
first `skip` characters are digits of a byte that has been given. -/
def percentDecodeFrom : (skip : Nat) → Text → Text.Bytes
  | _, [] => []
  | skip + 1, _ :: rest => percentDecodeFrom skip rest
  | 0, c :: rest =>
    let digits := rest.take 2
    if c == '%' && digits.length == 2 && digits.all Text.isHexDigit then
      UInt8.ofNat (Text.hexadecimalValue digits) :: percentDecodeFrom 2 rest
    else Text.utf8OfChar c ++ percentDecodeFrom 0 rest

/-- The bytes of a text in which a percent sign with two hexadecimal digits stands for a byte. Other
percent signs stand for themselves. -/
def percentDecode (text : Text) : Text.Bytes :=
  percentDecodeFrom 0 text

/-! ## Targets -/

/-- The target of a request, without its query. -/
structure Target where
  /-- The path. It is empty when the target is the name of a host. -/
  path : Text
  deriving DecidableEq, Repr

namespace Target

/-- The greatest number of bytes in a target. -/
def greatestLength : Nat := 65534

/-- A character that may stand in a path. -/
def isPathChar (c : Char) : Bool :=
  c == '!' || c == '\x22' || ('$' ≤ c && c ≤ ';') || c == '=' || ('@' ≤ c && c ≤ '_') ||
    ('a' ≤ c && c ≤ '~') || '\x7f' ≤ c

/-- A character that may stand in a query. -/
def isQueryChar (c : Char) : Bool :=
  c == '!' || ('$' ≤ c && c ≤ ';') || c == '=' || '?' ≤ c

/-- The path of a path with a query, if both are in order. What follows a number sign is not
looked at. -/
def pathOf? (text : Text) : Option Text :=
  let path := text.takeWhile fun c => c != '?' && c != '#'
  let query := match text.drop path.length with
    | '?' :: rest => rest.takeWhile (· != '#')
    | _ => []
  if path.all isPathChar && query.all isQueryChar then some path else none

/-- A character that may stand in a scheme. -/
def isSchemeChar (c : Char) : Bool :=
  Text.isAsciiAlphanumeric c || c == '+' || c == '-' || c == '.'

/-- A character that may stand in the name of a host. -/
def isHostChar (c : Char) : Bool :=
  Text.isAsciiAlphanumeric c ||
    ['!', '$', '&', '\x27', '(', ')', '*', '+', ',', '-', '.', ';', '=', '_', '~'].contains c

/-- The greatest number of colons in a row of parts. -/
def greatestColons : Nat := 8

/-- What has been seen of the name of a host. -/
structure HostScan where
  /-- The number of colons since the last bracket or at sign. -/
  colons : Nat := 0
  /-- A bracket was opened. -/
  opened : Bool := false
  /-- A bracket was closed. -/
  closed : Bool := false
  /-- A percent sign came since the last bracket or at sign. -/
  percent : Bool := false
  /-- The last character was an at sign. -/
  atSign : Bool := false

/-- Looks at one character of the name of a host. -/
def HostScan.see? (scan : HostScan) (c : Char) : Option HostScan :=
  let scan := { scan with atSign := c == '@' }
  if c == ':' then
    if scan.colons < greatestColons then some { scan with colons := scan.colons + 1 } else none
  else if c == '[' then
    if scan.percent || scan.opened then none else some { scan with opened := true }
  else if c == ']' then
    if !scan.opened || scan.closed then none
    else some { scan with closed := true, colons := 0, percent := false }
  else if c == '@' then some { scan with colons := 0, percent := false }
  else if c == '%' then some { scan with percent := true }
  else if isHostChar c then some scan
  else none

/-- Whether a text is the name of a host, perhaps with a user before it and a port after it. -/
def isHost (text : Text) : Bool :=
  match text.foldlM HostScan.see? {} with
  | none => false
  | some scan =>
    scan.opened == scan.closed && scan.colons ≤ 1 && !scan.atSign && !scan.percent

/-- The greatest number of characters in a scheme. -/
def greatestScheme : Nat := 64

/-- The scheme that a text begins with and the text behind its colon and slashes, if there is a
scheme. -/
def scheme? (text : Text) : Option (Text × Text) :=
  let scheme := text.takeWhile isSchemeChar
  match text.drop scheme.length with
  | ':' :: '/' :: '/' :: rest => some (scheme, rest)
  | _ => none

/-- The target that a text stands for, if it stands for one. -/
def parse? (text : Text) : Option Target :=
  if greatestLength < (Text.toUtf8 text).length then none
  else
    match text with
    | [] => none
    | ['*'] => some ⟨['*']⟩
    | '/' :: _ => (pathOf? text).map Target.mk
    | _ =>
      match scheme? text with
      | none => if isHost text then some ⟨[]⟩ else none
      | some (scheme, rest) =>
        let host := rest.takeWhile fun c => c != '/' && c != '?' && c != '#'
        if greatestScheme < scheme.length || host.isEmpty || !isHost host then none
        else (pathOf? (rest.drop host.length)).map fun path =>
          ⟨if path.isEmpty then ['/'] else path⟩

end Target

end DocSite.Web
