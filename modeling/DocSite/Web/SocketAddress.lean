import DocSite.Text.Basic

/-!
# Socket addresses

An address to serve on is the number of a host, a colon and the number of a port. The number of a
host is written as four decimal numbers with points between them, or as eight hexadecimal numbers with
colons between them and with brackets around them. Names of hosts are no addresses.
-/

namespace DocSite.Web

/-- The number of a host. -/
inductive HostNumber
  /-- A number of four bytes. -/
  | four (a b c d : Nat)
  /-- A number of eight pairs of bytes, and the number of the network it is seen from. -/
  | eight (groups : List Nat) (zone : Nat)
  deriving DecidableEq, Repr

/-- The address of a socket. -/
structure SocketAddress where
  /-- The host. -/
  host : HostNumber
  /-- The port. -/
  port : Nat
  deriving DecidableEq, Repr

namespace SocketAddress

/-- Reads a decimal number. -/
def decimal? (greatest : Nat) (text : Text) : Option (Nat × Text) :=
  let digits := text.takeWhile Text.isAsciiDigit
  let number := Text.decimalValue digits
  if digits.isEmpty || greatest < number then none else some (number, text.drop digits.length)

/-- Reads a decimal number of one byte, without zeros before it. -/
def byte? (text : Text) : Option (Nat × Text) :=
  let digits := text.takeWhile Text.isAsciiDigit
  if 3 < digits.length || (Text.startsWith digits ['0'] && 1 < digits.length) then none
  else decimal? 255 text

/-- Reads four bytes with points between them. -/
def fourBytes? (text : Text) : Option (List Nat × Text) := do
  let (a, rest) ← byte? text
  let ('.' :: rest) := rest | none
  let (b, rest) ← byte? rest
  let ('.' :: rest) := rest | none
  let (c, rest) ← byte? rest
  let ('.' :: rest) := rest | none
  let (d, rest) ← byte? rest
  return ([a, b, c, d], rest)

/-- Reads a hexadecimal number of two bytes. -/
def group? (text : Text) : Option (Nat × Text) :=
  let digits := text.takeWhile Text.isHexDigit
  if digits.isEmpty || 4 < digits.length then none
  else some (Text.hexadecimalValue digits, text.drop digits.length)

/-- What has been read of a row of groups. -/
structure Groups where
  /-- The groups. -/
  groups : List Nat
  /-- The row ends with four bytes in decimal numbers. -/
  bytesAtEnd : Bool
  /-- The text behind the row. -/
  rest : Text

/-- Reads a row of at most `limit` groups with colons between them. Four bytes in decimal numbers may
stand for the last two groups. -/
def groupsUpTo : (limit : Nat) → (isFirst : Bool) → Text → Groups
  | 0, _, text => ⟨[], false, text⟩
  | limit + 1, isFirst, text =>
    let behindColon? := match isFirst, text with
      | true, text => some text
      | false, ':' :: rest => some rest
      | false, _ => none
    let bytes? := if limit = 0 then none else behindColon?.bind fourBytes?
    match bytes?, behindColon?.bind group? with
    | some ([a, b, c, d], rest), _ => ⟨[256 * a + b, 256 * c + d], true, rest⟩
    | _, some (group, rest) =>
      let row := groupsUpTo limit false rest
      { row with groups := group :: row.groups }
    | _, none => ⟨[], false, text⟩

/-- Reads eight groups; two colons stand for at least one group that is zero. -/
def eightGroups? (text : Text) : Option (List Nat × Text) :=
  let head := groupsUpTo 8 true text
  if head.groups.length = 8 then some (head.groups, head.rest)
  else if head.bytesAtEnd then none
  else
    match head.rest with
    | ':' :: ':' :: rest =>
      let tail := groupsUpTo (7 - head.groups.length) true rest
      let zeros := List.replicate (8 - head.groups.length - tail.groups.length) 0
      some (head.groups ++ zeros ++ tail.groups, tail.rest)
    | _ => none

/-- Reads a colon and the number of a port up to the end. -/
def port? : Text → Option Nat
  | ':' :: rest =>
    match decimal? 65535 rest with
    | some (port, []) => some port
    | _ => none
  | _ => none

/-- Reads the number of a network behind a percent sign, if there is one. -/
def zone? : Text → Option (Nat × Text)
  | '%' :: rest => decimal? 4294967295 rest
  | text => some (0, text)

/-- The address that a text stands for. -/
def parse? (text : Text) : Option SocketAddress :=
  match text with
  | '[' :: rest => do
    let (groups, rest) ← eightGroups? rest
    let (zone, rest) ← zone? rest
    let (']' :: rest) := rest | none
    return { host := .eight groups zone, port := ← port? rest }
  | _ => do
    let ([a, b, c, d], rest) ← fourBytes? text | none
    return { host := .four a b c d, port := ← port? rest }

end SocketAddress

end DocSite.Web
