import RecordGraph.Numeral

/-!
# Addresses of servers

An address names a scheme and a host. A text without a host in it is taken as a host for
the scheme `bolt`. Connecting looks at the address only; nothing is sent.
-/

namespace RecordGraph.Bolt

/-- What is wrong with an address. -/
inductive AddressFault
  | emptyHost
  | hostCharacter
  | hostName
  | hostNumber
  | service
deriving DecidableEq, Repr

def AddressFault.message : AddressFault → String
  | emptyHost => "empty host"
  | hostCharacter => "invalid domain character"
  | hostName => "invalid international domain name"
  | hostNumber => "invalid IPv6 address"
  | service => "invalid port number"

/-- Why a server cannot be connected to. -/
inductive ConnectError
  | unsupportedScheme (scheme : String)
  | badAddress (fault : AddressFault)
deriving DecidableEq, Repr

def ConnectError.message : ConnectError → String
  | unsupportedScheme scheme => "Neo4j connection error: Unsupported URI scheme: " ++ scheme
  | badAddress fault => "Neo4j connection error: Invalid URI: " ++ fault.message

namespace Address

/-- The schemes that servers are reached by. -/
def schemes : List String := ["bolt", "bolt+s", "bolt+ssc", "neo4j", "neo4j+s", "neo4j+ssc"]

/-- The schemes whose addresses must have a host. -/
def hostSchemes : List String := ["http", "https", "ws", "wss", "ftp"]

def isSchemePart (c : Char) : Bool := c.isAlphanum || c = '+' || c = '-' || c = '.'

/-- Control characters and blanks around an address do not count. -/
def isBlank (c : Char) : Bool := c.toNat ≤ 32

/-- A text without tabs and line ends, which count nowhere, and without blanks at its end. -/
def trimmedEnd (cs : List Char) : List Char :=
  ((cs.filter fun c => c ≠ '\t' && c ≠ '\n' && c ≠ '\r').reverse.dropWhile isBlank).reverse

/-- The scheme of an address in lower case, and what follows its colon. -/
def scheme? (cs : List Char) : Option (String × List Char) :=
  match cs with
  | [] => none
  | c :: _ =>
      match c.isAlpha, cs.dropWhile isSchemePart with
      | true, ':' :: rest =>
          some (String.ofList ((cs.takeWhile isSchemePart).map Char.toLower), rest)
      | _, _ => none

/-- The host and the service number, between the slashes and the path. -/
def authority (cs : List Char) : List Char :=
  let whole := cs.takeWhile fun c => c ≠ '/' && c ≠ '?' && c ≠ '#'
  (whole.reverse.takeWhile (· ≠ '@')).reverse

/-- The host of an authority, and what follows it from the colon on. Brackets keep colons to
the host. -/
def split (cs : List Char) : List Char × List Char :=
  match cs with
  | '[' :: _ =>
      match cs.dropWhile (· ≠ ']') with
      | [] => (cs, [])
      | close :: rest => (cs.takeWhile (· ≠ ']') ++ [close], rest)
  | cs => (cs.takeWhile (· ≠ ':'), cs.dropWhile (· ≠ ':'))

/-- The pieces of a text between the places where a character stands. -/
def pieces (separator : Char) (cs : List Char) : List (List Char) :=
  ((String.ofList cs).splitOn (String.singleton separator)).map String.toList

/-- Four numbers below 256 without leading zeros, with points between them. -/
def isIPv4 (cs : List Char) : Bool :=
  let isByte (piece : List Char) : Bool :=
    (Numeral.nat? piece).any (· < 256) && (piece.length = 1 || piece.head? ≠ some '0')
  (pieces '.' cs).length = 4 && (pieces '.' cs).all isByte

/-- The number of sixteen-bit groups in a run of them; the last two of an address may be
written as an address of 32 bits. -/
def groups? (last : Bool) (cs : List Char) : Option Nat :=
  let isHex (c : Char) : Bool :=
    c.isDigit || ('a' ≤ c && c ≤ 'f') || ('A' ≤ c && c ≤ 'F')
  let isGroup (piece : List Char) : Bool := piece.length ≤ 4 && !piece.isEmpty && piece.all isHex
  let found := pieces ':' cs
  if cs.isEmpty then some 0
  else if found.all isGroup then some found.length
  else if last && found.dropLast.all isGroup && isIPv4 (found.getLastD []) then
    some (found.length + 1)
  else none

/-- Eight groups, of which one run of zeros may be left out. -/
def isIPv6 (cs : List Char) : Bool :=
  match ((String.ofList cs).splitOn "::").map String.toList with
  | [whole] => groups? true whole = some 8
  | [start, stop] =>
      match groups? false start, groups? true stop with
      | some m, some n => m + n ≤ 7
      | _, _ => false
  | _ => false

/-- The characters that no host contains. -/
def isForbidden (c : Char) : Bool :=
  c = '\x00' || c = '\t' || c = '\n' || c = '\r' || c = ' ' || c = '#' || c = '/' || c = ':'
    || c = '<' || c = '>' || c = '?' || c = '@' || c = '[' || c = '\\' || c = ']' || c = '^'
    || c = '|'

/-- Whether a service number with its colon is absent, empty or of sixteen bits. -/
def isService : List Char → Bool
  | [] => true
  | ':' :: digits => digits.isEmpty || (Numeral.nat? digits).any (· < 0x10000)
  | _ => false

/-- What is wrong with an authority, if anything. -/
def fault? (hostRequired : Bool) (cs : List Char) : Option AddressFault :=
  let (host, service) := split cs
  match host with
  | [] => if hostRequired || !service.isEmpty then some .emptyHost else none
  | '[' :: inner =>
      if inner.getLast? ≠ some ']' || !isIPv6 inner.dropLast then some .hostNumber
      else if isService service then none else some .service
  | host =>
      if host.any isForbidden then some (if hostRequired then .hostName else .hostCharacter)
      else if isService service then none else some .service

/-- An address of a scheme and an authority, if nothing is wrong with it. -/
def found (scheme : String) (cs : List Char) : Except ConnectError String :=
  match fault? (hostSchemes.contains scheme) cs with
  | some fault => .error (.badAddress fault)
  | none => .ok scheme

/-- The scheme of an address; `bolt` where no host follows a scheme. -/
def scheme (text : String) : Except ConnectError String := do
  let cs := trimmedEnd text.toList
  match scheme? (cs.dropWhile isBlank) with
  | none => found "bolt" (authority cs)
  | some (scheme, rest) =>
      if hostSchemes.contains scheme then
        found scheme (authority (rest.dropWhile fun c => c = '/' || c = '\\'))
      else
        match rest with
        | '/' :: '/' :: rest =>
            let scheme ← found scheme (authority rest)
            if (split (authority rest)).1.isEmpty then found "bolt" (authority cs)
            else return scheme
        | _ => found "bolt" (authority cs)

/-- Checks an address. -/
def check (text : String) : Except ConnectError Unit := do
  let scheme ← scheme text
  if schemes.contains scheme then .ok () else .error (.unsupportedScheme scheme)

end Address

end RecordGraph.Bolt
