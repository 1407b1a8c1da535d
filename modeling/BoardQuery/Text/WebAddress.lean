import BoardQuery.Fault

/-!
# Web addresses

The parts of an address that decide whether it is one of the web: the scheme before the first
colon, and the host between two slashes and the path. A host number in brackets must be an IPv6
address, and no character of a host may stand for a delimiter.
-/

namespace BoardQuery.WebAddress

/-- Characters whose compatibility form holds one of the delimiters of a host. -/
def delimiterForms : List Nat := [8263, 8264, 8265, 8448, 8449, 8453, 8454, 10868, 65043, 65046,
  65109, 65110, 65119, 65131, 65283, 65295, 65306, 65311, 65312]

def isSchemeChar (c : Char) : Bool :=
  c.isAlphanum || c == '+' || c == '-' || c == '.'

/-- Splits at the first `c`: what stands before it, and what stands after it if it is there. -/
def splitAt (c : Char) (cs : List Char) : List Char × Option (List Char) :=
  match cs.dropWhile (· != c) with
  | [] => (cs, none)
  | _ :: after => (cs.takeWhile (· != c), some after)

/-- What stands after the last `c`, or everything if there is none. -/
def afterLast (c : Char) (cs : List Char) : List Char :=
  (cs.reverse.takeWhile (· != c)).reverse

/-- An IPv4 address: four numbers up to 255, without leading zeros. -/
def isShortNumber (host : List Char) : Bool :=
  let parts := host.splitOn '.'
  parts.length == 4 && parts.all fun p =>
    !p.isEmpty && p.length ≤ 3 && p.all Char.isDigit && (p.length == 1 || p.head? != some '0') &&
      p.foldl (fun n d => 10 * n + (d.toNat - 48)) 0 ≤ 255

def isHexDigit (c : Char) : Bool :=
  c.isDigit || ('a' ≤ c && c ≤ 'f') || ('A' ≤ c && c ≤ 'F')

/-- A group of an IPv6 address. -/
def isGroup (p : List Char) : Bool :=
  !p.isEmpty && p.length ≤ 4 && p.all isHexDigit

/-- The groups of an IPv6 address: eight of them, or fewer around one double colon. -/
def areGroups (parts : List (List Char)) : Bool :=
  let inner := (parts.drop 1).dropLast
  match inner.findIdx? (·.isEmpty) with
  | none => parts.length == 8 && parts.all isGroup
  | some i =>
    let before := parts.take (i + 1)
    let after := parts.drop (i + 2)
    let before := if before == [[]] then [] else before
    let after := if after == [[]] then [] else after
    (before ++ after).all isGroup && before.length + after.length < 8

/-- An IPv6 address, with an IPv4 address as its last part and a zone after a percent sign if they
are there. -/
def isLongNumber (host : List Char) : Bool :=
  let (address, zone) := splitAt '%' host
  let parts := address.splitOn ':'
  let last := parts.getLast?.getD []
  let zoneFits := zone.all fun z => !z.isEmpty && !z.contains '%'
  zoneFits && 3 ≤ parts.length &&
    (if last.contains '.' then isShortNumber last && areGroups (parts.dropLast ++ [['0'], ['0']])
      else areGroups parts)

/-- A host number of a later version: `v`, hexadecimal digits, a point and something. -/
def isFutureNumber (host : List Char) : Bool :=
  let digits := (host.drop 1).takeWhile isHexDigit
  match (host.drop 1).dropWhile isHexDigit with
  | '.' :: _ :: _ => !digits.isEmpty
  | _ => false

/-- Checks a host number that stands in brackets. -/
def checkNumber (host : List Char) : Except AddressError Unit :=
  if host.head? == some 'v' then
    if isFutureNumber host then .ok () else .error .futureHostNumber
  else if isShortNumber host then .error .shortHostNumber
  else if isLongNumber host then .ok ()
  else .error (.unknownHostNumber (String.ofList host))

/-- Checks the brackets of a host. Nothing may stand before them, and only a port after them. -/
def checkBrackets (host : List Char) : Except AddressError Unit :=
  let opened := host.contains '['
  let closed := host.contains ']'
  if opened != closed then .error .unbalancedBrackets
  else if !opened then .ok ()
  else
    let place := afterLast '@' host
    match splitAt '[' place with
    | (before, some bracketed) =>
      let (number, after) := splitAt ']' bracketed
      let after := after.getD []
      if !before.isEmpty || (!after.isEmpty && after.head? != some ':') then
        .error .unbalancedBrackets
      else checkNumber number
    | (_, none) => checkNumber (splitAt ':' place).1

/-- Scheme, in lower case, and host of an address; a part that is not there is empty. -/
def split (cs : List Char) : List Char × List Char :=
  let cs := (cs.dropWhile (·.toNat ≤ 32)).filter fun c => c != '\t' && c != '\r' && c != '\n'
  let (scheme, rest) :=
    match splitAt ':' cs with
    | (front, some after) =>
      if !front.isEmpty && front.head?.any Char.isAlpha && front.all isSchemeChar then
        (front.map Char.toLower, after)
      else ([], cs)
    | (_, none) => ([], cs)
  match rest with
  | '/' :: '/' :: after => (scheme, after.takeWhile fun c => c != '/' && c != '?' && c != '#')
  | _ => (scheme, [])

/-- Whether a text is an address of the web with a host. -/
def isWebAddress (cs : List Char) : Except AddressError Bool := do
  let (scheme, host) := split cs
  checkBrackets host
  if host.any fun c => delimiterForms.contains c.toNat then
    .error (.ambiguousHost (String.ofList host))
  return (scheme == "http".toList || scheme == "https".toList) && !host.isEmpty

end BoardQuery.WebAddress
