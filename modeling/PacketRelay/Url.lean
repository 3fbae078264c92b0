/-
  Addresses on the web.

  `Url.isAbsolute` says whether a text is the address of something on its own: a scheme, followed
  for the common schemes by a host and perhaps a port.  A host is a name, four numbers, or an
  address of eight groups in brackets.  With other schemes, a host may be missing and any text that
  does not end it is its name.

  Blanks and control characters around an address and line breaks in it are ignored.
-/
import PacketRelay.Hex
import PacketRelay.HostName

namespace PacketRelay.Url

/-! ## Parts -/

/-- The text without what is ignored. -/
def relevant (s : List Char) : List Char :=
  let trimmed := ((s.dropWhile (· ≤ ' ')).reverse.dropWhile (· ≤ ' ')).reverse
  trimmed.filter fun c => c != '\t' && c != '\n' && c != '\r'

/-- Whether a character may stand in a scheme. -/
def isSchemeChar (c : Char) : Bool := c.isAlphanum || c == '+' || c == '-' || c == '.'

/-- The scheme in small letters, and what follows its colon. -/
def scheme? (s : List Char) : Option (String × List Char) :=
  match s.head?, s.dropWhile isSchemeChar with
  | some c, ':' :: rest =>
    if c.isAlpha then some (String.ofList ((s.takeWhile isSchemeChar).map Char.toLower), rest)
    else none
  | _, _ => none

/-- The schemes whose addresses have a host. -/
def isCommon (scheme : String) : Bool := ["http", "https", "ws", "wss", "ftp"].contains scheme

/-- Whether a character ends the part with the host. -/
def endsAuthority (c : Char) : Bool := c == '/' || c == '\\' || c == '?' || c == '#'

/-- What follows the last `@`. -/
def afterUser (s : List Char) : List Char := (s.reverse.takeWhile (· != '@')).reverse

/-- The host and what follows the colon after it; a colon in brackets does not count. -/
def hostAndPort : (bracketed : Bool) → List Char → List Char × Option (List Char)
  | _, [] => ([], none)
  | bracketed, c :: rest =>
    if c == ':' && !bracketed then ([], some rest)
    else
      let bracketed := if c == '[' then true else if c == ']' then false else bracketed
      let (host, port) := hostAndPort bracketed rest
      (c :: host, port)

/-- The value of digits in a base. -/
def valueIn (base : Nat) (ds : List Char) : Nat :=
  ds.foldl (fun n c => n * base + (Hex.charValue? c).getD 0) 0

/-- The greatest port. -/
def portMax : Nat := 65535

/-- Whether a text starts with a port, which may be empty and goes up to a backslash. -/
def isPort (s : List Char) : Bool :=
  let port := s.takeWhile (· != '\\')
  port.all Char.isDigit && valueIn 10 port ≤ portMax

/-! ## Four numbers -/

/-- A number in base ten, or in base eight after `0`, or in base sixteen after `0x`. -/
def number? : List Char → Option Nat
  | [] => none
  | ['0'] => some 0
  | '0' :: c :: rest =>
    if c == 'x' || c == 'X' then
      if rest.all fun d => (Hex.charValue? d).isSome then some (valueIn 16 rest) else none
    else if (c :: rest).all fun d => '0' ≤ d && d ≤ '7' then some (valueIn 8 (c :: rest))
    else none
  | s => if s.all Char.isDigit then some (valueIn 10 s) else none

/-- The parts of a name between dots, without an empty one at the end. -/
def labels (s : List Char) : List (List Char) :=
  let parts := HostName.labels s
  if parts.getLast? == some [] && 1 < parts.length then parts.dropLast else parts

/-- Whether the last part of a name is a number. -/
def endsInNumber (s : List Char) : Bool :=
  match (labels s).getLast? with
  | none => false
  | some l => (!l.isEmpty && l.all Char.isDigit) || (number? l).isSome

/-- Whether a name is at most four numbers that make up 32 bits. -/
def isFourNumbers (s : List Char) : Bool :=
  match (labels s).mapM number? with
  | none => false
  | some ns => ns.length ≤ 4 && ns.dropLast.all (· < 256) &&
      ns.getLast?.any (· < 1 <<< (8 * (5 - ns.length)))

/-! ## Eight groups -/

/-- Whether a text is a number below 256 without leading zeros. -/
def isOctet (s : List Char) : Bool :=
  !s.isEmpty && s.all Char.isDigit && (s.head? != some '0' || s.length == 1) && valueIn 10 s < 256

/-- How many groups a part takes: one of up to four digits, or two if it is four octets and the
    last. -/
def groupSize? (isLast : Bool) (part : List Char) : Option Nat :=
  if !part.isEmpty && part.length ≤ 4 && part.all fun c => (Hex.charValue? c).isSome then some 1
  else if isLast && (HostName.labels part).length == 4 && (HostName.labels part).all isOctet then
    some 2
  else none

/-- How many groups parts take. -/
def groupCount? (endsAddress : Bool) : List (List Char) → Option Nat
  | [] => some 0
  | [part] => groupSize? endsAddress part
  | part :: rest => do
    let n ← groupSize? false part
    let m ← groupCount? endsAddress rest
    pure (n + m)

/-- Whether a text is an address of eight groups; two colons stand for missing ones. -/
def isEightGroups (s : List Char) : Bool :=
  match Unicode.parts (· == ':') s with
  | [] :: [] :: rest =>
    if rest == [[]] then true
    else (groupCount? true rest).any (· ≤ 7)
  | parts =>
    let left := parts.takeWhile (!·.isEmpty)
    match parts.drop left.length with
    | [] => groupCount? true parts == some 8
    | [[]] => false
    | [[], []] => (groupCount? false left).any (· ≤ 7)
    | _ :: rest => !left.isEmpty &&
      ((groupCount? false left).bind fun n => (groupCount? true rest).map (n + ·)).any (· ≤ 7)

/-! ## Hosts -/

/-- Puts bytes in place of their percent forms. -/
def percentDecoded : List Char → Bytes
  | '%' :: a :: b :: rest => match Hex.charValue? a, Hex.charValue? b with
    | some x, some y => UInt8.ofNat (x * 16 + y) :: percentDecoded rest
    | _, _ => utf8Chars ['%'] ++ percentDecoded (a :: b :: rest)
  | c :: rest => utf8Chars [c] ++ percentDecoded rest
  | [] => []

/-- Whether a character may not stand in a name. -/
def isForbidden (c : Char) : Bool :=
  c ≤ ' ' || c == '\x7f' ||
    ['#', '%', '/', ':', '<', '>', '?', '@', '[', '\\', ']', '^', '|'].contains c

/-- Whether a text is the name of a host. -/
def isHostName (s : List Char) : Bool :=
  match Utf8.decode (percentDecoded s) with
  | .error _ => false
  | .ok name => match HostName.normalize? name.toList with
    | none => false
    | some cs => !cs.isEmpty && !cs.any isForbidden && (!endsInNumber cs || isFourNumbers cs)

/-- Whether a text in brackets, of which the first is left out, is an address. -/
def isBracketed (s : List Char) : Bool := s.getLast? == some ']' && isEightGroups s.dropLast

/-- Whether a text is a host. -/
def isHost : List Char → Bool
  | '[' :: rest => isBracketed rest
  | s => isHostName s

/-- Whether a text without a path is a host with or without a port. -/
def isAuthority (s : List Char) : Bool :=
  let (host, port) := hostAndPort false (afterUser s)
  isHost host && port.all isPort

/-- The characters that may not stand in a host of an address with any scheme. -/
def hostEnds : List Char :=
  ['\x00', '\t', '\n', '\r', ' ', '#', '/', ':', '<', '>', '?', '@', '[', '\\', ']', '^', '|']

/-- Whether a text is a host of an address with any scheme. -/
def isOtherHost : List Char → Bool
  | '[' :: rest => isBracketed rest
  | s => !s.any hostEnds.contains

/-- Whether a text without a path is what an address with any scheme may hold: a host with or
    without a user and a port, or nothing. -/
def isOtherAuthority (s : List Char) : Bool :=
  let (host, port) := hostAndPort false (afterUser s)
  s.isEmpty || (!host.isEmpty && isOtherHost host && port.all isPort)

/-! ## Files -/

/-- Whether a text is a letter that names a drive. -/
def isDrive : List Char → Bool
  | [c, d] => c.isAlpha && (d == ':' || d == '|')
  | _ => false

/-- Whether what follows the scheme is the address of a file. -/
def isFile : List Char → Bool
  | c :: d :: rest =>
    if (c == '/' || c == '\\') && (d == '/' || d == '\\') then
      let host := rest.takeWhile (!endsAuthority ·)
      host.isEmpty || isDrive host || isHost host
    else true
  | _ => true

/-! ## Addresses -/

/-- What follows two slashes. -/
def afterSlashes? : List Char → Option (List Char)
  | '/' :: '/' :: rest => some rest
  | _ => none

/-- Whether a text is the address of something on its own. -/
def isAbsolute (s : String) : Bool :=
  match scheme? (relevant s.toList) with
  | none => false
  | some (scheme, rest) =>
    if isCommon scheme then
      isAuthority ((rest.dropWhile fun c => c == '/' || c == '\\').takeWhile (!endsAuthority ·))
    else if scheme = "file" then isFile rest
    else match afterSlashes? rest with
      | none => true
      | some rest => isOtherAuthority (rest.takeWhile fun c => c != '/' && c != '?' && c != '#')

end PacketRelay.Url
