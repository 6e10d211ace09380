/-
TextRoadmap/Link/Address.lean

Web addresses, read by the rules of the URL standard.

Of an address this library needs to know whether there is one and which host
it names, so that is what reading yields: the scheme and the host.  Paths,
queries and fragments can not make an address invalid.  They matter in one
place: a `file` address whose path starts with a drive letter loses its
host.
-/
import TextRoadmap.Link.Domain
import TextRoadmap.Link.Ip
import TextRoadmap.Text.Cut

namespace TextRoadmap.Link

open TextRoadmap.Text

/-! ### Parts -/

/-- The machine that an address names. -/
inductive Host where
  | domain (name : List Char)
  | ipv4 (number : Nat)
  | ipv6 (text : List Char)
  | plain (text : List Char)
  deriving DecidableEq

/-- A web address, as far as this library looks at it. -/
structure Address where
  scheme : List Char
  host : Option Host
  deriving DecidableEq

/-- The three ways in which the rest of an address is read. -/
inductive SchemeKind where
  | file
  | web
  | other
  deriving DecidableEq

/-- The kind of a scheme, given in lower case. -/
def SchemeKind.of (scheme : List Char) : SchemeKind :=
  if scheme = "file".toList then .file
  else if ["http".toList, "https".toList, "ws".toList, "wss".toList, "ftp".toList].contains scheme
  then .web
  else .other

/-- A slash; in addresses with a standard scheme a backslash is one too. -/
def isSlash (standard : Bool) (c : Char) : Bool := c = '/' || (standard && c = '\\')

/-- The end of the part that names the host. -/
def endsAuthority (standard : Bool) (c : Char) : Bool :=
  isSlash standard c || c = '?' || c = '#'

/-! ### Hosts -/

/-- The bytes of a text in which `%` and two hexadecimal digits stand for a
byte. -/
def percentDecode : List Char → List UInt8
  | [] => []
  | '%' :: a :: b :: rest =>
    match hexValue? a, hexValue? b with
    | some x, some y => UInt8.ofNat (16 * x + y) :: percentDecode rest
    | _, _ => String.utf8EncodeChar '%' ++ percentDecode (a :: b :: rest)
  | c :: rest => String.utf8EncodeChar c ++ percentDecode rest

/-- The text that the bytes encode. -/
def decodeBytes? (bytes : List UInt8) : Option (List Char) :=
  (String.fromUTF8? ⟨bytes.toArray⟩).map String.toList

/-- An address in square brackets, whose first bracket has been read. -/
def bracketedHost? (rest : List Char) : Option Host :=
  match stripSuffix? [']'] rest with
  | some inner => if isIpv6 inner then some (.ipv6 inner) else none
  | none => none

/-- The host of an address with a standard scheme. -/
def standardHost? : List Char → Option Host
  | '[' :: rest => bracketedHost? rest
  | s => do
    let text ← if s.contains '%' then decodeBytes? (percentDecode s) else some s
    let name ← domain? text
    if name.isEmpty then none
    else if endsInNumber name then (ipv4? name).map .ipv4
    else some (.domain name)

/-- Characters that no host of an address with another scheme may hold. -/
def isForbiddenInHost (c : Char) : Bool :=
  ['\x00', '\t', '\n', '\r', ' ', '#', '/', ':', '<', '>', '?', '@', '[', '\\', ']', '^',
   '|'].contains c

/-- The host of an address with another scheme. -/
def plainHost? : List Char → Option Host
  | '[' :: rest => bracketedHost? rest
  | s => if s.any isForbiddenInHost then none else some (.plain s)

/-- The text before the first colon outside brackets, and what follows that
colon. -/
def cutPort : (inside : Bool) → List Char → List Char × Option (List Char)
  | _, [] => ([], none)
  | inside, c :: rest =>
    if c = ':' && !inside then ([], some rest)
    else
      let inside := if c = '[' then true else if c = ']' then false else inside
      let (host, port) := cutPort inside rest
      (c :: host, port)

/-- Is it a port, a possibly empty decimal number of sixteen bits?  A
backslash ends it. -/
def isPort (s : List Char) : Bool :=
  digitsValue (s.takeWhile Char.isDigit) < 65536 &&
    (s.dropWhile Char.isDigit).head?.all (· = '\\')

/-! ### The part that names the host -/

/-- Host and port of an address, after any credentials.  An address with a
standard scheme needs a host; of another it may be empty, but then there are
neither port nor credentials. -/
def readHost? (standard credentials : Bool) (s : List Char) : Option (Option Host) :=
  let (text, port) := cutPort false s
  if text.isEmpty then
    if standard || credentials || port.isSome then none else some none
  else do
    let host ← if standard then standardHost? text else plainHost? text
    if port.all isPort then some (some host) else none

/-- The host named after the two slashes. -/
def readAuthority? (standard : Bool) (s : List Char) : Option (Option Host) :=
  let authority := s.takeWhile fun c => !endsAuthority standard c
  let after := s.dropWhile fun c => !endsAuthority standard c
  match splitLast? '@' authority with
  | none => readHost? standard false authority
  | some (user, rest) =>
    if user.isEmpty && rest.isEmpty && !after.isEmpty then none
    else readHost? standard (user ≠ [] ∧ user ≠ [':']) rest

/-! ### Files -/

/-- A letter and a colon or bar. -/
def isDriveLetter : List Char → Bool
  | [letter, mark] => letter.isAlpha && (mark = ':' || mark = '|')
  | _ => false

/-- The segment that stands for the folder itself. -/
def isSingleDot (segment : List Char) : Bool :=
  [".".toList, "%2e".toList].contains (segment.map Char.toLower)

/-- The segment that stands for the folder above. -/
def isDoubleDot (segment : List Char) : Bool :=
  ["..".toList, ".%2e".toList, "%2e.".toList, "%2e%2e".toList].contains
    (segment.map Char.toLower)

/-- Does a path leave the host in place?  It does not if one of its segments
is a drive letter at the root, where `above` are the segments up to here,
the last one first. -/
def keepsHost : (above segments : List (List Char)) → Bool
  | _, [] => true
  | above, segment :: rest =>
    if isDoubleDot segment then
      keepsHost (if above.head?.any isDriveLetter then above else above.tail) rest
    else if isSingleDot segment then keepsHost above rest
    else if above.isEmpty && isDriveLetter segment then false
    else keepsHost (segment :: above) rest

/-- The segments of the path at the start of `s`. -/
def pathSegments (s : List Char) : List (List Char) :=
  let path := s.takeWhile fun c => c ≠ '?' && c ≠ '#'
  let path := match path with
    | c :: rest => if isSlash true c then rest else path
    | [] => []
  (path.map fun c => if c = '\\' then '/' else c).splitOn '/'

/-- The host of a file address after its two slashes.  A drive letter is no
host, and `localhost` counts as none. -/
def readFileHost? (s : List Char) : Option (Option Host) :=
  let text := s.takeWhile fun c => !endsAuthority true c
  let after := s.dropWhile fun c => !endsAuthority true c
  if text.isEmpty || isDriveLetter text then some none
  else
    (standardHost? text).map fun host =>
      if host = .domain "localhost".toList || !keepsHost [] (pathSegments after) then none
      else some host

/-! ### Addresses -/

/-- The host named in the rest of an address after the colon of its scheme. -/
def hostAfterScheme? (kind : SchemeKind) (rest : List Char) : Option (Option Host) :=
  match kind with
  | .web => readAuthority? true (rest.dropWhile (isSlash true))
  | .file =>
    match rest with
    | a :: b :: rest => if isSlash true a && isSlash true b then readFileHost? rest else some none
    | _ => some none
  | .other =>
    match stripPrefix? ['/', '/'] rest with
    | some rest => readAuthority? false rest
    | none => some none

/-- A letter of a scheme after its first one. -/
def isSchemeChar (c : Char) : Bool := c.isAlphanum || c = '+' || c = '-' || c = '.'

/-- The scheme in lower case and what follows its colon. -/
def readScheme? (s : List Char) : Option (List Char × List Char) :=
  if s.head?.any Char.isAlpha then
    match s.dropWhile isSchemeChar with
    | ':' :: rest => some ((s.takeWhile isSchemeChar).map Char.toLower, rest)
    | _ => none
  else none

/-- The characters that count: controls and blanks at both ends do not, nor
do tabs and line ends anywhere. -/
def significant (s : List Char) : List Char :=
  (trim (fun c => c.toNat ≤ 0x20) s).filter fun c => c ≠ '\t' && c ≠ '\n' && c ≠ '\r'

/-- The web address that the text writes. -/
def Address.read? (s : String) : Option Address := do
  let (scheme, rest) ← readScheme? (significant s.toList)
  let host ← hostAfterScheme? (.of scheme) rest
  some ⟨scheme, host⟩

end TextRoadmap.Link
