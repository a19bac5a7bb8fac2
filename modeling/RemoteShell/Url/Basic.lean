import RemoteShell.Url.Host

/-!
# Addresses

An address has a scheme, a host with an optional name, password and port, a path, a query and a fragment. Reading puts
every part into its one written form: the scheme and the host in lower case, the path without `.` and `..`, the port
only where it is not the usual one, and everything that may not stand in a part encoded. Tabs and line ends are passed
over, and blanks and controls around the address are cut off.
-/

namespace RemoteShell

/-- An address in its written form, part by part. -/
structure Url where
  scheme : List Char
  /-- The host, if the address has an authority part. -/
  host : Option (List Char)
  /-- The name and the password, as they stand before the host. -/
  user : List Char := []
  password : List Char := []
  port : Option Nat := none
  path : List Char
  query : Option (List Char) := none
  fragment : Option (List Char) := none
deriving DecidableEq, Repr

namespace Url

/-- The port that a scheme stands for, for the schemes with a host and a path of a known form. -/
def usualPort? (scheme : List Char) : Option Nat :=
  match String.ofList scheme with
  | "http" => some 80
  | "https" => some 443
  | "ws" => some 80
  | "wss" => some 443
  | "ftp" => some 21
  | _ => none

/-- Whether an address of a scheme has a host and a path of a known form. -/
def isSpecial (scheme : List Char) : Bool :=
  (usualPort? scheme).isSome || String.ofList scheme == "file"

/-- Controls and blanks that are cut off around an address. -/
def isEdge (c : Char) : Bool :=
  c.toNat ≤ 0x20

/-- The characters of a text that belong to the address in it. -/
def clean (text : List Char) : List Char :=
  let front := text.dropWhile isEdge
  let both := (front.reverse.dropWhile isEdge).reverse
  both.filter fun c => c != '\t' && c != '\n' && c != '\r'

/-- A character of a scheme. -/
def isSchemeChar (c : Char) : Bool :=
  c.isAlphanum || c == '+' || c == '-' || c == '.'

/-- The scheme of an address, in lower case, and what is behind its colon. -/
def splitScheme? (cs : List Char) : Option (List Char × List Char) :=
  match cs.head?, cs.dropWhile isSchemeChar with
  | some first, ':' :: rest =>
    if first.isAlpha then some ((cs.takeWhile isSchemeChar).map Char.toLower, rest) else none
  | _, _ => none

/-- Whether the authority part of an address ends before a character. -/
def endsAuthority (special : Bool) (c : Char) : Bool :=
  c == '/' || c == '?' || c == '#' || (special && c == '\\')

/-! ## Name and password -/

/-- What stands before the last `@` of an authority part, and what stands behind it. -/
def splitUser? (authority : List Char) : Option (List Char × List Char) :=
  if authority.contains '@' then
    let behind := (authority.reverse.takeWhile (· != '@')).reverse
    some ((authority.reverse.drop (behind.length + 1)).reverse, behind)
  else none

/-- The name and the password, encoded. -/
def encodeUser (cs : List Char) : List Char × List Char :=
  (encode inUserInfo (cs.takeWhile (· != ':')), encode inUserInfo ((cs.dropWhile (· != ':')).drop 1))

/-! ## Port -/

/-- The port behind a colon: nothing, or a number of sixteen bits. -/
def parsePort (usual : Option Nat) (digits : List Char) : Except ParseError (Option Nat) :=
  if digits.isEmpty then .ok none
  else match Text.readNat? digits with
    | some n => if 65535 < n then .error .badPort else .ok (if usual = some n then none else some n)
    | none => .error .badPort

/-- The host and the text of the port of an authority part. A colon within brackets belongs to the host. -/
def splitPort (inBrackets : Bool) : List Char → List Char × Option (List Char)
  | [] => ([], none)
  | c :: rest =>
    if c = ':' && !inBrackets then ([], some rest)
    else
      let (host, port) := splitPort (if c = '[' then true else if c = ']' then false else inBrackets) rest
      (c :: host, port)

/-! ## Path -/

/-- A segment that stays where it is. -/
def isDot (segment : List Char) : Bool :=
  let s := segment.map Char.toLower
  s == ".".toList || s == "%2e".toList

/-- A segment that goes back. -/
def isDoubleDot (segment : List Char) : Bool :=
  let s := segment.map Char.toLower
  s == "..".toList || s == ".%2e".toList || s == "%2e.".toList || s == "%2e%2e".toList

/-- A segment that looks like the letter of a drive, which is never gone back over. -/
def isDriveLetter : List Char → Bool
  | [letter, mark] => letter.isAlpha && (mark == ':' || mark == '|')
  | _ => false

/-- One segment further, on the segments so far, newest first. -/
def stepPath (passed : List (List Char)) (segment : List Char) : List (List Char) :=
  if isDoubleDot segment then
    match passed with
    | [] => []
    | last :: before => if isDriveLetter last then passed else before
  else if isDot segment then passed
  else segment :: passed

/-- The segments of the path of an address with a known scheme. -/
def splitPath (cs : List Char) : List (List Char) :=
  let slashed := cs.map fun c => if c = '\\' then '/' else c
  Text.fields '/' (if slashed.head? = some '/' then slashed.drop 1 else slashed)

/-- The path of an address with a known scheme. -/
def parsePath (cs : List Char) : List Char :=
  let segments := (splitPath cs).map (encode inPath)
  let last := segments.getLastD []
  let passed := segments.dropLast.foldl stepPath []
  let passed := stepPath passed last
  let all := if isDot last || isDoubleDot last then [] :: passed else passed
  '/' :: Text.join ['/'] all.reverse

/-! ## Query and fragment -/

/-- The query and the fragment behind a path, from their marks on. -/
def parseTail (special : Bool) (cs : List Char) : Option (List Char) × Option (List Char) :=
  let front := cs.takeWhile (· != '#')
  let query := match front with
    | '?' :: rest => some (encode (inQuery special) rest)
    | _ => none
  let fragment := match cs.dropWhile (· != '#') with
    | '#' :: rest => some (encode inFragment rest)
    | _ => none
  (query, fragment)

/-- Whether a path ends before a character. -/
def endsPath (c : Char) : Bool :=
  c == '?' || c == '#'

/-! ## Whole addresses -/

/-- An address from behind the slashes before its authority part. -/
def parseAuthority (scheme cs : List Char) : Except ParseError Url := do
  let special := isSpecial scheme
  let authority := cs.takeWhile (!endsAuthority special ·)
  let rest := cs.dropWhile (!endsAuthority special ·)
  if authority == ['@'] && !rest.isEmpty then throw .emptyHost
  let (user, hostPort) := (splitUser? authority).getD ([], authority)
  let (user, password) := encodeUser user
  let (hostText, portText) := splitPort false hostPort
  if hostText.isEmpty && special then throw .emptyHost
  let host ← if special then parseHost hostText else parseOpaqueHost hostText
  if host.isEmpty && (portText.isSome || !user.isEmpty || !password.isEmpty) then throw .emptyHost
  let port ← parsePort (usualPort? scheme) (portText.getD [])
  let pathText := rest.takeWhile (!endsPath ·)
  let path := if special then parsePath pathText else encode inPath pathText
  let (query, fragment) := parseTail special (rest.dropWhile (!endsPath ·))
  return { scheme, host := some host, user, password, port, path, query, fragment }

/-- An address of a local file, from behind the colon of its scheme. -/
def parseFile (scheme cs : List Char) : Except ParseError Url := do
  let isSlash := fun c => c == '/' || c == '\\'
  let slashed := (cs.take 2).length == 2 && (cs.take 2).all isSlash
  let authority := if slashed then (cs.drop 2).takeWhile (!endsAuthority true ·) else []
  let rest := if slashed then (cs.drop 2).dropWhile (!endsAuthority true ·) else cs
  let host ← if authority.isEmpty || isDriveLetter authority then pure [] else parseHost authority
  let (query, fragment) := parseTail true (rest.dropWhile (!endsPath ·))
  return { scheme, host := some host, path := parsePath (rest.takeWhile (!endsPath ·)), query, fragment }

/-- The characters of an address, read. -/
def parseChars (cs : List Char) : Except ParseError Url :=
  match splitScheme? cs with
  | none => .error .noScheme
  | some (scheme, rest) =>
    if String.ofList scheme == "file" then parseFile scheme rest
    else if isSpecial scheme then parseAuthority scheme (rest.dropWhile fun c => c == '/' || c == '\\')
    else match rest with
      | '/' :: '/' :: behind => parseAuthority scheme behind
      | _ =>
        let (query, fragment) := parseTail false (rest.dropWhile (!endsPath ·))
        .ok { scheme, host := none, path := encode isControl (rest.takeWhile (!endsPath ·)), query, fragment }

/-- Reads an address. -/
def parse (text : String) : Except ParseError Url :=
  parseChars (clean text.toList)

/-- The name and the password as they stand before the host. -/
def renderUser (url : Url) : List Char :=
  if url.user.isEmpty && url.password.isEmpty then []
  else url.user ++ (if url.password.isEmpty then [] else ':' :: url.password) ++ ['@']

/-- The host and the port. -/
def renderHost (url : Url) : List Char :=
  match url.host with
  | none => []
  | some host => host ++ (match url.port with
    | some port => ':' :: Text.writeNat port
    | none => [])

/-- The path and the query, which is what a server is asked for. -/
def target (url : Url) : List Char :=
  url.path ++ (match url.query with
    | some query => '?' :: query
    | none => [])

/-- The characters of an address. -/
def write (url : Url) : List Char :=
  url.scheme ++ ':' :: (if url.host.isSome then ['/', '/'] else []) ++ renderUser url ++ renderHost url ++ target url ++
    (match url.fragment with
    | some fragment => '#' :: fragment
    | none => [])

/-- An address as it is written. -/
def render (url : Url) : String :=
  String.ofList (write url)

/-- Whether an address is one of the web, which can be called. -/
def isWeb (url : Url) : Bool :=
  String.ofList url.scheme == "http" || String.ofList url.scheme == "https"

/-- The address as it is named in reports: without its name, password and fragment. -/
def bare (url : Url) : Url :=
  { url with user := [], password := [], fragment := none }

/-- The address with one more pair of plain words at the end of its query. -/
def appendPair (url : Url) (key value : List Char) : Url :=
  let pair := key ++ '=' :: value
  { url with query := some (match url.query with
      | none => pair
      | some [] => pair
      | some query => query ++ '&' :: pair) }

end Url

end RemoteShell
