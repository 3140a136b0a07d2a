import Domotics.Url.Domain
import Domotics.Url.Percent
/-!
# URLs

`Url.parse` reads a URL as the URL standard does, in its normal form: the scheme and the host in
lower case, the port left out if it is the scheme's own, dots in the path resolved, and everything
that may not stand as it is percent-encoded. `Url.text` writes it down again.

White space around a URL and tabs and line feeds inside of it are ignored. The schemes the standard
knows are special: they need a host, a backslash in them is a slash, and their hosts are domain
names or internet addresses. A host of any other scheme is opaque.
-/

namespace Domotics

namespace Url

/-- Why a text is no URL. -/
inductive ParseError where
  | emptyHost
  | domainName
  | port
  | ipv4
  | ipv6
  | domainCharacter
  | relative
deriving DecidableEq

/-- The wording of an error. -/
def ParseError.message : ParseError → String
  | emptyHost => "empty host"
  | domainName => "invalid international domain name"
  | port => "invalid port number"
  | ipv4 => "invalid IPv4 address"
  | ipv6 => "invalid IPv6 address"
  | domainCharacter => "invalid domain character"
  | relative => "relative URL without a base"

/-- The host of a URL. -/
inductive Host where
  | empty
  | domain (name : String)
  | ipv4 (address : Ipv4)
  | ipv6 (address : Ipv6)
deriving DecidableEq

def Host.text : Host → String
  | empty => ""
  | domain name => name
  | ipv4 address => address.text
  | ipv6 address => "[" ++ address.text ++ "]"

/-- How a scheme treats what follows it. -/
inductive SchemeType where
  | file
  | special
  | other
deriving DecidableEq

def SchemeType.of (scheme : String) : SchemeType :=
  if scheme = "file" then .file
  else if ["http", "https", "ws", "wss", "ftp"].contains scheme then .special
  else .other

/-- The port that a scheme uses unless another is given. -/
def defaultPort? (scheme : String) : Option Nat :=
  if scheme = "http" ∨ scheme = "ws" then some 80
  else if scheme = "https" ∨ scheme = "wss" then some 443
  else if scheme = "ftp" then some 21
  else none

end Url

/-- A URL in its normal form, in parts. -/
structure Url where
  scheme : String
  /-- What stands before the host, up to and with the `@`. -/
  userinfo : String
  /-- No host at all tells apart a URL without the two slashes. -/
  host : Option Url.Host
  /-- The port, unless it is the scheme's own. -/
  port : Option Nat
  path : String
  query : Option String
  fragment : Option String
deriving DecidableEq

namespace Url

/-- A URL as text. A path that begins with two slashes is kept apart from a host. -/
def text (url : Url) : String :=
  let authority := match url.host with
    | none => if url.path.startsWith "//" then "/." else ""
    | some host =>
      "//" ++ url.userinfo ++ host.text ++
        match url.port with
        | none => ""
        | some port => s!":{port}"
  let part (mark : String) (text : Option String) := match text with
    | none => ""
    | some text => mark ++ text
  url.scheme ++ ":" ++ authority ++ url.path ++ part "?" url.query ++ part "#" url.fragment

/-- The port of a URL, given or the scheme's own. -/
def knownPort? (url : Url) : Option Nat :=
  url.port.orElse fun _ => defaultPort? url.scheme

/-! ## Hosts -/

/-- The host of a URL with a special scheme. -/
def Host.parse (text : List Char) : Except ParseError Host :=
  match text with
  | '[' :: rest =>
    if rest.getLast? = some ']' then
      match Ipv6.read? rest.dropLast with
      | some address => .ok (.ipv6 address)
      | none => .error .ipv6
    else .error .ipv6
  | _ =>
    match domainToAscii? (percentDecode (text.flatMap String.utf8EncodeChar)) with
    | none => .error .domainName
    | some [] => .error .emptyHost
    | some name =>
      if endsInNumber name then
        match Ipv4.read? name with
        | some address => .ok (.ipv4 address)
        | none => .error .ipv4
      else .ok (.domain (String.ofList name))

/-- The characters that an opaque host may not hold. -/
def isForbiddenInHost (c : Char) : Bool :=
  ['\x00', '\t', '\n', '\r', ' '].contains c ∨ isDelimiter c

/-- The host of a URL with any other scheme. -/
def Host.parseOpaque (text : List Char) : Except ParseError Host :=
  match text with
  | [] => .ok .empty
  | '[' :: _ => Host.parse text
  | _ =>
    if text.any isForbiddenInHost then .error .domainCharacter
    else .ok (.domain (encode .controls text))

/-! ## Paths -/

/-- A letter and a colon, or a bar in its place: a drive. -/
def isDrive : List Char → Bool
  | [letter, mark] => letter.isAlpha ∧ (mark = ':' ∨ mark = '|')
  | _ => false

/-- Whether a segment of a path stands for the directory itself. -/
def isDot (segment : String) : Bool :=
  [".", "%2e"].contains segment.toLower

/-- Whether a segment of a path stands for the directory above. -/
def isDoubleDot (segment : String) : Bool :=
  ["..", ".%2e", "%2e.", "%2e%2e"].contains segment.toLower

/-- Adds a segment to those before it, the last one first. The last segment of a path is `final`:
a dot there leaves an empty segment, so that the path still ends in a slash. -/
def addSegment (type : SchemeType) (before : List String) (segment : String) (final : Bool) :
    List String :=
  let ended (segments : List String) := if final then "" :: segments else segments
  if isDoubleDot segment then
    match before with
    | [] => ended []
    | last :: rest =>
      ended (if type = .file ∧ isDrive last.toList then before else rest)
  else if isDot segment then ended before
  else if type = .file ∧ isDrive segment.toList then
    String.ofList (segment.toList.take 1 ++ [':']) :: before
  else segment :: before

/-- Splits a path into its segments. -/
def splitPath (type : SchemeType) (text : List Char) : List (List Char) :=
  splitAt '/' (if type = .other then text else text.map fun c => if c = '\\' then '/' else c)

/-- The segments of a path, from the first slash on, with its dots resolved. -/
def resolve (type : SchemeType) (before : List String) : List (List Char) → List String
  | [] => before.reverse
  | [last] => (addSegment type before (encode .path last) true).reverse
  | segment :: rest => resolve type (addSegment type before (encode .path segment) false) rest

/-- A path as text. Only a file's path loses the empty segments at its beginning. -/
def joinPath (type : SchemeType) (segments : List String) : String :=
  let kept := if type = .file then segments.dropWhile (· = "") else segments
  if kept.isEmpty then "/" else String.join (kept.map ("/" ++ ·))

/-- Normalizes the path after a host. Only special schemes turn no path into a slash. -/
def parsePath (type : SchemeType) (text : List Char) : String :=
  let isSlash (c : Char) := c = '/' ∨ (type ≠ .other ∧ c = '\\')
  match text with
  | [] => if type = .other then "" else "/"
  | c :: rest => joinPath type (resolve type [] (splitPath type (if isSlash c then rest else text)))

/-! ## Parts -/

/-- Splits text before the first of the marks. -/
def spanBefore (marks : List Char) (text : List Char) : List Char × List Char :=
  (text.takeWhile fun c => !marks.contains c, text.dropWhile fun c => !marks.contains c)

/-- The query and the fragment at the end of a URL. -/
def parseTail (type : SchemeType) (text : List Char) : Option String × Option String :=
  let (queryText, rest) := spanBefore ['#'] text
  let set := if type = .other then EncodeSet.query else EncodeSet.specialQuery
  (match queryText with
    | '?' :: query => some (encode set query)
    | _ => none,
    match rest with
    | '#' :: fragment => some (encode .fragment fragment)
    | _ => none)

/-- The user and password before a host, up to and with the `@`. Colons after the first belong to
the password, and a colon without a password after it is dropped. -/
def encodeUserinfo (text : List Char) : String :=
  let (user, rest) := spanBefore [':'] text
  let password := rest.drop 1
  let written := encode .userinfo user ++
    if password = [] then "" else ":" ++ encode .userinfo password
  if written = "" then "" else written ++ "@"

/-- Splits the user and password off an authority, at its last `@`. -/
def splitUserinfo (authority : List Char) : Option (List Char) × List Char :=
  match (authority.reverse.span (· ≠ '@')) with
  | (_, []) => (none, authority)
  | (host, _ :: user) => (some user.reverse, host.reverse)

/-- Splits the port off a host, at the first colon outside of brackets. -/
def splitPort (inside : Bool) : List Char → List Char × Option (List Char)
  | [] => ([], none)
  | c :: rest =>
    if c = ':' ∧ !inside then ([], some rest)
    else
      let within := if c = '[' then true else if c = ']' then false else inside
      let (host, port) := splitPort within rest
      (c :: host, port)

/-- The port after a host: digits, with a value of sixteen bits. A backslash ends it like a slash
does, also where it is none. -/
def parsePort (scheme : String) (text : List Char) :
    Except ParseError (Option Nat × List Char) := do
  let (digits, rest) := spanBefore ['/', '\\', '?', '#'] text
  if !digits.all Char.isDigit then throw .port
  let value := digits.foldl (fun n c => n * 10 + (c.toNat - '0'.toNat)) 0
  if 65535 < value then throw .port
  return (if digits = [] ∨ some value = defaultPort? scheme then none else some value, rest)

/-- Reads what follows the two slashes of any scheme but `file`. -/
def parseAuthority (scheme : String) (type : SchemeType) (text : List Char) :
    Except ParseError Url := do
  let ends := if type = .other then ['/', '?', '#'] else ['/', '\\', '?', '#']
  let (authority, after) := spanBefore ends text
  let (user, hostAndPort) := splitUserinfo authority
  if user = some [] ∧ hostAndPort = [] ∧ after ≠ [] then throw .emptyHost
  let userinfo := encodeUserinfo (user.getD [])
  let (hostText, portText) := splitPort false hostAndPort
  if type = .special ∧ hostText = [] then throw .emptyHost
  let host ← if type = .special then Host.parse hostText else Host.parseOpaque hostText
  if host = .empty ∧ (portText.isSome ∨ userinfo ≠ "") then throw .emptyHost
  let (port, rest) ← match portText with
    | none => pure (none, after)
    | some portText => parsePort scheme (portText ++ after)
  let (pathText, tail) := spanBefore ['?', '#'] rest
  let (query, fragment) := parseTail type tail
  return { scheme, userinfo, host := some host, port, path := parsePath type pathText,
           query, fragment }

/-- Reads what follows the scheme `file`. A local host is no host, and neither is one before a path
that begins with a drive. -/
def parseFile (text : List Char) : Except ParseError Url := do
  let isSlash (c : Char) := c = '/' ∨ c = '\\'
  let (hostText, rest) := match text with
    | a :: b :: rest =>
      if isSlash a ∧ isSlash b then
        let (hostText, rest') := spanBefore ['/', '\\', '?', '#'] rest
        if isDrive hostText then ([], rest) else (hostText, rest')
      else ([], text)
    | _ => ([], text)
  let host ← if hostText = [] then pure Host.empty else Host.parse hostText
  let (pathText, tail) := spanBefore ['?', '#'] rest
  let path := parsePath .file pathText
  let localHost := host = .domain "localhost" ∨ isDrive ((path.toList.drop 1).take 2)
  let (query, fragment) := parseTail .file tail
  return { scheme := "file", userinfo := "", host := some (if localHost then .empty else host)
           port := none, path, query, fragment }

/-- Reads what follows a scheme without rules of its own, where there are no two slashes. -/
def parsePlain (scheme : String) (text : List Char) : Url :=
  let (pathText, tail) := spanBefore ['?', '#'] text
  let (query, fragment) := parseTail .other tail
  let path := match pathText with
    | '/' :: _ => parsePath .other pathText
    | _ => encode .controls pathText
  { scheme, userinfo := "", host := none, port := none, path, query, fragment }

/-- Splits the scheme off a URL. -/
def splitScheme? (text : List Char) : Option (String × List Char) :=
  let isSchemeChar (c : Char) := c.isAlphanum ∨ c = '+' ∨ c = '-' ∨ c = '.'
  let (scheme, rest) := text.span isSchemeChar
  match scheme, rest with
  | first :: _, ':' :: rest =>
    if first.isAlpha then some ((String.ofList scheme).toLower, rest) else none
  | _, _ => none

/-- What of a text a URL is read from. -/
def strip (text : String) : List Char :=
  let isOuter (c : Char) : Bool := c ≤ ' '
  let trimmed := ((text.toList.dropWhile isOuter).reverse.dropWhile isOuter).reverse
  trimmed.filter fun c => c ≠ '\t' ∧ c ≠ '\n' ∧ c ≠ '\r'

/-- Reads a URL. -/
def parse (text : String) : Except ParseError Url :=
  match splitScheme? (strip text) with
  | none => .error .relative
  | some (scheme, rest) =>
    match SchemeType.of scheme with
    | .file => parseFile rest
    | .special => parseAuthority scheme .special (rest.dropWhile fun c => c = '/' ∨ c = '\\')
    | .other =>
      match rest with
      | '/' :: '/' :: rest => parseAuthority scheme .other rest
      | _ => .ok (parsePlain scheme rest)

end Url

end Domotics
