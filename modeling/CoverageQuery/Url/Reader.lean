import CoverageQuery.Url.Host
import CoverageQuery.Url.Path

/-!
# Reading addresses

An address is read from a text without a base. Blanks around it and line breaks inside it do not
count. What follows the scheme depends on its kind: addresses of the web always have an authority,
files may have a host, and other schemes have an authority only after two slashes.
-/

namespace CoverageQuery.Url

def isEdge (c : Char) : Bool := c.toNat ≤ 0x20

def isBreak (c : Char) : Bool := c == '\t' || c == '\n' || c == '\r'

/-- The text without what does not count. -/
def cleaned (text : List Char) : List Char :=
  ((text.dropWhile isEdge).reverse.dropWhile isEdge).reverse.filter (!isBreak ·)

def isSchemeChar (c : Char) : Bool := c.isAlphanum || c == '+' || c == '-' || c == '.'

/-- The scheme in lower case and what follows its colon. -/
def scheme? (text : List Char) : Option (List Char × List Char) :=
  match text.takeWhile isSchemeChar, text.dropWhile isSchemeChar with
  | c :: scheme, ':' :: rest =>
    if c.isAlpha then some ((c :: scheme).map Char.toLower, rest) else none
  | _, _ => none

/-- Characters of a path that credentials do not hold. -/
def outsideCredentials : List Char := "/:;=@[\\]^|".toList

def staysInCredentials (c : Char) : Bool := staysInPath c && !outsideCredentials.contains c

/-- Printable characters that a query does not hold. -/
def outsideQuery : List Char := " \"#<>".toList

/-- An apostrophe stays in the queries of other schemes than those of the web. -/
def staysInQuery (kind : SchemeKind) (c : Char) : Bool :=
  !isControl c && !outsideQuery.contains c && (kind == .other || c != '\'')

/-- Ends an authority. -/
def isAuthorityEnd (kind : SchemeKind) (c : Char) : Bool :=
  Path.isSlash kind c || c == '?' || c == '#'

/-- The text before the last at sign and the text after it. -/
def splitCredentials? (text : List Char) : Option (List Char × List Char) :=
  (Text.splitAt? '@' text.reverse).map fun (after, before) => (before.reverse, after.reverse)

/-- The user and the password of some credentials. An empty password counts as none. -/
def readCredentials (text : List Char) : List Char × Option (List Char) :=
  let encode := Text.Percent.encodeUnless staysInCredentials
  let (user, password) := Text.splitAt ':' text
  (encode user, if password = [] then none else some (encode password))

/-- The text up to the first colon outside brackets, and the text from there on. -/
def splitHost (bracketed : Bool) : List Char → List Char × List Char
  | [] => ([], [])
  | c :: rest =>
    if c = ':' ∧ !bracketed then ([], c :: rest)
    else
      let (host, after) := splitHost (c = '[' || (bracketed && c != ']')) rest
      (c :: host, after)

/-- The port in a text that follows a host, and what is left. The default port of the scheme
counts as none. A backslash may follow the digits. -/
def readPort (scheme text : List Char) : Except UrlFault (Option Nat × List Char) :=
  match text with
  | ':' :: rest =>
    let digits := rest.takeWhile Char.isDigit
    let after := rest.dropWhile Char.isDigit
    let port := digitsValue digits
    if 65535 < port ∨ (after ≠ [] ∧ after.head? ≠ some '\\') then .error .port
    else .ok (if digits = [] ∨ defaultPort? scheme = some port then none else some port, after)
  | after => .ok (none, after)

/-- What an address says before its path. -/
structure Authority where
  user : List Char
  password : Option (List Char)
  host : Option Host
  port : Option Nat
deriving DecidableEq, Repr

def Authority.none : Authority := ⟨[], .none, .none, .none⟩

/-- The authority that a text is, with what is left of the text. An empty host is possible only
outside the web and without credentials and a port; after a mere at sign the address must end. -/
def readAuthority (scheme text : List Char) (ends : Bool) :
    Except UrlFault (Authority × List Char) := do
  let (credentials, place) := (splitCredentials? text).getD ([], text)
  if (splitCredentials? text).isSome ∧ credentials = [] ∧ place = [] ∧ !ends then
    throw .emptyHost
  let (user, password) := readCredentials credentials
  let (hostText, after) := splitHost false place
  if hostText = [] ∧ (kindOf scheme = .web ∨ after ≠ [] ∨ user ≠ [] ∨ password.isSome) then
    throw .emptyHost
  let host ← Host.read (kindOf scheme) hostText
  let (port, rest) ← readPort scheme after
  pure (⟨user, password, some host, port⟩, rest)

/-- The query and the fragment that a text begins with, and neither where it is empty. -/
def readTail (kind : SchemeKind) (text : List Char) : Option (List Char) × Option (List Char) :=
  let (before, fragment) :=
    match Text.splitAt? '#' text with
    | some (before, fragment) => (before, some fragment)
    | none => (text, none)
  let query :=
    match before with
    | '?' :: query => some query
    | _ => none
  (query.map (Text.Percent.encodeUnless (staysInQuery kind)),
    fragment.map (Text.Percent.encodeUnless staysInFragment))

def isTailStart (c : Char) : Bool := c == '?' || c == '#'

/-- Puts an address together from its scheme, its authority, its path and the text after it. -/
def assemble (scheme : List Char) (a : Authority) (path : UrlPath) (tail : List Char) : Url :=
  let (query, fragment) := readTail (kindOf scheme) tail
  ⟨scheme, a.user, a.password, a.host, a.port, path, query, fragment⟩

/-- The path after an authority. It has a segment unless the scheme is another one than those of
the web and nothing is left. -/
def pathAfter (kind : SchemeKind) (text : List Char) : UrlPath :=
  match text with
  | [] => .segments (if kind = .other then [] else [[]])
  | c :: rest => .segments (Path.segments kind (if Path.isSlash kind c then rest else text))

/-- What follows the two slashes before an authority. -/
def readHierarchical (scheme text : List Char) : Except UrlFault Url := do
  let kind := kindOf scheme
  let authority := text.takeWhile (!isAuthorityEnd kind ·)
  let rest := text.dropWhile (!isAuthorityEnd kind ·)
  let (a, left) ← readAuthority scheme authority (rest = [])
  let path := left ++ rest.takeWhile (!isTailStart ·)
  pure (assemble scheme a (pathAfter kind path) (rest.dropWhile (!isTailStart ·)))

/-- The host of a file. The local one counts as none. -/
def readFileHost (text : List Char) : Except UrlFault Host := do
  if text = [] then pure (.name [])
  else
    let host ← Host.read .file text
    pure (if host = .name "localhost".toList then .name [] else host)

/-- A file address, given the text after the scheme. A drive has no host. -/
def readFile (text : List Char) : Except UrlFault Url := do
  let before := text.takeWhile (!isTailStart ·)
  let tail := text.dropWhile (!isTailStart ·)
  let (hostText, path) :=
    match before with
    | a :: b :: rest =>
      if Path.isSlash .file a ∧ Path.isSlash .file b then
        let host := rest.takeWhile (!Path.isSlash .file ·)
        if Path.isDrive host then ([], rest) else (host, rest.dropWhile (!Path.isSlash .file ·))
      else ([], before)
    | _ => ([], before)
  let host ← readFileHost hostText
  let inner := match path with
    | c :: rest => if Path.isSlash .file c then rest else path
    | [] => []
  let segments := Path.segments .file inner
  let host := if segments.head?.any Path.isDrive then .name [] else host
  pure (assemble "file".toList { Authority.none with host := some host }
    (.segments (Path.dropEmpty segments)) tail)

/-- An address of another scheme than those of the web, given the text after the scheme. -/
def readOther (scheme text : List Char) : Except UrlFault Url :=
  let before := text.takeWhile (!isTailStart ·)
  let tail := text.dropWhile (!isTailStart ·)
  match before with
  | '/' :: '/' :: _ => readHierarchical scheme (text.drop 2)
  | '/' :: rest => .ok (assemble scheme .none (.segments (Path.segments .other rest)) tail)
  | _ =>
    let path := Text.Percent.encodeUnless (!isControl ·) before
    .ok (assemble scheme .none (.plain path) tail)

def read (text : String) : Except UrlFault Url :=
  match scheme? (cleaned text.toList) with
  | none => .error .relative
  | some (scheme, rest) =>
    match kindOf scheme with
    | .web => readHierarchical scheme (rest.dropWhile (Path.isSlash .web))
    | .file => readFile rest
    | .other => readOther scheme rest

end CoverageQuery.Url
