import SchemaForms.Url.Basic
import SchemaForms.Url.Host

/-!
# Url/Reader — reading a URL

Blanks around a URL and tabs and line breaks inside do not count.  A special scheme takes any number
of slashes before its authority; in others two slashes announce one.  The path is walked along, and
every part is encoded.
-/

namespace SchemaForms.Url

/-! ## Scheme -/

/-- A character of a scheme. -/
def isSchemeChar (c : Char) : Bool := c.isAlphanum || c = '+' || c = '-' || c = '.'

/-- The scheme in lower case, and what follows its colon. -/
def readScheme (text : List Char) : Except UrlError (List Char × List Char) :=
  let name := kept (text.takeWhile (· ≠ ':'))
  match text.dropWhile (· ≠ ':') with
  | _ :: rest =>
    if name.head?.any isLetter && name.all isSchemeChar then .ok (name.map Char.toLower, rest)
    else .error .noScheme
  | [] => .error .noScheme

/-! ## Authority -/

/-- Whether a character separates segments. -/
def isSlash (special : Bool) (c : Char) : Bool := c = '/' || (special && c = '\\')

/-- Whether a character ends the authority. -/
def endsAuthority (special : Bool) (c : Char) : Bool :=
  isSlash special c || c = '?' || c = '#'

/-- What comes before the last `@`, if there is one, and what comes after. -/
def splitUser (text : List Char) : Option (List Char) × List Char :=
  match text.reverse.dropWhile (· ≠ '@') with
  | [] => (none, text)
  | _ :: before => (some before.reverse, (text.reverse.takeWhile (· ≠ '@')).reverse)

/-- A user name and a password, encoded; an empty password has no colon. -/
def userText (text : List Char) : List Char :=
  let name := text.takeWhile (· ≠ ':')
  let encoded := Percent.encode Percent.inUser
  match text.dropWhile (· ≠ ':') with
  | _ :: c :: password => encoded name ++ ':' :: encoded (c :: password)
  | _ => encoded name

/-- The host, up to a colon outside of brackets. -/
def splitPort (inside : Bool) : List Char → List Char × List Char
  | [] => ([], [])
  | c :: rest =>
    if c = ':' && !inside then ([], c :: rest)
    else
      let (host, port) := splitPort (if c = '[' then true else if c = ']' then false else inside) rest
      (c :: host, port)

/-- The number of a port; the usual port of the scheme is not kept. -/
def readPort (scheme digits : List Char) : Except UrlError (Option Nat) :=
  if digits.isEmpty then .ok none
  else
    match Numeral.natural? 10 digits with
    | some port =>
      if 65535 < port then .error .invalidPort
      else .ok (if defaultPort? scheme = some port then none else some port)
    | none => .error .invalidPort

/-- The host of a scheme. -/
def readHost (scheme text : List Char) : Except UrlError (List Char) :=
  if isSpecial scheme then specialHost text else opaqueHost text

/-- An authority, and what follows its port; a backslash ends the port in any scheme.  `isLast` tells
whether the URL ends behind it. -/
def readAuthority (scheme : List Char) (isLast : Bool) (text : List Char) :
    Except UrlError (Authority × List Char) := do
  let (user, rest) := splitUser text
  if user = some [] && rest.isEmpty && !isLast then .error .emptyHost
  else
    let (hostText, portText) := splitPort false rest
    let host ← readHost scheme hostText
    if host.isEmpty && !portText.isEmpty then .error .emptyHost
    else
      let port ← readPort scheme ((portText.drop 1).takeWhile (· ≠ '\\'))
      let user := userText (user.getD [])
      if host.isEmpty && !user.isEmpty then .error .emptyHost
      else .ok (⟨user, host, port⟩, portText.dropWhile (· ≠ '\\'))

/-- The authority of a file: a host that may be empty and, when it is this machine, is. -/
def readFileHost (text : List Char) : Except UrlError Authority :=
  if text.isEmpty then .ok ⟨[], [], none⟩
  else (specialHost text).map fun host =>
    ⟨[], if String.ofList host = "localhost" then [] else host, none⟩

/-! ## Path -/

/-- What follows the first `n` characters that count. -/
def afterKept : Nat → List Char → List Char
  | 0, text => text
  | _ + 1, [] => []
  | n + 1, c :: rest => if isDropped c then afterKept (n + 1) rest else afterKept n rest

/-- A text without the slash that it begins with, if it does. -/
def dropSlash (special : Bool) (text : List Char) : List Char :=
  if (kept text).head?.any (isSlash special) then afterKept 1 text else text

/-- Walks along a path. -/
def walkPath (scheme text : List Char) : Walk :=
  Walk.start.along (isFile scheme) (text.splitOnP (isSlash (isSpecial scheme)))

/-- The segments of a path, with or without a slash at its beginning. -/
def readPath (scheme text : List Char) : List Segment :=
  if text.isEmpty && !isSpecial scheme then []
  else (walkPath scheme (dropSlash (isSpecial scheme) text)).path (isFile scheme)

/-! ## The whole -/

/-- What comes after a mark. -/
def afterMark? : List Char → Option (List Char)
  | [] => none
  | _ :: rest => some rest

/-- Text without its query and fragment; the query; the fragment. -/
def splitTail (special : Bool) (text : List Char) :
    List Char × Option (List Char) × Option (List Char) :=
  let beforeFragment := text.takeWhile (· ≠ '#')
  let encoded (mustEncode : Char → Bool) (part : Option (List Char)) : Option (List Char) :=
    part.map fun part => Percent.encode mustEncode (kept part)
  (beforeFragment.takeWhile (· ≠ '?'),
    encoded (Percent.inQuery special) (afterMark? (beforeFragment.dropWhile (· ≠ '?'))),
    encoded Percent.inFragment (afterMark? (text.dropWhile (· ≠ '#'))))

/-- The authority and path behind the slashes of a URL. -/
def readNet (scheme : List Char) (isLast : Bool) (text : List Char) :
    Except UrlError (Option Authority × List Segment) :=
  let ends := endsAuthority (isSpecial scheme)
  let rest := text.dropWhile fun c => !ends c
  (readAuthority scheme (isLast && rest.isEmpty) (text.takeWhile fun c => !ends c)).map
    fun (authority, more) => (some authority, readPath scheme (more ++ rest))

/-- The authority of a file without a host. -/
def noHost : Authority := ⟨[], [], none⟩

/-- The authority and path of a file. -/
def readFile (scheme body : List Char) : Except UrlError (Option Authority × List Segment) :=
  let text := kept body
  if 2 ≤ text.length && (text.take 2).all (isSlash true) then
    let hostText := (text.drop 2).takeWhile fun c => !endsAuthority true c
    if isDrive hostText then
      .ok (some noHost, (walkPath scheme (afterKept 2 body)).path true)
    else
      (readFileHost hostText).map fun authority =>
        let rest := afterKept (2 + hostText.length) body
        let walk := walkPath scheme (if authority.host.isEmpty then rest else dropSlash true rest)
        (some (if walk.onDrive then noHost else authority), walk.path true)
  else .ok (some noHost, readPath scheme body)

/-- The authority and path of another URL. -/
def readOther (scheme : List Char) (isLast : Bool) (body : List Char) :
    Except UrlError (Option Authority × List Segment) :=
  match body with
  | '/' :: '/' :: rest => readNet scheme isLast rest
  | '/' :: _ => .ok (none, readPath scheme body)
  | _ => .error .noPath

/-- The authority and path that follow a scheme; `isLast` tells whether neither query nor fragment
follows. -/
def readBody (scheme : List Char) (isLast : Bool) (body : List Char) :
    Except UrlError (Option Authority × List Segment) :=
  if isFile scheme then readFile scheme body
  else if isSpecial scheme then readNet scheme isLast ((kept body).dropWhile (isSlash true))
  else readOther scheme isLast (kept body)

/-- Controls and spaces, which do not count around a URL. -/
def isTrimmed (c : Char) : Bool := decide (c.toNat ≤ 0x20)

/-- A text without the controls and spaces around it. -/
def trimmed (text : List Char) : List Char :=
  ((text.dropWhile isTrimmed).reverse.dropWhile isTrimmed).reverse

/-- Reads a URL that can carry a path. -/
def parse (text : String) : Except UrlError Url := do
  let (scheme, rest) ← readScheme (trimmed text.toList)
  let (body, query, fragment) := splitTail (isSpecial scheme) rest
  let (authority, path) ← readBody scheme (query.isNone && fragment.isNone) body
  .ok ⟨scheme, authority, path, needsGuard authority path, query, fragment⟩

end SchemaForms.Url
