import SchemaForms.Decimal.Layout
import SchemaForms.Url.Segments

/-!
# Url/Basic — addresses on the web

A URL that can carry a path: a scheme, an authority, the segments of a path, a query and a fragment,
each already encoded.  New segments are put behind the last one; where the path ends in a slash, its
last segment is empty.
-/

namespace SchemaForms

/-- The part of a URL that names a server. -/
structure Authority where
  /-- The user name and password; empty, if there are none. -/
  user : List Char
  host : List Char
  port : Option Nat
  deriving DecidableEq

/-- An address on the web. -/
structure Url where
  scheme : List Char
  authority : Option Authority
  path : List Url.Segment
  /-- Whether a dot keeps the path apart from an authority; it stays when the path is changed. -/
  isGuarded : Bool
  query : Option (List Char)
  fragment : Option (List Char)
  deriving DecidableEq

namespace Url

/-! ## Schemes -/

/-- The schemes whose URLs have a host and treat a backslash as a slash. -/
def specialSchemes : List String := ["http", "https", "ws", "wss", "ftp", "file"]

/-- Whether a scheme is special. -/
def isSpecial (scheme : List Char) : Bool := specialSchemes.contains (String.ofList scheme)

/-- Whether a scheme is that of files. -/
def isFile (scheme : List Char) : Bool := String.ofList scheme = "file"

/-- The port that a scheme uses unless told otherwise. -/
def defaultPort? (scheme : List Char) : Option Nat :=
  match String.ofList scheme with
  | "http" | "ws" => some 80
  | "https" | "wss" => some 443
  | "ftp" => some 21
  | _ => none

/-! ## Writing -/

/-- An optional part after its mark. -/
def marked (mark : Char) : Option (List Char) → List Char
  | some text => mark :: text
  | none => []

/-- The authority after its two slashes. -/
def authorityText (authority : Authority) : List Char :=
  '/' :: '/' :: (if authority.user.isEmpty then [] else authority.user ++ ['@']) ++
    authority.host ++ marked ':' (authority.port.map Decimal.natText)

/-- A slash and a segment for each segment. -/
def pathText (path : List Segment) : List Char := path.flatMap fun segment => '/' :: segment

/-- Whether a path would be taken for an authority: there is none, and the path begins with an empty
segment. -/
def needsGuard (authority : Option Authority) (path : List Segment) : Bool :=
  match authority, path with
  | none, [] :: _ :: _ => true
  | _, _ => false

/-- The characters of a URL. -/
def chars (url : Url) : List Char :=
  url.scheme ++ ':' :: (((url.authority.map authorityText).getD []) ++
    (if url.isGuarded then ['/', '.'] else []) ++ pathText url.path ++ marked '?' url.query ++
    marked '#' url.fragment)

/-- The text of a URL. -/
def text (url : Url) : String := String.ofList url.chars

/-- Whether a URL names a host. -/
def hasHost (url : Url) : Bool :=
  match url.authority with
  | some authority => !authority.host.isEmpty
  | none => false

/-! ## Segments -/

/-- The URL under this one with further segments. -/
def extend (url : Url) (segments : List String) : Url :=
  { url with
    path := (segments.map String.toList).foldl
      (addSegment (isFile url.scheme) (isSpecial url.scheme)) (dropEmptyLast url.path) }

/-! ## Parameters -/

/-- The URL with a parameter at the end of its query. -/
def withParameter (url : Url) (name value : String) : Url :=
  let parameter := name.toList ++ '=' :: value.toList
  { url with
    query := match url.query with
      | none | some [] => some parameter
      | some query => some (query ++ '&' :: parameter) }

/-! ## Users -/

/-- Whether a user name and password are readable: the name is, and where it is empty, the password
is too. -/
def isReadable (user : List Char) : Bool :=
  let name := user.takeWhile (· ≠ ':')
  let password := (user.dropWhile (· ≠ ':')).drop 1
  (Percent.decodeText? name).isSome &&
    (!name.isEmpty || (Percent.decodeText? password).isSome)

/-- The URL without a readable user name and password. -/
def withoutUser (url : Url) : Url :=
  { url with authority := url.authority.map fun authority =>
      if isReadable authority.user then { authority with user := [] } else authority }

end Url

end SchemaForms
