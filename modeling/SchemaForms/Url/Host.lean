import SchemaForms.Url.Address
import SchemaForms.Url.Domain.Basic
import SchemaForms.Url.Percent

/-!
# Url/Host — the host of a URL

In the special schemes a host is an address of 128 bits in brackets, an address of 32 bits, or a
domain, which is brought to lower case and to ASCII.  In other schemes it is kept as it is.
-/

namespace SchemaForms

/-- Why a text is no URL that can carry a path. -/
inductive UrlError where
  | noScheme
  | emptyHost
  | invalidDomain
  | invalidHostCharacter
  | invalidShortAddress
  | invalidLongAddress
  | invalidPort
  /-- The text is a URL, but one without a path. -/
  | noPath
  deriving DecidableEq

/-- The wording of the error. -/
def UrlError.message : UrlError → String
  | .noScheme => "relative URL without a base"
  | .emptyHost => "empty host"
  | .invalidDomain => "invalid international domain name"
  | .invalidHostCharacter => "invalid domain character"
  | .invalidShortAddress => "invalid IPv4 address"
  | .invalidLongAddress => "invalid IPv6 address"
  | .invalidPort => "invalid port number"
  | .noPath => "base URL cannot carry a path"

namespace Url

/-! ## Hosts -/

/-- The host that a domain or an address of 32 bits denotes. -/
def namedHost (text : List Char) : Except UrlError (List Char) :=
  match (Percent.decodeText? text).bind Domain.ascii? with
  | none => .error .invalidDomain
  | some domain =>
    if domain.isEmpty then .error .emptyHost
    else if Address.isNumeric domain then
      match Address.short? domain with
      | some address => .ok (Address.shortText address)
      | none => .error .invalidShortAddress
    else .ok domain

/-- The host that a text in brackets denotes. -/
def bracketedHost (text : List Char) : Except UrlError (List Char) :=
  if text.getLast? = some ']' then
    match Address.long? (text.dropLast.drop 1) with
    | some groups => .ok ('[' :: Address.longText groups ++ [']'])
    | none => .error .invalidLongAddress
  else .error .invalidLongAddress

/-- The host of a special URL. -/
def specialHost (text : List Char) : Except UrlError (List Char) :=
  match text with
  | [] => .error .emptyHost
  | '[' :: _ => bracketedHost text
  | _ => namedHost text

/-- Characters that the host of another URL does not hold. -/
def isForbiddenOpaque (c : Char) : Bool :=
  ['\x00', ' ', '#', '/', ':', '<', '>', '?', '@', '[', '\\', ']', '^', '|'].contains c

/-- The host of another URL; it may be empty. -/
def opaqueHost (text : List Char) : Except UrlError (List Char) :=
  match text with
  | '[' :: _ => bracketedHost text
  | _ =>
    if text.any isForbiddenOpaque then .error .invalidHostCharacter
    else .ok (Percent.encode Percent.isControl text)

end Url

end SchemaForms
