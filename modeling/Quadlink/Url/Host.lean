import Quadlink.Url.Address
import Quadlink.Url.Domain
import Quadlink.Url.Fault

/-!
# Hosts

The host of a URL with a well-known scheme is a domain name or an address; it is brought into one
spelling, and that spelling reads back as the same host. In a URL with any other scheme the host
is kept as it is, apart from percent-encoding.
-/

namespace Quadlink.Url

open Text

/-- The host of a URL. A name that looks like an address is one: `1` is an IPv4 address. -/
inductive Host
  | domain (name : String)
  | ipv4 (address : Nat)
  | ipv6 (pieces : List Nat)
  deriving Repr, DecidableEq

namespace Host

def text : Host → String
  | .domain name => name
  | .ipv4 address => Ipv4.text address
  | .ipv6 pieces => "[" ++ Ipv6.text pieces ++ "]"

def isEmpty : Host → Bool
  | .domain name => name.isEmpty
  | _ => false

def readBracketed (cs : List Char) : Except UrlFault Host :=
  match dropSuffix? [']'] cs with
  | none => .error .badIpv6
  | some inner =>
    match Ipv6.read? inner with
    | some pieces => .ok (.ipv6 pieces)
    | none => .error .badIpv6

/-- Read a percent-encoded domain name or IPv4 address. It is decoded first, so that an encoding
hides nothing. -/
def readName (cs : List Char) : Except UrlFault Host :=
  match decodeChars (Codec.Percent.decode cs) with
  | .error _ => .error .badDomain
  | .ok decoded =>
    match Domain.toAscii? decoded with
    | none => .error .badDomain
    | some [] => .error .emptyHost
    | some name =>
      if Ipv4.endsInNumber name then
        match Ipv4.read? name with
        | some address => .ok (.ipv4 address)
        | none => .error .badIpv4
      else .ok (.domain (String.ofList name))

/-- Read the host of a URL with a well-known scheme, in any spelling. -/
def read (cs : List Char) : Except UrlFault Host :=
  match cs with
  | '[' :: rest => readBracketed rest
  | _ => readName cs

def readsBack (host : Host) : Bool :=
  match read host.text.toList with
  | .ok again => decide (again = host)
  | .error _ => false

/-- Read a host and make sure that its spelling reads back as the same host. Without that, a URL
could change its host when it is written and read again. -/
def parse (cs : List Char) : Except UrlFault Host :=
  match read cs with
  | .error fault => .error fault
  | .ok host => if host.readsBack then .ok host else .error .badDomain

def isForbidden (c : Char) : Bool :=
  [Char.ofNat 0, '\t', '\n', '\r', ' ', '#', '/', ':', '<', '>', '?', '@', '[', '\\', ']', '^',
    '|'].contains c

/-- Read the host of a URL whose scheme is not well known. -/
def parseForeign (cs : List Char) : Except UrlFault Host :=
  match cs with
  | '[' :: rest => readBracketed rest
  | _ =>
    if cs.any isForbidden then .error .badHostCharacter
    else .ok (.domain (String.ofList (Codec.Percent.encode Codec.Percent.isControl cs)))

end Host

end Quadlink.Url
