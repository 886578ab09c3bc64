/-!
Why a text is no URL.
-/

namespace TeamConsole

/-- The first fault found in a text that should be a URL. -/
inductive UrlError where
  | relativeWithoutBase
  | emptyHost
  | invalidPort
  | invalidIpv4
  | invalidIpv6
  /-- A domain that has no form in ASCII. -/
  | invalidDomain
  /-- A character that the host of a scheme without rules of its own cannot hold. -/
  | invalidHostCharacter
deriving DecidableEq, Repr

/-- The text of a fault. -/
def UrlError.message : UrlError → String
  | relativeWithoutBase => "relative URL without a base"
  | emptyHost => "empty host"
  | invalidPort => "invalid port number"
  | invalidIpv4 => "invalid IPv4 address"
  | invalidIpv6 => "invalid IPv6 address"
  | invalidDomain => "invalid international domain name"
  | invalidHostCharacter => "invalid domain character"

end TeamConsole
