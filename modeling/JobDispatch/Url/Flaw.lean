/-!
# What can be wrong with a URL

A URL is refused for its host, its port, or because it is only a reference that needs a base.
-/

namespace JobDispatch

/-- Why a text is no URL. -/
inductive UrlFlaw
  | emptyHost
  | invalidName
  | invalidPort
  | invalidIpv4
  | invalidIpv6
  | invalidHostCharacter
  | relativeWithoutBase
  | relativeToVerbatim
deriving DecidableEq, Repr

/-- The wording of a flaw. -/
def UrlFlaw.message : UrlFlaw → String
  | .emptyHost => "empty host"
  | .invalidName => "invalid international domain name"
  | .invalidPort => "invalid port number"
  | .invalidIpv4 => "invalid IPv4 address"
  | .invalidIpv6 => "invalid IPv6 address"
  | .invalidHostCharacter => "invalid domain character"
  | .relativeWithoutBase => "relative URL without a base"
  | .relativeToVerbatim => "relative URL with a cannot-be-a-base base"

end JobDispatch
