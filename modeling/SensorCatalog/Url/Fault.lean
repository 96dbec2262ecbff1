/-!
# Faults of URLs

## Main definitions

* `Url.Fault`, `Url.Fault.message`: what can be wrong with a URL, and how it is said.
-/

namespace SensorCatalog.Url

/-- What can be wrong with the text of a URL. -/
inductive Fault where
  /-- The text has no scheme, and there is no base to take one from. -/
  | relativeWithoutBase
  /-- The base has no hierarchy that the text could be placed in. -/
  | rootlessBase
  | emptyHost
  | invalidPort
  | invalidIpv4
  | invalidIpv6
  | invalidDomainName
  | invalidDomainCharacter
  deriving DecidableEq

/-- How a fault is said. -/
def Fault.message : Fault → String
  | .relativeWithoutBase => "relative URL without a base"
  | .rootlessBase => "relative URL with a cannot-be-a-base base"
  | .emptyHost => "empty host"
  | .invalidPort => "invalid port number"
  | .invalidIpv4 => "invalid IPv4 address"
  | .invalidIpv6 => "invalid IPv6 address"
  | .invalidDomainName => "invalid international domain name"
  | .invalidDomainCharacter => "invalid domain character"

end SensorCatalog.Url
