namespace Signon.Url

/-- Why a text is not a URL. -/
inductive ParseError where
  | emptyHost
  | invalidDomainName
  | invalidPort
  | invalidIpv4
  | invalidIpv6
  | invalidDomainCharacter
  | relativeWithoutBase
  | relativeWithOpaqueBase
  deriving DecidableEq, Repr

/-- How the failure reads. -/
def ParseError.message : ParseError → String
  | .emptyHost => "empty host"
  | .invalidDomainName => "invalid international domain name"
  | .invalidPort => "invalid port number"
  | .invalidIpv4 => "invalid IPv4 address"
  | .invalidIpv6 => "invalid IPv6 address"
  | .invalidDomainCharacter => "invalid domain character"
  | .relativeWithoutBase => "relative URL without a base"
  | .relativeWithOpaqueBase => "relative URL with a cannot-be-a-base base"

end Signon.Url
