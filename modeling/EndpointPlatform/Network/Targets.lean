import EndpointPlatform.Basic
import EndpointPlatform.Lib.Pattern
import EndpointPlatform.Lib.Tx

/-!
# Network target policies

The server and the agent each decide whether a network probe may be aimed at a target: an address
in one of the allowed networks, or a host below one of the allowed domain suffixes. The two classes
are written separately, each in its own words; the patterns are the same text in both files. Python
strings are lists of characters here.
-/

namespace EndpointPlatform.Network

open Lib Lib.Pattern

/-- The codes of `NetworkTargetPolicyError` and `NetworkProbeDenied`. -/
inductive Denial where
  /-- `network_target_policy_not_configured` -/
  | notConfigured
  /-- `network_target_invalid` -/
  | invalid
  /-- `network_target_forbidden_address` -/
  | forbiddenAddress
  /-- `network_target_disallowed` -/
  | disallowed
  deriving Repr, DecidableEq

def Denial.code : Denial → String
  | .notConfigured => "network_target_policy_not_configured"
  | .invalid => "network_target_invalid"
  | .forbiddenAddress => "network_target_forbidden_address"
  | .disallowed => "network_target_disallowed"

/-- The messages of the `ValueError`s of a configuration that is refused. -/
inductive ConfigError where
  /-- `allowed CIDR must be a canonical network` -/
  | cidr
  /-- `allowed suffix must be a trimmed domain suffix` -/
  | untrimmed
  /-- `allowed suffix must be a dotted domain suffix` -/
  | undotted
  deriving Repr, DecidableEq

/-- The `ipaddress` module: what it parses, and how it classifies an address. -/
structure Ipaddress (Address Subnet : Type) where
  /-- `ipaddress.ip_address`, or a `ValueError`. -/
  ipAddress : Text → Option Address
  /-- `ipaddress.ip_network(value, strict=True)`, or a `ValueError`. -/
  ipNetwork : Text → Option Subnet
  isLoopback : Address → Bool
  isUnspecified : Address → Bool
  isMulticast : Address → Bool
  isLinkLocal : Address → Bool
  /-- An `IPv4Address` equal to `255.255.255.255`. -/
  isBroadcast : Address → Bool
  /-- `address in network`. -/
  contains : Subnet → Address → Bool

/-! ## Strings -/

/-- The characters `str.isspace` accepts. -/
def isSpace (c : Char) : Bool :=
  [0x09, 0x0a, 0x0b, 0x0c, 0x0d, 0x1c, 0x1d, 0x1e, 0x1f, 0x20, 0x85, 0xa0, 0x1680, 0x2000, 0x2001,
    0x2002, 0x2003, 0x2004, 0x2005, 0x2006, 0x2007, 0x2008, 0x2009, 0x200a, 0x2028, 0x2029, 0x202f,
    0x205f, 0x3000].contains c.toNat

def isAscii (c : Char) : Bool := decide (c.toNat < 128)

/-- `str.lower`; `unicodeLower` is its value on a text with a character outside the ASCII range. -/
def lower (unicodeLower : Text → Text) (x : Text) : Text :=
  if x.all isAscii then x.map Char.toLower else unicodeLower x

/-! ## Patterns -/

/-- `[A-Za-z0-9]` -/
def alnum : List Char :=
  "ABCDEFGHIJKLMNOPQRSTUVWXYZabcdefghijklmnopqrstuvwxyz0123456789".toList

/-- `[A-Za-z0-9-]` -/
def alnumHyphen : List Char := alnum ++ ['-']

/-- `[A-Za-z0-9](?:[A-Za-z0-9-]{0,61}[A-Za-z0-9])?` -/
def label : RegularExpression Char :=
  oneOf alnum * opt (upTo (oneOf alnumHyphen) 61 * oneOf alnum)

/-- `(?:\.label)*` -/
def moreLabels : RegularExpression Char := (.char '.' * label).star

/-- `_HOSTNAME_PATTERN.fullmatch(value)`: the lookahead `(?=.{1,253}\Z)`, in which the dot matches
all but a line feed, and then `label(?:\.label)*\.?`. -/
def hostnamePattern (value : Text) : Bool :=
  (decide (1 ≤ value.length ∧ value.length ≤ 253) && !value.contains '\n') &&
    (label * moreLabels * opt (.char '.')).rmatch value

/-- `_SUFFIX_PATTERN.fullmatch(value)`: `\.label(?:\.label)*`. -/
def suffixPattern (value : Text) : Bool := (.char '.' * label * moreLabels).rmatch value

/-! ## The policies -/

section Policies

variable {Address Subnet : Type} (ip : Ipaddress Address Subnet) (unicodeLower : Text → Text)

/-- The fields of `NetworkTargetPolicyV1`. -/
structure NetworkTargetPolicyV1 (Subnet : Type) where
  allowedCidrs : List Subnet
  allowedSuffixes : List Text
  deriving DecidableEq

/-- The fields of `AgentNetworkProbePolicy`. -/
structure AgentNetworkProbePolicy (Subnet : Type) where
  allowedCidrs : List Subnet
  allowedSuffixes : List Text
  deriving DecidableEq

def normalizedCidrs (values : List Text) : Except ConfigError (List Subnet) :=
  values.mapM fun value => demand (ip.ipNetwork value) .cidr

def normalizedSuffixes (values : List Text) : Except ConfigError (List Text) := do
  let normalized ← values.mapM fun value => do
    require (value = strip isSpace value) .untrimmed
    require (suffixPattern (lower unicodeLower value) = true) .undotted
    pure (lower unicodeLower value)
  pure normalized.eraseDups

def NetworkTargetPolicyV1.fromValues (allowedCidrs allowedSuffixes : List Text) :
    Except ConfigError (NetworkTargetPolicyV1 Subnet) := do
  let cidrs ← normalizedCidrs ip allowedCidrs
  let suffixes ← normalizedSuffixes unicodeLower allowedSuffixes
  pure ⟨cidrs, suffixes⟩

/-- `"://" in value or "/" in value or "@" in value`. -/
def hasUrlPart (value : Text) : Bool :=
  decide ([':', '/', '/'] <:+: value) || value.contains '/' || value.contains '@'

/-- `_parse_target`: an address or a host name. -/
def parseTarget (value : Text) : Except Denial (Address ⊕ Text) :=
  if value ≠ strip isSpace value ∨ hasUrlPart value = true then .error .invalid
  else match ip.ipAddress value with
    | some address => .ok (.inl address)
    | none =>
      if hostnamePattern value = false then .error .invalid
      else .ok (.inr (rstrip '.' (lower unicodeLower value)))

def isForbiddenAddress (value : Address) : Bool :=
  if ip.isLoopback value || ip.isUnspecified value || ip.isMulticast value ||
      ip.isLinkLocal value then true
  else ip.isBroadcast value

def NetworkTargetPolicyV1.requireAllowed (p : NetworkTargetPolicyV1 Subnet) (target : Text) :
    Except Denial Unit := do
  if p.allowedCidrs = [] ∧ p.allowedSuffixes = [] then .error .notConfigured
  else match ← parseTarget ip unicodeLower target with
    | .inl address =>
      if isForbiddenAddress ip address then .error .forbiddenAddress
      else if p.allowedCidrs.any (ip.contains · address) then .ok ()
      else .error .disallowed
    | .inr hostname =>
      if p.allowedSuffixes.any (fun suffix => suffix <:+ hostname ∧ hostname ≠ suffix.drop 1) then
        .ok ()
      else .error .disallowed

def networks (values : List Text) : Except ConfigError (List Subnet) :=
  values.mapM fun value => demand (ip.ipNetwork value) .cidr

def suffixes (values : List Text) : Except ConfigError (List Text) := do
  let result ← values.mapM fun value => do
    require (value = strip isSpace value ∧ suffixPattern (lower unicodeLower value) = true) .undotted
    pure (lower unicodeLower value)
  pure result.eraseDups

def AgentNetworkProbePolicy.fromValues (allowedCidrs allowedSuffixes : List Text) :
    Except ConfigError (AgentNetworkProbePolicy Subnet) := do
  let cidrs ← networks ip allowedCidrs
  let suffixes ← suffixes unicodeLower allowedSuffixes
  pure ⟨cidrs, suffixes⟩

def AgentNetworkProbePolicy.requireAllowed (p : AgentNetworkProbePolicy Subnet) (target : Text) :
    Except Denial Unit :=
  if p.allowedCidrs = [] ∧ p.allowedSuffixes = [] then .error .notConfigured
  else if target ≠ strip isSpace target ∨ hasUrlPart target = true then .error .invalid
  else match ip.ipAddress target with
    | none =>
      let hostname := rstrip '.' (lower unicodeLower target)
      if hostnamePattern target = false then .error .invalid
      else if p.allowedSuffixes.any
          (fun suffix => suffix <:+ hostname ∧ hostname ≠ suffix.drop 1) then .ok ()
      else .error .disallowed
    | some address =>
      if ip.isLoopback address || ip.isUnspecified address || ip.isMulticast address ||
          ip.isLinkLocal address || ip.isBroadcast address then .error .forbiddenAddress
      else if p.allowedCidrs.any (ip.contains · address) then .ok ()
      else .error .disallowed

end Policies

end EndpointPlatform.Network
