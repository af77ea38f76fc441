import EndpointPlatform.Lib.Text
import EndpointPlatform.Updates.Version

/-!
# Which release an agent may move to

The version forms the agent's modules accept, each by its own regular expression, and
`_is_eligible_recommendation`: a candidate is eligible from an installed version when it is newer,
or when it is older and the reason names the operation that is rolled back.
-/

namespace EndpointPlatform.Agent

open EndpointPlatform.Lib (Text)
open EndpointPlatform.Updates (numericItem digitsValue compareCore)

/-! ## Version texts -/

/-- A version text cut at its first plus sign and, before that, at its first hyphen. -/
structure VersionParts where
  core : List (List Char)
  prerelease : Option (List Char)
  build : Option (List Char)
  deriving Repr, DecidableEq

/-- What follows the first occurrence of a character. -/
def after (c : Char) (cs : List Char) : Option (List Char) :=
  match cs.dropWhile (· ≠ c) with
  | [] => none
  | _ :: rest => some rest

def versionParts (value : Text) : VersionParts :=
  let head := value.takeWhile (· ≠ '+')
  { core := (head.takeWhile (· ≠ '-')).splitOn '.'
    prerelease := after '-' head
    build := after '+' value }

/-- `0|[1-9][0-9]*`. -/
def coreNumber (item : List Char) : Bool :=
  numericItem item && (item.length == 1 || item.head? != some '0')

/-- `[0-9A-Za-z-]+`. -/
def versionWord (item : List Char) : Bool :=
  !item.isEmpty && item.all fun c => asciiAlnum c || c == '-'

/-- `[0-9A-Za-z.-]+`. -/
def looseTag (tag : List Char) : Bool :=
  !tag.isEmpty && tag.all fun c => asciiAlnum c || c == '-' || c == '.'

/-- `[0-9A-Za-z-]+(?:\.[0-9A-Za-z-]+)*`. -/
def dottedTag (tag : List Char) : Bool :=
  (tag.splitOn '.').all versionWord

/-- Dotted words, none of them a number with a leading zero. -/
def strictTag (tag : List Char) : Bool :=
  (tag.splitOn '.').all fun item => versionWord item && (!numericItem item || coreNumber item)

/-- Three numbers, then a pre-release tag and a build tag when they are there. -/
def semverForm (prerelease build : List Char → Bool) (value : Text) : Bool :=
  let parts := versionParts value
  parts.core.length == 3 && parts.core.all coreNumber && parts.prerelease.all prerelease &&
    parts.build.all build

/-- `_SEMVER` of the Windows updater. -/
def looseSemver (value : Text) : Bool := semverForm looseTag looseTag value

/-- `_SEMVER` of `update_eligibility`. -/
def dottedSemver (value : Text) : Bool := semverForm dottedTag dottedTag value

/-- `_SEMVER` of the update adapter and of the ALT installer. -/
def strictSemver (value : Text) : Bool := semverForm strictTag dottedTag value

/-! ## Operation identifiers -/

/-- A run of lowercase hexadecimal digits of a given length. -/
def hexRun (width : ℕ) (item : List Char) : Bool :=
  item.length == width && item.all Lib.lowerHex

/-- `_is_operation_id`: a lowercase UUID of version 1 to 5,
`[0-9a-f]{8}-[0-9a-f]{4}-[1-5][0-9a-f]{3}-[89ab][0-9a-f]{3}-[0-9a-f]{12}`. -/
def isOperationId (value : Text) : Bool :=
  match value.splitOn '-' with
  | [a, b, c, d, e] =>
    hexRun 8 a && hexRun 4 b && hexRun 4 c && hexRun 4 d && hexRun 12 e &&
      c.head?.any (fun h => '1' ≤ h && h ≤ '5') && d.head?.any fun h => "89ab".toList.contains h
  | _ => false

/-! ## Eligibility -/

/-- `_ROLLBACK_REASON`: the fixed words, the identifier of the operation that is rolled back, and a
cause on one line. -/
def rollbackReason (reason : Text) : Bool :=
  let lead := "rollback of ".toList
  let rest := reason.drop (lead.length + 36)
  reason.take lead.length == lead && isOperationId ((reason.drop lead.length).take 36) &&
    rest.take 2 == "; ".toList && !(rest.drop 2).isEmpty && !(rest.drop 2).contains '\n'

/-- The order of two different pre-release identifiers as `_compare_prerelease` has it: of two
numbers the one that is not the larger is below. -/
def comparePrereleaseWord (left right : List Char) : Ordering :=
  if numericItem left && numericItem right then
    if digitsValue left > digitsValue right then .gt else .lt
  else if numericItem left then .lt
  else if numericItem right then .gt
  else if right < left then .gt else .lt

/-- `_compare_prerelease` on two tags. -/
def comparePrereleaseWords : List (List Char) → List (List Char) → Ordering
  | [], [] => .eq
  | [], _ :: _ => .lt
  | _ :: _, [] => .gt
  | left :: ls, right :: rs =>
    if left = right then comparePrereleaseWords ls rs else comparePrereleaseWord left right

def parseSemver (value : Text) : Option ((ℕ × ℕ × ℕ) × Option (List (List Char))) :=
  let parts := versionParts value
  match dottedSemver value, parts.core with
  | true, [major, minor, patch] =>
    some ((digitsValue major, digitsValue minor, digitsValue patch),
      parts.prerelease.map (·.splitOn '.'))
  | _, _ => none

def compareSemverParts (candidate installed : (ℕ × ℕ × ℕ) × Option (List (List Char))) : Ordering :=
  if candidate.1 ≠ installed.1 then compareCore candidate.1 installed.1
  else match candidate.2, installed.2 with
    | none, none => .eq
    | none, some _ => .gt
    | some _, none => .lt
    | some ls, some rs => comparePrereleaseWords ls rs

def isEligibleRecommendation (candidate installed : Text) (reason : Option Text) : Bool :=
  match parseSemver candidate, parseSemver installed with
  | some candidateParts, some installedParts =>
    match compareSemverParts candidateParts installedParts with
    | .gt => true
    | .lt => reason.any rollbackReason
    | .eq => false
  | _, _ => false

theorem comparePrereleaseWords_self (ls : List (List Char)) :
    comparePrereleaseWords ls ls = .eq := by
  induction ls with
  | nil => rfl
  | cons l ls ih => simp [comparePrereleaseWords, ih]

theorem compareSemverParts_self (parts : (ℕ × ℕ × ℕ) × Option (List (List Char))) :
    compareSemverParts parts parts = .eq := by
  obtain ⟨core, tag⟩ := parts
  cases tag with
  | none => simp [compareSemverParts]
  | some ls => simp [compareSemverParts, comparePrereleaseWords_self]

theorem ne_of_isEligibleRecommendation {candidate installed : Text} {reason : Option Text}
    (h : isEligibleRecommendation candidate installed reason = true) : candidate ≠ installed := by
  rintro rfl
  unfold isEligibleRecommendation at h
  cases hparts : parseSemver candidate with
  | none => simp [hparts] at h
  | some parts => simp [hparts, compareSemverParts_self] at h

example : isEligibleRecommendation "3.2.0".toList "3.1.9".toList none = true := by decide
example : isEligibleRecommendation "3.1.0".toList "3.1.9".toList (some "scheduled".toList) = false := by decide

end EndpointPlatform.Agent
