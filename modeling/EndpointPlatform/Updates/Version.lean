import EndpointPlatform.Updates.Model

/-!
# Semantic versions

The precedence of two semantic versions as `_compare_semver` computes it: the numeric core first,
then a release above its pre-releases, then the pre-release identifiers from the left.
-/

namespace EndpointPlatform.Updates

/-- `str.isdigit` on the ASCII texts a version is made of. -/
def numericItem (item : List Char) : Bool :=
  !item.isEmpty && item.all fun c => '0' ≤ c && c ≤ '9'

/-- `int` of a run of digits. -/
def digitsValue (item : List Char) : ℕ :=
  item.foldl (fun n c => 10 * n + (c.toNat - 48)) 0

/-- `_semver_parts`: the numeric core and the pre-release identifiers. There is no result, as the
source's unpacking raises `ValueError`, unless the core is three numbers. -/
def semverParts (value : String) : Option ((ℕ × ℕ × ℕ) × Option (List (List Char))) :=
  let withoutBuild := value.toList.takeWhile (· ≠ '+')
  let core := withoutBuild.takeWhile (· ≠ '-')
  let prerelease := match withoutBuild.dropWhile (· ≠ '-') with
    | [] => none
    | _ :: rest => some (rest.splitOn '.')
  match core.splitOn '.' with
  | [major, minor, patch] =>
    if numericItem major && numericItem minor && numericItem patch then
      some ((digitsValue major, digitsValue minor, digitsValue patch), prerelease)
    else none
  | _ => none

/-- The order of two different pre-release identifiers: numbers by value, numbers below words, words
by code point. -/
def comparePrereleaseItem (left right : List Char) : Ordering :=
  if numericItem left && numericItem right then
    if digitsValue left < digitsValue right then .lt else .gt
  else if numericItem left != numericItem right then
    if numericItem left then .lt else .gt
  else if left < right then .lt else .gt

/-- The order of two pre-release tags: by their first difference, else by length. -/
def comparePrerelease : List (List Char) → List (List Char) → Ordering
  | [], [] => .eq
  | [], _ :: _ => .lt
  | _ :: _, [] => .gt
  | left :: ls, right :: rs =>
    if left = right then comparePrerelease ls rs else comparePrereleaseItem left right

def compareCore (left right : ℕ × ℕ × ℕ) : Ordering :=
  (compare left.1 right.1).then ((compare left.2.1 right.2.1).then (compare left.2.2 right.2.2))

def compareSemver (left right : String) : Except UpdateError Ordering := do
  let (leftCore, leftPre) ← Lib.demand (semverParts left) .value
  let (rightCore, rightPre) ← Lib.demand (semverParts right) .value
  .ok <|
    if leftCore ≠ rightCore then compareCore leftCore rightCore
    else match leftPre, rightPre with
      | none, none => .eq
      | none, some _ => .gt
      | some _, none => .lt
      | some ls, some rs => comparePrerelease ls rs

example : compareSemver "1.2.0-rc.2" "1.2.0" = .ok .lt := by decide
example : compareSemver "1.10.0" "1.9.3+build.7" = .ok .gt := by decide

end EndpointPlatform.Updates
