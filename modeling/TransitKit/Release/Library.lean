import TransitKit.Release.Requirement

/-!
# Release libraries

The release logic reads versions and requirements through libraries it does not define:
a version library says which texts are versions, how versions are ordered and what epoch
and release numbers each has; a requirement library reads a requirement's name and
specifiers. The laws asked of a version library are that its order is a total preorder
ranking versions by epoch and then by release numbers before anything else
(`VersionScheme.Lawful`). `standardLibrary` reads versions as PEP 440 and requirements as
PEP 508 do.
-/

namespace TransitKit.Release

/-- The size of a version bump. -/
inductive Bump where
  | patch
  | minor
  | major
deriving DecidableEq

/-- The name of a bump. -/
def Bump.name : Bump → String
  | .patch => "patch"
  | .minor => "minor"
  | .major => "major"

/-- A bump with its first letter in upper case. -/
def Bump.title : Bump → String
  | .patch => "Patch"
  | .minor => "Minor"
  | .major => "Major"

/-- The larger of two bumps, in the order patch, minor, major. -/
def Bump.max : Bump → Bump → Bump
  | .major, _ | _, .major => .major
  | .minor, _ | _, .minor => .minor
  | .patch, .patch => .patch

theorem Bump.max_major (b : Bump) : Bump.max .major b = .major := by
  cases b <;> rfl

/-- What the release logic reads of a version library: which texts are versions and the
message for one that is not, the order of versions, and the epoch and release numbers of
each. -/
structure VersionScheme where
  Ver : Type
  parse? : String → Option Ver
  invalid : String → String
  compare : Ver → Ver → Ordering
  epoch : Ver → Nat
  release : Ver → List Nat

/-- Release numbers with their trailing zeros removed. -/
def trimZeros (xs : List Nat) : List Nat := (xs.reverse.dropWhile (· == 0)).reverse

/-- The laws asked of a version library: its order is a total preorder, and it ranks
versions by epoch and then by release numbers, trailing zeros removed, before anything
else, so that a later version never has a smaller epoch nor, in the same epoch, a
lexicographically smaller release. -/
structure VersionScheme.Lawful (V : VersionScheme) : Prop where
  transCmp : Std.TransCmp V.compare
  leading_isLE : ∀ a b, V.compare a b = .lt →
    ((Ord.compare (V.epoch a) (V.epoch b)).then
      (List.compareLex Ord.compare (trimZeros (V.release a)) (trimZeros (V.release b)))).isLE

namespace VersionScheme

variable (V : VersionScheme)

/-- The first three release numbers of a version, zeros for the missing ones. -/
def triple (v : V.Ver) : Nat × Nat × Nat :=
  ((V.release v).getD 0 0, (V.release v).getD 1 0, (V.release v).getD 2 0)

/-- The bump from one version to a later one: the first of the three release numbers
that grew, or `patch`. No bump when the new version is not later. -/
def bumpBetween (old new : V.Ver) : Option Bump :=
  if V.compare old new != .lt then none
  else
    let (a, b, c) := V.triple old
    let (x, y, z) := V.triple new
    if x > a then some .major
    else if x == a && y > b then some .minor
    else if x == a && y == b && z > c then some .patch
    else some .patch

end VersionScheme

/-- The libraries the release logic reads versions and requirements with. -/
structure ReleaseLibrary where
  versions : VersionScheme
  requirement? : String → Option Requirement

/-- Versions as PEP 440 reads and orders them. -/
def pep440 : VersionScheme where
  Ver := Version
  parse? := Version.parse?
  invalid := invalidVersion
  compare := Version.compare
  epoch := Version.epoch
  release := Version.release

/-- PEP 440 versions and PEP 508 requirements. -/
def standardLibrary : ReleaseLibrary := ⟨pep440, Requirement.parse?⟩

end TransitKit.Release
