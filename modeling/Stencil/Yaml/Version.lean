/-!
# `Stencil.Yaml.Version` — versions of the format

A document may say which version of the format it keeps to.  Version 1.1 differs from the usual one in
what some marks and some plain scalars mean.

## Contents
- **`Version`**, with **`Version.usual`** and **`Version.old`**; **`Version.isLate`**, later than the old one.
-/

namespace Stencil.Yaml

/-- A version of the format. -/
structure Version where
  major : Nat
  minor : Nat
deriving DecidableEq, Repr

namespace Version

/-- The version of documents that say nothing. -/
def usual : Version := ⟨1, 2⟩

/-- The version before the usual one. -/
def old : Version := ⟨1, 1⟩

/-- Whether a version comes after the old one. -/
def isLate (version : Version) : Bool :=
  old.major < version.major || (version.major = old.major && old.minor < version.minor)

end Version

end Stencil.Yaml
