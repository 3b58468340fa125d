import Asyncly.Tools.Commands

/-!
# Exit codes

A call returns 0 or 1 unless an exception gets out that is no `ReleaseError`. Apart from the
checks of the archives, two can: the interpreter refuses to read a numeral that is too long, and
the TOML library may raise something else than it documents.
-/

namespace Asyncly.Release

variable {kit : Toolkit} {host : Host} {s : System} {path : Path} {limit : Nat}
  {text version previous : String}

namespace Sample

def pyprojectPath : Path := .ofString "pyproject.toml"

/-- A directory with nothing but the project file. -/
def project : System where
  entries :=
    [(.ofString ".", .directory 0o755), (pyprojectPath, .file (encodeUtf8 pyproject) 0o644)]
  directories := .literal

end Sample

end Asyncly.Release
