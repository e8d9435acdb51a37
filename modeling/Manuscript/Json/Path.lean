import Manuscript.Json.Record
import Manuscript.Path

/-!
Paths in JSON are strings.
-/

namespace Manuscript.Path

def toJson (p : Path) : Json :=
  .string p.toString

def ofJson? (j : Json) : Option Path :=
  j.string?.map Path.ofString

end Manuscript.Path
