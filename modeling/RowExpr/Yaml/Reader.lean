import RowExpr.Yaml.Parser
import RowExpr.Yaml.Scanner

/-!
# Reading YAML
-/

namespace RowExpr.Yaml

/-- Whether a character may stand in a document. Controls may not, but for tabs and line
breaks. -/
def isAllowed (c : Char) : Bool :=
  ['\t', '\n', '\r', '\u0085'].contains c || (' ' ≤ c && c ≤ '~')
    || ('\u00a0' ≤ c && c.toNat ≠ 0xfffe && c.toNat ≠ 0xffff)

/-- A text that is one document. Where nothing is in it, it is blank. -/
def read (s : String) : Option Tree :=
  let cs := s.toList
  if cs.all isAllowed then do
    let root ← onlyDocument? (← tokens? (cellsFrom 0 0 cs))
    return .ofRoot root
  else none

end RowExpr.Yaml
