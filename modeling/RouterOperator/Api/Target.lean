/-!
# Request targets

The path and the query that a request is sent to. A text is a target only if its characters may
stand in one; what follows a number sign is not sent.
-/

namespace RouterOperator

/-- The target of a request. -/
structure Target where
  path : String
  query : String := ""
deriving DecidableEq

namespace Target

/-- Whether a character may stand in a path. -/
def isPathChar (c : Char) : Bool :=
  let n := c.toNat
  n = 0x21 || n = 0x22 || (0x24 ≤ n && n ≤ 0x3B) || n = 0x3D || (0x40 ≤ n && n ≤ 0x5F) ||
    (0x61 ≤ n && n ≠ 0x7F)

/-- Whether a character may stand in a query. -/
def isQueryChar (c : Char) : Bool :=
  let n := c.toNat
  n = 0x21 || (0x24 ≤ n && n ≤ 0x3B) || n = 0x3D || (0x3F ≤ n && n ≠ 0x7F)

/-- The number of bytes that a target may have. -/
def maxBytes : Nat := 65534

/-- The target that a text names. -/
def parse? (text : String) : Option Target :=
  let sent := text.toList.takeWhile (· ≠ '#')
  let path := sent.takeWhile (· ≠ '?')
  let query := (sent.dropWhile (· ≠ '?')).drop 1
  if text.utf8ByteSize ≤ maxBytes && path.all isPathChar && query.all isQueryChar then
    some { path := String.ofList path, query := String.ofList query }
  else none

end Target

end RouterOperator
