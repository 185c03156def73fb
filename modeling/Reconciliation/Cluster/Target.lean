/-!
# Request targets

The text that a request is addressed to: a path, and a query and a fragment that do not reach the path
any more. Not every character may stand in a target; those beyond ASCII may stand in it as they are.
-/

namespace Reconciliation

namespace Target

def inPath (c : Char) : Bool :=
  let n := c.toNat
  n == 0x21 || n == 0x22 || (0x24 ≤ n && n ≤ 0x3B) || n == 0x3D || (0x40 ≤ n && n ≤ 0x5F)
    || (0x61 ≤ n && n != 0x7F)

def inQuery (c : Char) : Bool :=
  let n := c.toNat
  n == 0x21 || (0x24 ≤ n && n ≤ 0x3B) || n == 0x3D || (0x3F ≤ n && n != 0x7F)

/-- Whether a character begins the query or the fragment. -/
def endsPath (c : Char) : Bool :=
  c == '?' || c == '#'

def maxSize : Nat := 65534

/-- The path of a target, unless the target is no valid one. -/
def path? (target : String) : Option String :=
  let cs := target.toList
  let path := cs.takeWhile (!endsPath ·)
  let query := match cs.dropWhile (!endsPath ·) with
    | '?' :: rest => rest.takeWhile (· != '#')
    | _ => []
  if target.utf8ByteSize ≤ maxSize && path.all inPath && query.all inQuery then
    some (String.ofList path)
  else none

end Target

end Reconciliation
