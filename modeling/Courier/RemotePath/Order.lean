import Courier.RemotePath.Basic

/-!
# The order of paths

The unspecified path comes first; other paths are compared segment by segment, a path before
those below it.
-/

namespace Courier.RemotePath

/-- The order of two texts by their characters, which is also their order by bytes. -/
def compareNames (a b : String) : Ordering :=
  if a < b then .lt else if a = b then .eq else .gt

def compareSegments : List Segment → List Segment → Ordering
  | [], [] => .eq
  | [], _ :: _ => .lt
  | _ :: _, [] => .gt
  | a :: as, b :: bs => (compareNames a.name b.name).then (compareSegments as bs)

instance : Ord RemotePath where
  compare
    | unspecified, unspecified => .eq
    | unspecified, absolute _ => .lt
    | absolute _, unspecified => .gt
    | absolute a, absolute b => compareSegments a b

example : compare (ofString "/a") (ofString "/a/b") = .lt := by decide
example : compare (ofString "/b") (ofString "/a/b") = .gt := by decide

end Courier.RemotePath
