import RequestSigning.Table
import RequestSigning.Text.Case
import RequestSigning.Text.Split
/-!
# Signed parameters

The parameters that a signature covers, in signing order: ascending by the name, where names that
differ in case only are one name.

* `Params`: the type.
* `Params.queryPairs`: the pairs of a query, in the order they are written.
* `Params.insertQuery`: the parameters with all pairs of a query written to them.
* `Params.queryText`: all parameters as one query.
-/

namespace RequestSigning

/-- Parameters by name, whatever the case of its letters. -/
abbrev Params := Table Text.folded

namespace Params

/-- The pair of a segment: name and value around the first `=`, or a name with an empty value. -/
def segmentPair (segment : List Char) : String × String :=
  match Text.cut '=' segment with
  | some (name, value) => (String.ofList name, String.ofList value)
  | none => (String.ofList segment, "")

/-- The pairs of a query. Empty segments are skipped, and nothing is decoded. -/
def queryPairs (query : String) : List (String × String) :=
  ((Text.pieces '&' query.toList).filter (· ≠ [])).map segmentPair

def insertQuery (p : Params) (query : String) : Params :=
  p.insertAll (queryPairs query)

/-- The text of one parameter. -/
def pairText (pair : String × String) : List Char :=
  pair.1.toList ++ '=' :: pair.2.toList

/-- All parameters in signing order, joined as a query. -/
def queryText (p : Params) : String :=
  String.ofList (['&'].intercalate (p.entries.map pairText))

@[simp] theorem toList_queryText (p : Params) :
    p.queryText.toList = ['&'].intercalate (p.entries.map pairText) := by
  simp [queryText]

end Params

end RequestSigning
