/-!
# Faults of an authorization header

* `Header.Fault`: why a text is no authorization header of this scheme.
-/

namespace RequestSigning.Header

inductive Fault where
  /-- The text does not begin with the name of the scheme. -/
  | otherScheme
  /-- No quoted value begins in what remains of the text. -/
  | malformed (rest : String)
  /-- The quoted value of this key does not end. -/
  | unterminated (key : String)
deriving DecidableEq

def Fault.text : Fault → String
  | .otherScheme => "authorization header is not OAuth"
  | .malformed rest => "malformed parameter: " ++ rest
  | .unterminated key => "unterminated value for " ++ key

end RequestSigning.Header
