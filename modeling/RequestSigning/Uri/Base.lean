import RequestSigning.Failure
import RequestSigning.Text.Case
/-!
# The signed form of an address

A signature covers scheme, host, port and path of the request address. Scheme and host are written
in lower case, and the port is left out where it is the usual one of the scheme.

* `Uri.usualPort`: the port that a scheme implies.
* `Uri.shownPort`: the port that the signed form contains.
* `Uri.baseText`: the signed form.
-/

namespace RequestSigning.Uri

def usualPort (scheme : String) : Option Nat :=
  if scheme = "http" then some 80
  else if scheme = "https" then some 443
  else none

/-- The port of an address, unless it is the usual one of its scheme. -/
def shownPort (scheme : String) (port : Option Nat) : Option Nat :=
  if port = usualPort scheme then none else port

def portText : Option Nat → String
  | some port => ":" ++ toString port
  | none => ""

/-- Scheme, host, port and path of an address. User information, query and fragment are no part of
it, and an address without a scheme or a host has none. -/
def baseText (u : Uri) : Except Failure String :=
  match u.scheme with
  | none => .error (Failure.of (.noScheme u.text))
  | some s =>
    let scheme := Text.lowerAscii s
    match u.host.filter (· ≠ "") with
    | none => .error (Failure.of (.noHost u.text))
    | some h =>
      .ok (scheme ++ "://" ++ Text.lowerAscii h ++ portText (shownPort scheme u.port) ++ u.path)

end RequestSigning.Uri
