/-!
# Masked secrets

A secret is only ever shown masked. An empty secret is named as empty, a secret of fewer than
twelve characters shows nothing, and a longer one shows its first three and its last three
characters, which never overlap.

* `Text.masked`: the shown form of a secret.
-/

namespace RequestSigning.Text

/-- The shown form of a secret. Characters are counted, not bytes. -/
def masked (secret : String) : String :=
  let cs := secret.toList
  if cs.length = 0 then "EMPTY"
  else if cs.length < 12 then "***"
  else String.ofList (cs.take 3) ++ "***" ++ String.ofList (cs.drop (cs.length - 3))

end RequestSigning.Text
