import RequestSigning.Failure
import RequestSigning.Protocol
import RequestSigning.Table
import RequestSigning.Text.Blank
import RequestSigning.Text.Split
/-!
# Authorization headers

An authorization header is the name of the scheme and a list of keys with quoted values. Values are
written as they are: nothing is escaped, and reading decodes nothing.

* `Header.dropBlank`: parameters without those whose value is blank.
* `Header.write`: the header of a dictionary, its keys in order.
* `Header.read`: the dictionary of a header; a key that is written twice has its last value.
-/

namespace RequestSigning.Header

/-- The parameters whose value is not blank, or all of them if blank ones are kept. -/
def dropBlank (params : Dictionary) (keepBlank : Bool) : Dictionary :=
  if keepBlank then params else params.filter fun value => !Text.isBlank value

/-! ### Writing -/

/-- A key with its quoted value. -/
def writeEntry (e : String × String) : List Char :=
  e.1.toList ++ '=' :: '"' :: e.2.toList ++ ['"']

def write (params : Dictionary) : String :=
  String.ofList
    (Protocol.scheme.toList ++ ' ' :: [',', ' '].intercalate (params.entries.map writeEntry))

@[simp] theorem toList_write (params : Dictionary) :
    (write params).toList =
      Protocol.scheme.toList ++ ' ' :: [',', ' '].intercalate (params.entries.map writeEntry) := by
  simp [write]

/-! ### Reading -/

/-- What follows the separator behind a value: white space, any run of commas, white space. -/
def skipSeparator (s : List Char) : List Char :=
  Text.trimStart ((Text.trimStart s).dropWhile (· = ','))

theorem length_skipSeparator_le (s : List Char) : (skipSeparator s).length ≤ s.length :=
  Nat.le_trans (Text.length_trimStart_le _)
    (Nat.le_trans (List.dropWhile_suffix _).length_le (Text.length_trimStart_le _))

/-- The first entry of a text and what follows its separator. The key ends at the first `="`, and
the value at the next quote. -/
def readEntry (s : List Char) : Except Fault ((String × String) × List Char) :=
  match Text.cutAt ['=', '"'] s with
  | none => .error (.malformed (String.ofList s))
  | some (key, behind) =>
    match Text.cut '"' behind with
    | none => .error (.unterminated (String.ofList key))
    | some (value, rest) =>
      .ok ((Text.trim (String.ofList key), String.ofList value), skipSeparator rest)

theorem length_of_readEntry {s rest : List Char} {e : String × String}
    (h : readEntry s = .ok (e, rest)) : rest.length < s.length := by
  unfold readEntry at h
  split at h
  · exact absurd h (by simp)
  · rename_i key behind hkey
    split at h
    · exact absurd h (by simp)
    · rename_i value after hvalue
      simp only [Except.ok.injEq, Prod.mk.injEq] at h
      have h1 := Text.length_of_cutAt (by decide) hkey
      have h2 := Text.length_of_cut hvalue
      have h3 := length_skipSeparator_le after
      rw [← h.2]
      omega

/-- The entries of a text, in order. -/
def readEntries (s : List Char) : Except Fault (List (String × String)) :=
  if s = [] then .ok []
  else
    match _h : readEntry s with
    | .error fault => .error fault
    | .ok (e, rest) => (readEntries rest).map (e :: ·)
termination_by s.length
decreasing_by exact length_of_readEntry _h

/-- The dictionary of a header. White space around the header is ignored. -/
def read (text : String) : Except Failure Dictionary :=
  match Text.behind? Protocol.scheme.toList (Text.trim text).toList with
  | none => .error (Failure.of (.badHeader .otherScheme))
  | some rest =>
    match readEntries (Text.trimStart rest) with
    | .error fault => .error (Failure.of (.badHeader fault))
    | .ok entries => .ok (Table.ofList entries)

end RequestSigning.Header
