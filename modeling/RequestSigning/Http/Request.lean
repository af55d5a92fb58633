import RequestSigning.Text.Case
import RequestSigning.Uri.Basic
/-!
# Requests

* `Http.isToken`: whether a text may be the method of a request.
* `Http.isFieldValue`: whether a text may be the value of a header field.
* `Http.Field`: a header field; a sensitive one is not to be shown.
* `Http.Request`: method, address and header fields.
* `Http.Request.replace`: the request with one field in place of all fields of its name.
* `Http.Request.named`: the fields of a name.
-/

namespace RequestSigning.Http

def isTokenChar (c : Char) : Bool :=
  c.isDigit || ('A' ≤ c && c ≤ 'Z') || ('a' ≤ c && c ≤ 'z') ||
    ['!', '#', '$', '%', '&', '\'', '*', '+', '-', '.', '^', '_', '\x60', '|', '~'].contains c

/-- A method is one or more token characters. -/
def isToken (s : String) : Bool :=
  s ≠ "" && s.toList.all isTokenChar

/-- No control character besides the tab is allowed. -/
def isFieldValueChar (c : Char) : Bool :=
  c == '\t' || (0x20 ≤ c.toNat && c.toNat ≠ 0x7F)

def isFieldValue (s : String) : Bool :=
  s.toList.all isFieldValueChar

/-- A header field. Its name is in lower case. -/
structure Field where
  name : String
  value : String
  sensitive : Bool := false
deriving DecidableEq

/-- The field of a name, however the name is spelled. -/
def Field.ofText (name value : String) : Field :=
  ⟨Text.lowerAscii name, value, false⟩

structure Request where
  method : String
  uri : Uri
  fields : List Field := []
deriving DecidableEq

namespace Request

/-- The request with a field in place of all fields of its name. -/
def replace (r : Request) (field : Field) : Request :=
  { r with fields := r.fields.filter (·.name ≠ field.name) ++ [field] }

/-- The fields of a name, in order. -/
def named (r : Request) (name : String) : List Field :=
  r.fields.filter (·.name = name)

@[simp] theorem method_replace (r : Request) (field : Field) :
    (r.replace field).method = r.method := rfl

@[simp] theorem uri_replace (r : Request) (field : Field) : (r.replace field).uri = r.uri := rfl

/-- After a replacement the field is the only one of its name. -/
theorem named_replace (r : Request) (field : Field) :
    (r.replace field).named field.name = [field] := by
  simp [named, replace, List.filter_append, List.filter_filter]

/-- A replacement leaves the fields of other names as they are. -/
theorem named_replace_of_ne (r : Request) (field : Field) {name : String}
    (h : field.name ≠ name) : (r.replace field).named name = r.named name := by
  simp only [named, replace, List.filter_append, List.filter_filter]
  rw [show List.filter (fun f => decide (f.name = name)) [field] = [] by simp [h],
    List.append_nil]
  apply List.filter_congr
  intro f _
  by_cases hf : f.name = name
  · simp [hf, Ne.symm h]
  · simp [hf]

end Request

end RequestSigning.Http
