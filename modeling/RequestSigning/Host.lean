import RequestSigning.Encoding.Utf8
import RequestSigning.Outcome
import RequestSigning.Table
import RequestSigning.Template
import RequestSigning.Text.Record
/-!
# The host of a signer

What signing takes from the program around it: variables by name, and a way to decode secrets that
are stored encoded. Nothing is reached unless the program provides it.

* `Environment`: look-up of variables, with `Environment.none`, `Environment.ofTable`,
  `Environment.ofProcess` and `Environment.orElse`.
* `SecretDecoder`: decoding of secrets, with `SecretDecoder.plain`.
* `Host`: both together.
* `Host.fillVariables`: a text with its references to variables replaced.
* `Host.decodeSecret`: a decoded secret; whatever the decoder's failure is, it becomes a failure of
  configuration.
-/

namespace RequestSigning

/-- A source of variables. `lookup` finds the value of one, `values` lists them all, and `shown` is
the form in which the source itself is shown. -/
structure Environment where
  lookup : String → Option String
  values : Dictionary
  shown : String

namespace Environment

/-- The source without any variable. -/
protected def none : Environment where
  lookup _ := Option.none
  values := Table.empty
  shown := "NoopEnv"

/-- The variables of a table. -/
def ofTable (table : Dictionary) : Environment where
  lookup := table.get?
  values := table
  shown := Text.record "StaticEnv" [("envs", Text.shownMap table.entries)]

/-- The variables of a process, whose values are byte strings. A value that is not the UTF-8 form
of a text counts as missing. -/
def ofProcess (stored : List (String × List UInt8)) : Environment :=
  let table : Dictionary := Table.ofList (stored.filterMap fun p =>
    (Utf8.text? p.2).map fun text => (p.1, String.ofList text))
  { lookup := table.get?, values := table, shown := "OsEnv" }

/-- The first source, and the second for what the first does not have. -/
def orElse (first second : Environment) : Environment where
  lookup name := (first.lookup name).or (second.lookup name)
  values := second.values.insertAll first.values.entries
  shown := first.shown

@[simp] theorem lookup_none (name : String) : Environment.none.lookup name = Option.none := rfl

@[simp] theorem lookup_ofTable (table : Dictionary) (name : String) :
    (ofTable table).lookup name = table.get? name := rfl

@[simp] theorem lookup_orElse (first second : Environment) (name : String) :
    (first.orElse second).lookup name = (first.lookup name).or (second.lookup name) := rfl

end Environment

/-- A way to decode secrets, and the form in which it is shown. -/
structure SecretDecoder where
  decode : String → Except Failure String
  shown : String

/-- Secrets stand for themselves. -/
def SecretDecoder.plain : SecretDecoder := ⟨.ok, "PlainSecret"⟩

structure Host where
  environment : Environment := Environment.none
  decoder : SecretDecoder := SecretDecoder.plain

namespace Host

/-- The scheme of references to variables. -/
def scheme : String := "env"

/-- The text with each reference to a variable replaced by its value. A reference to a variable
that is not set is kept. -/
def fillVariables (h : Host) (text : String) : String :=
  Template.expand scheme h.environment.lookup text

/-- The secret a stored text stands for. A failure of the decoder is a fault of configuration,
whatever its own kind, and is kept as the cause. -/
def decodeSecret (h : Host) (stored : String) : Except Failure String :=
  match h.decoder.decode stored with
  | .ok secret => .ok secret
  | .error cause => .error ((Failure.of .undecodableSecret).causedBy cause)

/-- The form in which a host is shown. -/
def describe (h : Host) : String :=
  Text.record "Context" [("env", h.environment.shown), ("secret", h.decoder.shown)]

end Host

end RequestSigning
