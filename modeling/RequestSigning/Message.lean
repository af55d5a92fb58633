import RequestSigning.Outcome
import RequestSigning.Table
import RequestSigning.Template
import RequestSigning.Text.Record
/-!
# Messages

A message is what a signature is made for. It has an identifier of its own, and templates are filled
from it. Signing sees no more of a message than this, so what it is filled from is left open; the
messages of this library have named metadata.

* `MessageView`: what signing sees of a message.
* `MessageView.read`: a filled text as an outcome, with what is noted while it is filled.
* `MessageView.readSetting`, `MessageView.fillSetting`: the filled text of an optional setting.
* `MessageView.derivedNonce`: the nonce of a message for which none is configured.
* `Message`: messages with metadata.
* `Message.lookup`: the value of a template key.
* `Message.fill`: a text with its tokens replaced.
* `Message.missingKeys`: the keys of a text that the message has no value for.
* `Message.read`: `fill` as an outcome that notes each missing key.
* `Message.view`: what signing sees of such a message.
-/

namespace RequestSigning

/-- What signing sees of a message: its identifier and how it fills templates. `notes` are the
events that are noted while a text is filled, and `shown` is the form in which the message itself is
shown. -/
structure MessageView where
  uniqueId : String
  fill : String → String
  notes : String → List Event
  shown : String

namespace MessageView

/-- The filled text, with what is noted on the way. -/
def read (v : MessageView) (text : String) : Outcome String :=
  ⟨.ok (v.fill text), v.notes text⟩

/-- The filled text of an optional setting, empty if it is not set. -/
def readSetting (v : MessageView) : Option String → Outcome String
  | some text => v.read text
  | none => pure ""

/-- The identifier of a message without its colons and hyphens. -/
def derivedNonce (v : MessageView) : String :=
  String.ofList (v.uniqueId.toList.filter fun c => c ≠ ':' && c ≠ '-')

/-! ### What is read -/

@[simp] theorem result_read (v : MessageView) (text : String) :
    (v.read text).result = .ok (v.fill text) := rfl

/-- The filled text of an optional setting. -/
def fillSetting (v : MessageView) (setting : Option String) : String :=
  (setting.map v.fill).getD ""

@[simp] theorem result_readSetting (v : MessageView) (setting : Option String) :
    (v.readSetting setting).result = .ok (v.fillSetting setting) := by
  cases setting <;> rfl

end MessageView

structure Message where
  uniqueId : String
  metadata : Dictionary := Table.empty
deriving DecidableEq

namespace Message

/-- The scheme of references to a message. -/
def scheme : String := "message"

/-- The key that stands for the identifier of the message. -/
def uniqueIdKey : String := "%uniqueId"

def insert (m : Message) (key value : String) : Message :=
  { m with metadata := m.metadata.insert key value }

/-- The value of a template key: the identifier for its own key, even if metadata has that key, and
metadata for any other. -/
def lookup (m : Message) (key : String) : Option String :=
  if key = uniqueIdKey then some m.uniqueId else m.metadata.get? key

/-- The text with each token replaced by the value of its key. -/
def fill (m : Message) (text : String) : String :=
  Template.expand scheme m.lookup text

/-- The keys of a text that the message has no value for, one for each token, in order. -/
def missingKeys (m : Message) (text : String) : List String :=
  (Template.keys scheme text).filter fun key => (m.lookup key).isNone

/-- The filled text; each missing key is noted. -/
def read (m : Message) (text : String) : Outcome String :=
  ⟨.ok (m.fill text), (m.missingKeys text).map fun key => .missingMetadata key m.uniqueId⟩

/-- The form in which a message is shown. -/
def describe (m : Message) : String :=
  Text.record "Message"
    [("unique_id", Text.quoted m.uniqueId), ("metadata", Text.shownMap m.metadata.entries)]

/-- What signing sees of a message: it is filled from its metadata, and missing keys are noted. -/
def view (m : Message) : MessageView where
  uniqueId := m.uniqueId
  fill := m.fill
  notes text := (m.read text).log
  shown := m.describe

instance : Coe Message MessageView := ⟨view⟩

/-- Where views are read, messages can be read. -/
instance {α : Type} : Coe (α → Message) (α → MessageView) := ⟨fun read a => (read a).view⟩

/-! ### What is read -/

@[simp] theorem result_read (m : Message) (text : String) :
    (m.read text).result = .ok (m.fill text) := rfl

@[simp] theorem log_read (m : Message) (text : String) :
    (m.read text).log =
      (m.missingKeys text).map fun key => .missingMetadata key m.uniqueId := rfl

@[simp] theorem read_view (m : Message) (text : String) : m.view.read text = m.read text := rfl

@[simp] theorem uniqueId_insert (m : Message) (key value : String) :
    (m.insert key value).uniqueId = m.uniqueId := rfl

theorem get?_insert_self (m : Message) (key value : String) :
    (m.insert key value).metadata.get? key = some value := by
  rw [insert, Dictionary.get?_insert, if_pos rfl]

@[simp] theorem lookup_uniqueIdKey (m : Message) : m.lookup uniqueIdKey = some m.uniqueId := by
  simp [lookup]

/-- New metadata is seen under its own key, unless that key stands for the identifier. -/
theorem lookup_insert (m : Message) (key value other : String) :
    (m.insert key value).lookup other =
      if other ≠ uniqueIdKey ∧ key = other then some value else m.lookup other := by
  unfold lookup insert
  by_cases h : other = uniqueIdKey
  · simp [h]
  · by_cases h' : key = other <;> simp [h, h', Dictionary.get?_insert]

end Message

end RequestSigning
