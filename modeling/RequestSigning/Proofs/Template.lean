import RequestSigning.Message

/-!
# What a filled text depends on

A text in which no token opens has no pieces but its characters, so it is left as it is whatever
the values are. Filling a text twice is therefore filling it once, unless a value brings in an
opening. A text with tokens depends on the values of their keys alone, and each token stands in the
text as a whole. How tokens overlap, or where one is not closed, does not matter for this.

* `Template.pieces_of_not_infix`, `Template.expand_of_not_infix`: texts without an opening.
* `Template.source_infix_of_mem`, `Template.expand_congr`: texts with tokens.
* `Message.fill_fill`: a text that is filled already.
* `Message.Refers`: a text with the reference to a key, and `Message.read_insert`: without it, the
  value of the key does not matter.
-/

namespace RequestSigning

namespace Template

/-- Without an opening there is nothing to replace. -/
theorem pieces_of_not_infix {start s : List Char} (h : ¬ start <:+: s) :
    pieces start s = s.map .copied := by
  induction s with
  | nil => simp [pieces]
  | cons c rest ih =>
    have hrest : ¬ start <:+: rest := by
      intro hr
      exact h (hr.trans (List.suffix_cons c rest).isInfix)
    have hnone : Text.behind? start (c :: rest) = none := by
      cases hb : Text.behind? start (c :: rest) with
      | none => rfl
      | some after =>
        have hprefix : start <+: c :: rest := ⟨after, (Text.eq_append_of_behind? hb).symm⟩
        exact absurd hprefix.isInfix h
    have htoken : token? start (c :: rest) = none := by
      rw [token?, hnone, Option.bind_none]
    rw [pieces_of_no_token htoken, ih hrest, List.map_cons]

/-- What is copied has itself as its value. -/
theorem flatMap_value_copied (start : List Char) (lookup : String → Option String)
    (s : List Char) : (s.map Piece.copied).flatMap (Piece.value start lookup) = s := by
  induction s with
  | nil => rfl
  | cons c rest ih =>
    rw [List.map_cons, List.flatMap_cons, ih]
    rfl

theorem expand_of_not_infix {scheme text : String} (lookup : String → Option String)
    (h : ¬ opening scheme.toList <:+: text.toList) : expand scheme lookup text = text := by
  rw [expand, pieces_of_not_infix h, flatMap_value_copied, String.ofList_toList]

/-- Every piece stands in the text as it is written. -/
theorem source_infix_of_mem {start s : List Char} {p : Piece} (hp : p ∈ pieces start s) :
    p.source start <:+: s := by
  have hflat : p.source start <:+: (pieces start s).flatMap (Piece.source start) :=
    List.infix_of_mem_flatten (List.mem_map_of_mem hp)
  rwa [flatMap_source_pieces] at hflat

/-- A look-up is only used on the keys of the text. -/
theorem expand_congr {scheme text : String} {lookup lookup' : String → Option String}
    (h : ∀ key ∈ keys scheme text, lookup' key = lookup key) :
    expand scheme lookup' text = expand scheme lookup text := by
  have hvalue : ∀ p ∈ pieces (opening scheme.toList) text.toList,
      p.value (opening scheme.toList) lookup' = p.value (opening scheme.toList) lookup := by
    intro p hp
    cases p with
    | copied c => rfl
    | token key =>
      have hkey : String.ofList key ∈ keys scheme text := List.mem_filterMap.mpr ⟨_, hp, rfl⟩
      rw [Piece.value, Piece.value, h _ hkey]
  rw [expand, expand, List.flatMap_def, List.flatMap_def, List.map_congr_left hvalue]

end Template

namespace Message

/-- Whether a text holds the opening of a reference to a message. -/
def Opens (text : String) : Prop :=
  Template.opening scheme.toList <:+: text.toList

instance (text : String) : Decidable (Opens text) :=
  inferInstanceAs (Decidable (Template.opening scheme.toList <:+: text.toList))

theorem fill_of_not_opens (m : Message) {text : String} (h : ¬ Opens text) : m.fill text = text :=
  Template.expand_of_not_infix m.lookup h

/-- A filled text is filled again without a change, unless a value brought in an opening. -/
theorem fill_fill (m : Message) {text : String} (h : ¬ Opens (m.fill text)) :
    m.fill (m.fill text) = m.fill text :=
  m.fill_of_not_opens h

/-! ### Other values -/

/-- Messages that have the same values for the keys of a text read it alike. -/
theorem read_congr {m m' : Message} {text : String} (hid : m'.uniqueId = m.uniqueId)
    (h : ∀ key ∈ Template.keys scheme text, m'.lookup key = m.lookup key) :
    m'.read text = m.read text := by
  have hfill : m'.fill text = m.fill text := Template.expand_congr h
  have hmissing : m'.missingKeys text = m.missingKeys text :=
    List.filter_congr fun key hkey => by rw [h key hkey]
  rw [read, read, hfill, hmissing, hid]

/-- Whether a text holds the reference to a key, from the percent sign to the closing brace. -/
def Refers (text key : String) : Prop :=
  Template.Piece.source (Template.opening scheme.toList) (.token key.toList) <:+: text.toList

instance (text key : String) : Decidable (Refers text key) :=
  inferInstanceAs (Decidable (Template.Piece.source _ _ <:+: text.toList))

theorem refers_of_mem_keys {text key : String} (h : key ∈ Template.keys scheme text) :
    Refers text key := by
  obtain ⟨p, hp, hkey⟩ := List.mem_filterMap.mp h
  cases p with
  | copied c => exact absurd hkey (by simp [Template.Piece.key?])
  | token name =>
    obtain rfl : String.ofList name = key := Option.some.inj hkey
    rw [Refers, String.toList_ofList]
    exact Template.source_infix_of_mem hp

/-- The value of a key does not matter for a text without a reference to it. -/
theorem read_insert (m : Message) {text key : String} (h : ¬ Refers text key) (value : String) :
    (m.insert key value).read text = m.read text := by
  refine read_congr rfl fun other hother => ?_
  have hne : key ≠ other := by
    rintro rfl
    exact h (refers_of_mem_keys hother)
  rw [lookup_insert, if_neg fun hand => hne hand.2]

theorem readSetting_insert (m : Message) {setting : Option String} {key : String}
    (h : ∀ text ∈ setting, ¬ Refers text key) (value : String) :
    (m.insert key value).view.readSetting setting = m.view.readSetting setting := by
  cases setting with
  | none => rfl
  | some text => exact m.read_insert (h text rfl) value

end Message

end RequestSigning
