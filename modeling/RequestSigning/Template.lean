import RequestSigning.Text.Split
/-!
# Templates

A template is text with tokens. The tokens of a scheme open with a percent sign, the name of the
scheme and a brace, and they end at the first closing brace after that; what stands between is the
key. An opening without a closing brace after it is plain text, and so is everything behind it.

* `Template.Piece`: a copied character or a token.
* `Template.pieces`: the pieces of a text, from left to right.
* `Template.keys`: the keys of its tokens, in order.
* `Template.expand`: the text with each token replaced by the value of its key. A token whose key
  has no value is kept, and the values themselves are never read as templates.

The pieces written out give the text again (`flatMap_source_pieces`). A text is read once, whatever
it contains: the part that is searched for a closing brace either becomes a token, or has no closing
brace and is copied without another search. This changes no piece (`pieces_of_token`,
`pieces_of_no_token`).
-/

namespace RequestSigning.Template

inductive Piece where
  | copied (c : Char)
  | token (key : List Char)
deriving DecidableEq

/-- What opens a token of the scheme. -/
def opening (scheme : List Char) : List Char :=
  '%' :: scheme ++ ['{']

/-- The token at the very start of a text: its key, and what follows it. -/
def token? (start s : List Char) : Option (List Char × List Char) :=
  (Text.behind? start s).bind (Text.cut '}')

theorem eq_of_token? {start s key after : List Char} (h : token? start s = some (key, after)) :
    s = start ++ key ++ '}' :: after := by
  obtain ⟨rest, hrest, hcut⟩ := Option.bind_eq_some_iff.mp h
  rw [Text.eq_append_of_behind? hrest, Text.eq_of_cut hcut, List.append_assoc]

theorem length_of_token? {start s key after : List Char}
    (h : token? start s = some (key, after)) : after.length < s.length := by
  rw [eq_of_token? h]
  simp only [List.length_append, List.length_cons]
  omega

/-- The pieces of a text whose tokens open with `start`: a token where one begins, and otherwise the
next character. The first opening without a closing brace after it ends the search. -/
def pieces (start : List Char) : List Char → List Piece
  | [] => []
  | c :: rest =>
    match _hs : Text.behind? start (c :: rest) with
    | none => .copied c :: pieces start rest
    | some inner =>
      match _hc : Text.cut '}' inner with
      | some (key, after) => .token key :: pieces start after
      | none => (c :: rest).map .copied
termination_by s => s.length
decreasing_by
  · simp
  · exact length_of_token? (by rw [token?, _hs, Option.bind_some, _hc])

/-- The text of a piece as it stands in the template. -/
def Piece.source (start : List Char) : Piece → List Char
  | .copied c => [c]
  | .token key => start ++ key ++ ['}']

/-- The text of a piece after look-up. -/
def Piece.value (start : List Char) (lookup : String → Option String) : Piece → List Char
  | .copied c => [c]
  | .token key =>
    match lookup (String.ofList key) with
    | some value => value.toList
    | none => Piece.source start (.token key)

def Piece.key? : Piece → Option String
  | .copied _ => none
  | .token key => some (String.ofList key)

/-- The keys of the tokens of a text, in order. -/
def keys (scheme text : String) : List String :=
  (pieces (opening scheme.toList) text.toList).filterMap Piece.key?

/-- The text with each token replaced by the value of its key. -/
def expand (scheme : String) (lookup : String → Option String) (text : String) : String :=
  let start := opening scheme.toList
  String.ofList ((pieces start text.toList).flatMap (Piece.value start lookup))

/-! ### Laws of pieces -/

/-- Where no closing brace is left for a token to end at, every character is copied. -/
theorem pieces_of_not_mem {start s : List Char} (h : '}' ∉ s.drop start.length) :
    pieces start s = s.map .copied := by
  induction s with
  | nil => simp [pieces]
  | cons c rest ih =>
    have hrest : '}' ∉ rest.drop start.length := fun hm =>
      h (List.mem_of_mem_drop (i := 1) (by rwa [List.drop_drop, List.drop_succ_cons]))
    rw [pieces]
    split
    · rw [ih hrest, List.map_cons]
    · rename_i inner hs
      rw [Text.eq_append_of_behind? hs, List.drop_left] at h
      split
      · rename_i hc
        exact absurd (Text.cut_eq_none_iff.mpr h) (by simp [hc])
      · rfl

theorem pieces_of_token {start s key after : List Char}
    (h : token? start s = some (key, after)) :
    pieces start s = .token key :: pieces start after := by
  obtain ⟨inner, hs, hc⟩ := Option.bind_eq_some_iff.mp h
  cases s with
  | nil =>
    have := length_of_token? h
    simp at this
  | cons c rest =>
    rw [pieces]
    split
    · simp_all
    · rename_i inner' hs'
      obtain rfl : inner' = inner := Option.some.inj (hs'.symm.trans hs)
      split <;> simp_all

theorem pieces_of_no_token {start rest : List Char} {c : Char}
    (h : token? start (c :: rest) = none) :
    pieces start (c :: rest) = .copied c :: pieces start rest := by
  rw [pieces]
  split
  · rfl
  · rename_i inner hs
    have hc : Text.cut '}' inner = none := by rwa [token?, hs, Option.bind_some] at h
    have hall : '}' ∉ (c :: rest).drop start.length := by
      rw [Text.eq_append_of_behind? hs, List.drop_left]
      exact Text.cut_eq_none_iff.mp hc
    have hrest : '}' ∉ rest.drop start.length := fun hm =>
      hall (List.mem_of_mem_drop (i := 1) (by rwa [List.drop_drop, List.drop_succ_cons]))
    split
    · simp_all
    · rw [pieces_of_not_mem hrest, List.map_cons]

/-- The pieces written out give the text again. -/
theorem flatMap_source_pieces (start s : List Char) :
    (pieces start s).flatMap (Piece.source start) = s := by
  fun_induction pieces start s with
  | case1 => rfl
  | case2 c rest hs ih =>
    rw [List.flatMap_cons, ih]
    rfl
  | case3 c rest inner hs key after hc ih =>
    rw [List.flatMap_cons, ih, Text.eq_append_of_behind? hs, Text.eq_of_cut hc]
    simp [Piece.source]
  | case4 c rest inner hs hc =>
    simp [List.flatMap_map, Piece.source]

/-- A look-up that knows no key leaves every text as it is. -/
theorem expand_none (scheme text : String) : expand scheme (fun _ => none) text = text := by
  have h (start : List Char) : Piece.value start (fun _ => none) = Piece.source start := by
    funext p
    cases p <;> rfl
  rw [expand, h, flatMap_source_pieces, String.ofList_toList]

end RequestSigning.Template
