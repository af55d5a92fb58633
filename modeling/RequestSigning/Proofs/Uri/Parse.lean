import Mathlib.Data.List.TakeDrop
import RequestSigning.Outcome
import RequestSigning.Proofs.Letters
import RequestSigning.Uri.Parse

/-!
# What is known of an address that was read

An address with a scheme is cut at the first `://`, its authority reaches up to the first `/`, `?`
or `#`, and the rest is its path and its query. Here this is said of every text that is read,
without the order in which the reader looks at it.

* `Uri.splitScheme_eq_some`: the text in front of `://`, and the scheme it stands for.
* `Uri.splitAuthority_eq_ok_iff`, `Uri.parseAfterScheme_eq_ok_iff`: what follows the scheme.
* `Uri.exists_of_parse`: both for an address with a scheme.
* `Uri.run_brackets`: the brackets that are remembered are those of the text.
* `Uri.rooted_of_parseTarget`: the path begins with a slash.
* `Uri.parse_append_fragment`: a fragment changes nothing.
-/

namespace RequestSigning

namespace Text

variable {p : Char → Bool} {stop : Char}

/-- What is taken from the start of a text does not depend on what follows a character that ends
it. -/
theorem takeWhile_append_cons (hstop : p stop = false) (s rest : List Char) :
    (s ++ stop :: rest).takeWhile p = s.takeWhile p := by
  induction s with
  | nil => simp [hstop]
  | cons c more ih => by_cases hc : p c = true <;> simp [hc, ih]

theorem dropWhile_append_cons (hstop : p stop = false) (s rest : List Char) :
    (s ++ stop :: rest).dropWhile p = s.dropWhile p ++ stop :: rest := by
  induction s with
  | nil => simp [hstop]
  | cons c more ih => by_cases hc : p c = true <;> simp [hc, ih]

end Text

namespace Uri

/-! ### The scheme -/

/-- The scheme that is written in front of `://`: the two common ones in any case of their letters,
and any other as it stands. -/
def schemeName (written : List Char) : String :=
  if written.map Char.toLower = "http".toList then "http"
  else if written.map Char.toLower = "https".toList then "https"
  else String.ofList written

/-- A text that starts with a name and `://`, in any case of the letters. -/
theorem exists_written_of_startsWith {name : String} {s : List Char}
    (h : startsWith (name ++ "://") s = true) :
    ∃ written, s = written ++ ':' :: '/' :: '/' :: s.drop (name.length + 3) ∧
      written.map Char.toLower = name.toList := by
  have hlength : (name ++ "://").length = name.length + 3 := by rw [String.length_append]; rfl
  rw [startsWith, hlength, beq_iff_eq, String.toList_append] at h
  obtain ⟨written, marker, htake, hname, hmarker⟩ := List.map_eq_append_iff.mp h
  have hmarker' : marker = [':', '/', '/'] := by
    have hcolon := Text.toLower_eq_iff (d := ':') (by decide)
    have hslash := Text.toLower_eq_iff (d := '/') (by decide)
    obtain ⟨x, more, rfl, hx, hmore⟩ := List.map_eq_cons_iff.mp hmarker
    obtain ⟨y, last, rfl, hy, hlast⟩ := List.map_eq_cons_iff.mp hmore
    obtain ⟨z, nothing, rfl, hz, hnothing⟩ := List.map_eq_cons_iff.mp hlast
    rw [(hcolon x).mp hx, (hslash y).mp hy, (hslash z).mp hz, List.map_eq_nil_iff.mp hnothing]
  rw [hmarker'] at htake
  refine ⟨written, ?_, hname⟩
  calc s = s.take (name.length + 3) ++ s.drop (name.length + 3) := (List.take_append_drop _ _).symm
    _ = written ++ ':' :: '/' :: '/' :: s.drop (name.length + 3) := by
      rw [htake, List.append_assoc]
      rfl

theorem startsWith_append {name : String} {written : List Char}
    (h : written.map Char.toLower = name.toList) (after : List Char) :
    startsWith (name ++ "://") (written ++ ':' :: '/' :: '/' :: after) = true := by
  have hlength : (name ++ "://").length = written.length + 3 := by
    rw [String.length_append, ← String.length_toList, ← h, List.length_map]
    rfl
  rw [startsWith, hlength, List.take_length_add_append, List.map_append, h, beq_iff_eq,
    String.toList_append]
  rfl

theorem isSchemeChar_toLower (c : Char) : isSchemeChar c.toLower = isSchemeChar c := by
  by_cases hc : c.toNat < 0x80
  · exact Text.forall_ascii (P := fun c => isSchemeChar c.toLower = isSchemeChar c) (by decide) c hc
  · rw [Text.toLower_of_le (Nat.le_of_not_lt hc)]

theorem isSchemeChar_of_map_toLower {written name : List Char}
    (h : written.map Char.toLower = name) (hname : name.all isSchemeChar = true) :
    ∀ c ∈ written, isSchemeChar c = true := by
  intro c hc
  rw [← isSchemeChar_toLower]
  exact List.all_eq_true.mp hname _ (h ▸ List.mem_map_of_mem hc)

/-- One of the two common schemes is written in front of the text. -/
theorem exists_written_of_common {name scheme : String} {s after : List Char}
    (hname : name = "http" ∨ name = "https") (hstart : startsWith (name ++ "://") s = true)
    (h : name = scheme ∧ s.drop (name.length + 3) = after) :
    ∃ written, s = written ++ ':' :: '/' :: '/' :: after ∧
      (∀ c ∈ written, isSchemeChar c = true) ∧ scheme = schemeName written := by
  obtain ⟨rfl, rfl⟩ := h
  obtain ⟨written, hs, hwritten⟩ := exists_written_of_startsWith hstart
  refine ⟨written, hs, ?_, ?_⟩
  · refine isSchemeChar_of_map_toLower hwritten ?_
    rcases hname with rfl | rfl <;> decide
  · rw [schemeName, hwritten]
    rcases hname with rfl | rfl <;> rfl

/-- A text with a scheme is cut behind characters of a scheme at `://`. -/
theorem splitScheme_eq_some {s after : List Char} {scheme : String}
    (h : splitScheme s = .ok (some (scheme, after))) :
    ∃ written, s = written ++ ':' :: '/' :: '/' :: after ∧
      (∀ c ∈ written, isSchemeChar c = true) ∧ scheme = schemeName written := by
  unfold splitScheme at h
  split at h
  · rename_i hhttp
    simp only [Except.ok.injEq, Option.some.injEq, Prod.mk.injEq] at h
    exact exists_written_of_common (.inl rfl) hhttp h
  · split at h
    · rename_i hhttps
      simp only [Except.ok.injEq, Option.some.injEq, Prod.mk.injEq] at h
      exact exists_written_of_common (.inr rfl) hhttps h
    · rename_i hhttp hhttps
      split at h
      · exact absurd h (by simp)
      · rw [List.span_eq_takeWhile_dropWhile] at h
        dsimp only at h
        split at h
        · rename_i after' hrest
          split at h
          · exact absurd h (by simp)
          · simp only [Except.ok.injEq, Option.some.injEq, Prod.mk.injEq] at h
            obtain ⟨hscheme, rfl⟩ := h
            have hs : s = s.takeWhile isSchemeChar ++ ':' :: '/' :: '/' :: after' := by
              rw [← hrest, List.takeWhile_append_dropWhile]
            -- one of the common schemes would have been found before
            have hother (name : String) (hnot : ¬ startsWith (name ++ "://") s = true) :
                (s.takeWhile isSchemeChar).map Char.toLower ≠ name.toList := by
              intro hname
              rw [hs] at hnot
              exact hnot (startsWith_append hname after')
            refine ⟨s.takeWhile isSchemeChar, hs, List.all_eq_true.mp List.all_takeWhile, ?_⟩
            rw [schemeName, if_neg (hother "http" hhttp), if_neg (hother "https" hhttps), hscheme]
        · exact absurd h (by simp)

/-! ### The authority -/

theorem splitAuthority_eq_ok_iff {s authority rest : List Char} :
    splitAuthority s = .ok (authority, rest) ↔
      s ≠ [] ∧ authority = s.takeWhile (!endsAuthority ·) ∧
        rest = s.dropWhile (!endsAuthority ·) ∧ checkAuthority authority = .ok () := by
  unfold splitAuthority
  by_cases hs : s = []
  · simp [hs]
  · rw [if_neg hs, List.span_eq_takeWhile_dropWhile]
    dsimp only
    rw [Outcome.map_eq_ok_iff]
    constructor
    · rintro ⟨u, hcheck, hpair⟩
      obtain ⟨rfl, rfl⟩ := Prod.mk.inj hpair
      exact ⟨hs, rfl, rfl, hcheck⟩
    · rintro ⟨-, rfl, rfl, hcheck⟩
      exact ⟨(), hcheck, rfl⟩

/-- An asterisk belongs to the authority, so it does not stand behind it. -/
theorem dropWhile_ne_asterisk (s : List Char) : s.dropWhile (!endsAuthority ·) ≠ ['*'] := by
  intro hasterisk
  have hhead := List.head?_dropWhile_not (!endsAuthority ·) s
  rw [hasterisk] at hhead
  have hends : endsAuthority '*' = true := by simpa using hhead
  exact absurd hends (by decide)

/-- What follows the scheme is an authority that is not empty, and a path. -/
theorem parseAfterScheme_eq_ok_iff {scheme : String} {s : List Char} {u : Uri} :
    parseAfterScheme scheme s = .ok u ↔
      ∃ authority rest target, splitAuthority s = .ok (authority, rest) ∧ authority ≠ [] ∧
        parseTarget rest = .ok target ∧
        u = ⟨some scheme, some (String.ofList authority), target.rooted, target.query⟩ := by
  unfold parseAfterScheme
  cases hsplit : splitAuthority s with
  | error fault => simp [bind, Except.bind]
  | ok parts =>
    obtain ⟨authority, rest⟩ := parts
    by_cases hauthority : authority = []
    · simp [bind, Except.bind, hauthority]
    · cases htarget : parseTarget rest with
      | error fault => simp [bind, Except.bind, hauthority, htarget]
      | ok target => simp [bind, Except.bind, hauthority, htarget, eq_comm]

/-- An address that is read without a scheme has none. -/
theorem scheme_of_parseBare {s : List Char} {u : Uri} (h : parseBare s = .ok u) :
    u.scheme = none := by
  unfold parseBare at h
  cases hsplit : splitAuthority s with
  | error fault => simp [hsplit, bind, Except.bind] at h
  | ok parts =>
    obtain ⟨authority, rest⟩ := parts
    by_cases hrest : rest = []
    · simp only [hsplit, bind, Except.bind, hrest, if_true, Except.ok.injEq] at h
      rw [← h]
    · simp [hsplit, bind, Except.bind, hrest] at h

/-- An address with a scheme was read from a text in front of which the scheme stands. -/
theorem exists_of_parse {text : String} {u : Uri} {scheme : String} (h : parse text = .ok u)
    (hscheme : u.scheme = some scheme) :
    ∃ after, splitScheme text.toList = .ok (some (scheme, after)) ∧
      parseAfterScheme scheme after = .ok u := by
  unfold parse at h
  split at h
  · exact absurd h (by simp)
  · split at h
    · exact absurd h (by simp)
    · obtain rfl := Except.ok.inj h
      exact absurd hscheme (by simp)
    · exact absurd h (by simp)
    · exact absurd h (by simp)
    · obtain ⟨target, -, rfl⟩ := Outcome.map_eq_ok_iff.mp h
      exact absurd hscheme (by simp)
    · split at h
      · exact absurd h (by simp)
      · rename_i scheme' after hsplit
        obtain ⟨authority, rest, target, -, -, -, rfl⟩ := parseAfterScheme_eq_ok_iff.mp h
        obtain rfl : scheme' = scheme := Option.some.inj hscheme
        exact ⟨after, hsplit, h⟩
      · rw [scheme_of_parseBare h] at hscheme
        exact absurd hscheme (by simp)

/-! ### Brackets -/

/-- What one character does to the brackets that are remembered. -/
theorem step_brackets {s s' : Authority} {c : Char} (h : s.step c = .ok s') :
    s'.opened = (s.opened || '[' == c) ∧ s'.closed = (s.closed || ']' == c) ∧
      (c = '[' → s.opened = false) ∧ (c = ']' → s.opened = true ∧ s.closed = false) := by
  unfold Authority.step at h
  split at h
  · obtain rfl := Except.ok.inj h
    simp
  · split at h
    · obtain rfl := Except.ok.inj h
      simp
    · exact absurd h (by simp)
  · split at h
    · exact absurd h (by simp)
    · rename_i hopen
      obtain rfl := Except.ok.inj h
      simp_all
  · split at h
    · rename_i hclose
      obtain rfl := Except.ok.inj h
      simp_all
    · exact absurd h (by simp)
  · obtain rfl := Except.ok.inj h
    simp
  · rename_i hopen hclose _
    split at h
    · obtain rfl := Except.ok.inj h
      simp only [beq_eq_false_iff_ne.mpr (Ne.symm hopen), beq_eq_false_iff_ne.mpr (Ne.symm hclose),
        Bool.or_false, true_and]
      exact ⟨fun hc => absurd hc hopen, fun hc => absurd hc hclose⟩
    · exact absurd h (by simp)

/-- After a text the brackets that are remembered are those of the text. -/
theorem run_brackets {s s' : Authority} {text : List Char}
    (h : text.foldlM Authority.step s = .ok s') :
    s'.opened = (s.opened || text.contains '[') ∧ s'.closed = (s.closed || text.contains ']') := by
  induction text generalizing s with
  | nil =>
    obtain rfl := Except.ok.inj h
    simp
  | cons c rest ih =>
    rw [List.foldlM_cons] at h
    cases hstep : s.step c with
    | error fault => simp [hstep, bind, Except.bind] at h
    | ok next =>
      rw [hstep] at h
      obtain ⟨hopened, hclosed⟩ := ih h
      obtain ⟨hopen, hclose, -⟩ := step_brackets hstep
      rw [hopened, hclosed, hopen, hclose, List.contains_cons, List.contains_cons, Bool.or_assoc,
        Bool.or_assoc]
      exact ⟨rfl, rfl⟩

/-- No bracket is closed before one is opened. -/
theorem opened_of_closed {s s' : Authority} {text : List Char}
    (h : text.foldlM Authority.step s = .ok s') (hs : s.closed = true → s.opened = true) :
    s'.closed = true → s'.opened = true := by
  induction text generalizing s with
  | nil =>
    obtain rfl := Except.ok.inj h
    exact hs
  | cons c rest ih =>
    rw [List.foldlM_cons] at h
    cases hstep : s.step c with
    | error fault => simp [hstep, bind, Except.bind] at h
    | ok next =>
      rw [hstep] at h
      obtain ⟨hopen, hclose, -, hclosing⟩ := step_brackets hstep
      refine ih h fun hnext => ?_
      rw [hclose, Bool.or_eq_true, beq_iff_eq] at hnext
      rw [hopen, Bool.or_eq_true]
      rcases hnext with hclosed | hc
      · exact .inl (hs hclosed)
      · exact .inl (hclosing hc.symm).1

theorem checkAuthority_eq_ok_iff {authority : List Char} :
    checkAuthority authority = .ok () ↔
      ∃ s, authority.foldlM Authority.step {} = .ok s ∧ s.finish authority.getLast? = .ok () := by
  unfold checkAuthority
  cases authority.foldlM Authority.step {} with
  | error fault => simp [bind, Except.bind]
  | ok s => simp [bind, Except.bind]

/-- In an authority that is accepted every bracket that opens is closed behind it. -/
theorem mem_of_checkAuthority {before behind : List Char}
    (h : checkAuthority (before ++ '[' :: behind) = .ok ()) : ']' ∈ behind := by
  obtain ⟨last, hrun, hfinish⟩ := checkAuthority_eq_ok_iff.mp h
  have hends : last.opened = last.closed := by
    unfold Authority.finish at hfinish
    split at hfinish
    · exact absurd hfinish (by simp)
    · simp_all
  rw [List.foldlM_append] at hrun
  cases hbefore : before.foldlM Authority.step {} with
  | error fault => simp [hbefore, bind, Except.bind] at hrun
  | ok reached =>
    rw [hbefore] at hrun
    change List.foldlM Authority.step reached ('[' :: behind) = .ok last at hrun
    rw [List.foldlM_cons] at hrun
    cases hstep : reached.step '[' with
    | error fault => simp [hstep, bind, Except.bind] at hrun
    | ok next =>
      rw [hstep] at hrun
      -- nothing is open in front of the bracket, so nothing is closed there
      obtain ⟨hopen, hclose, hopening, -⟩ := step_brackets hstep
      have hclosed : reached.closed = false := by
        rw [Bool.eq_false_iff]
        intro hreached
        have hopened := opened_of_closed hbefore (by simp) hreached
        rw [hopening rfl] at hopened
        exact absurd hopened (by simp)
      obtain ⟨hlastOpen, hlastClosed⟩ := run_brackets (s := next) hrun
      rw [hlastOpen, hlastClosed, hopen, hclose, hclosed] at hends
      simpa using hends

/-! ### Path and query -/

theorem eq_of_endsAuthority {c : Char} (h : endsAuthority c = true) :
    c = '/' ∨ c = '?' ∨ c = '#' := by
  simpa [endsAuthority, or_assoc] using h

/-- A text that goes on behind the authority has a path up to `?` or `#`, and a query. -/
theorem parseTarget_cons {c : Char} {more : List Char} (hs : c :: more ≠ ['*'])
    (hc : endsAuthority c = true) :
    parseTarget (c :: more) =
      if ((c :: more).takeWhile fun c => c ≠ '?' && c ≠ '#').all isPathChar then
        (parseQuery ((c :: more).dropWhile fun c => c ≠ '?' && c ≠ '#')).map fun query =>
          ⟨String.ofList ((c :: more).takeWhile fun c => c ≠ '?' && c ≠ '#'), query⟩
      else .error .badCharacter := by
  rw [parseTarget, if_neg hs, List.span_eq_takeWhile_dropWhile]
  simp only [hc, Bool.not_true, Bool.false_eq_true, if_false]
  cases ((c :: more).takeWhile fun c => c ≠ '?' && c ≠ '#').all isPathChar <;> rfl

theorem parseTarget_of_not_ends {c : Char} {more : List Char} (hs : c :: more ≠ ['*'])
    (hc : endsAuthority c = false) : parseTarget (c :: more) = .error .noLeadingSlash := by
  rw [parseTarget, if_neg hs]
  simp [hc]

theorem toList_rooted (path : List Char) (query : Option String) :
    (Target.rooted ⟨String.ofList path, query⟩).toList = if path = [] then ['/'] else path := by
  by_cases hpath : path = []
  · subst hpath
    have hempty : String.ofList [] = "" := rfl
    rw [Target.rooted, hempty, if_pos rfl, if_pos rfl]
    rfl
  · have hne : String.ofList path ≠ "" := by
      intro hempty
      rw [← String.toList_inj, String.toList_ofList] at hempty
      exact hpath hempty
    rw [Target.rooted, if_neg hne, if_neg hpath, String.toList_ofList]

/-- The path begins with a slash, unless there is nothing but an asterisk. -/
theorem rooted_of_parseTarget {s : List Char} {target : Target} (h : parseTarget s = .ok target)
    (hs : s ≠ ['*']) : ∃ rest, target.rooted.toList = '/' :: rest := by
  cases s with
  | nil =>
    obtain rfl := Except.ok.inj h
    exact ⟨[], rfl⟩
  | cons c more =>
    cases hc : endsAuthority c with
    | false =>
      rw [parseTarget_of_not_ends hs hc] at h
      exact absurd h (by simp)
    | true =>
      rw [parseTarget_cons hs hc] at h
      split at h
      · obtain ⟨query, -, rfl⟩ := Outcome.map_eq_ok_iff.mp h
        rw [toList_rooted]
        rcases eq_of_endsAuthority hc with rfl | rfl | rfl
        · exact ⟨more.takeWhile fun c => c ≠ '?' && c ≠ '#', rfl⟩
        · exact ⟨[], rfl⟩
        · exact ⟨[], rfl⟩
      · exact absurd h (by simp)

theorem parseQuery_append_fragment (s fragment : List Char) :
    parseQuery (s ++ '#' :: fragment) = parseQuery s := by
  cases s with
  | nil => rfl
  | cons c more =>
    by_cases hc : c = '?'
    · subst hc
      have htake : (more ++ '#' :: fragment).takeWhile (· ≠ '#') = more.takeWhile (· ≠ '#') :=
        Text.takeWhile_append_cons (by simp) more fragment
      simp only [List.cons_append, parseQuery, htake]
    · rw [List.cons_append, parseQuery, parseQuery]
      · simpa using hc
      · simpa using hc

/-- A fragment behind a path and a query is not read. -/
theorem parseTarget_append_fragment {s : List Char} (hs : s ≠ ['*']) (fragment : List Char) :
    parseTarget (s ++ '#' :: fragment) = parseTarget s := by
  have hstop : (fun c => c ≠ '?' && c ≠ '#' : Char → Bool) '#' = false := rfl
  cases s with
  | nil =>
    rw [List.nil_append, parseTarget_cons (by simp) (by decide)]
    rfl
  | cons c more =>
    have hs' : c :: (more ++ '#' :: fragment) ≠ ['*'] := by simp
    cases hc : endsAuthority c with
    | false =>
      rw [List.cons_append, parseTarget_of_not_ends hs hc, parseTarget_of_not_ends hs' hc]
    | true =>
      rw [List.cons_append, parseTarget_cons hs hc, parseTarget_cons hs' hc, ← List.cons_append,
        Text.takeWhile_append_cons hstop, Text.dropWhile_append_cons hstop,
        parseQuery_append_fragment]

/-! ### Fragments -/

theorem parseAfterScheme_append_fragment {scheme : String} {s : List Char} {u : Uri}
    (h : parseAfterScheme scheme s = .ok u) (fragment : List Char) :
    parseAfterScheme scheme (s ++ '#' :: fragment) = .ok u := by
  obtain ⟨authority, rest, target, hsplit, hne, htarget, rfl⟩ := parseAfterScheme_eq_ok_iff.mp h
  obtain ⟨hs, hauthority, rfl, hcheck⟩ := splitAuthority_eq_ok_iff.mp hsplit
  have hstop : (!endsAuthority '#') = false := rfl
  refine parseAfterScheme_eq_ok_iff.mpr
    ⟨authority, s.dropWhile (!endsAuthority ·) ++ '#' :: fragment, target, ?_, hne, ?_, rfl⟩
  · refine splitAuthority_eq_ok_iff.mpr ⟨by simp, ?_, ?_, hcheck⟩
    · rw [hauthority, Text.takeWhile_append_cons (p := (!endsAuthority ·)) hstop]
    · rw [Text.dropWhile_append_cons (p := (!endsAuthority ·)) hstop]
  · rw [parseTarget_append_fragment (dropWhile_ne_asterisk s), htarget]

/-- A fragment changes nothing: if a text with a fragment and the text without it are both addresses
with a scheme, then they are the same address. -/
theorem parse_append_fragment {text fragment : String} {u u' : Uri} (h : parse text = .ok u)
    (h' : parse (text ++ "#" ++ fragment) = .ok u') (hscheme : u.scheme ≠ none)
    (hscheme' : u'.scheme ≠ none) : u' = u := by
  obtain ⟨scheme, hscheme⟩ := Option.ne_none_iff_exists'.mp hscheme
  obtain ⟨scheme', hscheme'⟩ := Option.ne_none_iff_exists'.mp hscheme'
  obtain ⟨after, hsplit, hafter⟩ := exists_of_parse h hscheme
  obtain ⟨after', hsplit', hafter'⟩ := exists_of_parse h' hscheme'
  obtain ⟨written, htext, hwritten, rfl⟩ := splitScheme_eq_some hsplit
  obtain ⟨written', htext', hwritten', rfl⟩ := splitScheme_eq_some hsplit'
  have hcolon {w : List Char} (hw : ∀ c ∈ w, isSchemeChar c = true) : ':' ∉ w :=
    fun hmem => absurd (hw ':' hmem) (by decide)
  have hwhole : written' ++ ':' :: ('/' :: '/' :: after') =
      written ++ ':' :: ('/' :: '/' :: (after ++ '#' :: fragment.toList)) := by
    rw [← htext', String.toList_append, String.toList_append, htext]
    simp
  -- both texts are cut at the same place
  obtain ⟨rfl, hbehind⟩ := Text.cut_inj (hcolon hwritten') (hcolon hwritten) hwhole
  obtain rfl : after' = after ++ '#' :: fragment.toList := by simpa using hbehind
  rw [parseAfterScheme_append_fragment hafter] at hafter'
  exact (Except.ok.inj hafter').symm

end Uri

end RequestSigning
