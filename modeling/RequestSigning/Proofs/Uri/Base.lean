import Mathlib.Data.List.TakeWhile
import RequestSigning.Proofs.Uri.Parse
import RequestSigning.Uri.Base

/-!
# What the signed form of an address tells

Scheme, host, port and path are written one behind the other, and only some of the separators are
kept out of the parts. Still each part can be found again: a scheme has no colon, host and port have
no slash, and a host has no colon unless it ends with its first closing bracket.

* `Uri.place`: an authority without the user information.
* `Uri.HostForm`: the two forms of a host, with `Uri.hostForm_hostOf` and
  `Uri.HostForm.hostOf_append`: the host is found again in front of a port.
* `Uri.effectivePort`: the port, unless it is the usual one of the scheme.
* `Uri.Alike`: what the signed form is made of.
* `Uri.baseText_eq_iff_alike`: the signed forms of two addresses are the same exactly if they are
  alike, and nothing else of an address matters.
-/

namespace RequestSigning.Uri

/-! ### Behind the last separator -/

section AfterLast

variable {sep : Char} {behind : List Char}

theorem afterLast_append (h : sep ∉ behind) (before : List Char) :
    afterLast sep (before ++ sep :: behind) = some behind := by
  have hreverse : (before ++ sep :: behind).reverse = behind.reverse ++ sep :: before.reverse := by
    simp
  rw [afterLast, hreverse, Text.cut_append (by rwa [List.mem_reverse]), Option.map_some,
    List.reverse_reverse]

theorem afterLast_eq_none_iff {s : List Char} : afterLast sep s = none ↔ sep ∉ s := by
  rw [afterLast, Option.map_eq_none_iff, Text.cut_eq_none_iff, List.mem_reverse]

theorem eq_of_afterLast {s : List Char} (h : afterLast sep s = some behind) :
    ∃ before, s = before ++ sep :: behind ∧ sep ∉ behind := by
  obtain ⟨⟨first, second⟩, hcut, rfl⟩ := Option.map_eq_some_iff.mp h
  refine ⟨second.reverse, ?_, ?_⟩
  · rw [← List.reverse_reverse s, Text.eq_of_cut hcut]
    simp
  · rw [List.mem_reverse]
    exact Text.not_mem_of_cut hcut

end AfterLast

/-! ### Host and port without the user information -/

/-- An authority without the user information. -/
def place (authority : List Char) : List Char :=
  (afterLast '@' authority).getD authority

theorem place_of_not_mem {authority : List Char} (h : '@' ∉ authority) :
    place authority = authority := by
  rw [place, afterLast_eq_none_iff.mpr h, Option.getD_none]

theorem place_append {location : List Char} (h : '@' ∉ location) (info : List Char) :
    place (info ++ '@' :: location) = location := by
  rw [place, afterLast_append h, Option.getD_some]

/-- The user information ends with `@`, and there is none behind it. -/
theorem exists_append_place (authority : List Char) :
    ∃ info, authority = info ++ place authority ∧ '@' ∉ place authority := by
  cases hlast : afterLast '@' authority with
  | none =>
    have hfree := afterLast_eq_none_iff.mp hlast
    rw [place_of_not_mem hfree]
    exact ⟨[], rfl, hfree⟩
  | some location =>
    obtain ⟨info, rfl, hfree⟩ := eq_of_afterLast hlast
    rw [place_append hfree]
    exact ⟨info ++ ['@'], by simp, hfree⟩

theorem hostOf_eq (authority : List Char) :
    hostOf authority =
      if (place authority).head? = some '[' then through ']' (place authority)
      else (place authority).takeWhile (· ≠ ':') := rfl

theorem portOf_of_mem {c : Char} (hdigit : c.isDigit = false) (hplus : c ≠ '+') {s : List Char}
    (hc : c ∈ s) : portOf s = none := by
  have hdigits : c ∈ if s.head? = some '+' then s.tail else s := by
    split
    · rename_i hhead
      obtain ⟨rest, rfl⟩ := List.head?_eq_some_iff.mp hhead
      exact (List.mem_cons.mp hc).resolve_left hplus
    · exact hc
  have hall : (if s.head? = some '+' then s.tail else s).all Char.isDigit = false :=
    List.all_eq_false.mpr ⟨c, hdigits, by simp [hdigit]⟩
  simp [portOf, hall]

theorem hostOf_append {location : List Char} (h : '@' ∉ location) (info : List Char) :
    hostOf (info ++ '@' :: location) = hostOf location := by
  rw [hostOf_eq, hostOf_eq, place_append h, place_of_not_mem h]

/-- No number follows the last colon of an authority if this colon is in the user information. -/
theorem portOf_append {location : List Char} (info : List Char) :
    (afterLast ':' (info ++ '@' :: location)).bind portOf =
      (afterLast ':' location).bind portOf := by
  cases hlast : afterLast ':' location with
  | some behind =>
    obtain ⟨before, rfl, hfree⟩ := eq_of_afterLast hlast
    have hwhole : info ++ '@' :: (before ++ ':' :: behind) =
        (info ++ '@' :: before) ++ ':' :: behind := by simp
    rw [hwhole, afterLast_append hfree]
  | none =>
    have hnone := afterLast_eq_none_iff.mp hlast
    cases hwhole : afterLast ':' (info ++ '@' :: location) with
    | none => rfl
    | some behind =>
      obtain ⟨before, heq, -⟩ := eq_of_afterLast hwhole
      have hat : '@' ∈ behind := by
        rcases List.append_eq_append_iff.mp heq with ⟨more, -, hlater⟩ | ⟨more, -, hlater⟩
        · have hcolon : ':' ∈ '@' :: location := by
            rw [hlater]
            simp
          exact absurd hcolon (by simp [hnone])
        · have hmem : '@' ∈ ':' :: behind := by
            rw [hlater]
            simp
          simpa using hmem
      rw [Option.bind_some, Option.bind_none, portOf_of_mem (by decide) (by decide) hat]

/-! ### The forms of a host -/

/-- A host is in brackets, or it has no colon and does not begin with a bracket. -/
inductive HostForm : List Char → Prop
  | bracketed {inner : List Char} (h : ']' ∉ inner) : HostForm ('[' :: (inner ++ [']']))
  | plain {host : List Char} (hcolon : ':' ∉ host) (hbracket : host.head? ≠ some '[') :
    HostForm host

theorem through_append {before : List Char} (h : ']' ∉ before) (behind : List Char) :
    through ']' (before ++ ']' :: behind) = before ++ [']'] := by
  rw [through, Text.cut_append h]

/-- The host of an authority has one of the two forms: a bracket at its start is closed. -/
theorem hostForm_hostOf {authority : List Char} (h : checkAuthority authority = .ok ()) :
    HostForm (hostOf authority) := by
  obtain ⟨info, hauthority, -⟩ := exists_append_place authority
  rw [hostOf_eq]
  split
  · rename_i hhead
    obtain ⟨rest, hplace⟩ := List.head?_eq_some_iff.mp hhead
    rw [hauthority, hplace] at h
    have hclosed : ']' ∈ rest := mem_of_checkAuthority h
    cases hcut : Text.cut ']' rest with
    | none => exact absurd hclosed (Text.cut_eq_none_iff.mp hcut)
    | some parts =>
      have hfree : ']' ∉ '[' :: parts.1 := by simp [Text.not_mem_of_cut hcut]
      rw [hplace, Text.eq_of_cut hcut, ← List.cons_append, through_append hfree]
      exact .bracketed (Text.not_mem_of_cut hcut)
  · rename_i hhead
    refine .plain (fun hmem => ?_) fun hbracket => hhead ?_
    · have hall := List.all_eq_true.mp (List.all_takeWhile (p := (· ≠ ':'))) ':' hmem
      exact absurd hall (by decide)
    · obtain ⟨rest, hrest⟩ := List.takeWhile_prefix (l := place authority) (· ≠ ':')
      rw [← hrest, List.head?_append, hbracket]
      rfl

theorem through_prefix (stop : Char) (s : List Char) : through stop s <+: s := by
  unfold through
  split
  · rename_i before behind hcut
    rw [Text.eq_of_cut hcut]
    exact ⟨behind, by simp⟩
  · exact List.prefix_refl s

theorem hostOf_isPrefix (authority : List Char) : hostOf authority <+: place authority := by
  rw [hostOf_eq]
  split
  · exact through_prefix ']' _
  · exact List.takeWhile_prefix _

theorem HostForm.map_toLower {host : List Char} (h : HostForm host) :
    HostForm (host.map Char.toLower) := by
  cases h with
  | bracketed h =>
    rename_i inner
    have hmap : ('[' :: (inner ++ [']'])).map Char.toLower =
        '[' :: (inner.map Char.toLower ++ [']']) := by
      rw [List.map_cons, List.map_append]
      rfl
    rw [hmap]
    exact .bracketed fun hmem => h ((Text.mem_map_toLower_iff (by decide) inner).mp hmem)
  | plain hcolon hbracket =>
    refine .plain (fun hmem => hcolon ((Text.mem_map_toLower_iff (by decide) host).mp hmem)) ?_
    cases host with
    | nil => simp
    | cons c rest =>
      intro hhead
      rw [List.map_cons, List.head?_cons, Option.some_inj,
        Text.toLower_eq_iff (by decide)] at hhead
      exact hbracket (congrArg some hhead)

/-- A host is found again in front of a port: the characters behind it do not belong to it. -/
theorem HostForm.hostOf_append {host port : List Char} (h : HostForm host)
    (hfree : '@' ∉ host ++ port) (hport : port.head? = none ∨ port.head? = some ':') :
    hostOf (host ++ port) = host := by
  rw [hostOf_eq, place_of_not_mem hfree]
  cases h with
  | bracketed h =>
    rename_i inner
    have hfree' : ']' ∉ '[' :: inner := by simp [h]
    have htext : '[' :: (inner ++ [']']) ++ port = '[' :: inner ++ ']' :: port := by simp
    rw [htext, List.cons_append, List.head?_cons, if_pos rfl, ← List.cons_append,
      through_append hfree']
    rfl
  | plain hcolon hbracket =>
    have hhead : (host ++ port).head? ≠ some '[' := by
      cases host with
      | nil => rcases hport with hport | hport <;> simp [hport]
      | cons c rest => exact hbracket
    have hhost : host.takeWhile (· ≠ ':') = host := by
      rw [List.takeWhile_eq_self_iff]
      intro c hc
      rw [decide_eq_true_eq]
      rintro rfl
      exact hcolon hc
    rw [if_neg hhead]
    rcases hport with hport | hport
    · rw [List.head?_eq_none_iff.mp hport, List.append_nil, hhost]
    · obtain ⟨digits, rfl⟩ := List.head?_eq_some_iff.mp hport
      rw [Text.takeWhile_append_cons (by simp), hhost]

/-! ### The port -/

/-- The port of an address; 80 under `http` and 443 under `https` count as none. -/
def effectivePort (u : Uri) : Option Nat :=
  match u.scheme.map Text.lowerAscii, u.port with
  | some "http", some 80 => none
  | some "https", some 443 => none
  | _, port => port

/-- The port that is shown is this one. -/
theorem shownPort_eq_effectivePort {u : Uri} {scheme : String} (hscheme : u.scheme = some scheme) :
    shownPort (Text.lowerAscii scheme) u.port = u.effectivePort := by
  rw [effectivePort, hscheme, Option.map_some, shownPort, usualPort]
  by_cases hhttp : Text.lowerAscii scheme = "http"
  · rw [if_pos hhttp, hhttp]
    split
    · rename_i hport
      rw [hport]
      rfl
    · split <;> simp_all
  · rw [if_neg hhttp]
    by_cases hhttps : Text.lowerAscii scheme = "https"
    · rw [if_pos hhttps, hhttps]
      split
      · rename_i hport
        rw [hport]
        rfl
      · split <;> simp_all
    · rw [if_neg hhttps]
      split <;> simp_all

theorem portText_head (port : Option Nat) :
    (portText port).toList.head? = none ∨ (portText port).toList.head? = some ':' := by
  cases port with
  | none => exact .inl rfl
  | some n =>
    refine .inr ?_
    rw [portText, String.toList_append]
    rfl

theorem not_mem_portText {c : Char} (hdigit : c.isDigit = false) (hcolon : c ≠ ':')
    (port : Option Nat) : c ∉ (portText port).toList := by
  cases port with
  | none => exact List.not_mem_nil
  | some n =>
    have htext : (portText (some n)).toList = ':' :: Nat.toDigits 10 n := by
      rw [portText, String.toList_append]
      exact congrArg (':' :: ·) Nat.toList_repr
    rw [htext, List.mem_cons, not_or]
    refine ⟨hcolon, fun hmem => ?_⟩
    rw [Nat.isDigit_of_mem_toDigits (by decide) (by decide) hmem] at hdigit
    exact absurd hdigit (by simp)

theorem portText_inj {p q : Option Nat} (h : portText p = portText q) : p = q := by
  have hfull (n : Nat) : portText (some n) ≠ portText none := by
    intro hempty
    have hlist := congrArg String.toList hempty
    rw [portText, String.toList_append] at hlist
    exact absurd hlist (by simp [portText])
  cases p with
  | none =>
    cases q with
    | none => rfl
    | some n => exact absurd h.symm (hfull n)
  | some m =>
    cases q with
    | none => exact absurd h (hfull m)
    | some n =>
      have hdigits : Nat.toDigits 10 m = Nat.toDigits 10 n := by
        rw [portText, portText, ← String.toList_inj, String.toList_append,
          String.toList_append] at h
        rw [← Nat.toList_repr, ← Nat.toList_repr]
        exact List.append_cancel_left h
      have hvalue := congrArg (Nat.ofDigitChars 10 · 0) hdigits
      simp only [Nat.ofDigitChars_toDigits (by decide : 1 < 10) (Nat.le_refl 10)] at hvalue
      exact congrArg some hvalue

/-! ### Addresses that were read -/

/-- An address with a scheme and a host, as the reader makes it: the separators of its signed form
are not in the parts in front of them. -/
structure Absolute (u : Uri) (scheme host : String) : Prop where
  scheme_eq : u.scheme = some scheme
  host_eq : u.host = some host
  host_ne : host ≠ ""
  scheme_free : ':' ∉ scheme.toList
  host_form : HostForm host.toList
  host_free : '@' ∉ host.toList ∧ '/' ∉ host.toList
  rooted : ∃ rest, u.path.toList = '/' :: rest

theorem colon_not_mem_schemeName {written : List Char}
    (h : ∀ c ∈ written, isSchemeChar c = true) : ':' ∉ (schemeName written).toList := by
  unfold schemeName
  split
  · decide
  · split
    · decide
    · rw [String.toList_ofList]
      exact fun hmem => absurd (h ':' hmem) (by decide)

theorem absolute_of_parse {text scheme host : String} {u : Uri} (h : parse text = .ok u)
    (hscheme : u.scheme = some scheme) (hhost : u.host = some host) (hne : host ≠ "") :
    u.Absolute scheme host := by
  obtain ⟨after, hsplit, hafter⟩ := exists_of_parse h hscheme
  obtain ⟨written, -, hwritten, rfl⟩ := splitScheme_eq_some hsplit
  obtain ⟨authority, rest, target, hauthority, -, htarget, rfl⟩ :=
    parseAfterScheme_eq_ok_iff.mp hafter
  obtain ⟨-, hspan, hrest, hcheck⟩ := splitAuthority_eq_ok_iff.mp hauthority
  obtain rfl : String.ofList (hostOf authority) = host := by
    simpa [Uri.host] using hhost
  have hinfix : hostOf authority <:+: authority := by
    obtain ⟨info, hinfo, -⟩ := exists_append_place authority
    exact (hostOf_isPrefix authority).isInfix.trans ⟨info, [], by rw [List.append_nil, ← hinfo]⟩
  refine ⟨rfl, hhost, hne, colon_not_mem_schemeName hwritten, ?_, ⟨?_, ?_⟩, ?_⟩
  · rw [String.toList_ofList]
    exact hostForm_hostOf hcheck
  · rw [String.toList_ofList]
    obtain ⟨-, -, hfree⟩ := exists_append_place authority
    exact fun hmem => hfree ((hostOf_isPrefix authority).subset hmem)
  · rw [String.toList_ofList]
    intro hmem
    have hslash : '/' ∈ authority := hinfix.subset hmem
    rw [hspan] at hslash
    have hends := List.all_eq_true.mp (List.all_takeWhile (p := (!endsAuthority ·))) '/' hslash
    exact absurd hends (by decide)
  · exact rooted_of_parseTarget htarget (by rw [hrest]; exact dropWhile_ne_asterisk after)

/-! ### The signed form -/

/-- Addresses that agree in what the signed form is made of: the scheme and the host up to the case
of the letters A to Z, the effective port, and the path as it is written. -/
structure Alike (u v : Uri) : Prop where
  scheme : u.scheme.map Text.lowerAscii = v.scheme.map Text.lowerAscii
  host : u.host.map Text.lowerAscii = v.host.map Text.lowerAscii
  port : u.effectivePort = v.effectivePort
  path : u.path = v.path

section SignedForm

variable {u v : Uri} {scheme host scheme' host' : String}

theorem Absolute.baseText_eq (hu : u.Absolute scheme host) :
    u.baseText = .ok (Text.lowerAscii scheme ++ "://" ++ Text.lowerAscii host ++
      portText u.effectivePort ++ u.path) := by
  have hhost : u.host.filter (· ≠ "") = some host := by
    rw [hu.host_eq, Option.filter_some, if_pos (by simpa using hu.host_ne)]
  rw [baseText]
  simp only [hu.scheme_eq, hhost, shownPort_eq_effectivePort hu.scheme_eq]

/-- The parts of a signed form as characters: what follows the first colon, and what follows the
first slash behind the two that belong to the scheme. -/
theorem toList_signedForm (scheme host port path : String) :
    (scheme ++ "://" ++ host ++ port ++ path).toList =
      scheme.toList ++ ':' :: ('/' :: '/' :: ((host.toList ++ port.toList) ++ path.toList)) := by
  simp only [String.toList_append, List.append_assoc]
  rfl

/-- The host is found again in front of the port. -/
theorem Absolute.hostOf_lowered (hu : u.Absolute scheme host) (port : Option Nat) :
    hostOf ((Text.lowerAscii host).toList ++ (portText port).toList) =
      (Text.lowerAscii host).toList := by
  rw [Text.toList_lowerAscii]
  refine hu.host_form.map_toLower.hostOf_append ?_ (portText_head port)
  rw [List.mem_append, not_or, Text.mem_map_toLower_iff (by decide)]
  exact ⟨hu.host_free.1, not_mem_portText (by decide) (by decide) port⟩

/-- Neither the host nor the port has a slash, so the path begins with the first one. -/
theorem Absolute.slash_not_mem (hu : u.Absolute scheme host) (port : Option Nat) :
    '/' ∉ (Text.lowerAscii host).toList ++ (portText port).toList := by
  rw [Text.toList_lowerAscii, List.mem_append, not_or, Text.mem_map_toLower_iff (by decide)]
  exact ⟨hu.host_free.2, not_mem_portText (by decide) (by decide) port⟩

theorem Absolute.colon_not_mem (hu : u.Absolute scheme host) :
    ':' ∉ (Text.lowerAscii scheme).toList := by
  rw [Text.toList_lowerAscii, Text.mem_map_toLower_iff (by decide)]
  exact hu.scheme_free

/-- The signed form is taken apart from left to right. -/
theorem Absolute.alike_of_baseText_eq (hu : u.Absolute scheme host)
    (hv : v.Absolute scheme' host') (h : u.baseText = v.baseText) : u.Alike v := by
  rw [hu.baseText_eq, hv.baseText_eq, Except.ok.injEq, ← String.toList_inj, toList_signedForm,
    toList_signedForm] at h
  obtain ⟨path, hpath⟩ := hu.rooted
  obtain ⟨path', hpath'⟩ := hv.rooted
  obtain ⟨hscheme, hbehind⟩ := Text.cut_inj hu.colon_not_mem hv.colon_not_mem h
  have hlocated := (List.cons.inj (List.cons.inj hbehind).2).2
  rw [hpath, hpath'] at hlocated
  obtain ⟨hplace, hrest⟩ := Text.cut_inj (hu.slash_not_mem _) (hv.slash_not_mem _) hlocated
  have hhost : (Text.lowerAscii host).toList = (Text.lowerAscii host').toList := by
    rw [← hu.hostOf_lowered u.effectivePort, hplace, hv.hostOf_lowered]
  rw [hhost] at hplace
  have hport := portText_inj (String.toList_inj.mp (List.append_cancel_left hplace))
  refine ⟨?_, ?_, hport, ?_⟩
  · rw [hu.scheme_eq, hv.scheme_eq]
    exact congrArg some (String.toList_inj.mp hscheme)
  · rw [hu.host_eq, hv.host_eq]
    exact congrArg some (String.toList_inj.mp hhost)
  · rw [← String.toList_inj, hpath, hpath', hrest]

/-- Two addresses that were read have the same signed form exactly if they are alike. -/
theorem Absolute.baseText_eq_iff (hu : u.Absolute scheme host) (hv : v.Absolute scheme' host') :
    u.baseText = v.baseText ↔ u.Alike v := by
  refine ⟨hu.alike_of_baseText_eq hv, fun h => ?_⟩
  have hscheme : Text.lowerAscii scheme = Text.lowerAscii scheme' := by
    simpa [hu.scheme_eq, hv.scheme_eq] using h.scheme
  have hhost : Text.lowerAscii host = Text.lowerAscii host' := by
    simpa [hu.host_eq, hv.host_eq] using h.host
  rw [hu.baseText_eq, hv.baseText_eq, hscheme, hhost, h.port, h.path]

/-- The query is no part of the signed form. -/
theorem Absolute.baseText_withQuery (hu : u.Absolute scheme host) (query : Option String) :
    baseText { u with query := query } = u.baseText := by
  have hother : Absolute { u with query := query } scheme host :=
    ⟨hu.scheme_eq, hu.host_eq, hu.host_ne, hu.scheme_free, hu.host_form, hu.host_free, hu.rooted⟩
  exact (hother.baseText_eq_iff hu).mpr ⟨rfl, rfl, rfl, rfl⟩

/-- The user information is no part of the signed form. -/
theorem Absolute.baseText_withoutInfo (hu : u.Absolute scheme host) {info location : String}
    (ha : u.authority = some (info ++ "@" ++ location)) (hfree : '@' ∉ location.toList) :
    baseText { u with authority := some location } = u.baseText := by
  have hauthority : (info ++ "@" ++ location).toList = info.toList ++ '@' :: location.toList := by
    rw [String.toList_append, String.toList_append, List.append_assoc]
    rfl
  have hhost : Uri.host { u with authority := some location } = u.host := by
    rw [Uri.host, Uri.host, ha, Option.map_some, Option.map_some, hauthority, hostOf_append hfree]
  have hport : Uri.port { u with authority := some location } = u.port := by
    simp only [Uri.port, ha, hauthority, portOf_append]
  have hother : Absolute { u with authority := some location } scheme host :=
    ⟨hu.scheme_eq, hhost.trans hu.host_eq, hu.host_ne, hu.scheme_free, hu.host_form, hu.host_free,
      hu.rooted⟩
  refine (hother.baseText_eq_iff hu).mpr ⟨rfl, congrArg _ hhost, ?_, rfl⟩
  rw [effectivePort, effectivePort, hport]

end SignedForm

/-- Two addresses that were read, with a scheme and a host each, have the same signed form exactly
if they are alike. The query and the user information do not matter for it, and a fragment does
not matter for the address. -/
theorem baseText_eq_iff_alike {text₁ text₂ : String} {u₁ u₂ : Uri}
    {scheme₁ scheme₂ host₁ host₂ : String} (h₁ : parse text₁ = .ok u₁) (h₂ : parse text₂ = .ok u₂)
    (hscheme₁ : u₁.scheme = some scheme₁) (hscheme₂ : u₂.scheme = some scheme₂)
    (hhost₁ : u₁.host = some host₁) (hhost₂ : u₂.host = some host₂) (hne₁ : host₁ ≠ "")
    (hne₂ : host₂ ≠ "") :
    (∃ base₁ base₂, u₁.baseText = .ok base₁ ∧ u₂.baseText = .ok base₂ ∧
      (base₁ = base₂ ↔ u₁.Alike u₂)) ∧
    (∀ query, baseText { u₁ with query := query } = u₁.baseText) ∧
    (∀ info location, u₁.authority = some (info ++ "@" ++ location) → '@' ∉ location.toList →
      baseText { u₁ with authority := some location } = u₁.baseText) ∧
    ∀ fragment u, parse (text₁ ++ "#" ++ fragment) = .ok u → u.scheme ≠ none → u = u₁ := by
  have hu₁ := absolute_of_parse h₁ hscheme₁ hhost₁ hne₁
  have hu₂ := absolute_of_parse h₂ hscheme₂ hhost₂ hne₂
  refine ⟨⟨_, _, hu₁.baseText_eq, hu₂.baseText_eq, ?_⟩, hu₁.baseText_withQuery, ?_, ?_⟩
  · have hiff := hu₁.baseText_eq_iff hu₂
    rwa [hu₁.baseText_eq, hu₂.baseText_eq, Except.ok.injEq] at hiff
  · intro info location ha hfree
    exact hu₁.baseText_withoutInfo ha hfree
  · intro fragment u hu hscheme
    exact parse_append_fragment h₁ hu (by simp [hscheme₁]) hscheme

/-- One address, once with capital letters, user information, a zero before the port, a query and a
fragment, and once without; and an address that differs from it in the port only. -/
theorem baseText_eq_iff_alike_brackets :
    ∃ u v w base base', parse "X+Y://u:1@[::A]:0081/P?q=/" = .ok u ∧
      parse "x+y://[::a]:81/P" = .ok v ∧ parse "X+Y://u:1@[::A]:0081/P?q=/#a?b" = .ok u ∧
      u.Alike v ∧ u.baseText = .ok base ∧ v.baseText = .ok base ∧
      baseText { u with query := none } = .ok base ∧
      baseText { u with authority := some "[::A]:0081" } = .ok base ∧
      parse "x+y://[::a]:82/P" = .ok w ∧ w.scheme = v.scheme ∧ w.host = v.host ∧
      w.path = v.path ∧ w.baseText = .ok base' ∧ base' ≠ base := by
  let u : Uri := ⟨some "X+Y", some "u:1@[::A]:0081", "/P", some "q=/"⟩
  let v : Uri := ⟨some "x+y", some "[::a]:81", "/P", none⟩
  let w : Uri := ⟨some "x+y", some "[::a]:82", "/P", none⟩
  have hu : parse "X+Y://u:1@[::A]:0081/P?q=/" = .ok u := by decide +kernel
  have hv : parse "x+y://[::a]:81/P" = .ok v := by decide +kernel
  have hw : parse "x+y://[::a]:82/P" = .ok w := by decide +kernel
  have hscheme : u.scheme = some "X+Y" := rfl
  have hscheme' : v.scheme = some "x+y" := rfl
  have hhost : u.host = some "[::A]" := by decide +kernel
  have hhost' : v.host = some "[::a]" := by decide +kernel
  have hother : w.host = some "[::a]" := by decide +kernel
  have halike : u.Alike v := by constructor <;> decide +kernel
  have hport : w.effectivePort ≠ v.effectivePort := by decide +kernel
  obtain ⟨⟨base, base', hbase, hbase', hiff⟩, hquery, hinfo, hfragment⟩ :=
    baseText_eq_iff_alike hu hv hscheme hscheme' hhost hhost' (by decide) (by decide)
  obtain ⟨⟨other, base'', hotherBase, hbase'', hdiffers⟩, -⟩ :=
    baseText_eq_iff_alike hw hv (rfl : w.scheme = some "x+y") hscheme' hother hhost' (by decide)
      (by decide)
  obtain rfl := hiff.mpr halike
  obtain rfl : base = base'' := Except.ok.inj (hbase'.symm.trans hbase'')
  obtain ⟨same, hsame, hsamescheme⟩ :
      ∃ same, parse "X+Y://u:1@[::A]:0081/P?q=/#a?b" = .ok same ∧ same.scheme ≠ none :=
    ⟨u, by decide +kernel, by decide⟩
  rw [hfragment "a?b" same hsame hsamescheme] at hsame
  exact ⟨u, v, w, base, other, hu, hv, hsame, halike, hbase, hbase', (hquery none).trans hbase,
    (hinfo "u:1" "[::A]:0081" rfl (by decide)).trans hbase, hw, rfl, hother.trans hhost'.symm, rfl,
    hotherBase, fun heq => hport (hdiffers.mp heq).port⟩

end RequestSigning.Uri
