import RequestSigning.Proofs.Uri.Base

/-!
# The port in the signed form of an address

The reader of addresses takes any text of an authority as a port, and the signed form is made with
the number of the port. A port that has no number below 65536 has nothing to stand for it there, so
it is dropped like a port that the scheme implies.

* `Uri.PortBehind`: the port that is written behind a host.
* `Uri.SamePort`: two spellings of one port, and `Uri.Names`: a signed form that names a port.
* `Uri.Implied`: the ports that may be left out.
* `Uri.PortBehind.port_eq`: the number of an address is that of its written port.
* `Uri.baseText_names_port_iff`: the ports that are named or implied are those with a number.
* `Uri.baseText_drops_port`: a port without one.
-/

namespace RequestSigning.Uri

/-! ### Numbers of ports -/

theorem lt_of_portOf {s : List Char} {n : Nat} (h : portOf s = some n) : n < 65536 := by
  rw [portOf] at h
  -- the sign in front of the digits does not matter
  generalize (if s.head? = some '+' then s.tail else s) = digits at h
  split at h
  · exact absurd h (by simp)
  · split at h
    · rename_i hlt
      rw [Option.some_inj] at h
      omega
    · exact absurd h (by simp)

/-- A number has no colon in it. -/
theorem colon_not_mem_of_portOf {s : List Char} {n : Nat} (h : portOf s = some n) : ':' ∉ s := by
  intro hmem
  rw [portOf_of_mem (by decide) (by decide) hmem] at h
  exact absurd h (by simp)

/-- The decimal digits of a number are read as that number. -/
theorem portOf_toDigits {n : Nat} (h : n < 65536) : portOf (Nat.toDigits 10 n) = some n := by
  have hdigits : ∀ c ∈ Nat.toDigits 10 n, c.isDigit = true := fun c hc =>
    Nat.isDigit_of_mem_toDigits (by decide) (by decide) hc
  have hplus : (Nat.toDigits 10 n).head? ≠ some '+' := fun hhead =>
    absurd (hdigits '+' (List.mem_of_head? hhead)) (by decide)
  have hempty : (Nat.toDigits 10 n).isEmpty = false := by
    rw [List.isEmpty_eq_false_iff]
    exact List.ne_nil_of_length_pos Nat.length_toDigits_pos
  have hvalue : Text.decimalValue (Nat.toDigits 10 n) = n :=
    Nat.ofDigitChars_toDigits (by decide) (Nat.le_refl 10)
  have hall : (Nat.toDigits 10 n).all Char.isDigit = true := List.all_eq_true.mpr hdigits
  rw [portOf, if_neg hplus, hempty, hall, hvalue]
  exact if_pos h

theorem toList_portText (n : Nat) : (portText (some n)).toList = ':' :: Nat.toDigits 10 n := by
  rw [portText, String.toList_append]
  exact congrArg (':' :: ·) Nat.toList_repr

/-! ### Ports behind a host -/

/-- Behind the host of an authority there is a colon, and behind the colon a port that is not
empty. -/
structure PortBehind (authority port : List Char) : Prop where
  nonempty : port ≠ []
  behind : ∃ between, place authority = hostOf authority ++ between ++ ':' :: port

/-- Two spellings of one port: the same text, or the same number. -/
def SamePort (p q : List Char) : Prop :=
  p = q ∨ ∃ n, portOf p = some n ∧ portOf q = some n

/-- A signed form in which a port stands between the host and the path, under some spelling. -/
def Names (base scheme host path : String) (port : List Char) : Prop :=
  ∃ written, SamePort port written ∧
    base = scheme ++ "://" ++ host ++ ":" ++ String.ofList written ++ path

/-- The ports that may be left out: 80 under `http`, and 443 under `https`. -/
def Implied (scheme : String) (port : List Char) : Prop :=
  scheme = "http" ∧ portOf port = some 80 ∨ scheme = "https" ∧ portOf port = some 443

theorem implied_of_usualPort {scheme : String} {port : List Char} {n : Nat}
    (hn : portOf port = some n) (h : usualPort scheme = some n) : Implied scheme port := by
  unfold usualPort at h
  split at h
  · rename_i hhttp
    exact .inl ⟨hhttp, hn.trans h.symm⟩
  · split at h
    · rename_i hhttps
      exact .inr ⟨hhttps, hn.trans h.symm⟩
    · exact absurd h (by simp)

theorem Implied.isSome {scheme : String} {port : List Char} (h : Implied scheme port) :
    (portOf port).isSome = true := by
  rcases h with ⟨-, hn⟩ | ⟨-, hn⟩
  · rw [hn]
    rfl
  · rw [hn]
    rfl

/-- The port that is written last is the one behind the host, so it gives the address its number. -/
theorem PortBehind.port_eq {u : Uri} {authority : String} {port : List Char}
    (h : PortBehind authority.toList port) (hauthority : u.authority = some authority)
    (hfree : ':' ∉ port) : u.port = portOf port := by
  obtain ⟨between, hplace⟩ := h.behind
  obtain ⟨info, hwhole, -⟩ := exists_append_place authority.toList
  have hsplit : authority.toList =
      (info ++ (hostOf authority.toList ++ between)) ++ ':' :: port := by
    rw [hplace] at hwhole
    rw [List.append_assoc]
    exact hwhole
  rw [Uri.port, hauthority]
  show (afterLast ':' authority.toList).bind portOf = portOf port
  rw [hsplit, afterLast_append hfree, Option.bind_some]

theorem lt_of_port {u : Uri} {n : Nat} (h : u.port = some n) : n < 65536 := by
  unfold port at h
  split at h
  · obtain ⟨s, -, hs⟩ := Option.bind_eq_some_iff.mp h
    exact lt_of_portOf hs
  · exact absurd h (by simp)

/-! ### Ports in the signed form -/

section SignedForm

variable {u : Uri} {scheme host : String} {port : List Char}

theorem Absolute.baseText_of_port (hu : u.Absolute scheme host) :
    u.baseText = .ok (Text.lowerAscii scheme ++ "://" ++ Text.lowerAscii host ++
      portText (shownPort (Text.lowerAscii scheme) u.port) ++ u.path) := by
  rw [shownPort_eq_effectivePort hu.scheme_eq]
  exact hu.baseText_eq

/-- A port with a number is shown by this number, unless the scheme implies it. -/
theorem implied_or_names_of_portOf {n : Nat} (hn : portOf port = some n) (path : String) :
    Implied scheme port ∨
      Names (scheme ++ "://" ++ host ++ portText (shownPort scheme (some n)) ++ path)
        scheme host path port := by
  by_cases husual : some n = usualPort scheme
  · exact .inl (implied_of_usualPort hn husual.symm)
  · refine .inr ⟨Nat.toDigits 10 n, .inr ⟨n, hn, portOf_toDigits (lt_of_portOf hn)⟩, ?_⟩
    rw [shownPort, if_neg husual, ← String.toList_inj]
    simp only [String.toList_append, toList_portText, String.toList_ofList, List.append_assoc]
    rfl

/-- What stands between host and path is no port but one with a number. -/
theorem isSome_of_names {shown : Option Nat} {path : String} (hshown : ∀ n ∈ shown, n < 65536)
    (h : Names (scheme ++ "://" ++ host ++ portText shown ++ path) scheme host path port) :
    (portOf port).isSome = true := by
  obtain ⟨written, hsame, hbase⟩ := h
  rcases hsame with rfl | ⟨n, hn, -⟩
  · have htext : (portText shown).toList = ':' :: port := by
      rw [← String.toList_inj] at hbase
      simp only [String.toList_append, String.toList_ofList, List.append_assoc] at hbase
      have hrest := List.append_cancel_left
        (List.append_cancel_left (List.append_cancel_left hbase))
      rw [← List.append_assoc] at hrest
      exact List.append_cancel_right hrest
    cases shown with
    | none => exact absurd htext (by simp [portText])
    | some n =>
      rw [toList_portText] at htext
      rw [← (List.cons.inj htext).2, portOf_toDigits (hshown n rfl)]
      rfl
  · rw [hn]
    rfl

end SignedForm

/-- An address that was read, with a scheme, a host and a port behind the host, has a signed form.
The form names the port, or the scheme implies the port, exactly if the port is a number below
65536. Any other port, unless it has a colon in it, is dropped: the form is that of the address
without a port. -/
theorem baseText_names_port_iff {text scheme host authority : String} {u : Uri} {port : List Char}
    (h : parse text = .ok u) (hscheme : u.scheme = some scheme) (hhost : u.host = some host)
    (hne : host ≠ "") (hauthority : u.authority = some authority)
    (hport : PortBehind authority.toList port) :
    ∃ base, u.baseText = .ok base ∧
      ((Implied (Text.lowerAscii scheme) port ∨
          Names base (Text.lowerAscii scheme) (Text.lowerAscii host) u.path port) ↔
        (portOf port).isSome = true) ∧
      (portOf port = none → ':' ∉ port →
        base = Text.lowerAscii scheme ++ "://" ++ Text.lowerAscii host ++ u.path) := by
  have hu := absolute_of_parse h hscheme hhost hne
  refine ⟨_, hu.baseText_of_port, ⟨?_, ?_⟩, ?_⟩
  · rintro (himplied | hnames)
    · exact himplied.isSome
    · refine isSome_of_names (fun n hn => ?_) hnames
      have hshown : u.port = some n := by
        unfold shownPort at hn
        split at hn
        · exact absurd hn (by simp)
        · exact hn
      exact lt_of_port hshown
  · intro hsome
    obtain ⟨n, hn⟩ := Option.isSome_iff_exists.mp hsome
    rw [hport.port_eq hauthority (colon_not_mem_of_portOf hn), hn]
    exact implied_or_names_of_portOf hn u.path
  · intro hnone hfree
    rw [hport.port_eq hauthority hfree, hnone, shownPort]
    split
    · simp [portText]
    · simp [portText]

/-- A port with a plus sign and zeros behind more characters than the host, in an address in which
user information and path have colons too. -/
theorem baseText_names_port_iff_plus :
    ∃ u base, parse "HTTPS://u:7@[::1]x:+0080/a:b" = .ok u ∧ u.baseText = .ok base ∧
      PortBehind "u:7@[::1]x:+0080".toList "+0080".toList ∧
      Names base "https" "[::1]" "/a:b" "+0080".toList := by
  let u : Uri := ⟨some "https", some "u:7@[::1]x:+0080", "/a:b", none⟩
  have hu : parse "HTTPS://u:7@[::1]x:+0080/a:b" = .ok u := by decide +kernel
  have hport : PortBehind "u:7@[::1]x:+0080".toList "+0080".toList :=
    ⟨by decide, "x".toList, by decide +kernel⟩
  have hscheme : u.scheme = some "https" := rfl
  have hhost : u.host = some "[::1]" := by decide +kernel
  obtain ⟨base, hbase, hiff, -⟩ :=
    baseText_names_port_iff hu hscheme hhost (by decide) rfl hport
  refine ⟨u, base, hu, hbase, hport, (hiff.mpr (by decide +kernel)).resolve_left ?_⟩
  rintro (⟨hhttp, -⟩ | ⟨-, hnumber⟩)
  · exact absurd hhttp (by decide +kernel)
  · exact absurd hnumber (by decide +kernel)

/-- A port that is no number below 65536 is neither refused nor named, nor does the scheme imply
it. -/
theorem baseText_drops_port :
    ∃ u, parse "http://example.com:99999/" = .ok u ∧ u.scheme = some "http" ∧
      u.host = some "example.com" ∧ u.authority = some "example.com:99999" ∧
      PortBehind "example.com:99999".toList "99999".toList ∧ ¬ Implied "http" "99999".toList ∧
      u.baseText = .ok "http://example.com/" ∧
      ∀ written, SamePort "99999".toList written →
        ¬ ':' :: written <:+: "http://example.com/".toList := by
  refine ⟨⟨some "http", some "example.com:99999", "/", none⟩, ?_, rfl, ?_, rfl, ?_, ?_, ?_, ?_⟩
  · decide +kernel
  · decide +kernel
  · exact ⟨by decide, [], by decide +kernel⟩
  · rintro (⟨-, hnumber⟩ | ⟨-, hnumber⟩)
    · exact absurd hnumber (by decide +kernel)
    · exact absurd hnumber (by decide +kernel)
  · decide +kernel
  · rintro written (rfl | ⟨n, hnumber, -⟩)
    · decide +kernel
    · have hnone : portOf "99999".toList = none := by decide +kernel
      rw [hnone] at hnumber
      exact absurd hnumber (by simp)

end RequestSigning.Uri
