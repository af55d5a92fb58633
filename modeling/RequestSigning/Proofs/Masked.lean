import Mathlib.Tactic.SplitIfs
import RequestSigning.Credential
import RequestSigning.Draft
import RequestSigning.Profile.Basic

/-!
# What is shown of secrets

Credentials, profiles and drafts are shown for people, and their secrets are masked in that form.
Two of them are followed side by side here, equal but for their secrets. Their shown forms can
only differ where the masks do, and a mask tells one of three classes of secrets, and of a long
secret its two ends.

* `Text.MaskedAlike`: the classes, with `Text.masked_eq_iff_alike`: secrets with the same mask.
* `Text.masked_of_long`: the mask of a long secret, whose two ends do not overlap.
* `Credential.withoutSecrets`, `Profile.withoutSecrets`, `Draft.withoutSecrets`: what is left
  besides the secrets.
* `describe_hides_secrets`: all shown forms hide what is not in the masks.
-/

namespace RequestSigning

/-! ### Masks -/

namespace Text

/-- Secrets that are not told apart: none at all, fewer than twelve characters, or at least twelve
with the same three at both ends. -/
inductive MaskedAlike : String → String → Prop
  | empty : MaskedAlike "" ""
  | short {s t : String} (hs : 0 < s.length ∧ s.length < 12) (ht : 0 < t.length ∧ t.length < 12) :
      MaskedAlike s t
  | long {s t : String} (hs : 12 ≤ s.length) (ht : 12 ≤ t.length)
      (hfirst : s.toList.take 3 = t.toList.take 3)
      (hlast : s.toList.drop (s.length - 3) = t.toList.drop (t.length - 3)) : MaskedAlike s t

theorem masked_of_short {s : String} (h : 0 < s.length ∧ s.length < 12) : masked s = "***" := by
  rw [← String.length_toList] at h
  show (if s.toList.length = 0 then _ else if s.toList.length < 12 then _ else _) = _
  rw [if_neg (by omega), if_pos h.2]

theorem toList_masked_of_long {s : String} (h : 12 ≤ s.length) :
    (masked s).toList = s.toList.take 3 ++ ("***".toList ++ s.toList.drop (s.length - 3)) := by
  rw [← String.length_toList] at h ⊢
  have hmask : masked s = String.ofList (s.toList.take 3) ++ "***" ++
      String.ofList (s.toList.drop (s.toList.length - 3)) := by
    show (if s.toList.length = 0 then _ else if s.toList.length < 12 then _ else _) = _
    rw [if_neg (by omega), if_neg (by omega)]
  rw [hmask]
  simp only [String.toList_append, String.toList_ofList, List.append_assoc]

/-- The mask of a long secret is made of its first and its last three characters, and there are at
least six others between them. -/
theorem masked_of_long {s : String} (h : 12 ≤ s.length) :
    ∃ first middle last, s = first ++ middle ++ last ∧ first.length = 3 ∧ last.length = 3 ∧
      6 ≤ middle.length ∧ masked s = first ++ "***" ++ last := by
  have hmask := toList_masked_of_long h
  rw [← String.length_toList] at h hmask
  refine ⟨String.ofList (s.toList.take 3),
    String.ofList ((s.toList.drop 3).take (s.toList.length - 6)),
    String.ofList (s.toList.drop (s.toList.length - 3)), ?_, ?_, ?_, ?_, ?_⟩
  · have hrest : (s.toList.drop 3).drop (s.toList.length - 6) =
        s.toList.drop (s.toList.length - 3) := by
      rw [List.drop_drop]
      congr 1
      omega
    rw [← String.toList_inj]
    simp only [String.toList_append, String.toList_ofList, List.append_assoc]
    rw [← hrest, List.take_append_drop, List.take_append_drop]
  · rw [String.length_ofList, List.length_take]
    omega
  · rw [String.length_ofList, List.length_drop]
    omega
  · rw [String.length_ofList, List.length_take, List.length_drop]
    omega
  · rw [← String.toList_inj, hmask]
    simp only [String.toList_append, String.toList_ofList, List.append_assoc]

/-- The three kinds of masks have different lengths. -/
theorem length_masked (s : String) :
    (masked s).toList.length = if s.length = 0 then 5 else if s.length < 12 then 3 else 9 := by
  by_cases hempty : s.length = 0
  · rw [if_pos hempty, String.length_eq_zero_iff.mp hempty]
    decide
  · rw [if_neg hempty]
    by_cases hshort : s.length < 12
    · rw [if_pos hshort, masked_of_short ⟨by omega, hshort⟩]
      decide
    · rw [if_neg hshort, toList_masked_of_long (by omega), ← String.length_toList]
      rw [← String.length_toList] at hshort
      simp only [List.length_append, List.length_take, List.length_drop]
      rw [show "***".toList.length = 3 from by decide]
      omega

/-- A mask tells the class of a secret and nothing else. -/
theorem masked_eq_iff_alike {s t : String} : masked s = masked t ↔ MaskedAlike s t := by
  constructor
  · intro h
    have hlength : (masked s).toList.length = (masked t).toList.length := by rw [h]
    rw [length_masked, length_masked] at hlength
    have hkind : (s.length = 0 ↔ t.length = 0) ∧ (s.length < 12 ↔ t.length < 12) := by
      split_ifs at hlength <;> omega
    by_cases hempty : s.length = 0
    · rw [String.length_eq_zero_iff.mp hempty, String.length_eq_zero_iff.mp (hkind.1.mp hempty)]
      exact .empty
    · by_cases hshort : s.length < 12
      · exact .short (by omega) (by omega)
      · have hlong : 12 ≤ s.length ∧ 12 ≤ t.length := by omega
        rw [← String.toList_inj, toList_masked_of_long hlong.1, toList_masked_of_long hlong.2] at h
        have hfirst : (s.toList.take 3).length = (t.toList.take 3).length := by
          rw [List.length_take, List.length_take, String.length_toList, String.length_toList]
          omega
        obtain ⟨hstart, hrest⟩ := List.append_inj h hfirst
        exact .long hlong.1 hlong.2 hstart (List.append_cancel_left hrest)
  · intro h
    cases h with
    | empty => rfl
    | short hs ht => rw [masked_of_short hs, masked_of_short ht]
    | long hs ht hfirst hlast =>
      rw [← String.toList_inj, toList_masked_of_long hs, toList_masked_of_long ht, hfirst, hlast]

instance (s t : String) : Decidable (MaskedAlike s t) :=
  decidable_of_iff (masked s = masked t) masked_eq_iff_alike

end Text

/-! ### Shown forms -/

/-- What a credential is besides its secrets. -/
def Credential.withoutSecrets (c : Credential) : Credential :=
  { c with consumerSecret := "", tokenSecret := none }

/-- What a profile is besides its secrets. -/
def Profile.withoutSecrets (p : Profile) : Profile :=
  { p with text := fun f => if f.isSecret then none else p.text f }

/-- What a draft is besides its secrets. -/
def Draft.withoutSecrets (d : Draft) : Draft :=
  { d with consumerSecret := "", tokenSecret := "" }

theorem Credential.describe_eq_of_alike {c d : Credential}
    (hother : c.withoutSecrets = d.withoutSecrets)
    (hconsumer : Text.MaskedAlike c.consumerSecret d.consumerSecret)
    (htoken : Text.MaskedAlike (c.tokenSecret.getD "") (d.tokenSecret.getD "")) :
    c.describe = d.describe := by
  obtain ⟨hkey, -, haccess, -⟩ := Credential.mk.inj hother
  rw [describe, describe, Text.masked_eq_iff_alike.mpr hconsumer,
    Text.masked_eq_iff_alike.mpr htoken, hkey, haccess]

theorem Profile.describe_eq_of_alike {p q : Profile}
    (hother : p.withoutSecrets = q.withoutSecrets)
    (hsecret : ∀ f, f.isSecret = true →
      Text.MaskedAlike ((p.text f).getD "") ((q.text f).getD "")) :
    p.describe = q.describe := by
  obtain ⟨hopen, hblank⟩ := Profile.mk.inj hother
  have htext (f : Field) (hf : f.isSecret = false) : p.text f = q.text f := by
    simpa [hf] using congrFun hopen f
  have hmask (f : Field) (hf : f.isSecret = true) :
      Text.masked ((p.text f).getD "") = Text.masked ((q.text f).getD "") :=
    Text.masked_eq_iff_alike.mpr (hsecret f hf)
  simp only [describe, htext .consumerKey rfl, hmask .consumerSecret rfl, htext .accessToken rfl,
    hmask .tokenSecret rfl, htext .nonce rfl, htext .realm rfl, htext .version rfl,
    htext .verifier rfl, hblank, htext .signingMethod rfl]

theorem Draft.describe_eq_of_alike {d e : Draft} (hother : d.withoutSecrets = e.withoutSecrets)
    (hconsumer : Text.MaskedAlike d.consumerSecret e.consumerSecret)
    (htoken : Text.MaskedAlike d.tokenSecret e.tokenSecret) : d.describe = e.describe := by
  obtain ⟨hurl, hmethod, hkey, -, haccess, -, hnonce, hrealm, hversion, hverifier, hblank, hsigning,
    hadditional, -⟩ := Draft.mk.inj hother
  rw [describe, describe, hurl, hmethod, hkey, Text.masked_eq_iff_alike.mpr hconsumer, haccess,
    Text.masked_eq_iff_alike.mpr htoken, hnonce, hrealm, hversion, hverifier, hblank, hsigning,
    hadditional]

/-- Two credentials, two profiles or two drafts that are equal besides their secrets, and whose
secrets are not told apart by their masks, are shown in the same form. Of a secret with at least
twelve characters the mask shows three at each end, with others between them. -/
theorem describe_hides_secrets :
    (∀ c d : Credential, c.withoutSecrets = d.withoutSecrets →
      Text.MaskedAlike c.consumerSecret d.consumerSecret →
      Text.MaskedAlike (c.tokenSecret.getD "") (d.tokenSecret.getD "") →
      c.describe = d.describe) ∧
    (∀ p q : Profile, p.withoutSecrets = q.withoutSecrets →
      Text.MaskedAlike ((p.text .consumerSecret).getD "") ((q.text .consumerSecret).getD "") →
      Text.MaskedAlike ((p.text .tokenSecret).getD "") ((q.text .tokenSecret).getD "") →
      p.describe = q.describe) ∧
    (∀ d e : Draft, d.withoutSecrets = e.withoutSecrets →
      Text.MaskedAlike d.consumerSecret e.consumerSecret →
      Text.MaskedAlike d.tokenSecret e.tokenSecret → d.describe = e.describe) ∧
    (∀ s t, Text.masked s = Text.masked t ↔ Text.MaskedAlike s t) ∧
    ∀ s : String, 12 ≤ s.length →
      ∃ first middle last, s = first ++ middle ++ last ∧ first.length = 3 ∧ last.length = 3 ∧
        6 ≤ middle.length ∧ Text.masked s = first ++ "***" ++ last := by
  refine ⟨fun c d => Credential.describe_eq_of_alike, fun p q hother hconsumer htoken => ?_,
    fun d e => Draft.describe_eq_of_alike, fun s t => Text.masked_eq_iff_alike,
    fun s => Text.masked_of_long⟩
  refine Profile.describe_eq_of_alike hother fun f hf => ?_
  cases f with
  | consumerSecret => exact hconsumer
  | tokenSecret => exact htoken
  | _ => exact absurd hf (by decide)

/-- Secrets with characters of several bytes: six characters of eighteen bytes against five, twelve
characters that share both ends, and a token secret that is not set against an empty one. -/
theorem describe_hides_secrets_multibyte :
    (Credential.mk "k" "日本語秘密鍵" (some "t") none).describe =
        (Credential.mk "k" "Short" (some "t") (some "")).describe ∧
      ((Profile.set {} (.text .consumerSecret "ünïcödé-sécret")).describe =
        (Profile.set {} (.text .consumerSecret "ünï-------ret!ret")).describe) ∧
      (Draft.set {} (.tokenSecret "ab日------本ba")).describe =
        (Draft.set {} (.tokenSecret "ab日日日日日日日日本ba")).describe ∧
      ∃ first middle last, "日本語------語本日" = first ++ middle ++ last ∧ first.length = 3 ∧
        last.length = 3 ∧ 6 ≤ middle.length ∧
        Text.masked "日本語------語本日" = first ++ "***" ++ last := by
  obtain ⟨hcredential, hprofile, hdraft, -, hlong⟩ := describe_hides_secrets
  refine ⟨hcredential _ _ rfl ?_ ?_, hprofile _ _ ?_ ?_ ?_, hdraft _ _ rfl ?_ ?_, hlong _ ?_⟩
  · decide
  · decide
  · refine Profile.ext (fun f => ?_) rfl
    cases f <;> rfl
  · decide
  · decide
  · decide
  · decide
  · decide

end RequestSigning
