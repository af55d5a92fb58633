import Mathlib.Data.List.Nodup
import RequestSigning.Profile.Basic

/-!
# Profiles and the variables of their host

Filling a profile from a source of variables is a merge in which the profile comes first: what is
set stays, and each source has a say only in the fields that are still unset. So sources that are
asked one after the other act as one, and a setting may be made before or after the filling.

* `Profile.supplied`: the fields that have a variable, by the names of their variables.
* `Profile.fillFrom_congr`, `Profile.fillFrom_insert`: what of a source is read, and what one
  variable changes.
* `Profile.fillFrom_fillFrom`, `Profile.set_fillFrom`: the laws of the merge.
* `Profile.after`, `Profile.after_eq`: settings and fillings in any order, as one filling and then
  the settings; `Profile.text_after` says what a field holds in the end.
* `Profile.fillFrom_merges`: all about one filling together.
-/

namespace RequestSigning.Profile

/-! ### The variables of fields -/

/-- The fields that have a variable, each with the name of its own. -/
def supplied : List (Field × String) :=
  [(.consumerKey, "OAUTH_CONSUMER_KEY"),
    (.consumerSecret, "OAUTH_CONSUMER_SECRET"),
    (.accessToken, "OAUTH_ACCESS_TOKEN"),
    (.tokenSecret, "OAUTH_TOKEN_SECRET"),
    (.signingMethod, "OAUTH_SIGNATURE_METHOD"),
    (.realm, "OAUTH_REALM")]

theorem variableName_eq_some_iff {f : Field} {name : String} :
    f.variableName = some name ↔ (f, name) ∈ supplied := by
  cases f <;> simp [Field.variableName, supplied, Protocol.consumerKeyVariable,
    Protocol.consumerSecretVariable, Protocol.accessTokenVariable, Protocol.tokenSecretVariable,
    Protocol.signatureMethodVariable, Protocol.realmVariable, eq_comm]

theorem variableName_eq_none_iff {f : Field} :
    f.variableName = none ↔ ∀ name, (f, name) ∉ supplied := by
  simp only [← variableName_eq_some_iff]
  exact Option.eq_none_iff_forall_ne_some

/-- No two fields share a variable. -/
theorem eq_of_mem_supplied {f g : Field} {name : String} (hf : (f, name) ∈ supplied)
    (hg : (g, name) ∈ supplied) : f = g := by
  have hnodup : (supplied.map Prod.snd).Nodup := by decide
  exact congrArg Prod.fst (List.inj_on_of_nodup_map hnodup hf hg rfl)

/-! ### One filling -/

variable {p : Profile} {e : Environment}

theorem text_fillFrom_of_set {f : Field} {s : String} (hf : p.text f = some s) :
    (p.fillFrom e).text f = some s := by
  rw [text_fillFrom, hf]
  rfl

theorem text_fillFrom_of_unset {f : Field} {name : String} (hname : (f, name) ∈ supplied)
    (hf : p.text f = none) : (p.fillFrom e).text f = e.lookup name := by
  rw [text_fillFrom, hf, variableName_eq_some_iff.mpr hname]
  rfl

theorem text_fillFrom_of_not_supplied {f : Field} (hf : ∀ name, (f, name) ∉ supplied) :
    (p.fillFrom e).text f = p.text f := by
  rw [text_fillFrom, variableName_eq_none_iff.mpr hf]
  exact Option.or_none

theorem text_fillFrom_congr {a b : Environment} {f : Field}
    (h : ∀ name, (f, name) ∈ supplied → p.text f = none → a.lookup name = b.lookup name) :
    (p.fillFrom a).text f = (p.fillFrom b).text f := by
  cases hf : p.text f with
  | some s => rw [text_fillFrom_of_set hf, text_fillFrom_of_set hf]
  | none =>
    cases hname : f.variableName with
    | none =>
      have hnone := variableName_eq_none_iff.mp hname
      rw [text_fillFrom_of_not_supplied hnone, text_fillFrom_of_not_supplied hnone]
    | some name =>
      have hmem := variableName_eq_some_iff.mp hname
      rw [text_fillFrom_of_unset hmem hf, text_fillFrom_of_unset hmem hf, h name hmem hf]

/-- Of a source only the variables of unset fields are read. -/
theorem fillFrom_congr {a b : Environment}
    (h : ∀ f name, (f, name) ∈ supplied → p.text f = none → a.lookup name = b.lookup name) :
    p.fillFrom a = p.fillFrom b :=
  Profile.ext (fun f => text_fillFrom_congr (h f)) rfl

/-- A variable that is written settles its own field if that is unset, and no other. -/
theorem fillFrom_insert (p : Profile) (t : Dictionary) {f : Field} {name : String}
    (hname : (f, name) ∈ supplied) (value : String) :
    p.fillFrom (.ofTable (t.insert name value)) =
      if p.text f = none then (p.fillFrom (.ofTable t)).set (.text f value)
      else p.fillFrom (.ofTable t) := by
  -- another field has a variable of another name, which is not written
  have hframe : ∀ g, g ≠ f → (p.fillFrom (.ofTable (t.insert name value))).text g =
      (p.fillFrom (.ofTable t)).text g := by
    intro g hg
    apply text_fillFrom_congr
    intro other hother _
    have hne : name ≠ other := by
      rintro rfl
      exact hg (eq_of_mem_supplied hother hname)
    rw [Environment.lookup_ofTable, Environment.lookup_ofTable, Dictionary.get?_insert, if_neg hne]
  cases hf : p.text f with
  | some s =>
    rw [if_neg (by simp)]
    refine Profile.ext (fun g => ?_) rfl
    by_cases hg : g = f
    · rw [hg, text_fillFrom_of_set hf, text_fillFrom_of_set hf]
    · exact hframe g hg
  | none =>
    rw [if_pos rfl]
    refine Profile.ext (fun g => ?_) rfl
    rw [text_set_text]
    by_cases hg : g = f
    · rw [if_pos hg, hg, text_fillFrom_of_unset hname hf, Environment.lookup_ofTable,
        Dictionary.get?_insert, if_pos rfl]
    · rw [if_neg hg]
      exact hframe g hg

/-! ### The laws of the merge -/

theorem fillFrom_none (p : Profile) : p.fillFrom Environment.none = p := by
  refine Profile.ext (fun f => ?_) rfl
  rw [text_fillFrom]
  cases f.variableName <;> exact Option.or_none

/-- Two sources that are asked one after the other act as the first with the second for what it
does not have. -/
theorem fillFrom_fillFrom (p : Profile) (a b : Environment) :
    (p.fillFrom a).fillFrom b = p.fillFrom (a.orElse b) := by
  refine Profile.ext (fun f => ?_) rfl
  rw [text_fillFrom, text_fillFrom, text_fillFrom, Option.or_assoc]
  cases f.variableName with
  | none => rfl
  | some name => simp only [Option.bind_some, Environment.lookup_orElse]

theorem fillFrom_self (p : Profile) (e : Environment) :
    (p.fillFrom e).fillFrom e = p.fillFrom e := by
  rw [fillFrom_fillFrom]
  apply fillFrom_congr
  intro f name _ _
  rw [Environment.lookup_orElse, Option.or_self]

theorem set_fillFrom (p : Profile) (c : Change) (e : Environment) :
    (p.set c).fillFrom e = (p.fillFrom e).set c := by
  cases c with
  | keepBlank b => rfl
  | text f s =>
    refine Profile.ext (fun g => ?_) rfl
    rw [text_fillFrom, text_set_text, text_set_text, text_fillFrom]
    split <;> rfl

/-! ### Settings and fillings in a row -/

/-- One step in the making of a profile. -/
inductive Step where
  | set (c : Change)
  | fill (e : Environment)

def step (p : Profile) : Step → Profile
  | .set c => p.set c
  | .fill e => p.fillFrom e

def after (p : Profile) (steps : List Step) : Profile :=
  steps.foldl step p

def setAll (p : Profile) (changes : List Change) : Profile :=
  changes.foldl set p

/-- The settings among the steps, from first to last. -/
def changes : List Step → List Change
  | [] => []
  | .set c :: steps => c :: changes steps
  | .fill _ :: steps => changes steps

/-- The sources that are asked by the steps, from first to last. -/
def sources : List Step → List Environment
  | [] => []
  | .set _ :: steps => sources steps
  | .fill e :: steps => e :: sources steps

/-- One source for several: the first of them that has a variable provides it. -/
def merged (es : List Environment) : Environment :=
  es.foldr Environment.orElse Environment.none

theorem lookup_merged (es : List Environment) (name : String) :
    (merged es).lookup name = es.findSome? fun e => e.lookup name := by
  induction es with
  | nil => rfl
  | cons e es ih =>
    show (e.orElse (merged es)).lookup name = _
    rw [Environment.lookup_orElse, ih, List.findSome?_cons]
    cases e.lookup name <;> rfl

/-- Settings and fillings in any order make the profile that one filling makes, with the settings
made afterwards. -/
theorem after_eq (p : Profile) (steps : List Step) :
    p.after steps = (p.fillFrom (merged (sources steps))).setAll (changes steps) := by
  -- a setting moves behind the filling of the later steps, a filling becomes its first source
  induction steps generalizing p with
  | nil => exact (fillFrom_none p).symm
  | cons s steps ih =>
    cases s with
    | set c =>
      calc (p.set c).after steps
        _ = ((p.set c).fillFrom (merged (sources steps))).setAll (changes steps) := ih _
        _ = ((p.fillFrom (merged (sources steps))).set c).setAll (changes steps) := by
          rw [set_fillFrom]
    | fill e =>
      calc (p.fillFrom e).after steps
        _ = ((p.fillFrom e).fillFrom (merged (sources steps))).setAll (changes steps) := ih _
        _ = (p.fillFrom (e.orElse (merged (sources steps)))).setAll (changes steps) := by
          rw [fillFrom_fillFrom]

/-- The text that a change gives to a field, if it is a change of that field. -/
def Change.textFor (f : Field) : Change → Option String
  | .text g s => if g = f then some s else none
  | .keepBlank _ => none

theorem text_set (p : Profile) (c : Change) (f : Field) :
    (p.set c).text f = (c.textFor f).or (p.text f) := by
  cases c with
  | keepBlank b => rfl
  | text g s =>
    rw [text_set_text, Change.textFor]
    by_cases hg : f = g
    · rw [if_pos hg, if_pos hg.symm]
      rfl
    · rw [if_neg hg, if_neg (Ne.symm hg)]
      rfl

theorem text_setAll (p : Profile) (cs : List Change) (f : Field) :
    (p.setAll cs).text f = (cs.filterMap (Change.textFor f)).getLast?.or (p.text f) := by
  induction cs generalizing p with
  | nil => rfl
  | cons c cs ih =>
    show ((p.set c).setAll cs).text f = _
    rw [ih, text_set]
    cases hc : c.textFor f with
    | none => rw [List.filterMap_cons_none hc, Option.none_or]
    | some s =>
      rw [List.filterMap_cons_some hc, List.getLast?_cons]
      cases (cs.filterMap (Change.textFor f)).getLast? <;> rfl

/-- In the end a field holds its last setting; without one, what it held before; and if it was
unset, the value of its variable in the first source that has it. -/
theorem text_after (p : Profile) (steps : List Step) (f : Field) :
    (p.after steps).text f =
      ((changes steps).filterMap (Change.textFor f)).getLast?.or
        ((p.text f).or
          (f.variableName.bind fun name => (sources steps).findSome? fun e => e.lookup name)) := by
  rw [after_eq, text_setAll, text_fillFrom]
  cases f.variableName with
  | none => rfl
  | some name => rw [Option.bind_some, Option.bind_some, lookup_merged]

/-! ### All together -/

/-- Filling a profile keeps each field that is set, blank or not, gives each unset field the value
of its own variable if there is one, and changes nothing else. Two fillings are one from the merged
source, filling twice from one source is filling once, and a setting may be made before or after. -/
theorem fillFrom_merges (p : Profile) (a b : Environment) :
    (∀ f s, p.text f = some s → (p.fillFrom a).text f = some s) ∧
    (∀ f name, (f, name) ∈ supplied → p.text f = none →
      (p.fillFrom a).text f = a.lookup name) ∧
    (∀ f, (∀ name, (f, name) ∉ supplied) → (p.fillFrom a).text f = p.text f) ∧
    (p.fillFrom a).keepBlank = p.keepBlank ∧
    (p.fillFrom a).fillFrom b = p.fillFrom (a.orElse b) ∧
    (p.fillFrom a).fillFrom a = p.fillFrom a ∧
    ∀ c, (p.set c).fillFrom a = (p.fillFrom a).set c := by
  refine ⟨?_, ?_, ?_, keepBlank_fillFrom p a, fillFrom_fillFrom p a b, fillFrom_self p a, ?_⟩
  · intro f s hf
    exact text_fillFrom_of_set hf
  · intro f name hname hf
    exact text_fillFrom_of_unset hname hf
  · intro f hf
    exact text_fillFrom_of_not_supplied hf
  · intro c
    exact set_fillFrom p c a

/-- A profile that is set in part, its consumer key to the empty text. -/
def partlySet : Profile where
  text
    | .consumerKey => some ""
    | _ => none

/-- A source in which the access token is empty. -/
def emptyToken : Environment :=
  .ofTable (Table.ofList [("OAUTH_CONSUMER_KEY", "k"), ("OAUTH_ACCESS_TOKEN", "")])

def otherToken : Environment :=
  .ofTable (Table.ofList [("OAUTH_ACCESS_TOKEN", "t"), ("OAUTH_CONSUMER_SECRET", "s")])

/-- The empty consumer key is kept. So is the empty access token of the first source when the second
is asked, which then provides the consumer secret. -/
theorem fillFrom_merges_empty :
    (partlySet.fillFrom emptyToken).text .consumerKey = some "" ∧
      ((partlySet.fillFrom emptyToken).fillFrom otherToken).text .accessToken = some "" ∧
      (partlySet.fillFrom (emptyToken.orElse otherToken)).text .consumerSecret = some "s" ∧
      (partlySet.fillFrom emptyToken).text .nonce = none := by
  obtain ⟨hset, hunset, hother, -, htwice, -, -⟩ := fillFrom_merges partlySet emptyToken otherToken
  obtain ⟨hset', hunset', -⟩ := fillFrom_merges (partlySet.fillFrom emptyToken) otherToken .none
  have htoken : (partlySet.fillFrom emptyToken).text .accessToken = some "" := by
    rw [hunset .accessToken "OAUTH_ACCESS_TOKEN" (by simp [supplied]) rfl]
    decide
  have hsecret : (partlySet.fillFrom emptyToken).text .consumerSecret = none := by
    rw [hunset .consumerSecret "OAUTH_CONSUMER_SECRET" (by simp [supplied]) rfl]
    decide
  refine ⟨hset .consumerKey "" rfl, hset' .accessToken "" htoken, ?_,
    hother .nonce (by simp [supplied])⟩
  rw [← htwice, hunset' .consumerSecret "OAUTH_CONSUMER_SECRET" (by simp [supplied]) hsecret]
  decide

end RequestSigning.Profile
