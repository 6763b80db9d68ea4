import ServiceBroker.Locator
import ServiceBroker.Proofs.Outcome
import ServiceBroker.Proofs.Text.Split
import ServiceBroker.Settings.Basic

/-!
# What a selector selects

A platform reads a label selector as requirements with commas between them, all of which a cluster
has to meet. The ID of an instance is put into its selector as it stands. So an ID that holds a
comma adds requirements of its own, and one that starts with an equals sign is read without it.
Every other ID is what the label of the cluster has to be, if the label key is none that the
platform reads otherwise.

## Main definitions

* `Locator.Requirement`: what a selector can ask of the labels of a cluster
* `Locator.requirements`: how a platform reads a selector
* `Locator.Matches`: a cluster meets all requirements of a selector
* `Locator.IsPlainKey`, `Locator.IsPlainId`: keys and IDs that are read as they stand

## Main results

* `Locator.requirements_selector_eq_iff`: which selectors are one requirement for the instance
* `Locator.selector_addresses_instance_iff`: what the selectors of instances select
-/

namespace ServiceBroker.Locator

/-- What a selector can ask of the labels of a cluster. -/
inductive Requirement where
  /-- The label has the value. -/
  | equals (key value : String)
  /-- The label, if there is one, does not have the value. -/
  | differs (key value : String)
  /-- There is such a label. -/
  | present (key : String)
  deriving DecidableEq, Repr

/-- What the requirement asks of some labels. -/
def Requirement.Holds (labels : String → Option String) : Requirement → Prop
  | equals key value => labels key = some value
  | differs key value => labels key ≠ some value
  | present key => labels key ≠ none

/-- The value after an equals sign, which may be doubled. -/
def afterSign : List Char → List Char
  | '=' :: value => value
  | value => value

/-- A requirement as a platform reads it: `key=value`, `key==value`, `key!=value` or `key`. -/
def Requirement.read (cs : List Char) : Requirement :=
  match cs.dropWhile (· ≠ '=') with
  | [] => .present (String.ofList cs)
  | _ :: value =>
    let key := cs.takeWhile (· ≠ '=')
    if key.getLast? = some '!' then
      .differs (String.ofList key.dropLast) (String.ofList value)
    else .equals (String.ofList key) (String.ofList (afterSign value))

/-- The requirements of a selector. -/
def requirements (selector : String) : List Requirement :=
  (splitAt (· == ',') selector.toList).map .read

/-- Labels meet all requirements of a selector. -/
def Matches (labels : String → Option String) (selector : String) : Prop :=
  ∀ r ∈ requirements selector, r.Holds labels

/-- A platform does not read the key as anything else. -/
def IsPlainKey (key : String) : Prop := ',' ∉ key.toList ∧ key.toList.getLast? ≠ some '!'

/-- A platform does not read the ID as anything but a value. -/
def IsPlainId (id : String) : Prop := ',' ∉ id.toList ∧ id.toList.head? ≠ some '='

instance (key : String) : Decidable (IsPlainKey key) := inferInstanceAs (Decidable (_ ∧ _))

instance (id : String) : Decidable (IsPlainId id) := inferInstanceAs (Decidable (_ ∧ _))

variable {key id id' : String} {labels : String → Option String} {value : List Char}

/-! ### Reading a requirement -/

/-- Nothing is dropped from a value that does not start with an equals sign. -/
theorem afterSign_eq_self_iff : afterSign value = value ↔ value.head? ≠ some '=' := by
  cases value with
  | nil => exact iff_of_true rfl nofun
  | cons c cs =>
    by_cases hc : c = '='
    · subst hc
      exact iff_of_false (List.cons_ne_self '=' cs).symm (not_not_intro rfl)
    · exact iff_of_true (afterSign.eq_2 _ fun cs' h => hc (List.cons.inj h).1)
        fun h => hc (Option.some.inj h)

/-- A key without an equals sign ends at the first one. -/
theorem read_append_sign (hkey : '=' ∉ key.toList) :
    Requirement.read (key.toList ++ '=' :: value) =
      if key.toList.getLast? = some '!' then
        .differs (String.ofList key.toList.dropLast) (String.ofList value)
      else .equals key (String.ofList (afterSign value)) := by
  obtain ⟨hfront, b, hback⟩ := takeWhile_dropWhile_iff.mpr
    ⟨hkey, (rfl : key.toList ++ '=' :: value = _)⟩
  rw [Requirement.read, hback]
  dsimp only
  rw [hfront, String.ofList_toList]

/-! ### Reading a selector -/

/-- The requirements before and after a comma are those of a selector. -/
theorem requirements_append_comma (front back : String) :
    requirements (front ++ "," ++ back) = requirements front ++ requirements back := by
  have htext : (front ++ "," ++ back).toList = front.toList ++ ',' :: back.toList := by simp
  rw [requirements, htext, splitAt_append_cons rfl, List.map_append]
  rfl

theorem requirements_ne_nil (selector : String) : requirements selector ≠ [] := by
  rw [requirements, Ne, List.map_eq_nil_iff]
  exact splitAt_ne_nil _ _

theorem matches_append_comma_iff (front back : String) :
    Matches labels (front ++ "," ++ back) ↔ Matches labels front ∧ Matches labels back := by
  unfold Matches
  rw [requirements_append_comma]
  exact List.forall_mem_append

theorem toList_selector (key id : String) :
    (selector key id).toList = key.toList ++ '=' :: id.toList := by
  simp [selector]

/-- Without commas a selector is one requirement. -/
theorem requirements_selector (hsign : '=' ∉ key.toList) (hkey : ',' ∉ key.toList)
    (hid : ',' ∉ id.toList) : requirements (selector key id) = [
      if key.toList.getLast? = some '!' then .differs (String.ofList key.toList.dropLast) id
      else .equals key (String.ofList (afterSign id.toList))] := by
  have hcomma : ∀ c ∈ (selector key id).toList, ¬ (c == ',') = true := by
    rw [toList_selector]
    intro c hc hcomma
    obtain rfl := beq_iff_eq.mp hcomma
    rcases List.mem_append.mp hc with hc | hc
    · exact hkey hc
    · exact hid ((List.mem_cons.mp hc).resolve_left (by decide))
  rw [requirements, splitAt_of_forall_not hcomma, toList_selector, List.map_singleton,
    read_append_sign hsign, String.ofList_toList]

/-- A selector with a comma is more than one requirement. -/
theorem requirements_ne_singleton {selector : String} (h : ',' ∈ selector.toList)
    (r : Requirement) : requirements selector ≠ [r] := by
  obtain ⟨front, back, htext, -⟩ := List.eq_append_cons_of_mem h
  have hparts : selector = String.ofList front ++ "," ++ String.ofList back := by
    rw [← String.toList_inj, htext]
    simp
  intro hone
  rw [hparts, requirements_append_comma] at hone
  have hlength := congrArg List.length hone
  have hfront := List.length_pos_iff.mpr (requirements_ne_nil (String.ofList front))
  have hback := List.length_pos_iff.mpr (requirements_ne_nil (String.ofList back))
  rw [List.length_append, List.length_singleton] at hlength
  omega

/-- A selector is the one requirement that the label is the ID exactly if key and ID are plain. -/
theorem requirements_selector_eq_iff (hsign : '=' ∉ key.toList) :
    requirements (selector key id) = [.equals key id] ↔ IsPlainKey key ∧ IsPlainId id := by
  constructor
  · intro h
    have hcomma : ',' ∉ (selector key id).toList := fun hmem => requirements_ne_singleton hmem _ h
    rw [toList_selector, List.mem_append, not_or, List.mem_cons, not_or] at hcomma
    obtain ⟨hkey, -, hid⟩ := hcomma
    rw [requirements_selector hsign hkey hid, List.singleton_inj] at h
    split at h
    · cases h
    · next hlast =>
      refine ⟨⟨hkey, hlast⟩, hid, afterSign_eq_self_iff.mp ?_⟩
      have hvalue := (Requirement.equals.inj h).2
      rw [← String.toList_inj, String.toList_ofList] at hvalue
      exact hvalue
  · rintro ⟨⟨hkey, hlast⟩, hid, hfirst⟩
    rw [requirements_selector hsign hkey hid, if_neg hlast, afterSign_eq_self_iff.mpr hfirst,
      String.ofList_toList]

/-! ### What is selected -/

/-- A plain selector selects the clusters whose label is the ID. -/
theorem matches_selector_iff (hsign : '=' ∉ key.toList) (hkey : IsPlainKey key)
    (hid : IsPlainId id) : Matches labels (selector key id) ↔ labels key = some id := by
  unfold Matches
  rw [(requirements_selector_eq_iff hsign).mpr ⟨hkey, hid⟩, List.forall_mem_singleton]
  exact Iff.rfl

/-- An equals sign before an ID is lost. -/
theorem requirements_selector_sign (hsign : '=' ∉ key.toList) (hkey : IsPlainKey key)
    (hid : IsPlainId id) : requirements (selector key ("=" ++ id)) = [.equals key id] := by
  have htext : ("=" ++ id).toList = '=' :: id.toList := by simp
  have hcomma : ',' ∉ ("=" ++ id).toList := by
    rw [htext, List.mem_cons, not_or]
    exact ⟨by decide, hid.1⟩
  rw [requirements_selector hsign hkey.1 hcomma, if_neg hkey.2, htext, afterSign,
    String.ofList_toList]

/-- A label key that is let pass holds no equals sign. -/
theorem not_mem_labelKey_of_validate {r : Settings.Remote}
    (h : (Settings.Executor.remote r).validate = .ok ()) : '=' ∉ r.instanceLabelKey.toList := by
  simp only [Settings.Executor.validate, ite_error_eq_ok_iff, Bool.not_eq_true', Bool.not_eq_false]
    at h
  have hkey : Settings.isLabelKey r.instanceLabelKey := h.2.2.2.1
  simpa [Settings.isLabelKey] using (Bool.and_eq_true_iff.mp hkey).2

/-- For a label key that is let pass, the selector of an instance is the one requirement that the
label is its ID exactly if neither key nor ID is read as anything else. Then it selects the clusters
with that label, and no cluster that the selector of another such instance selects; but what is
selected for an ID with an equals sign before it is the same. What stands after a comma in an ID
counts as requirements of its own. -/
theorem selector_addresses_instance_iff {r : Settings.Remote}
    (h : (Settings.Executor.remote r).validate = .ok ()) (id : String) :
    (requirements (selector r.instanceLabelKey id) = [.equals r.instanceLabelKey id] ↔
      IsPlainKey r.instanceLabelKey ∧ IsPlainId id) ∧
    (IsPlainKey r.instanceLabelKey → IsPlainId id →
      (∀ labels, Matches labels (selector r.instanceLabelKey id) ↔
        labels r.instanceLabelKey = some id) ∧
      (∀ id', IsPlainId id' → id' ≠ id → ∀ labels,
        Matches labels (selector r.instanceLabelKey id) →
          ¬ Matches labels (selector r.instanceLabelKey id')) ∧
      (∀ labels, Matches labels (selector r.instanceLabelKey ("=" ++ id)) ↔
        Matches labels (selector r.instanceLabelKey id))) ∧
    (∀ rest labels, Matches labels (selector r.instanceLabelKey (id ++ "," ++ rest)) ↔
      Matches labels (selector r.instanceLabelKey id) ∧ Matches labels rest) := by
  have hsign := not_mem_labelKey_of_validate h
  refine ⟨requirements_selector_eq_iff hsign, fun hkey hid => ⟨fun labels => ?_, ?_, ?_⟩, ?_⟩
  · exact matches_selector_iff hsign hkey hid
  · intro id' hid' hne labels hmatches hmatches'
    rw [matches_selector_iff hsign hkey hid] at hmatches
    rw [matches_selector_iff hsign hkey hid', hmatches] at hmatches'
    exact hne (Option.some.inj hmatches').symm
  · intro labels
    unfold Matches
    rw [requirements_selector_sign hsign hkey hid,
      (requirements_selector_eq_iff hsign).mpr ⟨hkey, hid⟩]
  · intro rest labels
    have htext : selector r.instanceLabelKey (id ++ "," ++ rest) =
        selector r.instanceLabelKey id ++ "," ++ rest := by
      simp only [selector, String.append_assoc]
    rw [htext, matches_append_comma_iff]

/-- Settings with the label key that is used when no other is set. -/
def trialSettings : Settings.Remote where
  apiserverUrl := "https://apiserver"
  clientVersion := Settings.Remote.standardClientVersion
  username := "pgoadmin"
  password := "examplepassword"
  requestTimeout := Settings.Remote.standardTimeout
  insecureSkipVerify := false
  instanceLabelKey := Settings.Remote.standardLabelKey
  kubeconfig := none

/-- The selector for the instance `=x` is not the requirement that the label is `=x`. It selects the
cluster of the instance `x`, as does the one for the instance `x,pgo-osb-instance`. -/
theorem selector_addresses_another_instance :
    requirements (selector "pgo-osb-instance" "=x") ≠ [.equals "pgo-osb-instance" "=x"] ∧
    ∀ labels, labels "pgo-osb-instance" = some "x" →
      Matches labels (selector "pgo-osb-instance" "x") ∧
      Matches labels (selector "pgo-osb-instance" "=x") ∧
      Matches labels (selector "pgo-osb-instance" "x,pgo-osb-instance") := by
  have hvalid : (Settings.Executor.remote trialSettings).validate = .ok () := by decide
  have hkey : IsPlainKey "pgo-osb-instance" := by decide
  have hid : IsPlainId "x" := by decide
  obtain ⟨-, hplain, hcomma⟩ := selector_addresses_instance_iff hvalid "x"
  obtain ⟨hlabel, -, hsign⟩ := hplain hkey hid
  have hpresent : requirements "pgo-osb-instance" = [.present "pgo-osb-instance"] := by
    decide +kernel
  refine ⟨fun hone => ?_, fun labels hx => ?_⟩
  · exact ((selector_addresses_instance_iff hvalid "=x").1.mp hone).2.2 rfl
  · have hmatches := (hlabel labels).mpr hx
    refine ⟨hmatches, (hsign labels).mpr hmatches,
      (hcomma "pgo-osb-instance" labels).mpr ⟨hmatches, ?_⟩⟩
    rw [Matches, hpresent, List.forall_mem_singleton]
    exact fun hnone => nomatch hx.symm.trans hnone

end ServiceBroker.Locator
