import ServiceBroker.Proofs.Authentication.Credentials

/-!
# Bearer tokens

A text can be cut at a byte offset only between two characters. In ASCII that is at every offset, so
a header in ASCII can be cut where its scheme ends, and what a bearer header carries is a token
without white space at its ends. Only the token policy has anything validated, and no more than the
token that the header carries.

## Main definitions

* `Text.IsTrimmed`: a text without white space at its two ends
* `Header.Bears`: a header carries a token

## Main results

* `Header.splitBytes?_eq_some_iff`: where a text can be cut
* `Header.bearer_eq_found_iff`: what is found in a bearer header
* `Policy.exists_run_verdict`: the verdict on a caller is reached
* `Policy.guarded_authenticate`: what is validated for a caller
-/

namespace ServiceBroker

open Program

/-! ### Trimmed texts -/

namespace Text

variable {cs ds : List Char}

/-- The text neither begins nor ends with white space. -/
def IsTrimmed (cs : List Char) : Prop :=
  (∀ c ∈ cs.head?, ¬ isBlank c) ∧ ∀ c ∈ cs.getLast?, ¬ isBlank c

/-- What is left of a text does not begin with white space. -/
theorem not_isBlank_head?_dropWhile (cs : List Char) :
    ∀ c ∈ (cs.dropWhile isBlank).head?, ¬ isBlank c := by
  intro c hc
  have hnot := List.head?_dropWhile_not isBlank cs
  rw [Option.mem_def.mp hc] at hnot
  exact Bool.eq_false_iff.mp hnot

/-- What is left of a text once the white space at its end is gone is the front of it. -/
theorem trimEnd_prefix (cs : List Char) : trimEnd cs <+: cs := by
  rw [trimEnd, ← List.reverse_suffix, List.reverse_reverse]
  exact List.dropWhile_suffix isBlank

theorem isTrimmed_trim (cs : List Char) : IsTrimmed (trim cs) := by
  constructor
  · intro c hc
    -- Trimming the end leaves the first character where it is, if any is left at all.
    obtain ⟨rest, hrest⟩ := trimEnd_prefix (cs.dropWhile isBlank)
    apply not_isBlank_head?_dropWhile cs c
    rw [← hrest, List.head?_append]
    change c ∈ (trim cs).head?.or _
    rw [Option.mem_def.mp hc]
    rfl
  · intro c hc
    rw [trim, trimEnd, List.getLast?_reverse] at hc
    exact not_isBlank_head?_dropWhile _ c hc

end Text

namespace Header

variable {cs front back value token : List Char}

/-! ### Cutting a text -/

/-- A text can be cut at a byte offset exactly if one of its fronts has so many bytes. -/
theorem splitBytes?_eq_some_iff {n : Nat} : splitBytes? n cs = some (front, back) ↔
    cs = front ++ back ∧ (Utf8.encode front).length = n := by
  induction cs generalizing n front with
  | nil =>
    rw [splitBytes?]
    constructor
    · intro h
      split at h
      · next hn =>
        cases h
        exact ⟨rfl, hn.symm⟩
      · cases h
    · rintro ⟨hparts, rfl⟩
      obtain ⟨rfl, rfl⟩ := List.append_eq_nil_iff.mp hparts.symm
      rfl
  | cons c cs ih =>
    rw [splitBytes?]
    have hsize : 0 < c.utf8Size := Char.utf8Size_pos c
    constructor
    · intro h
      split at h
      · next hn =>
        cases h
        exact ⟨rfl, hn.symm⟩
      · split at h
        · next hle =>
          obtain ⟨⟨front', back'⟩, hsplit, heq⟩ := Option.map_eq_some_iff.mp h
          cases heq
          obtain ⟨rfl, hlength⟩ := ih.mp hsplit
          refine ⟨rfl, ?_⟩
          rw [Utf8.encode_cons, List.length_append, String.length_utf8EncodeChar, hlength]
          exact Nat.add_sub_cancel' hle
        · cases h
    · rintro ⟨hparts, rfl⟩
      cases front with
      | nil =>
        obtain rfl : c :: cs = back := hparts
        rfl
      | cons d front =>
        obtain ⟨rfl, rfl⟩ := List.cons.inj hparts
        rw [Utf8.encode_cons, List.length_append, String.length_utf8EncodeChar,
          if_neg (by omega), if_pos (Nat.le_add_right ..), Nat.add_sub_cancel_left,
          ih.mpr ⟨rfl, rfl⟩]
        rfl

/-- A text in ASCII can be cut at every offset within it. -/
theorem exists_splitBytes?_of_ascii (hvalue : ∀ c ∈ value, c.toNat < 128) {n : Nat}
    (hn : n ≤ (Utf8.encode value).length) : ∃ front back, value = front ++ back ∧
      (Utf8.encode front).length = n ∧ splitBytes? n value = some (front, back) := by
  rw [Utf8.encode_of_ascii hvalue, List.length_map] at hn
  have hsplit := splitBytes?_of_ascii hvalue hn
  obtain ⟨hparts, hlength⟩ := splitBytes?_eq_some_iff.mp hsplit
  exact ⟨_, _, hparts, hlength, hsplit⟩

/-- Within a character of several bytes a text cannot be cut. -/
example : bearer "Bearer\u00E9".toList = .uncuttable := by decide

/-! ### Tokens -/

/-- The header carries a token: what follows its scheme, in any letter case, and is more than white
space. -/
def Bears (value token : List Char) : Prop :=
  ∃ front rest, value = front ++ rest ∧ front.map Char.toLower = "bearer ".toList ∧
    Text.trim rest = token ∧ token ≠ []

/-- What is found in a header in ASCII is the token that it carries. -/
theorem bearer_eq_found_iff (hvalue : ∀ c ∈ value, c.toNat < 128) :
    bearer value = .found token ↔ Bears value token := by
  have hfound : bearer value = .found token ↔
      afterScheme "bearer ".toList value = .found token ∧ token ≠ [] := by
    unfold bearer
    constructor
    · intro h
      split at h
      · cases h
      · next hsome => exact ⟨h, fun hnil => hsome (hnil ▸ h)⟩
    · rintro ⟨h, hne⟩
      rw [h]
      split
      · next hnil =>
        cases hnil
        exact absurd rfl hne
      · rfl
  rw [hfound, afterScheme_eq_found_iff hvalue]
  constructor
  · rintro ⟨⟨front, rest, hparts, hscheme, htoken⟩, hne⟩
    exact ⟨front, rest, hparts, hscheme, htoken, hne⟩
  · rintro ⟨front, rest, hparts, hscheme, htoken, hne⟩
    exact ⟨⟨front, rest, hparts, hscheme, htoken⟩, hne⟩

theorem Bears.isTrimmed (h : Bears value token) : Text.IsTrimmed token := by
  obtain ⟨front, rest, -, -, rfl, -⟩ := h
  exact Text.isTrimmed_trim rest

theorem Bears.ne_nil (h : Bears value token) : token ≠ [] := by
  obtain ⟨-, -, -, -, -, hne⟩ := h
  exact hne

end Header

namespace Policy

variable {policy : Policy} {header : Option (List Char)} {trace : List (Event effects)}

/-- The verdict on a caller is one that authentication comes to. -/
theorem exists_run_verdict (policy : Policy) (validate : String → Except Failure String)
    (header : Option (List Char)) :
    ∃ trace, Run (policy.authenticate header) trace (policy.verdict validate header) := by
  unfold verdict
  generalize policy.authenticate header = p
  induction p with
  | done v => exact ⟨[], .done v⟩
  | ask request k ih =>
    obtain ⟨trace, hrun⟩ := ih (validate request.token)
    exact ⟨_, .ask request k _ hrun⟩

/-- Only the token policy has anything validated: the token in the header, and that before anything
else. -/
theorem guarded_authenticate (hheader : ∀ value ∈ header, ∀ c ∈ value, c.toNat < 128) :
    Guarded (E := effects) (fun past v => past = [] ∧ policy = .token ∧
      ∃ value ∈ header, Header.Bears value v.token.toList) [] (policy.authenticate header) := by
  cases policy with
  | anyone => trivial
  | basic username password =>
    dsimp only [authenticate]
    split
    · trivial
    · trivial
    · split <;> trivial
  | token =>
    dsimp only [authenticate]
    split
    · trivial
    · trivial
    · next word hword =>
      refine ⟨⟨rfl, rfl, ?_⟩, fun reply => ?_⟩
      · cases header with
        | none => cases hword
        | some value =>
          refine ⟨value, rfl, ?_⟩
          rw [String.toList_ofList]
          exact (Header.bearer_eq_found_iff (hheader value rfl)).mp hword
      · -- Once the token has been judged, the verdict is there.
        cases reply with
        | ok caller => trivial
        | error failure => trivial

end Policy

end ServiceBroker
