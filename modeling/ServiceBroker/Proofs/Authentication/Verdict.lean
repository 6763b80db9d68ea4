import ServiceBroker.Authentication.Basic
import ServiceBroker.Proofs.Program.Runs
import ServiceBroker.Proofs.Text.Ascii

/-!
# Verdicts on callers

The scheme of a header is cut off by a number of bytes. That would fail within a character of
several bytes, but a header is only looked at if it holds nothing but visible ASCII, so every caller
is either admitted or refused.

## Main definitions

* `Policy.verdict`: the verdict on a caller, for a way to validate tokens

## Main results

* `Header.afterScheme_ne_uncuttable`: a text in ASCII can be cut anywhere
* `Policy.ne_crashed_of_run`: every caller is admitted or refused
-/

namespace ServiceBroker

open Program

namespace Header

variable {cs value : List Char}

/-- A text in ASCII is cut after as many characters as bytes. -/
theorem splitBytes?_of_ascii {n : Nat} (hcs : ∀ c ∈ cs, c.toNat < 128)
    (hn : n ≤ cs.length) : splitBytes? n cs = some (cs.take n, cs.drop n) := by
  induction cs generalizing n with
  | nil =>
    obtain rfl : n = 0 := Nat.le_zero.mp hn
    rfl
  | cons c cs ih =>
    cases n with
    | zero => rfl
    | succ n =>
      have hsize : c.utf8Size = 1 :=
        Char.utf8Size_eq_one_iff.mpr (Nat.le_of_lt_succ (hcs c List.mem_cons_self))
      rw [splitBytes?, if_neg n.succ_ne_zero, hsize, if_pos (Nat.le_add_left 1 n),
        Nat.add_sub_cancel, ih (fun d hd => hcs d (List.mem_cons_of_mem c hd))
          (Nat.le_of_succ_le_succ hn)]
      rfl

theorem toNat_ofNat_lt : ∀ code < 128, (Char.ofNat code).toNat < 128 := by decide

/-- What is looked at of a header is in ASCII. -/
theorem ascii_of_visible? {bytes : List UInt8} (h : visible? bytes = some value) :
    ∀ c ∈ value, c.toNat < 128 := by
  unfold visible? at h
  split at h
  · next hvisible =>
    cases h
    intro c hc
    obtain ⟨b, hb, rfl⟩ := List.mem_map.mp hc
    have hlt : b.toNat < 128 := by
      have hb' := List.all_eq_true.mp hvisible b hb
      simp only [isVisible, Bool.or_eq_true, Bool.and_eq_true, beq_iff_eq, decide_eq_true_eq,
        UInt8.lt_iff_toNat_lt] at hb'
      rcases hb' with rfl | ⟨-, hlt⟩
      · decide
      · exact Nat.lt_trans hlt (by decide)
    exact toNat_ofNat_lt b.toNat hlt
  · cases h

/-- The scheme of a header in ASCII can be cut off. -/
theorem afterScheme_ne_uncuttable {scheme : List Char} (hvalue : ∀ c ∈ value, c.toNat < 128) :
    afterScheme scheme value ≠ .uncuttable := by
  unfold afterScheme
  rw [Utf8.encode_of_ascii hvalue, List.length_map]
  split
  · exact nofun
  · next hlen =>
    rw [splitBytes?_of_ascii hvalue (Nat.not_lt.mp hlen)]
    dsimp only
    split <;> exact nofun

theorem bearer_ne_uncuttable (hvalue : ∀ c ∈ value, c.toNat < 128) :
    bearer value ≠ .uncuttable := by
  have hscheme : afterScheme "bearer ".toList value ≠ .uncuttable :=
    afterScheme_ne_uncuttable hvalue
  unfold bearer
  split
  · exact nofun
  · exact hscheme

theorem basic_ne_uncuttable (hvalue : ∀ c ∈ value, c.toNat < 128) : basic value ≠ .uncuttable := by
  have hscheme : afterScheme "basic ".toList value ≠ .uncuttable :=
    afterScheme_ne_uncuttable hvalue
  unfold basic
  split
  · exact nofun
  · next h => exact absurd h hscheme
  · split <;> exact nofun

end Header

namespace Policy

variable {policy : Policy} {header : Option (List Char)} {trace : List (Event effects)}

/-- The verdict on the caller of a request with the given authorization header, if tokens are
validated in the given way. -/
def verdict (policy : Policy) (validate : String → Except Failure String)
    (header : Option (List Char)) : Verdict :=
  let answer (v : effects.Request) : Id (effects.Reply v) := validate v.token
  (policy.authenticate header).runIn answer

/-- A header that may be missing can be cut if it is in ASCII. -/
theorem lookFor_ne_uncuttable {α : Type} {read : List Char → Header.Found α}
    (hread : ∀ value ∈ header, read value ≠ .uncuttable) : lookFor read header ≠ .uncuttable := by
  cases header with
  | none => exact nofun
  | some value => exact hread value rfl

/-- Every caller is admitted or refused. -/
theorem ne_crashed_of_run (hheader : ∀ value ∈ header, ∀ c ∈ value, c.toNat < 128) {v : Verdict}
    (h : Run (policy.authenticate header) trace v) : v ≠ .crashed := by
  cases policy with
  | anyone =>
    obtain ⟨-, rfl⟩ := run_done_iff.mp h
    exact nofun
  | basic username password =>
    have hfound : lookFor Header.basic header ≠ .uncuttable :=
      lookFor_ne_uncuttable fun value hvalue => Header.basic_ne_uncuttable (hheader value hvalue)
    dsimp only [authenticate] at h
    split at h
    · next hcut => exact absurd hcut hfound
    · obtain ⟨-, rfl⟩ := run_done_iff.mp h
      exact nofun
    · split at h <;> obtain ⟨-, rfl⟩ := run_done_iff.mp h <;> exact nofun
  | token =>
    have hfound : lookFor Header.bearer header ≠ .uncuttable :=
      lookFor_ne_uncuttable fun value hvalue => Header.bearer_ne_uncuttable (hheader value hvalue)
    dsimp only [authenticate] at h
    split at h
    · next hcut => exact absurd hcut hfound
    · obtain ⟨-, rfl⟩ := run_done_iff.mp h
      exact nofun
    · obtain ⟨reply, rest, -, h⟩ := run_ask_iff.mp h
      cases reply <;> obtain ⟨-, rfl⟩ := run_done_iff.mp h <;> exact nofun

end Policy

end ServiceBroker
