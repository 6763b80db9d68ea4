import ServiceBroker.Proofs.Text.Ascii
import ServiceBroker.Proofs.Text.Split
import ServiceBroker.Url.Address

/-!
# The characters of IPv6 literals

A literal of an IPv6 address is made of hexadecimal digits, colons and points, whether it is read or
written. So it holds none of the delimiters of a URL but the colon, for which brackets are put
around it.

## Main results

* `Ipv6.isLiteralChar_of_parse?`: the characters of a literal that is read
* `Ipv6.isLiteralChar_of_mem_write`: the characters of a literal that is written
-/

namespace ServiceBroker

theorem isSome_of_mapM {α β : Type} {f : α → Option β} {as : List α} {bs : List β}
    (h : as.mapM f = some bs) : ∀ a ∈ as, (f a).isSome := by
  induction as generalizing bs with
  | nil => exact nofun
  | cons a as ih =>
    simp only [List.mapM_cons, Option.bind_eq_bind, Option.bind_eq_some_iff] at h
    obtain ⟨b, hb, bs', hbs, -⟩ := h
    intro a' ha'
    rcases List.mem_cons.mp ha' with rfl | ha'
    · rw [hb]
      rfl
    · exact ih hbs a' ha'

namespace Ipv6

/-- The character may stand in a literal. -/
def IsLiteralChar (c : Char) : Prop := (Hex.ofChar? c).isSome ∨ c = ':' ∨ c = '.'

instance (c : Char) : Decidable (IsLiteralChar c) := inferInstanceAs (Decidable (_ ∨ _))

theorem isSome_ofChar?_of_isDecimalDigit {c : Char} (h : isDecimalDigit c) :
    (Hex.ofChar? c).isSome := by
  unfold isDecimalDigit at h
  simp only [Bool.and_eq_true, decide_eq_true_eq] at h
  have hlow : 48 ≤ c.toNat := h.1
  have hhigh : c.toNat ≤ 57 := h.2
  have hascii : c.toNat < 128 := by omega
  rw [Hex.ofChar?, if_pos hascii, Hex.value?, Utf8.toNat_toUInt8 hascii, if_pos ⟨hlow, hhigh⟩]
  rfl

theorem isLiteralChar_of_piece? {cs : List Char} {p : UInt16} (h : piece? cs = some p) :
    ∀ c ∈ cs, IsLiteralChar c := by
  unfold piece? at h
  split at h
  · cases h
  · obtain ⟨digits, hdigits, -⟩ := Option.bind_eq_some_iff.mp h
    exact fun c hc => .inl (isSome_of_mapM hdigits c hc)

theorem isDecimalDigit_of_quad? {cs : List Char} {n : Nat} (h : quad? cs = some n) :
    ∀ c ∈ cs, isDecimalDigit c := by
  unfold quad? at h
  split at h
  · cases h
  · next hcs =>
    simp only [Bool.or_eq_true, not_or] at hcs
    simpa using hcs.2

theorem isDecimalDigit_of_dotted? {cs : List Char} {ps : List UInt16} (h : dotted? cs = some ps) :
    ∀ c ∈ cs, isDecimalDigit c ∨ c = '.' := by
  intro c hc
  obtain ⟨numbers, hnumbers, -⟩ := Option.bind_eq_some_iff.mp h
  -- A character of the text is a separator or stands in one of the parts.
  rcases mem_splitAt (p := (· == '.')) hc with hpoint | ⟨part, hpart, hmem⟩
  · exact .inr (by simpa using hpoint)
  · obtain ⟨n, hn⟩ := Option.isSome_iff_exists.mp (isSome_of_mapM hnumbers part hpart)
    exact .inl (isDecimalDigit_of_quad? hn c hmem)

theorem isLiteralChar_of_dotted? {cs : List Char} {ps : List UInt16} (h : dotted? cs = some ps) :
    ∀ c ∈ cs, IsLiteralChar c := fun c hc =>
  (isDecimalDigit_of_dotted? h c hc).imp isSome_ofChar?_of_isDecimalDigit .inr

theorem isLiteralChar_of_pieces? {quad : Bool} {parts : List (List Char)} {ps : List UInt16}
    (h : pieces? quad parts = some ps) : ∀ part ∈ parts, ∀ c ∈ part, IsLiteralChar c := by
  fun_induction pieces? quad parts generalizing ps with
  | case1 => exact nofun
  | case2 last p hp =>
    intro part hpart
    obtain rfl := List.mem_singleton.mp hpart
    exact isLiteralChar_of_piece? hp
  | case3 last hp hquad =>
    intro part hpart
    obtain rfl := List.mem_singleton.mp hpart
    exact isLiteralChar_of_dotted? h
  | case4 => cases h
  | case5 cs rest hrest ih =>
    obtain ⟨p, hp, h⟩ := Option.bind_eq_some_iff.mp h
    obtain ⟨ps', hps, -⟩ := Option.bind_eq_some_iff.mp h
    intro part hpart
    rcases List.mem_cons.mp hpart with rfl | hpart
    · exact isLiteralChar_of_piece? hp
    · exact ih hps part hpart

theorem isLiteralChar_of_side? {quad : Bool} {cs : List Char} {ps : List UInt16}
    (h : side? quad cs = some ps) : ∀ c ∈ cs, IsLiteralChar c := by
  intro c hc
  unfold side? at h
  split at h
  · next hempty => simp [List.isEmpty_iff.mp hempty] at hc
  · rcases mem_splitAt (p := (· == ':')) hc with hcolon | ⟨part, hpart, hmem⟩
    · exact .inr (.inl (by simpa using hcolon))
    · exact isLiteralChar_of_pieces? h part hpart c hmem

theorem eq_append_of_splitGap? {cs head tail : List Char} (h : splitGap? cs = some (head, tail)) :
    cs = head ++ ':' :: ':' :: tail := by
  fun_induction splitGap? cs generalizing head tail with
  | case1 => cases h
  | case2 rest =>
    obtain ⟨rfl, rfl⟩ := Prod.mk.inj (Option.some.inj h)
    rfl
  | case3 c rest hgap ih =>
    obtain ⟨⟨head', tail'⟩, hrest, heq⟩ := Option.map_eq_some_iff.mp h
    obtain ⟨rfl, rfl⟩ := Prod.mk.inj heq
    rw [ih hrest, List.cons_append]

/-- Every character of a literal that is read may stand in one. -/
theorem isLiteralChar_of_parse? {cs : List Char} {a : Ipv6} (h : parse? cs = some a) :
    ∀ c ∈ cs, IsLiteralChar c := by
  unfold parse? at h
  split at h
  · obtain ⟨all, hall, -⟩ := Option.bind_eq_some_iff.mp h
    exact isLiteralChar_of_side? hall
  · next head tail hgap =>
    obtain ⟨front, hfront, h⟩ := Option.bind_eq_some_iff.mp h
    obtain ⟨back, hback, -⟩ := Option.bind_eq_some_iff.mp h
    rw [eq_append_of_splitGap? hgap]
    intro c hc
    simp only [List.mem_append, List.mem_cons] at hc
    rcases hc with hc | rfl | rfl | hc
    · exact isLiteralChar_of_side? hfront c hc
    · exact .inr (.inl rfl)
    · exact .inr (.inl rfl)
    · exact isLiteralChar_of_side? hback c hc

/-! ### Literals that are written -/

theorem ofChar?_digitChar : ∀ n < 16, Hex.ofChar? n.digitChar = some n := by decide

/-- The digits of a number are read as what they count, and count that number. -/
theorem exists_mapM_toDigits (n : Nat) : ∃ digits,
    (Nat.toDigits 16 n).mapM Hex.ofChar? = some digits ∧
      digits.foldl (fun n d => 16 * n + d) 0 = n := by
  induction n using Nat.strongRecOn with
  | ind n ih =>
    rw [Nat.toDigits_eq_if (by decide)]
    split
    · next hn => exact ⟨[n], by simp [ofChar?_digitChar n hn], by simp⟩
    · next hn =>
      obtain ⟨digits, hdigits, hcount⟩ := ih (n / 16) (by omega)
      refine ⟨digits ++ [n % 16], ?_, ?_⟩
      · simp [List.mapM_append, hdigits, ofChar?_digitChar (n % 16) (by omega)]
      · rw [List.foldl_append, hcount, List.foldl_cons, List.foldl_nil, Nat.div_add_mod]

theorem isLiteralChar_of_mem_toDigits {n : Nat} {c : Char} (h : c ∈ Nat.toDigits 16 n) :
    IsLiteralChar c := by
  obtain ⟨digits, hdigits, -⟩ := exists_mapM_toDigits n
  exact .inl (isSome_of_mapM hdigits c h)

theorem isLiteralChar_of_mem_join {ps : List UInt16} {c : Char} (h : c ∈ join ps) :
    IsLiteralChar c := by
  fun_induction join ps with
  | case1 => cases h
  | case2 p => exact isLiteralChar_of_mem_toDigits h
  | case3 p rest hrest ih =>
    rcases List.mem_append.mp h with h | h
    · exact isLiteralChar_of_mem_toDigits h
    · rcases List.mem_cons.mp h with rfl | h
      · exact .inr (.inl rfl)
      · exact ih h

/-- Every character of a literal that is written may stand in one. -/
theorem isLiteralChar_of_mem_write {a : Ipv6} {c : Char} (h : c ∈ a.write) : IsLiteralChar c := by
  unfold write at h
  split at h
  split at h
  · simp only [List.mem_append, List.mem_cons] at h
    rcases h with h | rfl | rfl | h
    · exact isLiteralChar_of_mem_join h
    · exact .inr (.inl rfl)
    · exact .inr (.inl rfl)
    · exact isLiteralChar_of_mem_join h
  · exact isLiteralChar_of_mem_join h

end Ipv6

end ServiceBroker
