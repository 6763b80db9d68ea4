import Mathlib.Data.List.Basic
import Mathlib.Data.List.TakeWhile
import ServiceBroker.Proofs.Url.Literal

/-!
# Writing IPv6 addresses and reading them back

There are two ways to write an IPv6 address. In both, the first longest run of at least two zeros is
a double colon; in one of them, an IPv4 address that the address stands for is written as four
decimal numbers. Either literal is read as the address that it was written for.

## Main results

* `Ipv6.length_of_parse?`: an address that is read has eight pieces
* `Ipv6.parse?_join`, `Ipv6.parse?_gap`: which pieces are read, without a double colon and with one
* `Ipv6.parse?_write`, `Ipv6.parse?_display`: the literals of an address are read back
-/

namespace ServiceBroker.Ipv6

variable {a : Ipv6} {ps front back : List UInt16} {cs : List Char}

/-! ### Addresses that are read -/

/-- An address that is read has eight pieces. -/
theorem length_of_parse? (h : parse? cs = some a) : a.pieces.length = 8 := by
  unfold parse? at h
  split at h
  · obtain ⟨all, -, h⟩ := Option.bind_eq_some_iff.mp h
    split at h
    · next hlength =>
      obtain rfl := Option.some.inj h
      exact hlength
    · cases h
  · obtain ⟨front, -, h⟩ := Option.bind_eq_some_iff.mp h
    obtain ⟨back, -, h⟩ := Option.bind_eq_some_iff.mp h
    dsimp only at h
    split at h
    · next hlength =>
      obtain rfl := Option.some.inj h
      simp only [List.length_append, List.length_replicate]
      omega
    · cases h

/-! ### Pieces -/

theorem colon_not_mem_toDigits (n : Nat) : ':' ∉ Nat.toDigits 16 n := by
  obtain ⟨digits, hdigits, -⟩ := exists_mapM_toDigits n
  exact fun h => absurd (isSome_of_mapM hdigits ':' h) (by decide)

/-- The digits of a piece are read back. -/
theorem piece?_toDigits (p : UInt16) : piece? (Nat.toDigits 16 p.toNat) = some p := by
  obtain ⟨digits, hdigits, hcount⟩ := exists_mapM_toDigits p.toNat
  have hlength : (Nat.toDigits 16 p.toNat).length ≤ 4 :=
    (Nat.length_toDigits_le_iff (by decide) (by decide)).mpr p.toNat_lt
  rw [piece?, if_neg (by simpa using hlength), hdigits]
  exact congrArg some ((congrArg UInt16.ofNat hcount).trans UInt16.ofNat_toNat)

theorem pieces?_toDigits (quad : Bool) (ps : List UInt16) :
    pieces? quad (ps.map fun p => Nat.toDigits 16 p.toNat) = some ps := by
  match ps with
  | [] => rfl
  | [p] => rw [List.map_singleton, pieces?, piece?_toDigits]
  | p :: q :: ps =>
    have hrest := pieces?_toDigits quad (q :: ps)
    rw [List.map_cons] at hrest ⊢
    rw [List.map_cons, pieces?, piece?_toDigits, hrest]
    · rfl
    · exact nofun

/-! ### Pieces with colons between them -/

theorem join_ne_nil (h : ps ≠ []) : join ps ≠ [] := by
  fun_cases join ps with
  | case1 => exact absurd rfl h
  | case2 p => exact Nat.toDigits_ne_nil
  | case3 p rest hrest => simp

/-- Pieces start with a digit. -/
theorem join_append_ne_cons (h : ps ≠ []) (rest tail : List Char) :
    join ps ++ rest ≠ ':' :: tail := by
  obtain ⟨p, others, rfl⟩ := List.exists_cons_of_ne_nil h
  obtain ⟨c, cs, hcs⟩ := List.exists_cons_of_ne_nil (@Nat.toDigits_ne_nil p.toNat 16)
  have hc : c ≠ ':' := by
    rintro rfl
    exact colon_not_mem_toDigits p.toNat (hcs ▸ List.mem_cons_self)
  intro heq
  cases others with
  | nil =>
    rw [join, hcs] at heq
    exact hc (List.cons.inj heq).1
  | cons q others =>
    rw [join, hcs] at heq
    · exact hc (List.cons.inj heq).1
    · exact nofun

theorem splitAt_join (h : ps ≠ []) :
    splitAt (· == ':') (join ps) = ps.map fun p => Nat.toDigits 16 p.toNat := by
  fun_induction join ps with
  | case1 => exact absurd rfl h
  | case2 p => exact splitAt_of_not_mem (colon_not_mem_toDigits p.toNat)
  | case3 p rest hrest ih =>
    rw [splitAt_append_cons (by decide), splitAt_of_not_mem (colon_not_mem_toDigits p.toNat),
      ih fun hnil => hrest hnil]
    rfl

/-- Pieces with colons between them are read back. -/
theorem side?_join (quad : Bool) (ps : List UInt16) : side? quad (join ps) = some ps := by
  cases ps with
  | nil => rfl
  | cons p ps =>
    have hne : p :: ps ≠ [] := List.cons_ne_nil p ps
    rw [side?, if_neg (by simpa using join_ne_nil hne), splitAt_join hne, pieces?_toDigits]

/-! ### Where the gap is -/

/-- A character that does not start a double colon stands before the gap. -/
theorem splitGap?_cons {c : Char} (h : c = ':' → ∀ rest, cs ≠ ':' :: rest) :
    splitGap? (c :: cs) = (splitGap? cs).map fun (head, tail) => (c :: head, tail) := by
  rw [splitGap?]
  intro rest hc hcs
  exact h hc rest hcs

theorem splitGap?_append (h : ':' ∉ cs) (rest : List Char) :
    splitGap? (cs ++ rest) = (splitGap? rest).map fun (head, tail) => (cs ++ head, tail) := by
  induction cs with
  | nil => simp
  | cons c cs ih =>
    obtain ⟨hc, hcs⟩ := not_or.mp (mt List.mem_cons.mpr h)
    rw [List.cons_append, splitGap?_cons fun hcolon => absurd hcolon.symm hc, ih hcs,
      Option.map_map]
    rfl

/-- The colons between pieces are no gap. -/
theorem splitGap?_join_append (ps : List UInt16) (rest : List Char) :
    splitGap? (join ps ++ rest) =
      (splitGap? rest).map fun (head, tail) => (join ps ++ head, tail) := by
  fun_induction join ps with
  | case1 => simp
  | case2 p => exact splitGap?_append (colon_not_mem_toDigits p.toNat) rest
  | case3 p others hothers ih =>
    rw [List.append_assoc, splitGap?_append (colon_not_mem_toDigits p.toNat), List.cons_append,
      splitGap?_cons fun _ => join_append_ne_cons (fun hnil => hothers hnil) rest, ih]
    simp [Option.map_map, Function.comp_def]

/-! ### Reading pieces back -/

/-- Eight pieces with colons between them are an address. -/
theorem parse?_join (h : ps.length = 8) : parse? (join ps) = some ⟨ps⟩ := by
  have hgap : splitGap? (join ps) = none := by
    have happend := splitGap?_join_append ps []
    rwa [List.append_nil] at happend
  simp [parse?, hgap, side?_join, h]

/-- A double colon stands for the zeros that are missing. -/
theorem parse?_gap (h : front.length + back.length ≤ 7) :
    parse? (join front ++ ':' :: ':' :: join back) =
      some ⟨front ++ List.replicate (8 - (front.length + back.length)) 0 ++ back⟩ := by
  have hgap : splitGap? (join front ++ ':' :: ':' :: join back) = some (join front, join back) := by
    rw [splitGap?_join_append]
    simp [splitGap?]
  simp [parse?, hgap, side?_join, h]

theorem length_of_dotted? (h : dotted? cs = some ps) : ps.length = 2 := by
  obtain ⟨numbers, -, h⟩ := Option.bind_eq_some_iff.mp h
  split at h
  · obtain rfl := Option.some.inj h
    rfl
  · cases h

/-- Without a colon there are too few pieces for an address. -/
theorem colon_mem_of_parse? (h : parse? cs = some a) : ':' ∈ cs := by
  by_contra hcolon
  have hgap : splitGap? cs = none := by
    have happend := splitGap?_append hcolon []
    rwa [List.append_nil] at happend
  have hlength {ps : List UInt16} (hps : side? true cs = some ps) : ps.length ≤ 2 := by
    unfold side? at hps
    split at hps
    · obtain rfl := Option.some.inj hps
      decide
    · rw [splitAt_of_not_mem hcolon, pieces?] at hps
      split at hps
      · obtain rfl := Option.some.inj hps
        simp
      · exact Nat.le_of_eq (length_of_dotted? hps)
  rw [parse?, hgap] at h
  obtain ⟨all, hall, h⟩ := Option.bind_eq_some_iff.mp h
  have hle := hlength hall
  rw [if_neg (by omega)] at h
  cases h

/-! ### The shortest literal -/

/-- The longest run is a run of zeros. -/
theorem exists_longestRun (start : Nat) (ps : List UInt16) : ∃ front n back,
    ps = front ++ List.replicate n 0 ++ back ∧ longestRun start ps = (start + front.length, n) := by
  induction ps generalizing start with
  | nil => exact ⟨[], 0, [], rfl, rfl⟩
  | cons p ps ih =>
    rw [longestRun]
    split
    · refine ⟨[], zeros (p :: ps), (p :: ps).dropWhile (· == 0), ?_, rfl⟩
      have hzeros : (p :: ps).takeWhile (· == 0) = List.replicate (zeros (p :: ps)) 0 :=
        List.eq_replicate_of_mem fun q hq => by simpa using List.mem_takeWhile_imp hq
      rw [← hzeros, List.nil_append, List.takeWhile_append_dropWhile]
    · obtain ⟨front, n, back, hps, hrun⟩ := ih (start + 1)
      refine ⟨p :: front, n, back, by rw [hps]; rfl, ?_⟩
      rw [hrun, List.length_cons, Nat.add_assoc, Nat.add_comm 1]

/-- The shortest literal of an address is read back. -/
theorem parse?_write (h : a.pieces.length = 8) : parse? a.write = some a := by
  obtain ⟨front, n, back, hpieces, hrun⟩ := exists_longestRun 0 a.pieces
  unfold write
  rw [hrun]
  dsimp only
  split
  · have hlength : front.length + n + back.length = 8 := by
      simpa [hpieces, Nat.add_assoc] using h
    have htake : a.pieces.take (0 + front.length) = front := by simp [hpieces]
    have hdrop : a.pieces.drop (0 + front.length + n) = back := by simp [hpieces]
    have hmissing : 8 - (front.length + back.length) = n := by omega
    rw [htake, hdrop, parse?_gap (by omega), hmissing, ← hpieces]
  · exact parse?_join h

/-! ### Literals with an IPv4 address -/

theorem quad?_toDigits : ∀ n < 256, quad? (Nat.toDigits 10 n) = some n := by decide +kernel

theorem not_mem_toDigits_ten {c : Char} (h : ¬ c.isDigit) (n : Nat) : c ∉ Nat.toDigits 10 n :=
  fun hc => h (Nat.isDigit_of_mem_toDigits (by decide) (by decide) hc)

theorem length_write_ipv4 (v4 : Ipv4) : 7 ≤ v4.write.length := by
  have hdigits (n : Nat) : 0 < (Nat.toDigits 10 n).length :=
    List.length_pos_iff.mpr Nat.toDigits_ne_nil
  have h1 := hdigits (v4.value / 16777216 % 256)
  have h2 := hdigits (v4.value / 65536 % 256)
  have h3 := hdigits (v4.value / 256 % 256)
  have h4 := hdigits (v4.value % 256)
  simp only [Ipv4.write, List.length_append, List.length_cons]
  omega

/-- The IPv4 address of two pieces is read back as them. -/
theorem dotted?_write (high low : UInt16) :
    dotted? (Ipv4.write ⟨65536 * high.toNat + low.toNat⟩) = some [high, low] := by
  have hhigh := high.toNat_lt
  have hlow := low.toNat_lt
  generalize hvalue : 65536 * high.toNat + low.toNat = value
  have hparts : splitAt (· == '.') (Ipv4.write ⟨value⟩) =
      [value / 16777216, value / 65536, value / 256, value].map
        fun n => Nat.toDigits 10 (n % 256) := by
    have hpart (n : Nat) : splitAt (· == '.') (Nat.toDigits 10 n) = [Nat.toDigits 10 n] :=
      splitAt_of_not_mem (not_mem_toDigits_ten (by decide) n)
    simp [Ipv4.write, splitAt_append_cons, hpart]
  have hnumbers : (splitAt (· == '.') (Ipv4.write ⟨value⟩)).mapM quad? =
      some ([value / 16777216, value / 65536, value / 256, value].map (· % 256)) := by
    have hquad (n : Nat) : quad? (Nat.toDigits 10 (n % 256)) = some (n % 256) :=
      quad?_toDigits _ (Nat.mod_lt n (by decide))
    simp [hparts, hquad]
  have hfirst : 256 * (value / 16777216 % 256) + value / 65536 % 256 = high.toNat := by omega
  have hsecond : 256 * (value / 256 % 256) + value % 256 = low.toNat := by omega
  rw [dotted?, hnumbers]
  simp only [List.map_cons, List.map_nil, Option.bind_eq_bind, Option.bind_some, hfirst, hsecond,
    UInt16.ofNat_toNat]

theorem colon_not_mem_write_ipv4 (v4 : Ipv4) : ':' ∉ v4.write := by
  simp [Ipv4.write, not_mem_toDigits_ten]

/-- After the colon that follows a piece, an IPv4 address is read as two pieces. -/
theorem side?_append_write {p : UInt16} (hp : piece? cs = some p) (hcs : ':' ∉ cs)
    (high low : UInt16) :
    side? true (cs ++ ':' :: Ipv4.write ⟨65536 * high.toNat + low.toNat⟩) =
      some [p, high, low] := by
  have hquad := dotted?_write high low
  generalize Ipv4.mk (65536 * high.toNat + low.toNat) = v4 at hquad ⊢
  have hparts : splitAt (· == ':') (cs ++ ':' :: v4.write) = [cs, v4.write] := by
    rw [splitAt_append_cons (by decide), splitAt_of_not_mem hcs,
      splitAt_of_not_mem (colon_not_mem_write_ipv4 v4)]
    rfl
  -- It is too long for a piece of its own.
  have hlong : piece? v4.write = none := by
    have hlength := length_write_ipv4 v4
    rw [piece?, if_pos]
    simp
    omega
  rw [side?, if_neg (by simp), hparts, pieces?, hp, pieces?, hlong]
  · simp [hquad]
  · exact nofun

theorem eq_of_mapped? (h : a.pieces.length = 8) {v4 : Ipv4} (hv4 : a.mapped? = some v4) :
    ∃ high low, a.pieces = [0, 0, 0, 0, 0, 0xFFFF, high, low] ∧
      v4 = ⟨65536 * high.toNat + low.toNat⟩ := by
  unfold mapped? at hv4
  split at hv4
  · next hmapped =>
    obtain ⟨high, low, hrest⟩ : ∃ high low, a.pieces.drop 6 = [high, low] :=
      List.length_eq_two.mp (by simp [h])
    have hpieces := List.take_append_drop 6 a.pieces
    rw [hmapped, hrest] at hpieces
    rw [hrest] at hv4
    exact ⟨high, low, hpieces.symm, by simpa using hv4.symm⟩
  · cases hv4

/-- The literal of an address in a text is read back. -/
theorem parse?_display (h : a.pieces.length = 8) : parse? a.display = some a := by
  unfold display
  split
  · next v4 hv4 =>
    obtain ⟨high, low, hpieces, rfl⟩ := eq_of_mapped? h hv4
    have hgap (cs : List Char) :
        splitGap? ("::ffff:".toList ++ cs) = some ([], "ffff".toList ++ ':' :: cs) := rfl
    have hback := @side?_append_write "ffff".toList 0xFFFF (by decide) (by decide) high low
    rw [parse?, hgap]
    dsimp only
    rw [hback]
    exact congrArg (fun pieces => some (Ipv6.mk pieces)) hpieces.symm
  · exact parse?_write h

example : let a : Ipv6 := ⟨[0, 0, 0, 0, 0, 0xFFFF, 0x0A60, 0x000C]⟩
    a.display = "::ffff:10.96.0.12".toList ∧ a.write = "::ffff:a60:c".toList := by decide

end ServiceBroker.Ipv6
