import Mathlib.Data.List.Basic
import Mathlib.Data.List.Induction
import Mathlib.Data.Nat.Bitwise
import ServiceBroker.Text.Base32

/-!
# Base32 is read back

Bytes are groups of eight bits and digits are groups of five. Encoding cuts the same bits in another
way, with less than five zeros to fill up the last digit, and so nothing is lost. Not every text of
digits comes about in this way: the bits that fill up have to be zeros.

## Main definitions

* `Base32.byteBits`, `Base32.digitBits`: the bits of bytes and of digits
* `Base32.values`: what the digits of a list of bytes count
* `Base32.IsDigit`: the code of a digit

## Main results

* `Base32.length_encode`, `Base32.exists_digit_of_mem_encode`: the shape of base32 texts
* `Base32.decode?_encode`: decoding reads back what was encoded
* `Base32.exists_encode_eq_iff`: which texts of twenty-six digits encode sixteen bytes
-/

namespace ServiceBroker.Base32

variable {bytes : List UInt8} {vs : List Nat}

/-! ### Bits -/

@[simp] theorem length_bits (n value : Nat) : (bits n value).length = n := by
  induction n with
  | zero => rfl
  | succ n ih => rw [bits, List.length_cons, ih]

theorem ofBits_append_singleton (bs : List Bool) (b : Bool) :
    ofBits (bs ++ [b]) = 2 * ofBits bs + b.toNat := by
  rw [ofBits, List.foldl_append]
  rfl

/-- A list of bits spells less than the power of two that its length gives. -/
theorem ofBits_lt (bs : List Bool) : ofBits bs < 2 ^ bs.length := by
  induction bs using List.reverseRecOn with
  | nil => exact Nat.one_pos
  | append_singleton bs b ih =>
    have hb : b.toNat < 2 := Bool.toNat_lt b
    rw [ofBits_append_singleton, List.length_append, List.length_singleton, Nat.pow_succ]
    omega

theorem foldl_bits (n value a : Nat) :
    (bits n value).foldl (fun n b => 2 * n + b.toNat) a = a * 2 ^ n + value % 2 ^ n := by
  induction n generalizing a with
  | zero => simp [bits, Nat.mod_one]
  | succ n ih =>
    calc (bits (n + 1) value).foldl (fun n b => 2 * n + b.toNat) a
      _ = (2 * a + (value.testBit n).toNat) * 2 ^ n + value % 2 ^ n := by
        rw [bits, List.foldl_cons, ih]
      _ = a * 2 ^ (n + 1) + (value % 2 ^ n + 2 ^ n * (value / 2 ^ n % 2)) := by
        rw [Nat.toNat_testBit, Nat.pow_succ, Nat.add_mul, Nat.mul_comm (value / 2 ^ n % 2)]
        ac_rfl
      _ = a * 2 ^ (n + 1) + value % 2 ^ (n + 1) := by rw [Nat.mod_pow_succ]

/-- The bits of a number spell it, if there are enough of them. -/
theorem ofBits_bits {n value : Nat} (h : value < 2 ^ n) : ofBits (bits n value) = value := by
  rw [ofBits, foldl_bits, Nat.zero_mul, Nat.zero_add, Nat.mod_eq_of_lt h]

theorem bits_succ (n value : Nat) (b : Bool) :
    bits (n + 1) (2 * value + b.toNat) = bits n value ++ [b] := by
  induction n with
  | zero => cases b <;> simp [bits]
  | succ n ih =>
    have hhalf : (2 * value + b.toNat) / 2 = value := by cases b <;> simp; omega
    rw [bits, Nat.testBit_succ, hhalf, ih, bits, List.cons_append]

/-- Bits are those of the number that they spell. -/
theorem bits_ofBits (bs : List Bool) : bits bs.length (ofBits bs) = bs := by
  -- The last bit is the lowest one, so it is added at the end.
  induction bs using List.reverseRecOn with
  | nil => rfl
  | append_singleton bs b ih =>
    rw [ofBits_append_singleton, List.length_append, List.length_singleton, bits_succ, ih]

/-- The lowest two bits of a number are zeros if it is a multiple of four. -/
theorem exists_bits_five_eq_iff {n : Nat} :
    (∃ front, bits 5 n = front ++ [false, false]) ↔ n % 4 = 0 := by
  have hlow : n.testBit 1 = false ∧ n.testBit 0 = false ↔ n % 4 = 0 := by
    rw [Nat.testBit_eq_decide_div_mod_eq, Nat.testBit_eq_decide_div_mod_eq]
    simp only [decide_eq_false_iff_not]
    omega
  have hbits : bits 5 n = [n.testBit 4, n.testBit 3, n.testBit 2] ++ [n.testBit 1, n.testBit 0] :=
    rfl
  rw [← hlow]
  constructor
  · rintro ⟨front, hfront⟩
    have hpair := List.append_inj_right' (hbits.symm.trans hfront) rfl
    exact ⟨(List.cons.inj hpair).1, (List.cons.inj (List.cons.inj hpair).2).1⟩
  · rintro ⟨hone, hzero⟩
    exact ⟨_, hone ▸ hzero ▸ hbits⟩

/-- The bits of a list of bytes. -/
def byteBits (bytes : List UInt8) : List Bool := bytes.flatMap fun b => bits 8 b.toNat

/-- The bits of digits that count the given values. -/
def digitBits (vs : List Nat) : List Bool := vs.flatMap (bits 5)

@[simp] theorem byteBits_nil : byteBits [] = [] := rfl

@[simp] theorem byteBits_cons (b : UInt8) (bytes : List UInt8) :
    byteBits (b :: bytes) = bits 8 b.toNat ++ byteBits bytes := rfl

@[simp] theorem digitBits_nil : digitBits [] = [] := rfl

@[simp] theorem digitBits_cons (n : Nat) (vs : List Nat) :
    digitBits (n :: vs) = bits 5 n ++ digitBits vs := rfl

@[simp] theorem length_byteBits (bytes : List UInt8) :
    (byteBits bytes).length = 8 * bytes.length := by
  simp [byteBits, List.length_flatMap, List.map_const', Nat.mul_comm]

@[simp] theorem length_digitBits (vs : List Nat) : (digitBits vs).length = 5 * vs.length := by
  simp [digitBits, List.length_flatMap, List.map_const', Nat.mul_comm]

/-- Bits in whole bytes are those of some bytes. -/
theorem exists_byteBits_eq {n : Nat} {bs : List Bool} (h : bs.length = 8 * n) :
    ∃ bytes : List UInt8, bytes.length = n ∧ byteBits bytes = bs := by
  induction n generalizing bs with
  | zero => exact ⟨[], rfl, (List.length_eq_zero_iff.mp h).symm⟩
  | succ n ih =>
    have hrest : (bs.drop 8).length = 8 * n := by rw [List.length_drop]; omega
    obtain ⟨bytes, hn, hbytes⟩ := ih hrest
    refine ⟨UInt8.ofNat (ofBits (bs.take 8)) :: bytes, by rw [List.length_cons, hn], ?_⟩
    have hlen : (bs.take 8).length = 8 := by rw [List.length_take]; omega
    have hlt : ofBits (bs.take 8) < 256 := by simpa [hlen] using ofBits_lt (bs.take 8)
    have hfirst : bits 8 (UInt8.ofNat (ofBits (bs.take 8))).toNat = bs.take 8 := by
      have hbits := bits_ofBits (bs.take 8)
      rwa [hlen, ← UInt8.toNat_ofNat_of_lt' hlt] at hbits
    rw [byteBits_cons, hfirst, hbytes, List.take_append_drop]

/-! ### Groups -/

/-- A list that does not start with five bits is shorter. -/
theorem length_lt_five {bs : List Bool}
    (h : ∀ a b c d e rest, bs = a :: b :: c :: d :: e :: rest → False) : bs.length < 5 := by
  match bs with
  | [] | [_] | [_, _] | [_, _, _] | [_, _, _, _] => simp
  | _ :: _ :: _ :: _ :: _ :: _ => exact absurd rfl (h _ _ _ _ _ _)

/-- Five bits make a digit, and so do those left over. -/
theorem length_quintets (bs : List Bool) : (quintets bs).length = (bs.length + 4) / 5 := by
  fun_induction quintets bs with
  | case1 a b c d e rest ih =>
    simp only [List.length_cons, ih]
    omega
  | case2 => rfl
  | case3 short hlong hnil =>
    -- One to four bits are left over, and they make one digit more.
    have hlt := length_lt_five hlong
    have hpos := List.length_pos_iff.mpr hnil
    rw [List.length_singleton]
    omega

/-- Groups are filled up to five bits. -/
theorem length_of_mem_quintets {bs q : List Bool} (h : q ∈ quintets bs) : q.length = 5 := by
  fun_induction quintets bs with
  | case1 a b c d e rest ih =>
    rcases List.mem_cons.mp h with rfl | h
    · rfl
    · exact ih h
  | case2 => simp at h
  | case3 short hlong _ =>
    obtain rfl := List.mem_singleton.mp h
    have hlt := length_lt_five hlong
    rw [List.length_append, List.length_replicate]
    omega

/-- The groups of five are the bits with less than five zeros after them. -/
theorem exists_flatten_quintets (bs : List Bool) :
    ∃ k < 5, (quintets bs).flatten = bs ++ List.replicate k false := by
  fun_induction quintets bs with
  | case1 a b c d e rest ih =>
    obtain ⟨k, hk, hrest⟩ := ih
    exact ⟨k, hk, by rw [List.flatten_cons, hrest]; rfl⟩
  | case2 => exact ⟨0, by decide, rfl⟩
  | case3 short _ hnil =>
    have hpos := List.length_pos_iff.mpr hnil
    exact ⟨5 - short.length, by omega, List.append_nil _⟩

/-- Bits for one digit make one group. -/
theorem quintets_of_length_le {bs : List Bool} (hpos : 0 < bs.length) (hle : bs.length ≤ 5) :
    quintets bs = [bs ++ List.replicate (5 - bs.length) false] := by
  match bs, hpos, hle with
  | [_], _, _ | [_, _], _, _ | [_, _, _], _, _ | [_, _, _, _], _, _ | [_, _, _, _, _], _, _ => rfl

/-- The groups of eight in the bits of bytes are the bytes, and less than eight bits after them make
no group. -/
theorem octets_byteBits_append (bytes : List UInt8) {rest : List Bool} (h : rest.length < 8) :
    octets (byteBits bytes ++ rest) = bytes.map fun b => bits 8 b.toNat := by
  induction bytes with
  | nil =>
    match rest, h with
    | [], _ | [_], _ | [_, _], _ | [_, _, _], _ | [_, _, _, _], _ | [_, _, _, _, _], _
    | [_, _, _, _, _, _], _ | [_, _, _, _, _, _, _], _ => rfl
  | cons b bytes ih =>
    rw [byteBits_cons, List.append_assoc, List.map_cons, ← ih]
    rfl

/-! ### Digits -/

/-- What the digits of a list of bytes count. -/
def values (bytes : List UInt8) : List Nat := (quintets (byteBits bytes)).map ofBits

theorem encode_eq_map_values (bytes : List UInt8) : encode bytes = (values bytes).map digit := by
  rw [values, List.map_map]
  rfl

theorem lt_of_mem_values {n : Nat} (h : n ∈ values bytes) : n < 32 := by
  obtain ⟨q, hq, rfl⟩ := List.mem_map.mp h
  have hlt := ofBits_lt q
  rwa [length_of_mem_quintets hq] at hlt

/-- The number of digits of a list of bytes. -/
theorem length_encode (bytes : List UInt8) :
    (encode bytes).length = (8 * bytes.length + 4) / 5 := by
  rw [encode_eq_map_values, values, List.length_map, List.length_map, length_quintets,
    length_byteBits]

/-- Every character of an encoded text is one of the thirty-two digits. -/
theorem exists_digit_of_mem_encode {c : Char} (h : c ∈ encode bytes) : ∃ n < 32, c = digit n := by
  rw [encode_eq_map_values] at h
  obtain ⟨n, hn, rfl⟩ := List.mem_map.mp h
  exact ⟨n, lt_of_mem_values hn, rfl⟩

/-- The code of a digit. -/
def IsDigit (code : Nat) : Prop :=
  ('A'.toNat ≤ code ∧ code ≤ 'Z'.toNat) ∨ ('2'.toNat ≤ code ∧ code ≤ '7'.toNat)

instance (code : Nat) : Decidable (IsDigit code) := inferInstanceAs (Decidable (_ ∨ _))

theorem isDigit_digit : ∀ n < 32, IsDigit (digit n).toNat := by decide

theorem value?_digit : ∀ n < 32, value? (digit n) = some n := by decide

/-- Lower case hides no digit. -/
theorem value?_toUpper_toLower_digit :
    ∀ n < 32, value? (digit n).toLower.toUpper = some n := by
  decide

/-- Digits are read back. -/
theorem mapM_value?_digit (h : ∀ n ∈ vs, n < 32) : (vs.map digit).mapM value? = some vs := by
  induction vs with
  | nil => rfl
  | cons n vs ih =>
    rw [List.map_cons, List.mapM_cons, value?_digit n (h n List.mem_cons_self),
      ih fun m hm => h m (List.mem_cons_of_mem n hm)]
    rfl

/-- Digits are told apart in lower case. -/
theorem map_toLower_digit_injective {vs' : List Nat} (h : ∀ n ∈ vs, n < 32) (h' : ∀ n ∈ vs', n < 32)
    (heq : (vs.map digit).map Char.toLower = (vs'.map digit).map Char.toLower) : vs = vs' := by
  have hread {ns : List Nat} (hns : ∀ n ∈ ns, n < 32) :
      ((ns.map digit).map Char.toLower).map (fun c => value? c.toUpper) = ns.map some := by
    rw [List.map_map, List.map_map]
    exact List.map_congr_left fun n hn => value?_toUpper_toLower_digit n (hns n hn)
  exact (List.map_inj_right fun _ _ => Option.some.inj).mp ((hread h).symm.trans (heq ▸ hread h'))

/-- The digits of bytes have the bits of the bytes, with less than five zeros after them. -/
theorem exists_digitBits_values (bytes : List UInt8) :
    ∃ k < 5, digitBits (values bytes) = byteBits bytes ++ List.replicate k false := by
  have hflat : digitBits (values bytes) = (quintets (byteBits bytes)).flatten := by
    rw [values, digitBits, List.flatMap_map, List.flatMap_def]
    refine congrArg List.flatten ((List.map_congr_left fun q hq => ?_).trans (List.map_id _))
    have hq' := bits_ofBits q
    rwa [length_of_mem_quintets hq] at hq'
  rw [hflat]
  exact exists_flatten_quintets _

/-- Decoding reads back what was encoded. -/
theorem decode?_encode (bytes : List UInt8) : decode? (encode bytes) = some bytes := by
  obtain ⟨k, hk, hbits⟩ := exists_digitBits_values bytes
  have hbyte (b : UInt8) : UInt8.ofNat (ofBits (bits 8 b.toNat)) = b := by
    rw [ofBits_bits b.toNat_lt, UInt8.ofNat_toNat]
  rw [encode_eq_map_values, decode?, mapM_value?_digit fun _ => lt_of_mem_values]
  change some ((octets (digitBits (values bytes))).map fun o => UInt8.ofNat (ofBits o)) = _
  -- What the last digit was filled up with makes no whole byte.
  rw [hbits, octets_byteBits_append bytes (by rw [List.length_replicate]; omega), List.map_map]
  exact congrArg some ((List.map_congr_left fun b _ => hbyte b).trans (List.map_id bytes))

theorem encode_injective {bytes bytes' : List UInt8} (h : encode bytes = encode bytes') :
    bytes = bytes' := by
  have hread := decode?_encode bytes
  rw [h, decode?_encode] at hread
  exact (Option.some.inj hread).symm

/-- Encoded bytes are told apart in lower case. -/
theorem map_toLower_encode_injective {bytes' : List UInt8}
    (h : (encode bytes).map Char.toLower = (encode bytes').map Char.toLower) : bytes = bytes' := by
  rw [encode_eq_map_values, encode_eq_map_values] at h
  have hvalues := map_toLower_digit_injective (fun _ => lt_of_mem_values)
    (fun _ => lt_of_mem_values) h
  refine encode_injective ?_
  rw [encode_eq_map_values, hvalues, ← encode_eq_map_values]

/-! ### Which texts are encoded bytes -/

/-- Bits with less than five zeros after them that make up whole digits are grouped to these
digits. -/
theorem map_ofBits_quintets (hlt : ∀ n ∈ vs, n < 32) {bs : List Bool} {k : Nat} (hk : k < 5)
    (h : digitBits vs = bs ++ List.replicate k false) : (quintets bs).map ofBits = vs := by
  induction vs generalizing bs with
  | nil =>
    obtain ⟨rfl, -⟩ := List.append_eq_nil_iff.mp h.symm
    rfl
  | cons n vs ih =>
    have hn : ofBits (bits 5 n) = n := ofBits_bits (hlt n List.mem_cons_self)
    rw [digitBits_cons] at h
    rcases List.append_eq_append_iff.mp h with ⟨rest, rfl, hrest⟩ | ⟨zeros, hfirst, hzeros⟩
    · -- A whole digit stands in front of the others.
      have hgroups : quintets (bits 5 n ++ rest) = bits 5 n :: quintets rest := rfl
      rw [hgroups, List.map_cons, hn, ih (fun m hm => hlt m (List.mem_cons_of_mem n hm)) hrest]
    · -- The bits end within the first digit, so there are not enough zeros for another.
      have hlen := congrArg List.length hzeros
      rw [List.length_append, List.length_replicate, length_digitBits] at hlen
      obtain rfl : vs = [] := List.length_eq_zero_iff.mp (by omega)
      rw [digitBits_nil, List.append_nil] at hzeros
      have hfive := congrArg List.length hfirst
      rw [← hzeros, length_bits, List.length_append, List.length_replicate] at hfive
      have hk : 5 - bs.length = k := by omega
      rw [quintets_of_length_le (by omega) (by omega), hk, hzeros, ← hfirst]
      exact congrArg (fun m => [m]) hn

theorem values_eq_of_encode_eq (hlt : ∀ n ∈ vs, n < 32) (h : encode bytes = vs.map digit) :
    values bytes = vs := by
  have hread : ((values bytes).map digit).mapM value? = some (values bytes) :=
    mapM_value?_digit fun _ => lt_of_mem_values
  rw [← encode_eq_map_values, h, mapM_value?_digit hlt] at hread
  exact (Option.some.inj hread).symm

/-- Twenty-six digits encode sixteen bytes exactly if the last of them is a multiple of four, for
its lowest two bits belong to no byte. -/
theorem exists_encode_eq_iff (hlen : vs.length = 26) (hlt : ∀ n ∈ vs, n < 32) :
    (∃ bytes : List UInt8, bytes.length = 16 ∧ encode bytes = vs.map digit) ↔
      ∃ n, vs.getLast? = some n ∧ n % 4 = 0 := by
  rcases vs.eq_nil_or_concat' with rfl | ⟨vs, n, rfl⟩
  · cases hlen
  have hinit : (digitBits vs).length = 125 := by
    rw [List.length_append, List.length_singleton] at hlen
    rw [length_digitBits]
    omega
  have hsplit : digitBits (vs ++ [n]) = digitBits vs ++ bits 5 n := by
    rw [digitBits, List.flatMap_append, List.flatMap_singleton]
    rfl
  rw [List.getLast?_concat]
  constructor
  · rintro ⟨bytes, hsize, hbytes⟩
    refine ⟨n, rfl, exists_bits_five_eq_iff.mp ?_⟩
    obtain ⟨k, hk, hbits⟩ := exists_digitBits_values bytes
    rw [values_eq_of_encode_eq hlt hbytes, hsplit] at hbits
    -- Of the hundred and thirty bits of the digits, the bytes take all but two.
    have hcount := congrArg List.length hbits
    rw [List.length_append, List.length_append, hinit, length_bits, length_byteBits, hsize,
      List.length_replicate] at hcount
    obtain rfl : k = 2 := by omega
    rcases List.append_eq_append_iff.mp hbits with ⟨front, -, h⟩ | ⟨rest, -, h⟩
    · exact ⟨front, h⟩
    · have hshort := congrArg List.length h
      rw [List.length_append, length_bits, List.length_replicate] at hshort
      omega
  · rintro ⟨m, hm, hfour⟩
    obtain rfl := Option.some.inj hm
    obtain ⟨front, hlast⟩ := exists_bits_five_eq_iff.mpr hfour
    have hthree := congrArg List.length hlast
    rw [length_bits, List.length_append, List.length_cons, List.length_singleton] at hthree
    have hcount : (digitBits vs ++ front).length = 8 * 16 := by
      rw [List.length_append, hinit]
      omega
    obtain ⟨bytes, hsize, hbytes⟩ := exists_byteBits_eq hcount
    refine ⟨bytes, hsize, ?_⟩
    have hwhole : digitBits (vs ++ [n]) = byteBits bytes ++ List.replicate 2 false := by
      rw [hsplit, hlast, hbytes, List.append_assoc]
      rfl
    rw [encode_eq_map_values, values, map_ofBits_quintets hlt (by decide) hwhole]

end ServiceBroker.Base32
