import ServiceBroker.Json.Printer
import ServiceBroker.Json.Token
import ServiceBroker.Proofs.Text.Hex
import ServiceBroker.Proofs.Text.Utf8

/-!
# Tokens that are printed are read back

A string is printed character by character, and each of them is cut off again as pieces that stand
for its bytes. A number is printed as its digits, which are taken together until something else
comes; so whatever follows a token that is printed must not go on with it. After a value that is
only punctuation, or the end of the text.

## Main definitions

* `Json.StringLiteral.Cuts`: bytes inside a literal that stand for other bytes
* `Json.Delimited`: what may follow a value that is printed
* `Json.Token.Scans`: bytes that are read as a token of some kind

## Main results

* `Json.StringLiteral.cuts_writeChar`: the characters of a string are cut off one by one
* `Json.NumberLiteral.scan_digits`: the digits of a number are read as it
* `Json.Token.scans_string`, `Json.Token.scans_number`: strings and numbers are read back
-/

namespace ServiceBroker.Json

variable {bs rest : List UInt8} {b : UInt8} {pos : Nat}

/-! ### Strings -/

namespace StringLiteral

variable {ps qs : List Piece} {meaning cs ds : List UInt8} {c : Char}

/-- The pieces stand for these bytes, wherever they are added. -/
def StandFor (ps : List Piece) (meaning : List UInt8) : Prop :=
  ∀ bytes more, bytesOf bytes none (ps ++ more) = bytesOf (meaning.reverse ++ bytes) none more

theorem StandFor.append (hps : StandFor ps cs) (hqs : StandFor qs ds) :
    StandFor (ps ++ qs) (cs ++ ds) := by
  intro bytes more
  rw [List.append_assoc, hps, hqs, List.reverse_append, List.append_assoc]

/-- Inside a literal the bytes are cut into pieces that stand for `meaning`. -/
def Cuts (bs meaning : List UInt8) : Prop :=
  ∀ pos, ∃ ps stop, StandFor ps meaning ∧
    ∀ pieces rest, scan pos pieces (bs ++ rest) = scan stop (ps.reverse ++ pieces) rest

theorem cuts_nil : Cuts [] [] := by
  intro pos
  exact ⟨[], pos, fun bytes more => rfl, fun pieces rest => rfl⟩

theorem Cuts.append {bs' : List UInt8} (h : Cuts bs cs) (h' : Cuts bs' ds) :
    Cuts (bs ++ bs') (cs ++ ds) := by
  intro pos
  obtain ⟨ps, stop, hps, hscan⟩ := h pos
  obtain ⟨qs, stop', hqs, hscan'⟩ := h' stop
  refine ⟨ps ++ qs, stop', hps.append hqs, fun pieces rest => ?_⟩
  rw [List.append_assoc, hscan, hscan', List.reverse_append, List.append_assoc]

/-- A byte that is no control, quote or backslash stands for itself. -/
theorem cuts_singleton (hcontrol : ¬ b < 32) (hquote : b ≠ 34) (hbackslash : b ≠ 92) :
    Cuts [b] [b] := by
  intro pos
  refine ⟨[.byte b (pos + 1)], pos + 1, fun bytes more => rfl, fun pieces rest => ?_⟩
  have hscan : scan pos pieces (b :: rest) =
      scan (pos + 1) (.byte b (pos + 1) :: pieces) rest := by
    rw [scan]
    · rw [if_neg hcontrol]
    all_goals simp_all
  exact hscan

theorem cuts_of_forall (h : ∀ b ∈ bs, ¬ b < 32 ∧ b ≠ 34 ∧ b ≠ 92) : Cuts bs bs := by
  induction bs with
  | nil => exact cuts_nil
  | cons b bs ih =>
    obtain ⟨⟨hcontrol, hquote, hbackslash⟩, hrest⟩ := List.forall_mem_cons.mp h
    exact (cuts_singleton hcontrol hquote hbackslash).append (ih hrest)

/-- A letter after a backslash stands for the byte that it escapes. -/
theorem cuts_escaped {letter : UInt8} (h : escaped? letter = some b) : Cuts [92, letter] [b] := by
  intro pos
  refine ⟨[.byte b (pos + 2)], pos + 2, fun bytes more => rfl, fun pieces rest => ?_⟩
  have hletter : letter ≠ 117 := by
    rintro rfl
    cases h
  have hscan : scan pos pieces (92 :: letter :: rest) =
      scan (pos + 2) (.byte b (pos + 2) :: pieces) rest := by
    rw [scan]
    · rw [h]
    all_goals simp_all
  exact hscan

/-- Four digits after a backslash stand for a character, if it is no half of one. -/
theorem cuts_codeUnit {w x y z : UInt8} {n : Nat} (h : codeUnit? w x y z = some n)
    (hn : n < 0xD800) : Cuts [92, 117, w, x, y, z] (codePointBytes n) := by
  intro pos
  refine ⟨[.unit n (pos + 6)], pos + 6, fun bytes more => ?_, fun pieces rest => ?_⟩
  · have hlow : isLowSurrogate n = false := by
      rw [isLowSurrogate, Bool.and_eq_false_iff, decide_eq_false_iff_not]
      omega
    have hhigh : isHighSurrogate n = false := by
      rw [isHighSurrogate, Bool.and_eq_false_iff, decide_eq_false_iff_not]
      omega
    rw [List.singleton_append, bytesOf]
    simp [hlow, hhigh]
  · have hscan : scan pos pieces (92 :: 117 :: w :: x :: y :: z :: rest) =
        scan (pos + 6) (.unit n (pos + 6) :: pieces) rest := by
      rw [scan, h]
    exact hscan

/-- A control character is printed as its number. -/
theorem cuts_control {c : Char} (h : c.toNat < 32) :
    Cuts (Utf8.encode ['\\', 'u', '0', '0', Hex.digit (c.toNat / 16), Hex.digit (c.toNat % 16)])
      (String.utf8EncodeChar c) := by
  have hascii := Hex.toNat_digit_lt (c.toNat / 16) (by omega)
  have hascii' := Hex.toNat_digit_lt (c.toNat % 16) (by omega)
  have hbytes : Utf8.encode ['\\', 'u', '0', '0', Hex.digit (c.toNat / 16),
      Hex.digit (c.toNat % 16)] = [92, 117, 48, 48, (Hex.digit (c.toNat / 16)).toUInt8,
        (Hex.digit (c.toNat % 16)).toUInt8] := by
    refine (Utf8.encode_of_ascii ?_).trans rfl
    simp [hascii.1, hascii'.1]
  have hunit : codeUnit? 48 48 (Hex.digit (c.toNat / 16)).toUInt8
      (Hex.digit (c.toNat % 16)).toUInt8 = some c.toNat := by
    have hzero : Hex.value? 48 = some 0 := rfl
    have hsum : (0 * 16 + 0) * 256 + (c.toNat / 16 * 16 + c.toNat % 16) = c.toNat := by omega
    rw [codeUnit?, Hex.value?_digit (c.toNat / 16) (by omega),
      Hex.value?_digit (c.toNat % 16) (by omega), hzero]
    exact congrArg some hsum
  have hchar : codePointBytes c.toNat = String.utf8EncodeChar c := by
    rw [codePointBytes, Char.ofNat_toNat]
  rw [hbytes, ← hchar]
  exact cuts_codeUnit hunit (by omega)

/-- None of the bytes of any other character means something in a literal. -/
theorem mem_encodeChar_spec {c : Char} (hcontrol : ¬ c.toNat < 32) (hquote : c ≠ '"')
    (hbackslash : c ≠ '\\') (hb : b ∈ String.utf8EncodeChar c) : ¬ b < 32 ∧ b ≠ 34 ∧ b ≠ 92 := by
  by_cases hascii : c.toNat < 128
  · rw [Utf8.encodeChar_of_lt hascii, List.mem_singleton] at hb
    have hnat : b.toNat = c.toNat := by rw [hb, Utf8.toNat_toUInt8 hascii]
    refine ⟨?_, ?_, ?_⟩
    · rw [UInt8.lt_iff_toNat_lt, hnat]
      exact hcontrol
    · rintro rfl
      exact hquote (Char.toNat_inj.mp hnat.symm)
    · rintro rfl
      exact hbackslash (Char.toNat_inj.mp hnat.symm)
  · have hbeyond := Utf8.le_of_mem_encodeChar (Nat.le_of_not_lt hascii) hb
    refine ⟨?_, ?_, ?_⟩
    · rw [UInt8.lt_iff_toNat_lt]
      exact Nat.not_lt.mpr (Nat.le_trans (by decide) hbeyond)
    · rintro rfl
      exact absurd hbeyond (by decide)
    · rintro rfl
      exact absurd hbeyond (by decide)

/-- A character that is printed is cut off again. -/
theorem cuts_writeChar (c : Char) : Cuts (Utf8.encode (writeChar c)) (String.utf8EncodeChar c) := by
  have hspecial : ∀ letter b, escaped? letter = some b → Cuts [92, letter] [b] :=
    fun letter b h => cuts_escaped h
  unfold writeChar
  split
  · subst c; exact hspecial 34 34 rfl
  split
  · subst c; exact hspecial 92 92 rfl
  split
  · subst c; exact hspecial 98 8 rfl
  split
  · subst c; exact hspecial 102 12 rfl
  split
  · subst c; exact hspecial 110 10 rfl
  split
  · subst c; exact hspecial 114 13 rfl
  split
  · subst c; exact hspecial 116 9 rfl
  split
  · next hcontrol => exact cuts_control hcontrol
  · next hquote hbackslash _ _ _ _ _ hcontrol =>
    -- The character stands for itself, in as many bytes as it takes.
    rw [Utf8.encode_cons, Utf8.encode_nil, List.append_nil]
    exact cuts_of_forall fun b hb => mem_encodeChar_spec hcontrol hquote hbackslash hb

/-- A string that is printed is cut into pieces that stand for its bytes. -/
theorem cuts_writeChars (cs : List Char) :
    Cuts (Utf8.encode (cs.flatMap writeChar)) (Utf8.encode cs) := by
  induction cs with
  | nil => exact cuts_nil
  | cons c cs ih =>
    rw [List.flatMap_cons, Utf8.encode_append, Utf8.encode_cons]
    exact (cuts_writeChar c).append ih

/-- A string that is printed is read back. -/
theorem exists_scan_writeChars (s : String) (pos : Nat) : ∃ ps stop, text ps stop = .ok s ∧
    ∀ rest, scan pos [] (Utf8.encode (s.toList.flatMap writeChar) ++ 34 :: rest) =
      (ps, .closed stop rest) := by
  obtain ⟨ps, stop, hps, hscan⟩ := cuts_writeChars s.toList pos
  refine ⟨ps, stop + 1, ?_, fun rest => ?_⟩
  · have hbytes := hps [] []
    rw [List.append_nil, List.append_nil, bytesOf] at hbytes
    rw [text, hbytes]
    dsimp only
    rw [List.reverse_reverse, Utf8.decode?_eq_some_iff.mpr rfl]
    exact congrArg Except.ok String.ofList_toList
  · rw [hscan, scan, List.append_nil, List.reverse_reverse]

end StringLiteral

/-! ### Numbers -/

/-- Nothing goes on with the value before it: there is punctuation, or nothing more. -/
def Delimited (rest : List UInt8) : Prop :=
  ∀ b tail, rest = b :: tail → b = 44 ∨ b = 58 ∨ b = 93 ∨ b = 125

theorem delimited_nil : Delimited [] := nofun

theorem delimited_cons (hb : b = 44 ∨ b = 58 ∨ b = 93 ∨ b = 125) (tail : List UInt8) :
    Delimited (b :: tail) := by
  intro b' tail' heq
  rwa [← (List.cons.inj heq).1]

namespace NumberLiteral

variable {n : Nat} {l : NumberLiteral}

/-- The digits of a number, as bytes. -/
def digits (n : Nat) : List UInt8 := (Nat.toDigits 10 n).map Char.toUInt8

theorem encode_toDigits (n : Nat) : Utf8.encode (Nat.toDigits 10 n) = digits n := by
  apply Utf8.encode_of_ascii
  intro c hc
  have hdigit := Nat.isDigit_of_mem_toDigits (by decide) (by decide) hc
  rw [Char.isDigit, Bool.and_eq_true, decide_eq_true_eq, decide_eq_true_eq] at hdigit
  exact Nat.lt_of_le_of_lt (UInt32.le_iff_toNat_le.mp hdigit.2) (by decide)

/-- A single digit, as a byte. -/
theorem digit_spec : ∀ n < 10, isDigit n.digitChar.toUInt8 ∧ digitValue n.digitChar.toUInt8 = n ∧
    (n.digitChar.toUInt8 = 48 → n = 0) := by decide

theorem digits_of_lt (h : n < 10) : digits n = [n.digitChar.toUInt8] := by
  rw [digits, Nat.toDigits_of_lt_base h]
  rfl

/-- The last digit stands after those of a tenth of the number. -/
theorem digits_of_le (h : 10 ≤ n) : digits n = digits (n / 10) ++ [(n % 10).digitChar.toUInt8] := by
  rw [digits, Nat.toDigits_eq_if (by decide), if_neg (Nat.not_lt.mpr h), List.map_append]
  rfl

theorem isDigit_of_mem_digits (h : b ∈ digits n) : isDigit b := by
  induction n using Nat.strongRecOn with
  | ind n ih =>
    by_cases hn : n < 10
    · rw [digits_of_lt hn, List.mem_singleton] at h
      rw [h]
      exact (digit_spec n hn).1
    · rw [digits_of_le (Nat.not_lt.mp hn), List.mem_append, List.mem_singleton] at h
      rcases h with h | rfl
      · exact ih (n / 10) (by omega) h
      · exact (digit_spec (n % 10) (by omega)).1

/-- Only zero starts with a zero. -/
theorem exists_digits_eq (n : Nat) : ∃ b tail, digits n = b :: tail ∧ (b = 48 → n = 0) := by
  induction n using Nat.strongRecOn with
  | ind n ih =>
    by_cases hn : n < 10
    · exact ⟨_, [], digits_of_lt hn, (digit_spec n hn).2.2⟩
    · obtain ⟨b, tail, hdigits, hzero⟩ := ih (n / 10) (by omega)
      refine ⟨b, tail ++ [(n % 10).digitChar.toUInt8], ?_, fun hb => ?_⟩
      · rw [digits_of_le (Nat.not_lt.mp hn), hdigits, List.cons_append]
      · have hn0 := hzero hb
        omega

/-- The digits of an integer that fits are all taken into the significand. -/
theorem foldl_pushWhole (h : n ≤ maxU64) :
    (digits n).foldl Scaled.pushWhole ⟨0, 0, false⟩ = ⟨n, 0, false⟩ := by
  have hpush {m d : Nat} (hd : d < 10) (hfits : m * 10 + d ≤ maxU64) :
      Scaled.pushWhole ⟨m, 0, false⟩ d.digitChar.toUInt8 = ⟨m * 10 + d, 0, false⟩ := by
    unfold Scaled.pushWhole
    simp [(digit_spec d hd).2.1, Nat.not_lt.mpr hfits]
  -- All but the last digit are those of a tenth of the number, which fits if the number does.
  induction n using Nat.strongRecOn with
  | ind n ih =>
    by_cases hn : n < 10
    · rw [digits_of_lt hn, List.foldl_cons, List.foldl_nil, hpush hn (by omega)]
      simp
    · have htenth := Nat.div_add_mod n 10
      rw [digits_of_le (Nat.not_lt.mp hn), List.foldl_append, ih (n / 10) (by omega) (by omega),
        List.foldl_cons, List.foldl_nil, hpush (by omega) (by omega)]
      congr 1
      omega

/-- What follows a number takes no part in it. -/
theorem scanFraction_of_delimited (h : Delimited rest) :
    scanFraction l pos rest = finish l pos rest := by
  cases rest with
  | nil => rfl
  | cons b tail =>
    rcases h b tail rfl with rfl | rfl | rfl | rfl <;> rfl

theorem not_isDigit_of_delimited (h : Delimited (b :: rest)) : ¬ isDigit b := by
  rcases h b rest rfl with rfl | rfl | rfl | rfl <;> decide

/-- The digits at the head of the text are those of the number, and what follows comes after. -/
theorem takeWhile_dropWhile_digits (n : Nat) (h : Delimited rest) :
    (digits n ++ rest).takeWhile isDigit = digits n ∧
      (digits n ++ rest).dropWhile isDigit = rest := by
  have hall : ∀ b ∈ digits n, isDigit b := fun b hb => isDigit_of_mem_digits hb
  rw [List.takeWhile_append_of_pos hall, List.dropWhile_append_of_pos hall]
  cases rest with
  | nil => exact ⟨List.append_nil _, rfl⟩
  | cons b tail =>
    have hb := not_isDigit_of_delimited h
    rw [List.takeWhile_cons_of_neg hb, List.dropWhile_cons_of_neg hb, List.append_nil]
    exact ⟨rfl, rfl⟩

/-- A zero is taken alone, as no digit follows it. -/
theorem scan_zero (negative : Bool) (pos : Nat) (h : Delimited rest) :
    scan negative pos (48 :: rest) = scanFraction { negative, whole := [48] } (pos + 1) rest := by
  cases rest with
  | nil => rfl
  | cons b tail =>
    rw [scan]
    simp only [not_isDigit_of_delimited h]
    rfl

/-- Any other digits are taken as far as they go. -/
theorem scan_of_ne_zero (negative : Bool) (pos : Nat) (hb : isDigit b) (hzero : b ≠ 48) :
    scan negative pos (b :: rest) =
      scanFraction { negative, whole := (b :: rest).takeWhile isDigit }
        (pos + ((b :: rest).takeWhile isDigit).length) ((b :: rest).dropWhile isDigit) := by
  rw [scan]
  · rw [if_pos hb]
  · exact hzero

/-- The digits of a number are taken together, up to what follows. -/
theorem exists_scan_digits (negative : Bool) (n pos : Nat) (h : Delimited rest) : ∃ stop,
    scan negative pos (digits n ++ rest) =
      finish { negative, whole := digits n } stop rest := by
  by_cases hn : n = 0
  · subst hn
    exact ⟨pos + 1, (scan_zero negative pos h).trans (scanFraction_of_delimited h)⟩
  · obtain ⟨b, tail, hdigits, hzero⟩ := exists_digits_eq n
    have hb : isDigit b := isDigit_of_mem_digits (n := n) (by simp [hdigits])
    obtain ⟨htake, hdrop⟩ := takeWhile_dropWhile_digits n h
    rw [hdigits, List.cons_append] at htake hdrop
    refine ⟨pos + (b :: tail).length, ?_⟩
    rw [hdigits, List.cons_append, scan_of_ne_zero negative pos hb fun heq => hn (hzero heq), htake,
      hdrop, scanFraction_of_delimited h]

/-- The digits of a number are read as it. -/
theorem exists_scan_natural (hn : n ≤ maxU64) (pos : Nat) (h : Delimited rest) : ∃ stop,
    scan false pos (digits n ++ rest) = .complete (.ok (.natural n)) stop rest := by
  obtain ⟨stop, hscan⟩ := exists_scan_digits false n pos h
  refine ⟨stop, hscan.trans ?_⟩
  have hvalue : value { negative := false, whole := digits n } = .ok (.natural n) := by
    unfold value
    simp [foldl_pushWhole hn]
  rw [finish, hvalue]

/-- The same after a sign. -/
theorem exists_scan_negative (hpos : 0 < n) (hn : n ≤ 9223372036854775808) (pos : Nat)
    (h : Delimited rest) : ∃ stop,
    scan true pos (digits n ++ rest) = .complete (.ok (.negative n)) stop rest := by
  obtain ⟨stop, hscan⟩ := exists_scan_digits true n pos h
  refine ⟨stop, hscan.trans ?_⟩
  have hvalue : value { negative := true, whole := digits n } = .ok (.negative n) := by
    unfold value
    simp [foldl_pushWhole (Nat.le_trans hn (by decide)), hpos, hn]
  rw [finish, hvalue]

end NumberLiteral

/-- The number is an integer that fits 64 bits; a negative one has a sign to spare for. -/
def Number.IsInteger : Number → Prop
  | .natural n => n ≤ maxU64
  | .negative n => 0 < n ∧ n ≤ 9223372036854775808
  | .float _ => False

/-! ### Tokens -/

namespace Token

/-- The bytes are read as a token of this kind, if nothing goes on with it. -/
def Scans (bs : List UInt8) (kind : Kind) : Prop :=
  ∃ b tail, bs = b :: tail ∧ ¬ isSpace b ∧ ∀ pos rest, Delimited rest →
    ∃ stop, scan pos b (tail ++ rest) = (⟨pos, stop, kind⟩, rest)

/-- A digit is no mark, no letter and no white space. -/
theorem ne_of_isDigit (h : isDigit b) {c : UInt8} (hc : ¬ isDigit c) : b ≠ c := by
  rintro rfl
  exact hc h

theorem scan_of_isDigit (h : isDigit b) :
    scan pos b rest = ofNumber pos (NumberLiteral.scan false pos (b :: rest)) := by
  have hne (c : UInt8) (hc : ¬ isDigit c) : b ≠ c := ne_of_isDigit h hc
  unfold scan
  simp only [hne 91 (by decide), hne 93 (by decide), hne 123 (by decide), hne 125 (by decide),
    hne 44 (by decide), hne 58 (by decide), hne 34 (by decide), hne 45 (by decide), h, if_true,
    if_false]

theorem not_isSpace_of_isDigit (h : isDigit b) : ¬ isSpace b := by
  have hne (c : UInt8) (hc : ¬ isDigit c) : b ≠ c := ne_of_isDigit h hc
  simp [isSpace, hne 32 (by decide), hne 9 (by decide), hne 10 (by decide), hne 13 (by decide)]

/-- Only one byte closes a list. -/
theorem kind_scan_ne_closeList (h : b ≠ 93) (pos : Nat) (rest : List UInt8) :
    (scan pos b rest).1.kind ≠ .closeList := by
  have hstring (scanned : List StringLiteral.Piece × StringLiteral.Ending) :
      (ofString pos scanned).1.kind ≠ .closeList := by
    obtain ⟨pieces, ending⟩ := scanned
    cases ending <;> simp [ofString]
  have hnumber (scanned : NumberLiteral.Scan) :
      (ofNumber pos scanned).1.kind ≠ .closeList := by
    cases scanned <;> simp [ofNumber]
  have hword (value : Literal) (stop : Nat) (word : List UInt8) :
      (scanLiteral pos value stop word rest).1.kind ≠ .closeList := by
    fun_induction scanLiteral pos value stop word rest <;> simp_all
  unfold scan
  simp only [h, if_false]
  repeat' split
  all_goals first | exact hstring _ | exact hnumber _ | exact hword _ _ _ | simp

/-- A word that is printed is read back. -/
theorem scans_literal (value : Literal) :
    Scans (Utf8.encode (write value.toJson)) (.literal value) := by
  cases value with
  | null => exact ⟨110, [117, 108, 108], rfl, by decide, fun pos rest _ => ⟨_, rfl⟩⟩
  | true => exact ⟨116, [114, 117, 101], rfl, by decide, fun pos rest _ => ⟨_, rfl⟩⟩
  | false => exact ⟨102, [97, 108, 115, 101], rfl, by decide, fun pos rest _ => ⟨_, rfl⟩⟩

/-- A string that is printed is read back. -/
theorem scans_string (s : String) : Scans (Utf8.encode (writeString s)) (.string (.ok s)) := by
  have hbytes : Utf8.encode (writeString s) =
      34 :: (Utf8.encode (s.toList.flatMap writeChar) ++ [34]) := by
    rw [writeString, Utf8.encode_cons, Utf8.encode_append]
    rfl
  refine ⟨34, _, hbytes, by decide, fun pos rest _ => ?_⟩
  obtain ⟨ps, stop, htext, hscan⟩ := StringLiteral.exists_scan_writeChars s (pos + 1)
  refine ⟨stop, ?_⟩
  have hquote : scan pos 34 = fun rest => ofString pos (StringLiteral.scan (pos + 1) [] rest) := rfl
  rw [hquote, List.append_assoc, List.singleton_append]
  dsimp only
  rw [hscan, ofString, htext]

/-- An integer that is printed is read back. -/
theorem scans_number {n : Number} (h : n.IsInteger) :
    Scans (Utf8.encode n.write) (.number (.ok n)) := by
  cases n with
  | float x => cases h
  | natural n =>
    rw [Number.write, NumberLiteral.encode_toDigits]
    obtain ⟨b, tail, hdigits, -⟩ := NumberLiteral.exists_digits_eq n
    have hb : isDigit b := NumberLiteral.isDigit_of_mem_digits (n := n) (by simp [hdigits])
    refine ⟨b, tail, hdigits, not_isSpace_of_isDigit hb, fun pos rest hrest => ?_⟩
    obtain ⟨stop, hscan⟩ := NumberLiteral.exists_scan_natural h pos hrest
    refine ⟨stop, ?_⟩
    rw [scan_of_isDigit hb, ← List.cons_append, ← hdigits, hscan, ofNumber]
  | negative n =>
    have hbytes : Utf8.encode (Number.negative n).write = 45 :: NumberLiteral.digits n := by
      rw [Number.write, Utf8.encode_cons, NumberLiteral.encode_toDigits]
      rfl
    refine ⟨45, _, hbytes, by decide, fun pos rest hrest => ?_⟩
    obtain ⟨stop, hscan⟩ := NumberLiteral.exists_scan_negative h.1 h.2 (pos + 1) hrest
    refine ⟨stop, ?_⟩
    have hsign : scan pos 45 = fun rest => ofNumber pos (NumberLiteral.scan true (pos + 1) rest) :=
      rfl
    rw [hsign]
    dsimp only
    rw [hscan, ofNumber]

end Token

end ServiceBroker.Json
