import Mathlib.Tactic.SplitIfs
import ServiceBroker.Proofs.Text.Percent
import ServiceBroker.Proofs.Text.Split
import ServiceBroker.Url.Edit

/-!
# Which texts are read back from a path

A text that is set as the path of a URL is cut at its slashes, and segments of dots are taken out of
what comes of it. Reading it back means decoding the path. Whatever is lost on the way, be it a
character that is dropped, a segment or an escape, makes the path shorter when it is decoded. So a
text is read back exactly if nothing of the kind happens to it.

## Main definitions

* `Url.Path.IsDots`: the segments that are taken out
* `Url.IsPlain`: the texts to which nothing happens

## Main results

* `Url.Path.normalize_eq`: a path without segments of dots is its segments put together
* `Url.Path.length_decode_normalize_lt`: a path that a segment is taken out of gets shorter
* `Url.decode_path_setPath_iff`: a text is read back from a path exactly if it is plain
-/

namespace ServiceBroker.Url

namespace Path

/-- The segment is one dot or two, each perhaps percent-encoded. -/
def IsDots (segment : List Char) : Prop := isTwoDots segment ∨ isDot segment

instance (segment : List Char) : Decidable (IsDots segment) := inferInstanceAs (Decidable (_ ∨ _))

variable {taken segments : List (List Char)} {segment body : List Char}

/-- Segments of dots decode to dots. -/
theorem decode_of_isDots (h : IsDots segment) : Percent.decode segment = Utf8.encode ['.'] ∨
    Percent.decode segment = Utf8.encode ['.', '.'] := by
  have hdot {cs : List Char} (h : isDot cs) :
      cs = ['.'] ∨ cs = ['%', '2', 'e'] ∨ cs = ['%', '2', 'E'] := by
    unfold isDot at h
    split at h <;> simp_all
  rcases h with h | h
  · right
    unfold isTwoDots at h
    split at h
    · rcases hdot h with rfl | rfl | rfl <;> decide
    · rcases hdot h with rfl | rfl | rfl <;> decide
    · rcases hdot h with rfl | rfl | rfl <;> decide
    · cases h
  · left
    rcases hdot h with rfl | rfl | rfl <;> decide

/-! ### Segments that slashes follow -/

theorem foldl_closed (taken : List (List Char)) (cs : List Char) :
    taken.foldl (fun path segment => '/' :: (segment ++ path)) ('/' :: cs) =
      closed taken ++ cs := by
  unfold closed
  induction taken generalizing cs with
  | nil => rfl
  | cons segment taken ih =>
    rw [List.foldl_cons, List.foldl_cons, ih, ih (segment ++ ['/'])]
    simp only [List.append_assoc, List.singleton_append]

@[simp] theorem closed_nil : closed [] = ['/'] := rfl

theorem closed_cons (segment : List Char) (taken : List (List Char)) :
    closed (segment :: taken) = closed taken ++ (segment ++ ['/']) :=
  foldl_closed taken (segment ++ ['/'])

theorem exists_closed_eq (taken : List (List Char)) : ∃ rest, closed taken = '/' :: rest := by
  induction taken with
  | nil => exact ⟨[], rfl⟩
  | cons segment taken ih =>
    obtain ⟨rest, hrest⟩ := ih
    exact ⟨rest ++ (segment ++ ['/']), by rw [closed_cons, hrest, List.cons_append]⟩

theorem exists_closed_eq_append (taken : List (List Char)) :
    ∃ front, closed taken = front ++ ['/'] := by
  cases taken with
  | nil => exact ⟨[], rfl⟩
  | cons segment taken =>
    exact ⟨closed taken ++ segment, by rw [closed_cons, List.append_assoc]⟩

/-- What follows a slash is decoded on its own. -/
theorem decode_closed_append (taken : List (List Char)) (cs : List Char) :
    Percent.decode (closed taken ++ cs) = Percent.decode (closed taken) ++ Percent.decode cs := by
  obtain ⟨front, hfront⟩ := exists_closed_eq_append taken
  rw [hfront, List.append_assoc, List.singleton_append, Percent.decode_append_slash,
    Percent.decode_append_slash, List.append_assoc]
  rfl

theorem length_decode_closed_cons (segment : List Char) (taken : List (List Char)) :
    (Percent.decode (closed (segment :: taken))).length =
      (Percent.decode (closed taken)).length + (Percent.decode segment).length + 1 := by
  rw [closed_cons, decode_closed_append, Percent.decode_append_slash, List.length_append,
    List.length_append, Nat.add_assoc]
  rfl

/-- Two dots do not make a path longer. -/
theorem length_decode_closed_back_le (taken : List (List Char)) :
    (Percent.decode (closed (back taken))).length ≤ (Percent.decode (closed taken)).length := by
  cases taken with
  | nil => exact Nat.le_refl _
  | cons segment taken =>
    rw [back]
    split_ifs
    · exact Nat.le_refl _
    · rw [length_decode_closed_cons]
      omega

/-! ### Taking out dots -/

/-- The number of bytes that segments decode to, with the slashes between them. -/
def size (segments : List (List Char)) : Nat :=
  (Percent.decode (['/'].intercalate segments)).length

theorem size_cons (segment : List Char) (h : segments ≠ []) :
    size (segment :: segments) = (Percent.decode segment).length + 1 + size segments := by
  obtain ⟨first, others, rfl⟩ := List.exists_cons_of_ne_nil h
  unfold size
  rw [List.intercalate_cons_cons, List.append_assoc, List.singleton_append,
    Percent.decode_append_slash, List.length_append, List.length_cons]
  omega

theorem size_singleton (segment : List Char) :
    size [segment] = (Percent.decode segment).length := by
  rw [size, List.intercalate_singleton]

/-- A path that is normalized starts with a slash. -/
theorem exists_normalize_eq (taken segments : List (List Char)) :
    ∃ rest, normalize taken segments = '/' :: rest := by
  fun_induction normalize taken segments with
  | case1 taken => exact exists_closed_eq taken
  | case2 taken last hback => exact exists_closed_eq _
  | case3 taken last hback hdot => exact exists_closed_eq taken
  | case4 taken last hback hdot =>
    obtain ⟨rest, hrest⟩ := exists_closed_eq taken
    exact ⟨rest ++ last, by rw [hrest, List.cons_append]⟩
  | case5 taken segment rest hne hback ih => exact ih
  | case6 taken segment rest hne hback hdot ih => exact ih
  | case7 taken segment rest hne hback hdot ih => exact ih

/-- Without segments of dots, a path is its segments put together. -/
theorem normalize_eq (h : ∀ segment ∈ segments, ¬ IsDots segment) :
    normalize taken segments = closed taken ++ ['/'].intercalate segments := by
  fun_induction normalize taken segments with
  | case1 taken => exact (List.append_nil _).symm
  | case2 taken last hback => exact absurd (.inl hback) (h last List.mem_cons_self)
  | case3 taken last hback hdot => exact absurd (.inr hdot) (h last List.mem_cons_self)
  | case4 taken last hback hdot => rw [List.intercalate_singleton]
  | case5 taken segment rest hne hback ih =>
    exact absurd (.inl hback) (h segment List.mem_cons_self)
  | case6 taken segment rest hne hback hdot ih =>
    exact absurd (.inr hdot) (h segment List.mem_cons_self)
  | case7 taken segment rest hne hback hdot ih =>
    obtain ⟨first, others, rfl⟩ := List.exists_cons_of_ne_nil hne
    rw [ih fun s hs => h s (List.mem_cons_of_mem segment hs), closed_cons,
      List.intercalate_cons_cons]
    simp only [List.append_assoc]

/-- A path decodes to no more bytes than its segments. -/
theorem length_decode_normalize_le (taken segments : List (List Char)) :
    (Percent.decode (normalize taken segments)).length ≤
      (Percent.decode (closed taken)).length + size segments := by
  fun_induction normalize taken segments with
  | case1 taken => exact Nat.le_add_right _ _
  | case2 taken last hback =>
    exact Nat.le_trans (length_decode_closed_back_le taken) (Nat.le_add_right _ _)
  | case3 taken last hback hdot => exact Nat.le_add_right _ _
  | case4 taken last hback hdot =>
    exact Nat.le_of_eq (by rw [decode_closed_append, List.length_append, size_singleton])
  | case5 taken segment rest hne hback ih =>
    have hle := length_decode_closed_back_le taken
    rw [size_cons segment hne]
    omega
  | case6 taken segment rest hne hback hdot ih =>
    rw [size_cons segment hne]
    omega
  | case7 taken segment rest hne hback hdot ih =>
    rw [length_decode_closed_cons] at ih
    rw [size_cons segment hne]
    omega

/-- A path that a segment is taken out of decodes to fewer bytes than its segments. -/
theorem length_decode_normalize_lt (h : ∃ segment ∈ segments, IsDots segment) :
    (Percent.decode (normalize taken segments)).length <
      (Percent.decode (closed taken)).length + size segments := by
  have hdots {segment : List Char} (h : IsDots segment) : 0 < (Percent.decode segment).length := by
    rcases decode_of_isDots h with h | h <;> rw [h] <;> decide
  obtain ⟨dots, hmem, hdot⟩ := h
  fun_induction normalize taken segments with
  | case1 taken => cases hmem
  | case2 taken last hback =>
    have hle := length_decode_closed_back_le taken
    have hlast := hdots (.inl hback)
    rw [size_singleton]
    omega
  | case3 taken last hback hdot =>
    have hlast := hdots (.inr hdot)
    rw [size_singleton]
    omega
  | case4 taken last hback hdot' =>
    obtain rfl := List.mem_singleton.mp hmem
    exact absurd hdot (not_or.mpr ⟨hback, hdot'⟩)
  | case5 taken segment rest hne hback ih =>
    -- The slash after the dots goes with them.
    have hle := length_decode_closed_back_le taken
    have hrest := length_decode_normalize_le (back taken) rest
    rw [size_cons segment hne]
    omega
  | case6 taken segment rest hne hback hdot' ih =>
    have hrest := length_decode_normalize_le taken rest
    rw [size_cons segment hne]
    omega
  | case7 taken segment rest hne hback hdot' ih =>
    rcases List.mem_cons.mp hmem with rfl | hmem
    · exact absurd hdot (not_or.mpr ⟨hback, hdot'⟩)
    · have hrest := ih hmem
      rw [length_decode_closed_cons] at hrest
      rw [size_cons segment hne]
      omega

/-! ### Paths that texts spell -/

theorem endsSegment_false : endsSegment false = (· == '/') := funext fun c => by simp [endsSegment]

/-- The segments that a text spells, encoded. -/
def segmentsOf (body : List Char) : List (List Char) :=
  (splitAt (· == '/') body).map (Percent.encode inPathSet)

theorem ofText_eq (body : List Char) : ofText false body = normalize [] (segmentsOf body) := by
  rw [ofText, endsSegment_false, segmentsOf]

theorem intercalate_segmentsOf (body : List Char) :
    ['/'].intercalate (segmentsOf body) = Percent.encode inPathSet body := by
  have hslash : (if inPathSet '/' then (String.utf8EncodeChar '/').flatMap Percent.encodeByte
    else ['/']) = ['/'] := by decide
  exact (flatMap_intercalate hslash _).symm.trans (by rw [intercalate_splitAt]; rfl)

end Path

/-- No hexadecimal digit is encoded in user information. -/
theorem not_inUserinfoSet_of_isHexChar {c : Char} (h : Percent.IsHexChar c) :
    ¬ inUserinfoSet c := by
  have hall : ∀ c : Char, c.toNat < 128 → Percent.IsHexChar c → ¬ inUserinfoSet c :=
    Utf8.forall_ascii (by decide)
  exact hall c h.1 h

/-- Encoding for a path is transparent to decoding. -/
theorem decode_encode_inPathSet (cs : List Char) :
    Percent.decode (Percent.encode inPathSet cs) = Percent.decode cs := by
  refine Percent.decode_encode (by decide) (fun c hhex hpath => ?_) cs
  exact not_inUserinfoSet_of_isHexChar hhex (by simp [inUserinfoSet, hpath])

namespace Path

/-- Without segments of dots, the path of a text decodes as the text does. -/
theorem decode_ofText (h : ∀ segment ∈ segmentsOf body, ¬ IsDots segment) :
    Percent.decode (ofText false body) = 0x2F :: Percent.decode body := by
  rw [ofText_eq, normalize_eq h, decode_closed_append, intercalate_segmentsOf,
    decode_encode_inPathSet]
  rfl

/-- A text with segments of dots is longer than what its path decodes to. -/
theorem length_decode_ofText_le (h : ∃ segment ∈ segmentsOf body, IsDots segment) :
    (Percent.decode (ofText false body)).length ≤ (Utf8.encode body).length := by
  have hlt := @length_decode_normalize_lt [] _ h
  have hle : (Percent.decode body).length ≤ (Utf8.encode body).length :=
    Percent.length_decodeBytes_le _
  have hclosed : (Percent.decode (closed [])).length = 1 := rfl
  rw [size, intercalate_segmentsOf, decode_encode_inPathSet, hclosed] at hlt
  rw [ofText_eq]
  omega

/-- A text is read back from the path of a part of it only if that is the whole text, and nothing in
it is taken out or decoded. -/
theorem of_decode_ofText {cs : List Char} (hsub : body.Sublist cs)
    (h : Percent.decode (ofText false body) = 0x2F :: Utf8.encode cs) :
    body = cs ∧ (∀ segment ∈ segmentsOf body, ¬ IsDots segment) ∧
      ¬ Percent.HasEscape (Utf8.encode cs) := by
  have hdots : ∀ segment ∈ segmentsOf body, ¬ IsDots segment := by
    -- With dots, the path decodes to fewer bytes than there are to be read back.
    intro segment hsegment hdot
    have hpath := length_decode_ofText_le ⟨segment, hsegment, hdot⟩
    have hbody : (Utf8.encode body).length ≤ (Utf8.encode cs).length :=
      (hsub.flatMap String.utf8EncodeChar).length_le
    rw [h, List.length_cons] at hpath
    omega
  rw [decode_ofText hdots] at h
  have hread : Percent.decode body = Utf8.encode cs := (List.cons.inj h).2
  have hlength : (Utf8.encode cs).length ≤ (Utf8.encode body).length :=
    hread ▸ Percent.length_decodeBytes_le _
  obtain rfl := eq_of_sublist_of_length_flatMap_le Utf8.encodeChar_ne_nil hsub hlength
  exact ⟨rfl, hdots, (Percent.decodeBytes_eq_self_iff _).mp hread⟩

end Path

/-! ### Texts that are read back -/

theorem clean_sublist (cs : List Char) : (clean cs).Sublist cs := List.filter_sublist

theorem clean_eq_self_iff {cs : List Char} : clean cs = cs ↔ ∀ c ∈ cs, ¬ isDropped c := by
  unfold clean
  rw [List.filter_eq_self]
  simp

/-- What a path makes of a text: nothing, or the path of what is left of the text without the
characters that are dropped and one slash at the head. -/
theorem path_setPath_cases {url : Url} (h : url.scheme.isWeb = false) (text : String) :
    ((url.setPath text).path = [] ∧ ∀ c rest, clean text.toList = c :: rest → c = '?' ∨ c = '#') ∨
      ∃ body, (url.setPath text).path = Path.ofText false body ∧
        (clean text.toList = '/' :: body ∨ clean text.toList = body ∧
          ∃ c rest, body = c :: rest ∧ c ≠ '/' ∧ c ≠ '?' ∧ c ≠ '#') := by
  unfold setPath
  rw [h]
  dsimp only
  rw [Path.endsSegment_false]
  cases hclean : clean text.toList with
  | nil => exact .inl ⟨rfl, nofun⟩
  | cons c rest =>
    dsimp only
    split_ifs with hmark hslash
    · left
      refine ⟨rfl, ?_⟩
      rintro _ _ ⟨⟩
      simpa using hmark
    · right
      obtain rfl : c = '/' := by simpa using hslash
      exact ⟨rest, rfl, .inl rfl⟩
    · right
      exact ⟨c :: rest, rfl, .inr ⟨rfl, c, rest, rfl, by simpa using hslash, by simpa using hmark⟩⟩

/-- Unless it starts like something else, a text in which nothing is dropped is a path as it is. -/
theorem path_setPath_eq {url : Url} (h : url.scheme.isWeb = false) {text : String} {c : Char}
    {rest : List Char} (htext : text.toList = c :: rest) (hc : c ≠ '/' ∧ c ≠ '?' ∧ c ≠ '#')
    (hkept : ∀ c ∈ text.toList, ¬ isDropped c) :
    (url.setPath text).path = Path.ofText false text.toList := by
  have hclean := clean_eq_self_iff.mpr hkept
  rcases path_setPath_cases h text with ⟨-, hnone⟩ | ⟨body, hpath, hbody⟩
  · exact absurd (hnone c rest (hclean.trans htext)) (not_or.mpr hc.2)
  · rcases hbody with hbody | ⟨hbody, -⟩
    · exact absurd (List.cons.inj ((hclean.trans htext).symm.trans hbody)).1 hc.1
    · rw [hpath, ← hbody, hclean]

/-- A path that is set is empty or starts with a slash. -/
theorem path_setPath {url : Url} (h : url.scheme.isWeb = false) (text : String) :
    (url.setPath text).path = [] ∨ ∃ rest, (url.setPath text).path = '/' :: rest := by
  rcases path_setPath_cases h text with ⟨hpath, -⟩ | ⟨body, hpath, -⟩
  · exact .inl hpath
  · right
    rw [hpath, Path.ofText_eq]
    exact Path.exists_normalize_eq [] _

/-- The text keeps all its characters as a path: it starts with none that has a meaning there, none
is dropped, no segment is made of dots, and nothing in it looks like an encoded byte. -/
structure IsPlain (text : String) : Prop where
  starts : ∃ c rest, text.toList = c :: rest ∧ c ≠ '/' ∧ c ≠ '?' ∧ c ≠ '#'
  kept : ∀ c ∈ text.toList, ¬ isDropped c
  named : ∀ segment ∈ splitAt (· == '/') text.toList, segment ≠ ['.'] ∧ segment ≠ ['.', '.']
  literal : ¬ Percent.HasEscape (Utf8.bytes text)

/-- No segment of a plain text comes to be dots. -/
theorem IsPlain.not_isDots {text : String} (h : IsPlain text) :
    ∀ segment ∈ Path.segmentsOf text.toList, ¬ Path.IsDots segment := by
  intro segment hsegment hdots
  obtain ⟨raw, hraw, rfl⟩ := List.mem_map.mp hsegment
  -- Nothing in the segment is decoded, so it was dots before.
  have hself : Percent.decode raw = Utf8.encode raw := (Percent.decodeBytes_eq_self_iff _).mpr
    (mt (Percent.HasEscape.of_isInfix (isInfix_of_mem_splitAt hraw)) h.literal)
  have hdecode := Path.decode_of_isDots hdots
  rw [decode_encode_inPathSet, hself] at hdecode
  rcases hdecode with hdecode | hdecode
  · exact (h.named raw hraw).1 (Utf8.eq_of_encode_eq (by simp) hdecode)
  · exact (h.named raw hraw).2 (Utf8.eq_of_encode_eq (by simp) hdecode)

/-- A text is read back from the path that it is set as exactly if it is plain. -/
theorem decode_path_setPath_iff {url : Url} (h : url.scheme.isWeb = false) (text : String) :
    Percent.decode (url.setPath text).path = Utf8.encode ('/' :: text.toList) ↔ IsPlain text := by
  have hwhole : Utf8.encode ('/' :: text.toList) = 0x2F :: Utf8.encode text.toList := rfl
  rw [hwhole]
  constructor
  · intro hread
    rcases path_setPath_cases h text with ⟨hpath, -⟩ | ⟨body, hpath, hbody⟩
    · rw [hpath] at hread
      cases hread
    · rw [hpath] at hread
      have hclean := clean_sublist text.toList
      have hsub : body.Sublist text.toList := by
        rcases hbody with hbody | ⟨hbody, -⟩
        · exact (hbody ▸ List.sublist_cons_self '/' body).trans hclean
        · exact hbody ▸ hclean
      obtain ⟨rfl, hdots, hescape⟩ := Path.of_decode_ofText hsub hread
      rcases hbody with hbody | ⟨hbody, hstarts⟩
      · -- A slash at the head has been lost.
        have hle := hclean.length_le
        rw [hbody, List.length_cons] at hle
        omega
      · refine ⟨hstarts, clean_eq_self_iff.mp hbody, fun segment hmem => ⟨?_, ?_⟩, hescape⟩
        · rintro rfl
          exact hdots _ (List.mem_map_of_mem hmem) (by decide)
        · rintro rfl
          exact hdots _ (List.mem_map_of_mem hmem) (by decide)
  · intro hplain
    obtain ⟨c, rest, hcons, hc⟩ := hplain.starts
    rw [path_setPath_eq h hcons hc hplain.kept, Path.decode_ofText hplain.not_isDots]
    exact congrArg _ ((Percent.decodeBytes_eq_self_iff _).mpr hplain.literal)

end ServiceBroker.Url
