import ServiceBroker.Proofs.Url.Authority
import ServiceBroker.Proofs.Url.Path

/-!
# Paths that are left as they are

The segments of a path that has been read are encoded, and none of them is made of dots. Nothing is
left in such a path that could be encoded, taken out or cut another way, so reading it again makes
no difference. This is what allows to put a slash at the end of a path by setting it anew.

## Main definitions

* `Url.Path.IsSettled`: the segments that are left as they are
* `Url.Path.IsNormal`: the paths that are made of such segments

## Main results

* `Url.Path.isNormal_ofText`: every path that is read is normal
* `Url.Path.ofText_of_isNormal`: a normal path is read as it is
* `Url.setPath_of_isNormal`: a normal path is set as it is
* `Url.isNormal_path_of_parse`: the path of a URL of the web is normal
-/

namespace ServiceBroker.Url

namespace Path

variable {web : Bool} {taken segments : List (List Char)} {segment last path text : List Char}
  {c : Char}

/-! ### Segments that are left as they are -/

/-- The character is not encoded in a path, and does not end a segment. -/
def IsSettledChar (web : Bool) (c : Char) : Prop := ¬ inPathSet c ∧ ¬ endsSegment web c

/-- The segment is not made of dots, and all its characters are left as they are. -/
structure IsSettled (web : Bool) (segment : List Char) : Prop where
  not_dots : ¬ IsDots segment
  settled : ∀ c ∈ segment, IsSettledChar web c

theorem isSettled_nil : IsSettled web [] where
  not_dots := by decide
  settled := nofun

/-- What is encoded for a path is left as it is. -/
theorem isSettledChar_of_mem_encode (h : ∀ c ∈ segment, ¬ endsSegment web c)
    (hc : c ∈ Percent.encode inPathSet segment) : IsSettledChar web c := by
  have hmark : ¬ inPathSet '%' ∧ ∀ web, ¬ endsSegment web '%' := by decide
  have hdigit : ∀ n < 16, ¬ inPathSet (Hex.upperDigit n) ∧
      ∀ web, ¬ endsSegment web (Hex.upperDigit n) := by decide
  rcases Percent.mem_encode hc with ⟨hmem, hplain⟩ | rfl | ⟨n, hn, rfl⟩
  · exact ⟨hplain, h c hmem⟩
  · exact ⟨hmark.1, hmark.2 web⟩
  · exact ⟨(hdigit n hn).1, (hdigit n hn).2 web⟩

/-- No character that is left as it is gets dropped. -/
theorem IsSettledChar.not_isDropped (h : IsSettledChar web c) : ¬ isDropped c := by
  intro hdropped
  have hset : inPathSet c := by
    simp only [isDropped, Bool.or_eq_true, beq_iff_eq] at hdropped
    rcases hdropped with (rfl | rfl) | rfl <;> decide
  exact h.1 hset

/-! ### Paths of such segments -/

/-- The path is made of segments that are left as they are. -/
def IsNormal (web : Bool) (path : List Char) : Prop :=
  ∃ taken last, (∀ segment ∈ taken, IsSettled web segment) ∧ IsSettled web last ∧
    path = closed taken ++ last

theorem isNormal_closed (h : ∀ segment ∈ taken, IsSettled web segment) :
    IsNormal web (closed taken) :=
  ⟨taken, [], h, isSettled_nil, (List.append_nil _).symm⟩

/-- A path stays normal when a slash is put at its end. -/
theorem IsNormal.append_slash (h : IsNormal web path) : IsNormal web (path ++ ['/']) := by
  obtain ⟨taken, last, htaken, hlast, rfl⟩ := h
  have hclosed : closed taken ++ last ++ ['/'] = closed (last :: taken) := by
    rw [closed_cons, List.append_assoc]
  rw [hclosed]
  exact isNormal_closed (List.forall_mem_cons.mpr ⟨hlast, htaken⟩)

theorem mem_closed (hc : c ∈ closed taken) : c = '/' ∨ ∃ segment ∈ taken, c ∈ segment := by
  induction taken with
  | nil => exact .inl (List.mem_singleton.mp hc)
  | cons segment taken ih =>
    rw [closed_cons, List.mem_append, List.mem_append, List.mem_singleton] at hc
    rcases hc with hc | hc | hc
    · exact (ih hc).imp_right fun ⟨s, hs, hmem⟩ => ⟨s, List.mem_cons_of_mem _ hs, hmem⟩
    · exact .inr ⟨segment, List.mem_cons_self, hc⟩
    · exact .inl hc

/-- Nothing is dropped of a normal path. -/
theorem IsNormal.not_isDropped (h : IsNormal web path) (hc : c ∈ path) : ¬ isDropped c := by
  obtain ⟨taken, last, htaken, hlast, rfl⟩ := h
  rcases List.mem_append.mp hc with hc | hc
  · rcases mem_closed hc with rfl | ⟨segment, hsegment, hmem⟩
    · decide
    · exact ((htaken segment hsegment).settled c hmem).not_isDropped
  · exact (hlast.settled c hc).not_isDropped

theorem IsNormal.exists_eq (h : IsNormal web path) : ∃ text, path = '/' :: text := by
  obtain ⟨taken, last, -, -, rfl⟩ := h
  obtain ⟨rest, hrest⟩ := exists_closed_eq taken
  exact ⟨rest ++ last, by rw [hrest, List.cons_append]⟩

/-! ### Paths that are read -/

/-- Two dots take back a segment, or none. -/
theorem mem_of_mem_back (h : segment ∈ back taken) : segment ∈ taken := by
  cases taken with
  | nil => exact h
  | cons first earlier =>
    rw [back] at h
    split at h
    · exact h
    · exact List.mem_cons_of_mem first h

/-- Once the dots are taken out, a path of encoded segments is normal. -/
theorem isNormal_normalize (htaken : ∀ segment ∈ taken, IsSettled web segment)
    (hsegments : ∀ segment ∈ segments, ∀ c ∈ segment, IsSettledChar web c) :
    IsNormal web (normalize taken segments) := by
  have hback {taken : List (List Char)} (htaken : ∀ segment ∈ taken, IsSettled web segment) :
      ∀ segment ∈ back taken, IsSettled web segment :=
    fun segment hsegment => htaken segment (mem_of_mem_back hsegment)
  fun_induction normalize taken segments with
  | case1 taken => exact isNormal_closed htaken
  | case2 taken last hdots => exact isNormal_closed (hback htaken)
  | case3 taken last hdots hdot => exact isNormal_closed htaken
  | case4 taken last hdots hdot =>
    have hlast : IsSettled web last :=
      ⟨not_or.mpr ⟨hdots, hdot⟩, hsegments last List.mem_cons_self⟩
    exact ⟨taken, last, htaken, hlast, rfl⟩
  | case5 taken segment rest hne hdots ih =>
    exact ih (hback htaken) fun s hs => hsegments s (List.mem_cons_of_mem segment hs)
  | case6 taken segment rest hne hdots hdot ih =>
    exact ih htaken fun s hs => hsegments s (List.mem_cons_of_mem segment hs)
  | case7 taken segment rest hne hdots hdot ih =>
    have hsegment : IsSettled web segment :=
      ⟨not_or.mpr ⟨hdots, hdot⟩, hsegments segment List.mem_cons_self⟩
    exact ih (List.forall_mem_cons.mpr ⟨hsegment, htaken⟩)
      fun s hs => hsegments s (List.mem_cons_of_mem segment hs)

/-- Every path that is read is normal. -/
theorem isNormal_ofText (web : Bool) (text : List Char) : IsNormal web (ofText web text) := by
  apply isNormal_normalize (List.forall_mem_nil _)
  intro segment hsegment c hc
  obtain ⟨part, hpart, rfl⟩ := List.mem_map.mp hsegment
  exact isSettledChar_of_mem_encode (fun d hd => not_of_mem_splitAt hpart hd) hc

/-! ### Reading again -/

/-- A normal path is cut into its segments. -/
theorem splitAt_closed_append (htaken : ∀ segment ∈ taken, IsSettled web segment)
    (hlast : IsSettled web last) :
    splitAt (endsSegment web) (closed taken ++ last) = [] :: (taken.reverse ++ [last]) := by
  have hslash : endsSegment web '/' := rfl
  have hwhole {segment : List Char} (h : IsSettled web segment) :
      splitAt (endsSegment web) segment = [segment] :=
    splitAt_of_forall_not fun c hc => (h.settled c hc).2
  induction taken generalizing last with
  | nil =>
    rw [closed_nil, List.singleton_append, splitAt, if_pos hslash, hwhole hlast]
    rfl
  | cons segment taken ih =>
    rw [List.forall_mem_cons] at htaken
    have hcut : closed (segment :: taken) ++ last = closed taken ++ segment ++ '/' :: last := by
      rw [closed_cons]
      simp only [List.append_assoc, List.singleton_append]
    rw [hcut, splitAt_append_cons hslash, ih htaken.2 htaken.1, hwhole hlast]
    simp

/-- Where there are no dots nothing is taken out. -/
theorem normalize_append_singleton (hsegments : ∀ segment ∈ segments, ¬ IsDots segment)
    (hlast : ¬ IsDots last) :
    normalize taken (segments ++ [last]) = closed (segments.reverse ++ taken) ++ last := by
  induction segments generalizing taken with
  | nil =>
    have hlast := not_or.mp hlast
    rw [List.nil_append, normalize, if_neg hlast.1, if_neg hlast.2]
    rfl
  | cons segment segments ih =>
    rw [List.forall_mem_cons] at hsegments
    have hsegment := not_or.mp hsegments.1
    obtain ⟨next, rest, hnext⟩ := List.exists_cons_of_ne_nil
      (List.append_ne_nil_of_right_ne_nil segments (List.cons_ne_nil last []))
    rw [List.cons_append, hnext, normalize, if_neg hsegment.1, if_neg hsegment.2, ← hnext,
      ih hsegments.2]
    · simp
    · exact List.cons_ne_nil next rest

/-- A normal path is read as it is. -/
theorem ofText_of_isNormal (h : IsNormal web ('/' :: text)) : ofText web text = '/' :: text := by
  obtain ⟨taken, last, htaken, hlast, heq⟩ := h
  have hparts : splitAt (endsSegment web) text = taken.reverse ++ [last] := by
    have hcut := splitAt_closed_append htaken hlast
    have hslash : endsSegment web '/' := rfl
    rw [← heq, splitAt, if_pos hslash] at hcut
    exact (List.cons.inj hcut).2
  have hencode : (taken.reverse ++ [last]).map (Percent.encode inPathSet) =
      taken.reverse ++ [last] := by
    have hsettled : ∀ segment ∈ taken.reverse ++ [last], IsSettled web segment := by
      simpa [or_imp, forall_and] using ⟨htaken, hlast⟩
    refine (List.map_congr_left fun segment hsegment => ?_).trans (List.map_id _)
    exact Percent.encode_eq_self fun c hc => ((hsettled segment hsegment).settled c hc).1
  rw [ofText, hparts, hencode, normalize_append_singleton ?_ hlast.not_dots, heq]
  · simp
  · exact fun segment hsegment => (htaken segment (List.mem_reverse.mp hsegment)).not_dots

end Path

/-! ### Paths of URLs -/

variable {u : Url} {path : List Char} {text : String}

/-- A normal path is set as it is. -/
theorem setPath_of_isNormal (h : Path.IsNormal u.scheme.isWeb path) :
    u.setPath (String.ofList path) = { u with path } := by
  obtain ⟨rest, rfl⟩ := h.exists_eq
  have hclean : clean ('/' :: rest) = '/' :: rest :=
    clean_eq_self_iff.mpr fun c hc => h.not_isDropped hc
  unfold setPath
  rw [String.toList_ofList, hclean]
  have hmark : ('/' == '?' || '/' == '#') = false := by decide
  have hslash : Path.endsSegment u.scheme.isWeb '/' := rfl
  simp only [hmark, Bool.and_false, Bool.false_eq_true, if_false, hslash, if_true,
    Path.ofText_of_isNormal h]

/-- The path that the tail of a text on the web spells is normal. -/
theorem isNormal_parseTail {scheme : Scheme} (h : scheme.isWeb) (cs : List Char) :
    Path.IsNormal scheme.isWeb (parseTail scheme cs).1 := by
  have hslash : Path.IsNormal true ['/'] := Path.isNormal_closed (List.forall_mem_nil _)
  unfold parseTail
  rw [h]
  dsimp only
  generalize cs.takeWhile (fun c => c ≠ '?' ∧ c ≠ '#') = pathText
  -- What stands after the path decides on the query and the fragment only.
  cases pathText with
  | nil =>
    split
    · split <;> exact hslash
    · exact hslash
    · exact hslash
  | cons c text =>
    have hpath : Path.IsNormal true
        (if endsAuthority true c then Path.ofText true text else Path.ofText true (c :: text)) := by
      split <;> apply Path.isNormal_ofText
    split
    · split <;> exact hpath
    · exact hpath
    · exact hpath

/-- The path of a URL of the web is normal. -/
theorem isNormal_path_of_parse (h : parse text = .ok u) (hweb : u.scheme.isWeb) :
    Path.IsNormal u.scheme.isWeb u.path := by
  have hauthority {scheme : Scheme} {cs : List Char} (h : parseAuthority scheme cs = .ok u) :
      Path.IsNormal u.scheme.isWeb u.path := by
    obtain ⟨-, host, port, tail, -, -, -, rfl⟩ := parseAuthority_eq_ok_iff.mp h
    exact isNormal_parseTail hweb tail
  obtain ⟨⟨scheme, rest⟩, -, hrest⟩ := bind_eq_ok_iff.mp h
  dsimp only at hrest
  split at hrest
  · exact hauthority hrest
  · split at hrest
    · exact hauthority hrest
    · cases hrest

end ServiceBroker.Url
