import Mathlib.Data.List.Flatten
import ServiceBroker.Text.Split

/-!
# Lists that are cut apart and put together

A list that is cut at every occurrence of an element loses nothing but these occurrences, which come
back when the parts are put together. A map that writes every element as some list tells a list from
those that it is got from by leaving something out.

## Main results

* `intercalate_splitAt`: the parts of a list, put together again
* `flatMap_intercalate`: writing the elements of a list part by part
* `eq_of_sublist_of_length_flatMap_le`: what is as long when it is written lacks nothing
-/

namespace ServiceBroker

variable {α β : Type}

/-! ### Parts of a list -/

theorem splitAt_ne_nil (p : α → Bool) (as : List α) : splitAt p as ≠ [] := by
  cases as with
  | nil => exact nofun
  | cons a as =>
    rw [splitAt]
    split
    · exact nofun
    · split <;> exact nofun

/-- A list is put together again from what it is cut into. -/
theorem intercalate_splitAt [DecidableEq α] (a : α) (as : List α) :
    [a].intercalate (splitAt (· == a) as) = as := by
  induction as with
  | nil => rfl
  | cons b as ih =>
    rw [splitAt]
    cases hparts : splitAt (· == a) as with
    | nil => exact absurd hparts (splitAt_ne_nil _ as)
    | cons first others =>
      rw [hparts] at ih
      split
      · next hcut =>
        rw [List.intercalate_cons_cons, ih, beq_iff_eq.mp hcut]
        rfl
      · cases others with
        | nil => simpa using ih
        | cons second others => simpa [List.intercalate_cons_cons] using ih

/-- A list in which nothing is cut is its only part. -/
theorem splitAt_of_forall_not {p : α → Bool} {as : List α} (h : ∀ a ∈ as, ¬ p a) :
    splitAt p as = [as] := by
  induction as with
  | nil => rfl
  | cons a as ih =>
    rw [splitAt, if_neg (h a List.mem_cons_self), ih fun b hb => h b (List.mem_cons_of_mem a hb)]

theorem splitAt_of_not_mem [DecidableEq α] {a : α} {as : List α} (h : a ∉ as) :
    splitAt (· == a) as = [as] :=
  splitAt_of_forall_not fun _ hb hab => h (beq_iff_eq.mp hab ▸ hb)

/-- A list is cut into the parts of what stands before and after an element at which it is cut. -/
theorem splitAt_append_cons {p : α → Bool} {a : α} (ha : p a) (front back : List α) :
    splitAt p (front ++ a :: back) = splitAt p front ++ splitAt p back := by
  induction front with
  | nil => exact if_pos ha
  | cons b front ih =>
    rw [List.cons_append, splitAt, splitAt, ih]
    split
    · rfl
    · cases hparts : splitAt p front with
      | nil => exact absurd hparts (splitAt_ne_nil p front)
      | cons first others => rfl

/-- An element of a list is one at which the list is cut, or stands in one of the parts. -/
theorem mem_splitAt {p : α → Bool} {a : α} {as : List α} (h : a ∈ as) :
    p a ∨ ∃ part ∈ splitAt p as, a ∈ part := by
  induction as with
  | nil => cases h
  | cons b as ih =>
    rw [splitAt]
    by_cases hb : p b
    · rw [if_pos hb]
      rcases List.mem_cons.mp h with rfl | h
      · exact .inl hb
      · exact (ih h).imp_right fun ⟨part, hpart, ha⟩ => ⟨part, List.mem_cons_of_mem _ hpart, ha⟩
    · rw [if_neg hb]
      cases hparts : splitAt p as with
      | nil => exact absurd hparts (splitAt_ne_nil p as)
      | cons first others =>
        rw [hparts] at ih
        rcases List.mem_cons.mp h with rfl | h
        · exact .inr ⟨_, List.mem_cons_self, List.mem_cons_self⟩
        · refine (ih h).imp_right fun ⟨part, hpart, ha⟩ => ?_
          rcases List.mem_cons.mp hpart with rfl | hpart
          · exact ⟨_, List.mem_cons_self, List.mem_cons_of_mem _ ha⟩
          · exact ⟨part, List.mem_cons_of_mem _ hpart, ha⟩

/-- Nothing at which a list is cut stands in one of its parts. -/
theorem not_of_mem_splitAt {p : α → Bool} {a : α} {part as : List α} (hpart : part ∈ splitAt p as)
    (ha : a ∈ part) : ¬ p a := by
  induction as generalizing part with
  | nil =>
    rw [List.mem_singleton.mp hpart] at ha
    cases ha
  | cons b as ih =>
    rw [splitAt] at hpart
    by_cases hb : p b
    · rw [if_pos hb] at hpart
      rcases List.mem_cons.mp hpart with rfl | hpart
      · cases ha
      · exact ih hpart ha
    · rw [if_neg hb] at hpart
      cases hparts : splitAt p as with
      | nil => exact absurd hparts (splitAt_ne_nil p as)
      | cons first others =>
        rw [hparts] at hpart ih
        rcases List.mem_cons.mp hpart with rfl | hpart
        · rcases List.mem_cons.mp ha with rfl | ha
          · exact hb
          · exact ih List.mem_cons_self ha
        · exact ih (List.mem_cons_of_mem first hpart) ha

/-- A part stands in the list that is cut. -/
theorem isInfix_of_mem_splitAt [DecidableEq α] {a : α} {part as : List α}
    (h : part ∈ splitAt (· == a) as) : part <:+: as := by
  rw [← intercalate_splitAt a as]
  generalize splitAt (· == a) as = parts at h
  induction parts with
  | nil => cases h
  | cons first others ih =>
    cases others with
    | nil => simp [List.mem_singleton.mp h]
    | cons second others =>
      rw [List.intercalate_cons_cons]
      rcases List.mem_cons.mp h with rfl | h
      · exact ((List.prefix_append _ _).trans (List.prefix_append _ _)).isInfix
      · exact (ih h).trans (List.suffix_append _ _).isInfix

/-- The head of a list stops before an element that does not stand in it. -/
theorem isPrefix_of_isPrefix_append_cons {as front back : List α} {a : α}
    (h : as <+: front ++ a :: back) (ha : a ∉ as) : as <+: front := by
  obtain ⟨rest, h⟩ := h
  rcases List.append_eq_append_iff.mp h with ⟨more, hfront, -⟩ | ⟨more, has, hback⟩
  · exact ⟨more, hfront.symm⟩
  · cases more with
    | nil => exact ⟨[], by simpa using has⟩
    | cons b more =>
      obtain ⟨rfl, -⟩ := List.cons.inj hback
      exact absurd (has ▸ by simp) ha

/-! ### Cutting once -/

/-- Where a list is cut at the first occurrence of an element. -/
theorem takeWhile_dropWhile_iff [DecidableEq α] {a : α} {as front back : List α} :
    (as.takeWhile (· ≠ a) = front ∧ ∃ b, as.dropWhile (· ≠ a) = b :: back) ↔
      a ∉ front ∧ as = front ++ a :: back := by
  constructor
  · rintro ⟨rfl, b, hdrop⟩
    have hb : b = a := by
      have hfirst := List.head?_dropWhile_not (· ≠ a) as
      rw [hdrop] at hfirst
      simpa using hfirst
    subst hb
    refine ⟨fun ha => ?_, by rw [← hdrop, List.takeWhile_append_dropWhile]⟩
    simpa using List.all_eq_true.mp List.all_takeWhile b ha
  · rintro ⟨ha, rfl⟩
    have hfront : ∀ c ∈ front, decide (c ≠ a) = true := by
      rintro c hc
      exact decide_eq_true fun h => ha (h ▸ hc)
    rw [List.takeWhile_append_of_pos hfront, List.dropWhile_append_of_pos hfront]
    simp

/-! ### Writing every element as a list -/

/-- Parts can be written one by one if what stands between them is written as itself. -/
theorem flatMap_intercalate {f : α → List α} {a : α} (ha : f a = [a]) (parts : List (List α)) :
    ([a].intercalate parts).flatMap f = [a].intercalate (parts.map (List.flatMap f)) := by
  induction parts with
  | nil => rfl
  | cons first others ih =>
    cases others with
    | nil => simp
    | cons second others =>
      rw [List.map_cons, List.map_cons, List.intercalate_cons_cons, List.intercalate_cons_cons,
        List.flatMap_append, List.flatMap_append, List.flatMap_singleton, ha, ih, List.map_cons]

/-- If nothing is written as nothing, what is as long when it is written lacks nothing. -/
theorem eq_of_sublist_of_length_flatMap_le {f : α → List β} (hf : ∀ a, f a ≠ [])
    {as bs : List α} (h : as.Sublist bs)
    (hlength : (bs.flatMap f).length ≤ (as.flatMap f).length) : as = bs := by
  induction h with
  | slnil => rfl
  | cons b h ih =>
    -- What is left out would have been written as something.
    have hb := List.length_pos_iff.mpr (hf b)
    have hle := (h.flatMap f).length_le
    rw [List.flatMap_cons, List.length_append] at hlength
    omega
  | cons_cons a h ih =>
    rw [List.flatMap_cons, List.flatMap_cons, List.length_append, List.length_append] at hlength
    rw [ih (by omega)]

end ServiceBroker
