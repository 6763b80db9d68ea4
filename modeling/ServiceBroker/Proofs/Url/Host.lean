import ServiceBroker.Proofs.Text.Split
import ServiceBroker.Proofs.Url.Authority

/-!
# Hosts that are put into a text as they are

A host and a port can be written after each other, and the text be read as a URL. The host is read
back as it was if no character in it ends the host, the port or the authority, marks the end of user
information or is dropped. With such a character in it, only a part of it can come to be the host.

## Main definitions

* `Url.hostOf`: the host that a text names, which is an address if the text is a literal
* `Url.IsStray`: the characters that do not stay in a host

## Main results

* `Url.hostPart_eq`: without stray characters, the host of a text is what stands before the port
* `Url.hostPart_sublist`: the host of a text is a part of what stands before the port
* `Url.parseAuthority_of_parseHost`: the URL of a host that can be read on its own
-/

namespace ServiceBroker.Url

/-! ### What a text names -/

/-- The address that a literal spells, in brackets or without them. -/
def literal? (cs : List Char) : Option Ipv6 :=
  match Ipv6.parse? cs with
  | some a => some a
  | none =>
    match cs with
    | '[' :: rest => if rest.getLast? = some ']' then Ipv6.parse? rest.dropLast else none
    | _ => none

/-- The host that a text names: the address that it spells, or else the text itself, with controls
and characters beyond ASCII encoded. -/
def hostOf (cs : List Char) : Host :=
  match literal? cs with
  | some a => .ipv6 a
  | none => .name (Percent.encode inControlSet cs)

theorem hostOf_of_literal? {cs : List Char} {a : Ipv6} (h : literal? cs = some a) :
    hostOf cs = .ipv6 a := by
  rw [hostOf, h]

/-- A literal without brackets names its address. -/
theorem hostOf_of_parse? {cs : List Char} {a : Ipv6} (h : Ipv6.parse? cs = some a) :
    hostOf cs = .ipv6 a := by
  refine hostOf_of_literal? ?_
  unfold literal?
  rw [h]

theorem hostOf_of_literal?_eq_none {cs : List Char} (h : literal? cs = none) :
    hostOf cs = .name (Percent.encode inControlSet cs) := by
  rw [hostOf, h]

theorem parse?_eq_none_of_literal? {cs : List Char} (h : literal? cs = none) :
    Ipv6.parse? cs = none := by
  unfold literal? at h
  split at h
  · cases h
  · assumption

/-- The character does not stay in a host: it sets apart the parts of an authority, ends a port or
is dropped. -/
def IsStray (c : Char) : Prop := IsDelimiter c ∨ c = '\\' ∨ isDropped c

instance (c : Char) : Decidable (IsStray c) := inferInstanceAs (Decidable (_ ∨ _ ∨ _))

theorem isStray_iff {c : Char} : IsStray c ↔ c = '/' ∨ c = '?' ∨ c = '#' ∨ c = '@' ∨ c = '\\' ∨
    c = '\t' ∨ c = '\n' ∨ c = '\r' := by
  simp [IsStray, isDelimiter_iff, isDropped, or_assoc]

theorem isForbiddenInHost_of_isStray {c : Char} (h : IsStray c) : isForbiddenInHost c := by
  rcases isStray_iff.mp h with rfl | rfl | rfl | rfl | rfl | rfl | rfl | rfl <;> decide

theorem isStray_of_endsAuthority {c : Char} (h : endsAuthority true c) : IsStray c := by
  rw [isStray_iff]
  simp only [endsAuthority, Bool.true_and, Bool.or_eq_true, beq_iff_eq] at h
  rcases h with ((rfl | rfl) | rfl) | rfl <;> decide

theorem not_isStray_of_isLiteralChar {c : Char} (h : Ipv6.IsLiteralChar c) : ¬ IsStray c := by
  unfold Ipv6.IsLiteralChar at h
  rw [isStray_iff]
  rintro (rfl | rfl | rfl | rfl | rfl | rfl | rfl | rfl) <;> revert h <;> decide

theorem not_isStray_of_isDecimalDigit {c : Char} (h : isDecimalDigit c) : ¬ IsStray c := by
  rw [isStray_iff]
  rintro (rfl | rfl | rfl | rfl | rfl | rfl | rfl | rfl) <;> revert h <;> decide

/-- No stray character stands in a literal in brackets. -/
theorem not_isStray_brackets {cs : List Char} {a : Ipv6} (h : Ipv6.parse? cs = some a) :
    ∀ c ∈ '[' :: (cs ++ [']']), ¬ IsStray c := by
  intro c hc
  simp only [List.mem_cons, List.mem_append, List.not_mem_nil, or_false] at hc
  rcases hc with rfl | hc | rfl
  · decide
  · exact not_isStray_of_isLiteralChar (Ipv6.isLiteralChar_of_parse? h c hc)
  · decide

/-- No stray character stands in a literal. -/
theorem not_isStray_of_literal? {cs : List Char} {a : Ipv6} (h : literal? cs = some a) :
    ∀ c ∈ cs, ¬ IsStray c := by
  unfold literal? at h
  split at h
  · next a' ha =>
    exact fun c hc => not_isStray_of_isLiteralChar (Ipv6.isLiteralChar_of_parse? ha c hc)
  · split at h
    · next rest =>
      split at h
      · next hlast =>
        obtain ⟨inner, rfl⟩ := List.getLast?_eq_some_iff.mp hlast
        rw [List.dropLast_concat] at h
        exact not_isStray_brackets h
      · cases h
    · cases h

/-! ### Reading a host -/

/-- A host that is read is an address in brackets, or a text that is allowed in a host. -/
theorem parseHost_cases {cs : List Char} {host : Host} (h : parseHost false cs = .ok (some host)) :
    (∃ inner a, cs = '[' :: (inner ++ [']']) ∧ Ipv6.parse? inner = some a ∧ host = .ipv6 a) ∨
      (∀ c ∈ cs, ¬ isForbiddenInHost c) ∧ host = .name (Percent.encode inControlSet cs) := by
  unfold parseHost at h
  split at h
  · cases h
  · next rest =>
    left
    split at h
    · next hlast =>
      obtain ⟨inner, rfl⟩ := List.getLast?_eq_some_iff.mp hlast
      rw [List.dropLast_concat] at h
      split at h
      · next a ha =>
        cases h
        exact ⟨inner, a, rfl, ha, rfl⟩
      · cases h
    · cases h
  · right
    rw [if_neg (by simp)] at h
    split at h
    · cases h
    · next hallowed =>
      cases h
      exact ⟨fun c hc hforbidden => hallowed (List.any_eq_true.mpr ⟨c, hc, hforbidden⟩), rfl⟩

/-- A literal in brackets is read as its address. -/
theorem parseHost_brackets {cs : List Char} {a : Ipv6} (h : Ipv6.parse? cs = some a) :
    parseHost false ('[' :: (cs ++ [']'])) = .ok (some (.ipv6 a)) := by
  simp [parseHost, h]

/-- A text that is allowed in a host is read as it is. -/
theorem parseHost_of_allowed {cs : List Char} (hne : cs ≠ [])
    (h : ∀ c ∈ cs, ¬ isForbiddenInHost c) :
    parseHost false cs = .ok (some (.name (Percent.encode inControlSet cs))) := by
  unfold parseHost
  split
  · exact absurd rfl hne
  · exact absurd (by decide) (h '[' List.mem_cons_self)
  · rw [if_neg (by simp), if_neg (by simpa using h)]

/-- No stray character stands in a text that is read as a host. -/
theorem not_isStray_of_parseHost {cs : List Char} {host : Host}
    (h : parseHost false cs = .ok (some host)) : ∀ c ∈ cs, ¬ IsStray c := by
  rcases parseHost_cases h with ⟨inner, a, rfl, ha, -⟩ | ⟨hallowed, -⟩
  · exact not_isStray_brackets ha
  · exact fun c hc hstray => hallowed c hc (isForbiddenInHost_of_isStray hstray)

/-- A host that is read with a colon in it is in brackets. -/
theorem getLast?_of_parseHost {cs : List Char} {host : Option Host}
    (h : parseHost false cs = .ok host) (hcolon : ':' ∈ cs) : cs.getLast? = some ']' := by
  cases host with
  | none =>
    rw [parseHost_eq_none_iff.mp h] at hcolon
    cases hcolon
  | some host =>
    rcases parseHost_cases h with ⟨inner, a, rfl, -⟩ | ⟨hallowed, -⟩
    · rw [← List.cons_append, List.getLast?_concat]
    · exact absurd (by decide) (hallowed ':' hcolon)

/-- A text that is no literal without brackets is read as what it names. -/
theorem eq_hostOf_of_parseHost {cs : List Char} {host : Host} (hliteral : Ipv6.parse? cs = none)
    (h : parseHost false cs = .ok (some host)) : host = hostOf cs := by
  rcases parseHost_cases h with ⟨inner, a, rfl, ha, rfl⟩ | ⟨hallowed, rfl⟩
  · refine (hostOf_of_literal? ?_).symm
    simp [literal?, hliteral, ha]
  · refine (hostOf_of_literal?_eq_none ?_).symm
    unfold literal?
    rw [hliteral]
    dsimp only
    split
    · exact absurd (by decide) (hallowed '[' List.mem_cons_self)
    · rfl

/-! ### A host and a port in a text -/

theorem splitHost_append (web bracketed : Bool) (cs : List Char) :
    (splitHost web bracketed cs).1 ++ (splitHost web bracketed cs).2 = cs := by
  induction cs generalizing bracketed with
  | nil => rfl
  | cons c cs ih =>
    rw [splitHost]
    split
    · rfl
    · exact congrArg (c :: ·) (ih _)

/-- A host ends at the end of the authority or at a colon. -/
theorem of_splitHost_snd {web bracketed : Bool} {cs rest : List Char} {c : Char}
    (h : (splitHost web bracketed cs).2 = c :: rest) : endsAuthority web c ∨ c = ':' := by
  induction cs generalizing bracketed with
  | nil => cases h
  | cons d cs ih =>
    rw [splitHost] at h
    split at h
    · next hd =>
      obtain ⟨rfl, -⟩ := List.cons.inj h
      simp only [Bool.or_eq_true, Bool.and_eq_true, beq_iff_eq] at hd
      exact hd.imp_right And.left
    · exact ih h

/-- Only something that ends an authority can follow a port. -/
theorem endsAuthority_of_parsePort {scheme : Scheme} {cs tail : List Char} {port : Option Nat}
    (h : parsePort scheme cs = .ok (port, tail)) :
    ∀ c rest, cs.dropWhile isDecimalDigit = c :: rest → endsAuthority true c := by
  intro c rest hrest
  unfold parsePort at h
  rw [hrest] at h
  dsimp only at h
  split at h
  · cases h
  · next hends =>
    simp only [Bool.or_eq_true, not_or] at hends
    simpa using hends.2

/-- Digits end at a colon, if at nothing before it. -/
theorem exists_dropWhile_isDecimalDigit (cs ds : List Char) :
    ∃ c rest, (cs ++ ':' :: ds).dropWhile isDecimalDigit = c :: rest ∧ (c ∈ cs ∨ c = ':') := by
  rw [List.dropWhile_append]
  cases hdrop : cs.dropWhile isDecimalDigit with
  | nil => exact ⟨':', ds, rfl, .inr rfl⟩
  | cons c rest =>
    refine ⟨c, rest ++ ':' :: ds, rfl, .inl ?_⟩
    exact (List.dropWhile_suffix isDecimalDigit).subset (hdrop ▸ List.mem_cons_self)

theorem splitUserinfo?_eq_none {cs : List Char} (h : '@' ∉ cs) : splitUserinfo? cs = none := by
  rcases hsplit : splitUserinfo? cs with _ | ⟨before, after⟩
  · rfl
  · rw [eq_append_of_splitUserinfo? hsplit] at h
    simp at h

/-- What stands before the host of a text is nothing, or ends at an at sign. -/
theorem exists_eq_append_hostPart (web : Bool) (cs : List Char) :
    ∃ front, cs = front ++ ((hostPart web cs).1 ++ (hostPart web cs).2) ∧
      (front = [] ∨ front.getLast? = some '@') := by
  unfold hostPart
  rw [splitHost_append]
  have hcs := authorityPart_append_beyondPart web cs
  rcases userinfoPart_cases web cs with heq | ⟨-, heq⟩
  · rw [heq]
    exact ⟨[], hcs.symm, .inl rfl⟩
  · refine ⟨(userinfoPart web cs).1 ++ ['@'], ?_, .inr List.getLast?_concat⟩
    rw [List.append_assoc, List.singleton_append, ← List.cons_append, ← List.append_assoc, ← heq,
      hcs]

/-- A host without a colon in it is a part of what stands before the port. -/
theorem hostPart_sublist {web : Bool} {cs ds : List Char} (hat : '@' ∉ ds)
    (hcolon : ':' ∉ (hostPart web (cs ++ ':' :: ds)).1) :
    (hostPart web (cs ++ ':' :: ds)).1.Sublist cs := by
  obtain ⟨front, happend, hfront⟩ := exists_eq_append_hostPart web (cs ++ ':' :: ds)
  generalize hostPart web (cs ++ ':' :: ds) = parts at hcolon happend ⊢
  rcases List.append_eq_append_iff.mp happend with ⟨more, hmore, hrest⟩ | ⟨more, hmore, hrest⟩
  · cases more with
    | nil =>
      have hprefix : parts.1 <+: [] ++ ':' :: ds := ⟨parts.2, hrest.symm⟩
      exact (isPrefix_of_isPrefix_append_cons hprefix hcolon).sublist.trans (List.nil_sublist cs)
    | cons d more =>
      -- The user information would have to end at an at sign after the colon.
      have hlast : (d :: more).getLast? = some '@' := by
        rcases hfront with hfront | hfront
        · simp [hfront] at hmore
        · simpa [hmore] using hfront
      have hmem : '@' ∈ ':' :: ds := hrest ▸ List.mem_append_left _ (List.mem_of_getLast? hlast)
      rcases List.mem_cons.mp hmem with hmem | hmem
      · cases hmem
      · exact absurd hmem hat
  · have hprefix : parts.1 <+: more ++ ':' :: ds := ⟨parts.2, hrest⟩
    refine (isPrefix_of_isPrefix_append_cons hprefix hcolon).sublist.trans ?_
    exact hmore ▸ List.sublist_append_right front more

/-- Without an at sign in the authority, a text starts with its host. -/
theorem hostPart_eq_splitHost {web : Bool} {cs : List Char} (h : '@' ∉ authorityPart web cs) :
    hostPart web cs = splitHost web false cs := by
  rw [hostPart, userinfoPart, splitUserinfo?_eq_none h, Option.getD_none,
    authorityPart_append_beyondPart]

/-- A second colon comes after a port only if a stray character stands between the two. -/
theorem exists_isStray_of_portPart {scheme : Scheme} {cs ds tail : List Char} {port : Option Nat}
    (h : portPart scheme (':' :: (cs ++ ':' :: ds)) = .ok (port, tail)) : ∃ c ∈ cs, IsStray c := by
  obtain ⟨c, rest, hdrop, hc⟩ := exists_dropWhile_isDecimalDigit cs ds
  have hends := endsAuthority_of_parsePort (show parsePort _ _ = _ from h) c rest hdrop
  rcases hc with hc | rfl
  · exact ⟨c, hc, isStray_of_endsAuthority hends⟩
  · exact absurd hends (by decide)

/-- Without stray characters, the host of a text is what stands before the port. -/
theorem hostPart_eq {name cs digits : List Char} {url : Url} (hcs : ∀ c ∈ cs, ¬ IsStray c)
    (hdigits : ∀ d ∈ digits, isDecimalDigit d)
    (h : parseAuthority (.other name) (cs ++ ':' :: (digits ++ ['/'])) = .ok url) :
    hostPart false (cs ++ ':' :: (digits ++ ['/'])) = (cs, ':' :: (digits ++ ['/'])) := by
  obtain ⟨-, host, port, tail, hhost, hport, -, -⟩ := parseAuthority_eq_ok_iff.mp h
  have hstray : ∀ c ∈ cs ++ ':' :: digits, ¬ IsStray c :=
    List.forall_mem_append.mpr ⟨hcs, List.forall_mem_cons.mpr ⟨by decide, fun d hd =>
      not_isStray_of_isDecimalDigit (hdigits d hd)⟩⟩
  have hauthority : authorityPart false (cs ++ ':' :: (digits ++ ['/'])) = cs ++ ':' :: digits := by
    rw [← List.cons_append, ← List.append_assoc]
    exact authorityPart_append (fun c hc hends => hstray c hc (.inl (.inl hends)))
      (by rintro _ _ ⟨⟩; rfl)
  have hsplit : hostPart false (cs ++ ':' :: (digits ++ ['/'])) =
      splitHost false false (cs ++ ':' :: (digits ++ ['/'])) :=
    hostPart_eq_splitHost (hauthority ▸ fun hmem => hstray '@' hmem (by decide))
  have happend := splitHost_append false false (cs ++ ':' :: (digits ++ ['/']))
  have hends := @of_splitHost_snd false false (cs ++ ':' :: (digits ++ ['/']))
  rw [isWeb_other, hsplit] at hhost hport
  rw [hsplit]
  generalize splitHost false false (cs ++ ':' :: (digits ++ ['/'])) = parts at *
  rcases List.append_eq_append_iff.mp happend with ⟨more, hmore, hrest⟩ | ⟨more, hmore, hrest⟩
  · cases more with
    | nil => exact Prod.ext (by simpa using hmore.symm) hrest
    | cons c more =>
      -- The host would end at a colon within it, and a port would come before the last colon.
      rcases hends hrest with hc | rfl
      · exact absurd (.inl (.inl hc)) (hcs c (by simp [hmore]))
      · rw [hrest] at hport
        obtain ⟨c, hc, hstray⟩ := exists_isStray_of_portPart hport
        exact absurd hstray (hcs c (by simp [hmore, hc]))
  · cases more with
    | nil => exact Prod.ext (by simpa using hmore) (by simpa using hrest.symm)
    | cons c more =>
      -- The host would end in a bracket, which stands neither in the port nor after it.
      obtain ⟨rfl, -⟩ := List.cons.inj hrest
      have hlast := getLast?_of_parseHost hhost (by simp [hmore])
      have hmem : ']' ∈ ':' :: more := List.mem_of_getLast? (by simpa [hmore] using hlast)
      have hmem : ']' ∈ ':' :: (digits ++ ['/']) := hrest ▸ List.mem_append_left _ hmem
      simp only [List.mem_cons, List.mem_append, List.not_mem_nil, or_false] at hmem
      rcases hmem with hmem | hmem | hmem
      · cases hmem
      · exact absurd (hdigits ']' hmem) (by decide)
      · cases hmem

/-! ### A host that can be read on its own -/

/-- A character that ends no host is part of it. -/
theorem splitHost_cons {bracketed bracketed' : Bool} {c : Char} (hends : ¬ endsAuthority false c)
    (hcolon : c = ':' → bracketed)
    (hnext : (if c == '[' then true else if c == ']' then false else bracketed) = bracketed')
    (cs : List Char) :
    splitHost false bracketed (c :: cs) =
      (c :: (splitHost false bracketed' cs).1, (splitHost false bracketed' cs).2) := by
  rw [splitHost, if_neg (by simpa [hends] using hcolon), hnext]

/-- Without brackets, only a colon can end a host before the authority ends. -/
theorem splitHost_append_of_not_mem {bracketed : Bool} {cs : List Char}
    (hends : ∀ c ∈ cs, ¬ endsAuthority false c) (hcolon : ':' ∈ cs → bracketed)
    (hopen : '[' ∉ cs) (hclose : ']' ∉ cs) (rest : List Char) :
    splitHost false bracketed (cs ++ rest) =
      (cs ++ (splitHost false bracketed rest).1, (splitHost false bracketed rest).2) := by
  induction cs with
  | nil => rfl
  | cons c cs ih =>
    obtain ⟨hcends, hends⟩ := List.forall_mem_cons.mp hends
    simp only [List.mem_cons, not_or] at hopen hclose
    have hnext :
        (if c == '[' then true else if c == ']' then false else bracketed) = bracketed := by
      rw [if_neg (by simpa using Ne.symm hopen.1), if_neg (by simpa using Ne.symm hclose.1)]
    rw [List.cons_append, splitHost_cons hcends (fun hc => hcolon (hc ▸ List.mem_cons_self)) hnext,
      ih hends (fun hc => hcolon (List.mem_cons_of_mem c hc)) hopen.2 hclose.2]
    rfl

/-- A text that is read as a host ends where a port starts. -/
theorem splitHost_of_parseHost {cs : List Char} {host : Host}
    (h : parseHost false cs = .ok (some host)) (rest : List Char) :
    splitHost false false (cs ++ ':' :: rest) = (cs, ':' :: rest) := by
  have hends : ∀ c ∈ cs, ¬ endsAuthority false c :=
    fun c hc hends => not_isStray_of_parseHost h c hc (.inl (.inl hends))
  have hport : splitHost false false (':' :: rest) = ([], ':' :: rest) := by simp [splitHost]
  rcases parseHost_cases h with ⟨inner, a, rfl, ha, -⟩ | ⟨hallowed, -⟩
  · have hinner {c : Char} (hc : ¬ Ipv6.IsLiteralChar c) : c ∉ inner :=
      fun hmem => hc (Ipv6.isLiteralChar_of_parse? ha c hmem)
    rw [List.cons_append, List.append_assoc, List.singleton_append,
      @splitHost_cons false true '[' (by decide) (by decide) rfl,
      splitHost_append_of_not_mem (fun c hc => hends c (by simp [hc])) (fun _ => rfl)
        (hinner (by decide)) (hinner (by decide)),
      @splitHost_cons true false ']' (by decide) (by decide) rfl, hport]
  · rw [splitHost_append_of_not_mem hends (fun hc => absurd (by decide) (hallowed ':' hc))
      (fun hc => hallowed '[' hc (by decide)) (fun hc => hallowed ']' hc (by decide)), hport]
    simp

/-- A host that can be read on its own and a port spell the URL that has them. -/
theorem parseAuthority_of_parseHost {name cs rest tail : List Char} {host : Host}
    {port : Option Nat} (hhost : parseHost false cs = .ok (some host)) (hat : '@' ∉ rest)
    (hport : portPart (.other name) (':' :: rest) = .ok (port, tail)) :
    parseAuthority (.other name) (cs ++ ':' :: rest) =
      .ok (ofParts (.other name) (cs ++ ':' :: rest) (some host) port tail) := by
  have hwhole : '@' ∉ authorityPart false (cs ++ ':' :: rest) := by
    intro hmem
    rcases List.mem_append.mp ((List.takeWhile_prefix _).subset hmem) with hmem | hmem
    · exact not_isStray_of_parseHost hhost '@' hmem (by decide)
    · exact hat (by simpa using hmem)
  have hpart : hostPart false (cs ++ ':' :: rest) = (cs, ':' :: rest) :=
    (hostPart_eq_splitHost hwhole).trans (splitHost_of_parseHost hhost rest)
  refine parseAuthority_eq_ok_iff.mpr ⟨?_, some host, port, tail, ?_, ?_, nofun, rfl⟩
  · rintro ⟨hmark, -⟩
    rw [isWeb_other, splitUserinfo?_eq_none hwhole] at hmark
    cases hmark
  · rw [isWeb_other, hpart]
    exact hhost
  · rw [isWeb_other, hpart]
    exact hport

end ServiceBroker.Url
