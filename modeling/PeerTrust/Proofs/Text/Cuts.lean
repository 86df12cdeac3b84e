import Mathlib.Data.List.DropRight
import Mathlib.Data.List.TakeWhile
import PeerTrust.Text.Basic

/-!
Cuts undo joins.

A text that was joined at a delimiter comes apart again at the same place as long as the delimiter
does not stand in the part that is searched first: in front of it for `upTo` and `past?`, behind it
for `pastLast`.  The other part may hold the delimiter as often as it likes, and that is the whole
reason why a URL with hostile user information or a hostile path is still read as it was written.

A split at every delimiter is undone by joining the parts again, and it is determined by that:
the parts are free of the delimiter, and there is only one way to write a text as a join of such
parts.
-/

namespace PeerTrust.Text

variable {d c : Char} {s rest : Text}

theorem ne_delimiter_of_not_mem (h : d ∉ s) : ∀ c ∈ s, (c != d) = true := by
  intro c hc
  rw [bne_iff_ne]
  rintro rfl
  exact h hc

/-! ## The first delimiter -/

theorem upTo_of_not_mem (h : d ∉ s) : upTo d s = s :=
  List.takeWhile_eq_self_iff.2 (ne_delimiter_of_not_mem h)

theorem upTo_append_cons (h : d ∉ s) : upTo d (s ++ d :: rest) = s := by
  unfold upTo
  rw [List.takeWhile_append_of_pos (ne_delimiter_of_not_mem h),
    List.takeWhile_cons_of_neg (by rw [bne_self_eq_false]; exact Bool.false_ne_true),
    List.append_nil]

theorem past?_of_not_mem (h : d ∉ s) : past? d s = none := by
  unfold past?
  rw [List.dropWhile_eq_nil_iff.2 (ne_delimiter_of_not_mem h)]
  rfl

theorem dropWhile_append_cons (h : d ∉ s) :
    (s ++ d :: rest).dropWhile (· != d) = d :: rest := by
  rw [List.dropWhile_append_of_pos (ne_delimiter_of_not_mem h),
    List.dropWhile_cons_of_neg (by rw [bne_self_eq_false]; exact Bool.false_ne_true)]

theorem past?_append_cons (h : d ∉ s) : past? d (s ++ d :: rest) = some rest := by
  unfold past?
  rw [dropWhile_append_cons h]
  rfl

theorem past?_eq_none_iff : past? d s = none ↔ d ∉ s := by
  refine ⟨fun h hmem => ?_, past?_of_not_mem⟩
  obtain ⟨front, back, rfl, hnot⟩ := List.eq_append_cons_of_mem hmem
  rw [past?_append_cons hnot] at h
  cases h

theorem mem_of_mem_upTo (h : c ∈ upTo d s) : c ∈ s := (List.takeWhile_sublist _).subset h

theorem mem_of_mem_past? (h : past? d s = some rest) (hc : c ∈ rest) : c ∈ s := by
  rw [← upTo_append_past? h]
  exact List.mem_append_right _ (List.mem_cons_of_mem d hc)

/-! ## The last delimiter -/

theorem mem_of_mem_pastLast (h : c ∈ pastLast d s) : c ∈ s ∧ c ≠ d := by
  unfold pastLast at h
  rw [List.mem_reverse] at h
  refine ⟨List.mem_reverse.1 ((List.takeWhile_sublist _).subset h), ?_⟩
  rintro rfl
  exact not_mem_upTo c s.reverse h

theorem pastLast_of_not_mem (h : d ∉ s) : pastLast d s = s := by
  have hreverse : d ∉ s.reverse := fun hmem => h (List.mem_reverse.1 hmem)
  unfold pastLast
  rw [List.takeWhile_eq_self_iff.2 (ne_delimiter_of_not_mem hreverse), List.reverse_reverse]

/-- The last delimiter is the first one from the other end. -/
theorem reverse_append_cons : (s ++ d :: rest).reverse = rest.reverse ++ d :: s.reverse := by
  rw [List.reverse_append, List.reverse_cons, List.append_assoc, List.singleton_append]

theorem pastLast_append_cons (h : d ∉ rest) : pastLast d (s ++ d :: rest) = rest := by
  have hreverse : d ∉ rest.reverse := fun hmem => h (List.mem_reverse.1 hmem)
  have hcut : upTo d (rest.reverse ++ d :: s.reverse) = rest.reverse := upTo_append_cons hreverse
  unfold upTo at hcut
  unfold pastLast
  rw [reverse_append_cons, hcut, List.reverse_reverse]

theorem upToLast?_of_not_mem (h : d ∉ s) : upToLast? d s = none := by
  unfold upToLast?
  rw [past?_of_not_mem fun hmem => h (List.mem_reverse.1 hmem), Option.map_none]

theorem upToLast?_append_cons (h : d ∉ rest) : upToLast? d (s ++ d :: rest) = some s := by
  unfold upToLast?
  rw [reverse_append_cons, past?_append_cons fun hmem => h (List.mem_reverse.1 hmem),
    Option.map_some, List.reverse_reverse]

theorem exists_append_cons_not_mem (h : d ∈ s) :
    ∃ front rest, s = front ++ d :: rest ∧ d ∉ rest := by
  obtain ⟨back, front, hs, hback⟩ := List.eq_append_cons_of_mem (List.mem_reverse.2 h)
  refine ⟨front.reverse, back.reverse, ?_, fun hmem => hback (List.mem_reverse.1 hmem)⟩
  rw [← List.reverse_reverse s, hs, reverse_append_cons]

/-! ## Blanks at the ends -/

theorem trim_of_head?_not_blank (h : ∀ c ∈ s.head?, isBlank c = false) :
    trim s = s.rdropWhile isBlank := by
  unfold trim List.rdropWhile
  cases s with
  | nil => rfl
  | cons c s =>
    rw [List.dropWhile_cons_of_neg]
    rw [h c rfl]
    exact Bool.false_ne_true

/-- Dropping blanks from the end stops at a character that is none. -/
theorem rdropWhile_append_cons (hd : isBlank d = false) :
    (s ++ d :: rest).rdropWhile isBlank = s ++ d :: rest.rdropWhile isBlank := by
  induction rest using List.reverseRecOn with
  | nil => exact List.rdropWhile_concat_neg _ _ _ (by rw [hd]; exact Bool.false_ne_true)
  | append_singleton rest c ih =>
    rw [← List.cons_append, ← List.append_assoc, List.rdropWhile_concat, List.rdropWhile_concat, ih]
    split
    · rfl
    · rw [List.append_assoc, List.cons_append]

/-- A first character that is no blank stays the first. -/
theorem trim_cons (hc : isBlank c = false) : trim (c :: s) = c :: s.rdropWhile isBlank := by
  have hhead : ∀ d ∈ (c :: s).head?, isBlank d = false := by
    intro d hd
    rwa [← Option.some.inj hd]
  rw [trim_of_head?_not_blank hhead]
  exact rdropWhile_append_cons (s := []) hc

theorem trim_append_cons (h : ∀ c ∈ s.head?, isBlank c = false) (hne : s ≠ [])
    (hd : isBlank d = false) :
    trim (s ++ d :: rest) = s ++ d :: rest.rdropWhile isBlank := by
  have hhead : ∀ c ∈ (s ++ d :: rest).head?, isBlank c = false := by
    rwa [List.head?_append_of_ne_nil _ hne]
  rw [trim_of_head?_not_blank hhead, rdropWhile_append_cons hd]

/-- The text neither starts nor ends with a blank. -/
structure IsTrimmed (s : Text) : Prop where
  head_not_blank : ∀ c ∈ s.head?, isBlank c = false
  last_not_blank : ∀ c ∈ s.getLast?, isBlank c = false

theorem IsTrimmed.trim_eq (h : IsTrimmed s) : trim s = s := by
  rw [trim_of_head?_not_blank h.head_not_blank, List.rdropWhile_eq_self_iff]
  intro hne
  rw [h.last_not_blank _ (List.getLast?_eq_some_getLast hne)]
  exact Bool.false_ne_true

theorem isTrimmed_of_not_blank (h : ∀ c ∈ s, isBlank c = false) : IsTrimmed s :=
  ⟨fun c hc => h c (List.mem_of_mem_head? hc), fun c hc => h c (List.mem_of_getLast? hc)⟩

theorem trim_of_not_blank (h : ∀ c ∈ s, isBlank c = false) : trim s = s :=
  (isTrimmed_of_not_blank h).trim_eq

theorem isTrimmed_trim (s : Text) : IsTrimmed (trim s) := by
  have htrim : trim s = (s.dropWhile isBlank).rdropWhile isBlank := rfl
  constructor
  · -- What is left starts where the dropping from the front has stopped.
    intro c hc
    obtain ⟨rest, hrest⟩ := List.head?_eq_some_iff.1 hc
    obtain ⟨behind, hbehind⟩ := List.rdropWhile_prefix isBlank (s.dropWhile isBlank)
    have hhead : (s.dropWhile isBlank).head? = some c := by
      rw [← hbehind, ← htrim, hrest]
      rfl
    have hstop := List.head?_dropWhile_not isBlank s
    rw [hhead] at hstop
    exact hstop
  · intro c hc
    obtain ⟨front, hfront⟩ := List.getLast?_eq_some_iff.1 hc
    have hne : trim s ≠ [] := by simp [hfront]
    have hlast := List.rdropWhile_last_not isBlank (s.dropWhile isBlank) hne
    rw [← Bool.not_eq_true]
    simpa only [← htrim, hfront, List.getLast_concat] using hlast

/-- Only blanks are trimmed away. -/
theorem exists_eq_append_trim (s : Text) :
    ∃ before after, s = before ++ trim s ++ after ∧ ∀ c ∈ before ++ after, isBlank c = true := by
  refine ⟨s.takeWhile isBlank, (s.dropWhile isBlank).rtakeWhile isBlank, ?_, ?_⟩
  · have htrim : trim s = (s.dropWhile isBlank).rdropWhile isBlank := rfl
    rw [htrim, List.append_assoc, List.rdropWhile_append_rtakeWhile,
      List.takeWhile_append_dropWhile]
  · intro c hc
    rcases List.mem_append.1 hc with hc | hc
    · exact List.mem_takeWhile_imp hc
    · exact List.mem_rtakeWhile_imp hc

theorem mem_of_mem_trim (h : c ∈ trim s) : c ∈ s := by
  obtain ⟨before, after, hs, -⟩ := exists_eq_append_trim s
  rw [hs]
  simp [h]

theorem mem_trim_iff (hc : isBlank c = false) : c ∈ trim s ↔ c ∈ s := by
  refine ⟨mem_of_mem_trim, fun h => ?_⟩
  obtain ⟨before, after, hs, hblank⟩ := exists_eq_append_trim s
  by_contra hnot
  have hmem : c ∈ before ++ after := by
    rw [hs] at h
    simpa [hnot] using h
  rw [hblank c hmem] at hc
  cases hc

theorem trim_eq_nil_iff : trim s = [] ↔ s.isAllBlank = true := by
  unfold isAllBlank
  rw [List.all_eq_true]
  constructor
  · intro h c hc
    by_contra hblank
    rw [Bool.not_eq_true] at hblank
    exact absurd ((mem_trim_iff hblank).2 hc) (by simp [h])
  · intro h
    by_contra hne
    obtain ⟨c, rest, hcons⟩ := List.exists_cons_of_ne_nil hne
    have hhead : c ∈ (trim s).head? := by simp [hcons]
    have hmem : c ∈ s := mem_of_mem_trim (List.mem_of_mem_head? hhead)
    have hblank := h c hmem
    rw [(isTrimmed_trim s).head_not_blank c hhead] at hblank
    cases hblank

/-! ## Characters of the parts -/

theorem mem_intercalate_cases {parts : List Text} (h : c ∈ [d].intercalate parts) :
    c = d ∨ ∃ part ∈ parts, c ∈ part := by
  induction parts with
  | nil => exact absurd h List.not_mem_nil
  | cons part parts ih =>
    cases parts with
    | nil =>
      rw [List.intercalate_singleton] at h
      exact .inr ⟨part, List.mem_cons_self, h⟩
    | cons next parts =>
      rw [List.intercalate_cons_cons, List.append_assoc, List.mem_append, List.singleton_append,
        List.mem_cons] at h
      rcases h with hpart | hsep | hrest
      · exact .inr ⟨part, List.mem_cons_self, hpart⟩
      · exact .inl hsep
      · rcases ih hrest with hsep | ⟨other, hother, hc⟩
        · exact .inl hsep
        · exact .inr ⟨other, List.mem_cons_of_mem part hother, hc⟩

theorem mem_intercalate_of_mem {parts : List Text} {part : Text} (hpart : part ∈ parts)
    (h : c ∈ part) : c ∈ [d].intercalate parts := by
  induction parts with
  | nil => exact absurd hpart List.not_mem_nil
  | cons first parts ih =>
    cases parts with
    | nil =>
      rw [List.mem_singleton.1 hpart] at h
      rwa [List.intercalate_singleton]
    | cons next parts =>
      rw [List.intercalate_cons_cons, List.append_assoc, List.mem_append]
      rcases List.mem_cons.1 hpart with rfl | hrest
      · exact .inl h
      · exact .inr (List.mem_append_right _ (ih hrest))

/-- Every character of a text that was split is a separator or belongs to a part. -/
theorem mem_splitOn_cases (d : Char) (h : c ∈ s) : c = d ∨ ∃ part ∈ s.splitOn d, c ∈ part := by
  -- Joining the parts again gives the text, so its characters are those of the join.
  rw [← @List.intercalate_splitOn _ s _ _ d] at h
  exact mem_intercalate_cases h

/-- What holds of the separator and of the characters of every part holds of every character. -/
theorem forall_mem_of_splitOn {P : Char → Prop} (hd : P d)
    (h : ∀ part ∈ s.splitOn d, ∀ c ∈ part, P c) : ∀ c ∈ s, P c := by
  intro c hc
  rcases mem_splitOn_cases d hc with rfl | ⟨part, hpart, hmem⟩
  · exact hd
  · exact h part hpart c hmem

/-! ## Every delimiter -/

theorem splitOn_cons_self : (d :: s).splitOn d = [] :: s.splitOn d :=
  List.splitOn_append_cons_self_of_not_mem (List.not_mem_nil (a := d)) s

/-- A character other than the delimiter goes to the first part. -/
theorem exists_splitOn_cons_of_ne (h : c ≠ d) (s : Text) :
    ∃ first parts, s.splitOn d = first :: parts ∧ (c :: s).splitOn d = (c :: first) :: parts := by
  obtain ⟨first, parts, hsplit⟩ := List.exists_cons_of_ne_nil (List.splitOn_ne_nil d s)
  refine ⟨first, parts, hsplit, ?_⟩
  rw [List.splitOn_cons_eq_if_modifyHead, if_neg (by rwa [beq_iff_eq]), hsplit]
  rfl

theorem not_mem_of_mem_splitOn {part : Text} (h : part ∈ s.splitOn d) : d ∉ part := by
  induction s generalizing part with
  | nil =>
    rw [List.splitOn_nil, List.mem_singleton] at h
    rw [h]
    exact List.not_mem_nil
  | cons c s ih =>
    by_cases hc : c = d
    · rw [hc, splitOn_cons_self, List.mem_cons] at h
      rcases h with rfl | hrest
      · exact List.not_mem_nil
      · exact ih hrest
    · obtain ⟨first, parts, hs, hcons⟩ := exists_splitOn_cons_of_ne hc s
      rw [hcons, List.mem_cons] at h
      rcases h with rfl | hrest
      · rw [List.mem_cons, not_or]
        exact ⟨fun hd => hc hd.symm, ih (hs ▸ List.mem_cons_self)⟩
      · exact ih (hs ▸ List.mem_cons_of_mem first hrest)

/-- Only a text with the delimiter has a second part. -/
theorem mem_of_one_lt_length_splitOn (h : 1 < (s.splitOn d).length) : d ∈ s := by
  by_contra hnot
  rw [List.splitOn_eq_singleton hnot] at h
  exact absurd h (lt_irrefl 1)

/-- A change of characters that leaves the delimiter alone, and makes no other character one, may
be made before or after the split. -/
theorem splitOn_map {f : Char → Char} (hf : ∀ c, f c = d ↔ c = d) (s : Text) :
    (s.map f).splitOn d = (s.splitOn d).map (List.map f) := by
  induction s with
  | nil => rfl
  | cons c s ih =>
    rw [List.map_cons]
    by_cases hc : c = d
    · rw [(hf c).2 hc, hc, splitOn_cons_self, splitOn_cons_self, ih]
      rfl
    · -- Both splits put the character in front of their first part.
      obtain ⟨first, parts, hs, hcons⟩ := exists_splitOn_cons_of_ne hc s
      obtain ⟨first', parts', hs', hcons'⟩ :=
        exists_splitOn_cons_of_ne (fun h => hc ((hf c).1 h)) (s.map f)
      rw [ih, hs] at hs'
      obtain ⟨rfl, rfl⟩ := List.cons.inj hs'
      rw [hcons, hcons']
      rfl

/-- Two joins, joined. -/
theorem intercalate_append {parts parts' : List Text} (h : parts ≠ []) (h' : parts' ≠ []) :
    [d].intercalate (parts ++ parts') = [d].intercalate parts ++ d :: [d].intercalate parts' := by
  induction parts with
  | nil => exact absurd rfl h
  | cons part parts ih =>
    cases parts with
    | nil =>
      rw [List.singleton_append, List.intercalate_cons_of_ne_nil h', List.intercalate_singleton,
        List.append_assoc]
      rfl
    | cons next parts =>
      rw [List.cons_append, List.cons_append, List.intercalate_cons_cons,
        List.intercalate_cons_cons, ← List.cons_append, ih (List.cons_ne_nil next parts),
        List.append_assoc _ _ (d :: _)]

end PeerTrust.Text
