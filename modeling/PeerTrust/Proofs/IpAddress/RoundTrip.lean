import PeerTrust.Proofs.IpAddress.Characters
import PeerTrust.Proofs.Text.Numeral

/-!
The written form of an address is read as that address.

Octets and groups come back as numerals do, and the parts are found again because no digit is a
delimiter.  What is special to IPv6 is the gap: the writer leaves out one run of zeros, and the
reader fills up whatever is missing, so the two agree because the run and what stands around it
make up eight groups (`addressText_cases`), and because there is no other pair of colons that
the reader could take for the gap (`splitGap?_groupsText_append`).
-/

namespace PeerTrust

/-! ## IPv4 addresses -/

namespace IPv4

theorem octet?_octetText (n : UInt8) : octet? (octetText n) = some n := by
  have hn : n.toNat < 256 := n.toNat_lt
  have hlength : (octetText n).length ≤ 3 :=
    (Nat.length_toDigits_le_iff (by decide) (by decide)).2 (by omega)
  have hzero : octetText n = ['0'] ∨ (octetText n).head? ≠ some '0' := by
    by_cases h : n.toNat = 0
    · left
      unfold octetText
      rw [h, Nat.toDigits_zero]
    · exact .inr (Text.head?_toDigits_ne_zero (by decide) (by decide) (by omega))
  have hvalue : (octetText n).numeral? 10 = some n.toNat :=
    Text.numeral?_toDigits (by decide) (by decide) n.toNat
  unfold octet?
  rw [if_pos ⟨hlength, hzero⟩, hvalue]
  dsimp only
  rw [if_pos (by omega), UInt8.ofNat_toNat]

theorem dot_not_mem_octetText (n : UInt8) : '.' ∉ octetText n := by
  intro hmem
  have hvalue : (octetText n).numeral? 10 = some n.toNat :=
    Text.numeral?_toDigits (by decide) (by decide) n.toNat
  exact absurd (Text.isSome_digitValue?_of_numeral? hvalue '.' hmem) (by decide)

/-- An IPv4 address is read back. -/
theorem parse?_toText (x : IPv4) : parse? x.toText = some x := by
  have hparts : x.toText.splitOn '.' =
      [octetText x.a, octetText x.b, octetText x.c, octetText x.d] := by
    refine List.splitOn_intercalate '.' ?_ (List.cons_ne_nil _ _)
    intro part hpart
    rw [List.mem_cons, List.mem_cons, List.mem_cons, List.mem_singleton] at hpart
    rcases hpart with rfl | rfl | rfl | rfl <;> exact dot_not_mem_octetText _
  unfold parse?
  rw [hparts]
  dsimp only
  rw [octet?_octetText, octet?_octetText, octet?_octetText, octet?_octetText]
  rfl

end IPv4

/-! ## IPv6 addresses -/

namespace IPv6

/-! ### Groups -/

theorem group?_groupText (g : UInt16) : group? (groupText g) = some g := by
  have hlength : (groupText g).length ≤ 4 :=
    (Nat.length_toDigits_le_iff (by decide) (by decide)).2 g.toNat_lt
  have hvalue : (groupText g).numeral? 16 = some g.toNat :=
    Text.numeral?_toDigits (by decide) (by decide) g.toNat
  unfold group?
  rw [if_pos hlength, hvalue, Option.map_some, UInt16.ofNat_toNat]

theorem isSome_digitValue?_of_mem_groupText {g : UInt16} {c : Char} (h : c ∈ groupText g) :
    (digitValue? c).isSome = true :=
  Text.isSome_digitValue?_of_numeral?
    (Text.numeral?_toDigits (by decide) (by decide) g.toNat) c h

theorem colon_not_mem_groupText (g : UInt16) : ':' ∉ groupText g :=
  fun hmem => absurd (isSome_digitValue?_of_mem_groupText hmem) (by decide)

theorem groupText_ne_nil (g : UInt16) : groupText g ≠ [] := Nat.toDigits_ne_nil

theorem groupsText_cons_cons (g g' : UInt16) (gs : List UInt16) :
    groupsText (g :: g' :: gs) = groupText g ++ ':' :: groupsText (g' :: gs) := by
  unfold groupsText
  rw [List.map_cons, List.map_cons, List.intercalate_cons_cons, List.append_assoc]
  rfl

theorem exists_groupsText_cons (g : UInt16) (gs : List UInt16) :
    ∃ c rest, c ≠ ':' ∧ groupsText (g :: gs) = c :: rest := by
  obtain ⟨c, digits, hdigits⟩ := List.exists_cons_of_ne_nil (groupText_ne_nil g)
  have hc : c ≠ ':' := by
    rintro rfl
    exact colon_not_mem_groupText g (hdigits ▸ List.mem_cons_self)
  cases gs with
  | nil =>
    refine ⟨c, digits, hc, ?_⟩
    unfold groupsText
    rw [List.map_singleton, List.intercalate_singleton, hdigits]
  | cons g' gs =>
    refine ⟨c, digits ++ ':' :: groupsText (g' :: gs), hc, ?_⟩
    rw [groupsText_cons_cons, hdigits, List.cons_append]

theorem parts_groupsText (gs : List UInt16) : parts (groupsText gs) = gs.map groupText := by
  cases gs with
  | nil => rfl
  | cons g gs =>
    obtain ⟨c, rest, -, htext⟩ := exists_groupsText_cons g gs
    unfold parts
    rw [htext, List.isEmpty_cons, if_neg Bool.false_ne_true, ← htext]
    refine List.splitOn_intercalate ':' ?_ (List.cons_ne_nil _ _)
    intro part hpart
    obtain ⟨g', -, rfl⟩ := List.mem_map.1 hpart
    exact colon_not_mem_groupText g'

theorem mapM_group?_groupText (gs : List UInt16) :
    (gs.map groupText).mapM group? = some gs := by
  induction gs with
  | nil => rfl
  | cons g gs ih =>
    rw [List.map_cons, List.mapM_cons, group?_groupText, ih]
    rfl

theorem closing?_groupText (gs : List UInt16) : closing? (gs.map groupText) = some gs := by
  induction gs with
  | nil => rfl
  | cons g gs ih =>
    cases gs with
    | nil =>
      have hdot : ¬ (groupText g).contains '.' = true := by
        rw [List.contains_iff_mem]
        exact fun hmem => absurd (isSome_digitValue?_of_mem_groupText hmem) (by decide)
      rw [List.map_singleton]
      unfold closing?
      rw [if_neg hdot, group?_groupText]
      rfl
    | cons g' gs =>
      rw [List.map_cons] at ih
      rw [List.map_cons, List.map_cons]
      unfold closing?
      rw [group?_groupText, ih]
      rfl

/-! ### The gap -/

theorem splitGap?_append {s : Text} (h : ':' ∉ s) (t : Text) :
    splitGap? (s ++ t) = (splitGap? t).map (Prod.map (s ++ ·) id) := by
  induction s with
  | nil => exact Option.map_id'.symm
  | cons c s ih =>
    rw [List.mem_cons, not_or] at h
    rw [List.cons_append, splitGap?, if_neg (fun hgap => h.1 hgap.1.symm), ih h.2, Option.map_map]
    rfl

theorem splitGap?_colon {c : Char} (h : c ≠ ':') (t : Text) :
    splitGap? (':' :: c :: t) = (splitGap? (c :: t)).map (Prod.map (':' :: ·) id) := by
  rw [splitGap?, if_neg]
  · rfl
  · rintro ⟨-, hhead⟩
    exact h (Option.some.inj hhead)

/-- Written groups hold no gap, so the first gap is the one behind them. -/
theorem splitGap?_groupsText_append (gs : List UInt16) (t : Text) :
    splitGap? (groupsText gs ++ t) = (splitGap? t).map (Prod.map (groupsText gs ++ ·) id) := by
  -- Group by group: the digits are passed over, and the colon behind them is followed by a digit.
  induction gs with
  | nil => exact splitGap?_append List.not_mem_nil t
  | cons g gs ih =>
    cases gs with
    | nil =>
      have hone : groupsText [g] = groupText g := List.intercalate_singleton
      rw [hone, splitGap?_append (colon_not_mem_groupText g)]
    | cons g' gs =>
      obtain ⟨c, rest, hc, htext⟩ := exists_groupsText_cons g' gs
      rw [groupsText_cons_cons, List.append_assoc, splitGap?_append (colon_not_mem_groupText g),
        List.cons_append, htext, List.cons_append, splitGap?_colon hc, ← List.cons_append,
        ← htext, ih, Option.map_map, Option.map_map]
      refine Option.map_congr fun ⟨front, back⟩ _ => Prod.ext ?_ rfl
      change groupText g ++ ':' :: (groupsText (g' :: gs) ++ front) =
        groupText g ++ ':' :: groupsText (g' :: gs) ++ front
      rw [List.append_assoc, List.cons_append]

theorem splitGap?_groupsText (gs : List UInt16) : splitGap? (groupsText gs) = none := by
  rw [← List.append_nil (groupsText gs), splitGap?_groupsText_append]
  rfl

/-- The run and what stands around it make up the whole. -/
theorem longestZeroRun_spec (gs : List UInt16) :
    ∃ front back, front.length = (longestZeroRun gs).1 ∧
      gs = front ++ List.replicate (longestZeroRun gs).2 0 ++ back := by
  induction gs with
  | nil => exact ⟨[], [], rfl, rfl⟩
  | cons g gs ih =>
    obtain ⟨front, back, hfront, hgs⟩ := ih
    unfold longestZeroRun
    dsimp only
    split
    · -- The run starts here.
      refine ⟨[], (g :: gs).dropWhile (· == 0), rfl, ?_⟩
      have hzeros : (g :: gs).takeWhile (· == 0) =
          List.replicate ((g :: gs).takeWhile (· == 0)).length 0 := by
        refine List.eq_replicate_iff.2 ⟨rfl, fun b hb => ?_⟩
        exact beq_iff_eq.1 (List.all_eq_true.1 List.all_takeWhile b hb)
      rw [List.nil_append, ← hzeros, List.takeWhile_append_dropWhile]
    · -- The run is that of the rest, one place further on.
      refine ⟨g :: front, back, congrArg (· + 1) hfront, ?_⟩
      rw [List.cons_append, List.cons_append, ← hgs]

/-- An address is written with all its groups, or with a gap for zeros between two others. -/
theorem addressText_cases (gs : List UInt16) :
    addressText gs = groupsText gs ∨
      ∃ front back zeros, 2 ≤ zeros ∧ gs = front ++ List.replicate zeros 0 ++ back ∧
        addressText gs = groupsText front ++ ':' :: ':' :: groupsText back := by
  obtain ⟨front, back, hfront, hgs⟩ := longestZeroRun_spec gs
  unfold addressText
  cases hrun : longestZeroRun gs with
  | mk start zeros =>
    rw [hrun] at hfront hgs
    dsimp only at hfront hgs ⊢
    by_cases hshort : zeros < 2
    · exact .inl (if_pos hshort)
    · have htake : gs.take start = front := by
        rw [hgs, List.append_assoc, ← hfront, List.take_left]
      have hdrop : gs.drop (start + zeros) = back := by
        have hlength : (front ++ List.replicate zeros (0 : UInt16)).length = start + zeros := by
          rw [List.length_append, List.length_replicate, hfront]
        rw [hgs, ← hlength, List.drop_left]
      rw [if_neg hshort, htake, hdrop]
      exact .inr ⟨front, back, zeros, by omega, hgs, rfl⟩

/-! ### Whole addresses -/

/-- What is written in full is read in full. -/
theorem groups?_groupsText (gs : List UInt16) : groups? (groupsText gs) = some gs := by
  unfold groups?
  rw [splitGap?_groupsText, parts_groupsText]
  exact closing?_groupText gs

/-- A gap stands for whatever is missing of eight groups. -/
theorem groups?_gap {front back : List UInt16} {zeros : Nat}
    (h : front.length + zeros + back.length = 8) (hzeros : 0 < zeros) :
    groups? (groupsText front ++ ':' :: ':' :: groupsText back) =
      some (front ++ List.replicate zeros 0 ++ back) := by
  have hgap : splitGap? (':' :: ':' :: groupsText back) = some ([], groupsText back) := rfl
  have hmissing : 8 - (front.length + back.length) = zeros := by omega
  unfold groups?
  rw [splitGap?_groupsText_append, hgap, Option.map_some, Prod.map_apply, List.append_nil]
  dsimp only [id]
  rw [parts_groupsText, parts_groupsText, mapM_group?_groupText, closing?_groupText]
  simp only [bind, Option.bind_some]
  rw [if_pos (by omega), hmissing]

/-- Eight groups are read back. -/
theorem groups?_addressText {gs : List UInt16} (h : gs.length = 8) :
    groups? (addressText gs) = some gs := by
  rcases addressText_cases gs with hfull | ⟨front, back, zeros, htwo, hgs, hgap⟩
  · rw [hfull, groups?_groupsText]
  · have hlength : front.length + zeros + back.length = 8 := by
      rw [← h, hgs, List.length_append, List.length_append, List.length_replicate]
    rw [hgap, groups?_gap hlength (by omega), ← hgs]

theorem colon_mem_addressText {gs : List UInt16} (h : gs.length = 8) : ':' ∈ addressText gs :=
  colon_mem_of_groups? (groups?_addressText h) h

theorem dot_not_mem_groupsText (gs : List UInt16) : '.' ∉ groupsText gs := by
  intro hmem
  rcases Text.mem_intercalate_cases hmem with hcolon | ⟨part, hpart, hmem⟩
  · exact absurd hcolon (by decide)
  · obtain ⟨g, -, rfl⟩ := List.mem_map.1 hpart
    exact absurd (isSome_digitValue?_of_mem_groupText hmem) (by decide)

/-- An address is written with plain groups, also where it was read with an IPv4 address at its
end. -/
theorem dot_not_mem_addressText (gs : List UInt16) : '.' ∉ addressText gs := by
  rcases addressText_cases gs with hfull | ⟨front, back, -, -, -, hgap⟩
  · rw [hfull]
    exact dot_not_mem_groupsText gs
  · rw [hgap, List.mem_append, List.mem_cons, List.mem_cons]
    rintro (hfront | hcolon | hcolon | hback)
    · exact dot_not_mem_groupsText front hfront
    · exact absurd hcolon (by decide)
    · exact absurd hcolon (by decide)
    · exact dot_not_mem_groupsText back hback

/-- An IPv6 address is read back, together with its zone. -/
theorem parse?_toText {x : IPv6} (h : IsWritable x.zone) : parse? x.toText = some x :=
  parse?_eq_some_iff.2 ⟨addressText x.groups, groups?_addressText x.length_groups, h, toText_eq x⟩

end IPv6

end PeerTrust
