import PeerTrust.Text.Basic

/-!
Numerals are read back as they were written.

Writing puts the digit of lowest weight at the end and goes on with the quotient, reading starts
at the other end with a value so far.  The two meet in `readDigits?_append`: to read a text to its
end is to read a front part first and to go on with its value.  A numeral of a positive number
starts with a digit other than zero, which is what tells it from a numeral with zeros in front.
-/

namespace PeerTrust

theorem digitValue?_digitChar : ∀ {d : Nat}, d < 16 → digitValue? d.digitChar = some d := by decide

namespace Text

variable {base acc n : Nat} {s t : Text}

theorem readDigits?_cons {c : Char} {cs : Text} :
    readDigits? base acc (c :: cs) =
      match digitValue? c with
      | some d => if d < base then readDigits? base (acc * base + d) cs else none
      | none => none := rfl

theorem readDigits?_append :
    readDigits? base acc (s ++ t) = (readDigits? base acc s).bind (readDigits? base · t) := by
  induction s generalizing acc with
  | nil => rfl
  | cons c cs ih =>
    rw [List.cons_append, readDigits?_cons, readDigits?_cons]
    cases digitValue? c with
    | none => rfl
    | some d =>
      dsimp only
      by_cases hd : d < base
      · rw [if_pos hd, if_pos hd, ih]
      · rw [if_neg hd, if_neg hd]
        rfl

theorem readDigits?_digitChar {d : Nat} (hd : d < base) (hmax : base ≤ 16) :
    readDigits? base acc [d.digitChar] = some (acc * base + d) := by
  rw [readDigits?_cons, digitValue?_digitChar (by omega)]
  dsimp only
  rw [if_pos hd]
  rfl

theorem readDigits?_toDigits (hbase : 1 < base) (hmax : base ≤ 16) (n : Nat) :
    readDigits? base 0 (Nat.toDigits base n) = some n := by
  -- The numeral of `n` is that of its quotient with one more digit, so the induction is on `n`.
  induction n using Nat.strongRecOn with
  | ind n ih =>
    rw [Nat.toDigits_eq_if hbase]
    by_cases hn : n < base
    · rw [if_pos hn, readDigits?_digitChar hn hmax, Nat.zero_mul, Nat.zero_add]
    · have hpos : 0 < n := by omega
      rw [if_neg hn, readDigits?_append, ih (n / base) (Nat.div_lt_self hpos hbase),
        Option.bind_some, readDigits?_digitChar (Nat.mod_lt n (by omega)) hmax,
        Nat.div_add_mod' n base]

theorem exists_digitChar_of_mem_toDigits (hbase : 1 < base) {c : Char}
    (h : c ∈ Nat.toDigits base n) : ∃ d < base, c = d.digitChar := by
  induction n using Nat.strongRecOn with
  | ind n ih =>
    rw [Nat.toDigits_eq_if hbase] at h
    by_cases hn : n < base
    · rw [if_pos hn, List.mem_singleton] at h
      exact ⟨n, hn, h⟩
    · rw [if_neg hn, List.mem_append, List.mem_singleton] at h
      rcases h with hfront | hlast
      · exact ih (n / base) (Nat.div_lt_self (by omega) hbase) hfront
      · exact ⟨n % base, Nat.mod_lt n (by omega), hlast⟩

/-- What is written in a base is read back in it. -/
theorem numeral?_toDigits (hbase : 1 < base) (hmax : base ≤ 16) (n : Nat) :
    numeral? base (Nat.toDigits base n) = some n := by
  unfold numeral?
  rw [if_neg (fun hempty => Nat.toDigits_ne_nil (List.isEmpty_iff.1 hempty)),
    readDigits?_toDigits hbase hmax]

theorem head?_toDigits_ne_zero (hbase : 1 < base) (hmax : base ≤ 16) (hn : 0 < n) :
    (Nat.toDigits base n).head? ≠ some '0' := by
  induction n using Nat.strongRecOn with
  | ind n ih =>
    rw [Nat.toDigits_eq_if hbase]
    by_cases hlt : n < base
    · rw [if_pos hlt, List.head?_cons]
      intro hzero
      -- The digit zero would be read as zero.
      have hvalue : digitValue? n.digitChar = some n := digitValue?_digitChar (by omega)
      rw [Option.some.inj hzero] at hvalue
      have : (0 : Nat) = n := Option.some.inj hvalue
      omega
    · have hquotient : 0 < n / base := Nat.div_pos (by omega) (by omega)
      have hhead := ih (n / base) (Nat.div_lt_self hn hbase) hquotient
      obtain ⟨c, cs, hcons⟩ := List.exists_cons_of_ne_nil
        (Nat.toDigits_ne_nil (n := n / base) (b := base))
      rw [hcons] at hhead
      rw [if_neg hlt, hcons]
      exact hhead

end Text

end PeerTrust
