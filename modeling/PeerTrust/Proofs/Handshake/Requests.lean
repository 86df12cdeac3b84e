import Mathlib.Data.List.Induction
import Mathlib.Data.List.TakeWhile
import PeerTrust.Handshake.CipherRequest

/-!
How a request for ciphers is read.

A request is one text, but what stands between two separators is read by itself: no item goes on
behind a separator.  So a request is obeyed word by word (`run?_eq_foldlM_words`), and all that has
to be known is what one word does.

Here words are of interest that carry no instruction (`Plain`), as names of ciphers do not.  Such a
word selects the cipher of that name if there is one.  If there is none it is passed over, however
it goes on.  Only in two cases does it matter how a word is written (`Garbled`): a word that does
not begin like a name, and one that goes on after the name of a cipher, make the whole request
unreadable.
-/

namespace PeerTrust.CipherRequest

variable {table : CipherTable} {common : Option Cipher} {k other : Cipher} {sel : CipherSelection}
  {c d : Char} {s cs rest word : Text} {ws : List Text}

/-! ## Nothing is read across a separator -/

theorem isNameCharacter_of_isSeparator (h : isSeparator d = true) : isNameCharacter d = false := by
  simp only [isSeparator, Bool.or_eq_true, beq_iff_eq] at h
  rcases h with ((rfl | rfl) | rfl) | rfl <;> decide

section Stop

variable {p : Char → Bool}

theorem takeWhile_append_stop (hd : p d = false) (s rest : Text) :
    (s ++ d :: rest).takeWhile p = s.takeWhile p := by
  induction s with
  | nil => simp [hd]
  | cons c s ih => by_cases hc : p c = true <;> simp [hc, ih]

theorem dropWhile_append_stop (hd : p d = false) (s rest : Text) :
    (s ++ d :: rest).dropWhile p = s.dropWhile p ++ d :: rest := by
  induction s with
  | nil => simp [hd]
  | cons c s ih => by_cases hc : p c = true <;> simp [hc, ih]

end Stop

theorem fromSeparator_append (hd : isSeparator d = true) (s rest : Text) :
    fromSeparator (s ++ d :: rest) = fromSeparator s ++ d :: rest :=
  dropWhile_append_stop (by simp [hd]) s rest

section CommonCipher

variable (hlead : s.takeWhile isNameCharacter ≠ [])

theorem commonCipher?_of_missing (h : s.takeWhile isNameCharacter = []) :
    commonCipher? table common s = none := by
  rw [commonCipher?, if_pos (by simp [h])]

include hlead

theorem commonCipher?_of_unknown (hfind : table.find? (s.takeWhile isNameCharacter) = none) :
    commonCipher? table common s = some (none, fromSeparator (s.dropWhile isNameCharacter)) := by
  rw [commonCipher?, if_neg (by simpa using hlead), hfind]

variable (hfind : table.find? (s.takeWhile isNameCharacter) = some k)

include hfind

theorem commonCipher?_of_different (hother : common.any (· != k) = true) :
    commonCipher? table common s = some (none, fromSeparator (s.dropWhile isNameCharacter)) := by
  rw [commonCipher?, if_neg (by simpa using hlead), hfind]
  exact if_pos hother

theorem commonCipher?_of_joined {more : Text} (hsame : ¬ common.any (· != k) = true)
    (hmore : s.dropWhile isNameCharacter = '+' :: more) :
    commonCipher? table common s = commonCipher? table (some k) more := by
  rw [commonCipher?, if_neg (by simpa using hlead), hfind]
  dsimp only
  rw [if_neg hsame]
  split
  · next more' hmore' =>
    rw [hmore] at hmore'
    cases hmore'
    rfl
  · next hlast => exact absurd hmore (hlast more)

theorem commonCipher?_of_last (hsame : ¬ common.any (· != k) = true)
    (hlast : ∀ more, s.dropWhile isNameCharacter ≠ '+' :: more) :
    commonCipher? table common s = some (some k, s.dropWhile isNameCharacter) := by
  rw [commonCipher?, if_neg (by simpa using hlead), hfind]
  dsimp only
  rw [if_neg hsame]
  split
  · next more hmore => exact absurd hmore (hlast more)
  · rfl

end CommonCipher

theorem commonCipher?_append (hd : isSeparator d = true) :
    commonCipher? table common (s ++ d :: rest) =
      (commonCipher? table common s).map fun (r, tail) => (r, tail ++ d :: rest) := by
  have hname := isNameCharacter_of_isSeparator hd
  have htake (s : Text) := takeWhile_append_stop hname s rest
  have hdrop (s : Text) := dropWhile_append_stop hname s rest
  fun_induction commonCipher? table common s with
  | case1 common s hmissing =>
    rw [commonCipher?_of_missing (by simpa [htake] using hmissing)]
    rfl
  | case2 common s hlead hfind =>
    rw [commonCipher?_of_unknown (by simpa [htake] using hlead) (by rwa [htake]), hdrop,
      fromSeparator_append hd]
    rfl
  | case3 common s hlead k hfind hother =>
    rw [commonCipher?_of_different (by simpa [htake] using hlead) (by rwa [htake]) hother, hdrop,
      fromSeparator_append hd]
    rfl
  | case4 common s hlead k hfind hsame more hmore ih =>
    rw [commonCipher?_of_joined (by simpa [htake] using hlead) (by rwa [htake]) hsame
      (by rw [hdrop, hmore]; rfl)]
    exact ih
  | case5 common s hlead k hfind hsame hlast =>
    -- A sign that joins names cannot come from behind the separator.
    have hlast' : ∀ more, (s ++ d :: rest).dropWhile isNameCharacter ≠ '+' :: more := by
      intro more hmore
      rw [hdrop] at hmore
      rcases List.append_eq_cons_iff.1 hmore with ⟨-, hsep⟩ | ⟨more', hmore', -⟩
      · cases hsep
        cases hd
      · exact hlast more' hmore'
    rw [commonCipher?_of_last (by simpa [htake] using hlead) (by rwa [htake]) hsame hlast', hdrop]
    rfl

theorem item?_append (hd : isSeparator d = true) :
    item? table c (cs ++ d :: rest) =
      (item? table c cs).map fun (f, tail) => (f, tail ++ d :: rest) := by
  have hname := isNameCharacter_of_isSeparator hd
  unfold item?
  split
  · rfl
  · split
    · rw [takeWhile_append_stop hname, dropWhile_append_stop hname, fromSeparator_append hd]
      cases directive? (cs.takeWhile isNameCharacter) <;> rfl
    · split
      · rw [commonCipher?_append hd]
        cases commonCipher? table none cs <;> rfl
      · rw [← List.cons_append, commonCipher?_append hd]
        cases commonCipher? table none (c :: cs) <;> rfl

theorem run?_of_item?_eq_none (h : item? table c cs = none) : run? table (c :: cs) sel = none := by
  rw [run?]
  split
  · rfl
  · next hsome =>
    rw [h] at hsome
    cases hsome

theorem run?_of_item?_eq_some {f : CipherSelection → CipherSelection}
    (h : item? table c cs = some (f, rest)) :
    run? table (c :: cs) sel = run? table rest (f sel) := by
  rw [run?]
  split
  · next hnone =>
    rw [h] at hnone
    cases hnone
  · next hsome =>
    rw [h] at hsome
    cases hsome
    rfl

/-- What stands before a separator is obeyed first, and then what stands behind it. -/
theorem run?_append (hd : isSeparator d = true) (s rest : Text) (sel : CipherSelection) :
    run? table (s ++ d :: rest) sel = (run? table s sel).bind (run? table rest) := by
  fun_induction run? table s sel with
  | case1 sel =>
    rw [List.nil_append, run?_of_item?_eq_some (if_pos hd)]
    rfl
  | case2 c cs sel hnone =>
    rw [List.cons_append, run?_of_item?_eq_none]
    · rfl
    · rw [item?_append hd, hnone]
      rfl
  | case3 c cs sel f tail hsome ih =>
    rw [List.cons_append, run?_of_item?_eq_some, ih]
    rw [item?_append hd, hsome]
    rfl

/-! ## Nothing unknown is selected -/

theorem mem_selectable_of_commonCipher? (hcommon : ∀ k ∈ common, k ∈ table.selectable)
    (h : commonCipher? table common s = some (some k, rest)) : k ∈ table.selectable := by
  fun_induction commonCipher? table common s with
  | case1 => cases h
  | case2 => cases h
  | case3 => cases h
  | case4 common s hsome found hfind hother more hmore ih =>
    refine ih (fun k' hk' => ?_) h
    cases hk'
    exact List.mem_of_find?_eq_some hfind
  | case5 common s hsome found hfind hother hnot =>
    cases h
    exact List.mem_of_find?_eq_some hfind

theorem selected_of_add (hk : k ∈ (sel.add other).selected) : k ∈ sel.selected ∨ k = other := by
  unfold CipherSelection.add at hk
  split at hk
  · exact .inl hk
  · simpa using hk

theorem selected_of_directive? {f : CipherSelection → CipherSelection}
    (h : directive? word = some f) (hk : k ∈ (f sel).selected) : k ∈ sel.selected := by
  unfold directive? at h
  split at h
  · cases h
    exact List.mem_mergeSort.1 hk
  · split at h
    · cases h
      exact hk
    · cases h

/-- Instructions take ciphers out and rearrange them, but they add none. -/
theorem selected_of_operator? {act : CipherSelection → Cipher → CipherSelection}
    (h : operator? c = some act) (hk : k ∈ (act sel other).selected) : k ∈ sel.selected := by
  unfold operator? at h
  split at h
  · cases h
    exact List.mem_of_mem_erase hk
  · cases h
    unfold CipherSelection.demote at hk
    split at hk
    · next hmem =>
      rcases List.mem_append.1 hk with hk | hk
      · exact List.mem_of_mem_erase hk
      · rw [List.mem_singleton.1 hk]
        exact List.contains_iff_mem.1 hmem
    · exact hk
  · cases h
    exact List.mem_of_mem_erase hk
  · cases h

/-- What one item selects was selected before, or the table has it. -/
theorem selected_of_item? {f : CipherSelection → CipherSelection}
    (h : item? table c cs = some (f, rest)) (hk : k ∈ (f sel).selected) :
    k ∈ sel.selected ∨ k ∈ table.selectable := by
  unfold item? at h
  split at h
  · cases h
    exact .inl hk
  split at h
  · obtain ⟨f', hf', heq⟩ := Option.map_eq_some_iff.1 h
    cases heq
    exact .inl (selected_of_directive? hf' hk)
  split at h
  · next act hact =>
    obtain ⟨⟨found?, tail⟩, -, heq⟩ := Option.map_eq_some_iff.1 h
    cases heq
    cases found? with
    | none => exact .inl hk
    | some found => exact .inl (selected_of_operator? hact hk)
  · obtain ⟨⟨found?, tail⟩, hfound, heq⟩ := Option.map_eq_some_iff.1 h
    cases heq
    cases found? with
    | none => exact .inl hk
    | some found =>
      rcases selected_of_add hk with hbefore | rfl
      · exact .inl hbefore
      · exact .inr (mem_selectable_of_commonCipher? (by simp) hfound)

/-- What a request selects was selected before, or the table has it. -/
theorem selected_of_run? {final : CipherSelection} (h : run? table s sel = some final)
    (hk : k ∈ final.selected) : k ∈ sel.selected ∨ k ∈ table.selectable := by
  fun_induction run? table s sel with
  | case1 sel =>
    cases h
    exact .inl hk
  | case2 => cases h
  | case3 c cs sel f rest hitem ih =>
    rcases ih h with hbefore | hmem
    · exact selected_of_item? hitem hbefore
    · exact .inr hmem

/-! ## A request and its words -/

/-- What stands between separators. -/
def words (request : Text) : List Text := request.splitOnP isSeparator

theorem words_append (hd : isSeparator d = true) (s rest : Text) :
    words (s ++ d :: rest) = words s ++ words rest :=
  List.splitOnP_append_cons s rest hd

theorem words_of_no_separator (h : ∀ c ∈ s, isSeparator c = false) : words s = [s] :=
  List.splitOnP_eq_singleton h

/-- A request is one word, or there is a separator between two shorter requests. -/
theorem request_induction {motive : Text → Prop}
    (word : ∀ word, (∀ c ∈ word, isSeparator c = false) → motive word)
    (join : ∀ front d rest, isSeparator d = true → motive front → motive rest →
      motive (front ++ d :: rest)) (request : Text) : motive request := by
  by_cases hsep : ∃ d ∈ request, isSeparator d = true
  · obtain ⟨d, hmem, hd⟩ := hsep
    obtain ⟨front, rest, rfl⟩ := List.append_of_mem hmem
    exact join front d rest hd (request_induction word join front)
      (request_induction word join rest)
  · exact word request (by simpa using hsep)
termination_by request.length

/-- A request is obeyed word by word. -/
theorem run?_eq_foldlM_words (request : Text) (sel : CipherSelection) :
    run? table request sel = (words request).foldlM (fun sel word => run? table word sel) sel := by
  induction request using request_induction generalizing sel with
  | word word h =>
    rw [words_of_no_separator h, List.foldlM_cons]
    simp
  | join front d rest hd ihfront ihrest =>
    rw [run?_append hd, words_append hd, List.foldlM_append, ihfront]
    exact Option.bind_congr fun next _ => ihrest next

theorem not_isSeparator_of_mem_words {request : Text} (h : word ∈ words request) :
    ∀ c ∈ word, isSeparator c = false := by
  induction request using request_induction with
  | word s hs =>
    rw [words_of_no_separator hs, List.mem_singleton] at h
    rwa [h]
  | join front d rest hd ihfront ihrest =>
    rw [words_append hd, List.mem_append] at h
    exact h.elim ihfront ihrest

theorem words_intercalate {names : List Text} (hne : names ≠ []) :
    words ([':'].intercalate names) = names.flatMap words := by
  induction names with
  | nil => exact absurd rfl hne
  | cons name names ih =>
    cases names with
    | nil => simp
    | cons next names =>
      rw [List.intercalate_cons_cons, List.append_assoc, List.singleton_append,
        words_append (by decide), ih (List.cons_ne_nil _ _)]
      rfl

/-! ## One word -/

/-- The word carries no instruction: it does not take anything out or rearrange it. -/
def Plain (word : Text) : Prop := word.head? ≠ some '-' ∧ '+' ∉ word ∧ '!' ∉ word ∧ '@' ∉ word

instance : Decidable (Plain word) :=
  inferInstanceAs (Decidable (word.head? ≠ some '-' ∧ '+' ∉ word ∧ '!' ∉ word ∧ '@' ∉ word))

/-- The word could be the name of a cipher. -/
def IsName (word : Text) : Prop :=
  word ≠ [] ∧ word.head? ≠ some '-' ∧ ∀ c ∈ word, isNameCharacter c = true

instance : Decidable (IsName word) :=
  decidable_of_iff (word ≠ [] ∧ word.head? ≠ some '-' ∧ word.all isNameCharacter = true)
    (by simp only [IsName, List.all_eq_true])

/-- The cipher of this name. -/
def recognize? (table : CipherTable) (word : Text) : Option Cipher :=
  if IsName word then table.find? word else none

/-- The word does not begin like a name, or it goes on after the name of a cipher. -/
def Garbled (table : CipherTable) (word : Text) : Prop :=
  word ≠ [] ∧ (word.takeWhile isNameCharacter = [] ∨
    word.takeWhile isNameCharacter ≠ word ∧
      (table.find? (word.takeWhile isNameCharacter)).isSome = true)

instance : Decidable (Garbled table word) :=
  inferInstanceAs (Decidable (word ≠ [] ∧ (word.takeWhile isNameCharacter = [] ∨
    word.takeWhile isNameCharacter ≠ word ∧
      (table.find? (word.takeWhile isNameCharacter)).isSome = true)))

theorem name_of_recognize? (h : recognize? table word = some k) : k.name = word := by
  unfold recognize? at h
  split at h
  · exact beq_iff_eq.1 (List.find?_some h :)
  · cases h

section IsName

variable (h : IsName word)

include h

theorem IsName.plain : Plain word := by
  obtain ⟨-, hminus, hchars⟩ := h
  have hnot (c : Char) (hc : isNameCharacter c = false) : c ∉ word := by
    intro hmem
    rw [hchars c hmem] at hc
    cases hc
  exact ⟨hminus, hnot '+' (by decide), hnot '!' (by decide), hnot '@' (by decide)⟩

theorem IsName.not_garbled : ¬ Garbled table word := by
  have hwhole : word.takeWhile isNameCharacter = word := List.takeWhile_eq_self_iff.2 h.2.2
  rintro ⟨hne, hnil | ⟨hrest, -⟩⟩
  · rw [hwhole] at hnil
    exact hne hnil
  · exact hrest hwhole

theorem IsName.words_eq : words word = [word] := by
  apply words_of_no_separator
  intro c hc
  by_contra hsep
  rw [Bool.not_eq_false] at hsep
  have hname := h.2.2 c hc
  rw [isNameCharacter_of_isSeparator hsep] at hname
  cases hname

end IsName

theorem isName_of_recognize? (h : recognize? table word = some k) : IsName word := by
  unfold recognize? at h
  split at h
  · assumption
  · cases h

theorem ne_nil_of_lead_ne_nil (h : s.takeWhile isNameCharacter ≠ []) : s ≠ [] := by
  rintro rfl
  exact h rfl

/-- Where a word goes on after its beginning, it does not go on like a name. -/
theorem exists_rest_of_lead_ne (h : s.takeWhile isNameCharacter ≠ s) :
    ∃ d ds, s.dropWhile isNameCharacter = d :: ds ∧ isNameCharacter d = false := by
  cases hdrop : s.dropWhile isNameCharacter with
  | nil =>
    have happend := List.takeWhile_append_dropWhile (p := isNameCharacter) (l := s)
    rw [hdrop, List.append_nil] at happend
    exact absurd happend h
  | cons d ds =>
    have hhead := List.head?_dropWhile_not isNameCharacter s
    rw [hdrop] at hhead
    exact ⟨d, ds, rfl, hhead⟩

theorem recognize?_eq_none (h : table.find? (word.takeWhile isNameCharacter) = none) :
    recognize? table word = none := by
  unfold recognize?
  split
  · next hname =>
    rwa [List.takeWhile_eq_self_iff.2 hname.2.2] at h
  · rfl

section PlainWord

variable (hsep : ∀ c ∈ word, isSeparator c = false) (hplain : Plain word)

theorem item?_of_plain (hsep : ∀ x ∈ c :: cs, isSeparator x = false) (hplain : Plain (c :: cs)) :
    item? table c cs = (commonCipher? table none (c :: cs)).map fun (cipher?, rest) =>
      (fun s => (cipher?.map s.add).getD s, rest) := by
  obtain ⟨hminus, hplus, hbang, hat⟩ := hplain
  have hoperator : operator? c = none := by
    unfold operator?
    split
    · exact absurd rfl hminus
    · exact absurd List.mem_cons_self hplus
    · exact absurd List.mem_cons_self hbang
    · rfl
  unfold item?
  rw [hsep c List.mem_cons_self, if_neg Bool.false_ne_true, if_neg, hoperator]
  rintro rfl
  exact hat List.mem_cons_self

include hsep hplain

theorem run?_of_lead_nil (hne : word ≠ []) (hlead : word.takeWhile isNameCharacter = []) :
    run? table word sel = none := by
  obtain ⟨c, cs, rfl⟩ := List.exists_cons_of_ne_nil hne
  rw [run?_of_item?_eq_none]
  rw [item?_of_plain hsep hplain, commonCipher?_of_missing hlead]
  rfl

theorem run?_of_lead_unknown (hlead : word.takeWhile isNameCharacter ≠ [])
    (hfind : table.find? (word.takeWhile isNameCharacter) = none) :
    run? table word sel = some sel := by
  obtain ⟨c, cs, rfl⟩ := List.exists_cons_of_ne_nil (ne_nil_of_lead_ne_nil hlead)
  have hrest : fromSeparator ((c :: cs).dropWhile isNameCharacter) = [] := by
    refine List.dropWhile_eq_nil_iff.2 fun x hx => ?_
    simp [hsep x ((List.dropWhile_suffix _).subset hx)]
  have hitem : item? table c cs = some (id, []) := by
    rw [item?_of_plain hsep hplain, commonCipher?_of_unknown hlead hfind, hrest]
    rfl
  rw [run?_of_item?_eq_some hitem, run?]
  rfl

theorem run?_of_lead_known (hlead : word.takeWhile isNameCharacter ≠ [])
    (hfind : table.find? (word.takeWhile isNameCharacter) = some k) :
    run? table word sel = run? table (word.dropWhile isNameCharacter) (sel.add k) := by
  obtain ⟨c, cs, rfl⟩ := List.exists_cons_of_ne_nil (ne_nil_of_lead_ne_nil hlead)
  have hlast : ∀ more, (c :: cs).dropWhile isNameCharacter ≠ '+' :: more := by
    intro more hmore
    have hmem : '+' ∈ (c :: cs).dropWhile isNameCharacter := hmore ▸ List.mem_cons_self
    exact hplain.2.1 ((List.dropWhile_suffix _).subset hmem)
  have hitem : item? table c cs = some ((·.add k), (c :: cs).dropWhile isNameCharacter) := by
    rw [item?_of_plain hsep hplain, commonCipher?_of_last hlead hfind (by simp) hlast]
    rfl
  rw [run?_of_item?_eq_some hitem]

/-- A garbled word makes the request unreadable. -/
theorem run?_of_garbled (h : Garbled table word) : run? table word sel = none := by
  obtain ⟨hne, hlead | ⟨hlead, hknown⟩⟩ := h
  · exact run?_of_lead_nil hsep hplain hne hlead
  by_cases hnil : word.takeWhile isNameCharacter = []
  · exact run?_of_lead_nil hsep hplain hne hnil
  obtain ⟨k, hfind⟩ := Option.isSome_iff_exists.1 hknown
  obtain ⟨d, ds, hrest, hd⟩ := exists_rest_of_lead_ne hlead
  have hsubset : d :: ds ⊆ word := hrest ▸ (List.dropWhile_suffix isNameCharacter).subset
  have hplain' : Plain (d :: ds) := by
    obtain ⟨-, hplus, hbang, hat⟩ := hplain
    refine ⟨?_, fun h => hplus (hsubset h), fun h => hbang (hsubset h), fun h => hat (hsubset h)⟩
    rintro ⟨⟩
    cases hd
  rw [run?_of_lead_known hsep hplain hnil hfind, hrest]
  apply run?_of_lead_nil (fun c hc => hsep c (hsubset hc)) hplain' (List.cons_ne_nil d ds)
  exact List.takeWhile_cons_of_neg (by simp [hd])

/-- Every other word selects the cipher of that name, if there is one, and does nothing else. -/
theorem run?_of_not_garbled (h : ¬ Garbled table word) :
    run? table word sel = some ((recognize? table word).elim sel sel.add) := by
  by_cases hne : word = []
  · subst hne
    rw [run?]
    rfl
  have hlead : word.takeWhile isNameCharacter ≠ [] := fun hnil => h ⟨hne, .inl hnil⟩
  cases hfind : table.find? (word.takeWhile isNameCharacter) with
  | none =>
    rw [run?_of_lead_unknown hsep hplain hlead hfind, recognize?_eq_none hfind]
    rfl
  | some k =>
    have hwhole : word.takeWhile isNameCharacter = word := by
      by_contra hrest
      exact h ⟨hne, .inr ⟨hrest, by simp [hfind]⟩⟩
    have hall := List.takeWhile_eq_self_iff.1 hwhole
    have hname : IsName word := ⟨hne, hplain.1, hall⟩
    have hrecognized : recognize? table word = some k := by
      rw [recognize?, if_pos hname, ← hwhole, hfind]
    rw [run?_of_lead_known hsep hplain hlead hfind, List.dropWhile_eq_nil_iff.2 hall, run?,
      hrecognized]
    rfl

end PlainWord

/-! ## Several words -/

section PlainWords

variable (hseps : ∀ word ∈ ws, ∀ c ∈ word, isSeparator c = false)
  (hplain : ∀ word ∈ ws, Plain word)

include hseps hplain

theorem foldlM_of_garbled (h : ∃ word ∈ ws, Garbled table word) :
    ws.foldlM (fun sel word => run? table word sel) sel = none := by
  induction ws generalizing sel with
  | nil => simp at h
  | cons word ws ih =>
    rw [List.foldlM_cons]
    by_cases hword : Garbled table word
    · rw [run?_of_garbled (hseps _ List.mem_cons_self) (hplain _ List.mem_cons_self) hword]
      rfl
    · rw [run?_of_not_garbled (hseps _ List.mem_cons_self) (hplain _ List.mem_cons_self) hword]
      refine ih (fun w hw => hseps w (List.mem_cons_of_mem _ hw))
        (fun w hw => hplain w (List.mem_cons_of_mem _ hw)) ?_
      simpa [hword] using h

theorem foldlM_of_not_garbled (h : ∀ word ∈ ws, ¬ Garbled table word) :
    ws.foldlM (fun sel word => run? table word sel) sel =
      some ((ws.filterMap (recognize? table)).foldl .add sel) := by
  induction ws generalizing sel with
  | nil => rfl
  | cons word ws ih =>
    rw [List.forall_mem_cons] at hseps hplain h
    rw [List.foldlM_cons, run?_of_not_garbled hseps.1 hplain.1 h.1, Option.bind_eq_bind,
      Option.bind_some, ih hseps.2 hplain.2 h.2, List.filterMap_cons]
    cases recognize? table word <;> rfl

end PlainWords

/-- Ciphers that are added one after the other are selected in the order of their first
occurrences. -/
theorem foldl_add (ks : List Cipher) :
    ks.foldl CipherSelection.add {} = { selected := ks.eraseDups, banned := [] } := by
  induction ks using List.reverseRecOn with
  | nil => rfl
  | append_singleton ks k ih =>
    rw [List.foldl_append, ih, List.eraseDups_append]
    by_cases hk : k ∈ ks
    · simp [CipherSelection.add, List.removeAll, hk]
    · simp [CipherSelection.add, List.removeAll, hk, List.eraseDups_cons]

end PeerTrust.CipherRequest
