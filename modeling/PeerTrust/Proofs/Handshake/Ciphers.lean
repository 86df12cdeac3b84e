import PeerTrust.Proofs.Handshake.Requests
import PeerTrust.Proofs.Handshake.Runs
import PeerTrust.Proofs.Text.Cuts

/-!
Which ciphers of a list are enabled.

Protocols are looked up one by one before anything is set.  Ciphers are not: their names are joined
to one request, and a request is refused only if nothing at all can be selected of it.  So a list is
refused as a whole or obeyed in part, and in the second case nobody hears of the names that were
passed over (`unknownCipher_accepted`).

How far this goes is said by `cipher_lists_verdict`.  A list of known names has all of them enabled.
Of any other list of names those that are known are enabled, in the order in which they are first
asked for, and the list is refused when there are none.  A name with separators in it counts as
several, and an empty one as none.
-/

namespace PeerTrust.TlsContext

open CipherRequest

variable {table : CipherTable} {names : List Text} {c : TlsContext} {name word : Text}

/-! ## What is asked for -/

/-- The words in a list of names: a name with separators in it has several. -/
def wordsOf (names : List Text) : List Text := names.flatMap words

/-- The word asks for a cipher by a name: it carries no instruction and is not about a group. -/
structure AsksByName (table : CipherTable) (word : Text) : Prop where
  plain : Plain word
  single : word.takeWhile isNameCharacter ∉ table.groups

instance : Decidable (AsksByName table word) :=
  decidable_of_iff (Plain word ∧ word.takeWhile isNameCharacter ∉ table.groups)
    ⟨fun h => ⟨h.1, h.2⟩, fun h => ⟨h.plain, h.single⟩⟩

/-- The context can select a cipher of this name. -/
def Recognized (table : CipherTable) (word : Text) : Prop := ∃ k, recognize? table word = some k

instance : Decidable (Recognized table word) :=
  decidable_of_iff ((recognize? table word).isSome = true) Option.isSome_iff_exists

/-- The names of the known ciphers that a list asks for, each where it is asked for first. -/
def requestedCiphers (table : CipherTable) (names : List Text) : List Text :=
  ((wordsOf names).filterMap (recognize? table)).eraseDups.map (·.name)

/-- The cipher is enabled in the context. -/
def Enabled (c : TlsContext) (name : Text) : Prop := ∃ enabled ∈ c.ciphers, name ∈ enabled

instance : Decidable (Enabled c name) :=
  inferInstanceAs (Decidable (∃ enabled ∈ c.ciphers, name ∈ enabled))

theorem mem_requestedCiphers_iff :
    name ∈ requestedCiphers table names ↔ name ∈ wordsOf names ∧ Recognized table name := by
  simp only [requestedCiphers, List.mem_map, List.mem_eraseDups, List.mem_filterMap]
  constructor
  · rintro ⟨k, ⟨word, hword, hk⟩, rfl⟩
    have hname := name_of_recognize? hk
    rw [hname]
    exact ⟨hword, k, hk⟩
  · rintro ⟨hword, k, hk⟩
    exact ⟨k, ⟨name, hword, hk⟩, name_of_recognize? hk⟩

theorem requestedCiphers_eq_nil_iff :
    requestedCiphers table names = [] ↔ ∀ word ∈ wordsOf names, ¬ Recognized table word := by
  simp only [List.eq_nil_iff_forall_not_mem, mem_requestedCiphers_iff, not_and]

theorem run?_joined (names : List Text) (sel : CipherSelection) :
    run? table ([':'].intercalate names) sel =
      (wordsOf names).foldlM (fun sel word => run? table word sel) sel := by
  by_cases hne : names = []
  · subst hne
    rw [List.intercalate_nil, run?]
    rfl
  · rw [run?_eq_foldlM_words, words_intercalate hne]
    rfl

theorem not_isSeparator_of_mem_wordsOf :
    ∀ word ∈ wordsOf names, ∀ c ∈ word, isSeparator c = false := by
  intro word hword
  obtain ⟨name, -, hmem⟩ := List.mem_flatMap.1 hword
  exact not_isSeparator_of_mem_words hmem

theorem select?_of_garbled (hplain : ∀ word ∈ wordsOf names, Plain word)
    (h : ∃ word ∈ wordsOf names, Garbled table word) :
    select? table ([':'].intercalate names) = none := by
  rw [select?, run?_joined, foldlM_of_garbled not_isSeparator_of_mem_wordsOf hplain h]
  rfl

theorem select?_of_not_garbled (hplain : ∀ word ∈ wordsOf names, Plain word)
    (h : ∀ word ∈ wordsOf names, ¬ Garbled table word) :
    select? table ([':'].intercalate names) = some (requestedCiphers table names) := by
  rw [select?, run?_joined, foldlM_of_not_garbled not_isSeparator_of_mem_wordsOf hplain h,
    foldl_add]
  rfl

/-! ## What is enabled -/

theorem joined_contains_iff :
    ([':'].intercalate names).contains '\x00' = true ↔ ∃ name ∈ names, '\x00' ∈ name := by
  rw [List.contains_iff_mem]
  constructor
  · intro h
    rcases Text.mem_intercalate_cases h with h | h
    · cases h
    · exact h
  · rintro ⟨name, hname, h⟩
    exact Text.mem_intercalate_of_mem hname h

theorem enableCiphers_of_nul (h : ∃ name ∈ names, '\x00' ∈ name) :
    enableCiphers table names c = (.error .nulCharacter, c) := by
  rw [enableCiphers_eq_apply, cipherEffect, if_pos (joined_contains_iff.2 h)]
  rfl

section NoNul

variable (hnul : ¬ ∃ name ∈ names, '\x00' ∈ name)

include hnul

theorem enableCiphers_of_unreadable (h : select? table ([':'].intercalate names) = none) :
    enableCiphers table names c = (.error (noCipher names), c) := by
  rw [enableCiphers_eq_apply, cipherEffect, if_neg (mt joined_contains_iff.1 hnul), h]
  rfl

theorem enableCiphers_of_selected {selected : List Text}
    (h : select? table ([':'].intercalate names) = some selected) :
    enableCiphers table names c =
      (if selected = [] then .error (noCipher names) else .ok (),
        { c with ciphers := some (table.fixed ++ selected) }) := by
  rw [enableCiphers_eq_apply, cipherEffect, if_neg (mt joined_contains_iff.1 hnul), h]
  simp [Effect.apply]

/-- Whatever stands in a list, it is refused, and leaves the context as it was or nothing but what
is always enabled, or it selects something that the context knows. -/
theorem enableCiphers_cases :
    ((enableCiphers table names c).1 = .error (noCipher names) ∧
      ((enableCiphers table names c).2 = c ∨
        (enableCiphers table names c).2 = { c with ciphers := some table.fixed })) ∨
    ((enableCiphers table names c).1 = .ok () ∧ ∃ selected, selected ≠ [] ∧
      (∀ name ∈ selected, ∃ k ∈ table.selectable, k.name = name) ∧
      (enableCiphers table names c).2 = { c with ciphers := some (table.fixed ++ selected) }) := by
  cases hselect : select? table ([':'].intercalate names) with
  | none =>
    rw [enableCiphers_of_unreadable hnul hselect]
    exact .inl ⟨rfl, .inl rfl⟩
  | some selected =>
    rw [enableCiphers_of_selected hnul hselect]
    by_cases hnil : selected = []
    · rw [if_pos hnil, hnil, List.append_nil]
      exact .inl ⟨rfl, .inr rfl⟩
    · rw [if_neg hnil]
      refine .inr ⟨rfl, selected, hnil, fun name hname => ?_, rfl⟩
      obtain ⟨final, hrun, rfl⟩ := Option.map_eq_some_iff.1 hselect
      obtain ⟨k, hk, rfl⟩ := List.mem_map.1 hname
      rcases selected_of_run? hrun hk with hbefore | hmem
      · exact absurd hbefore List.not_mem_nil
      · exact ⟨k, hmem, rfl⟩

end NoNul

/-- The ciphers of a configuration are set after its protocols, unless these were refused. -/
theorem configure_eq (refusal : Refusal) (protocols : NameList) (hne : names ≠ []) :
    (engine table refusal).configure ⟨protocols, some names⟩ c =
      match Engine.applyNames (enableProtocols refusal) protocols c with
      | (.error fault, next) => (.error fault, next)
      | (.ok (), next) => enableCiphers table names next := by
  obtain ⟨name, rest, rfl⟩ := List.exists_cons_of_ne_nil hne
  simp only [Engine.configure, engine, bind, StateT.bind]
  rcases Engine.applyNames (enableProtocols refusal) protocols c with ⟨fault | answer, next⟩ <;> rfl

/-! ## Lists of names -/

theorem Recognized.isName (h : Recognized table name) : IsName name := by
  obtain ⟨k, hk⟩ := h
  exact isName_of_recognize? hk

theorem wordsOf_of_recognized (h : ∀ name ∈ names, Recognized table name) :
    wordsOf names = names := by
  induction names with
  | nil => rfl
  | cons name names ih =>
    rw [List.forall_mem_cons] at h
    rw [wordsOf, List.flatMap_cons, h.1.isName.words_eq, List.singleton_append]
    exact congrArg (name :: ·) (ih h.2)

/-- A list without instructions, of which every word can be read. -/
theorem enableCiphers_of_readable (hnul : ¬ ∃ name ∈ names, '\x00' ∈ name)
    (hplain : ∀ word ∈ wordsOf names, Plain word)
    (hreadable : ∀ word ∈ wordsOf names, ¬ Garbled table word) :
    ((enableCiphers table names c).1 = .ok () ↔ ∃ word ∈ wordsOf names, Recognized table word) ∧
      (enableCiphers table names c).2 =
        { c with ciphers := some (table.fixed ++ requestedCiphers table names) } := by
  rw [enableCiphers_of_selected hnul (select?_of_not_garbled hplain hreadable)]
  refine ⟨?_, rfl⟩
  by_cases hnil : requestedCiphers table names = []
  · rw [if_pos hnil]
    rw [requestedCiphers_eq_nil_iff] at hnil
    refine iff_of_false nofun ?_
    rintro ⟨word, hword, hrecognized⟩
    exact hnil word hword hrecognized
  · rw [if_neg hnil]
    refine iff_of_true rfl ?_
    simpa [requestedCiphers_eq_nil_iff] using hnil

theorem enabled_requested_iff (hword : word ∈ wordsOf names) :
    Enabled { c with ciphers := some (table.fixed ++ requestedCiphers table names) } word ↔
      word ∈ table.fixed ∨ Recognized table word := by
  simp [Enabled, mem_requestedCiphers_iff, hword]

/-- A list of known names has all of them enabled. -/
theorem enableCiphers_of_recognized (hne : names ≠ [])
    (h : ∀ name ∈ names, Recognized table name) :
    (enableCiphers table names c).1 = .ok () ∧
      ∀ name ∈ names, Enabled (enableCiphers table names c).2 name := by
  have hwords : wordsOf names = names := wordsOf_of_recognized h
  have hnul : ¬ ∃ name ∈ names, '\x00' ∈ name := by
    rintro ⟨name, hname, hmem⟩
    have hchar := (h name hname).isName.2.2 _ hmem
    revert hchar
    decide
  have hreadable : ∀ word ∈ wordsOf names, ¬ Garbled table word := fun word hword =>
    (h word (hwords ▸ hword)).isName.not_garbled
  obtain ⟨hanswer, hnext⟩ := enableCiphers_of_readable (c := c) hnul
    (fun word hword => (h word (hwords ▸ hword)).isName.plain) hreadable
  constructor
  · obtain ⟨name, rest, rfl⟩ := List.exists_cons_of_ne_nil hne
    rw [hanswer, hwords]
    exact ⟨name, List.mem_cons_self, h name List.mem_cons_self⟩
  · intro name hname
    rw [hnext, enabled_requested_iff (hwords.symm ▸ hname)]
    exact .inr (h name hname)

/-- **Ciphers are enabled as far as they are known.**  A list with the character NUL in it is an
error of its own, which changes nothing.  Any other list is refused, or it enables something and
nothing that the context does not know.  If all its words ask for ciphers by name, a garbled one has
it refused, with nothing changed.  Otherwise it is accepted exactly when some word in it is known,
and then the known ones are enabled, and of the others only those that always are.  So a list of
nothing but known names has all of them enabled.  As configured, the ciphers are set in the same way
behind the protocols, unless these are refused. -/
theorem cipher_lists_verdict (table : CipherTable) (names : List Text) (c : TlsContext) :
    let answer := (enableCiphers table names c).1
    let next := (enableCiphers table names c).2
    ((∃ name ∈ names, '\x00' ∈ name) → answer = .error .nulCharacter ∧ next = c) ∧
    ((¬ ∃ name ∈ names, '\x00' ∈ name) →
      ((answer = .error (noCipher names) ∧
          (next = c ∨ next = { c with ciphers := some table.fixed })) ∨
        (answer = .ok () ∧ ∃ selected, selected ≠ [] ∧
          (∀ name ∈ selected, ∃ k ∈ table.selectable, k.name = name) ∧
          next = { c with ciphers := some (table.fixed ++ selected) })) ∧
      ((∀ word ∈ wordsOf names, AsksByName table word) →
        ((∃ word ∈ wordsOf names, Garbled table word) →
          answer = .error (noCipher names) ∧ next = c) ∧
        ((∀ word ∈ wordsOf names, ¬ Garbled table word) →
          (answer = .ok () ↔ ∃ word ∈ wordsOf names, Recognized table word) ∧
          next = { c with ciphers := some (table.fixed ++ requestedCiphers table names) } ∧
          ∀ word ∈ wordsOf names,
            Enabled next word ↔ word ∈ table.fixed ∨ Recognized table word))) ∧
    (names ≠ [] → (∀ name ∈ names, Recognized table name) →
      answer = .ok () ∧ ∀ name ∈ names, Enabled next name) ∧
    (names ≠ [] → ∀ refusal protocols,
      (engine table refusal).configure ⟨protocols, some names⟩ c =
        match Engine.applyNames (enableProtocols refusal) protocols c with
        | (.error fault, next) => (.error fault, next)
        | (.ok (), next) => enableCiphers table names next) := by
  refine ⟨fun hnul => ?_, fun hnul => ⟨enableCiphers_cases hnul, fun hnames => ?_⟩,
    enableCiphers_of_recognized, fun hne refusal protocols => configure_eq refusal protocols hne⟩
  · rw [enableCiphers_of_nul hnul]
    exact ⟨rfl, rfl⟩
  · have hplain : ∀ word ∈ wordsOf names, Plain word := fun word hword => (hnames word hword).plain
    refine ⟨fun hgarbled => ?_, fun hreadable => ?_⟩
    · rw [enableCiphers_of_unreadable hnul (select?_of_garbled hplain hgarbled)]
      exact ⟨rfl, rfl⟩
    · obtain ⟨hanswer, hnext⟩ := enableCiphers_of_readable (c := c) hnul hplain hreadable
      refine ⟨hanswer, hnext, fun word hword => ?_⟩
      rw [hnext]
      exact enabled_requested_iff hword

/-- A name that is two names, of which one is unknown, an empty name, one that is always enabled,
one that is known, and one once more. -/
def mixedNames : List Text :=
  ["AES256-SHA:NOPE".toList, [], "TLS_AES_128_GCM_SHA256".toList, "AES128-SHA".toList,
   "AES256-SHA".toList]

/-- Of the mixed names all are enabled but the unknown one, whose name alone is refused.  A known
name with a slash behind it makes a list unreadable, and two known names are both enabled. -/
theorem cipher_lists_verdict_mixedNames :
    (enableCiphers usualCiphers mixedNames {}).1 = .ok () ∧
    Enabled (enableCiphers usualCiphers mixedNames {}).2 "AES128-SHA".toList ∧
    Enabled (enableCiphers usualCiphers mixedNames {}).2 "TLS_AES_128_GCM_SHA256".toList ∧
    ¬ Enabled (enableCiphers usualCiphers mixedNames {}).2 "NOPE".toList ∧
    (enableCiphers usualCiphers ["NOPE".toList] {}).1 ≠ .ok () ∧
    (enableCiphers usualCiphers ["AES128-SHA".toList, "AES256-SHA/".toList] {}).2 = {} ∧
    Enabled (enableCiphers usualCiphers ["AES128-SHA".toList, "AES256-SHA".toList] {}).2
      "AES256-SHA".toList ∧
    (enableCiphers usualCiphers [['A', '\x00']] {}).1 = .error .nulCharacter := by
  obtain ⟨-, hmixed, -⟩ := cipher_lists_verdict usualCiphers mixedNames {}
  obtain ⟨-, hmixed⟩ := hmixed (by decide)
  obtain ⟨-, hmixed⟩ := hmixed (by decide)
  obtain ⟨hanswer, -, henabled⟩ := hmixed (by decide)
  obtain ⟨-, hunknown, -⟩ := cipher_lists_verdict usualCiphers ["NOPE".toList] {}
  obtain ⟨hrefused, -⟩ := ((hunknown (by decide)).2 (by decide)).2 (by decide)
  obtain ⟨-, hslash, -⟩ :=
    cipher_lists_verdict usualCiphers ["AES128-SHA".toList, "AES256-SHA/".toList] {}
  obtain ⟨-, -, hknown, -⟩ :=
    cipher_lists_verdict usualCiphers ["AES128-SHA".toList, "AES256-SHA".toList] {}
  obtain ⟨hnul, -⟩ := cipher_lists_verdict usualCiphers [['A', '\x00']] {}
  refine ⟨hanswer.2 (by decide), (henabled _ (by decide)).2 (by decide),
    (henabled _ (by decide)).2 (by decide), ?_, ?_, ?_, ?_, ?_⟩
  · rw [henabled _ (by decide)]
    decide
  · rw [Ne, hrefused]
    decide
  · exact (((hslash (by decide)).2 (by decide)).1 (by decide)).2
  · exact (hknown (by decide) (by decide)).2 _ (by decide)
  · exact (hnul (by decide)).1

-- An instruction may take out what a name asked for.
example :
    (enableCiphers usualCiphers
        ["AES128-SHA".toList, "AES256-SHA".toList, "!AES128-SHA".toList] {}).2.ciphers =
      some (usualCiphers.fixed ++ ["AES256-SHA".toList]) := by
  decide +kernel

/-- A known cipher and an unknown one. -/
def halfKnownNames : List Text := ["AES128-SHA".toList, "NOT-A-REAL-CIPHER".toList]

/-- A known name is enough for the whole list to be accepted: the unknown one is not enabled, and
nobody is told, neither when the ciphers are set directly nor as configured. -/
theorem unknownCipher_accepted :
    ¬ Recognized usualCiphers "NOT-A-REAL-CIPHER".toList ∧
    (enableCiphers usualCiphers halfKnownNames {}).1 = .ok () ∧
    ¬ Enabled (enableCiphers usualCiphers halfKnownNames {}).2 "NOT-A-REAL-CIPHER".toList ∧
    ((engine usualCiphers .never).configure ⟨none, some halfKnownNames⟩ {}).1 = .ok () ∧
    ¬ Enabled ((engine usualCiphers .never).configure ⟨none, some halfKnownNames⟩ {}).2
      "NOT-A-REAL-CIPHER".toList := by
  decide +kernel

end PeerTrust.TlsContext
