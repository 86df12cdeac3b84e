import PeerTrust.Proofs.Text.Latin
import PeerTrust.Proofs.Value.Display
import PeerTrust.Report

/-!
Which settings spell which mode.

One of the modes switches the verification of names off, so more depends on what is not recognised
than on what is.  A setting is trimmed, lower-cased by the rules of Unicode and freed of underscores
and hyphens, in this order, and what is left has to be one of four words.  None of them has a `k` or
a mark above an `i`, so that lower-casing leads to them from Latin letters only, capital or small
(`reduceSetting_eq_iff`), and the two characters are dropped from a spelling alike before and after
it.

A setting may be a value of any kind, and it spells what it displays.  A text displays itself and
an object what it likes, so that an object which is no text at all may spell a mode too
(`object_spells_allowAll`).  The other kinds of data never do: what such a value displays does not
start with the first letter of a word, with or without a sign (`reduceSetting_display_ne`).
-/

namespace PeerTrust.Mode

variable {v : Value} {s key : Text} {m : Mode}

/-- The words for the modes. -/
def words : List (Mode × String) :=
  [(strict, "strict"), (default, "default"), (defaultAndLocalhost, "defaultandlocalhost"),
   (allowAll, "allowall")]

/-- The text spells the word: without the blanks around it and without any underscore or hyphen, it
is the word up to the case of Latin letters. -/
def IsSpelling (s : Text) (word : String) : Prop :=
  (s.trim.filter fun c => c != '_' && c != '-').map Char.toLower = word.toList

/-- What the setting displays spells the word for the mode. -/
def Spells (v : Value) (m : Mode) : Prop := ∃ word, (m, word) ∈ words ∧ IsSpelling v.display word

/-- Nothing is set: the value is missing, or displays nothing but blanks. -/
def Unset (v : Value) : Prop := v = .null ∨ v.display.trim = []

/-! ## The words -/

theorem toList_of_mem_words : ∀ entry ∈ words, entry.2.toList = entry.1.settingKey := by decide

theorem exists_mem_words (m : Mode) : ∃ word, (m, word) ∈ words := by
  cases m with
  | strict => exact ⟨"strict", by decide⟩
  | default => exact ⟨"default", by decide⟩
  | defaultAndLocalhost => exact ⟨"defaultandlocalhost", by decide⟩
  | allowAll => exact ⟨"allowall", by decide⟩

theorem ascii_of_mem_settingKey : ∀ c ∈ m.settingKey, c.toNat < 0x80 ∧ c ≠ 'k' := by
  have hall : (m.settingKey.all fun c => c.toNat < 0x80 && c != 'k') = true := by
    cases m <;> decide
  simpa using hall

theorem head?_settingKey (m : Mode) : m.settingKey.head? ∈ [some 's', some 'd', some 'a'] := by
  cases m <;> decide

theorem find?_settingKey_eq_some_iff :
    all.find? (·.settingKey == key) = some m ↔ m.settingKey = key := by
  constructor
  · intro h
    have hkey := List.find?_some h
    exact beq_iff_eq.1 hkey
  · rintro rfl
    cases m <;> rfl

/-! ## Spellings -/

/-- The case of a letter does not make it one of the dropped characters. -/
theorem filter_map_toLower (s : Text) :
    (s.map Char.toLower).filter (fun c => c != '_' && c != '-') =
      (s.filter fun c => c != '_' && c != '-').map Char.toLower := by
  rw [List.filter_map]
  congr 1
  refine List.filter_congr fun c _ => ?_
  have hunderscore : c.toLower = '_' ↔ c = '_' := toLower_eq_iff (by decide) c
  have hhyphen : c.toLower = '-' ↔ c = '-' := toLower_eq_iff (by decide) c
  simp only [Function.comp_apply, bne, beq_eq_decide, hunderscore, hhyphen]

/-- The dropped characters are ASCII characters, so the text is one if what is left of it is. -/
theorem forall_mem_of_filter {P : Char → Prop} (hunderscore : P '_') (hhyphen : P '-')
    (h : ∀ c ∈ s.filter (fun c => c != '_' && c != '-'), P c) : ∀ c ∈ s, P c := by
  intro c hc
  by_cases hdropped : c = '_' ∨ c = '-'
  · rcases hdropped with rfl | rfl
    · exact hunderscore
    · exact hhyphen
  · refine h c (List.mem_filter.2 ⟨hc, ?_⟩)
    rw [not_or] at hdropped
    simp [hdropped.1, hdropped.2]

/-- The text is written in ASCII when it spells an ASCII word. -/
theorem ascii_of_filter_eq (hkey : ∀ c ∈ key, c.toNat < 0x80)
    (h : (s.filter fun c => c != '_' && c != '-').map Char.toLower = key) :
    ∀ c ∈ s, c.toNat < 0x80 := by
  refine forall_mem_of_filter (by decide) (by decide) fun c hc => ?_
  refine ascii_of_toLower (hkey _ ?_)
  rw [← h]
  exact List.mem_map_of_mem hc

/-- Lower-casing by the rules of Unicode leads to a word in ASCII without a `k` only from Latin
letters. -/
theorem reduceSetting_eq_iff (hkey : ∀ c ∈ key, c.toNat < 0x80 ∧ c ≠ 'k') :
    reduceSetting s = key ↔
      (s.trim.filter fun c => c != '_' && c != '-').map Char.toLower = key := by
  unfold reduceSetting Text.fold
  constructor
  · intro h
    have hascii : ∀ c ∈ s.trim, c.toNat < 0x80 := by
      refine Text.ascii_of_lower (forall_mem_of_filter (by decide) (by decide) fun c hc => ?_)
      exact hkey c (h ▸ hc)
    rwa [Text.lower_of_ascii hascii, filter_map_toLower] at h
  · intro h
    have hascii := ascii_of_filter_eq (fun c hc => (hkey c hc).1) h
    rwa [Text.lower_of_ascii hascii, filter_map_toLower]

theorem settingKey_eq_reduceSetting_iff : m.settingKey = reduceSetting v.display ↔ Spells v m := by
  unfold Spells
  rw [eq_comm, reduceSetting_eq_iff ascii_of_mem_settingKey]
  constructor
  · intro h
    obtain ⟨word, hword⟩ := exists_mem_words m
    exact ⟨word, hword, h.trans (toList_of_mem_words _ hword).symm⟩
  · rintro ⟨word, hword, h⟩
    exact h.trans (toList_of_mem_words _ hword)

/-- The kinds of data other than texts are not displayed like a mode. -/
theorem reduceSetting_display_ne (h : v.ownText? = none) :
    reduceSetting v.display ≠ m.settingKey := by
  obtain ⟨c, rest, hs, hc⟩ := (Value.opens_display h).trim
  have hkept : c ≠ '_' ∧ c ≠ '-' ∧ some c.toLower ∉ [some 's', some 'd', some 'a'] :=
    IsOpener.induction
      (P := fun c => c ≠ '_' ∧ c ≠ '-' ∧ some c.toLower ∉ [some 's', some 'd', some 'a'])
      (by decide) hc
  obtain ⟨hunderscore, hhyphen, hletter⟩ := hkept
  -- A sign is dropped, and then a word would start with `c` or its small letter.
  have hfilter : v.display.trim.filter (fun c => c != '_' && c != '-') =
      c :: rest.filter (fun c => c != '_' && c != '-') := by
    rcases hs with hs | hs <;> simp [hs, hunderscore, hhyphen]
  rw [Ne, reduceSetting_eq_iff ascii_of_mem_settingKey, hfilter]
  intro hkey
  have hhead := head?_settingKey m
  rw [← hkey] at hhead
  exact hletter hhead

/-! ## Settings -/

theorem ofSetting_of_display (h : ¬ Unset v) :
    ofSetting v =
      match all.find? (·.settingKey == reduceSetting v.display) with
      | some mode => .ok mode
      | none => .error ⟨v⟩ := by
  unfold Unset at h
  rw [not_or, Text.trim_eq_nil_iff] at h
  unfold ofSetting
  split
  · exact absurd rfl h.1
  · exact if_neg h.2

theorem ofSetting_of_unset (h : Unset v) : ofSetting v = .ok .default := by
  unfold ofSetting
  split
  · rfl
  · next hnull => exact if_pos (Text.trim_eq_nil_iff.1 (h.resolve_left hnull))

/-- Of the kinds of data other than texts only a missing value sets nothing. -/
theorem unset_iff_of_ownText? (h : v.ownText? = none) : Unset v ↔ v = .null :=
  or_iff_left (Value.opens_display h).trim.ne_nil

theorem not_spells_of_ownText? (h : v.ownText? = none) : ¬ Spells v m := fun hspells =>
  reduceSetting_display_ne h (settingKey_eq_reduceSetting_iff.2 hspells).symm

theorem ofSetting_eq_ok_iff (h : ¬ Unset v) : ofSetting v = .ok m ↔ Spells v m := by
  rw [ofSetting_of_display h, ← settingKey_eq_reduceSetting_iff, ← find?_settingKey_eq_some_iff]
  cases all.find? (·.settingKey == reduceSetting v.display) with
  | none => exact iff_of_false nofun nofun
  | some mode => rw [Except.ok.injEq, Option.some_inj]

theorem ofSetting_eq_error (h : ¬ Unset v) (hspells : ∀ m, ¬ Spells v m) :
    ofSetting v = .error ⟨v⟩ := by
  have hnone : all.find? (·.settingKey == reduceSetting v.display) = none := by
    rw [Option.eq_none_iff_forall_ne_some]
    intro m hm
    exact hspells m (settingKey_eq_reduceSetting_iff.1 (find?_settingKey_eq_some_iff.1 hm))
  rw [ofSetting_of_display h, hnone]

/-- What is refused is shown as it was given. -/
theorem eq_of_ofSetting_eq_error {unknown : UnknownSetting} (h : ofSetting v = .error unknown) :
    unknown = ⟨v⟩ := by
  unfold ofSetting at h
  split at h
  · cases h
  · split at h
    · cases h
    · split at h
      · cases h
      · exact (Except.error.inj h).symm

theorem not_unset_of_spells (h : Spells v m) : ¬ Unset v := by
  rintro (rfl | hblank)
  · exact not_spells_of_ownText? rfl h
  · obtain ⟨word, hword, hspelling⟩ := h
    have hkey : ([] : Text) = m.settingKey := by
      rw [← toList_of_mem_words _ hword]
      unfold IsSpelling at hspelling
      rwa [hblank] at hspelling
    have hhead := head?_settingKey m
    rw [← hkey] at hhead
    exact absurd hhead (by decide)

theorem spells_allowAll_iff : Spells v .allowAll ↔ IsSpelling v.display "allowall" := by
  simp [Spells, words]

theorem ofSetting_eq_allowAll_iff :
    ofSetting v = .ok .allowAll ↔ IsSpelling v.display "allowall" := by
  rw [← spells_allowAll_iff]
  by_cases hunset : Unset v
  · rw [ofSetting_of_unset hunset]
    exact iff_of_false nofun fun hspells => not_unset_of_spells hspells hunset
  · exact ofSetting_eq_ok_iff hunset

/-- **Settings that spell a mode.**  A setting that is missing or displayed as a blank means the
default.  Any other spells a mode or is refused with an error that shows it, and it spells a mode
exactly when what it displays, trimmed and without underscores and hyphens, is the word for that
mode up to the case of Latin letters.  Of the kinds of data only texts do, and among the others only
a missing value means the default.  So names are never left unverified but for a spelling of
`allowall`, and no spelling has a character beyond ASCII in it. -/
theorem ofSetting_exact (v : Value) :
    (Unset v → ofSetting v = .ok .default) ∧
    (¬ Unset v →
      (∀ m, ofSetting v = .ok m ↔ Spells v m) ∧
      ((∀ m, ¬ Spells v m) → ofSetting v = .error ⟨v⟩ ∧
        (UnknownSetting.mk v).report = .plain .configuration
          (some ("Unknown hostname verifier '".toList ++ v.display ++
            "', expected one of: Strict, Default, DefaultAndLocalhost, AllowAll".toList)))) ∧
    (v.ownText? = none → (Unset v ↔ v = .null) ∧ ∀ m, ¬ Spells v m) ∧
    (ofSetting v = .ok .allowAll ↔ IsSpelling v.display "allowall") ∧
    ∀ m, Spells v m → ∀ c ∈ v.display.trim, c.toNat < 0x80 := by
  refine ⟨ofSetting_of_unset, fun hset => ⟨fun m => ofSetting_eq_ok_iff hset, fun hspells => ?_⟩,
    fun hdata => ⟨unset_iff_of_ownText? hdata, fun m => not_spells_of_ownText? hdata⟩,
    ofSetting_eq_allowAll_iff, ?_⟩
  · exact ⟨ofSetting_eq_error hset hspells, rfl⟩
  · rintro m ⟨word, hword, hspelling⟩
    refine ascii_of_filter_eq (fun c hc => ?_) hspelling
    rw [toList_of_mem_words _ hword] at hc
    exact (ascii_of_mem_settingKey c hc).1

/-- A spelling between blanks, one with a dotted capital for its `i`, a list with a word in it, and
a text of blanks. -/
theorem ofSetting_exact_lookalikes :
    ofSetting (.text "\u00A0-Allow_ALL- ".toList) = .ok .allowAll ∧
    (∀ m, ofSetting (.text "str\u0130ct".toList) ≠ .ok m) ∧
    ofSetting (.list [.text "strict".toList]) = .error ⟨.list [.text "strict".toList]⟩ ∧
    ofSetting (.text "\t ".toList) = .ok .default := by
  have hspelling : IsSpelling "\u00A0-Allow_ALL- ".toList "allowall" := by
    unfold IsSpelling
    decide +kernel
  have hdotted : ¬ Unset (.text "str\u0130ct".toList) := by
    rintro (hnull | hblank)
    · cases hnull
    · exact absurd hblank (by decide +kernel)
  obtain ⟨-, -, -, hallowAll, -⟩ := ofSetting_exact (.text "\u00A0-Allow_ALL- ".toList)
  obtain ⟨-, hset, -, -, hascii⟩ := ofSetting_exact (.text "str\u0130ct".toList)
  obtain ⟨-, hrefused, hlist, -⟩ := ofSetting_exact (.list [.text "strict".toList])
  obtain ⟨hunset, hnone⟩ := hlist rfl
  refine ⟨hallowAll.2 hspelling, fun m hm => ?_, ?_,
    (ofSetting_exact _).1 (.inr (by decide +kernel))⟩
  · have hsmall := hascii m (((hset hdotted).1 m).1 hm) '\u0130' (by decide +kernel)
    exact absurd hsmall (by decide)
  · exact ((hrefused (mt hunset.1 nofun)).2 hnone).1

/-- The path of a file with the name of a mode. -/
def allowAllPath : Value :=
  .object
    { type := "PosixPath".toList
      display := "allow_all".toList
      literal := "PosixPath('allow_all')".toList
      vacuous := false
      isKey := true
      shape := .path }

/-- An object that is no text selects a mode by what it displays. -/
theorem object_spells_allowAll :
    (∀ s, allowAllPath ≠ .text s) ∧ ofSetting allowAllPath = .ok .allowAll := by
  refine ⟨nofun, ofSetting_eq_allowAll_iff.2 ?_⟩
  unfold IsSpelling
  decide +kernel

end PeerTrust.Mode
