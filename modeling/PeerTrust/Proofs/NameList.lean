import Mathlib.Data.List.Basic
import PeerTrust.Handshake.Config
import PeerTrust.Proofs.Collected
import PeerTrust.Proofs.Text.Cuts

/-!
Lists of names, as they are read and read again.

What a list of names is read from comes without a type, so reading is described from both ends.  A
value has entries (`Entries`): the parts of a text between its commas, or the elements of any other
sequence.  An entry gives a name or nothing (`GivesName`).  A value is read exactly when it has
entries, and the names are those that the entries give, in their order (`ofValue_eq_ok_iff`).

A list that was read is normal: no list at all, or names with something in them and no blanks around
them.  A normal list is read as it is (`reread_eq_self`), so it may pass through as many hands as it
likes.  It is passed on as a sequence and never as a text, which is why a name that came with a
comma in it keeps the comma.
-/

namespace PeerTrust.NameList

variable {v entry : Value} {entries : List Value} {list : NameList} {names : List Text}
  {name : Text}

/-! ## Entries -/

/-- The entries of a value: none of a missing one, the parts between the commas of a text, and the
elements of any other sequence. -/
inductive Entries : Value → List Value → Prop where
  | missing : Entries .null []
  | text {parts : List Text} (hne : parts ≠ []) (hcomma : ∀ part ∈ parts, ',' ∉ part) :
      Entries (.text ([','].intercalate parts)) (parts.map .text)
  | sequence {v : Value} {items : List Value} (htext : v.text? = none)
      (hitems : v.elements = .ok items) : Entries v items

/-- The entry gives this name: it is not missing, and the name is its text without the blanks
around it, of which something is left. -/
def GivesName (entry : Value) (name : Text) : Prop :=
  entry ≠ .null ∧ entry.display.trim = name ∧ name ≠ []

theorem nameOf?_eq_some_iff : nameOf? entry = some name ↔ GivesName entry name := by
  unfold nameOf? GivesName
  split
  · exact iff_of_false nofun fun h => h.1 rfl
  · next hnull =>
    split
    · next hblank =>
      refine iff_of_false nofun ?_
      rintro ⟨-, rfl, hne⟩
      exact hne (List.isEmpty_iff.1 hblank)
    · next hblank =>
      rw [Option.some_inj]
      constructor
      · rintro rfl
        exact ⟨hnull, rfl, fun hnil => hblank (List.isEmpty_iff.2 hnil)⟩
      · rintro ⟨-, hname, -⟩
        exact hname

theorem collected_givesName_iff :
    Collected GivesName entries names ↔ entries.filterMap nameOf? = names :=
  collected_iff_filterMap_eq fun _ _ => nameOf?_eq_some_iff

/-- Entries that give names are a list of these, and entries that give none are no list. -/
theorem ofEntries_eq_iff :
    ofEntries entries = list ↔ Collected GivesName entries (list.getD []) ∧ list ≠ some [] := by
  rw [collected_givesName_iff]
  unfold ofEntries
  split
  · next hnone =>
    rw [hnone]
    cases list with
    | none => simp
    | some names => simp [eq_comm]
  · next names hne =>
    cases list with
    | none => exact iff_of_false nofun fun h => hne h.1
    | some given =>
      rw [Option.some_inj, Option.getD_some]
      refine ⟨fun h => ⟨h, fun hnil => ?_⟩, fun h => h.1⟩
      exact hne (h.trans (Option.some.inj hnil))

/-! ## Values -/

theorem exists_entries_of_ofValue (h : ofValue v = .ok list) :
    ∃ entries, Entries v entries ∧ ofEntries entries = list := by
  unfold ofValue at h
  split at h
  · cases h
    exact ⟨[], .missing, rfl⟩
  · next s =>
    -- The text is its parts with commas between them, and that is how they are found.
    have htext := Entries.text (List.splitOn_ne_nil ',' s)
      (fun part hpart => Text.not_mem_of_mem_splitOn hpart)
    rw [List.intercalate_splitOn] at htext
    exact ⟨_, htext, Except.ok.inj h⟩
  · next hnull htext =>
    cases hitems : v.elements with
    | error single =>
      rw [hitems] at h
      cases h
    | ok items =>
      rw [hitems] at h
      refine ⟨items, .sequence ?_ hitems, Except.ok.inj h⟩
      cases v with
      | text s => exact absurd rfl (htext s)
      | _ => rfl

theorem Entries.ofValue_eq {entries : List Value} (h : Entries v entries) :
    ofValue v = .ok (ofEntries entries) := by
  cases h with
  | missing => rfl
  | text hne hcomma => rw [ofValue, List.splitOn_intercalate ',' hcomma hne]
  | sequence htext hitems =>
    unfold ofValue
    split
    · cases hitems
    · cases htext
    · rw [hitems]
      rfl

theorem ofValue_eq_ok_iff_exists :
    ofValue v = .ok list ↔ ∃ entries, Entries v entries ∧ ofEntries entries = list := by
  constructor
  · exact exists_entries_of_ofValue
  · rintro ⟨entries, hentries, rfl⟩
    exact hentries.ofValue_eq

/-- A value is read exactly when it has entries, and the list has the names that they give. -/
theorem ofValue_eq_ok_iff :
    ofValue v = .ok list ↔
      ∃ entries, Entries v entries ∧ Collected GivesName entries (list.getD []) ∧
        list ≠ some [] := by
  rw [ofValue_eq_ok_iff_exists]
  exact exists_congr fun entries => and_congr_right fun _ => ofEntries_eq_iff

/-! ## Reading again -/

/-- The list is as it is after reading: not empty, and its names neither empty nor with blanks
around them. -/
def IsNormal (list : NameList) : Prop :=
  ∀ names, list = some names → names ≠ [] ∧ ∀ name ∈ names, name ≠ [] ∧ name.trim = name

theorem isNormal_ofEntries (entries : List Value) : IsNormal (ofEntries entries) := by
  intro names hnames
  obtain ⟨hcollected, hne⟩ := ofEntries_eq_iff.1 hnames
  refine ⟨fun hnil => hne (congrArg some hnil), fun name hname => ?_⟩
  rw [Option.getD_some, collected_givesName_iff] at hcollected
  rw [← hcollected, List.mem_filterMap] at hname
  obtain ⟨entry, -, hentry⟩ := hname
  obtain ⟨-, rfl, hname⟩ := nameOf?_eq_some_iff.1 hentry
  exact ⟨hname, (Text.isTrimmed_trim _).trim_eq⟩

theorem isNormal_of_ofValue (h : ofValue v = .ok list) : IsNormal list := by
  obtain ⟨entries, -, rfl⟩ := ofValue_eq_ok_iff_exists.1 h
  exact isNormal_ofEntries entries

/-- The list as a value, to be read once more. -/
def toValue : NameList → Value
  | none => .null
  | some names => .tuple (names.map .text)

theorem ofValue_toValue (list : NameList) : ofValue list.toValue = .ok list.reread := by
  cases list <;> rfl

/-- Normal names are the names in themselves. -/
theorem filterMap_nameOf?_text (h : ∀ name ∈ names, name ≠ [] ∧ name.trim = name) :
    (names.map Value.text).filterMap nameOf? = names := by
  induction names with
  | nil => rfl
  | cons name names ih =>
    obtain ⟨⟨hne, htrim⟩, hrest⟩ := List.forall_mem_cons.1 h
    have hname : nameOf? (.text name) = some name := nameOf?_eq_some_iff.2 ⟨nofun, htrim, hne⟩
    rw [List.map_cons, List.filterMap_cons_some hname, ih hrest]

theorem reread_eq_self (h : IsNormal list) : reread list = list := by
  cases list with
  | none => rfl
  | some names =>
    obtain ⟨hne, hnames⟩ := h names rfl
    refine ofEntries_eq_iff.2 ⟨?_, fun hnil => hne (Option.some.inj hnil)⟩
    exact collected_givesName_iff.2 (filterMap_nameOf?_text hnames)

end PeerTrust.NameList
