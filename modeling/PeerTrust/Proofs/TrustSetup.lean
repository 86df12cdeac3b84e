import Mathlib.Data.List.Forall2
import PeerTrust.Proofs.Chain.TrustedPath
import PeerTrust.Proofs.ClientConfig
import PeerTrust.Proofs.Collected
import PeerTrust.Proofs.Text.Cuts
import PeerTrust.TrustSetup

/-!
A trust store that was named is used.

Whether chains are verified at all is decided far from where they are verified: a setting is cut
into paths, the files at the paths are loaded, and a verifier is made of what was loaded unless
that is nothing.  Each of these steps could lose a store in silence.  A path could be dropped, a
file passed over, or a list of files could load to nothing, and then every chain would pass.

None of this happens (`named_store_is_used`).  A setting loses only its blank entries, the first
file that cannot be read is an error with its path, and otherwise the anchors are those of all
files in their order.  The one thing needed of the reader of files is that it does not answer with
an empty list; the reader of this library does not (`FileTree.reader_ne_nil`).
-/

namespace PeerTrust

/-! ## Files with certificates -/

section Files

variable {C : Type} {path : Text} {certificates : List C}

theorem Pem.certificates?_ne_nil {content : Content C}
    (h : Pem.certificates? content = some certificates) : certificates ≠ [] := by
  unfold Pem.certificates? at h
  obtain ⟨payloads, -, h⟩ := Option.bind_eq_some_iff.1 h
  split at h
  · cases h
  · next hne =>
    cases h
    exact hne

theorem FileEntry.certificates_ne_nil {entry : FileEntry C}
    (h : entry.certificates = .ok certificates) : certificates ≠ [] := by
  unfold FileEntry.certificates at h
  split at h
  · cases h
  · split at h
    · next hread =>
      cases h
      exact Pem.certificates?_ne_nil hread
    · cases h

theorem FileTree.read_ne_nil {tree : FileTree C} (h : tree.read path = .ok certificates) :
    certificates ≠ [] := by
  unfold FileTree.read at h
  split at h
  · cases h
  · split at h
    · cases h
    · cases hentry : (tree.visibleFrom path).lookup [] (pathComponents path) with
      | error fault =>
        rw [hentry] at h
        cases h
      | ok entry =>
        rw [hentry] at h
        exact entry.certificates_ne_nil h

theorem FileTree.reader_eq_ok_iff {tree : FileTree C} {explain : Text → ReadFault → Text} :
    tree.reader explain path = .ok certificates ↔ tree.read path = .ok certificates := by
  unfold FileTree.reader
  cases tree.read path <;> simp [Except.mapError]

/-- A file that is read holds at least one certificate. -/
theorem FileTree.reader_ne_nil {tree : FileTree C} {explain : Text → ReadFault → Text}
    (h : tree.reader explain path = .ok certificates) : certificates ≠ [] :=
  FileTree.read_ne_nil (FileTree.reader_eq_ok_iff.1 h)

end Files

/-! ## Loading -/

section Loading

variable {C : Type} {read : Text → Except ReadFailure (List C)} {paths : List Text}
  {anchors : List C} {fault : StoreFault}

/-- The certificates at each of the paths. -/
abbrev FilesAt (read : Text → Except ReadFailure (List C)) (paths : List Text)
    (files : List (List C)) : Prop :=
  List.Forall₂ (fun path certificates => read path = .ok certificates) paths files

/-- The fault is that of the first path that cannot be read. -/
def FirstUnreadable (read : Text → Except ReadFailure (List C)) (paths : List Text)
    (fault : StoreFault) : Prop :=
  ∃ before after, paths = before ++ fault.path :: after ∧
    (∀ path ∈ before, ∃ certificates, read path = .ok certificates) ∧
    read fault.path = .error fault.cause

theorem loadAnchors_cons_of_error {path : Text} {cause : ReadFailure}
    (h : read path = .error cause) :
    loadAnchors read (path :: paths) = .error ⟨path, cause⟩ := by
  simp only [loadAnchors, h]

theorem loadAnchors_cons_of_ok {path : Text} {certificates : List C}
    (h : read path = .ok certificates) :
    loadAnchors read (path :: paths) = (loadAnchors read paths).map (certificates ++ ·) := by
  simp only [loadAnchors, h]
  cases loadAnchors read paths <;> rfl

/-- All files are read, or there is a first one that is not. -/
theorem filesAt_or_firstUnreadable (read : Text → Except ReadFailure (List C))
    (paths : List Text) :
    (∃ files, FilesAt read paths files) ∨ ∃ fault, FirstUnreadable read paths fault := by
  induction paths with
  | nil => exact .inl ⟨[], .nil⟩
  | cons path paths ih =>
    cases hpath : read path with
    | error cause =>
      exact .inr ⟨⟨path, cause⟩, [], paths, rfl, by simp, hpath⟩
    | ok certificates =>
      rcases ih with ⟨files, hfiles⟩ | ⟨fault, before, after, rfl, hbefore, hcause⟩
      · exact .inl ⟨certificates :: files, .cons hpath hfiles⟩
      · refine .inr ⟨fault, path :: before, after, rfl, ?_, hcause⟩
        exact List.forall_mem_cons.2 ⟨⟨certificates, hpath⟩, hbefore⟩

theorem loadAnchors_of_filesAt {files : List (List C)} (h : FilesAt read paths files) :
    loadAnchors read paths = .ok files.flatten := by
  induction h with
  | nil => rfl
  | cons hpath _ ih =>
    rw [loadAnchors_cons_of_ok hpath, ih]
    rfl

theorem loadAnchors_of_firstUnreadable (h : FirstUnreadable read paths fault) :
    loadAnchors read paths = .error fault := by
  obtain ⟨before, after, rfl, hbefore, hcause⟩ := h
  induction before with
  | nil => exact loadAnchors_cons_of_error hcause
  | cons path before ih =>
    obtain ⟨⟨certificates, hpath⟩, hbefore⟩ := List.forall_mem_cons.1 hbefore
    rw [List.cons_append, loadAnchors_cons_of_ok hpath, ih hbefore]
    rfl

/-- Files that hold certificates load to nothing only if there are none of them. -/
theorem flatten_eq_nil_iff_of_filesAt {files : List (List C)} (h : FilesAt read paths files)
    (hread : ∀ path certificates, read path = .ok certificates → certificates ≠ []) :
    files.flatten = [] ↔ paths = [] := by
  cases h with
  | nil => simp
  | @cons path certificates paths files hpath _ =>
    simp [hread path certificates hpath]

end Loading

/-! ## Paths in a setting -/

section Paths

variable {v : Value} {entries paths : List Text}

/-- The entries of a setting that names files.  No setting has none, in a text or in a path they are
separated by colons, and those of any other sequence are its elements as they are displayed. -/
inductive PathEntries : Value → List Text → Prop where
  | missing : PathEntries .null []
  | text {v : Value} {entries : List Text} (hne : entries ≠ [])
      (hcolon : ∀ entry ∈ entries, ':' ∉ entry)
      (htext : v.pathText? = some ([':'].intercalate entries)) : PathEntries v entries
  | sequence {v : Value} {items : List Value} (htext : v.pathText? = none)
      (hitems : v.elements = .ok items) : PathEntries v (items.map Value.display)

/-- The entry names a file by this path: itself without the blanks around it. -/
def NamesFile (entry path : Text) : Prop := entry.trim = path ∧ path ≠ []

theorem collected_namesFile (entries : List Text) :
    Collected NamesFile entries (ClientSettings.trimmedPaths entries) := by
  unfold ClientSettings.trimmedPaths
  induction entries with
  | nil => exact .nil
  | cons entry entries ih =>
    by_cases hblank : entry.trim = []
    · simp only [List.map_cons, hblank, List.isEmpty_nil, Bool.not_true, Bool.false_eq_true,
        not_false_eq_true, List.filter_cons_of_neg]
      refine .drop ?_ ih
      rintro path ⟨rfl, hne⟩
      exact hne hblank
    · have hkept : (!entry.trim.isEmpty) = true := by simpa using hblank
      rw [List.map_cons, List.filter_cons, if_pos hkept]
      exact .keep ⟨rfl, hblank⟩ ih

/-- Nothing but blank entries is lost on the way from a setting to paths. -/
theorem ClientSettings.exists_pathEntries (h : ClientSettings.paths v = .ok paths) :
    ∃ entries, PathEntries v entries ∧ Collected NamesFile entries paths := by
  cases htext : v.pathText? with
  | some s =>
    rw [ClientSettings.paths_of_pathText? htext] at h
    cases h
    -- The text is its entries with colons between them, and that is how they are found.
    refine ⟨s.splitOn ':', ?_, collected_namesFile _⟩
    refine .text (List.splitOn_ne_nil ':' s) (fun entry => Text.not_mem_of_mem_splitOn) ?_
    rw [List.intercalate_splitOn, htext]
  | none =>
    cases hitems : v.elements with
    | ok items =>
      rw [ClientSettings.paths_of_elements htext hitems] at h
      cases h
      exact ⟨items.map Value.display, .sequence htext hitems, collected_namesFile _⟩
    | error single =>
      obtain ⟨rfl, rfl⟩ := ClientSettings.eq_null_of_paths htext hitems h
      exact ⟨[], .missing, .nil⟩

theorem ClientSettings.paths_of_toConfig {settings : ClientSettings} {config : ClientConfig}
    (h : settings.toConfig = .ok config) :
    ClientSettings.paths settings.trustStorePaths = .ok config.trustStorePaths :=
  (ClientSettings.toConfig_eq_ok_iff.1 h).2.2.2

theorem Collected.paths_eq_nil_iff (h : Collected NamesFile entries paths) :
    paths = [] ↔ ∀ entry ∈ entries, entry.isAllBlank = true := by
  induction h with
  | nil => simp
  | @keep entry path entries paths hnames _ ih =>
    obtain ⟨rfl, hne⟩ := hnames
    have hblank : entry.isAllBlank ≠ true := fun hall => hne (Text.trim_eq_nil_iff.2 hall)
    simp [hblank]
  | @drop entry entries paths hnothing _ ih =>
    have hblank : entry.isAllBlank = true := by
      rw [← Text.trim_eq_nil_iff]
      by_contra hne
      exact hnothing _ ⟨rfl, hne⟩
    rw [ih, List.forall_mem_cons]
    simp [hblank]

end Paths

/-! ## From a configuration to a validator -/

section Setup

variable {C : Type} {read : Text → Except ReadFailure (List C)} {config : ClientConfig}

theorem TrustSetup.ofConfig_of_firstUnreadable {fault : StoreFault}
    (h : FirstUnreadable read config.trustStorePaths fault) :
    TrustSetup.ofConfig read config = .error fault := by
  unfold TrustSetup.ofConfig
  rw [loadAnchors_of_firstUnreadable h]
  rfl

variable [X509 C] [DecidableEq C]

/-- When all files are read there is a validator, and it verifies chains against all that was read
as soon as a path was configured. -/
theorem TrustSetup.ofConfig_of_filesAt {files : List (List C)}
    (hread : ∀ path certificates, read path = .ok certificates → certificates ≠ [])
    (h : FilesAt read config.trustStorePaths files) (now : Instant) :
    ∃ setup, TrustSetup.ofConfig read config = .ok setup ∧
      (setup.validator now).policy = ⟨config.mode⟩ ∧
      (config.trustStorePaths = [] ∧ (setup.validator now).verifier = none ∨
        config.trustStorePaths ≠ [] ∧ ∃ store, setup.store = some store ∧
          store.anchors = files.flatten ∧
          (setup.validator now).verifier =
            some fun chain => Chain.verify files.flatten now chain) := by
  have hnil : files.flatten = [] ↔ config.trustStorePaths = [] :=
    flatten_eq_nil_iff_of_filesAt h hread
  refine ⟨⟨config.policy, TrustStore.ofAnchors? files.flatten⟩, ?_, rfl, ?_⟩
  · unfold TrustSetup.ofConfig
    rw [loadAnchors_of_filesAt h]
    rfl
  · unfold TrustSetup.validator
    cases hstore : TrustStore.ofAnchors? files.flatten with
    | none => exact .inl ⟨hnil.1 (TrustStore.ofAnchors?_eq_none_iff.1 hstore), rfl⟩
    | some store =>
      obtain ⟨hanchors, htime⟩ := TrustStore.anchors_of_ofAnchors? hstore
      refine .inr ⟨fun hpaths => ?_, store, rfl, hanchors, congrArg some (funext fun chain => ?_)⟩
      · exact store.nonempty (hanchors.trans (hnil.2 hpaths))
      · rw [← hanchors]
        exact TrustStore.verify_of_no_time htime

/-- A validator without a verifier of chains comes of a configuration without paths, and of no
other. -/
theorem TrustSetup.exists_verifier_eq_none_iff
    (hread : ∀ path certificates, read path = .ok certificates → certificates ≠ [])
    (now : Instant) :
    (∃ setup, TrustSetup.ofConfig read config = .ok setup ∧
      (setup.validator now).verifier = none) ↔ config.trustStorePaths = [] := by
  constructor
  · rintro ⟨setup, hsetup, hnone⟩
    rcases filesAt_or_firstUnreadable read config.trustStorePaths with
      ⟨files, hfiles⟩ | ⟨fault, hfault⟩
    · obtain ⟨setup', hsetup', -, hverifier⟩ := TrustSetup.ofConfig_of_filesAt hread hfiles now
      rw [hsetup] at hsetup'
      cases hsetup'
      rcases hverifier with ⟨hnil, -⟩ | ⟨-, store, -, -, hsome⟩
      · exact hnil
      · rw [hnone] at hsome
        cases hsome
    · rw [TrustSetup.ofConfig_of_firstUnreadable hfault] at hsetup
      cases hsetup
  · intro hpaths
    have hfiles : FilesAt read config.trustStorePaths [] := by
      rw [hpaths]
      exact .nil
    obtain ⟨setup, hsetup, -, hverifier⟩ := TrustSetup.ofConfig_of_filesAt hread hfiles now
    rcases hverifier with ⟨-, hnone⟩ | ⟨hne, -⟩
    · exact ⟨setup, hsetup, hnone⟩
    · exact absurd hpaths hne

/-- **A named store is used.**  The paths of a configuration are the entries of its setting without
the blank ones.  When a file cannot be read, the first one is reported by its path and by what is
said of the cause; when all files can be read, the validator has the policy of the configured mode,
and if there is a path at all it verifies chains against the certificates of all files in their
order.  Only a configuration without paths gives a validator that verifies no chains. -/
theorem named_store_is_used
    (hread : ∀ path certificates, read path = .ok certificates → certificates ≠ [])
    (config : ClientConfig) (now : Instant) :
    (∀ settings : ClientSettings, settings.toConfig = .ok config →
      ∃ entries, PathEntries settings.trustStorePaths entries ∧
        Collected NamesFile entries config.trustStorePaths ∧
        (config.trustStorePaths = [] ↔ ∀ entry ∈ entries, entry.isAllBlank = true)) ∧
    ((∃ fault, FirstUnreadable read config.trustStorePaths fault) ∨
      ∃ files, FilesAt read config.trustStorePaths files) ∧
    (∀ fault, FirstUnreadable read config.trustStorePaths fault →
      TrustSetup.ofConfig read config = .error fault ∧
      fault.report.category = .configuration ∧
      fault.report.message? =
        some ("Cannot load trust store ".toList ++ fault.path ++ ": ".toList ++
          fault.cause.detail)) ∧
    (∀ files, FilesAt read config.trustStorePaths files →
      ∃ setup, TrustSetup.ofConfig read config = .ok setup ∧
        (setup.validator now).policy = ⟨config.mode⟩ ∧
        (config.trustStorePaths ≠ [] → ∃ store, setup.store = some store ∧
          store.anchors = files.flatten ∧
          (setup.validator now).verifier =
            some fun chain => Chain.verify files.flatten now chain)) ∧
    ((∃ setup, TrustSetup.ofConfig read config = .ok setup ∧
        (setup.validator now).verifier = none) ↔ config.trustStorePaths = []) := by
  refine ⟨?_, ?_, ?_, ?_, ?_⟩
  · intro settings hsettings
    obtain ⟨entries, hentries, hcollected⟩ :=
      ClientSettings.exists_pathEntries (ClientSettings.paths_of_toConfig hsettings)
    exact ⟨entries, hentries, hcollected, hcollected.paths_eq_nil_iff⟩
  · exact (filesAt_or_firstUnreadable read config.trustStorePaths).symm
  · intro fault hfault
    exact ⟨TrustSetup.ofConfig_of_firstUnreadable hfault, rfl, rfl⟩
  · intro files hfiles
    obtain ⟨setup, hsetup, hpolicy, hverifier⟩ :=
      TrustSetup.ofConfig_of_filesAt hread hfiles now
    refine ⟨setup, hsetup, hpolicy, fun hpaths => ?_⟩
    rcases hverifier with ⟨hnil, -⟩ | ⟨-, hstore⟩
    · exact absurd hnil hpaths
    · exact hstore
  · exact TrustSetup.exists_verifier_eq_none_iff hread now

end Setup

/-! ## A bundle, and a file that is none -/

/-- A directory with a bundle of two authorities and a file without certificates. -/
def twoFiles : FileTree Certificate :=
  [(["roots.pem".toList],
    .file (Pem.encode Chain.rootAuthority ++ Pem.encode Chain.issuingAuthority)),
   (["notes.txt".toList], .file (Pem.ofText "no certificate".toList))]

/-- A configuration with these paths under the strict mode. -/
def strictConfig (paths : List Text) : ClientConfig := ⟨.strict, none, none, paths⟩

/-- The reader of these files, which quotes the path in what it says of a fault. -/
def readTwoFiles : Text → Except ReadFailure (List Certificate) :=
  twoFiles.reader fun path _ => path

/-- The bundle alone gives a verifier with both authorities.  With the other file behind it, and a
missing one behind that, the other file is the error. -/
theorem named_store_is_used_twoFiles :
    (∃ setup, TrustSetup.ofConfig readTwoFiles (strictConfig ["roots.pem".toList]) = .ok setup ∧
      (setup.validator ⟨50⟩).policy = ⟨.strict⟩ ∧
      (setup.validator ⟨50⟩).verifier = some fun chain =>
        Chain.verify [Chain.rootAuthority, Chain.issuingAuthority] ⟨50⟩ chain) ∧
    TrustSetup.ofConfig readTwoFiles
        (strictConfig ["roots.pem".toList, "notes.txt".toList, "missing.pem".toList]) =
      .error ⟨"notes.txt".toList, .malformed, "notes.txt".toList⟩ := by
  have hread : ∀ path certificates, readTwoFiles path = .ok certificates → certificates ≠ [] :=
    fun _ _ => FileTree.reader_ne_nil
  have hroots : readTwoFiles "roots.pem".toList =
      .ok [Chain.rootAuthority, Chain.issuingAuthority] := by decide +kernel
  have hnotes : readTwoFiles "notes.txt".toList = .error ⟨.malformed, "notes.txt".toList⟩ := by
    decide +kernel
  constructor
  · obtain ⟨-, -, -, hloaded, -⟩ := named_store_is_used hread
      (strictConfig ["roots.pem".toList]) ⟨50⟩
    obtain ⟨setup, hsetup, hpolicy, hstore⟩ := hloaded _ (.cons hroots .nil)
    obtain ⟨store, -, -, hverifier⟩ := hstore (List.cons_ne_nil _ _)
    exact ⟨setup, hsetup, hpolicy, hverifier⟩
  · obtain ⟨-, -, hfails, -, -⟩ := named_store_is_used hread
      (strictConfig ["roots.pem".toList, "notes.txt".toList, "missing.pem".toList]) ⟨50⟩
    refine (hfails ⟨"notes.txt".toList, .malformed, "notes.txt".toList⟩ ?_).1
    refine ⟨["roots.pem".toList], ["missing.pem".toList], rfl, ?_, hnotes⟩
    exact List.forall_mem_singleton.2 ⟨_, hroots⟩

end PeerTrust
