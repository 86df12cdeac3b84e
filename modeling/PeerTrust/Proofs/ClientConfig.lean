import PeerTrust.ClientConfig
import PeerTrust.Proofs.Mode
import PeerTrust.Proofs.NameList

/-!
One configuration by two routes.

In an environment every setting is one text, and lists are joined in it: names by commas and paths
by colons.  A caller passes the lists themselves.  Each route has its own way to the entries of a
list, and both meet there, so that trimming and dropping what is blank is done to the same entries
(`environment_agrees_with_lists`).  What a join could lose is the difference between no entry and
one that is empty.  Neither names anything, which is also why a variable may as well be unset as
empty.

A configuration can only fail for a value that is no sequence or for its mode.  Lists and joined
lists are never the former, so both routes also fail alike, with the name of the mode as it was
given (`ClientSettings.toConfig_of_ok`).
-/

namespace PeerTrust

/-- The value is a sequence of these texts and not itself a text. -/
def Value.Lists (v : Value) (texts : List Text) : Prop :=
  v.text? = none ∧ v.elements = .ok (texts.map .text)

variable {v : Value} {texts : List Text}

/-- Where no text is read as an empty one, a text that may be missing is read as one that may be
empty. -/
theorem Value.read_getD_null {α : Type} {read : Value → α} (h : read .null = read (.text []))
    (o : Option Text) : read ((o.map .text).getD .null) = read (.text (o.getD [])) := by
  cases o with
  | none => exact h
  | some s => rfl

/-! ## Lists of names -/

namespace NameList

theorem ofValue_of_lists (h : v.Lists texts) : ofValue v = .ok (ofEntries (texts.map .text)) :=
  ofValue_eq_ok_iff_exists.2 ⟨_, .sequence h.1 h.2, rfl⟩

theorem ofValue_text_intercalate (h : ∀ text ∈ texts, ',' ∉ text) :
    ofValue (.text ([','].intercalate texts)) = .ok (ofEntries (texts.map .text)) := by
  cases texts with
  | nil => rfl
  | cons text texts => exact ofValue_eq_ok_iff_exists.2 ⟨_, .text (List.cons_ne_nil _ _) h, rfl⟩

end NameList

namespace ClientSettings

variable {settings : ClientSettings} {config : ClientConfig} {lookup : Text → Option Text}
  {verifier : Text} {protocols ciphers paths : List Text}

/-! ## Lists of paths -/

/-- The texts without the blanks around them, except those with nothing left. -/
def trimmedPaths (texts : List Text) : List Text := (texts.map Text.trim).filter (!·.isEmpty)

theorem filter_map_trim_display (items : List Value) :
    (items.map (·.display.trim)).filter (!·.isEmpty) = trimmedPaths (items.map Value.display) := by
  unfold trimmedPaths
  rw [List.map_map]
  rfl

theorem map_display_text (texts : List Text) :
    (texts.map Value.text).map Value.display = texts := by
  rw [List.map_map]
  exact List.map_id texts

theorem pathEntries_of_pathText? {s : Text} (h : v.pathText? = some s) :
    pathEntries v = .ok ((s.splitOn ':').map .text) := by
  unfold pathEntries
  rw [h]
  cases v with
  | null => cases h
  | _ => rfl

theorem pathEntries_of_ne_null (hnull : v ≠ .null) (h : v.pathText? = none) :
    pathEntries v = v.elements := by
  unfold pathEntries
  rw [h]
  cases v with
  | null => exact absurd rfl hnull
  | _ => rfl

theorem paths_of_pathText? {s : Text} (h : v.pathText? = some s) :
    ClientSettings.paths v = .ok (trimmedPaths (s.splitOn ':')) := by
  have hpaths := filter_map_trim_display ((s.splitOn ':').map .text)
  rw [map_display_text] at hpaths
  unfold ClientSettings.paths
  rw [pathEntries_of_pathText? h, ← hpaths]
  rfl

theorem paths_of_elements {items : List Value} (htext : v.pathText? = none)
    (hitems : v.elements = .ok items) :
    ClientSettings.paths v = .ok (trimmedPaths (items.map Value.display)) := by
  have hnull : v ≠ .null := by
    rintro rfl
    cases hitems
  unfold ClientSettings.paths
  rw [pathEntries_of_ne_null hnull htext, hitems, ← filter_map_trim_display]
  rfl

/-- Of the values with neither a text nor elements only a missing one gives paths, and these are
none. -/
theorem eq_null_of_paths {single : Value.NotIterable} (htext : v.pathText? = none)
    (hitems : v.elements = .error single) (h : ClientSettings.paths v = .ok paths) :
    v = .null ∧ paths = [] := by
  by_cases hnull : v = .null
  · subst hnull
    cases h
    exact ⟨rfl, rfl⟩
  · unfold ClientSettings.paths at h
    rw [pathEntries_of_ne_null hnull htext, hitems] at h
    cases h

/-- A sequence is no path. -/
theorem pathText?_of_elements {items : List Value} (htext : v.text? = none)
    (hitems : v.elements = .ok items) : v.pathText? = none := by
  cases v with
  | text s => cases htext
  | object o =>
    obtain ⟨type, display, literal, vacuous, isKey, shape⟩ := o
    cases shape with
    | sequence items => rfl
    | _ => cases hitems
  | _ => rfl

theorem paths_of_lists (h : v.Lists texts) :
    ClientSettings.paths v = .ok (trimmedPaths texts) := by
  rw [paths_of_elements (pathText?_of_elements h.1 h.2) h.2, map_display_text]

theorem paths_text_intercalate (h : ∀ text ∈ texts, ':' ∉ text) :
    ClientSettings.paths (.text ([':'].intercalate texts)) = .ok (trimmedPaths texts) := by
  cases texts with
  | nil => rfl
  | cons text texts =>
    rw [paths_of_pathText? rfl, List.splitOn_intercalate ':' h (List.cons_ne_nil _ _)]

/-! ## Configurations -/

theorem toConfig_eq_ok_iff :
    settings.toConfig = .ok config ↔
      Mode.ofSetting settings.hostnameVerifier = .ok config.mode ∧
      NameList.ofValue settings.httpsProtocols = .ok config.httpsProtocols ∧
      NameList.ofValue settings.preferredCiphers = .ok config.preferredCiphers ∧
      ClientSettings.paths settings.trustStorePaths = .ok config.trustStorePaths := by
  obtain ⟨mode, protocolList, cipherList, pathList⟩ := config
  unfold toConfig
  cases NameList.ofValue settings.httpsProtocols with
  | error single => exact iff_of_false nofun fun h => nomatch h.2.1
  | ok first =>
    cases NameList.ofValue settings.preferredCiphers with
    | error single => exact iff_of_false nofun fun h => nomatch h.2.2.1
    | ok second =>
      cases ClientSettings.paths settings.trustStorePaths with
      | error single => exact iff_of_false nofun fun h => nomatch h.2.2.2
      | ok third =>
        cases Mode.ofSetting settings.hostnameVerifier with
        | error unknown => exact iff_of_false nofun fun h => nomatch h.1
        | ok fourth =>
          simp only [bind, Except.bind, Except.mapError, pure, Except.pure, Except.ok.injEq,
            ClientConfig.mk.injEq]

/-- Once the lists are read, everything is up to the mode. -/
theorem toConfig_of_ok {protocolList cipherList : NameList}
    (hprotocols : NameList.ofValue settings.httpsProtocols = .ok protocolList)
    (hciphers : NameList.ofValue settings.preferredCiphers = .ok cipherList)
    (hpaths : ClientSettings.paths settings.trustStorePaths = .ok paths) :
    settings.toConfig =
      match Mode.ofSetting settings.hostnameVerifier with
      | .ok mode => .ok ⟨mode, protocolList, cipherList, paths⟩
      | .error unknown => .error (.unknownVerifier unknown) := by
  unfold toConfig
  rw [hprotocols, hciphers, hpaths]
  cases Mode.ofSetting settings.hostnameVerifier <;> rfl

/-- Configurations differ only where what is read differs. -/
theorem toConfig_congr {other : ClientSettings}
    (hmode : Mode.ofSetting settings.hostnameVerifier = Mode.ofSetting other.hostnameVerifier)
    (hprotocols :
      NameList.ofValue settings.httpsProtocols = NameList.ofValue other.httpsProtocols)
    (hciphers :
      NameList.ofValue settings.preferredCiphers = NameList.ofValue other.preferredCiphers)
    (hpaths : ClientSettings.paths settings.trustStorePaths =
      ClientSettings.paths other.trustStorePaths) :
    settings.toConfig = other.toConfig := by
  unfold toConfig
  rw [hmode, hprotocols, hciphers, hpaths]

/-! ## Environments -/

/-- The settings are a text for the mode and sequences for everything else. -/
structure Lists (settings : ClientSettings) (verifier : Text)
    (protocols ciphers paths : List Text) : Prop where
  verifier : settings.hostnameVerifier = .text verifier
  protocols : settings.httpsProtocols.Lists protocols
  ciphers : settings.preferredCiphers.Lists ciphers
  paths : settings.trustStorePaths.Lists paths

/-- The variables of the environment are the name of the mode and the joined lists; one that is
empty may as well be unset. -/
structure Joins (lookup : Text → Option Text) (verifier : Text)
    (protocols ciphers paths : List Text) : Prop where
  verifier : (lookup "TLS_HOSTNAME_VERIFIER".toList).getD [] = verifier
  protocols : (lookup "TLS_HTTPS_PROTOCOLS".toList).getD [] = [','].intercalate protocols
  ciphers : (lookup "TLS_PREFERRED_CIPHERS".toList).getD [] = [','].intercalate ciphers
  paths : (lookup "TLS_TRUST_STORE".toList).getD [] = [':'].intercalate paths

/-- Unset variables may as well be empty. -/
theorem toConfig_ofEnvironment (lookup : Text → Option Text) :
    (ofEnvironment lookup).toConfig =
      (ofEnvironment fun name => some ((lookup name).getD [])).toConfig :=
  toConfig_congr (Value.read_getD_null rfl _) (Value.read_getD_null rfl _)
    (Value.read_getD_null rfl _) (Value.read_getD_null rfl _)

theorem toConfig_ofEnvironment_of_joins (hjoins : Joins lookup verifier protocols ciphers paths)
    (hlists : settings.Lists verifier protocols ciphers paths)
    (hprotocols : ∀ name ∈ protocols, ',' ∉ name) (hciphers : ∀ name ∈ ciphers, ',' ∉ name)
    (hpaths : ∀ path ∈ paths, ':' ∉ path) :
    (ofEnvironment lookup).toConfig = settings.toConfig := by
  rw [toConfig_ofEnvironment]
  refine toConfig_congr ?_ ?_ ?_ ?_
  · change Mode.ofSetting (.text ((lookup _).getD [])) = _
    rw [hjoins.verifier, hlists.verifier]
  · change NameList.ofValue (.text ((lookup _).getD [])) = _
    rw [hjoins.protocols, NameList.ofValue_text_intercalate hprotocols,
      NameList.ofValue_of_lists hlists.protocols]
  · change NameList.ofValue (.text ((lookup _).getD [])) = _
    rw [hjoins.ciphers, NameList.ofValue_text_intercalate hciphers,
      NameList.ofValue_of_lists hlists.ciphers]
  · change ClientSettings.paths (.text ((lookup _).getD [])) = _
    rw [hjoins.paths, paths_text_intercalate hpaths, paths_of_lists hlists.paths]

/-- Texts are read whatever is in them, so that the only fault is that of the mode, which is then
not unset. -/
theorem exists_of_toConfig_ofEnvironment_eq_error {fault : ConfigFault}
    (h : (ofEnvironment lookup).toConfig = .error fault) :
    ∃ verifier, lookup "TLS_HOSTNAME_VERIFIER".toList = some verifier ∧
      fault = .unknownVerifier ⟨.text verifier⟩ := by
  rw [toConfig_ofEnvironment, toConfig_of_ok rfl rfl rfl] at h
  cases hmode : Mode.ofSetting
      (ofEnvironment fun name => some ((lookup name).getD [])).hostnameVerifier with
  | ok mode =>
    rw [hmode] at h
    cases h
  | error unknown =>
    rw [hmode] at h
    cases h
    rw [Mode.eq_of_ofSetting_eq_error hmode]
    change Mode.ofSetting (.text ((lookup "TLS_HOSTNAME_VERIFIER".toList).getD [])) = _ at hmode
    cases hverifier : lookup "TLS_HOSTNAME_VERIFIER".toList with
    | none =>
      rw [hverifier] at hmode
      cases hmode
    | some verifier =>
      refine ⟨verifier, rfl, ?_⟩
      change ConfigFault.unknownVerifier
        ⟨.text ((lookup "TLS_HOSTNAME_VERIFIER".toList).getD [])⟩ = _
      rw [hverifier, Option.getD_some]

/-- **Environments and lists agree.**  An environment with joined lists gives what the lists
themselves give, the same configuration or the same fault, as long as no name has a comma in it and
no path a colon.  Two environments give the same if they differ only in which of the empty variables
are set.  And in an environment nothing but the name of the mode can be wrong. -/
theorem environment_agrees_with_lists (lookup : Text → Option Text) :
    (∀ (settings : ClientSettings) (verifier : Text) (protocols ciphers paths : List Text),
      settings.Lists verifier protocols ciphers paths →
      Joins lookup verifier protocols ciphers paths →
      (∀ name ∈ protocols, ',' ∉ name) → (∀ name ∈ ciphers, ',' ∉ name) →
      (∀ path ∈ paths, ':' ∉ path) →
        (ofEnvironment lookup).toConfig = settings.toConfig) ∧
    (∀ lookup' : Text → Option Text,
      (∀ name, (lookup name).getD [] = (lookup' name).getD []) →
        (ofEnvironment lookup).toConfig = (ofEnvironment lookup').toConfig) ∧
    ∀ fault, (ofEnvironment lookup).toConfig = .error fault →
      ∃ verifier, lookup "TLS_HOSTNAME_VERIFIER".toList = some verifier ∧
        fault = .unknownVerifier ⟨.text verifier⟩ := by
  refine ⟨fun settings verifier protocols ciphers paths hlists hjoins hprotocols hciphers hpaths =>
    ?_, fun lookup' hsame => ?_, fun fault hfault => ?_⟩
  · exact toConfig_ofEnvironment_of_joins hjoins hlists hprotocols hciphers hpaths
  · rw [toConfig_ofEnvironment lookup, toConfig_ofEnvironment lookup']
    simp only [hsame]
  · exact exists_of_toConfig_ofEnvironment_eq_error hfault

/-- An environment with this mode, some joined lists, and no list of ciphers. -/
def joinedEnvironment (verifier name : Text) : Option Text :=
  if name = "TLS_HOSTNAME_VERIFIER".toList then some verifier
  else if name = "TLS_HTTPS_PROTOCOLS".toList then some " TLSv1.3 ,,TLSv1.2".toList
  else if name = "TLS_TRUST_STORE".toList then some "/etc/roots.pem:\t:more.pem".toList
  else none

/-- The same settings with the lists as they are. -/
def listedSettings (verifier : Text) : ClientSettings where
  hostnameVerifier := .text verifier
  httpsProtocols := .list [.text " TLSv1.3 ".toList, .text [], .text "TLSv1.2".toList]
  preferredCiphers := .tuple []
  trustStorePaths :=
    .tuple [.text "/etc/roots.pem".toList, .text "\t".toList, .text "more.pem".toList]

/-- The two agree on a mode that exists and on one that does not, and so does the environment with
every variable set. -/
theorem environment_agrees_with_lists_joined :
    (ofEnvironment (joinedEnvironment "AllowAll".toList)).toConfig =
      .ok ⟨.allowAll, some ["TLSv1.3".toList, "TLSv1.2".toList], none,
        ["/etc/roots.pem".toList, "more.pem".toList]⟩ ∧
    (listedSettings "Lenient".toList).toConfig =
      .error (.unknownVerifier ⟨.text "Lenient".toList⟩) ∧
    (ofEnvironment fun name => some ((joinedEnvironment "Lenient".toList name).getD [])).toConfig =
      (listedSettings "Lenient".toList).toConfig := by
  have hagree (verifier : Text) : (ofEnvironment (joinedEnvironment verifier)).toConfig =
      (listedSettings verifier).toConfig := by
    refine (environment_agrees_with_lists (joinedEnvironment verifier)).1 _ verifier
      [" TLSv1.3 ".toList, [], "TLSv1.2".toList] []
      ["/etc/roots.pem".toList, "\t".toList, "more.pem".toList] ?_ ?_ (by decide) (by decide)
      (by decide)
    · exact ⟨rfl, ⟨rfl, rfl⟩, ⟨rfl, rfl⟩, ⟨rfl, rfl⟩⟩
    · exact ⟨rfl, rfl, rfl, rfl⟩
  have hlenient : (listedSettings "Lenient".toList).toConfig =
      .error (.unknownVerifier ⟨.text "Lenient".toList⟩) := by rfl
  refine ⟨?_, hlenient, ?_⟩
  · rw [hagree]
    rfl
  · rw [← hagree]
    exact ((environment_agrees_with_lists (joinedEnvironment "Lenient".toList)).2.1 _
      fun name => rfl).symm

end ClientSettings

end PeerTrust
