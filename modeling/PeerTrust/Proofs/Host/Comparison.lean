import PeerTrust.Proofs.Host.Normal
import PeerTrust.Proofs.Text.Fold

/-!
When two hosts have the same normal form.

A normal form is read back as the address it was made from, so hosts with one address between them
are those with one normal form (`normalize_eq_iff`), and a name that is no address is never mistaken
for one.  Which address a host denotes is asked of its comparable form, where the zone is in lower
case; whether it denotes one may be asked of either (`isIpLiteral_iff`).
-/

namespace PeerTrust

/-- An address that was read from some text is read from its own written form. -/
theorem IpAddress.parse?_toText_of_parse? {s : Text} {a : IpAddress} (h : parse? s = some a) :
    parse? a.toText = some a := by
  cases a with
  | v4 x => exact parse?_eq_v4_iff.2 (IPv4.parse?_toText x)
  | v6 x =>
    obtain ⟨address, -, hwritable, -⟩ := IPv6.parse?_eq_some_iff.1 (parse?_eq_v6_iff.1 h)
    exact parse?_eq_v6_iff.2 (IPv6.parse?_toText hwritable)

namespace Host

variable {s host name : Text} {a : IpAddress}

theorem isIpLiteral_iff : isIpLiteral host = true ↔ ∃ a, address? host.fold = some a := by
  unfold isIpLiteral
  rw [Option.isSome_iff_exists]
  constructor
  · rintro ⟨a, ha⟩
    exact ⟨a.lowerZone, address?_lower_iff.2 ⟨a, ha, rfl⟩⟩
  · rintro ⟨b, hb⟩
    obtain ⟨a, ha, -⟩ := address?_lower_iff.1 hb
    exact ⟨a, ha⟩

theorem address?_toText (h : address? s = some a) : address? a.toText = some a :=
  address?_of_parse? (IpAddress.parse?_toText_of_parse? h)

theorem normalize_of_address? (h : address? name.fold = some a) : normalize name = a.toText := by
  unfold normalize
  rw [h]

/-- A name that is no address is in normal form once it is in comparable form. -/
theorem normalize_of_address?_eq_none (h : address? name.fold = none) :
    normalize name = name.fold := by
  unfold normalize
  rw [h]

/-- A normal form denotes the address that it was made from, and none if it was made from a name. -/
theorem address?_normalize (name : Text) : address? (normalize name) = address? name.fold := by
  cases h : address? name.fold with
  | none => rw [normalize_of_address?_eq_none h, h]
  | some a => rw [normalize_of_address? h, address?_toText h]

/-- Only blanks have nothing for their normal form. -/
theorem normalize_eq_nil_iff : normalize name = [] ↔ name.trim = [] := by
  rw [← Text.fold_eq_nil_iff]
  cases h : address? name.fold with
  | none => rw [normalize_of_address?_eq_none h]
  | some a =>
    have hempty : address? [] = none := by decide
    rw [normalize_of_address? h]
    refine iff_of_false (fun htext => ?_) fun hfold => ?_
    · have haddress := address?_toText h
      rw [htext, hempty] at haddress
      cases haddress
    · rw [hfold, hempty] at h
      cases h

/-- The normal form is made from the comparable one. -/
theorem normalize_eq_of_fold_eq (h : s.fold = name.fold) : normalize s = normalize name := by
  unfold normalize
  rw [h]

/-- A name may be brought into comparable form before its normal form is taken. -/
theorem normalize_fold (name : Text) : normalize name.fold = normalize name :=
  normalize_eq_of_fold_eq (Text.fold_fold name)

/-- What has the normal form of an address denotes that address. -/
theorem normalize_eq_iff (h : address? host.fold = some a) :
    normalize host = normalize name ↔ address? name.fold = some a := by
  have htext := address?_toText h
  rw [normalize_of_address? h]
  constructor
  · intro hnormal
    cases hname : address? name.fold with
    | none =>
      -- A name that is no address is its own normal form, and that is read as an address.
      rw [normalize_of_address?_eq_none hname] at hnormal
      rw [← hnormal, htext] at hname
      cases hname
    | some b =>
      rw [normalize_of_address? hname] at hnormal
      rw [← address?_toText hname, ← hnormal, htext]
  · intro hname
    rw [normalize_of_address? hname]

end Host

end PeerTrust
