import PeerTrust.Proofs.Host.Comparison
import PeerTrust.Proofs.Identity.Matching
import PeerTrust.Proofs.IpAddress.Value

/-!
Which names a host that is an IP address matches.

Such a host is matched by value: by a name that denotes the same address, however either of them is
spelled, and by no other name (`matchesHost_literal_iff`).  Zones may be any text, so a host may
well end as a wildcard does; what keeps the wildcards away is that a host with a full stop in its
normal form is still seen to be an address there.
-/

namespace PeerTrust

variable {strict : Bool} {host name : Text} {ids : IdentitySet}

/-- No wildcard covers an IP address. -/
theorem nameMatches_literal_of_asterisk_mem (h : Host.isIpLiteral host = true)
    (hasterisk : '*' ∈ name) : nameMatches strict (Host.normalize host) name = false := by
  rw [← Bool.not_eq_true, nameMatches_of_asterisk_mem hasterisk]
  rintro ⟨hname, hcovers⟩
  obtain ⟨front, ending, hcovering, -⟩ := Wildcard.covers_iff.1 hcovers
  simp [hcovering.isIpLiteral_eq_false hname] at h

theorem asterisk_mem_fold_iff : '*' ∈ name.fold ↔ '*' ∈ name :=
  Text.mem_fold_iff (by decide +kernel) (by decide) (by decide)

/-- **IP addresses match by value.**  A host that is an IP address, in whatever spelling, matches a
set of identities exactly when a candidate without an asterisk is one too, and the two denote
addresses of the same version and number and with the same zone, when blanks around them and the
case of their letters are disregarded. -/
theorem matchesHost_literal_iff (h : Host.isIpLiteral host = true) (ids : IdentitySet)
    (strict : Bool) :
    ids.matchesHost strict host = true ↔
      ∃ name, .text name ∈ ids.candidates ∧ '*' ∉ name ∧ Host.isIpLiteral name = true ∧
        ∃ a b, Host.address? host.fold = some a ∧ Host.address? name.fold = some b ∧
          a.version = b.version ∧ a.number = b.number ∧ a.zone = b.zone := by
  obtain ⟨a, ha⟩ := Host.isIpLiteral_iff.1 h
  have hne : host ≠ [] := by
    rintro rfl
    exact absurd h (by decide)
  rw [IdentitySet.matchesHost_eq_true_iff]
  constructor
  · rintro ⟨-, name, hmem, hmatches⟩
    have hasterisk : '*' ∉ name.fold := by
      intro hasterisk
      simp [nameMatches_literal_of_asterisk_mem h hasterisk] at hmatches
    rw [nameMatches_of_asterisk_not_mem hasterisk, Host.normalize_fold,
      Host.normalize_eq_iff ha] at hmatches
    exact ⟨name, hmem, mt asterisk_mem_fold_iff.2 hasterisk, Host.isIpLiteral_iff.2 ⟨a, hmatches⟩,
      a, a, ha, hmatches, rfl, rfl, rfl⟩
  · rintro ⟨name, hmem, hasterisk, -, a', b, ha', hb, hsame⟩
    obtain rfl := IpAddress.eq_iff.2 hsame
    refine ⟨hne, name, hmem, ?_⟩
    rw [nameMatches_of_asterisk_not_mem (mt asterisk_mem_fold_iff.1 hasterisk),
      Host.normalize_fold, Host.normalize_eq_iff ha']
    exact hb

/-- The address `2001:db8::1` with this zone. -/
def exampleAddress (zone : Option Text) : IPv6 := ⟨[0x2001, 0xDB8, 0, 0, 0, 0, 0, 1], zone, rfl⟩

/-- The address in brackets, with a zone that looks like a name. -/
def zonedHost : Text := " [2001:DB8::1%lo.example.com]".toList

/-- A host matches the other spelling of its address, and neither a wildcard that covers the end of
its zone nor the address without the zone. -/
theorem matchesHost_zonedHost :
    Host.isIpLiteral zonedHost = true ∧
    (IdentitySet.ofTexts [] ["2001:0DB8:0::0:1%LO.example.COM ".toList]).matchesHost true
      zonedHost = true ∧
    (IdentitySet.ofTexts ["*.example.com".toList] ["2001:db8::1".toList]).matchesHost false
      zonedHost = false := by
  have hliteral : Host.isIpLiteral zonedHost = true := by decide +kernel
  have hhost : Host.address? zonedHost.fold =
      some (.v6 (exampleAddress "lo.example.com".toList)) := by decide +kernel
  refine ⟨hliteral, ?_, ?_⟩
  · refine (matchesHost_literal_iff hliteral _ true).2 ⟨_, List.mem_singleton_self _,
      by decide, by decide +kernel, _, _, hhost, ?_, rfl, rfl, rfl⟩
    decide +kernel
  · rw [← Bool.not_eq_true]
    intro h
    obtain ⟨name, hmem, hasterisk, -, a, b, ha, hb, -, -, hzone⟩ :=
      (matchesHost_literal_iff hliteral _ false).1 h
    have hname : Host.address? (Text.fold "2001:db8::1".toList) =
        some (.v6 (exampleAddress none)) := by decide +kernel
    have hcases : name = "*.example.com".toList ∨ name = "2001:db8::1".toList := by
      simpa [IdentitySet.candidates, IdentitySet.ofTexts, Value.vacuous] using hmem
    rcases hcases with rfl | rfl
    · exact absurd hasterisk (by decide)
    · rw [hhost] at ha
      rw [hname] at hb
      cases ha
      cases hb
      cases hzone

end PeerTrust
