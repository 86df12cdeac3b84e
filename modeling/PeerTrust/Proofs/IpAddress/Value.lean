import Mathlib.Data.Nat.Digits.Lemmas
import PeerTrust.IpAddress

/-!
The value of an address.

An address is a number of 32 or of 128 bits, to which IPv6 adds the zone, and besides its version
there is nothing else to it: addresses of the same version, number and zone are one and the same
(`IpAddress.eq_iff`).  Octets and groups are the digits of the number, the most significant first.
-/

namespace PeerTrust

/-! ## Digits -/

section Digits

variable {α : Type} {digit : α → Nat} {base : Nat}

/-- The number written with these digits, the most significant first. -/
def numberOf (base : Nat) (digit : α → Nat) (ds : List α) : Nat :=
  Nat.ofDigits base (ds.reverse.map digit)

theorem numberOf_injective (hbase : 1 < base) (hdigit : Function.Injective digit)
    (hbound : ∀ d, digit d < base) {ds ds' : List α} (hlength : ds.length = ds'.length)
    (h : numberOf base digit ds = numberOf base digit ds') : ds = ds' := by
  have hdigits : ∀ ds : List α, ∀ n ∈ ds.reverse.map digit, n < base := by
    intro ds n hn
    obtain ⟨d, -, rfl⟩ := List.mem_map.1 hn
    exact hbound d
  have hreverse : (ds.reverse.map digit).length = (ds'.reverse.map digit).length := by
    simp only [List.length_map, List.length_reverse, hlength]
  have hmap := Nat.ofDigits_inj_of_len_eq hbase hreverse (hdigits ds) (hdigits ds') h
  rw [List.map_inj_right hdigit] at hmap
  exact List.reverse_inj.1 hmap

end Digits

/-! ## Addresses -/

namespace IPv4

/-- The address as a number of 32 bits. -/
def number (x : IPv4) : Nat := numberOf 256 UInt8.toNat [x.a, x.b, x.c, x.d]

theorem number_injective {x y : IPv4} (h : x.number = y.number) : x = y := by
  have hoctets : [x.a, x.b, x.c, x.d] = [y.a, y.b, y.c, y.d] :=
    numberOf_injective (by decide) (fun _ _ => UInt8.toNat_inj.1) UInt8.toNat_lt rfl h
  cases x
  cases y
  simpa using hoctets

end IPv4

namespace IPv6

/-- The address as a number of 128 bits. -/
def number (x : IPv6) : Nat := numberOf 65536 UInt16.toNat x.groups

theorem groups_eq_of_number {x y : IPv6} (h : x.number = y.number) : x.groups = y.groups :=
  numberOf_injective (by decide) (fun _ _ => UInt16.toNat_inj.1) UInt16.toNat_lt
    (x.length_groups.trans y.length_groups.symm) h

end IPv6

namespace IpAddress

/-- The version of the protocol. -/
def version : IpAddress → Nat
  | v4 _ => 4
  | v6 _ => 6

/-- The address as a number. -/
def number : IpAddress → Nat
  | v4 x => x.number
  | v6 x => x.number

/-- The zone; an IPv4 address has none. -/
def zone : IpAddress → Option Text
  | v4 _ => none
  | v6 x => x.zone

/-- Version, number and zone determine an address. -/
theorem eq_iff {a b : IpAddress} :
    a = b ↔ a.version = b.version ∧ a.number = b.number ∧ a.zone = b.zone := by
  constructor
  · rintro rfl
    exact ⟨rfl, rfl, rfl⟩
  · rintro ⟨hversion, hnumber, hzone⟩
    match a, b with
    | v4 x, v4 y => exact congrArg v4 (IPv4.number_injective hnumber)
    | v6 x, v6 y =>
      have hgroups := IPv6.groups_eq_of_number hnumber
      cases x
      cases y
      simp only [v6.injEq, IPv6.mk.injEq]
      exact ⟨hgroups, hzone⟩
    | v4 _, v6 _ => cases hversion
    | v6 _, v4 _ => cases hversion

-- Two spellings of one address, and one that differs in its zone alone.
example : parse? "1:0::00FF%eth0".toList = parse? "1::ff%eth0".toList := by decide
example : (parse? "1::ff%eth1".toList).map number = (parse? "1::ff%eth0".toList).map number := by
  decide

end IpAddress

end PeerTrust
