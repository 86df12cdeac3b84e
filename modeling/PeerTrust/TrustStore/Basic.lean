import PeerTrust.Chain.Verify

/-!
Trust stores.

A trust store holds at least one anchor: verification against no anchor could only fail, and a
caller that has none is meant to leave the verification of chains out.  It may also hold a time,
at which chains are verified in place of the time of verification.
-/

namespace PeerTrust

/-- The anchors that chains are verified against, and the time for which they are. -/
structure TrustStore (C : Type) where
  anchors : List C
  nonempty : anchors ≠ []
  time : Option ClockTime := none

/-- There is no anchor to verify against. -/
structure NoAnchors where
deriving DecidableEq

/-- The lack of anchors as callers see it. -/
def NoAnchors.report (_ : NoAnchors) : Report :=
  .plain .value "At least one trust anchor is required".toList

namespace TrustStore

variable {C : Type}

/-- The store of these anchors, if there are any. -/
def ofAnchors? : List C → Option (TrustStore C)
  | [] => none
  | c :: cs => some { anchors := c :: cs, nonempty := List.cons_ne_nil c cs }

/-- The store of these anchors, of which there must be one, for a time. -/
def ofAnchors (anchors : List C) (time : Option ClockTime) : Except NoAnchors (TrustStore C) :=
  match ofAnchors? anchors with
  | some store => .ok { store with time }
  | none => .error ⟨⟩

/-- There is a store as soon as there is an anchor. -/
theorem ofAnchors?_eq_none_iff {anchors : List C} : ofAnchors? anchors = none ↔ anchors = [] := by
  cases anchors <;> simp [ofAnchors?]

/-- A store holds the anchors it was made of, and no time. -/
theorem anchors_of_ofAnchors? {anchors : List C} {store : TrustStore C}
    (h : ofAnchors? anchors = some store) : store.anchors = anchors ∧ store.time = none := by
  cases anchors with
  | nil => cases h
  | cons c cs => cases h; exact ⟨rfl, rfl⟩

/-- The instant for which a chain is verified, when it is verified now. -/
def instant (store : TrustStore C) (now : Instant) : Instant :=
  match store.time with
  | none => now
  | some time => time.instant

/-- Verifies a chain against the store, now. -/
def verify [X509 C] [DecidableEq C] (store : TrustStore C) (now : Instant) (chain : List C) :
    Except (Chain.Fault C) Unit :=
  Chain.verify store.anchors (store.instant now) chain

section Verification

variable [X509 C] [DecidableEq C] {store : TrustStore C} {now : Instant} {chain : List C}

theorem verify_of_time {time : ClockTime} (h : store.time = some time) :
    store.verify now chain = Chain.verify store.anchors time.instant chain := by
  unfold verify instant
  rw [h]

theorem verify_of_no_time (h : store.time = none) :
    store.verify now chain = Chain.verify store.anchors now chain := by
  unfold verify instant
  rw [h]

end Verification

end TrustStore

end PeerTrust
