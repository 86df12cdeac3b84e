/-!
Collecting what elements yield.

Several parts of the library go through a list and keep something of each element or nothing: the
names in a certificate, the paths in a setting.  `Collected` says what they gather without saying
how: the list is gone through in its order, and the result has exactly what the elements yield.
-/

namespace PeerTrust

variable {α β : Type} {yields : α → β → Prop} {as : List α} {bs : List β}

/-- The second list holds, in order, what the elements of the first one yield; an element that
yields nothing is passed over. -/
inductive Collected (yields : α → β → Prop) : List α → List β → Prop where
  | nil : Collected yields [] []
  | keep {a : α} {b : β} {as : List α} {bs : List β} (hyields : yields a b)
      (hrest : Collected yields as bs) : Collected yields (a :: as) (b :: bs)
  | drop {a : α} {as : List α} {bs : List β} (hnothing : ∀ b, ¬ yields a b)
      (hrest : Collected yields as bs) : Collected yields (a :: as) bs

/-- When each element yields at most one thing, and `f` finds it, there is one list that is
collected. -/
theorem collected_iff_filterMap_eq {f : α → Option β} (hf : ∀ a b, f a = some b ↔ yields a b) :
    Collected yields as bs ↔ as.filterMap f = bs := by
  constructor
  · intro h
    induction h with
    | nil => rfl
    | keep hyields _ ih =>
      rw [List.filterMap_cons_some ((hf _ _).2 hyields), ih]
    | @drop a as bs hnothing _ ih =>
      have hnone : f a = none := by
        cases ha : f a with
        | none => rfl
        | some b => exact absurd ((hf a b).1 ha) (hnothing b)
      rw [List.filterMap_cons_none hnone, ih]
  · rintro rfl
    induction as with
    | nil => exact .nil
    | cons a as ih =>
      cases ha : f a with
      | none =>
        rw [List.filterMap_cons_none ha]
        refine .drop (fun b hb => ?_) ih
        rw [(hf a b).2 hb] at ha
        cases ha
      | some b =>
        rw [List.filterMap_cons_some ha]
        exact .keep ((hf a b).1 ha) ih

end PeerTrust
