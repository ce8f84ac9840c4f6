import Mathlib.Data.Nat.Basic

set_option autoImplicit false

namespace Miso.Base

section Latest

variable (holds : Nat → Prop)

-- The last index below a bound at which something holds.
def Latest (bound index : Nat) : Prop :=
  index < bound ∧ holds index ∧ ∀ later < bound, index < later → ¬ holds later

instance [DecidablePred holds] (bound index : Nat) : Decidable (Latest holds bound index) :=
  inferInstanceAs (Decidable (_ ∧ _ ∧ _))

theorem latest_unique (bound first second : Nat) (left : Latest holds bound first) (right : Latest holds bound second) :
    first = second := by
  obtain ⟨below, here, none⟩ := left
  obtain ⟨otherBelow, otherHere, otherNone⟩ := right
  rcases Nat.lt_trichotomy first second with less | same | more
  · exact absurd otherHere (none second otherBelow less)
  · exact same
  · exact absurd here (otherNone first below more)

-- A variable that a loop sets to its index whenever something holds there, and
-- that starts out with no index.
def Tracks (unset : Int) (bound : Nat) (value : Int) : Prop :=
  (value = unset ∧ ∀ index < bound, ¬ holds index) ∨ ∃ index : Nat, value = index ∧ Latest holds bound index

theorem tracks_start (unset : Int) : Tracks holds unset 0 unset := .inl ⟨rfl, fun _ below => absurd below (Nat.not_lt_zero _)⟩

theorem tracks_set (unset : Int) (bound : Nat) (here : holds bound) : Tracks holds unset (bound + 1) bound :=
  .inr ⟨bound, rfl, Nat.lt_succ_self bound, here, fun later below after => absurd below (by omega)⟩

theorem tracks_keep (unset : Int) (bound : Nat) (value : Int) (tracks : Tracks holds unset bound value) (passes : ¬ holds bound) :
    Tracks holds unset (bound + 1) value := by
  rcases tracks with ⟨same, none⟩ | ⟨index, same, below, here, none⟩
  · refine .inl ⟨same, fun index below => ?_⟩
    rcases Nat.lt_succ_iff_lt_or_eq.mp below with earlier | rfl
    · exact none index earlier
    · exact passes
  · refine .inr ⟨index, same, Nat.lt_succ_of_lt below, here, fun later within after => ?_⟩
    rcases Nat.lt_succ_iff_lt_or_eq.mp within with earlier | rfl
    · exact none later earlier after
    · exact passes

theorem tracks_iff (unset : Int) (bound : Nat) (value : Int) (tracks : Tracks holds unset bound value)
    (offset target : Int) (above : unset + offset < target) :
    value + offset = target ↔ ∃ index : Nat, Latest holds bound index ∧ target = index + offset := by
  constructor
  · rintro rfl
    rcases tracks with ⟨same, _⟩ | ⟨index, same, latest⟩
    · omega
    · exact ⟨index, latest, by omega⟩
  · rintro ⟨index, latest, rfl⟩
    rcases tracks with ⟨_, none⟩ | ⟨other, same, otherLatest⟩
    · exact absurd latest.2.1 (none index latest.1)
    · have same_index := latest_unique holds bound index other latest otherLatest
      omega

end Latest

end Miso.Base
