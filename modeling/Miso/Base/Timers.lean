set_option autoImplicit false

namespace Miso.Base

universe u

section Ordered

variable {η : Type u}

def EarlierFirst (entries : List (Nat × η)) : Prop := entries.Pairwise fun first second => first.1 ≤ second.1

-- An entry goes behind the entries that expire at the same tick.
def insertTimer (entry : Nat × η) : List (Nat × η) → List (Nat × η)
  | [] => [entry]
  | head :: rest => if head.1 ≤ entry.1 then head :: insertTimer entry rest else entry :: head :: rest

theorem insert_timer_behind (entry head : Nat × η) (rest : List (Nat × η)) (before : head.1 ≤ entry.1) :
    insertTimer entry (head :: rest) = head :: insertTimer entry rest := if_pos before

theorem insert_timer_front (entry : Nat × η) (entries : List (Nat × η))
    (beyond : ∀ other, other ∈ entries → entry.1 < other.1) : insertTimer entry entries = entry :: entries := by
  cases entries with
  | nil => rfl
  | cons head rest => exact if_neg (Nat.not_le_of_lt (beyond head List.mem_cons_self))

theorem insert_timer_cases (entry head : Nat × η) (rest : List (Nat × η)) (ordered : EarlierFirst (head :: rest)) :
    head.1 ≤ entry.1 ∨ ∀ other, other ∈ head :: rest → entry.1 < other.1 := by
  by_cases before : head.1 ≤ entry.1
  · exact .inl before
  · refine .inr fun other member => ?_
    rcases List.mem_cons.mp member with rfl | old
    · omega
    · have bound := (List.pairwise_cons.mp ordered).1 other old
      omega

theorem mem_insert_timer (entry other : Nat × η) (entries : List (Nat × η)) (ordered : EarlierFirst entries) :
    other ∈ insertTimer entry entries ↔ other = entry ∨ other ∈ entries := by
  induction entries with
  | nil => simp [insertTimer]
  | cons head rest ih =>
      rcases insert_timer_cases entry head rest ordered with before | beyond
      · rw [insert_timer_behind entry head rest before, List.mem_cons, List.mem_cons, ih (List.pairwise_cons.mp ordered).2]
        exact or_left_comm
      · rw [insert_timer_front entry _ beyond, List.mem_cons]

theorem insert_timer_ordered (entry : Nat × η) (entries : List (Nat × η)) (ordered : EarlierFirst entries) :
    EarlierFirst (insertTimer entry entries) := by
  induction entries with
  | nil => exact List.pairwise_singleton _ _
  | cons head rest ih =>
      obtain ⟨first, later⟩ := List.pairwise_cons.mp ordered
      rcases insert_timer_cases entry head rest ordered with before | beyond
      · rw [insert_timer_behind entry head rest before]
        refine List.pairwise_cons.mpr ⟨fun other member => ?_, ih later⟩
        rcases (mem_insert_timer entry other rest later).mp member with rfl | old
        · exact before
        · exact first other old
      · rw [insert_timer_front entry _ beyond]
        exact List.pairwise_cons.mpr ⟨fun other member => Nat.le_of_lt (beyond other member), ordered⟩

-- Entries a reader does not look at leave the order of the others alone.
theorem insert_timer_filter (mine : η → Bool) (entry : Nat × η) (entries : List (Nat × η)) (ordered : EarlierFirst entries) :
    (insertTimer entry entries).filter (fun other => mine other.2) =
      if mine entry.2 then insertTimer entry (entries.filter fun other => mine other.2)
      else entries.filter fun other => mine other.2 := by
  induction entries with
  | nil => cases here : mine entry.2 <;> simp [insertTimer, here]
  | cons head rest ih =>
      rcases insert_timer_cases entry head rest ordered with before | beyond
      · rw [insert_timer_behind entry head rest before, List.filter_cons, List.filter_cons,
          ih (List.pairwise_cons.mp ordered).2]
        cases mine head.2 <;> cases mine entry.2 <;> simp [insert_timer_behind, before]
      · have kept : ∀ other, other ∈ (head :: rest).filter (fun other => mine other.2) → entry.1 < other.1 :=
          fun other member => beyond other (List.mem_filter.mp member).1
        rw [insert_timer_front entry _ beyond, insert_timer_front entry _ kept, List.filter_cons]

theorem take_while_ordered (limit : Nat) (entries : List (Nat × η)) (ordered : EarlierFirst entries) :
    (entries.takeWhile fun entry => entry.1 ≤ limit) = entries.filter fun entry => entry.1 ≤ limit := by
  induction entries with
  | nil => rfl
  | cons head rest ih =>
      obtain ⟨first, later⟩ := List.pairwise_cons.mp ordered
      by_cases due : head.1 ≤ limit
      · simp [due, ih later]
      · have none : (rest.filter fun entry => entry.1 ≤ limit) = [] := by
          refine List.filter_eq_nil_iff.mpr fun other member => ?_
          have bound := first other member
          simp only [decide_eq_true_eq]
          omega
        simp [due, none]

theorem drop_while_ordered (limit : Nat) (entries : List (Nat × η)) (ordered : EarlierFirst entries) :
    (entries.dropWhile fun entry => entry.1 ≤ limit) = entries.filter fun entry => ¬ entry.1 ≤ limit := by
  induction entries with
  | nil => rfl
  | cons head rest ih =>
      obtain ⟨first, later⟩ := List.pairwise_cons.mp ordered
      by_cases due : head.1 ≤ limit
      · simpa [due] using ih later
      · have all : (rest.filter fun entry => ¬ entry.1 ≤ limit) = rest := by
          refine List.filter_eq_self.mpr fun other member => ?_
          have bound := first other member
          simp only [decide_eq_true_eq]
          omega
        rw [List.dropWhile_cons, List.filter_cons, all]
        simp [due]

end Ordered

-- One-shot software timers: the active ones in the order of their expiry.
structure Timers (η : Type u) where
  now : Nat
  active : List (Nat × η)
  ordered : EarlierFirst active

namespace Timers

variable {η : Type u}

-- The daemon takes the head of the list as long as its expiry is reached.
def due (timers : Timers η) (now : Nat) : List η :=
  (timers.active.takeWhile fun entry => entry.1 ≤ now).map Prod.snd

def tick (timers : Timers η) : Timers η where
  now := timers.now + 1
  active := timers.active.dropWhile fun entry => entry.1 ≤ timers.now + 1
  ordered := List.Pairwise.sublist (List.dropWhile_sublist _) timers.ordered

-- The entries of some of the timers, for instance of one owner.
def entries (timers : Timers η) (mine : η → Bool) : List (Nat × η) :=
  timers.active.filter fun entry => mine entry.2

theorem tick_entries (timers : Timers η) (mine : η → Bool) :
    timers.tick.entries mine = (timers.entries mine).filter fun entry => ¬ entry.1 ≤ timers.now + 1 := by
  simp only [tick, entries, drop_while_ordered _ _ timers.ordered, List.filter_filter]
  exact List.filter_congr fun entry _ => Bool.and_comm _ _

theorem due_entries (timers : Timers η) (mine : η → Bool) (now : Nat) :
    (timers.due now).filter mine = ((timers.entries mine).filter fun entry => entry.1 ≤ now).map Prod.snd := by
  simp only [due, entries, take_while_ordered _ _ timers.ordered, List.filter_map, List.filter_filter]
  exact congrArg (List.map Prod.snd) (List.filter_congr fun entry _ => Bool.and_comm _ _)

variable [DecidableEq η]

def isActive (timers : Timers η) (timer : η) : Bool := timers.active.any fun entry => entry.2 = timer

def stop (timers : Timers η) (timer : η) : Timers η where
  now := timers.now
  active := timers.active.filter fun entry => entry.2 ≠ timer
  ordered := List.Pairwise.filter _ timers.ordered

-- Starts the timer; a period of zero trips the assertion of the kernel.
def changePeriod (timers : Timers η) (timer : η) (period : Nat) : Option (Timers η) :=
  if period = 0 then none
  else some {
    now := timers.now
    active := insertTimer (timers.now + period, timer) (timers.stop timer).active
    ordered := insert_timer_ordered _ _ (timers.stop timer).ordered }

theorem stop_entries (timers : Timers η) (mine : η → Bool) (timer : η) :
    (timers.stop timer).entries mine = (timers.entries mine).filter fun entry => entry.2 ≠ timer := by
  simp only [stop, entries, List.filter_filter]
  exact List.filter_congr fun entry _ => Bool.and_comm _ _

theorem inactive_entries (timers : Timers η) (mine : η → Bool) (timer : η) (inactive : timers.isActive timer = false) :
    ((timers.entries mine).filter fun entry => entry.2 ≠ timer) = timers.entries mine := by
  refine List.filter_eq_self.mpr fun entry member => ?_
  have different := List.any_eq_false.mp inactive entry (List.mem_filter.mp member).1
  simpa using different

theorem foreign_entries (timers : Timers η) (mine : η → Bool) (timer : η) (foreign : mine timer = false) :
    ((timers.entries mine).filter fun entry => entry.2 ≠ timer) = timers.entries mine := by
  refine List.filter_eq_self.mpr fun entry member => ?_
  have owned : mine entry.2 = true := (List.mem_filter.mp member).2
  have different : entry.2 ≠ timer := fun same => by simp [same, foreign] at owned
  simpa using different

theorem change_period_some (timers after : Timers η) (timer : η) (period : Nat)
    (changed : timers.changePeriod timer period = some after) : period ≠ 0 ∧ after.now = timers.now := by
  unfold changePeriod at changed
  split at changed
  · cases changed
  · rename_i nonzero
    cases changed
    exact ⟨nonzero, rfl⟩

theorem change_period_entries (timers after : Timers η) (mine : η → Bool) (timer : η) (period : Nat)
    (changed : timers.changePeriod timer period = some after) :
    after.entries mine = if mine timer
      then insertTimer (timers.now + period, timer) ((timers.entries mine).filter fun entry => entry.2 ≠ timer)
      else (timers.entries mine).filter fun entry => entry.2 ≠ timer := by
  unfold changePeriod at changed
  split at changed
  · cases changed
  · cases changed
    rw [← stop_entries]
    exact insert_timer_filter mine (timers.now + period, timer) (timers.stop timer).active (timers.stop timer).ordered

end Timers

end Miso.Base
