set_option autoImplicit false

namespace Miso.Base

section Settle

variable {ρ α γ τ : Type} (meaning : α → Except ρ γ) (apply : τ → γ → τ)

-- Items that mean something or are refused, in their order up to the first
-- refusal.
def settle (state : τ) : List α → Option ρ × τ
  | [] => (none, state)
  | item :: rest => match meaning item with
      | .ok value => settle (apply state value) rest
      | .error refusal => (some refusal, state)

theorem settle_accepts (state : τ) (items : List α) :
    (settle meaning apply state items).1 = none ↔ ∀ item ∈ items, ∃ value, meaning item = .ok value := by
  induction items generalizing state with
  | nil => exact iff_of_true rfl nofun
  | cons item rest ih =>
      rw [settle, List.forall_mem_cons]
      cases meaning item with
      | ok value => simp [ih (apply state value)]
      | error refusal => simp

theorem settle_splits (state : τ) (items : List α) :
    ∃ (values : List γ) (rest : List (Except ρ γ)), items.map meaning = values.map .ok ++ rest ∧
      (settle meaning apply state items).2 = values.foldl apply state ∧
      (rest = [] ∧ (settle meaning apply state items).1 = none ∨
        ∃ refusal later, rest = .error refusal :: later ∧ (settle meaning apply state items).1 = some refusal) := by
  induction items generalizing state with
  | nil => exact ⟨[], [], rfl, rfl, .inl ⟨rfl, rfl⟩⟩
  | cons item rest ih =>
      rw [settle, List.map_cons]
      cases meaning item with
      | ok value =>
          obtain ⟨values, later, shape, ends, stops⟩ := ih (apply state value)
          exact ⟨value :: values, later, by rw [shape]; rfl, ends, stops⟩
      | error refusal => exact ⟨[], _, rfl, rfl, .inr ⟨refusal, _, rfl, rfl⟩⟩

theorem settle_refusal (state : τ) (items : List α) (refusal : ρ) (refused : (settle meaning apply state items).1 = some refusal) :
    ∃ item ∈ items, meaning item = .error refusal := by
  obtain ⟨values, rest, shape, _, ⟨_, all⟩ | ⟨other, later, same, stops⟩⟩ := settle_splits meaning apply state items
  · rw [all] at refused
    cases refused
  · obtain rfl : other = refusal := Option.some.inj (stops.symm.trans refused)
    refine List.mem_map.mp ?_
    rw [shape, same]
    simp

end Settle

variable {ρ α β σ : Type} [DecidableEq ρ]

-- for each item { ret = visit(item); if (again != ret) break; }
def scan (visit : α → ρ × α) (again : ρ) : ρ → List α → ρ × List α
  | ret, [] => (ret, [])
  | _, item :: rest =>
      if (visit item).1 = again then
        ((scan visit again again rest).1, (visit item).2 :: (scan visit again again rest).2)
      else ((visit item).1, (visit item).2 :: rest)

theorem scan_status (visit : α → ρ × α) (again : ρ) (items : List α) :
    (scan visit again again items).1 = ((items.map fun item => (visit item).1).find? (· ≠ again)).getD again := by
  induction items with
  | nil => rfl
  | cons item rest ih =>
      rw [scan, List.map_cons, List.find?_cons]
      by_cases goes : (visit item).1 = again
      · rw [if_pos goes, ih]
        simp [goes]
      · rw [if_neg goes]
        simp [goes]

theorem scan_cons_status (visit : α → ρ × α) (again ret : ρ) (item : α) (rest : List α) :
    (scan visit again ret (item :: rest)).1 = (scan visit again again (item :: rest)).1 := by
  rw [scan, scan]

theorem scan_again (visit : α → ρ × α) (again ret : ρ) (items : List α) (enters : items ≠ []) :
    (scan visit again ret items).1 = again ↔ ∀ item ∈ items, (visit item).1 = again := by
  cases items with
  | nil => exact absurd rfl enters
  | cons item rest =>
      rw [scan_cons_status, scan_status]
      constructor
      · intro passed other member
        cases found : ((item :: rest).map fun item => (visit item).1).find? (· ≠ again) with
        | none => simpa using List.find?_eq_none.mp found _ (List.mem_map_of_mem member)
        | some refusal =>
            rw [found] at passed
            have refused := List.find?_some found
            simp [show refusal = again from passed] at refused
      · intro all
        rw [List.find?_eq_none.mpr]
        · rfl
        · intro status member
          obtain ⟨other, found, rfl⟩ := List.mem_map.mp member
          simp [all other found]

-- What a visit leaves as it is, the scan leaves as it is.
theorem scan_view (visit : α → ρ × α) (view : α → β) (kept : ∀ item, view (visit item).2 = view item) (again ret : ρ)
    (items : List α) : (scan visit again ret items).2.map view = items.map view := by
  induction items generalizing ret with
  | nil => rfl
  | cons item rest ih =>
      rw [scan]
      split
      · rw [List.map_cons, List.map_cons, ih, kept]
      · rw [List.map_cons, List.map_cons, kept]

def scanUpTo (visit : α → ρ × α) (again ret : ρ) (count : Nat) (items : List α) : ρ × List α :=
  ((scan visit again ret (items.take count)).1, (scan visit again ret (items.take count)).2 ++ items.drop count)

theorem scan_up_to_length (visit : α → ρ × α) (again ret : ρ) (count : Nat) (items : List α) (whole : items.length ≤ count) :
    scanUpTo visit again ret count items = scan visit again ret items := by
  rw [scanUpTo, List.take_of_length_le whole, List.drop_eq_nil_of_le whole, List.append_nil]

-- The same loop where a visit changes a state instead of its item.
def scanWith (visit : σ → α → ρ × σ) (again : ρ) : ρ → σ → List α → ρ × σ
  | ret, state, [] => (ret, state)
  | _, state, item :: rest =>
      if (visit state item).1 = again then scanWith visit again again (visit state item).2 rest else visit state item

-- A property of the state that every visit keeps holds where the scan ends.
theorem scan_with_keeps (visit : σ → α → ρ × σ) (holds : σ → Prop) (kept : ∀ state item, holds state → holds (visit state item).2)
    (again ret : ρ) (state : σ) (items : List α) (start : holds state) : holds (scanWith visit again ret state items).2 := by
  induction items generalizing ret state with
  | nil => exact start
  | cons item rest ih =>
      rw [scanWith]
      split
      · exact ih again _ (kept state item start)
      · exact kept state item start

section Visits

variable {γ τ : Type} (meaning : α → Except ρ γ) (apply : τ → γ → τ)

-- A visit does what its item means to the state that is seen.
def Carries (again : ρ) (view : σ → τ) (state : σ) (answer : ρ × σ) : Except ρ γ → Prop
  | .ok value => answer.1 = again ∧ view answer.2 = apply (view state) value
  | .error refusal => answer = (refusal, state) ∧ refusal ≠ again

theorem scan_with_settles (visit : σ → α → ρ × σ) (again : ρ) (view : σ → τ)
    (carries : ∀ state item, Carries apply again view state (visit state item) (meaning item)) (state : σ) (items : List α) :
    (scanWith visit again again state items).1 = (settle meaning apply (view state) items).1.getD again ∧
      view (scanWith visit again again state items).2 = (settle meaning apply (view state) items).2 := by
  induction items generalizing state with
  | nil => exact ⟨rfl, rfl⟩
  | cons item rest ih =>
      have carried := carries state item
      rw [scanWith, settle]
      cases meant : meaning item with
      | ok value =>
          rw [meant] at carried
          obtain ⟨goes, seen⟩ := carried
          have later := ih (visit state item).2
          rw [seen] at later
          rw [if_pos goes]
          exact later
      | error refusal =>
          rw [meant] at carried
          obtain ⟨same, refused⟩ := carried
          rw [same, if_neg refused]
          exact ⟨rfl, rfl⟩

end Visits

end Miso.Base
