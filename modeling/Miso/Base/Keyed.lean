import Mathlib.Data.List.Nodup
import Mathlib.Logic.Function.Basic

set_option autoImplicit false

namespace Miso.Base

variable {α κ : Type}

theorem split_at (items : List α) (index : Nat) (item : α) (here : items[index]? = some item) :
    ∃ before after, items = before ++ item :: after ∧ before.length = index := by
  obtain ⟨bound, read⟩ := List.getElem?_eq_some_iff.mp here
  refine ⟨items.take index, items.drop (index + 1), ?_, List.length_take_of_le (Nat.le_of_lt bound)⟩
  rw [← read, List.getElem_cons_drop, List.take_append_drop]

theorem map_set_same (key : α → κ) (items : List α) (index : Nat) (item new : α) (here : items[index]? = some item)
    (same : key new = key item) : (items.set index new).map key = items.map key := by
  obtain ⟨before, after, rfl, rfl⟩ := split_at items index item here
  rw [List.set_append_right _ _ (Nat.le_refl _), Nat.sub_self, List.set_cons_zero]
  simp only [List.map_append, List.map_cons, same]

variable [DecidableEq κ]

-- A list of items as the partial map from their keys.
def lookup (key : α → κ) (items : List α) (id : κ) : Option α := items.find? fun item => key item = id

def Keyed (key : α → κ) (items : List α) : Prop := (items.map key).Nodup

variable {key : α → κ}

theorem lookup_none_iff (items : List α) (id : κ) : lookup key items id = none ↔ ∀ item ∈ items, key item ≠ id := by
  simp [lookup, List.find?_eq_none]

theorem lookup_some_iff (items : List α) (id : κ) (item : α) (keyed : Keyed key items) :
    lookup key items id = some item ↔ item ∈ items ∧ key item = id := by
  constructor
  · intro found
    exact ⟨List.mem_of_find?_eq_some found, by simpa using List.find?_some found⟩
  · intro here
    cases found : lookup key items id with
    | none => exact absurd here.2 ((lookup_none_iff items id).mp found item here.1)
    | some other =>
        have same : key other = id := by simpa using List.find?_some found
        have member : other ∈ items := List.mem_of_find?_eq_some found
        rw [List.inj_on_of_nodup_map keyed member here.1 (same.trans here.2.symm)]

theorem lookup_ext (items : List α) (keyed : Keyed key items) (map : κ → Option α)
    (agree : ∀ id item, map id = some item ↔ item ∈ items ∧ key item = id) : lookup key items = map := by
  funext id
  refine Option.ext fun item => ?_
  rw [lookup_some_iff items id item keyed, agree]

theorem lookup_perm (items others : List α) (keyed : Keyed key items) (same : others.Perm items) :
    Keyed key others ∧ lookup key others = lookup key items := by
  have kept : Keyed key others := (same.map key).nodup_iff.mpr keyed
  refine ⟨kept, lookup_ext others kept _ fun id item => ?_⟩
  rw [lookup_some_iff items id item keyed, same.mem_iff]

theorem lookup_cons (items : List α) (item : α) (keyed : Keyed key items) (absent : lookup key items (key item) = none) :
    Keyed key (item :: items) ∧ lookup key (item :: items) = Function.update (lookup key items) (key item) (some item) := by
  have apart := (lookup_none_iff items (key item)).mp absent
  have whole : Keyed key (item :: items) := by
    refine List.nodup_cons.mpr ⟨fun member => ?_, keyed⟩
    obtain ⟨other, inside, same⟩ := List.mem_map.mp member
    exact apart other inside same
  refine ⟨whole, lookup_ext _ whole _ fun id other => ?_⟩
  by_cases here : id = key item
  · rw [here, Function.update_self, List.mem_cons]
    constructor
    · intro same
      cases same
      exact ⟨.inl rfl, rfl⟩
    · intro found
      rcases found.1 with rfl | inside
      · rfl
      · exact absurd found.2 (apart other inside)
  · rw [Function.update_of_ne here, lookup_some_iff items id other keyed, List.mem_cons]
    constructor
    · intro found
      exact ⟨.inr found.1, found.2⟩
    · intro found
      rcases found.1 with rfl | inside
      · exact absurd found.2.symm here
      · exact ⟨inside, found.2⟩

theorem lookup_erase (items : List α) (index : Nat) (item : α) (keyed : Keyed key items) (here : items[index]? = some item) :
    Keyed key (items.eraseIdx index) ∧ lookup key (items.eraseIdx index) = Function.update (lookup key items) (key item) none := by
  obtain ⟨before, after, rfl, rfl⟩ := split_at items index item here
  have erased : (before ++ item :: after).eraseIdx before.length = before ++ after := by
    rw [List.eraseIdx_append_of_length_le (Nat.le_refl _), Nat.sub_self, List.eraseIdx_cons_zero]
  have order : (before ++ item :: after).Perm (item :: (before ++ after)) := List.perm_middle
  obtain ⟨whole, _⟩ := lookup_perm _ _ keyed order.symm
  have rest : Keyed key (before ++ after) := (List.nodup_cons.mp whole).2
  have apart : ∀ other ∈ before ++ after, key other ≠ key item := by
    intro other member same
    exact (List.nodup_cons.mp whole).1 (same ▸ List.mem_map_of_mem member)
  rw [erased]
  refine ⟨rest, lookup_ext _ rest _ fun id other => ?_⟩
  by_cases same : id = key item
  · rw [same, Function.update_self]
    constructor
    · intro absurdity
      cases absurdity
    · intro found
      exact absurd found.2 (apart other found.1)
  · rw [Function.update_of_ne same, lookup_some_iff _ id other keyed, order.mem_iff, List.mem_cons]
    constructor
    · intro found
      rcases found.1 with rfl | inside
      · exact absurd found.2.symm same
      · exact ⟨inside, found.2⟩
    · intro found
      exact ⟨.inr found.1, found.2⟩

theorem lookup_set (items : List α) (index : Nat) (item new : α) (keyed : Keyed key items) (here : items[index]? = some item)
    (same : key new = key item) :
    Keyed key (items.set index new) ∧ lookup key (items.set index new) = Function.update (lookup key items) (key item) (some new) := by
  obtain ⟨erasedKeyed, erased⟩ := lookup_erase items index item keyed here
  obtain ⟨before, after, rfl, rfl⟩ := split_at items index item here
  have removed : (before ++ item :: after).eraseIdx before.length = before ++ after := by
    rw [List.eraseIdx_append_of_length_le (Nat.le_refl _), Nat.sub_self, List.eraseIdx_cons_zero]
  have replaced : (before ++ item :: after).set before.length new = before ++ new :: after := by
    rw [List.set_append_right _ _ (Nat.le_refl _), Nat.sub_self, List.set_cons_zero]
  rw [removed] at erasedKeyed erased
  have absent : lookup key (before ++ after) (key new) = none := by rw [erased, same, Function.update_self]
  obtain ⟨addedKeyed, added⟩ := lookup_cons (before ++ after) new erasedKeyed absent
  obtain ⟨wholeKeyed, whole⟩ := lookup_perm _ (before ++ new :: after) addedKeyed List.perm_middle
  rw [replaced]
  refine ⟨wholeKeyed, ?_⟩
  rw [whole, added, erased, same, Function.update_idem]

end Miso.Base
