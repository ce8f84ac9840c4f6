import Mathlib.Data.List.Basic

set_option autoImplicit false

namespace Miso.Base

variable {α : Type}

-- A read gets all it asks for or fails.
def readExact (count : Nat) (input : List α) : Option (List α × List α) :=
  if count ≤ input.length then some (input.take count, input.drop count) else none

theorem read_exact_iff (count : Nat) (input taken rest : List α) :
    readExact count input = some (taken, rest) ↔ input = taken ++ rest ∧ taken.length = count := by
  unfold readExact
  constructor
  · intro read
    by_cases enough : count ≤ input.length
    · rw [if_pos enough] at read
      cases read
      exact ⟨(List.take_append_drop count input).symm, List.length_take_of_le enough⟩
    · rw [if_neg enough] at read
      cases read
  · intro shape
    obtain ⟨rfl, rfl⟩ := shape
    rw [if_pos (by rw [List.length_append]; omega), List.take_left, List.drop_left]

variable {β γ : Type}

-- A read that does not depend on what follows what it reads.
def Stable (read : List α → Option (β × List α)) : Prop :=
  ∀ input out left more, read input = some (out, left) → read (input ++ more) = some (out, left ++ more)

theorem stable_exact (count : Nat) : Stable (readExact count : List α → Option (List α × List α)) := by
  intro input taken left more read
  obtain ⟨rfl, size⟩ := (read_exact_iff count input taken left).mp read
  exact (read_exact_iff count _ taken (left ++ more)).mpr ⟨List.append_assoc taken left more, size⟩

theorem stable_give (out : β) : Stable fun input : List α => some (out, input) := by
  intro input given left more same
  cases same
  rfl

theorem stable_fail : Stable fun _ : List α => (none : Option (β × List α)) := by
  intro input out left more absurdity
  cases absurdity

theorem stable_then (read : List α → Option (β × List α)) (next : β → List α → Option (γ × List α)) (stable : Stable read)
    (later : ∀ out, Stable (next out)) : Stable fun input => (read input).bind fun got => next got.1 got.2 := by
  intro input out left more ran
  obtain ⟨⟨first, rest⟩, started, ended⟩ := Option.bind_eq_some_iff.mp ran
  simp only
  rw [stable input first rest more started, Option.bind_some]
  exact later first rest out left more ended

theorem stable_map (read : List α → Option (β × List α)) (value : β → γ) (stable : Stable read) :
    Stable fun input => (read input).map fun got => (value got.1, got.2) := by
  intro input out left more ran
  obtain ⟨⟨first, rest⟩, started, same⟩ := Option.map_eq_some_iff.mp ran
  cases same
  simp only
  rw [stable input first rest more started, Option.map_some]

theorem stable_ite (test : Prop) [Decidable test] (read other : List α → Option (β × List α)) (stable : Stable read)
    (otherStable : Stable other) : Stable fun input => if test then read input else other input := by
  by_cases holds : test
  · simpa only [if_pos holds] using stable
  · simpa only [if_neg holds] using otherStable

-- What follows the first window of a stream that hits.
def firstAfter (hit : List α → Bool) (width : Nat) : List α → Option (List α)
  | [] => none
  | item :: rest =>
      if width ≤ rest.length + 1 ∧ hit ((item :: rest).take width) = true then some ((item :: rest).drop width)
      else firstAfter hit width rest

-- None of the first windows hits.
def Quiet (hit : List α → Bool) (width count : Nat) (stream : List α) : Prop :=
  ∀ offset, offset < count → offset + width ≤ stream.length → hit ((stream.drop offset).take width) = false

variable {hit : List α → Bool} {width : Nat}

theorem first_after_here (stream : List α) (enough : width ≤ stream.length) (some_ : 0 < width)
    (hits : hit (stream.take width) = true) : firstAfter hit width stream = some (stream.drop width) := by
  cases stream with
  | nil => exact absurd enough (Nat.not_le_of_lt some_)
  | cons item rest => rw [firstAfter, if_pos ⟨enough, hits⟩]

theorem first_after_skip (count : Nat) (stream : List α) (quiet : Quiet hit width count stream) :
    firstAfter hit width stream = firstAfter hit width (stream.drop count) := by
  induction count generalizing stream with
  | zero => rw [List.drop_zero]
  | succ count ih =>
      cases stream with
      | nil => rw [List.drop_nil]
      | cons item rest =>
          have here : ¬ (width ≤ rest.length + 1 ∧ hit ((item :: rest).take width) = true) := by
            intro hits
            have silent := quiet 0 (Nat.succ_pos count) (by rw [List.length_cons]; omega)
            rw [List.drop_zero, hits.2] at silent
            cases silent
          have later : Quiet hit width count rest := by
            intro offset before fits
            have silent := quiet (offset + 1) (by omega) (by rw [List.length_cons]; omega)
            rwa [List.drop_succ_cons] at silent
          rw [firstAfter, if_neg here, List.drop_succ_cons, ih rest later]

theorem first_after_iff (some_ : 0 < width) (stream after : List α) :
    firstAfter hit width stream = some after ↔
      ∃ before window, stream = before ++ window ++ after ∧ window.length = width ∧ hit window = true ∧
        Quiet hit width before.length stream := by
  constructor
  · intro found
    induction stream with
    | nil => cases found
    | cons item rest ih =>
        rw [firstAfter] at found
        by_cases here : width ≤ rest.length + 1 ∧ hit ((item :: rest).take width) = true
        · rw [if_pos here] at found
          cases found
          refine ⟨[], (item :: rest).take width, (List.take_append_drop width _).symm, ?_, here.2, ?_⟩
          · exact List.length_take_of_le here.1
          · intro offset before
            cases before
        · rw [if_neg here] at found
          obtain ⟨before, window, shape, exact_, hits, quiet⟩ := ih found
          refine ⟨item :: before, window, by rw [shape]; rfl, exact_, hits, ?_⟩
          intro offset earlier fits
          cases offset with
          | zero =>
              rw [List.drop_zero, ← Bool.not_eq_true]
              exact fun silent => here ⟨by rw [List.length_cons] at fits; omega, silent⟩
          | succ offset =>
              rw [List.drop_succ_cons]
              rw [List.length_cons] at earlier fits
              exact quiet offset (by omega) (by omega)
  · intro parts
    obtain ⟨before, window, shape, exact_, hits, quiet⟩ := parts
    rw [first_after_skip before.length stream quiet, shape, List.append_assoc, List.drop_left]
    have start : (window ++ after).take width = window := by rw [← exact_, List.take_left]
    rw [first_after_here _ (by rw [List.length_append]; omega) some_ (by rwa [start]), ← exact_, List.drop_left]

theorem first_after_length (some_ : 0 < width) (stream after : List α) (found : firstAfter hit width stream = some after) :
    after.length + width ≤ stream.length := by
  obtain ⟨before, window, shape, exact_, _⟩ := (first_after_iff some_ stream after).mp found
  rw [shape, List.length_append, List.length_append]
  omega

-- While the word in hand is one to skip, the next one is read.
def skipWords (skip : List α → Bool) (width : Nat) : Nat → List α → List α → Option (List α × List α)
  | 0, _, _ => none
  | fuel + 1, word, input =>
      if skip word = true then
        match readExact width input with
        | none => none
        | some (next, rest) => skipWords skip width fuel next rest
      else some (word, input)

theorem skipped_cases (word input last rest : List α) (skipped : List (List α)) (whole : word.length = width)
    (sizes : ∀ other ∈ skipped, other.length = width) (lastWhole : last.length = width)
    (shape : word ++ input = skipped.flatten ++ last ++ rest) :
    skipped = [] ∧ word = last ∧ input = rest ∨
      ∃ others, skipped = word :: others ∧ input = others.flatten ++ last ++ rest := by
  cases skipped with
  | nil =>
      rw [List.flatten_nil, List.nil_append] at shape
      obtain ⟨same, after⟩ := List.append_inj shape (whole.trans lastWhole.symm)
      exact .inl ⟨rfl, same, after⟩
  | cons first others =>
      rw [List.flatten_cons, List.append_assoc, List.append_assoc] at shape
      obtain ⟨same, after⟩ := List.append_inj shape (whole.trans (sizes first List.mem_cons_self).symm)
      exact .inr ⟨others, by rw [same], by rw [after, List.append_assoc]⟩

theorem skip_words_iff (skip : List α → Bool) (fuel : Nat) (word input last rest : List α) (some_ : 0 < width)
    (whole : word.length = width) (enough : input.length < fuel) :
    skipWords skip width fuel word input = some (last, rest) ↔
      ∃ skipped : List (List α), word ++ input = skipped.flatten ++ last ++ rest ∧
        (∀ other ∈ skipped, other.length = width ∧ skip other = true) ∧ last.length = width ∧ skip last = false := by
  induction fuel generalizing word input with
  | zero => exact absurd enough (Nat.not_lt_zero _)
  | succ fuel ih =>
      rw [skipWords]
      have split (skipped : List (List α)) (shape : word ++ input = skipped.flatten ++ last ++ rest)
          (skips : ∀ other ∈ skipped, other.length = width ∧ skip other = true) (lastWhole : last.length = width) :=
        skipped_cases word input last rest skipped whole (fun other member => (skips other member).1) lastWhole shape
      by_cases again : skip word = true
      · have goesOn (skipped : List (List α)) (shape : word ++ input = skipped.flatten ++ last ++ rest)
            (skips : ∀ other ∈ skipped, other.length = width ∧ skip other = true) (lastWhole : last.length = width)
            (stops : skip last = false) : ∃ others, skipped = word :: others ∧ input = others.flatten ++ last ++ rest := by
          rcases split skipped shape skips lastWhole with ⟨_, same, _⟩ | more
          · rw [← same, again] at stops
            cases stops
          · exact more
        rw [if_pos again]
        cases read : readExact width input with
        | none =>
            refine iff_of_false (fun absurdity => by cases absurdity) fun parts => ?_
            obtain ⟨skipped, shape, skips, lastWhole, stops⟩ := parts
            obtain ⟨others, _, tail⟩ := goesOn skipped shape skips lastWhole stops
            rw [readExact, if_pos (by rw [tail]; simp only [List.length_append]; omega)] at read
            cases read
        | some pair =>
            obtain ⟨next, remaining⟩ := pair
            obtain ⟨rfl, nextWhole⟩ := (read_exact_iff width input next remaining).mp read
            have fewer : remaining.length < fuel := by
              rw [List.length_append] at enough
              omega
            simp only
            rw [ih next remaining nextWhole fewer]
            constructor
            · intro parts
              obtain ⟨skipped, shape, skips, stops⟩ := parts
              refine ⟨word :: skipped, by rw [shape, List.flatten_cons, List.append_assoc, List.append_assoc, List.append_assoc],
                fun other member => ?_, stops⟩
              rcases List.mem_cons.mp member with rfl | later
              · exact ⟨whole, again⟩
              · exact skips other later
            · intro parts
              obtain ⟨skipped, shape, skips, lastWhole, stops⟩ := parts
              obtain ⟨others, rfl, tail⟩ := goesOn skipped shape skips lastWhole stops
              exact ⟨others, tail, fun other later => skips other (List.mem_cons_of_mem word later), lastWhole, stops⟩
      · rw [if_neg again]
        constructor
        · intro same
          cases same
          exact ⟨[], by rw [List.flatten_nil, List.nil_append], fun other member => absurd member List.not_mem_nil, whole,
            by simpa using again⟩
        · intro parts
          obtain ⟨skipped, shape, skips, lastWhole, _⟩ := parts
          rcases split skipped shape skips lastWhole with ⟨_, rfl, rfl⟩ | ⟨others, rfl, _⟩
          · rfl
          · exact absurd (skips word List.mem_cons_self).2 again

end Miso.Base
