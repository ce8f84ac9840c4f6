set_option autoImplicit false

namespace Miso.Base

variable {σ ε α β : Type}

-- A state that keeps a log of events. What surrounds it decides which events
-- fit next; what is logged in two parts is logged as one.
structure Emission (σ ε : Type) where
  extend : σ → List ε → σ
  fits : σ → List ε → Prop
  extend_nil : ∀ state, extend state [] = state
  extend_append : ∀ state first second, extend state (first ++ second) = extend (extend state first) second
  fits_nil : ∀ state, fits state []
  fits_append : ∀ state first second, fits state (first ++ second) ↔ fits state first ∧ fits (extend state first) second

-- A program logs a word of the language of its result, and whichever word
-- that fits is in the language of a result, the program logs it and returns
-- that result.
structure Emits (emission : Emission σ ε) (program : StateM σ α) (start : σ) (language : α → List ε → Prop) : Prop where
  sound : ∃ events, emission.fits start events ∧ language (program.run start).1 events ∧
    (program.run start).2 = emission.extend start events
  complete : ∀ result events, emission.fits start events → language result events →
    program.run start = (result, emission.extend start events)

def Then (first : α → List ε → Prop) (second : α → β → List ε → Prop) (result : β) (events : List ε) : Prop :=
  ∃ value before after, events = before ++ after ∧ first value before ∧ second value result after

section

variable {emission : Emission σ ε}

theorem emits_run_iff (program : StateM σ α) (start : σ) (language : α → List ε → Prop)
    (emits : Emits emission program start language) (result : α) (after : σ) :
    program.run start = (result, after) ↔
      ∃ events, emission.fits start events ∧ language result events ∧ after = emission.extend start events := by
  constructor
  · intro ran
    obtain ⟨events, fits, word, state⟩ := emits.sound
    rw [ran] at word state
    exact ⟨events, fits, word, state⟩
  · rintro ⟨events, fits, word, rfl⟩
    exact emits.complete result events fits word

theorem emits_pure (value : α) (start : σ) :
    Emits emission (pure value) start fun result events => result = value ∧ events = [] where
  sound := ⟨[], emission.fits_nil start, ⟨rfl, rfl⟩, (emission.extend_nil start).symm⟩
  complete := by
    rintro result events _ ⟨rfl, rfl⟩
    rw [emission.extend_nil]
    rfl

theorem emits_bind (program : StateM σ α) (rest : α → StateM σ β) (start : σ) (first : α → List ε → Prop)
    (second : α → β → List ε → Prop) (left : Emits emission program start first)
    (right : ∀ value events, first value events → Emits emission (rest value) (emission.extend start events) (second value)) :
    Emits emission (program >>= rest) start (Then first second) where
  sound := by
    obtain ⟨before, fitsBefore, leftWord, leftState⟩ := left.sound
    have later := right _ before leftWord
    rw [← leftState] at later
    obtain ⟨after, fitsAfter, rightWord, rightState⟩ := later.sound
    refine ⟨before ++ after, ?_, ⟨_, before, after, rfl, leftWord, rightWord⟩, ?_⟩
    · rw [leftState] at fitsAfter
      exact (emission.fits_append start before after).mpr ⟨fitsBefore, fitsAfter⟩
    · rw [emission.extend_append, ← leftState]
      exact rightState
  complete := by
    rintro result events fits ⟨value, before, after, rfl, leftWord, rightWord⟩
    obtain ⟨fitsBefore, fitsAfter⟩ := (emission.fits_append start before after).mp fits
    have ran := left.complete value before fitsBefore leftWord
    have later := (right value before leftWord).complete result after fitsAfter rightWord
    rw [emission.extend_append, ← later]
    exact congrArg (fun pair => (rest pair.1).run pair.2) ran

theorem emits_iff (program : StateM σ α) (start : σ) (language other : α → List ε → Prop)
    (same : ∀ result events, language result events ↔ other result events) (emits : Emits emission program start language) :
    Emits emission program start other where
  sound := by
    obtain ⟨events, fits, word, state⟩ := emits.sound
    exact ⟨events, fits, (same _ events).mp word, state⟩
  complete := fun result events fits word => emits.complete result events fits ((same result events).mpr word)

theorem emits_map (program : StateM σ α) (view : α → β) (start : σ) (language : α → List ε → Prop)
    (emits : Emits emission program start language) :
    Emits emission (program >>= fun value => pure (view value)) start
      fun result events => ∃ value, language value events ∧ result = view value := by
  apply emits_iff _ _ _ _ _ (emits_bind _ _ start _ _ emits fun value events _ => emits_pure (view value) _)
  intro result events
  constructor
  · rintro ⟨value, before, after, rfl, word, rfl, rfl⟩
    rw [List.append_nil]
    exact ⟨value, word, rfl⟩
  · rintro ⟨value, word, rfl⟩
    exact ⟨value, events, [], (List.append_nil events).symm, word, rfl, rfl⟩

theorem emits_ite (condition : Prop) [Decidable condition] (yes no : StateM σ α) (start : σ)
    (language other : α → List ε → Prop) (left : condition → Emits emission yes start language)
    (right : ¬ condition → Emits emission no start other) :
    Emits emission (if condition then yes else no) start
      fun result events => condition ∧ language result events ∨ ¬ condition ∧ other result events := by
  by_cases holds : condition
  · rw [if_pos holds]
    exact emits_iff yes start language _ (by simp [holds]) (left holds)
  · rw [if_neg holds]
    exact emits_iff no start other _ (by simp [holds]) (right holds)

theorem emits_get (rest : σ → StateM σ α) (start : σ) (language : α → List ε → Prop)
    (emits : Emits emission (rest start) start language) : Emits emission (get >>= rest) start language :=
  ⟨emits.sound, emits.complete⟩

end

end Miso.Base
