import Miso.ConfigReads

set_option autoImplicit false

namespace Miso.Config

def LoadEnv.grants (env : LoadEnv) : Block → Bool
  | .readBuffer => env.readBlock
  | .jsonTokens => env.tokenBlock

-- A step before the token loop has failed.
def LoadEnv.fails (env : LoadEnv) : Bool :=
  env.fOpen ≠ .ok || (env.asks && !env.readBlock) || (env.reads && env.fRead ≠ .ok) ||
    (env.parses && env.jsmnCount env.text < 0) || (env.wants && !env.tokenBlock) ||
    (env.jsonTokens && (env.jsmnTokens env.text).isOk = false)

structure ExitsClean (env : LoadEnv) (store : Store) : Prop where
  closed : env.calls.count .fClose = if env.fOpen = .ok then 1 else 0
  freed : ∀ block, env.calls.count (.vPortFree block) = if env.grants block then env.calls.count (.pvPortMalloc block) else 0
  tokens : env.jsonTokens = false → env.tokenReads = []
  unchanged : env.fails = true → misoLoadConfig env store = some (store, env.calls)

theorem count_if (asked : Bool) (made call : LoadCall) :
    (if asked then [made] else []).count call = if asked = true ∧ made = call then 1 else 0 := by
  cases asked <;> simp [List.count_singleton]

theorem close_once (env : LoadEnv) : env.calls.count .fClose = 1 := by
  simp [LoadEnv.calls, List.count_append, count_if]

theorem blocks_freed (env : LoadEnv) (block : Block) :
    env.calls.count (.vPortFree block) = if env.grants block then env.calls.count (.pvPortMalloc block) else 0 := by
  cases block with
  | readBuffer =>
      have counted : env.calls.count (.vPortFree .readBuffer) = if env.readBuffer then 1 else 0 := by
        simp [LoadEnv.calls, List.count_append, count_if]
      have asked : env.calls.count (.pvPortMalloc .readBuffer) = if env.asks then 1 else 0 := by
        simp [LoadEnv.calls, List.count_append, count_if]
      rw [counted, asked]
      cases granted : env.readBlock <;> simp [LoadEnv.readBuffer, LoadEnv.grants, granted]
  | jsonTokens =>
      have counted : env.calls.count (.vPortFree .jsonTokens) = if env.jsonTokens then 1 else 0 := by
        simp [LoadEnv.calls, List.count_append, count_if]
      have asked : env.calls.count (.pvPortMalloc .jsonTokens) = if env.wants then 1 else 0 := by
        simp [LoadEnv.calls, List.count_append, count_if]
      rw [counted, asked]
      cases granted : env.tokenBlock <;> simp [LoadEnv.jsonTokens, LoadEnv.grants, granted]

-- The reads of the parsed text are those of its token array, or one through a
-- null pointer when there is none.
theorem tokens_unread_iff (env : LoadEnv) :
    (env.jsonTokens = false → env.tokenReads = []) ↔ ¬ (env.wants = true ∧ env.tokenBlock = false) := by
  simp only [LoadEnv.jsonTokens, LoadEnv.tokenReads]
  cases wants : env.wants with
  | false => simp
  | true => cases granted : env.tokenBlock <;> simp

theorem fails_unchanged (env : LoadEnv) (store : Store) (granted : ¬ (env.wants = true ∧ env.tokenBlock = false))
    (fails : env.fails = true) : misoLoadConfig env store = some (store, env.calls) := by
  have loaded : (if env.parses then parseConfig env store else some store) = some store := by
    cases parses : env.parses with
    | false => rfl
    | true =>
        by_cases counted : env.jsmnCount env.text > 0
        · have wants : env.wants = true := by simp [LoadEnv.wants, parses, counted]
          have block : env.tokenBlock = true := by
            cases given : env.tokenBlock with
            | true => rfl
            | false => exact absurd ⟨wants, given⟩ granted
          -- With everything before it in order only the second parse can have failed.
          cases filled : env.jsmnTokens env.text with
          | error code => simp [parseConfig, counted, block, filled]
          | ok tokens =>
              have opened : env.fOpen = .ok := by
                simp only [LoadEnv.parses, LoadEnv.reads, Bool.and_eq_true, decide_eq_true_eq] at parses
                exact parses.1.1
              have read : env.fRead = .ok := by
                simp only [LoadEnv.parses, Bool.and_eq_true, decide_eq_true_eq] at parses
                exact parses.2
              have buffered : (env.asks && !env.readBlock) = false := by
                simp only [LoadEnv.parses, LoadEnv.reads, LoadEnv.readBuffer] at parses
                cases asked : env.asks <;> cases given : env.readBlock <;> simp_all
              have positive : ¬ env.jsmnCount env.text < 0 := by omega
              simp [LoadEnv.fails, opened, buffered, read, positive, block, filled, Except.isOk, Except.toBool] at fails
        · simp [parseConfig, counted]
  rw [misoLoadConfig, loaded]
  rfl

theorem load_exits_clean (env : LoadEnv) (store : Store) :
    ExitsClean env store ↔ env.fOpen = .ok ∧ ¬ (env.wants = true ∧ env.tokenBlock = false) := by
  constructor
  · rintro ⟨closed, _, tokens, _⟩
    refine ⟨?_, (tokens_unread_iff env).mp tokens⟩
    rw [close_once] at closed
    by_contra failed
    simp [failed] at closed
  · rintro ⟨opened, granted⟩
    exact ⟨by rw [close_once, if_pos opened], blocks_freed env, (tokens_unread_iff env).mpr granted, fails_unchanged env store granted⟩

def noCard : LoadEnv := { LoadEnv.given [] [] with fOpen := .error 3 }

def noTokenBlock : LoadEnv := { LoadEnv.given homeFile homeTokens with tokenBlock := false }

-- Without a card a file that was not opened is closed. Without memory for the
-- tokens the first of them is read all the same.
theorem exits_unclean :
    noCard.calls = [.fOpen, .fClose] ∧ ¬ ExitsClean noCard .zero ∧
      noTokenBlock.tokenReads = [0] ∧ ¬ ExitsClean noTokenBlock .zero := by
  refine ⟨rfl, fun clean => ?_, rfl, fun clean => ?_⟩
  · have closed := clean.closed
    revert closed
    decide
  · have unread := clean.tokens rfl
    revert unread
    decide

end Miso.Config
