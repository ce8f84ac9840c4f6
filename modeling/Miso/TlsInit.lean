import Miso.Tls

set_option autoImplicit false

namespace Miso.TlsContext

open Base (Fallible lifted)

def logged (ctx : TlsContext) (events : List TlsEvent) : TlsContext := { ctx with trace := events.reverse ++ ctx.trace }

@[simp] theorem logged_mode (ctx : TlsContext) (events : List TlsEvent) : (ctx.logged events).mode = ctx.mode := rfl

@[simp] theorem logged_conn (ctx : TlsContext) (events : List TlsEvent) : (ctx.logged events).conn = ctx.conn := rfl

theorem logged_logged (ctx : TlsContext) (first second : List TlsEvent) :
    (ctx.logged first).logged second = ctx.logged (first ++ second) := by simp [logged]

def continues : Except NetError Int → Bool
  | .ok ret => ret = mbedtlsOk
  | .error _ => false

theorem continues_iff (result : Except NetError Int) : continues result = true ↔ result = .ok mbedtlsOk := by
  cases result <;> simp [continues]

-- The steps that run: up to the first one that fails, and that one.
def executed (codes : Codes) (mode : SecurityMode) : List InitStep → List InitStep
  | [] => []
  | step :: rest => step :: if continues (stepResult codes mode step) then executed codes mode rest else []

theorem run_steps_exec (codes : Codes) (steps : List InitStep) (ctx : TlsContext) :
    ∃ result, Fallible.exec (runSteps codes mbedtlsOk steps) ctx =
        (result, ctx.logged ((executed codes ctx.mode steps).map TlsEvent.step)) ∧
      (result = .ok mbedtlsOk ↔ ∀ step, step ∈ steps → stepResult codes ctx.mode step = .ok mbedtlsOk) := by
  induction steps generalizing ctx with
  | nil => exact ⟨.ok mbedtlsOk, rfl, by simp⟩
  | cons step rest ih =>
      have opened : Fallible.exec (runSteps codes mbedtlsOk (step :: rest)) ctx =
          Fallible.exec (match stepResult codes ctx.mode step with
            | .ok ret => runSteps codes ret rest
            | .error failure => Base.fail failure : Fallible NetError TlsContext Int) (ctx.logged [.step step]) := rfl
      rw [opened]
      cases ended : stepResult codes ctx.mode step with
      | error failure => exact ⟨.error failure, by simp [executed, continues, ended], by simp [ended]⟩
      | ok ret =>
          by_cases succeeded : ret = mbedtlsOk
          · subst succeeded
            obtain ⟨result, ran, outcome⟩ := ih (ctx.logged [.step step])
            refine ⟨result, ?_, ?_⟩
            · simp only [ran, logged_logged, executed, ended]
              rfl
            · rw [outcome]
              simp [ended]
          · have skipped : Fallible.exec (runSteps codes ret rest) (ctx.logged [.step step]) =
                (.ok ret, ctx.logged [.step step]) := by
              cases rest with
              | nil => rfl
              | cons _ _ =>
                  rw [runSteps, if_neg succeeded]
                  rfl
            exact ⟨.ok ret, by simp [skipped, executed, continues, ended, succeeded], by simp [ended, succeeded]⟩

def InitSucceeds (codes : Codes) (ctx : TlsContext) (protocol : Proto) : Prop :=
  protocol.isSecure = true ∧ ctx.customInitCallback = false ∧
    ∀ step, step ∈ initSteps ctx.mode protocol → stepResult codes ctx.mode step = .ok mbedtlsOk

def initEvents (codes : Codes) (ctx : TlsContext) (protocol : Proto) : List TlsEvent :=
  if ctx.customInitCallback then [.customInit]
  else .messup :: (executed codes ctx.mode (initSteps ctx.mode protocol)).map TlsEvent.step

theorem run_init_exec (codes : Codes) (protocol : Proto) (ctx : TlsContext) :
    ∃ result, Fallible.exec (runInit codes protocol) ctx = (result, ctx.logged (initEvents codes ctx protocol)) ∧
      (result = .ok mbedtlsOk ↔ ctx.customInitCallback = false ∧
        ∀ step, step ∈ initSteps ctx.mode protocol → stepResult codes ctx.mode step = .ok mbedtlsOk) := by
  have opened : Fallible.exec (runInit codes protocol) ctx = Fallible.exec (if ctx.customInitCallback then do
      lifted (log .customInit)
      pure mbedtlsNok
    else do
      lifted (log .messup)
      runSteps codes mbedtlsOk (initSteps ctx.mode protocol)) ctx := rfl
  rw [opened, initEvents]
  cases custom : ctx.customInitCallback with
  | true =>
      refine ⟨.ok mbedtlsNok, rfl, ?_⟩
      simp [mbedtlsNok, mbedtlsOk]
  | false =>
      obtain ⟨result, steps, succeeds⟩ := run_steps_exec codes (initSteps ctx.mode protocol) (ctx.logged [.messup])
      rw [logged_logged] at steps
      exact ⟨result, steps, by simpa using succeeds⟩

theorem init_exec (codes : Codes) (protocol : Proto) (ctx : TlsContext) :
    ∃ result, Fallible.exec (init codes protocol) ctx =
        (result, if protocol.isSecure then ctx.logged (initEvents codes ctx protocol) else ctx) ∧
      (result = .ok () ↔ InitSucceeds codes ctx protocol) := by
  unfold init
  by_cases secure : protocol.isSecure = true
  · rw [if_pos secure, if_pos secure]
    obtain ⟨result, ran, succeeds⟩ := run_init_exec codes protocol ctx
    cases result with
    | error failure =>
        refine ⟨.error failure, Fallible.exec_bind_error _ _ ctx _ failure ran, ?_⟩
        simpa [InitSucceeds, secure] using succeeds
    | ok ret =>
        rw [Fallible.exec_bind_ok _ _ ctx _ ret ran]
        by_cases fine : ret = mbedtlsOk
        · refine ⟨.ok (), by simp [fine], ?_⟩
          simpa [InitSucceeds, secure, fine] using succeeds
        · refine ⟨.error .initError, by simp [fine], ?_⟩
          simpa [InitSucceeds, secure, fine] using succeeds
  · rw [if_neg secure, if_neg secure]
    exact ⟨.error .noSec, rfl, by simp [InitSucceeds, secure]⟩

-- The events of one call, from a context with an empty trace.
def fresh (ctx : TlsContext) : TlsContext := { ctx with trace := [], conn := { ctx.conn with trace := [] } }

def ran (trace : List TlsEvent) : List InitStep := trace.reverse.filterMap fun event => match event with
  | .step step => some step
  | .messup | .cleanup | .customInit | .handshake _ => none

theorem ran_logged (ctx : TlsContext) (steps : List InitStep) :
    ran (ctx.fresh.logged (.messup :: steps.map TlsEvent.step)).trace = steps := by
  have each : (fun event => match event with
      | TlsEvent.step step => some step
      | .messup | .cleanup | .customInit | .handshake _ => none) ∘ TlsEvent.step = some := rfl
  simp only [ran, logged, fresh, List.append_nil, List.reverse_reverse, List.filterMap_cons, List.filterMap_map, each,
    List.filterMap_some]

-- What a step has to do, with the codes of mbedtls_ctr_drbg_seed that count as
-- a seeded generator as a parameter.
def Succeeded (seeded : Int → Prop) (codes : Codes) (mode : SecurityMode) : InitStep → Prop
  | .ctrDrbgSeed => seeded (codes.mbedtls .ctrDrbgSeed)
  | .confCiphersuites => mode = .psk ∨ mode = .certificateEc
  | .authCallback => codes.auth = true
  | .confGroups | .confVersion | .setTimerCb | .setBio => True
  | step => codes.mbedtls step = mbedtlsOk

def reallySeeded (code : Int) : Prop := code = mbedtlsOk

def seededOrMasked (code : Int) : Prop := code = mbedtlsOk ∨ code = errCtrDrbgEntropySourceFailed

theorem step_result_ok_iff (codes : Codes) (mode : SecurityMode) (step : InitStep) :
    stepResult codes mode step = .ok mbedtlsOk ↔ Succeeded seededOrMasked codes mode step := by
  cases step with
  | ctrDrbgSeed =>
      simp only [stepResult, Succeeded, seededOrMasked, Except.ok.injEq]
      split <;> simp_all
  | confCiphersuites => cases mode <;> simp [stepResult, Succeeded, mbedtlsOk, mbedtlsNok]
  | authCallback => cases answered : codes.auth <;> simp [stepResult, Succeeded, answered]
  | confGroups | confVersion | setTimerCb | setBio => simp [stepResult, Succeeded]
  | configDefaults | confMaxFragLen | confCid | setup | ctrDrbgRandom | setCid => simp [stepResult, Succeeded]

theorem executed_all_iff (codes : Codes) (mode : SecurityMode) (steps : List InitStep) :
    (∀ step, step ∈ executed codes mode steps → stepResult codes mode step = .ok mbedtlsOk) ↔
      ∀ step, step ∈ steps → stepResult codes mode step = .ok mbedtlsOk := by
  induction steps with
  | nil => exact Iff.rfl
  | cons step rest ih =>
      by_cases passed : stepResult codes mode step = .ok mbedtlsOk
      · rw [executed, if_pos ((continues_iff _).mpr passed)]
        simpa [passed] using ih
      · simp [executed, passed]

theorem executed_complete (codes : Codes) (mode : SecurityMode) (steps : List InitStep)
    (passed : ∀ step, step ∈ steps → stepResult codes mode step = .ok mbedtlsOk) : executed codes mode steps = steps := by
  induction steps with
  | nil => rfl
  | cons step rest ih =>
      have first := passed step List.mem_cons_self
      rw [executed, if_pos ((continues_iff _).mpr first), ih fun other member => passed other (List.mem_cons_of_mem step member)]

theorem executed_before (codes : Codes) (mode : SecurityMode) (steps earlier later : List InitStep) (step next : InitStep)
    (split : executed codes mode steps = earlier ++ step :: next :: later) :
    stepResult codes mode step = .ok mbedtlsOk := by
  induction steps generalizing earlier with
  | nil => simp [executed] at split
  | cons head rest ih =>
      rw [executed] at split
      by_cases passed : continues (stepResult codes mode head) = true
      · rw [if_pos passed] at split
        cases earlier with
        | nil =>
            obtain ⟨rfl, _⟩ : head = step ∧ executed codes mode rest = next :: later := by simpa using split
            exact (continues_iff _).mp passed
        | cons first before =>
            obtain ⟨rfl, remaining⟩ : head = first ∧ executed codes mode rest = before ++ step :: next :: later := by
              simpa using split
            exact ih before remaining
      · rw [if_neg passed] at split
        cases earlier <;> simp at split

-- One run of init on the standard path.
structure InitContract (seeded : Int → Prop) (codes : Codes) (protocol : Proto) (ctx : TlsContext) : Prop where
  outcome : (Fallible.exec (init codes protocol) ctx.fresh).1 = .ok () ↔
    ∀ step, step ∈ ran (Fallible.exec (init codes protocol) ctx.fresh).2.trace → Succeeded seeded codes ctx.mode step
  noneAfterFailure : ∀ earlier step next later,
    ran (Fallible.exec (init codes protocol) ctx.fresh).2.trace = earlier ++ step :: next :: later →
      Succeeded seeded codes ctx.mode step
  complete : (Fallible.exec (init codes protocol) ctx.fresh).1 = .ok () →
    ran (Fallible.exec (init codes protocol) ctx.fresh).2.trace = initSteps ctx.mode protocol

theorem init_contract (codes : Codes) (protocol : Proto) (ctx : TlsContext) (secure : protocol.isSecure = true)
    (standard : ctx.customInitCallback = false) : InitContract seededOrMasked codes protocol ctx := by
  obtain ⟨result, run, outcome⟩ := init_exec codes protocol ctx.fresh
  have events : initEvents codes ctx.fresh protocol =
      .messup :: (executed codes ctx.mode (initSteps ctx.mode protocol)).map TlsEvent.step := by
    rw [initEvents, if_neg (by simp [fresh, standard])]
    rfl
  have succeeds : InitSucceeds codes ctx.fresh protocol ↔
      ∀ step, step ∈ initSteps ctx.mode protocol → stepResult codes ctx.mode step = .ok mbedtlsOk := by
    simp [InitSucceeds, fresh, secure, standard]
  rw [if_pos secure, events] at run
  refine ⟨?_, ?_, ?_⟩
  · rw [run, ran_logged, outcome, succeeds, ← executed_all_iff]
    simp only [step_result_ok_iff]
  · intro earlier step next later split
    rw [run, ran_logged] at split
    exact (step_result_ok_iff codes ctx.mode step).mp (executed_before codes ctx.mode _ earlier later step next split)
  · intro success
    rw [run] at success
    rw [run, ran_logged]
    exact executed_complete codes ctx.mode _ (succeeds.mp (outcome.mp success))

-- Every call goes well, apart from the seeding.
def seeding (code : Int) : Codes where
  mbedtls := fun step => if step = .ctrDrbgSeed then code else mbedtlsOk
  auth := true
  net := .fine
  handshake := ⟨[], 0, by simp, by decide⟩

def pskContext : TlsContext := ⟨.psk, false, ⟨slInvalidSocket, .create 0 0, .create 0 0, []⟩, []⟩

theorem init_contract_dtls : InitContract seededOrMasked (seeding errCtrDrbgEntropySourceFailed) .dtlsIp4 pskContext :=
  init_contract _ _ _ (by decide) rfl

def StatedContract (codes : Codes) (protocol : Proto) (ctx : TlsContext) : Prop :=
  protocol.isSecure = true →
    (ctx.customInitCallback = false → InitContract reallySeeded codes protocol ctx) ∧
      (ctx.customInitCallback = true → (Fallible.exec (init codes protocol) ctx.fresh).1 = .ok ())

theorem unseeded_init_succeeds : ¬ ∀ codes protocol ctx, StatedContract codes protocol ctx := by
  intro stated
  have contract := (stated (seeding errCtrDrbgEntropySourceFailed) .tlsIp4 pskContext (by decide)).1 rfl
  have seeded : errCtrDrbgEntropySourceFailed = mbedtlsOk := contract.outcome.mp rfl .ctrDrbgSeed (by decide)
  exact absurd seeded (by decide)

end Miso.TlsContext
