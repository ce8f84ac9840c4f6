import Miso.Base.Run
import Miso.TlsOpen

set_option autoImplicit false

namespace Miso.TlsContext

open Base (Fallible Step StatesHold StepsMeet)

-- What messup allocated and no cleanup has freed.
def balance (trace : List TlsEvent) : Int := (trace.count .messup : Int) - trace.count .cleanup

theorem balance_logged (ctx : TlsContext) (events : List TlsEvent) :
    balance (ctx.logged events).trace = balance ctx.trace + balance events := by
  simp only [balance, logged, List.count_append, List.count_reverse, Int.natCast_add]
  omega

theorem count_map_eq_zero {α : Type} (build : α → TlsEvent) (items : List α) (event : TlsEvent)
    (other : ∀ item, event ≠ build item) : (items.map build).count event = 0 := by
  rw [List.count_eq_zero, List.mem_map]
  rintro ⟨item, _, same⟩
  exact other item same.symm

theorem balance_handshakes (codes : List Int) : balance (codes.map TlsEvent.handshake) = 0 := by
  rw [balance, count_map_eq_zero _ codes .messup (by simp), count_map_eq_zero _ codes .cleanup (by simp)]
  rfl

theorem balance_init (codes : Codes) (ctx : TlsContext) (protocol : Proto) (standard : ctx.customInitCallback = false) :
    balance (initEvents codes ctx protocol) = 1 := by
  rw [initEvents, if_neg (by simp [standard]), balance, List.count_cons_self, List.count_cons_of_ne (by simp),
    count_map_eq_zero _ _ .messup (by simp), count_map_eq_zero _ _ .cleanup (by simp)]
  rfl

structure Usage where
  ctx : TlsContext
  isOpen : Bool

inductive UsageCall where
  | open (codes : Codes) (uri : Uri) (localPort : Option (BitVec 16))
  | close (codes : Codes)

namespace Usage

def create (mode : SecurityMode) (conn : SimpleLinkConnection) : Usage := ⟨⟨mode, false, conn, []⟩, false⟩

-- open is called only when not open, and close only after a successful open.
def step : Step Usage UsageCall := fun usage call => match call with
  | .open codes uri localPort =>
      if usage.isOpen then none
      else
        let (result, after) := Fallible.exec (openTls codes uri localPort) usage.ctx
        some ⟨after, result.isOk⟩
  | .close codes =>
      if usage.isOpen then some ⟨(Fallible.exec (TlsContext.close codes) usage.ctx).2, false⟩ else none

def Balanced (usage : Usage) : Prop := balance usage.ctx.trace = if usage.isOpen then 1 else 0

def Standard (usage : Usage) : Prop := usage.ctx.customInitCallback = false

def InitFits (usage : Usage) : UsageCall → Prop
  | .open codes uri _ => uri.scheme.getProtocol.isSecure = true → InitSucceeds codes usage.ctx uri.scheme.getProtocol
  | .close _ => True

theorem close_exec (codes : Codes) (ctx : TlsContext) :
    ∃ result conn, Fallible.exec (TlsContext.close codes) ctx = (result, { ctx with conn := conn }.logged [.cleanup]) := by
  rw [TlsContext.close, Fallible.exec_deferred, onConn, Fallible.exec_zoom]
  exact ⟨_, _, rfl⟩

theorem opened_standard (codes : Codes) (uri : Uri) (ctx after : TlsContext) (result : Except NetError Unit)
    (opened : Opened codes uri ctx result after) : after.customInitCallback = ctx.customInitCallback := by
  cases opened with
  | initFailed _ _ _ left =>
      rw [left]
      split <;> rfl
  | connFailed _ _ _ _ => rfl
  | handshaken _ _ _ => rfl

theorem opened_balanced_iff (codes : Codes) (uri : Uri) (ctx after : TlsContext) (result : Except NetError Unit)
    (standard : ctx.customInitCallback = false) (free : balance ctx.trace = 0)
    (opened : Opened codes uri ctx result after) :
    (balance after.trace = if result.isOk then 1 else 0) ↔
      (uri.scheme.getProtocol.isSecure = true → InitSucceeds codes ctx uri.scheme.getProtocol) := by
  have allocated := balance_logged ctx (initEvents codes ctx uri.scheme.getProtocol)
  rw [balance_init codes ctx uri.scheme.getProtocol standard, free] at allocated
  cases opened with
  | initFailed failure _ failed left =>
      by_cases secure : uri.scheme.getProtocol.isSecure = true
      · rw [left, if_pos secure, allocated]
        simp [Except.isOk, Except.toBool, secure, failed]
      · rw [left, if_neg secure, free]
        simp [Except.isOk, Except.toBool, secure]
  | connFailed failure conn ready _ =>
      have freed := balance_logged { ctx.logged (initEvents codes ctx uri.scheme.getProtocol) with conn := conn } [.cleanup]
      have cleaned : balance [.cleanup] = -1 := rfl
      rw [freed, allocated, cleaned]
      simp [Except.isOk, Except.toBool, ready]
  | handshaken conn ready _ =>
      have shaken := balance_logged { ctx.logged (initEvents codes ctx uri.scheme.getProtocol) with conn := conn }
        (codes.handshake.codes.map TlsEvent.handshake)
      rw [shaken, allocated, balance_handshakes]
      simp [Except.isOk, Except.toBool, ready]

theorem step_standard (usage : Usage) (call : UsageCall) (after : Usage) (standard : Standard usage)
    (taken : step usage call = some after) : Standard after := by
  cases call with
  | «open» codes uri localPort =>
      obtain ⟨result, opened, ran, how⟩ := open_cases codes uri localPort usage.ctx
      cases already : usage.isOpen with
      | true => simp [step, already] at taken
      | false =>
          obtain rfl : ⟨opened, result.isOk⟩ = after := by simpa [step, already, ran] using taken
          exact (opened_standard codes uri usage.ctx opened result how).trans standard
  | close codes =>
      obtain ⟨result, conn, ran⟩ := close_exec codes usage.ctx
      cases already : usage.isOpen with
      | true =>
          simp only [step, already, if_true, ran, Option.some.injEq] at taken
          subst taken
          exact standard
      | false => simp [step, already] at taken

theorem step_balanced_iff (usage : Usage) (call : UsageCall) (after : Usage) (standard : Standard usage)
    (balanced : Balanced usage) (taken : step usage call = some after) : Balanced after ↔ InitFits usage call := by
  cases call with
  | «open» codes uri localPort =>
      obtain ⟨result, opened, ran, how⟩ := open_cases codes uri localPort usage.ctx
      cases already : usage.isOpen with
      | true => simp [step, already] at taken
      | false =>
          obtain rfl : ⟨opened, result.isOk⟩ = after := by simpa [step, already, ran] using taken
          exact opened_balanced_iff codes uri usage.ctx opened result standard (by simpa [Balanced, already] using balanced) how
  | close codes =>
      obtain ⟨result, conn, ran⟩ := close_exec codes usage.ctx
      cases already : usage.isOpen with
      | true =>
          simp only [step, already, if_true, ran, Option.some.injEq] at taken
          subst taken
          have freed := balance_logged { usage.ctx with conn := conn } [.cleanup]
          have cleaned : balance [.cleanup] = -1 := rfl
          have held : balance usage.ctx.trace = 1 := by simpa [Balanced, already] using balanced
          refine iff_of_true ?_ trivial
          simp [Balanced, freed, held, cleaned]
      | false => simp [step, already] at taken

theorem balanced_iff (mode : SecurityMode) (conn : SimpleLinkConnection) (calls : List UsageCall) :
    StatesHold step Balanced (create mode conn) calls ↔ StepsMeet step InitFits (create mode conn) calls :=
  Base.states_hold_iff step Standard Balanced InitFits
    (fun usage call after standard taken => step_standard usage call after standard taken)
    (fun usage call after standard balanced taken => step_balanced_iff usage call after standard balanced taken)
    (create mode conn) calls rfl rfl

def credentialsRefused : Codes := { seeding mbedtlsOk with auth := false }

theorem failed_init_leaks : ¬ ∀ mode conn calls, StatesHold step Balanced (create mode conn) calls := by
  intro balanced
  have kept := (balanced .psk pskContext.conn [.open credentialsRefused ⟨.https, 443⟩ none]).2 _ rfl
  exact absurd (show balance _ = 0 from kept) (by decide)

end Usage

end Miso.TlsContext
