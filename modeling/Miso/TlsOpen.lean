import Miso.TlsInit

set_option autoImplicit false

namespace Miso.TlsContext

open Base (Fallible lifted)

def lastHandshake : List TlsEvent → Option Int
  | [] => none
  | .handshake code :: _ => some code
  | _ :: rest => lastHandshake rest

def cleanups (trace : List TlsEvent) : Nat := trace.count .cleanup

def closes (trace : List LinkEvent) : Nat := trace.countP fun event => match event with
  | .close _ => true
  | .socket _ | .connect _ => false

def ConnSucceeds (net : Network) : Prop := 0 ≤ net.dns ∧ 0 ≤ net.socket ∧ 0 ≤ net.connect.last

theorem connect_exec (net : Network) (conn : SimpleLinkConnection) :
    ∃ result after, Fallible.exec (SimpleLinkConnection.connect net) conn = (result, after) ∧
      (result = .ok () ↔ 0 ≤ net.connect.last) := by
  have looped := Base.call_while_script isEalready
    (fun code (conn : SimpleLinkConnection) => { conn with trace := .connect code :: conn.trace }) net.connect slEalready
    (by decide) conn
  have opened : Fallible.exec (SimpleLinkConnection.connect net) conn =
      Fallible.exec (if net.connect.last < 0 then Base.fail .connect else pure ())
        (net.connect.codes.foldl (fun conn code => { conn with trace := .connect code :: conn.trace }) conn) := by
    refine Fallible.exec_bind_ok _ _ conn _ _ ?_
    rw [Fallible.exec_lifted, looped]
  rw [opened]
  by_cases failed : net.connect.last < 0
  · rw [if_pos failed]
    exact ⟨_, _, rfl, by simp [failed]⟩
  · rw [if_neg failed]
    exact ⟨_, _, rfl, by simp [Int.not_lt.mp failed]⟩

theorem resolve_exec (net : Network) (uri : Uri) (conn : SimpleLinkConnection) (resolved : 0 ≤ net.dns) :
    Fallible.exec (SimpleLinkConnection.resolve net uri) conn = (.ok (), { conn with peer := .create net.hostIp uri.port }) := by
  rw [SimpleLinkConnection.resolve, if_pos resolved]
  rfl

theorem socket_exec (net : Network) (conn : SimpleLinkConnection) :
    Fallible.exec (SimpleLinkConnection.socket net) conn =
      (if net.socket < 0 then .error .socket else .ok (),
        { conn with sd := net.socket, trace := .socket net.socket :: conn.trace }) := by
  have opened : Fallible.exec (SimpleLinkConnection.socket net) conn =
      Fallible.exec (if net.socket < 0 then Base.fail .socket else pure () : Fallible NetError SimpleLinkConnection Unit)
        { conn with sd := net.socket, trace := .socket net.socket :: conn.trace } := rfl
  rw [opened]
  split <;> rfl

theorem open_conn_exec (net : Network) (uri : Uri) (localPort : Option (BitVec 16)) (conn : SimpleLinkConnection) :
    ∃ result after, Fallible.exec (SimpleLinkConnection.openConn net uri localPort) conn = (result, after) ∧
      (result = .ok () ↔ ConnSucceeds net) := by
  unfold SimpleLinkConnection.openConn
  by_cases resolved : 0 ≤ net.dns
  · let peered : SimpleLinkConnection := { conn with peer := .create net.hostIp uri.port }
    let socketed : SimpleLinkConnection := { peered with sd := net.socket, trace := .socket net.socket :: conn.trace }
    rw [Fallible.exec_bind_ok _ _ conn peered () (resolve_exec net uri conn resolved)]
    have made := socket_exec net peered
    by_cases refused : net.socket < 0
    · rw [if_pos refused] at made
      exact ⟨.error .socket, socketed, Fallible.exec_bind_error _ _ peered socketed NetError.socket made,
        by simp [ConnSucceeds, Int.not_le.mpr refused]⟩
    · rw [if_neg refused] at made
      rw [Fallible.exec_bind_ok _ _ peered socketed () made]
      obtain ⟨result, after, connected, outcome⟩ :=
        connect_exec net { socketed with localAddr := .create 0 (localPort.getD 0) }
      cases result with
      | ok value =>
          refine ⟨.ok (), after, Fallible.exec_errdefer_ok _ _ socketed after () connected, ?_⟩
          simpa [ConnSucceeds, resolved, Int.not_lt.mp refused] using outcome
      | error failure =>
          refine ⟨.error failure, _, Fallible.exec_errdefer_error _ _ socketed after failure connected, ?_⟩
          simpa [ConnSucceeds, resolved, Int.not_lt.mp refused] using outcome
  · refine ⟨.error .dns, conn, ?_, by simp [ConnSucceeds, resolved]⟩
    refine Fallible.exec_bind_error _ _ conn conn _ ?_
    rw [SimpleLinkConnection.resolve, if_neg resolved]
    rfl

theorem handshakes_last (script : Base.Script isWant) (ctx : TlsContext) :
    lastHandshake (ctx.logged (script.codes.map TlsEvent.handshake)).trace = some script.last := by
  simp [logged, Base.Script.codes, lastHandshake]

theorem last_handshake_init (codes : Codes) (protocol : Proto) (ctx : TlsContext) :
    lastHandshake (ctx.logged (initEvents codes ctx protocol)).trace = lastHandshake ctx.trace := by
  have steps (events : List InitStep) (rest : List TlsEvent) :
      lastHandshake ((events.map TlsEvent.step) ++ rest) = lastHandshake rest := by
    induction events with
    | nil => rfl
    | cons step events ih => exact ih
  unfold initEvents
  split
  · rfl
  · simp only [logged, List.reverse_cons, List.append_assoc, ← List.map_reverse, steps]
    rfl

def OpenContract (codes : Codes) (uri : Uri) (localPort : Option (BitVec 16)) (ctx : TlsContext) : Prop :=
  ∃ result after, Fallible.exec (openTls codes uri localPort) ctx.fresh = (result, after) ∧
    (result = .ok () → lastHandshake after.trace = some 0) ∧
    ∀ code, lastHandshake after.trace = some code → code ≠ 0 →
      (∃ failure, result = .error failure) ∧ closes after.conn.trace = 1 ∧ cleanups after.trace = 1

inductive Opened (codes : Codes) (uri : Uri) (ctx : TlsContext) : Except NetError Unit → TlsContext → Prop where
  | initFailed (failure : NetError) (after : TlsContext)
      (failed : ¬ InitSucceeds codes ctx uri.scheme.getProtocol)
      (left : after = if uri.scheme.getProtocol.isSecure then ctx.logged (initEvents codes ctx uri.scheme.getProtocol) else ctx) :
      Opened codes uri ctx (.error failure) after
  | connFailed (failure : NetError) (conn : SimpleLinkConnection)
      (ready : InitSucceeds codes ctx uri.scheme.getProtocol) (failed : ¬ ConnSucceeds codes.net) :
      Opened codes uri ctx (.error failure)
        ({ ctx.logged (initEvents codes ctx uri.scheme.getProtocol) with conn := conn }.logged [.cleanup])
  | handshaken (conn : SimpleLinkConnection)
      (ready : InitSucceeds codes ctx uri.scheme.getProtocol) (connected : ConnSucceeds codes.net) :
      Opened codes uri ctx (.ok ())
        ({ ctx.logged (initEvents codes ctx uri.scheme.getProtocol) with conn := conn }.logged
          (codes.handshake.codes.map TlsEvent.handshake))

theorem handshake_exec (codes : Codes) (ctx : TlsContext) :
    (handshake codes).run ctx = (codes.handshake.last, ctx.logged (codes.handshake.codes.map TlsEvent.handshake)) := by
  have records (results : List Int) (ctx : TlsContext) :
      results.foldl (fun (ctx : TlsContext) code => { ctx with trace := .handshake code :: ctx.trace }) ctx =
        ctx.logged (results.map TlsEvent.handshake) := by
    induction results generalizing ctx with
    | nil => rfl
    | cons code rest ih =>
        rw [List.foldl_cons, ih]
        exact logged_logged ctx [.handshake code] (rest.map TlsEvent.handshake)
  rw [handshake, Base.call_while_script isWant _ codes.handshake errSslWantWrite (by decide) ctx, records]

theorem open_cases (codes : Codes) (uri : Uri) (localPort : Option (BitVec 16)) (ctx : TlsContext) :
    ∃ result after, Fallible.exec (openTls codes uri localPort) ctx = (result, after) ∧ Opened codes uri ctx result after := by
  obtain ⟨result, ran, outcome⟩ := init_exec codes uri.scheme.getProtocol ctx
  cases result with
  | error failure =>
      refine ⟨.error failure, _, Fallible.exec_bind_error _ _ _ _ failure ran, .initFailed failure _ ?_ rfl⟩
      intro succeeds
      exact absurd (outcome.mpr succeeds) (by simp)
  | ok value =>
      have prepared : InitSucceeds codes ctx uri.scheme.getProtocol := outcome.mp rfl
      rw [if_pos prepared.1] at ran
      let ready : TlsContext := ctx.logged (initEvents codes ctx uri.scheme.getProtocol)
      obtain ⟨linked, conn, connected, opens⟩ := open_conn_exec codes.net uri localPort ready.conn
      have zoomed : Fallible.exec (onConn (SimpleLinkConnection.openConn codes.net uri localPort)) ready =
          (linked, { ready with conn := conn }) := by
        rw [onConn, Fallible.exec_zoom, connected]
      unfold openTls
      rw [Fallible.exec_bind_ok _ _ _ ready value ran]
      cases linked with
      | error failure =>
          refine ⟨.error failure, _, Fallible.exec_errdefer_error _ _ ready _ failure
            (Fallible.exec_bind_error _ _ ready _ failure zoomed), .connFailed failure conn prepared ?_⟩
          intro succeeds
          exact absurd (opens.mpr succeeds) (by simp)
      | ok value =>
          refine ⟨.ok (), _, Fallible.exec_errdefer_ok _ _ ready _ () ?_, .handshaken conn prepared (opens.mp rfl)⟩
          rw [Fallible.exec_bind_ok _ _ ready _ value zoomed]
          refine Fallible.exec_errdefer_ok _ _ _ _ () ?_
          refine (Fallible.exec_bind_ok _ _ _ _ codes.handshake.last ?_).trans (Fallible.exec_pure () _)
          rw [Fallible.exec_lifted, handshake_exec]

theorem opened_handshake (codes : Codes) (uri : Uri) (ctx after : TlsContext) (result : Except NetError Unit)
    (opened : Opened codes uri ctx.fresh result after) :
    (¬ (InitSucceeds codes ctx uri.scheme.getProtocol ∧ ConnSucceeds codes.net) ∧ result ≠ .ok () ∧
        lastHandshake after.trace = none) ∨
      (InitSucceeds codes ctx uri.scheme.getProtocol ∧ ConnSucceeds codes.net) ∧ result = .ok () ∧
        lastHandshake after.trace = some codes.handshake.last := by
  have quiet := last_handshake_init codes uri.scheme.getProtocol ctx.fresh
  cases opened with
  | initFailed _ _ failed left =>
      refine .inl ⟨fun ready => failed ready.1, by simp, ?_⟩
      rw [left]
      split
      · exact quiet
      · rfl
  | connFailed _ _ _ failed => exact .inl ⟨fun ready => failed ready.2, by simp, quiet⟩
  | handshaken _ ready connected => exact .inr ⟨⟨ready, connected⟩, rfl, handshakes_last codes.handshake _⟩

theorem contract_condition (codes : Codes) (uri : Uri) (localPort : Option (BitVec 16)) (ctx : TlsContext)
    (contract : OpenContract codes uri localPort ctx) :
    ¬ (InitSucceeds codes ctx uri.scheme.getProtocol ∧ ConnSucceeds codes.net) ∨ codes.handshake.last = 0 := by
  obtain ⟨result, after, ran, opened⟩ := open_cases codes uri localPort ctx.fresh
  obtain ⟨_, _, same, success, _⟩ := contract
  cases ran.symm.trans same
  rcases opened_handshake codes uri ctx after result opened with ⟨unready, _, _⟩ | ⟨_, fine, last⟩
  · exact .inl unready
  · exact .inr (by simpa [last] using success fine)

theorem open_contract (codes : Codes) (uri : Uri) (localPort : Option (BitVec 16)) (ctx : TlsContext) :
    OpenContract codes uri localPort ctx ↔
      ¬ (InitSucceeds codes ctx uri.scheme.getProtocol ∧ ConnSucceeds codes.net) ∨ codes.handshake.last = 0 := by
  constructor
  · exact contract_condition codes uri localPort ctx
  · intro condition
    obtain ⟨result, after, ran, opened⟩ := open_cases codes uri localPort ctx.fresh
    refine ⟨result, after, ran, ?_⟩
    rcases opened_handshake codes uri ctx after result opened with ⟨_, failed, untouched⟩ | ⟨ready, _, last⟩
    · simp [failed, untouched]
    · rcases condition with unready | zero
      · exact absurd ready unready
      · simp [last, zero]

def fatalAlert : Codes where
  mbedtls := fun _ => 0
  auth := true
  net := .fine
  handshake := ⟨[errSslWantRead], -0x7780, by simp [isWant, errSslWantRead, errSslWantWrite], by decide⟩

theorem failed_handshake_opens : ¬ ∀ codes uri localPort ctx, OpenContract codes uri localPort ctx := by
  intro contract
  rcases contract_condition fatalAlert ⟨.https, 443⟩ none ⟨.psk, false, ⟨-1, .create 0 0, .create 0 0, []⟩, []⟩
    (contract _ _ _ _) with unready | zero
  · apply unready
    simp [InitSucceeds, ConnSucceeds, Network.fine, initSteps, stepResult, fatalAlert, Scheme.getProtocol, Proto.isSecure,
      Proto.isDtls, Proto.isUdp, Proto.bits, protocolBit, secureBit, udpTcpBit, mbedtlsOk, errCtrDrbgEntropySourceFailed]
  · exact absurd zero (by decide)

end Miso.TlsContext
