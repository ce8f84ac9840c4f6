import Miso.Tls

set_option autoImplicit false

namespace Miso.TlsContext

def errSslAsyncInProgress : Int := -0x6500
def errSslCryptoInProgress : Int := -0x7000

def isRetry (numBytes : Int) : Bool :=
  errSslWantRead = numBytes ∨ errSslWantWrite = numBytes ∨ errSslAsyncInProgress = numBytes ∨ errSslCryptoInProgress = numBytes

def isFatal (numBytes : Int) : Bool := !isRetry numBytes && numBytes < 0

-- One call of mbedtls_ssl_write: the slice it was given and what it returned.
structure WriteCall where
  slice : List UInt8
  numBytes : Int
deriving DecidableEq

def WriteCall.accepted (call : WriteCall) : List UInt8 := call.slice.take call.numBytes.toNat

structure LoopEnd where
  offset : Nat
  ret : Int
  calls : List WriteCall

def LoopEnd.after (call : WriteCall) (ended : LoopEnd) : LoopEnd := { ended with calls := call :: ended.calls }

structure Sent where
  result : Except NetError Nat
  calls : List WriteCall

def LoopEnd.sent (ended : LoopEnd) : Sent :=
  ⟨if ended.ret = 0 then .ok ended.offset else .error .sendError, ended.calls⟩

-- The loops take the results of mbedtls_ssl_write from a list, and have not
-- ended when the list is used up before they leave.
def tlsLoop (buffer : List UInt8) (offset : Nat) (ret : Int) : List Int → Option LoopEnd
  | [] => if offset < buffer.length then none else some ⟨offset, ret, []⟩
  | numBytes :: results =>
      if offset < buffer.length then
        if isRetry numBytes then (tlsLoop buffer offset ret results).map (.after ⟨buffer.drop offset, numBytes⟩)
        else if numBytes ≥ 0 then
          (tlsLoop buffer (offset + numBytes.toNat) 0 results).map (.after ⟨buffer.drop offset, numBytes⟩)
        else some ⟨offset, numBytes, [⟨buffer.drop offset, numBytes⟩]⟩
      else some ⟨offset, ret, []⟩

def sendTls (buffer : List UInt8) (results : List Int) : Option Sent := (tlsLoop buffer 0 (-1) results).map LoopEnd.sent

def dtlsLoop (buffer : List UInt8) (offset : Nat) (ret : Int) : List Int → Option LoopEnd
  | [] => if offset ≠ buffer.length then none else some ⟨offset, ret, []⟩
  | numBytes :: results =>
      if offset ≠ buffer.length then
        if isRetry numBytes then (dtlsLoop buffer offset ret results).map (.after ⟨buffer.drop offset, numBytes⟩)
        else if numBytes < 0 then some ⟨offset, -1, [⟨buffer.drop offset, numBytes⟩]⟩
        else (dtlsLoop buffer (offset + numBytes.toNat) ret results).map (.after ⟨buffer.drop offset, numBytes⟩)
      else some ⟨offset, ret, []⟩

-- What mbedtls_ssl_get_peer_cid returns and leaves in cid_enabled.
structure PeerCid where
  ret : Int
  enabled : Bool

def sendDtls (cid : PeerCid) (buffer : List UInt8) (results : List Int) : Option Sent :=
  let ret := if cid.enabled then 0 else cid.ret
  if ret = 0 then (dtlsLoop buffer 0 ret results).map LoopEnd.sent else some ⟨.error .sendError, []⟩

def send (proto : Proto) (cid : PeerCid) (buffer : List UInt8) (results : List Int) : Option Sent :=
  if proto.isTls then sendTls buffer results else sendDtls cid buffer results

-- No result exceeds what its call was offered, with left bytes still to send.
def Offered : Nat → List Int → Prop
  | _, [] => True
  | left, numBytes :: results =>
      left = 0 ∨ isFatal numBytes = true ∨ (numBytes ≤ left ∧ Offered (left - numBytes.toNat) results)

def fatal (sent : Sent) : Prop := ∃ call, call ∈ sent.calls ∧ isFatal call.numBytes = true

structure Delivered (buffer : List UInt8) (sent : Sent) : Prop where
  success : (∃ count, sent.result = .ok count) ↔ ¬ fatal sent
  whole : ¬ fatal sent → sent.result = .ok buffer.length ∧ (sent.calls.map WriteCall.accepted).flatten = buffer

theorem retry_negative (numBytes : Int) (retry : isRetry numBytes = true) : numBytes < 0 := by
  obtain rfl | rfl | rfl | rfl : errSslWantRead = numBytes ∨ errSslWantWrite = numBytes ∨
      errSslAsyncInProgress = numBytes ∨ errSslCryptoInProgress = numBytes := by simpa [isRetry] using retry
  all_goals decide

-- What the results do to a loop with bytes left, one case for each branch.
theorem result_cases (numBytes : Int) :
    (isRetry numBytes = true ∧ isFatal numBytes = false ∧ numBytes.toNat = 0) ∨
      (isRetry numBytes = false ∧ isFatal numBytes = true ∧ numBytes < 0) ∨
      (isRetry numBytes = false ∧ isFatal numBytes = false ∧ 0 ≤ numBytes) := by
  cases retry : isRetry numBytes with
  | true =>
      have negative := retry_negative numBytes retry
      exact .inl ⟨rfl, by simp [isFatal, retry], by omega⟩
  | false =>
      by_cases negative : numBytes < 0
      · exact .inr (.inl ⟨rfl, by simp [isFatal, retry, negative], negative⟩)
      · exact .inr (.inr ⟨rfl, by simp [isFatal, retry, negative], by omega⟩)

theorem after_sent (call : WriteCall) (ended : Option LoopEnd) :
    (ended.map (LoopEnd.after call)).map LoopEnd.sent =
      (ended.map LoopEnd.sent).map fun sent => ⟨sent.result, call :: sent.calls⟩ := by
  rw [Option.map_map, Option.map_map]
  rfl

theorem offered_next (left : Nat) (numBytes : Int) (results : List Int) (more : left ≠ 0) (fine : isFatal numBytes = false)
    (offered : Offered left (numBytes :: results)) : numBytes ≤ left ∧ Offered (left - numBytes.toNat) results := by
  rcases offered with none | isFatal | next
  · exact absurd none more
  · simp [fine] at isFatal
  · exact next

-- ret is looked at only after the loop, and a loop that began with bytes left
-- leaves with the ret of its last call.
theorem loops_agree (buffer : List UInt8) (offset : Nat) (ret : Int) (results : List Int) (within : offset ≤ buffer.length)
    (status : ret = 0 ∨ offset < buffer.length) (offered : Offered (buffer.length - offset) results) :
    (tlsLoop buffer offset ret results).map LoopEnd.sent = (dtlsLoop buffer offset 0 results).map LoopEnd.sent := by
  induction results generalizing offset ret with
  | nil =>
      by_cases left : offset < buffer.length
      · simp [tlsLoop, dtlsLoop, left, Nat.ne_of_lt left]
      · have done : offset = buffer.length := by omega
        simp [tlsLoop, dtlsLoop, done, status.resolve_right left]
  | cons numBytes rest ih =>
      by_cases left : offset < buffer.length
      · have more : buffer.length - offset ≠ 0 := by omega
        rw [tlsLoop, dtlsLoop, if_pos left, if_pos (Nat.ne_of_lt left)]
        rcases result_cases numBytes with ⟨retry, fine, zero⟩ | ⟨retry, _, negative⟩ | ⟨retry, fine, taken⟩
        · have next := (offered_next _ numBytes rest more fine offered).2
          rw [zero] at next
          rw [if_pos retry, if_pos retry, after_sent, after_sent, ih offset ret within status next]
        · simp [retry, negative, Int.not_le.mpr negative, LoopEnd.sent, Int.ne_of_lt negative]
        · obtain ⟨bound, next⟩ := offered_next _ numBytes rest more fine offered
          rw [Nat.sub_sub] at next
          simp only [retry, taken, Int.not_lt.mpr taken, if_true, Bool.false_eq_true, if_false]
          rw [after_sent, after_sent, ih (offset + numBytes.toNat) 0 (by omega) (.inl rfl) next]
      · have done : offset = buffer.length := by omega
        simp [tlsLoop, dtlsLoop, done, status.resolve_right left]

structure Delivers (rest : List UInt8) (total : Nat) (sent : Sent) : Prop where
  failure : fatal sent → sent.result = .error .sendError
  whole : ¬ fatal sent → sent.result = .ok total ∧ (sent.calls.map WriteCall.accepted).flatten = rest

theorem delivers_after (call : WriteCall) (rest : List UInt8) (total : Nat) (sent : Sent)
    (fine : isFatal call.numBytes = false) (delivers : Delivers rest total sent) :
    Delivers (call.accepted ++ rest) total ⟨sent.result, call :: sent.calls⟩ := by
  have same : fatal ⟨sent.result, call :: sent.calls⟩ ↔ fatal sent := by simp [fatal, fine]
  refine ⟨fun failed => delivers.failure (same.mp failed), fun passed => ?_⟩
  obtain ⟨result, taken⟩ := delivers.whole fun failed => passed (same.mpr failed)
  exact ⟨result, by rw [List.map_cons, List.flatten_cons, taken]⟩

theorem dtls_loop_delivers (buffer : List UInt8) (offset : Nat) (results : List Int) (sent : Sent)
    (within : offset ≤ buffer.length) (offered : Offered (buffer.length - offset) results)
    (left : (dtlsLoop buffer offset 0 results).map LoopEnd.sent = some sent) :
    Delivers (buffer.drop offset) buffer.length sent := by
  have done : Delivers (buffer.drop buffer.length) buffer.length ⟨.ok buffer.length, []⟩ :=
    ⟨fun failed => by simp [fatal] at failed, fun _ => ⟨rfl, by simp⟩⟩
  induction results generalizing offset sent with
  | nil =>
      by_cases atEnd : offset = buffer.length
      · obtain rfl : ⟨.ok buffer.length, []⟩ = sent := by simpa [dtlsLoop, atEnd, LoopEnd.sent] using left
        rw [atEnd]
        exact done
      · simp [dtlsLoop, atEnd] at left
  | cons numBytes rest ih =>
      by_cases atEnd : offset = buffer.length
      · obtain rfl : ⟨.ok buffer.length, []⟩ = sent := by simpa [dtlsLoop, atEnd, LoopEnd.sent] using left
        rw [atEnd]
        exact done
      · have more : buffer.length - offset ≠ 0 := by omega
        rw [dtlsLoop, if_pos atEnd] at left
        rcases result_cases numBytes with ⟨retry, fine, zero⟩ | ⟨retry, bad, negative⟩ | ⟨retry, fine, taken⟩
        · have next := (offered_next _ numBytes rest more fine offered).2
          rw [zero] at next
          rw [if_pos retry, after_sent] at left
          obtain ⟨later, ran, rfl⟩ := Option.map_eq_some_iff.mp left
          have delivers := delivers_after ⟨buffer.drop offset, numBytes⟩ _ _ later fine (ih offset later within next ran)
          simpa [WriteCall.accepted, zero] using delivers
        · simp only [retry, negative, Bool.false_eq_true, if_false, if_true, Option.map_some, Option.some.injEq] at left
          subst left
          refine ⟨fun _ => rfl, fun passed => absurd ⟨_, List.mem_cons_self, bad⟩ passed⟩
        · obtain ⟨bound, next⟩ := offered_next _ numBytes rest more fine offered
          rw [Nat.sub_sub] at next
          simp only [retry, Int.not_lt.mpr taken, Bool.false_eq_true, if_false] at left
          rw [after_sent] at left
          obtain ⟨later, ran, rfl⟩ := Option.map_eq_some_iff.mp left
          have delivers := delivers_after ⟨buffer.drop offset, numBytes⟩ _ _ later fine
            (ih (offset + numBytes.toNat) later (by omega) next ran)
          simpa [WriteCall.accepted, ← List.drop_drop] using delivers

theorem delivered (buffer : List UInt8) (sent : Sent) (delivers : Delivers buffer buffer.length sent) :
    Delivered buffer sent := by
  refine ⟨⟨?_, fun passed => ⟨_, (delivers.whole passed).1⟩⟩, delivers.whole⟩
  rintro ⟨count, success⟩ failed
  exact absurd (success.symm.trans (delivers.failure failed)) (by simp)

structure SendContract (cid : PeerCid) (buffer : List UInt8) (results : List Int) : Prop where
  tls : ∀ sent, sendTls buffer results = some sent → Delivered buffer sent
  dtls : ∀ sent, sendDtls cid buffer results = some sent → Delivered buffer sent
  same : sendTls buffer results = sendDtls cid buffer results

theorem dtls_complete (cid : PeerCid) (buffer : List UInt8) (results : List Int) (complete : cid.ret = 0) :
    sendDtls cid buffer results = (dtlsLoop buffer 0 0 results).map LoopEnd.sent := by simp [sendDtls, complete]

theorem sends_agree (cid : PeerCid) (buffer : List UInt8) (results : List Int) (complete : cid.ret = 0)
    (offered : Offered buffer.length results) (filled : buffer ≠ []) : sendTls buffer results = sendDtls cid buffer results := by
  rw [dtls_complete cid buffer results complete]
  exact loops_agree buffer 0 (-1) results (Nat.zero_le _) (.inr (List.length_pos_iff.mpr filled)) offered

theorem send_any_protocol (first second : Proto) (cid : PeerCid) (buffer : List UInt8) (results : List Int)
    (complete : cid.ret = 0) (offered : Offered buffer.length results) (filled : buffer ≠ []) :
    send first cid buffer results = send second cid buffer results := by
  simp only [send, sends_agree cid buffer results complete offered filled, ite_self]

theorem send_contract (cid : PeerCid) (buffer : List UInt8) (results : List Int) (complete : cid.ret = 0)
    (offered : Offered buffer.length results) : SendContract cid buffer results ↔ buffer ≠ [] := by
  constructor
  · rintro contract rfl
    have refused : sendTls [] results = some ⟨.error .sendError, []⟩ := by cases results <;> rfl
    have sent := (contract.tls _ refused).whole (by simp [fatal])
    simp at sent
  · intro filled
    have same := sends_agree cid buffer results complete offered filled
    have right (sent : Sent) (ended : sendDtls cid buffer results = some sent) : Delivered buffer sent := by
      rw [dtls_complete cid buffer results complete] at ended
      exact delivered buffer sent (by simpa using dtls_loop_delivers buffer 0 results sent (Nat.zero_le _) offered ended)
    exact ⟨fun sent ended => right sent (same ▸ ended), right, same⟩

theorem send_contract_partial : SendContract ⟨0, true⟩ [1, 2, 3] [errSslWantWrite, 2, 0, 1] ↔ [1, 2, 3] ≠ ([] : List UInt8) :=
  send_contract _ _ _ rfl (by simp [Offered, errSslWantWrite])

theorem empty_tls_send_fails : ¬ ∀ cid buffer results, cid.ret = 0 → Offered buffer.length results →
    SendContract cid buffer results := by
  intro contract
  have sent := ((contract ⟨0, false⟩ [] [] rfl trivial).tls ⟨.error .sendError, []⟩ rfl).whole (by simp [fatal])
  simp at sent

end Miso.TlsContext
