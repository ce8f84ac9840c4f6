import Miso.Base.Ledger
import Miso.Lwm2mList

set_option autoImplicit false

namespace Miso.Lwm2m

open Base (Heap Chain InOrder Matched)

variable {α κ : Type}

theorem free_loop_spec (client : Client α κ) (first : α) (rest : List α) (param : κ) (fuel : Nat)
    (chain : Chain Connection.next client.nodes (some first) (first :: rest))
    (owned : ∀ address, address ∈ first :: rest → (client.nodes address).map Connection.parent = some param)
    (enough : rest.length < fuel) :
    client.freeLoop fuel first =
      some { client with trace := List.replicate (max 1 rest.length) (.closeConnection param) ++ client.trace } := by
  induction rest generalizing client first fuel with
  | nil =>
      cases fuel with
      | zero => simp at enough
      | succ fuel =>
          cases chain with
          | cons _ cell _ _ read tail =>
              have parent : cell.parent = param := by simpa [read] using owned first List.mem_cons_self
              have ends := Base.segment_nil _ _ tail
              simp [Client.freeLoop, read, ends, parent, Client.log]
  | cons second rest ih =>
      cases fuel with
      | zero => simp at enough
      | succ fuel =>
          cases chain with
          | cons _ cell _ _ read tail =>
              have parent : cell.parent = param := by simpa [read] using owned first List.mem_cons_self
              have pointer := Base.segment_head _ _ _ _ tail
              rw [pointer] at tail
              obtain ⟨following, reread⟩ := Base.segment_reads _ _ _ tail second List.mem_cons_self
              have onward : following.next.isSome = !rest.isEmpty := by
                cases tail with
                | cons _ other _ _ again tail =>
                    obtain rfl : following = other := Option.some.inj (reread.symm.trans again)
                    cases rest with
                    | nil => rw [Base.segment_nil _ _ tail]; rfl
                    | cons third _ => rw [Base.segment_head _ _ third _ tail]; rfl
              cases rest with
              | nil =>
                  simp at onward
                  simp [Client.freeLoop, read, pointer, parent, reread, onward, Client.log]
              | cons third rest =>
                  have later := ih (client.log (.closeConnection param)) second fuel tail
                    (fun address member => owned address (List.mem_cons_of_mem first member)) (by simpa using enough)
                  have closes : List.replicate (max 1 (third :: rest).length) (Event.closeConnection param) ++
                        (Event.closeConnection param :: client.trace) =
                      List.replicate (max 1 (second :: third :: rest).length) (.closeConnection param) ++ client.trace := by
                    have one : max 1 (rest.length + 1) = rest.length + 1 := by omega
                    have two : max 1 (rest.length + 1 + 1) = rest.length + 1 + 1 := by omega
                    simp only [List.length_cons, one, two, List.replicate_succ' (n := rest.length + 1), List.append_assoc,
                      List.singleton_append]
                  simp at onward
                  rw [← closes]
                  simpa [Client.freeLoop, read, pointer, parent, reread, onward, Client.log] using later

theorem connect_nothing (client : Client α κ) (secObjInstID : BitVec 16) (answers : Answers α)
    (first : uriCopy client.securityObj secObjInstID answers.uri = none) :
    client.connectEvents secObjInstID answers = [] ∧ client.session secObjInstID answers = none ∧
      client.kept secObjInstID answers = none := by
  simp [Client.connectEvents, Client.session, Client.kept, Client.copied, first]

-- A second copy that is not kept has been handed over.
theorem handed_or_kept (client : Client α κ) (secObjInstID : BitVec 16) (answers : Answers α) :
    (client.handed secObjInstID answers = client.copied secObjInstID answers ∧ client.kept secObjInstID answers = none) ∨
      (client.handed secObjInstID answers = none ∧
        client.kept secObjInstID answers = client.copied secObjInstID answers) := by
  unfold Client.handed Client.kept
  cases answers.freesUri with
  | true => exact .inl ⟨rfl, rfl⟩
  | false => exact .inr ⟨rfl, rfl⟩

theorem connect_keeps_nodes (client : Client α κ) (secObjInstID : BitVec 16) (answers : Answers α) (address : α) :
    ∀ event, event ∈ client.connectEvents secObjInstID answers → event ≠ .freeNode address := by
  intro event member
  cases first : uriCopy client.securityObj secObjInstID answers.uri with
  | none => simp [Client.connectEvents, first] at member
  | some uri =>
      simp only [Client.connectEvents, first, List.cons_append, List.append_assoc, List.mem_append, List.mem_map,
        List.mem_cons, List.not_mem_nil, or_false] at member
      rcases member with rfl | ⟨node, _, rfl⟩ | ⟨copy, _, rfl⟩ | rfl | ⟨copy, _, rfl⟩ | rfl <;> simp

theorem fresh_copied (sessions : Sessions α κ) (secObjInstID : BitVec 16) (answers : Answers α) (address : α)
    (fresh : Fresh sessions (.connect secObjInstID answers))
    (copied : sessions.client.copied secObjInstID answers = some address) : sessions.client.texts address = none := by
  obtain ⟨_, _, again⟩ := Option.bind_eq_some_iff.mp copied
  obtain ⟨_, _, given⟩ := Option.bind_eq_some_iff.mp again
  exact Option.isNone_iff_eq_none.mp (fresh.2 address (by simp [Answers.allocated, given])).2

variable [DecidableEq α]

theorem fresh_session (sessions : Sessions α κ) (secObjInstID : BitVec 16) (answers : Answers α) (address : α)
    (listed : Listed sessions) (fresh : Fresh sessions (.connect secObjInstID answers))
    (session : sessions.client.session secObjInstID answers = some address) : address ∉ sessions.opened := by
  obtain ⟨_, _, made⟩ := Option.bind_eq_some_iff.mp session
  have given : answers.node = some address := by
    split at made
    · exact made
    · simp at made
  have unused := Option.isNone_iff_eq_none.mp (fresh.2 address (by simp [Answers.allocated, given])).1
  intro member
  have owned := listed.owned address
  rw [unused, if_pos member] at owned
  simp at owned

theorem connection_free_spec (sessions : Sessions α κ) (listed : Listed sessions) :
    ∃ closes, sessions.client.connectionFree sessions.opened.length =
        some { sessions.client with
          trace := List.replicate closes (.closeConnection sessions.client.param) ++ sessions.client.trace } ∧
      (sessions.opened = [] → closes = 0) := by
  have chain := listed.chain
  have owned := listed.owned
  cases whole : sessions.opened with
  | nil =>
      rw [whole] at chain
      exact ⟨0, by rw [Client.connectionFree, Base.segment_nil _ _ chain]; rfl, fun _ => rfl⟩
  | cons first rest =>
      rw [whole] at chain owned
      have head := Base.segment_head _ _ first rest chain
      have loop : sessions.client.connectionFree (first :: rest).length =
          sessions.client.freeLoop (first :: rest).length first := by rw [Client.connectionFree, head]
      refine ⟨max 1 rest.length, loop.trans ?_, fun empty => by simp at empty⟩
      rw [head] at chain
      refine free_loop_spec sessions.client first rest sessions.client.param (first :: rest).length chain ?_ (by simp)
      intro address member
      rw [owned, if_pos member]

variable [DecidableEq κ]

structure Balanced (client : Client α κ) : Prop where
  transports : Matched (.createConnection client.param 0) (.closeConnection client.param) client.trace
  uris : ∀ address, Matched (.strdup address) (.freeUri address) client.trace
  nodes : ∀ address, Matched (.mallocNode address) (.freeNode address) client.trace

-- The connect fails before it holds anything but the copy it frees itself, and
-- one that lwm2mservice_create_connection frees.
def TakesNothing (securityObj : List SecurityInstance) : Call α → Prop
  | .connect secObjInstID answers => uriCopy securityObj secObjInstID answers.uri = none ∨
      (answers.created ≠ 0 ∧ (uriCopy securityObj secObjInstID answers.uriAgain = none ∨ answers.freesUri))
  | .close _ => True

-- How often each event happened, against what is held.
structure Tallied (sessions : Sessions α κ) : Prop where
  listed : Listed sessions
  uris : ∀ address, sessions.client.trace.count (.strdup address) =
    sessions.client.trace.count (.freeUri address) + if (sessions.client.texts address).isSome then 1 else 0
  nodes : ∀ address, sessions.client.trace.count (.mallocNode address) =
    sessions.client.trace.count (.freeNode address) + if address ∈ sessions.opened then 1 else 0
  created : sessions.opened ≠ [] → 0 < sessions.client.trace.count (.createConnection sessions.client.param 0)
  unclosed : sessions.client.trace.count (.closeConnection sessions.client.param) = 0
  urisInOrder : ∀ address, InOrder (.strdup address) (.freeUri address) sessions.client.trace
  nodesInOrder : ∀ address, InOrder (.mallocNode address) (.freeNode address) sessions.client.trace

theorem count_one {β : Type} (build : β → Event α κ) (item : Option β) (event : Event α κ) :
    (item.toList.map build).count event = if item.map build = some event then 1 else 0 := by
  cases item with
  | none => simp
  | some value => by_cases same : build value = event <;> simp [same]

theorem connect_count (client : Client α κ) (secObjInstID : BitVec 16) (answers : Answers α) (uri : α) (event : Event α κ)
    (first : uriCopy client.securityObj secObjInstID answers.uri = some uri) :
    (client.connectEvents secObjInstID answers).count event =
      (if .freeUri uri = event then 1 else 0) +
        (if (client.session secObjInstID answers).map .mallocNode = some event then 1 else 0) +
        (if (client.handed secObjInstID answers).map .freeUri = some event then 1 else 0) +
        (if .createConnection client.param answers.created = event then 1 else 0) +
        (if (client.copied secObjInstID answers).map .strdup = some event then 1 else 0) +
        (if .strdup uri = event then 1 else 0) := by
  simp only [Client.connectEvents, first, List.cons_append, List.append_assoc, List.count_cons, List.count_append, count_one,
    List.count_nil, beq_iff_eq]
  omega

theorem connect_uris (sessions after : Sessions α κ) (secObjInstID : BitVec 16) (answers : Answers α)
    (tallied : Tallied sessions) (fresh : Fresh sessions (.connect secObjInstID answers))
    (connected : Connected sessions secObjInstID answers after) (address : α) :
    after.client.trace.count (.strdup address) =
      after.client.trace.count (.freeUri address) + if (after.client.texts address).isSome then 1 else 0 := by
  have before := tallied.uris address
  have apart := fresh_copied sessions secObjInstID answers address fresh
  rw [connected.trace, List.count_append, List.count_append]
  cases first : uriCopy sessions.client.securityObj secObjInstID answers.uri with
  | none =>
      obtain ⟨events, _, kept⟩ := connect_nothing sessions.client secObjInstID answers first
      simpa [connected.texts, events, kept] using before
  | some uri =>
      rw [connect_count _ _ _ uri _ first, connect_count _ _ _ uri _ first]
      by_cases copied : sessions.client.copied secObjInstID answers = some address
      · rcases handed_or_kept sessions.client secObjInstID answers with ⟨handed, kept⟩ | ⟨handed, kept⟩
        · simp [connected.texts, handed, kept, copied, apart copied] at before ⊢
          omega
        · simp [connected.texts, handed, kept, copied, apart copied] at before ⊢
          omega
      · rcases handed_or_kept sessions.client secObjInstID answers with ⟨handed, kept⟩ | ⟨handed, kept⟩
        · simp [connected.texts, handed, kept, copied] at before ⊢
          omega
        · simp [connected.texts, handed, kept, copied] at before ⊢
          omega

theorem connect_nodes (sessions after : Sessions α κ) (secObjInstID : BitVec 16) (answers : Answers α)
    (tallied : Tallied sessions) (fresh : Fresh sessions (.connect secObjInstID answers))
    (connected : Connected sessions secObjInstID answers after) (address : α) :
    after.client.trace.count (.mallocNode address) =
      after.client.trace.count (.freeNode address) + if address ∈ after.opened then 1 else 0 := by
  have before := tallied.nodes address
  have apart := fresh_session sessions secObjInstID answers address tallied.listed fresh
  rw [connected.trace, connected.opened, List.count_append, List.count_append]
  cases first : uriCopy sessions.client.securityObj secObjInstID answers.uri with
  | none =>
      obtain ⟨events, session, _⟩ := connect_nothing sessions.client secObjInstID answers first
      simpa [events, session] using before
  | some uri =>
      rw [connect_count _ _ _ uri _ first, connect_count _ _ _ uri _ first]
      by_cases session : sessions.client.session secObjInstID answers = some address
      · simp [session, apart session] at before ⊢
        omega
      · simp [session] at before ⊢
        omega

def Client.opensTransport (client : Client α κ) (secObjInstID : BitVec 16) (answers : Answers α) : Prop :=
  uriCopy client.securityObj secObjInstID answers.uri ≠ none ∧ answers.created = 0

theorem connect_created_iff (sessions after : Sessions α κ) (secObjInstID : BitVec 16) (answers : Answers α)
    (connected : Connected sessions secObjInstID answers after) :
    0 < after.client.trace.count (.createConnection after.client.param 0) ↔
      0 < sessions.client.trace.count (.createConnection sessions.client.param 0) ∨
        sessions.client.opensTransport secObjInstID answers := by
  rw [connected.trace, connected.param, List.count_append]
  cases first : uriCopy sessions.client.securityObj secObjInstID answers.uri with
  | none =>
      obtain ⟨events, _, _⟩ := connect_nothing sessions.client secObjInstID answers first
      simp [events, Client.opensTransport, first]
  | some uri =>
      rw [connect_count _ _ _ uri _ first]
      by_cases created : answers.created = 0
      · refine iff_of_true ?_ (.inr ⟨by simp [first], created⟩)
        have opened : Event.createConnection sessions.client.param answers.created =
            (Event.createConnection sessions.client.param 0 : Event α κ) := by rw [created]
        rw [if_pos opened]
        omega
      · simp [created, Client.opensTransport]

-- The two copies are made before either is freed.
theorem connect_in_order (sessions after : Sessions α κ) (secObjInstID : BitVec 16) (answers : Answers α)
    (tallied : Tallied sessions) (connected : Connected sessions secObjInstID answers after) (address : α)
    (held : after.client.trace.count (.strdup address) =
      after.client.trace.count (.freeUri address) + if (after.client.texts address).isSome then 1 else 0) :
    InOrder (.strdup address) (.freeUri address) after.client.trace := by
  have older := tallied.urisInOrder address
  have counted := tallied.uris address
  have bound := Nat.le.intro held.symm
  rw [connected.trace] at bound ⊢
  cases first : uriCopy sessions.client.securityObj secObjInstID answers.uri with
  | none =>
      rw [(connect_nothing sessions.client secObjInstID answers first).1]
      exact older
  | some uri =>
      simp only [Client.connectEvents, first, List.cons_append, List.append_assoc] at bound ⊢
      refine Base.in_order_cons _ _ _ _ ?_ bound
      have unreleased : ∀ event, event ∈ Event.createConnection sessions.client.param answers.created ::
          ((sessions.client.copied secObjInstID answers).toList.map Event.strdup ++ [Event.strdup uri]) →
            event ≠ .freeUri address := by
        intro event member
        simp only [List.mem_cons, List.mem_append, List.mem_map, List.not_mem_nil, or_false] at member
        rcases member with rfl | ⟨copy, _, rfl⟩ | rfl <;> simp
      have made := Base.in_order_unreleased (.strdup address) _ _ _ unreleased older
      have told : InOrder (.strdup address) (.freeUri address)
          ((sessions.client.handed secObjInstID answers).toList.map Event.freeUri ++
            (Event.createConnection sessions.client.param answers.created ::
              ((sessions.client.copied secObjInstID answers).toList.map Event.strdup ++ [Event.strdup uri]) ++
              sessions.client.trace)) := by
        rcases handed_or_kept sessions.client secObjInstID answers with ⟨handed, _⟩ | ⟨handed, _⟩
        · rw [handed]
          cases copied : sessions.client.copied secObjInstID answers with
          | none => simpa [copied] using made
          | some copy =>
              rw [copied] at made
              refine Base.in_order_cons _ _ _ _ made ?_
              simp [List.count_cons] at counted ⊢
              omega
        · rw [handed]
          exact made
      refine Base.in_order_unreleased _ _ _ _ (fun event member => ?_) (by simpa using told)
      obtain ⟨node, _, rfl⟩ := List.mem_map.mp member
      simp

theorem connect_tallied (sessions after : Sessions α κ) (secObjInstID : BitVec 16) (answers : Answers α)
    (tallied : Tallied sessions) (fresh : Fresh sessions (.connect secObjInstID answers))
    (connected : Connected sessions secObjInstID answers after) : Tallied after := by
  have uris := connect_uris sessions after secObjInstID answers tallied fresh connected
  refine ⟨connected.listed, uris, connect_nodes sessions after secObjInstID answers tallied fresh connected, ?_, ?_, ?_, ?_⟩
  · intro opened
    rw [connect_created_iff sessions after secObjInstID answers connected]
    by_cases before : sessions.opened = []
    · rw [connected.opened, before] at opened
      cases first : uriCopy sessions.client.securityObj secObjInstID answers.uri with
      | none => simp [Client.session, first] at opened
      | some uri =>
          by_cases created : answers.created = 0
          · exact .inr ⟨by simp [first], created⟩
          · simp [Client.session, first, created] at opened
    · exact .inl (tallied.created before)
  · rw [connected.trace, connected.param, List.count_append, tallied.unclosed]
    cases first : uriCopy sessions.client.securityObj secObjInstID answers.uri with
    | none => simp [connect_nothing sessions.client secObjInstID answers first]
    | some uri =>
        rw [connect_count _ _ _ uri _ first]
        simp
  · exact fun address => connect_in_order sessions after secObjInstID answers tallied connected address (uris address)
  · intro address
    rw [connected.trace]
    exact Base.in_order_unreleased _ _ _ _ (connect_keeps_nodes sessions.client secObjInstID answers address)
      (tallied.nodesInOrder address)

theorem close_tallied (sessions after : Sessions α κ) (sessionH : α) (tallied : Tallied sessions)
    (closed : Closed sessions sessionH after) : Tallied after := by
  by_cases isOpen : sessionH ∈ sessions.opened
  · have trace := closed.freed isOpen
    have distinct := Base.chain_nodup _ _ tallied.listed.chain
    refine ⟨closed.listed, fun address => ?_, fun address => ?_, fun _ => ?_, ?_, fun address => ?_, fun address => ?_⟩
    · simpa [trace, closed.texts] using tallied.uris address
    · have before := tallied.nodes address
      rw [trace, closed.opened]
      by_cases same : address = sessionH
      · subst same
        simp [isOpen, distinct.mem_erase_iff] at before ⊢
        omega
      · simpa [same, Ne.symm same, distinct.mem_erase_iff] using before
    · simpa [trace, closed.param] using tallied.created (List.ne_nil_of_mem isOpen)
    · simpa [trace, closed.param] using tallied.unclosed
    · rw [trace]
      exact Base.in_order_unreleased _ _ [.freeNode sessionH] _ (by simp) (tallied.urisInOrder address)
    · have before := tallied.nodes address
      rw [trace]
      refine ⟨tallied.nodesInOrder address, ?_⟩
      by_cases same : sessionH = address
      · subst same
        simp [isOpen] at before ⊢
        omega
      · simp [same] at before ⊢
        omega
  · rw [closed.absent isOpen]
    exact tallied

def Leaks (sessions : Sessions α κ) : Prop :=
  0 < sessions.client.trace.count (.createConnection sessions.client.param 0) ∨
    ∃ address, (sessions.client.texts address).isSome

theorem connect_leaks_iff (sessions after : Sessions α κ) (secObjInstID : BitVec 16) (answers : Answers α)
    (connected : Connected sessions secObjInstID answers after) :
    Leaks after ↔ Leaks sessions ∨ ¬ TakesNothing sessions.client.securityObj (.connect secObjInstID answers) := by
  have left : (∃ address, sessions.client.kept secObjInstID answers = some address) ↔
      sessions.client.copied secObjInstID answers ≠ none ∧ answers.freesUri = false := by
    unfold Client.kept
    cases answers.freesUri <;> simp [Option.ne_none_iff_exists']
  have taken : ¬ TakesNothing sessions.client.securityObj (.connect secObjInstID answers) ↔
      sessions.client.opensTransport secObjInstID answers ∨
        ∃ address, sessions.client.kept secObjInstID answers = some address := by
    rw [left]
    unfold TakesNothing Client.opensTransport Client.copied
    cases first : uriCopy sessions.client.securityObj secObjInstID answers.uri with
    | none => simp [first]
    | some uri =>
        simp only [first, ne_eq, reduceCtorEq, not_false_eq_true, true_and, false_or, Option.bind_some]
        rw [← Bool.not_eq_true, ← not_or]
        exact Decidable.not_and_iff_not_or_not.trans (or_congr_left Decidable.not_not)
  rw [taken]
  unfold Leaks
  rw [connect_created_iff sessions after secObjInstID answers connected]
  simp only [connected.texts, exists_or]
  exact or_or_or_comm

theorem leaks_after (sessions after : Sessions α κ) (call : Call α) (tallied : Tallied sessions) (fresh : Fresh sessions call)
    (taken : Sessions.step sessions call = some after) :
    Tallied after ∧ after.client.securityObj = sessions.client.securityObj ∧
      (Leaks after ↔ Leaks sessions ∨ ¬ TakesNothing sessions.client.securityObj call) := by
  cases call with
  | connect secObjInstID answers =>
      obtain ⟨_, ran, connected⟩ := connect_spec sessions secObjInstID answers tallied.listed fresh
      obtain rfl := Option.some.inj (ran.symm.trans taken)
      exact ⟨connect_tallied sessions _ secObjInstID answers tallied fresh connected, connected.securityObj,
        connect_leaks_iff sessions _ secObjInstID answers connected⟩
  | close sessionH =>
      obtain ⟨next, ran, closed⟩ := close_spec sessions sessionH tallied.listed
      obtain rfl := Option.some.inj (ran.symm.trans taken)
      refine ⟨close_tallied sessions next sessionH tallied closed, closed.securityObj, ?_⟩
      have same : Leaks next ↔ Leaks sessions := by
        by_cases isOpen : sessionH ∈ sessions.opened
        · simp [Leaks, closed.freed isOpen, closed.texts, closed.param]
        · rw [closed.absent isOpen]
      simpa [TakesNothing] using same

theorem leaks_run (calls : List (Call α)) (sessions final : Sessions α κ) (tallied : Tallied sessions)
    (ran : Base.run (Base.guarded Sessions.step Fresh) sessions calls = some final) :
    Tallied final ∧
      (Leaks final ↔ Leaks sessions ∨ ∃ call, call ∈ calls ∧ ¬ TakesNothing sessions.client.securityObj call) := by
  induction calls generalizing sessions with
  | nil =>
      obtain rfl : sessions = final := by simpa [Base.run] using ran
      exact ⟨tallied, by simp⟩
  | cons call rest ih =>
      obtain ⟨after, stepped, remaining⟩ := Option.bind_eq_some_iff.mp ran
      by_cases fresh : Fresh sessions call
      · have taken : Sessions.step sessions call = some after := by simpa [Base.guarded, fresh] using stepped
        obtain ⟨next, same, first⟩ := leaks_after sessions after call tallied fresh taken
        obtain ⟨last, later⟩ := ih after next remaining
        refine ⟨last, ?_⟩
        rw [later, first, same, or_assoc]
        simp
      · simp [Base.guarded, fresh] at stepped

theorem shutdown_balanced_iff (sessions : Sessions α κ) (closes : Nat) (tallied : Tallied sessions)
    (unused : sessions.opened = [] → closes = 0) :
    Balanced { sessions.client with
        trace := List.replicate closes (.closeConnection sessions.client.param) ++ sessions.client.trace } ↔
      ¬ Leaks sessions := by
  constructor
  · intro balanced
    have empty : sessions.opened = [] := by
      refine List.eq_nil_iff_forall_not_mem.mpr fun address member => ?_
      have settled := (balanced.nodes address).settled
      have held := tallied.nodes address
      simp [member, List.count_replicate] at settled held
      omega
    rintro (created | ⟨address, copied⟩)
    · have settled := balanced.transports.settled
      have unclosed := tallied.unclosed
      simp [unused empty] at settled
      omega
    · have settled := (balanced.uris address).settled
      have held := tallied.uris address
      simp [copied, List.count_replicate] at settled held
      omega
  · intro safe
    obtain ⟨uncreated, texts⟩ := not_or.mp safe
    have empty : sessions.opened = [] := by
      by_contra opened
      exact uncreated (tallied.created opened)
    rw [unused empty]
    have unclosed := tallied.unclosed
    refine ⟨⟨?_, ?_⟩, fun address => ⟨tallied.urisInOrder address, ?_⟩, fun address => ⟨tallied.nodesInOrder address, ?_⟩⟩
    · have kept := Base.in_order_unreleased (.createConnection sessions.client.param 0)
        (.closeConnection sessions.client.param) sessions.client.trace []
        (fun event member same => List.count_eq_zero.mp unclosed (same ▸ member)) trivial
      simpa using kept
    · simp only [List.replicate_zero, List.nil_append]
      omega
    · have held := tallied.uris address
      rw [if_neg fun copied => texts ⟨address, copied⟩] at held
      exact held
    · have held := tallied.nodes address
      simpa [empty] using held

theorem start_tallied (param : κ) (securityObj : List SecurityInstance) :
    Tallied (Sessions.start param securityObj : Sessions α κ) :=
  ⟨start_listed param securityObj, fun _ => rfl, fun _ => rfl, fun opened => absurd rfl opened, rfl, fun _ => trivial,
    fun _ => trivial⟩

theorem shutdown_balanced (param : κ) (securityObj : List SecurityInstance) (calls : List (Call α)) (sessions : Sessions α κ)
    (ran : Base.run (Base.guarded Sessions.step Fresh) (Sessions.start param securityObj) calls = some sessions) :
    ∃ final, sessions.client.connectionFree sessions.opened.length = some final ∧
      (Balanced final ↔ ∀ call, call ∈ calls → TakesNothing securityObj call) := by
  obtain ⟨tallied, leaks⟩ := leaks_run calls _ sessions (start_tallied param securityObj) ran
  obtain ⟨closes, freed, unused⟩ := connection_free_spec sessions tallied.listed
  refine ⟨_, freed, ?_⟩
  rw [shutdown_balanced_iff sessions closes tallied unused, leaks]
  simp [Leaks, Sessions.start]

-- The transport cannot be created, and there is no memory for a second copy.
def unreachable : List (Call Nat) :=
  [.connect 1 ⟨some 10, none, -1, false, none⟩, .connect 1 ⟨some 10, none, -1, false, none⟩]

theorem shutdown_balanced_unreachable : ∃ final,
    ((Base.run (Base.guarded Sessions.step Fresh) (Sessions.start () [⟨1, "coaps://lwm2m"⟩]) unreachable).bind
      fun sessions => sessions.client.connectionFree sessions.opened.length) = some final ∧ Balanced final := by
  obtain ⟨final, freed, balanced⟩ := shutdown_balanced () [⟨1, "coaps://lwm2m"⟩] unreachable _ rfl
  refine ⟨final, freed, balanced.mpr fun call member => ?_⟩
  obtain rfl : call = .connect 1 ⟨some 10, none, -1, false, none⟩ := by simpa [unreachable] using member
  exact Or.inr ⟨by decide, .inl rfl⟩

-- Two sessions are open at shutdown, and connection_free closes the first.
def twoServers : List (Call Nat) :=
  [.connect 1 ⟨some 10, some 11, 0, false, some 12⟩, .connect 1 ⟨some 20, some 21, 0, false, some 22⟩]

theorem shutdown_leaks : ¬ ∀ (securityObj : List SecurityInstance) (calls : List (Call Nat)) (sessions : Sessions Nat Unit),
    Base.run (Base.guarded Sessions.step Fresh) (Sessions.start () securityObj) calls = some sessions →
      ∃ final, sessions.client.connectionFree sessions.opened.length = some final ∧ Balanced final := by
  intro balances
  obtain ⟨final, freed, balanced⟩ := balances [⟨1, "coaps://lwm2m"⟩] twoServers _ rfl
  obtain rfl := Option.some.inj freed
  exact absurd balanced.transports.settled (by decide)

end Miso.Lwm2m
