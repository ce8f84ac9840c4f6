import Miso.Lwm2m

set_option autoImplicit false

namespace Miso.Lwm2m

open Base (Heap Chain Step Reach seek seek_last seek_parent seek_absent)

variable {α κ : Type} [DecidableEq α]

-- connList leads through the open sessions, oldest first, and no other session
-- is allocated.
structure Listed (sessions : Sessions α κ) : Prop where
  chain : Chain Connection.next sessions.client.nodes sessions.client.connList sessions.opened
  owned : ∀ address, (sessions.client.nodes address).map Connection.parent =
    if address ∈ sessions.opened then some sessions.client.param else none

theorem start_listed (param : κ) (securityObj : List SecurityInstance) :
    Listed (Sessions.start param securityObj : Sessions α κ) := ⟨.nil none, fun _ => rfl⟩

theorem connection_create_spec (client : Client α κ) (opened : List α) (ctx : κ) (fuel : Nat) (newConn : α)
    (chain : Chain Connection.next client.nodes client.connList opened) (unused : client.nodes newConn = none)
    (enough : opened.length ≤ fuel) :
    ∃ nodes, client.connectionCreate ctx fuel (some newConn) =
        some ({ client with nodes := nodes }.log (.mallocNode newConn), some newConn) ∧
      Chain Connection.next nodes (client.connList.or (some newConn)) (opened ++ [newConn]) ∧
      ∀ address, (nodes address).map Connection.parent =
        if address = newConn then some ctx else (client.nodes address).map Connection.parent := by
  obtain ⟨made, allocated⟩ : ∃ made, made = client.nodes.write newConn ⟨ctx, none⟩ := ⟨_, rfl⟩
  have madeOwned : ∀ address, (made address).map Connection.parent =
      if address = newConn then some ctx else (client.nodes address).map Connection.parent := by
    intro address
    by_cases same : address = newConn <;> simp [allocated, Heap.write, same]
  rcases List.eq_nil_or_concat opened with rfl | ⟨before, last, rfl⟩
  · have empty := Base.segment_nil _ _ chain
    refine ⟨made, by simp [Client.connectionCreate, empty, allocated, Client.log], ?_, madeOwned⟩
    rw [empty, allocated]
    exact .cons newConn ⟨ctx, none⟩ [] none (Heap.write_here _ newConn _) (.nil none)
  · rw [List.concat_eq_append] at chain enough ⊢
    have apart : ∀ address, address ∈ before ++ [last] → address ≠ newConn := by
      rintro address member rfl
      obtain ⟨cell, read⟩ := Base.segment_reads _ _ _ chain address member
      simp [unused] at read
    have kept : Chain Connection.next made client.connList (before ++ [last]) :=
      Base.segment_frame made _ _ _ (fun address member => allocated ▸ Heap.write_elsewhere _ _ _ _ (apart address member)) chain
    have room : before.length < fuel := by
      simp only [List.length_append, List.length_cons, List.length_nil] at enough
      omega
    have sought := seek_last before last client.connList fuel kept room
    obtain ⟨_, cell, read, ends⟩ := Base.segment_last before last client.connList none chain
    have reread : made last = some cell := allocated ▸ (Heap.write_elsewhere _ _ _ _ (apart last (by simp))).trans read
    obtain ⟨head, pointer⟩ : ∃ head, client.connList = some head := by
      cases empty : client.connList with
      | none =>
          rw [empty] at chain
          cases before <;> cases chain
      | some head => exact ⟨head, rfl⟩
    refine ⟨made.write last { cell with next := some newConn }, ?_, ?_, ?_⟩
    · rw [pointer] at sought
      simp [Client.connectionCreate, Client.log, pointer, ← allocated, sought, reread]
    · rw [pointer, allocated]
      exact Base.chain_link (some head) before last newConn { cell with next := some newConn } ⟨ctx, none⟩
        (pointer ▸ chain) unused rfl rfl
    · intro address
      by_cases same : address = last
      · rw [same, Heap.write_here, if_neg (apart last (by simp)), read]
        rfl
      · rw [Heap.write_elsewhere _ _ _ _ same, madeOwned]

def uriCopy (securityObj : List SecurityInstance) (secObjInstID : BitVec 16) (answer : Option α) : Option α :=
  (securityObj.find? fun instance_ => instance_.instanceId = secObjInstID).bind fun _ => answer

theorem get_server_uri_spec (client : Client α κ) (secObjInstID : BitVec 16) (answer : Option α) :
    ∃ texts, client.getServerUri secObjInstID answer =
        ({ client with
            texts := texts
            trace := (uriCopy client.securityObj secObjInstID answer).toList.map Event.strdup ++ client.trace },
          uriCopy client.securityObj secObjInstID answer) ∧
      ∀ address, (texts address).isSome ↔
        (client.texts address).isSome ∨ uriCopy client.securityObj secObjInstID answer = some address := by
  unfold Client.getServerUri uriCopy
  cases client.securityObj.find? fun instance_ => decide (instance_.instanceId = secObjInstID) with
  | none => exact ⟨client.texts, rfl, by simp⟩
  | some targetP =>
      cases answer with
      | none => exact ⟨client.texts, rfl, by simp⟩
      | some copy =>
          refine ⟨client.texts.write copy targetP.uri, rfl, fun address => ?_⟩
          by_cases same : address = copy
          · simp [same]
          · simp [Heap.write_elsewhere _ _ _ _ same, Ne.symm same]

def Client.session (client : Client α κ) (secObjInstID : BitVec 16) (answers : Answers α) : Option α :=
  (uriCopy client.securityObj secObjInstID answers.uri).bind fun _ => if answers.created = 0 then answers.node else none

-- The second copy, which only lwm2mservice_create_connection can free.
def Client.copied (client : Client α κ) (secObjInstID : BitVec 16) (answers : Answers α) : Option α :=
  (uriCopy client.securityObj secObjInstID answers.uri).bind fun _ =>
    uriCopy client.securityObj secObjInstID answers.uriAgain

def Client.handed (client : Client α κ) (secObjInstID : BitVec 16) (answers : Answers α) : Option α :=
  if answers.freesUri then client.copied secObjInstID answers else none

def Client.kept (client : Client α κ) (secObjInstID : BitVec 16) (answers : Answers α) : Option α :=
  if answers.freesUri then none else client.copied secObjInstID answers

def Client.connectEvents (client : Client α κ) (secObjInstID : BitVec 16) (answers : Answers α) : List (Event α κ) :=
  match uriCopy client.securityObj secObjInstID answers.uri with
  | none => []
  | some uri =>
      .freeUri uri :: (client.session secObjInstID answers).toList.map .mallocNode ++
        (client.handed secObjInstID answers).toList.map .freeUri ++
        .createConnection client.param answers.created :: (client.copied secObjInstID answers).toList.map .strdup ++
        [.strdup uri]

structure Connected (sessions : Sessions α κ) (secObjInstID : BitVec 16) (answers : Answers α)
    (after : Sessions α κ) : Prop where
  opened : after.opened = sessions.opened ++ (sessions.client.session secObjInstID answers).toList
  param : after.client.param = sessions.client.param
  securityObj : after.client.securityObj = sessions.client.securityObj
  trace : after.client.trace = sessions.client.connectEvents secObjInstID answers ++ sessions.client.trace
  texts : ∀ address, (after.client.texts address).isSome ↔
    (sessions.client.texts address).isSome ∨ sessions.client.kept secObjInstID answers = some address
  listed : Listed after

theorem created_spec (sessions : Sessions α κ) (created : Int) (node : Option α) (fuel : Nat) (listed : Listed sessions)
    (unused : ∀ newConn, node = some newConn → sessions.client.nodes newConn = none)
    (enough : sessions.opened.length ≤ fuel) :
    ∃ nodes, (if created = 0 then sessions.client.connectionCreate sessions.client.param fuel node
          else some (sessions.client, none)) =
        some ({ sessions.client with
            nodes := nodes
            trace := (if created = 0 then node else none).toList.map Event.mallocNode ++ sessions.client.trace },
          if created = 0 then node else none) ∧
      Listed ⟨{ sessions.client with
          nodes := nodes
          connList := sessions.client.connList.or (if created = 0 then node else none) },
        sessions.opened ++ (if created = 0 then node else none).toList⟩ := by
  by_cases succeeded : created = 0
  · rw [if_pos succeeded, if_pos succeeded]
    cases node with
    | none => exact ⟨sessions.client.nodes, rfl, by simpa using listed⟩
    | some newConn =>
        obtain ⟨nodes, ran, chain, owned⟩ := connection_create_spec sessions.client sessions.opened sessions.client.param fuel
          newConn listed.chain (unused newConn rfl) enough
        refine ⟨nodes, ran, chain, fun address => ?_⟩
        rw [owned, listed.owned]
        by_cases same : address = newConn <;> simp [same]
  · rw [if_neg succeeded, if_neg succeeded]
    exact ⟨sessions.client.nodes, rfl, by simpa using listed⟩

theorem listed_frame (first second : Client α κ) (opened : List α) (nodes : second.nodes = first.nodes)
    (connList : second.connList = first.connList) (param : second.param = first.param) (listed : Listed ⟨first, opened⟩) :
    Listed ⟨second, opened⟩ := by
  refine ⟨?_, ?_⟩
  · simpa only [nodes, connList] using listed.chain
  · simpa only [nodes, param] using listed.owned

theorem connect_server_run (client first second made : Client α κ) (secObjInstID : BitVec 16) (answers : Answers α)
    (fuel : Nat) (uri : α) (copy newConnP : Option α) (looked : client.getServerUri secObjInstID answers.uri = (first, some uri))
    (again : first.getServerUri secObjInstID answers.uriAgain = (second, copy))
    (created : (if answers.created = 0 then
        (second.createConnection answers copy).connectionCreate (second.createConnection answers copy).param fuel answers.node
      else some (second.createConnection answers copy, none)) = some (made, newConnP)) :
    client.connectServer secObjInstID answers fuel =
      some ({ made with connList := made.connList.or newConnP }.freeUri uri, newConnP) := by
  have head : (if made.connList.isNone then { made with connList := newConnP } else made) =
      { made with connList := made.connList.or newConnP } := by
    cases made
    rename_i connList _ _
    cases connList <;> rfl
  simp only [Client.connectServer, looked, again, ← head]
  by_cases succeeded : answers.created = 0
  · rw [if_pos succeeded] at created
    rw [if_pos succeeded]
    exact congrArg (fun ran => Option.bind ran _) created
  · rw [if_neg succeeded] at created
    rw [if_neg succeeded]
    exact congrArg (fun ran => Option.bind ran _) created

theorem create_connection (client : Client α κ) (answers : Answers α) (uri : Option α) :
    ∃ texts, client.createConnection answers uri =
        { client with
          texts := texts
          trace := (if answers.freesUri then uri else none).toList.map Event.freeUri ++
            .createConnection client.param answers.created :: client.trace } ∧
      ∀ address, (texts address).isSome ↔
        (client.texts address).isSome ∧ (if answers.freesUri then uri else none) ≠ some address := by
  unfold Client.createConnection
  cases answers.freesUri with
  | false => exact ⟨client.texts, rfl, by simp⟩
  | true =>
      cases uri with
      | none => exact ⟨client.texts, rfl, by simp⟩
      | some copy =>
          refine ⟨client.texts.free copy, rfl, fun address => ?_⟩
          by_cases same : address = copy
          · simp [same]
          · simp [Heap.free_elsewhere _ _ _ same, Ne.symm same]

-- The first copy is freed, and the second where it is handed over.
theorem texts_after (texts found later told : Heap α String) (uri : α) (copy handed : Option α) (unused : texts uri = none)
    (unusedCopy : ∀ address, copy = some address → texts address = none) (apart : copy ≠ some uri)
    (given : handed = copy ∨ handed = none)
    (shows : ∀ address, (found address).isSome ↔ (texts address).isSome ∨ some uri = some address)
    (showsAgain : ∀ address, (later address).isSome ↔ (found address).isSome ∨ copy = some address)
    (shown : ∀ address, (told address).isSome ↔ (later address).isSome ∧ handed ≠ some address) (address : α) :
    (told.free uri address).isSome ↔ (texts address).isSome ∨ (copy = some address ∧ handed = none) := by
  by_cases same : address = uri
  · simp [same, unused, apart]
  · rw [Heap.free_elsewhere _ _ _ same, shown, showsAgain, shows]
    rcases given with rfl | rfl
    · by_cases here : handed = some address
      · simp [here, unusedCopy address here]
      · simp [here, Ne.symm same]
    · simp [Ne.symm same]

theorem connect_spec (sessions : Sessions α κ) (secObjInstID : BitVec 16) (answers : Answers α)
    (listed : Listed sessions) (fresh : Fresh sessions (.connect secObjInstID answers)) :
    ∃ after, Sessions.step sessions (.connect secObjInstID answers) = some after ∧
      Connected sessions secObjInstID answers after := by
  obtain ⟨texts, looked, shows⟩ := get_server_uri_spec sessions.client secObjInstID answers.uri
  cases first : uriCopy sessions.client.securityObj secObjInstID answers.uri with
  | none =>
      rw [first] at looked shows
      refine ⟨_, by simp only [Sessions.step, Client.connectServer, looked, Option.map_some]; rfl, ?_⟩
      have session : sessions.client.session secObjInstID answers = none := by simp [Client.session, first]
      have kept : sessions.client.kept secObjInstID answers = none := by simp [Client.kept, Client.copied, first]
      refine ⟨by rw [session], rfl, rfl, by simp [Client.connectEvents, first], fun address => ?_, ?_⟩
      · rw [kept]
        exact shows address
      · rw [Option.toList_none, List.append_nil]
        exact listed_frame sessions.client _ sessions.opened rfl rfl rfl listed
  | some uri =>
      rw [first] at looked shows
      have session : sessions.client.session secObjInstID answers = if answers.created = 0 then answers.node else none := by
        simp [Client.session, first]
      obtain ⟨distinct, unused⟩ := fresh
      have given : answers.uri = some uri := by
        obtain ⟨_, _, same⟩ := Option.bind_eq_some_iff.mp first
        exact same
      let found : Client α κ :=
        { sessions.client with texts := texts, trace := Event.strdup uri :: sessions.client.trace }
      obtain ⟨later, again, showsAgain⟩ := get_server_uri_spec found secObjInstID answers.uriAgain
      let copied : Client α κ :=
        { found with
          texts := later
          trace := (uriCopy found.securityObj secObjInstID answers.uriAgain).toList.map Event.strdup ++ found.trace }
      obtain ⟨left, told, shown⟩ := create_connection copied answers (uriCopy found.securityObj secObjInstID answers.uriAgain)
      obtain ⟨nodes, created, relisted⟩ := created_spec ⟨_, sessions.opened⟩ answers.created answers.node sessions.opened.length
        (listed_frame sessions.client (copied.createConnection answers _) sessions.opened (by rw [told]) (by rw [told])
          (by rw [told]) listed)
        (fun newConn node => by
          rw [told]
          exact Option.isNone_iff_eq_none.mp (unused newConn (by simp [Answers.allocated, node])).1)
        (Nat.le_refl _)
      have ran := connect_server_run _ _ _ _ secObjInstID answers _ uri _ _ looked again created
      rw [told] at ran relisted
      refine ⟨_, by
        rw [Sessions.step, ran]
        rfl, ?_⟩
      refine ⟨by rw [session], rfl, rfl, ?_, fun address => ?_, ?_⟩
      · simp [Client.connectEvents, first, session, Client.handed, Client.copied, Client.freeUri, Client.log, copied, found]
      · have kept : sessions.client.kept secObjInstID answers = some address ↔
            uriCopy sessions.client.securityObj secObjInstID answers.uriAgain = some address ∧
              (if answers.freesUri then uriCopy found.securityObj secObjInstID answers.uriAgain else none) = none := by
          unfold Client.kept Client.copied
          cases answers.freesUri <;> simp [first, found]
          grind
        rw [kept]
        refine texts_after _ texts later left uri _ _ ?_ ?_ ?_ ?_ shows showsAgain shown address
        · exact Option.isNone_iff_eq_none.mp (unused uri (by simp [Answers.allocated, given])).2
        · intro copy again
          obtain ⟨_, _, same⟩ := Option.bind_eq_some_iff.mp again
          exact Option.isNone_iff_eq_none.mp (unused copy (by simp [Answers.allocated, same])).2
        · intro again
          obtain ⟨_, _, same⟩ := Option.bind_eq_some_iff.mp again
          simp [Answers.allocated, given, same] at distinct
        · cases answers.freesUri
          · exact .inr rfl
          · exact .inl rfl
      · exact ⟨relisted.chain, relisted.owned⟩

structure Closed (sessions : Sessions α κ) (sessionH : α) (after : Sessions α κ) : Prop where
  opened : after.opened = sessions.opened.erase sessionH
  param : after.client.param = sessions.client.param
  securityObj : after.client.securityObj = sessions.client.securityObj
  texts : after.client.texts = sessions.client.texts
  freed : sessionH ∈ sessions.opened → after.client.trace = .freeNode sessionH :: sessions.client.trace
  absent : sessionH ∉ sessions.opened → after = sessions
  listed : Listed after

theorem owned_freed (sessions : Sessions α κ) (sessionH : α) (nodes : Heap α (Connection α κ)) (listed : Listed sessions)
    (freed : ∀ address, (nodes address).map Connection.parent =
      if address = sessionH then none else (sessions.client.nodes address).map Connection.parent) (address : α) :
    (nodes address).map Connection.parent =
      if address ∈ sessions.opened.erase sessionH then some sessions.client.param else none := by
  rw [freed, listed.owned]
  by_cases same : address = sessionH <;> simp [(Base.chain_nodup _ _ listed.chain).mem_erase_iff, same]

theorem head_erased (before after : List α) (sessionH : α) (distinct : (before ++ sessionH :: after).Nodup) :
    (before ++ sessionH :: after).erase sessionH = before ++ after := by
  rw [List.nodup_append] at distinct
  rw [List.erase_append_right _ fun member => distinct.2.2 sessionH member sessionH List.mem_cons_self rfl,
    List.erase_cons_head]

theorem close_head (sessions : Sessions α κ) (sessionH : α) (later : List α) (target : Connection α κ) (listed : Listed sessions)
    (whole : sessions.opened = sessionH :: later) (read : sessions.client.nodes sessionH = some target) :
    ∃ after, Sessions.step sessions (.close sessionH) = some after ∧ Closed sessions sessionH after := by
  have isOpen : sessionH ∈ sessions.opened := by simp [whole]
  have chain := listed.chain
  rw [whole] at chain
  have head := Base.segment_head _ _ sessionH later chain
  refine ⟨⟨{ sessions.client with connList := target.next }.freeNode sessionH, sessions.opened.erase sessionH⟩, ?_, ?_⟩
  · simp [Sessions.step, Client.closeConnection, head, read]
  · refine ⟨rfl, rfl, rfl, rfl, fun _ => rfl, fun absent => absurd isOpen absent, ?_, ?_⟩
    · rw [whole, List.erase_cons_head]
      exact Base.chain_behead _ sessionH later target chain read
    · refine owned_freed sessions sessionH _ listed fun address => ?_
      by_cases same : address = sessionH <;> simp [Client.freeNode, Client.log, Heap.free, same]

theorem close_behind (sessions : Sessions α κ) (sessionH parentP : α) (first later : List α) (target : Connection α κ)
    (listed : Listed sessions) (whole : sessions.opened = first ++ [parentP] ++ sessionH :: later)
    (read : sessions.client.nodes sessionH = some target) :
    ∃ after, Sessions.step sessions (.close sessionH) = some after ∧ Closed sessions sessionH after := by
  have isOpen : sessionH ∈ sessions.opened := by simp [whole]
  have distinct := Base.chain_nodup _ _ listed.chain
  have chain := listed.chain
  rw [whole] at chain distinct
  have erased : sessions.opened.erase sessionH = first ++ [parentP] ++ later := by
    rw [whole, head_erased _ later sessionH distinct]
  have notHead : sessions.client.connList ≠ some sessionH := by
    intro head
    rw [head] at chain
    cases first with
    | nil => cases chain; simp at distinct
    | cons _ _ => cases chain; simp at distinct
  obtain ⟨parent, readParent⟩ := Base.segment_reads _ _ _ chain parentP (by simp)
  have apart : parentP ≠ sessionH := by
    rintro rfl
    simp [List.nodup_append] at distinct
  have short : first.length < sessions.opened.length := by simp [whole]
  have sought := seek_parent first later parentP sessionH _ _ chain short
  refine ⟨⟨{ sessions.client with
      nodes := sessions.client.nodes.write parentP { parent with next := target.next } }.freeNode sessionH,
    sessions.opened.erase sessionH⟩, ?_, ?_⟩
  · simp only [Sessions.step, Client.closeConnection, if_neg notHead, sought]
    simp [readParent, read]
  · refine ⟨rfl, rfl, rfl, rfl, fun _ => rfl, fun absent => absurd isOpen absent, ?_, ?_⟩
    · rw [erased]
      exact Base.chain_unlink _ first later parentP sessionH target _ chain read rfl
    · refine owned_freed sessions sessionH _ listed fun address => ?_
      by_cases same : address = sessionH
      · simp [Client.freeNode, Client.log, same]
      · by_cases parentSame : address = parentP
        · simp [Client.freeNode, Client.log, Heap.free, parentSame, apart, readParent]
        · simp [Client.freeNode, Client.log, Heap.free, Heap.write, same, parentSame]

theorem close_absent (sessions : Sessions α κ) (sessionH : α) (listed : Listed sessions) (isClosed : sessionH ∉ sessions.opened) :
    ∃ after, Sessions.step sessions (.close sessionH) = some after ∧ Closed sessions sessionH after := by
  have chain := listed.chain
  have notHead : sessions.client.connList ≠ some sessionH := by
    intro head
    rw [head] at chain
    generalize sessions.opened = nodes at chain isClosed
    cases chain
    simp at isClosed
  have sought := seek_absent sessions.opened sessionH _ _ listed.chain isClosed (Nat.le_refl _)
  have same := List.erase_of_not_mem isClosed
  refine ⟨sessions, ?_, ⟨same.symm, rfl, rfl, rfl, fun member => absurd member isClosed, fun _ => rfl, listed⟩⟩
  simp only [Sessions.step, Client.closeConnection, if_neg notHead, sought]
  simp [same]

theorem close_spec (sessions : Sessions α κ) (sessionH : α) (listed : Listed sessions) :
    ∃ after, Sessions.step sessions (.close sessionH) = some after ∧ Closed sessions sessionH after := by
  by_cases isOpen : sessionH ∈ sessions.opened
  · obtain ⟨before, later, whole⟩ := List.append_of_mem isOpen
    obtain ⟨target, read⟩ := Base.segment_reads _ _ _ listed.chain sessionH isOpen
    rcases List.eq_nil_or_concat before with rfl | ⟨first, parentP, rfl⟩
    · exact close_head sessions sessionH later target listed whole read
    · rw [List.concat_eq_append] at whole
      exact close_behind sessions sessionH parentP first later target listed whole read
  · exact close_absent sessions sessionH listed isOpen

theorem step_listed (sessions : Sessions α κ) (call : Call α) (after : Sessions α κ) (listed : Listed sessions)
    (fresh : Fresh sessions call) (taken : Sessions.step sessions call = some after) : Listed after := by
  cases call with
  | connect secObjInstID answers =>
      obtain ⟨_, ran, connected⟩ := connect_spec sessions secObjInstID answers listed fresh
      obtain rfl := Option.some.inj (ran.symm.trans taken)
      exact connected.listed
  | close sessionH =>
      obtain ⟨_, ran, closed⟩ := close_spec sessions sessionH listed
      obtain rfl := Option.some.inj (ran.symm.trans taken)
      exact closed.listed

-- What the next call does, whatever it is: it ends, it opens at most the
-- session it returns, and it closes exactly the one it is given.
def Serves (sessions : Sessions α κ) (call : Call α) : Prop :=
  ∃ after, Sessions.step sessions call = some after ∧ match call with
    | .connect secObjInstID answers => Connected sessions secObjInstID answers after
    | .close sessionH => Closed sessions sessionH after

theorem sessions_listed (param : κ) (securityObj : List SecurityInstance) (sessions : Sessions α κ)
    (reached : Reach Sessions.step Fresh (Sessions.start param securityObj) sessions) :
    Listed sessions ∧ sessions.opened.Nodup ∧ ∀ call, Fresh sessions call → Serves sessions call := by
  have listed := Base.reach_invariant Sessions.step Fresh (Sessions.start param securityObj) Listed
    (start_listed param securityObj)
    (fun state call after inv fresh taken => step_listed state call after inv fresh taken) sessions reached
  refine ⟨listed, Base.chain_nodup _ _ listed.chain, fun call fresh => ?_⟩
  cases call with
  | connect secObjInstID answers => exact connect_spec sessions secObjInstID answers listed fresh
  | close sessionH => exact close_spec sessions sessionH listed

-- Three connects, the second without a transport, then a close of the first
-- session.
def reconnecting : List (Call Nat) :=
  [.connect 1 ⟨some 10, some 11, 0, false, some 12⟩, .connect 1 ⟨some 20, none, -1, false, none⟩,
    .connect 1 ⟨some 30, some 31, 0, false, some 32⟩, .close 12]

def reconnected : Sessions Nat Unit :=
  (Base.run (Base.guarded Sessions.step Fresh) (Sessions.start () [⟨1, "coaps://lwm2m"⟩]) reconnecting).getD
    (Sessions.start () [])

theorem sessions_listed_reconnected : reconnected.opened = [32] ∧ Listed reconnected :=
  ⟨rfl, (sessions_listed () [⟨1, "coaps://lwm2m"⟩] reconnected (Base.guarded_run_reach _ _ _ _ reconnecting rfl)).1⟩

end Miso.Lwm2m
