import Miso.MediatorProtocol
import Miso.MediatorWait
import Miso.MediatorSleep

set_option autoImplicit false

namespace Miso.Mediator

open Base (Queue Reach)

-- What the slot that carries a socket holds in each phase of its wait.
def Holds (phase : Phase) (conn : ConnectionManagerElement) : Prop :=
  match phase with
  | .quiet | .answered _ _ => conn.rxQueue.items = [] ∧ conn.rxWaitDeadlineMs = 0
  | .queued deadline =>
      deadline ≠ 0 ∧ conn.rxQueue.items = [⟨deadline⟩] ∧ conn.rxWaitDeadlineMs = 0 ∧ conn.rxSignal.items = []
  | .armed deadline _ =>
      deadline ≠ 0 ∧ conn.rxQueue.items = [] ∧ conn.rxWaitDeadlineMs = deadline ∧ conn.rxSignal.items = []

section

variable {ι : Type}

def Outside (position : Client) : Prop := position = .idle ∨ ∃ ready, position = .returned ready

-- Where the task of a socket is in each phase. An undisturbed answer is the
-- only one its slot can hold.
def At (sd : ι → Int) (state : State ι) (client : ι) (phase : Phase) : Prop :=
  match phase with
  | .quiet => Outside (state.clients client)
  | .queued _ | .armed _ _ =>
      ∃ slot msg, (state.clients client).waiting = some (slot, msg) ∧ (state.connections slot).sd = sd client
  | .answered ready undisturbed =>
      ∃ slot msg, (state.clients client).waiting = some (slot, msg) ∧
        (undisturbed = true → ((state.connections slot).sd = sd client ∨ (state.connections slot).sd < 0) ∧
          ∀ answer, answer ∈ (state.connections slot).rxSignal.items → (answer.timeout == 1) = ready)

structure Kept (sd : ι → Int) (state : State ι) (ledger : Ledger) : Prop where
  clean : ∀ slot, (state.connections slot).sd < 0 → Clean (state.connections slot)
  owned : ∀ slot, 0 ≤ (state.connections slot).sd → ∃ client, (state.connections slot).sd = sd client
  apart : ∀ slot other, 0 ≤ (state.connections slot).sd →
    (state.connections slot).sd = (state.connections other).sd → slot = other
  holds : ∀ slot client, (state.connections slot).sd = sd client → Holds (ledger.phase (sd client)) (state.connections slot)
  home : ∀ client, At sd state client (ledger.phase (sd client))

-- The sockets in the read set while the first loop runs: armed, and behind
-- the slot it is at.
def Watched (sd : ι → Int) (state : State ι) (ledger : Ledger) (limit : Nat) : Prop :=
  ∀ client, fdIsset (sd client) state.pass.readFdSet = 1 →
    (∃ slot : SlotId, (state.connections slot).sd = sd client ∧ slot.val < limit) ∧
      ∃ deadline, ledger.phase (sd client) = .armed deadline false

def Unreported (sd : ι → Int) (ledger : Ledger) : Prop :=
  ∀ client deadline, ledger.phase (sd client) ≠ .armed deadline true

-- The sockets in the read set while the second loop runs: a reported request
-- is still to be answered exactly when its slot lies ahead.
def Scanned (sd : ι → Int) (state : State ι) (ledger : Ledger) (limit : Nat) : Prop :=
  (∀ client, fdIsset (sd client) state.pass.readFdSet = 1 → ∃ slot : SlotId, (state.connections slot).sd = sd client ∧
    (limit ≤ slot.val → ∃ deadline, ledger.phase (sd client) = .armed deadline true)) ∧
  ∀ client deadline, ledger.phase (sd client) = .armed deadline true →
    fdIsset (sd client) state.pass.readFdSet = 1 ∧
      ∀ slot : SlotId, (state.connections slot).sd = sd client → limit ≤ slot.val

def View (sd : ι → Int) (state : State ι) (ledger : Ledger) : Prop :=
  match state.manager with
  | .check slot => Unreported sd ledger ∧ Watched sd state ledger slot.val
  | .select => Unreported sd ledger ∧ Watched sd state ledger 4
  | .scan slot => Scanned sd state ledger slot.val
  | .top | .delay | .waitForNotify => Unreported sd ledger
  | _ => False

structure Answering (sd : ι → Int) (clocked : Clocked ι) (ledger : Ledger) : Prop where
  kept : Kept sd clocked.state ledger
  view : View sd clocked.state ledger
  clock : ledger.now = clocked.now
  past : clocked.state.pass.currentTime ≤ clocked.now

theorem initial_answering (sd : ι → Int) :
    Answering sd .initial .initial where
  kept := {
    clean := by simp [Clocked.initial, initial, ConnectionManagerElement.init, Clean]
    owned := by simp [Clocked.initial, initial, ConnectionManagerElement.init]
    apart := by simp [Clocked.initial, initial, ConnectionManagerElement.init]
    holds := by simp [Clocked.initial, initial, ConnectionManagerElement.init, Ledger.initial, Holds]
    home := fun _ => .inl rfl }
  view := by simp [Clocked.initial, initial, View, Unreported, Ledger.initial]
  clock := rfl
  past := Nat.le_refl 0

theorem holds_idle (phase : Phase) (conn : ConnectionManagerElement) (idle : phase.pending = false) :
    Holds phase conn ↔ Clean conn := by
  cases phase with
  | quiet | answered _ _ => exact Iff.rfl
  | queued _ | armed _ _ => cases idle

theorem holds_disturbed (phase : Phase) (conn : ConnectionManagerElement) : Holds phase.disturbed conn ↔ Holds phase conn := by
  cases phase <;> exact Iff.rfl

theorem at_disturbed (sd : ι → Int) (state : State ι) (client : ι) (phase : Phase) (home : At sd state client phase) :
    At sd state client phase.disturbed := by
  cases phase with
  | quiet | queued _ | armed _ _ => exact home
  | answered ready undisturbed =>
      obtain ⟨slot, msg, waits, _⟩ := home
      exact ⟨slot, msg, waits, fun absurd => by cases absurd⟩

theorem kept_disturbed (sd : ι → Int) (state : State ι) (ledger : Ledger) (inv : Kept sd state ledger) :
    Kept sd state ledger.disturb where
  clean := inv.clean
  owned := inv.owned
  apart := inv.apart
  holds := fun slot client carried => (holds_disturbed _ _).mpr (inv.holds slot client carried)
  home := fun client => at_disturbed sd state client _ (inv.home client)

-- The change of one slot leaves the other tasks where they are: their own
-- slots are other ones.
theorem at_elsewhere (sd : ι → Int) (state after : State ι) (other : ι) (slot : SlotId) (conn : ConnectionManagerElement)
    (phase : Phase) (stays : after.clients other = state.clients other)
    (connections : after.connections = (state.setConnection slot conn).connections)
    (foreign : (state.connections slot).sd ≠ sd other)
    (claimed : (state.connections slot).sd < 0 → ∀ ready, phase ≠ .answered ready true)
    (home : At sd state other phase) : At sd after other phase := by
  have kept : ∀ place, place ≠ slot → after.connections place = state.connections place := by
    intro place different
    rw [connections, set_connection_elsewhere state slot place conn different]
  cases phase with
  | quiet => simpa [At, stays] using home
  | queued _ | armed _ _ =>
      obtain ⟨place, msg, waits, carried⟩ := home
      have different : place ≠ slot := fun same => foreign (same ▸ carried)
      exact ⟨place, msg, by rw [stays]; exact waits, by rw [kept place different]; exact carried⟩
  | answered ready undisturbed =>
      obtain ⟨place, msg, waits, only⟩ := home
      refine ⟨place, msg, by rw [stays]; exact waits, fun fresh => ?_⟩
      have different : place ≠ slot := by
        rintro rfl
        rcases (only fresh).1 with own | free
        · exact foreign own
        · exact claimed free ready (by rw [fresh])
      rw [kept place different]
      exact only fresh

theorem kept_settle (sd : ι → Int) (nonneg : ∀ client, 0 ≤ sd client) (distinct : Function.Injective sd)
    (state after : State ι) (ledger : Ledger) (client : ι) (slot : SlotId) (conn : ConnectionManagerElement) (phase : Phase)
    (inv : Kept sd state ledger)
    (stays : ∀ other, other ≠ client → after.clients other = state.clients other)
    (connections : after.connections = (state.setConnection slot conn).connections)
    (mine : (state.connections slot).sd = sd client ∨ (state.connections slot).sd < 0 ∧
      (∀ other, (state.connections other).sd ≠ sd client) ∧ ∀ other ready, ledger.phase (sd other) ≠ .answered ready true)
    (carries : conn.sd = sd client ∧ Holds phase conn ∨ conn.sd < 0 ∧ Clean conn)
    (home : At sd after client phase) : Kept sd after (ledger.set (sd client) phase) := by
  have here : after.connections slot = conn := by rw [connections, set_connection_here]
  have kept : ∀ other, other ≠ slot → after.connections other = state.connections other := by
    intro other different
    rw [connections, set_connection_elsewhere state slot other conn different]
  have alone : ∀ other, other ≠ slot → (state.connections other).sd ≠ sd client := by
    intro other different carried
    have bound := nonneg client
    rcases mine with own | ⟨_, none, _⟩
    · exact different (inv.apart other slot (by omega) (carried.trans own.symm))
    · exact none other carried
  refine ⟨?_, ?_, ?_, ?_, ?_⟩
  · intro other free
    by_cases same : other = slot
    · rw [same, here] at free ⊢
      rcases carries with ⟨own, _⟩ | ⟨_, clean⟩
      · have bound := nonneg client
        omega
      · exact clean
    · rw [kept other same] at free ⊢
      exact inv.clean other free
  · intro other used
    by_cases same : other = slot
    · rw [same, here] at used ⊢
      rcases carries with ⟨own, _⟩ | ⟨free, _⟩
      · exact ⟨client, own⟩
      · omega
    · rw [kept other same] at used ⊢
      exact inv.owned other used
  · intro left right used equal
    by_cases first : left = slot
    · by_cases second : right = slot
      · rw [first, second]
      · rw [first, here] at used equal
        rw [kept right second] at equal
        rcases carries with ⟨own, _⟩ | ⟨free, _⟩
        · exact absurd (equal.symm.trans own) (alone right second)
        · omega
    · rw [kept left first] at used equal
      by_cases second : right = slot
      · rw [second, here] at equal
        rcases carries with ⟨own, _⟩ | ⟨free, _⟩
        · exact absurd (equal.trans own) (alone left first)
        · omega
      · rw [kept right second] at equal
        exact inv.apart left right used equal
  · intro other owner carried
    by_cases same : other = slot
    · rw [same, here] at carried ⊢
      rcases carries with ⟨own, holds⟩ | ⟨free, _⟩
      · rw [distinct (carried.symm.trans own), set_phase_here]
        exact holds
      · have bound := nonneg owner
        omega
    · rw [kept other same] at carried ⊢
      have different : sd owner ≠ sd client := fun equal => alone other same (carried.trans equal)
      rw [set_phase_elsewhere ledger _ _ phase different]
      exact inv.holds other owner carried
  · intro other
    by_cases same : other = client
    · rw [same, set_phase_here]
      exact home
    · have different : sd other ≠ sd client := fun equal => same (distinct equal)
      rw [set_phase_elsewhere ledger _ _ phase different]
      refine at_elsewhere sd state after other slot conn _ (stays other same) connections ?_ ?_ (inv.home other)
      · intro carried
        rcases mine with own | ⟨free, _, _⟩
        · exact different (carried.symm.trans own)
        · have bound := nonneg other
          omega
      · intro free ready
        rcases mine with own | ⟨_, _, none⟩
        · have bound := nonneg client
          omega
        · exact none other ready

theorem view_frame (sd : ι → Int) (state after : State ι) (ledger next : Ledger)
    (manager : after.manager = state.manager) (pass : after.pass = state.pass)
    (armed : ∀ client deadline reported,
      next.phase (sd client) = .armed deadline reported ↔ ledger.phase (sd client) = .armed deadline reported)
    (persists : ∀ slot client, (state.connections slot).sd = sd client → (after.connections slot).sd = sd client)
    (arose : ∀ slot client deadline reported, ledger.phase (sd client) = .armed deadline reported →
      (after.connections slot).sd = sd client → (state.connections slot).sd = sd client)
    (view : View sd state ledger) : View sd after next := by
  have unreported (none : Unreported sd ledger) : Unreported sd next :=
    fun client deadline reported => none client deadline ((armed client deadline true).mp reported)
  have watched (limit : Nat) (watch : Watched sd state ledger limit) : Watched sd after next limit := by
    intro client set
    rw [pass] at set
    obtain ⟨⟨slot, carried, before⟩, deadline, phase⟩ := watch client set
    exact ⟨⟨slot, persists slot client carried, before⟩, deadline, (armed client deadline false).mpr phase⟩
  unfold View at view ⊢
  rw [manager]
  split at view
  · exact ⟨unreported view.1, watched _ view.2⟩
  · exact ⟨unreported view.1, watched _ view.2⟩
  · obtain ⟨ahead, reported⟩ := view
    refine ⟨fun client set => ?_, fun client deadline phase => ?_⟩
    · rw [pass] at set
      obtain ⟨slot, carried, later⟩ := ahead client set
      refine ⟨slot, persists slot client carried, fun limit => ?_⟩
      obtain ⟨deadline, phase⟩ := later limit
      exact ⟨deadline, (armed client deadline true).mpr phase⟩
    · have before := (armed client deadline true).mp phase
      rw [pass]
      exact ⟨(reported client deadline before).1,
        fun slot carried => (reported client deadline before).2 slot (arose slot client deadline true before carried)⟩
  · exact unreported view
  · exact unreported view
  · exact unreported view
  · exact view.elim

theorem home_outside (sd : ι → Int) (state : State ι) (client : ι) (phase : Phase) (outside : Outside (state.clients client))
    (home : At sd state client phase) : phase = .quiet := by
  have nowhere : (state.clients client).waiting = none := by
    rcases outside with position | ⟨ready, position⟩ <;> rw [position] <;> rfl
  cases phase with
  | quiet => rfl
  | queued _ | armed _ _ | answered _ _ =>
      obtain ⟨slot, msg, waits, _⟩ := home
      rw [nowhere] at waits
      cases waits

theorem pool_full (sd : ι → Int) [Fintype ι] (few : Fintype.card ι ≤ 4) (state : State ι) (ledger : Ledger) (client : ι)
    (inv : Kept sd state ledger) (full : ∀ slot, 0 ≤ (state.connections slot).sd) :
    ∃ slot, (state.connections slot).sd = sd client := by
  choose owner owns using fun slot => inv.owned slot (full slot)
  have apart : Function.Injective owner := by
    intro slot other same
    exact inv.apart slot other (full slot) (by rw [owns slot, owns other, same])
  obtain ⟨slot, rfl⟩ := tenants_surjective few owner apart client
  exact ⟨slot, owns slot⟩

theorem place_shown [DecidableEq ι] (sd : ι → Int) (state : State ι) (client : ι) (msg : TimeoutMsg) (slot : SlotId)
    (conn : ConnectionManagerElement) (room : (state.connections slot).rxQueue.items = []) (carries : conn.sd = sd client)
    (queue : conn.rxQueue.items = [msg]) :
    requestSent state ((state.setConnection slot conn).setClient client (.notify slot msg)) (sd client) msg = true := by
  refine List.any_eq_true.mpr ⟨slot, slots_all slot, ?_⟩
  simp [set_connection_here, carries, room, queue]

-- A submission empties the answers of its slot and adds a request: no answer
-- is sent, no request taken.
theorem place_silent [DecidableEq ι] (state : State ι) (client : ι) (msg : TimeoutMsg) (slot : SlotId)
    (conn : ConnectionManagerElement) (nonneg : 0 ≤ conn.sd) (room : (state.connections slot).rxQueue.items = [])
    (signal : conn.rxSignal.items = []) :
    slotsShown state (.submit client msg) ((state.setConnection slot conn).setClient client (.notify slot msg)) = [] := by
  have used : ¬ conn.sd < 0 := by omega
  have elsewhere (other : SlotId) (different : other ≠ slot) : visits state other (.submit client msg) = false ∧
      ((state.setConnection slot conn).setClient client (.notify slot msg)).connections other = state.connections other :=
    ⟨rfl, set_connection_elsewhere state slot other conn different⟩
  rw [slots_shown_at _ _ _ slot elsewhere]
  simp [slotShown, takenShown, respondedShown, stayedShown, visits, set_connection_here, room, signal, used]

theorem submit_kept [DecidableEq ι] (sd : ι → Int) (nonneg : ∀ client, 0 ≤ sd client) (distinct : Function.Injective sd)
    (state : State ι) (ledger : Ledger) (client : ι) (msg : TimeoutMsg) (slot : SlotId) (conn : ConnectionManagerElement)
    (inv : Kept sd state ledger) (quiet : ledger.phase (sd client) = .quiet) (nonzero : msg.deadline ≠ 0)
    (mine : (state.connections slot).sd = sd client ∨
      ((state.connections slot).sd < 0 ∧ ∀ other, (state.connections other).sd ≠ sd client))
    (carries : conn.sd = sd client) (deadline : conn.rxWaitDeadlineMs = (state.connections slot).rxWaitDeadlineMs)
    (signal : conn.rxSignal.items = []) (queue : conn.rxQueue.items = [msg]) :
    Kept sd ((state.setConnection slot conn).setClient client (.notify slot msg))
      (ledger.disturb.set (sd client) (.queued msg.deadline)) := by
  refine kept_settle sd nonneg distinct state _ ledger.disturb client slot conn _
    (kept_disturbed sd state ledger inv) (fun other different => by simp [different]) rfl ?_ (.inl ⟨carries, ?_⟩) ?_
  · refine mine.imp id (fun free => ⟨free.1, free.2, fun other ready => ?_⟩)
    simp only [Ledger.disturb]
    cases ledger.phase (sd other) <;> simp [Phase.disturbed]
  · refine ⟨nonzero, queue, ?_, signal⟩
    rw [deadline]
    rcases mine with own | ⟨free, _⟩
    · have holds := inv.holds slot client own
      rw [quiet] at holds
      exact holds.2
    · exact (inv.clean slot free).2
  · exact ⟨slot, msg, by simp [Client.waiting], by simp [State.setConnection, carries]⟩

theorem submit_view [DecidableEq ι] (sd : ι → Int) (nonneg : ∀ client, 0 ≤ sd client) (distinct : Function.Injective sd)
    (state : State ι) (ledger : Ledger) (client : ι) (msg : TimeoutMsg) (slot : SlotId) (conn : ConnectionManagerElement)
    (view : View sd state ledger) (quiet : ledger.phase (sd client) = .quiet)
    (mine : (state.connections slot).sd = sd client ∨
      ((state.connections slot).sd < 0 ∧ ∀ other, (state.connections other).sd ≠ sd client))
    (carries : conn.sd = sd client) :
    View sd ((state.setConnection slot conn).setClient client (.notify slot msg))
      (ledger.disturb.set (sd client) (.queued msg.deadline)) := by
  refine view_frame sd state _ ledger _ rfl rfl ?_ ?_ ?_ view
  · intro other deadline reported
    by_cases same : other = client
    · rw [same, set_phase_here, quiet]
      simp
    · have different : sd other ≠ sd client := fun equal => same (distinct equal)
      rw [set_phase_elsewhere _ _ _ _ different]
      exact Phase.disturbed_armed _ deadline reported
  · intro place other carried
    by_cases here : place = slot
    · subst place
      have bound := nonneg other
      rcases mine with own | ⟨free, _⟩
      · simp [State.setConnection, carries, ← carried, own]
      · omega
    · simpa [State.setConnection, here] using carried
  · intro place other deadline reported phase carried
    by_cases here : place = slot
    · subst place
      have equal : sd client = sd other := by simpa [State.setConnection, carries] using carried
      rw [← equal, quiet] at phase
      cases phase
    · simpa [State.setConnection, here] using carried

theorem notify_kept [DecidableEq ι] (sd : ι → Int) (state : State ι) (ledger : Ledger) (client : ι) (slot : SlotId)
    (msg : TimeoutMsg) (position : state.clients client = .notify slot msg) (inv : Kept sd state ledger) :
    Kept sd ({ state with notified := true }.setClient client (.receive slot msg)) ledger where
  clean := inv.clean
  owned := inv.owned
  apart := inv.apart
  holds := inv.holds
  home := by
    intro other
    have home := inv.home other
    by_cases same : other = client
    · subst other
      generalize ledger.phase (sd client) = phase at home ⊢
      cases phase with
      | quiet => simp [At, Outside, position] at home
      | queued _ | armed _ _ | answered _ _ => simpa [At, position, Client.waiting] using home
    · generalize ledger.phase (sd other) = phase at home ⊢
      cases phase <;> simpa [At, same] using home

theorem receive_kept [DecidableEq ι] (sd : ι → Int) (distinct : Function.Injective sd) (state : State ι)
    (ledger : Ledger) (client : ι) (slot : SlotId) (queue : Queue TimeoutResp 1) (ready : Bool)
    (inv : Kept sd state ledger) (empty : queue.items = []) (idle : (ledger.phase (sd client)).pending = false) :
    Kept sd ((state.setConnection slot { state.connections slot with rxSignal := queue }).setClient client (.returned ready))
      (ledger.set (sd client) .quiet) := by
  generalize made : { state.connections slot with rxSignal := queue } = conn
  have sds : ∀ place, ((state.setConnection slot conn).connections place).sd = (state.connections place).sd := by
    intro place
    by_cases here : place = slot
    · rw [here, set_connection_here, ← made]
    · rw [set_connection_elsewhere state slot place conn here]
  have holds (phase : Phase) (place : SlotId) (held : Holds phase (state.connections place)) :
      Holds phase ((state.setConnection slot conn).connections place) := by
    by_cases here : place = slot
    · rw [here] at held ⊢
      rw [set_connection_here, ← made]
      cases phase with
      | quiet | answered _ _ => exact held
      | queued _ | armed _ _ => exact ⟨held.1, held.2.1, held.2.2.1, empty⟩
    · rwa [set_connection_elsewhere state slot place conn here]
  refine ⟨?_, ?_, ?_, ?_, ?_⟩
  · exact clean_elsewhere state slot conn inv.clean (by rw [← made]; exact inv.clean slot)
  · intro place used
    rw [set_client_connections, sds] at used ⊢
    exact inv.owned place used
  · intro place other used equal
    rw [set_client_connections, sds] at used equal
    rw [sds] at equal
    exact inv.apart place other used equal
  · intro place other carried
    rw [set_client_connections] at carried ⊢
    rw [sds] at carried
    by_cases same : other = client
    · rw [same, set_phase_here]
      rw [same] at carried
      exact holds .quiet place ((holds_idle _ _ idle).mp (inv.holds place client carried))
    · have different : sd other ≠ sd client := fun equal => same (distinct equal)
      rw [set_phase_elsewhere _ _ _ _ different]
      exact holds _ place (inv.holds place other carried)
  · intro other
    by_cases same : other = client
    · rw [same, set_phase_here]
      exact .inr ⟨ready, by simp⟩
    · have different : sd other ≠ sd client := fun equal => same (distinct equal)
      rw [set_phase_elsewhere _ _ _ _ different]
      have home := inv.home other
      generalize ledger.phase (sd other) = phase at home ⊢
      cases phase with
      | quiet => simpa [At, same] using home
      | queued _ | armed _ _ =>
          obtain ⟨place, msg, waits, carried⟩ := home
          exact ⟨place, msg, by simpa [same] using waits, by rw [set_client_connections, sds]; exact carried⟩
      | answered value undisturbed =>
          obtain ⟨place, msg, waits, only⟩ := home
          refine ⟨place, msg, by simpa [same] using waits, fun fresh => ?_⟩
          rw [set_client_connections, sds]
          refine ⟨(only fresh).1, fun answer member => (only fresh).2 answer ?_⟩
          by_cases here : place = slot
          · rw [here, set_connection_here, ← made, empty] at member
            cases member
          · rwa [set_connection_elsewhere state slot place conn here] at member

theorem receive_silent [DecidableEq ι] (state : State ι) (client : ι) (slot : SlotId) (queue : Queue TimeoutResp 1)
    (ready : Bool) (empty : queue.items = []) :
    slotsShown state (.receive client)
      ((state.setConnection slot { state.connections slot with rxSignal := queue }).setClient client (.returned ready)) = [] := by
  generalize made : { state.connections slot with rxSignal := queue } = conn
  have elsewhere (other : SlotId) (different : other ≠ slot) : visits state other (.receive client) = false ∧
      ((state.setConnection slot conn).setClient client (.returned ready)).connections other = state.connections other :=
    ⟨rfl, set_connection_elsewhere state slot other conn different⟩
  rw [slots_shown_at _ _ _ slot elsewhere]
  by_cases free : (state.connections slot).sd < 0 <;>
    simp [slotShown, takenShown, respondedShown, stayedShown, visits, set_connection_here, ← made, empty, free]

theorem receive_phase (sd : ι → Int) (state : State ι) (ledger : Ledger) (client : ι) (slot : SlotId) (msg : TimeoutMsg)
    (answer : TimeoutResp) (inv : Kept sd state ledger) (position : state.clients client = .receive slot msg)
    (holding : (state.connections slot).rxSignal.items = [answer]) :
    (ledger.phase (sd client)).pending = false ∧ (ledger.phase (sd client)).mayReturn (answer.timeout == 1) := by
  have home := inv.home client
  have here : ∀ place item, (state.clients client).waiting = some (place, item) → place = slot := by
    intro place item waits
    rw [position] at waits
    simpa [Client.waiting, eq_comm] using congrArg (Option.map Prod.fst) waits
  cases phase : ledger.phase (sd client) with
  | quiet => simp [phase, At, Outside, position] at home
  | queued deadline | armed deadline _ =>
      rw [phase] at home
      obtain ⟨place, item, waits, carried⟩ := home
      have holds := inv.holds place client carried
      rw [phase, here place item waits] at holds
      simp [holds.2.2.2] at holding
  | answered ready undisturbed =>
      rw [phase] at home
      obtain ⟨place, item, waits, only⟩ := home
      refine ⟨rfl, fun fresh => (only fresh).2 answer ?_⟩
      rw [here place item waits, holding]
      exact List.mem_singleton_self answer

theorem receive_view [DecidableEq ι] (sd : ι → Int) (distinct : Function.Injective sd) (state : State ι)
    (ledger : Ledger) (client : ι) (slot : SlotId) (queue : Queue TimeoutResp 1) (ready : Bool)
    (idle : (ledger.phase (sd client)).pending = false) (view : View sd state ledger) :
    View sd ((state.setConnection slot { state.connections slot with rxSignal := queue }).setClient client (.returned ready))
      (ledger.set (sd client) .quiet) := by
  have sds : ∀ place, ((state.setConnection slot { state.connections slot with rxSignal := queue }).connections place).sd =
      (state.connections place).sd := by
    intro place
    by_cases here : place = slot
    · rw [here, set_connection_here]
    · rw [set_connection_elsewhere state slot place _ here]
  refine view_frame sd state _ ledger _ rfl rfl ?_ ?_ ?_ view
  · intro other deadline reported
    by_cases same : other = client
    · rw [same, set_phase_here]
      constructor
      · exact fun absurd => by cases absurd
      · intro armed
        rw [armed] at idle
        cases idle
    · have different : sd other ≠ sd client := fun equal => same (distinct equal)
      rw [set_phase_elsewhere _ _ _ _ different]
  · intro place other carried
    rw [set_client_connections, sds]
    exact carried
  · intro place other deadline reported _ carried
    rw [set_client_connections, sds] at carried
    exact carried

theorem after_visits_cases (pass : Pass) :
    pass.afterVisits = .select ∨ pass.afterVisits = .top ∨ pass.afterVisits = .waitForNotify := by
  unfold Pass.afterVisits
  split
  · exact .inl rfl
  · split
    · exact .inr (.inl rfl)
    · exact .inr (.inr rfl)

theorem view_after_visit (sd : ι → Int) (state : State ι) (ledger : Ledger) (pass : Pass) (slot : SlotId)
    (position : state.manager = pass.afterVisit slot) (unreported : Unreported sd ledger)
    (watched : Watched sd state ledger (slot.val + 1)) : View sd state ledger := by
  unfold View
  rw [position]
  unfold Pass.afterVisit
  cases more : nextSlot slot with
  | some next =>
      rw [← next_slot_some slot next more] at watched
      exact ⟨unreported, watched⟩
  | none =>
      rw [next_slot_none slot more] at watched
      rcases after_visits_cases pass with select | top | sleep
      · simp only [select]
        exact ⟨unreported, watched⟩
      · simp only [top]
        exact unreported
      · simp only [sleep]
        exact unreported

theorem view_after_scan (sd : ι → Int) (state : State ι) (ledger : Ledger) (slot : SlotId)
    (position : state.manager = afterScan slot) (inv : Kept sd state ledger)
    (scanned : Scanned sd state ledger (slot.val + 1)) : View sd state ledger := by
  unfold View
  rw [position]
  unfold afterScan
  cases more : nextSlot slot with
  | some next =>
      rw [← next_slot_some slot next more] at scanned
      exact scanned
  | none =>
      rw [next_slot_none slot more] at scanned
      intro client deadline armed
      have home := inv.home client
      rw [armed] at home
      obtain ⟨place, _, _, carried⟩ := home
      have beyond := (scanned.2 client deadline armed).2 place carried
      have bound := place.isLt
      omega

theorem poll_taken (phase : Phase) (conn : ConnectionManagerElement) (holds : Holds phase conn)
    (unreported : ∀ deadline, phase ≠ .armed deadline true) :
    conn.poll.rxWaitDeadlineMs = phase.deadline ∧ Holds phase.taken conn.poll ∧
      (phase.pending = true → phase.taken = .armed phase.deadline false ∧ phase.deadline ≠ 0) := by
  cases phase with
  | quiet | answered _ _ =>
      obtain ⟨deadline, queue⟩ := ConnectionManagerElement.poll_idle conn holds.1
      exact ⟨deadline.trans holds.2, ⟨queue ▸ holds.1, deadline.trans holds.2⟩, by simp [Phase.pending]⟩
  | queued deadline =>
      obtain ⟨nonzero, queue, disarmed, signal⟩ := holds
      obtain ⟨armed, drained⟩ := ConnectionManagerElement.poll_request conn _ queue
      have rearmed : conn.poll.rxWaitDeadlineMs = deadline := by
        rw [armed, disarmed]
        simp [ConnectionManagerElement.rearm, Nat.pos_of_ne_zero nonzero]
      exact ⟨rearmed, ⟨nonzero, drained, rearmed, by rw [ConnectionManagerElement.poll_signal]; exact signal⟩,
        fun _ => ⟨rfl, nonzero⟩⟩
  | armed deadline reported =>
      obtain ⟨nonzero, queue, armed, signal⟩ := holds
      obtain ⟨kept, drained⟩ := ConnectionManagerElement.poll_idle conn queue
      cases reported with
      | true => exact absurd rfl (unreported deadline)
      | false =>
          exact ⟨kept.trans armed, ⟨nonzero, drained ▸ queue, kept.trans armed,
            by rw [ConnectionManagerElement.poll_signal]; exact signal⟩, fun _ => ⟨rfl, nonzero⟩⟩

theorem respond_room (state : State ι) (slot : SlotId) (resp : TimeoutResp) (pass : Pass) (sent refused : Manager)
    (room : (state.connections slot).rxSignal.items = []) :
    ∃ conn : ConnectionManagerElement, conn.sd = (state.connections slot).sd ∧
      conn.rxQueue = (state.connections slot).rxQueue ∧ conn.rxWaitDeadlineMs = 0 ∧ conn.rxSignal.items = [resp] ∧
      respond state slot resp pass sent refused = { state.setConnection slot conn with pass := pass, manager := sent } := by
  generalize made : respond state slot resp pass sent refused = after
  cases respond_cases state after slot resp pass sent refused made with
  | sent conn _ sd queue deadline signal => exact ⟨conn, sd, queue, deadline, signal, rfl⟩
  | refused full => exact absurd room full

theorem unreported_set (sd : ι → Int) (distinct : Function.Injective sd) (ledger : Ledger) (client : ι) (phase : Phase)
    (none : Unreported sd ledger) (here : ∀ deadline, phase ≠ .armed deadline true) :
    Unreported sd (ledger.set (sd client) phase) := by
  intro other deadline
  by_cases same : other = client
  · rw [same, set_phase_here]
    exact here deadline
  · have different : sd other ≠ sd client := fun equal => same (distinct equal)
    rw [set_phase_elsewhere _ _ _ _ different]
    exact none other deadline

-- The sockets watched so far have their slots behind this one; a visit can
-- add the socket of this slot only.
theorem watched_settle (sd : ι → Int) (nonneg : ∀ client, 0 ≤ sd client) (state after : State ι) (ledger : Ledger)
    (client : ι) (slot : SlotId) (conn : ConnectionManagerElement) (phase : Phase) (inv : Kept sd state ledger)
    (connections : after.connections = (state.setConnection slot conn).connections)
    (mine : (state.connections slot).sd = sd client) (watched : Watched sd state ledger slot.val)
    (bits : ∀ other, fdIsset (sd other) after.pass.readFdSet = 1 → fdIsset (sd other) state.pass.readFdSet = 1 ∨
      other = client ∧ conn.sd = sd client ∧ ∃ deadline, phase = .armed deadline false) :
    Watched sd after (ledger.set (sd client) phase) (slot.val + 1) := by
  intro other set
  rcases bits other set with before | ⟨rfl, carries, armed⟩
  · obtain ⟨⟨place, carried, behind⟩, armed⟩ := watched other before
    have elsewhere : place ≠ slot := fun same => by rw [same] at behind; exact Nat.lt_irrefl _ behind
    have different : sd other ≠ sd client := by
      intro equal
      have bound := nonneg client
      exact elsewhere (inv.apart place slot (by omega) (by rw [carried, mine, equal]))
    refine ⟨⟨place, ?_, by omega⟩, ?_⟩
    · rw [connections, set_connection_elsewhere state slot place conn elsewhere]
      exact carried
    · rw [set_phase_elsewhere _ _ _ _ different]
      exact armed
  · refine ⟨⟨slot, ?_, by omega⟩, ?_⟩
    · rw [connections, set_connection_here]
      exact carries
    · rw [set_phase_here]
      exact armed

theorem home_slot (sd : ι → Int) (nonneg : ∀ client, 0 ≤ sd client) (state : State ι) (ledger : Ledger) (client : ι)
    (slot : SlotId) (inv : Kept sd state ledger) (mine : (state.connections slot).sd = sd client)
    (pending : (ledger.phase (sd client)).pending = true) :
    ∃ msg, (state.clients client).waiting = some (slot, msg) := by
  have home := inv.home client
  have bound := nonneg client
  cases phase : ledger.phase (sd client) with
  | quiet | answered _ _ =>
      rw [phase] at pending
      cases pending
  | queued _ | armed _ _ =>
      rw [phase] at home
      obtain ⟨place, msg, waits, carried⟩ := home
      rw [inv.apart place slot (by omega) (carried.trans mine.symm)] at waits
      exact ⟨msg, waits⟩

theorem release_answering (sd : ι → Int) (nonneg : ∀ client, 0 ≤ sd client) (distinct : Function.Injective sd)
    (clocked : Clocked ι) (ledger : Ledger) (client : ι) (slot : SlotId) (conn : ConnectionManagerElement)
    (inv : Answering sd clocked ledger) (position : clocked.state.manager = .check slot)
    (mine : (clocked.state.connections slot).sd = sd client) (idle : (ledger.phase (sd client)).pending = false)
    (free : conn.sd < 0) (clean : Clean conn) (signal : conn.rxSignal = (clocked.state.connections slot).rxSignal) :
    Answering sd { clocked with state := { clocked.state.setConnection slot conn with
      pass := clocked.state.pass.again
      manager := clocked.state.pass.again.afterVisit slot } } ledger := by
  have view := inv.view
  simp only [View, position] at view
  have same := set_phase_same ledger (sd client)
  have kept : Kept sd { clocked.state.setConnection slot conn with
      pass := clocked.state.pass.again
      manager := clocked.state.pass.again.afterVisit slot } (ledger.set (sd client) (ledger.phase (sd client))) := by
    refine kept_settle sd nonneg distinct clocked.state _ ledger client slot conn _ inv.kept (fun _ _ => rfl) rfl
      (.inl mine) (.inr ⟨free, clean⟩) ?_
    have home := inv.kept.home client
    generalize ledger.phase (sd client) = phase at home idle
    cases phase with
    | queued _ | armed _ _ => cases idle
    | quiet => exact home
    | answered ready undisturbed =>
        obtain ⟨place, msg, waits, only⟩ := home
        refine ⟨place, msg, waits, fun fresh => ?_⟩
        by_cases here : place = slot
        · have own := only fresh
          rw [here] at own ⊢
          simp only [set_connection_here, signal]
          exact ⟨.inr free, own.2⟩
        · simp only [set_connection_elsewhere _ slot place conn here]
          exact only fresh
  rw [same] at kept
  refine ⟨kept, ?_, inv.clock, inv.past⟩
  refine view_after_visit sd _ ledger clocked.state.pass.again slot rfl view.1 ?_
  rw [← same]
  exact watched_settle sd nonneg clocked.state _ ledger client slot conn _ inv.kept rfl mine view.2
    (fun other set => .inl set)

theorem watch_answering (sd : ι → Int) (nonneg : ∀ client, 0 ≤ sd client)
    (separate : ∀ client other, socketIndex (sd client) = socketIndex (sd other) → client = other)
    (clocked : Clocked ι) (ledger : Ledger) (client : ι) (slot : SlotId) (conn : ConnectionManagerElement) (deadline : Nat)
    (inv : Answering sd clocked ledger) (position : clocked.state.manager = .check slot)
    (mine : (clocked.state.connections slot).sd = sd client) (pending : (ledger.phase (sd client)).pending = true)
    (carries : conn.sd = sd client) (holds : Holds (.armed deadline false) conn) :
    Answering sd { clocked with state := { clocked.state.setConnection slot conn with
      pass := clocked.state.pass.watch (sd client)
      manager := (clocked.state.pass.watch (sd client)).afterVisit slot } }
      (ledger.set (sd client) (.armed deadline false)) := by
  have distinct : Function.Injective sd := fun left right equal => separate left right (congrArg socketIndex equal)
  have view := inv.view
  simp only [View, position] at view
  obtain ⟨msg, waits⟩ := home_slot sd nonneg clocked.state ledger client slot inv.kept mine pending
  refine ⟨?_, ?_, inv.clock, inv.past⟩
  · refine kept_settle sd nonneg distinct clocked.state _ ledger client slot conn _ inv.kept (fun _ _ => rfl) rfl
      (.inl mine) (.inl ⟨carries, holds⟩) ⟨slot, msg, waits, ?_⟩
    rw [← carries]
    exact congrArg ConnectionManagerElement.sd (set_connection_here clocked.state slot conn)
  · refine view_after_visit sd _ _ (clocked.state.pass.watch (sd client)) slot rfl
      (unreported_set sd distinct ledger client _ view.1 (by simp)) ?_
    refine watched_settle sd nonneg clocked.state _ ledger client slot conn _ inv.kept rfl mine view.2 ?_
    intro other set
    rcases (fd_set_isset (sd client) (sd other) _).mp set with before | shared
    · exact .inl before
    · exact .inr ⟨separate other client shared, carries, deadline, rfl⟩

theorem expire_answering (sd : ι → Int) (nonneg : ∀ client, 0 ≤ sd client) (distinct : Function.Injective sd)
    (clocked : Clocked ι) (ledger : Ledger) (client : ι) (slot : SlotId) (conn : ConnectionManagerElement)
    (inv : Answering sd clocked ledger) (position : clocked.state.manager = .check slot)
    (mine : (clocked.state.connections slot).sd = sd client) (pending : (ledger.phase (sd client)).pending = true)
    (carries : conn.sd = sd client) (clean : Clean conn) (signal : conn.rxSignal.items = [⟨0⟩]) :
    Answering sd { clocked with state := { clocked.state.setConnection slot conn with
      pass := clocked.state.pass.again
      manager := clocked.state.pass.again.afterVisit slot } } (ledger.set (sd client) (.answered false true)) := by
  have view := inv.view
  simp only [View, position] at view
  obtain ⟨msg, waits⟩ := home_slot sd nonneg clocked.state ledger client slot inv.kept mine pending
  refine ⟨?_, ?_, inv.clock, inv.past⟩
  · refine kept_settle sd nonneg distinct clocked.state _ ledger client slot conn _ inv.kept (fun _ _ => rfl) rfl
      (.inl mine) (.inl ⟨carries, clean⟩) ⟨slot, msg, waits, fun _ => ?_⟩
    simp [set_connection_here, carries, signal]
  · refine view_after_visit sd _ _ clocked.state.pass.again slot rfl
      (unreported_set sd distinct ledger client _ view.1 (by simp)) ?_
    exact watched_settle sd nonneg clocked.state _ ledger client slot conn _ inv.kept rfl mine view.2
      (fun other set => .inl set)

theorem respond_elsewhere (state : State ι) (slot other : SlotId) (resp : TimeoutResp) (pass : Pass) (sent refused : Manager)
    (different : other ≠ slot) :
    (respond state slot resp pass sent refused).connections other = state.connections other := by
  unfold respond
  split <;> exact set_connection_elsewhere state slot other _ different

theorem visit_elsewhere (state : State ι) (slot other : SlotId) (different : other ≠ slot) :
    (visit state slot).connections other = state.connections other := by
  unfold visit
  split
  · dsimp only
    split
    · exact set_connection_elsewhere state slot other _ different
    · exact set_connection_elsewhere state slot other _ different
    · rw [respond_elsewhere _ slot other _ _ _ _ different, set_connection_elsewhere state slot other _ different]
  · rfl

theorem scan_visit_elsewhere (state : State ι) (slot other : SlotId) (different : other ≠ slot) :
    (scanVisit state slot).connections other = state.connections other := by
  unfold scanVisit
  split
  · exact respond_elsewhere state slot other _ _ _ _ different
  · rfl

-- The visit takes the request if there is one; the rest is for the verdict.
theorem taken_accepted (ledger : Ledger) (sd : Int) (conn after : ConnectionManagerElement) (rest : List Event)
    (mine : conn.sd = sd) (holds : Holds (ledger.phase sd) conn) (drained : after.rxQueue.items = [])
    (shown : respondedShown conn after ++ stayedShown true conn after = rest)
    (accepted : protocol.Accepts (ledger.set sd (ledger.phase sd).taken) rest) :
    protocol.Accepts ledger (slotShown true conn after) ∧
      protocol.after ledger (slotShown true conn after) = protocol.after (ledger.set sd (ledger.phase sd).taken) rest := by
  have idle (empty : conn.rxQueue.items = []) : takenShown conn after = [] := by
    rw [takenShown, if_pos (drained.trans empty.symm)]
  unfold slotShown
  rw [shown]
  cases phase : ledger.phase sd with
  | quiet | answered _ _ =>
      have same : ledger.set sd (ledger.phase sd).taken = ledger := by
        rw [(Phase.taken_idle _ (by rw [phase]; rfl)).1, set_phase_same]
      rw [phase] at holds same accepted
      rw [idle holds.1, List.nil_append, same]
      rw [same] at accepted
      exact ⟨accepted, rfl⟩
  | queued deadline =>
      rw [phase] at holds accepted
      have taken : takenShown conn after = [.taken sd deadline] := by
        rw [takenShown, drained, holds.2.1, mine]
        rfl
      have settled : protocol.after ledger [.taken sd deadline] = ledger.set sd (Phase.taken (.queued deadline)) := by
        simp [Base.Monitor.after, protocol, Ledger.update, phase]
      rw [taken, protocol.accepts_append, protocol.after_append, settled]
      exact ⟨⟨⟨phase, trivial⟩, accepted⟩, rfl⟩
  | armed deadline reported =>
      have same : ledger.set sd (ledger.phase sd).taken = ledger := by
        rw [show (ledger.phase sd).taken = ledger.phase sd by rw [phase]; rfl, set_phase_same]
      rw [phase] at holds same accepted
      rw [idle holds.2.1, List.nil_append, same]
      rw [same] at accepted
      exact ⟨accepted, rfl⟩

theorem responded_silent (before after : ConnectionManagerElement) (kept : after.rxSignal = before.rxSignal) :
    respondedShown before after = [] := by rw [respondedShown, kept, if_pos rfl]

theorem responded_once (before after : ConnectionManagerElement) (resp : TimeoutResp) (room : before.rxSignal.items = [])
    (sent : after.rxSignal.items = [resp]) : respondedShown before after = [.responded before.sd (resp.timeout == 1)] := by
  simp [respondedShown, room, sent]

-- A visited slot of a client's socket, and what the poll of its queue leaves of it.
structure Polled (sd : ι → Int) (clocked : Clocked ι) (ledger : Ledger) (slot : SlotId) (client : ι)
    (conn : ConnectionManagerElement) : Prop where
  position : clocked.state.manager = .check slot
  mine : (clocked.state.connections slot).sd = sd client
  inUse : ¬ (clocked.state.connections slot).sd < 0
  held : Holds (ledger.phase (sd client)) (clocked.state.connections slot)
  armed : conn.rxWaitDeadlineMs = (ledger.phase (sd client)).deadline
  holds : Holds (ledger.phase (sd client)).taken conn
  carries : conn.sd = sd client
  signal : conn.rxSignal = (clocked.state.connections slot).rxSignal
  drained : conn.rxQueue.items = []

-- The protocol accepts what a visit that ends in after shows, and goes on with it.
def Visited (sd : ι → Int) (clocked : Clocked ι) (ledger : Ledger) (slot : SlotId) (after : State ι) : Prop :=
  let events := slotShown true (clocked.state.connections slot) (after.connections slot)
  protocol.Accepts ledger events ∧ Answering sd { clocked with state := after } (protocol.after ledger events)

theorem visit_releases (sd : ι → Int) (nonneg : ∀ client, 0 ≤ sd client) (distinct : Function.Injective sd)
    (clocked : Clocked ι) (ledger : Ledger) (slot : SlotId) (client : ι) (conn : ConnectionManagerElement)
    (inv : Answering sd clocked ledger) (polled : Polled sd clocked ledger slot client conn)
    (idle : (ledger.phase (sd client)).pending = false) :
    Visited sd clocked ledger slot { clocked.state.setConnection slot { conn with sd := -1 } with
      pass := clocked.state.pass.again
      manager := clocked.state.pass.again.afterVisit slot } := by
  obtain ⟨same, _⟩ := Phase.taken_idle _ idle
  have clean := (holds_idle _ conn (by rw [same]; exact idle)).mp polled.holds
  have kept : { conn with sd := -1 }.rxSignal = (clocked.state.connections slot).rxSignal := polled.signal
  have released : protocol.Accepts (ledger.set (sd client) (ledger.phase (sd client)).taken) [.released (sd client)] := by
    rw [same, set_phase_same]
    exact ⟨idle, trivial⟩
  obtain ⟨accepted, reached⟩ := taken_accepted ledger (sd client) _ { conn with sd := -1 } _ polled.mine polled.held
    polled.drained (by
      rw [responded_silent _ _ kept, stayedShown, if_neg polled.inUse, if_pos (by simp), polled.mine]
      rfl) released
  simp only [Visited, set_connection_here]
  refine ⟨accepted, ?_⟩
  rw [reached, same, set_phase_same]
  exact release_answering sd nonneg distinct clocked ledger client slot { conn with sd := -1 } inv polled.position
    polled.mine idle (by simp) clean polled.signal

theorem visit_watches (sd : ι → Int) (nonneg : ∀ client, 0 ≤ sd client)
    (separate : ∀ client other, socketIndex (sd client) = socketIndex (sd other) → client = other)
    (clocked : Clocked ι) (ledger : Ledger) (slot : SlotId) (client : ι) (conn : ConnectionManagerElement)
    (inv : Answering sd clocked ledger) (polled : Polled sd clocked ledger slot client conn)
    (pending : (ledger.phase (sd client)).pending = true)
    (taken : (ledger.phase (sd client)).taken = .armed (ledger.phase (sd client)).deadline false) :
    Visited sd clocked ledger slot { clocked.state.setConnection slot conn with
      pass := clocked.state.pass.watch conn.sd
      manager := (clocked.state.pass.watch conn.sd).afterVisit slot } := by
  have holds := polled.holds
  have kept : ¬ conn.sd < 0 := by
    rw [polled.carries]
    exact Int.not_lt.mpr (nonneg client)
  rw [taken] at holds
  have stays : protocol.Accepts (ledger.set (sd client) (ledger.phase (sd client)).taken)
      [.stayed (sd client) conn.rxWaitDeadlineMs] := by
    refine ⟨?_, trivial⟩
    simp only [protocol, Ledger.allowed, taken, set_phase_here]
    exact polled.armed
  obtain ⟨accepted, reached⟩ := taken_accepted ledger (sd client) _ conn _ polled.mine polled.held polled.drained
    (by
      rw [responded_silent _ _ polled.signal, stayedShown, if_neg polled.inUse, if_neg kept, if_pos rfl, polled.mine]
      rfl) stays
  simp only [Visited, set_connection_here]
  refine ⟨accepted, ?_⟩
  rw [reached, taken, polled.carries]
  exact watch_answering sd nonneg separate clocked ledger client slot conn _ inv polled.position polled.mine pending
    polled.carries holds

theorem visit_expires (sd : ι → Int) (nonneg : ∀ client, 0 ≤ sd client) (distinct : Function.Injective sd)
    (clocked : Clocked ι) (ledger : Ledger) (slot : SlotId) (client : ι) (conn : ConnectionManagerElement)
    (inv : Answering sd clocked ledger) (polled : Polled sd clocked ledger slot client conn)
    (pending : (ledger.phase (sd client)).pending = true)
    (taken : (ledger.phase (sd client)).taken = .armed (ledger.phase (sd client)).deadline false)
    (late : conn.rxWaitDeadlineMs < clocked.state.pass.currentTime) :
    Visited sd clocked ledger slot (respond (clocked.state.setConnection slot conn) slot ⟨0⟩ clocked.state.pass.again
      (clocked.state.pass.again.afterVisit slot) (.refusedTimeout slot)) := by
  have holds := polled.holds
  rw [taken] at holds
  obtain ⟨answer, answering, queue, disarmed, sent, settles⟩ := respond_room (clocked.state.setConnection slot conn)
    slot ⟨0⟩ clocked.state.pass.again (clocked.state.pass.again.afterVisit slot) (.refusedTimeout slot)
    (by rw [set_connection_here]; exact holds.2.2.2)
  rw [set_connection_here] at answering queue
  have kept : ¬ answer.sd < 0 := by
    rw [answering, polled.carries]
    exact Int.not_lt.mpr (nonneg client)
  have before : (ledger.phase (sd client)).deadline < ledger.now := by
    rw [← polled.armed, inv.clock]
    exact Nat.lt_of_lt_of_le late inv.past
  have once : (clocked.state.setConnection slot conn).setConnection slot answer =
      clocked.state.setConnection slot answer := by simp [State.setConnection]
  have responds : protocol.Accepts (ledger.set (sd client) (ledger.phase (sd client)).taken)
      [.responded (sd client) false, .stayed (sd client) answer.rxWaitDeadlineMs] := by
    refine ⟨?_, ?_, trivial⟩
    · simp only [protocol, Ledger.allowed, taken, set_phase_here, Phase.mayAnswer]
      exact ⟨trivial, before⟩
    · simp only [protocol, Ledger.allowed, Ledger.update, set_phase_here]
      exact disarmed
  have room : (clocked.state.connections slot).rxSignal.items = [] := by
    rw [← polled.signal]
    exact holds.2.2.2
  obtain ⟨accepted, reached⟩ := taken_accepted ledger (sd client) _ answer _ polled.mine polled.held
    (by rw [queue]; exact polled.drained)
    (by
      rw [responded_once _ _ _ room sent, stayedShown, if_neg polled.inUse, if_neg kept, if_pos rfl, polled.mine]
      rfl) responds
  simp only [Visited, settles, once, set_connection_here]
  refine ⟨accepted, ?_⟩
  rw [reached]
  simp only [Base.Monitor.after, List.foldl, protocol, Ledger.update, set_phase_twice]
  exact expire_answering sd nonneg distinct clocked ledger client slot answer inv polled.position polled.mine pending
    (answering.trans polled.carries) ⟨by rw [queue]; exact holds.2.1, disarmed⟩ sent

theorem visit_skips (sd : ι → Int) (clocked : Clocked ι) (ledger : Ledger) (slot : SlotId) (inv : Answering sd clocked ledger)
    (position : clocked.state.manager = .check slot) (free : (clocked.state.connections slot).sd < 0) :
    Visited sd clocked ledger slot { clocked.state with manager := clocked.state.pass.afterVisit slot } := by
  have view := inv.view
  simp only [View, position] at view
  have silent : slotShown true (clocked.state.connections slot) (clocked.state.connections slot) = [] := by
    simp [slotShown, takenShown, respondedShown, stayedShown, free]
  simp only [Visited, silent]
  refine ⟨trivial, ⟨⟨inv.kept.clean, inv.kept.owned, inv.kept.apart, inv.kept.holds, inv.kept.home⟩, ?_, inv.clock, inv.past⟩⟩
  refine view_after_visit sd _ ledger clocked.state.pass slot rfl view.1 ?_
  intro client set
  obtain ⟨⟨place, carried, behind⟩, phase⟩ := view.2 client set
  exact ⟨⟨place, carried, by omega⟩, phase⟩

theorem visit_answering (sd : ι → Int) (nonneg : ∀ client, 0 ≤ sd client)
    (separate : ∀ client other, socketIndex (sd client) = socketIndex (sd other) → client = other)
    (clocked : Clocked ι) (ledger : Ledger) (slot : SlotId) (inv : Answering sd clocked ledger)
    (position : clocked.state.manager = .check slot) : Visited sd clocked ledger slot (visit clocked.state slot) := by
  have distinct : Function.Injective sd := fun left right equal => separate left right (congrArg socketIndex equal)
  by_cases used : (clocked.state.connections slot).sd ≥ 0
  · obtain ⟨client, mine⟩ := inv.kept.owned slot used
    have view := inv.view
    simp only [View, position] at view
    have held := inv.kept.holds slot client mine
    obtain ⟨armed, holds, pending⟩ := poll_taken (ledger.phase (sd client)) (clocked.state.connections slot) held (view.1 client)
    have polled : Polled sd clocked ledger slot client (clocked.state.connections slot).poll :=
      ⟨position, mine, Int.not_lt.mpr used, held, armed, holds, by rw [ConnectionManagerElement.poll_sd, mine],
        ConnectionManagerElement.poll_signal _, ConnectionManagerElement.poll_drains _⟩
    rw [visit, if_pos used]
    generalize (clocked.state.connections slot).poll = conn at polled armed
    cases settled : (ledger.phase (sd client)).pending with
    | false =>
        have verdict : conn.verdict clocked.state.pass.currentTime = .release := by
          simp [ConnectionManagerElement.verdict, armed, (Phase.taken_idle _ settled).2]
        simp only [verdict]
        exact visit_releases sd nonneg distinct clocked ledger slot client conn inv polled settled
    | true =>
        obtain ⟨taken, nonzero⟩ := pending settled
        rcases ConnectionManagerElement.verdict_cases conn clocked.state.pass.currentTime with
          ⟨_, zero⟩ | ⟨watch, _⟩ | ⟨expire, _, late⟩
        · exact absurd (armed.symm.trans zero) nonzero
        · simp only [watch]
          exact visit_watches sd nonneg separate clocked ledger slot client conn inv polled settled taken
        · simp only [expire]
          exact visit_expires sd nonneg distinct clocked ledger slot client conn inv polled settled taken late
  · rw [visit, if_neg used]
    exact visit_skips sd clocked ledger slot inv position (Int.not_le.mp used)

theorem scan_skip (sd : ι → Int) (state : State ι) (ledger : Ledger) (slot : SlotId)
    (scanned : Scanned sd state ledger slot.val) (nonneg : ∀ client, 0 ≤ sd client)
    (skip : ¬ ((state.connections slot).sd ≥ 0 ∧ fdIsset (state.connections slot).sd state.pass.readFdSet = 1)) :
    Scanned sd { state with manager := afterScan slot } ledger (slot.val + 1) := by
  obtain ⟨ahead, reported⟩ := scanned
  refine ⟨fun client set => ?_, fun client deadline armed => ?_⟩
  · obtain ⟨place, carried, later⟩ := ahead client set
    exact ⟨place, carried, fun limit => later (by omega)⟩
  · obtain ⟨set, behind⟩ := reported client deadline armed
    refine ⟨set, fun place carried => ?_⟩
    have limit := behind place carried
    by_cases here : place.val = slot.val
    · rw [Fin.ext here] at carried
      exact absurd ⟨by rw [carried]; exact nonneg client, by rw [carried]; exact set⟩ skip
    · omega

theorem scan_answers (sd : ι → Int) (nonneg : ∀ client, 0 ≤ sd client) (distinct : Function.Injective sd)
    (state : State ι) (ledger : Ledger) (client : ι) (slot : SlotId) (conn : ConnectionManagerElement)
    (inv : Kept sd state ledger) (mine : (state.connections slot).sd = sd client)
    (carries : conn.sd = (state.connections slot).sd) (scanned : Scanned sd state ledger slot.val) :
    Scanned sd { state.setConnection slot conn with manager := afterScan slot }
      (ledger.set (sd client) (.answered true true)) (slot.val + 1) := by
  have sds : ∀ other, ((state.setConnection slot conn).connections other).sd = (state.connections other).sd := by
    intro other
    by_cases here : other = slot
    · rw [here, set_connection_here, carries]
    · rw [set_connection_elsewhere _ slot other conn here]
  refine ⟨fun other bit => ?_, fun other moment phase => ?_⟩
  · obtain ⟨spot, holder, after⟩ := scanned.1 other bit
    refine ⟨spot, by rw [← holder]; exact sds spot, fun limit => ?_⟩
    have different : sd other ≠ sd client := by
      intro equal
      have here := inv.apart spot slot (by rw [holder]; exact nonneg other) (by rw [holder, mine, equal])
      rw [here] at limit
      omega
    rw [set_phase_elsewhere _ _ _ _ different]
    exact after (by omega)
  · have different : other ≠ client := by
      rintro rfl
      rw [set_phase_here] at phase
      cases phase
    rw [set_phase_elsewhere _ _ _ _ (distinct.ne different)] at phase
    obtain ⟨bit, ahead⟩ := scanned.2 other moment phase
    refine ⟨bit, fun spot holder => ?_⟩
    have holder' : (state.connections spot).sd = sd other := (sds spot).symm.trans holder
    have limit := ahead spot holder'
    have elsewhere : spot.val ≠ slot.val := by
      intro here
      rw [Fin.ext here, mine] at holder'
      exact different (distinct holder').symm
    omega

theorem scan_answering (sd : ι → Int) (nonneg : ∀ client, 0 ≤ sd client) (distinct : Function.Injective sd)
    (clocked : Clocked ι) (ledger : Ledger) (slot : SlotId) (inv : Answering sd clocked ledger)
    (position : clocked.state.manager = .scan slot) :
    let events := slotShown false (clocked.state.connections slot) ((scanVisit clocked.state slot).connections slot)
    protocol.Accepts ledger events ∧
      Answering sd { clocked with state := scanVisit clocked.state slot } (protocol.after ledger events) := by
  have view := inv.view
  simp only [View, position] at view
  by_cases ready : (clocked.state.connections slot).sd ≥ 0 ∧
      fdIsset (clocked.state.connections slot).sd clocked.state.pass.readFdSet = 1
  · obtain ⟨client, mine⟩ := inv.kept.owned slot ready.1
    have set : fdIsset (sd client) clocked.state.pass.readFdSet = 1 := by
      rw [← mine]
      exact ready.2
    obtain ⟨place, carried, later⟩ := view.1 client set
    have same : place = slot := inv.kept.apart place slot (by rw [carried]; exact nonneg client) (carried.trans mine.symm)
    obtain ⟨deadline, armed⟩ := later (by rw [same])
    have holds := inv.kept.holds slot client mine
    rw [armed] at holds
    obtain ⟨conn, carries, queue, disarmed, sent, settles⟩ := respond_room clocked.state slot ⟨1⟩ clocked.state.pass
      (afterScan slot) (.refusedReady slot) holds.2.2.2
    obtain ⟨msg, waits⟩ := home_slot sd nonneg clocked.state ledger client slot inv.kept mine (by rw [armed]; rfl)
    rw [scanVisit, if_pos ready, settles]
    have shown : slotShown false (clocked.state.connections slot) conn = [.responded (sd client) true] := by
      have used : ¬ (clocked.state.connections slot).sd < 0 := by omega
      rw [slotShown, responded_once _ _ _ holds.2.2.2 sent, takenShown, queue, if_pos rfl, stayedShown, carries, if_neg used,
        if_neg used, mine]
      rfl
    simp only [set_connection_here, shown, Base.Monitor.Accepts, Base.Monitor.after, List.foldl, protocol,
      Ledger.allowed, Ledger.update, armed, Phase.mayAnswer, if_true, true_and]
    have kept : Kept sd { clocked.state.setConnection slot conn with
        pass := clocked.state.pass
        manager := afterScan slot } (ledger.set (sd client) (.answered true true)) := by
      refine kept_settle sd nonneg distinct clocked.state _ ledger client slot conn _ inv.kept (fun _ _ => rfl) rfl
        (.inl mine) (.inl ⟨carries.trans mine, ⟨by rw [queue]; exact holds.2.1, disarmed⟩⟩) ⟨slot, msg, waits, fun _ => ?_⟩
      simp [set_connection_here, carries, mine, sent]
    exact ⟨kept, view_after_scan sd _ _ slot rfl kept
      (scan_answers sd nonneg distinct clocked.state ledger client slot conn inv.kept mine carries view), inv.clock, inv.past⟩
  · rw [scanVisit, if_neg ready]
    simp only [slot_shown_same]
    have kept : Kept sd { clocked.state with manager := afterScan slot } ledger :=
      ⟨inv.kept.clean, inv.kept.owned, inv.kept.apart, inv.kept.holds, inv.kept.home⟩
    exact ⟨trivial, kept, view_after_scan sd _ ledger slot rfl kept
      (scan_skip sd clocked.state ledger slot view nonneg ready), inv.clock, inv.past⟩

theorem kept_reported (sd : ι → Int) (state : State ι) (ledger : Ledger) (fds : FdSet) (inv : Kept sd state ledger) :
    Kept sd state (ledger.update (.reported fds)) where
  clean := inv.clean
  owned := inv.owned
  apart := inv.apart
  holds := by
    intro slot client carried
    have holds := inv.holds slot client carried
    simp only [Ledger.update]
    cases phase : ledger.phase (sd client) <;> rw [phase] at holds <;> exact holds
  home := by
    intro client
    have home := inv.home client
    simp only [Ledger.update]
    cases phase : ledger.phase (sd client) <;> rw [phase] at home <;> exact home

theorem select_answering (sd : ι → Int) (clocked : Clocked ι) (ledger : Ledger) (res : Int) (fds : FdSet) (after : State ι)
    (inv : Answering sd clocked ledger) (taken : selectStep clocked.state res fds = some after) :
    Answering sd { clocked with state := after } (protocol.after ledger (if res > 0 then [.reported fds] else [])) := by
  simp only [selectStep] at taken
  split at taken
  · rename_i ready
    obtain ⟨position, subset⟩ := ready
    have view := inv.view
    simp only [View, position] at view
    cases taken
    have kept : ∀ pass manager, Kept sd { clocked.state with pass := pass, manager := manager } ledger :=
      fun _ _ => ⟨inv.kept.clean, inv.kept.owned, inv.kept.apart, inv.kept.holds, inv.kept.home⟩
    by_cases some : res > 0
    · have nonneg : res ≥ 0 := by omega
      simp only [some, nonneg, if_true, Base.Monitor.after, List.foldl, protocol]
      refine ⟨kept_reported sd _ ledger fds (kept _ _), ?_, inv.clock, inv.past⟩
      refine ⟨fun client set => ?_, fun client deadline armed => ?_⟩
      · obtain ⟨⟨place, carried, _⟩, deadline, armed⟩ := view.2 client (fd_subset_isset fds _ subset _ set)
        refine ⟨place, carried, fun _ => ⟨deadline, ?_⟩⟩
        have set' : fdIsset (sd client) fds = 1 := set
        simp [Ledger.update, armed, Phase.reported, set']
      · refine ⟨?_, fun _ _ => Nat.zero_le _⟩
        by_cases set : fdIsset (sd client) fds = 1
        · exact set
        · simp only [Ledger.update] at armed
          have unset : (fdIsset (sd client) fds == 1) = false := by simpa using set
          rw [unset, Phase.reported_false] at armed
          exact absurd armed (view.1 client deadline)
    · simp only [some, if_false, Base.Monitor.after, List.foldl]
      refine ⟨kept _ _, ?_, inv.clock, inv.past⟩
      by_cases zero : res = 0
      · simp only [View, zero, if_true]
        exact view.1
      · simp only [View, zero, if_false]
        exact view.1
  · cases taken

theorem manager_answering (sd : ι → Int) (nonneg : ∀ client, 0 ≤ sd client)
    (separate : ∀ client other, socketIndex (sd client) = socketIndex (sd other) → client = other)
    (clocked : Clocked ι) (ledger : Ledger) (after : State ι) (inv : Answering sd clocked ledger)
    (taken : managerRound clocked.state clocked.now = some after) :
    protocol.Accepts ledger (slotsShown clocked.state .manager after) ∧
      Answering sd { clocked with state := after } (protocol.after ledger (slotsShown clocked.state .manager after)) := by
  have distinct : Function.Injective sd := fun left right equal => separate left right (congrArg socketIndex equal)
  have view := inv.view
  have kept : ∀ pass manager notified,
      Kept sd { clocked.state with pass := pass, manager := manager, notified := notified } ledger :=
    fun _ _ _ => ⟨inv.kept.clean, inv.kept.owned, inv.kept.apart, inv.kept.holds, inv.kept.home⟩
  cases position : clocked.state.manager with
  | check slot =>
      simp only [managerRound, position, Option.some.injEq] at taken
      have visited (other : SlotId) : visits clocked.state other .manager = (slot == other) := by simp [visits, position]
      have elsewhere (other : SlotId) (different : other ≠ slot) :
          visits clocked.state other .manager = false ∧ after.connections other = clocked.state.connections other := by
        rw [visited, ← taken]
        exact ⟨by simpa using different.symm, visit_elsewhere clocked.state slot other different⟩
      rw [slots_shown_at _ _ _ slot elsewhere, visited, beq_self_eq_true, ← taken]
      exact visit_answering sd nonneg separate clocked ledger slot inv position
  | scan slot =>
      simp only [managerRound, position, Option.some.injEq] at taken
      have unvisited (other : SlotId) : visits clocked.state other .manager = false := by simp [visits, position]
      have elsewhere (other : SlotId) (different : other ≠ slot) :
          visits clocked.state other .manager = false ∧ after.connections other = clocked.state.connections other := by
        rw [← taken]
        exact ⟨unvisited other, scan_visit_elsewhere clocked.state slot other different⟩
      rw [slots_shown_at _ _ _ slot elsewhere, unvisited, ← taken]
      exact scan_answering sd nonneg distinct clocked ledger slot inv position
  | top =>
      simp only [managerRound, position, Option.some.injEq] at taken
      simp only [View, position] at view
      rw [slots_shown_silent _ _ _ (fun _ => by simp [visits, position]) (by rw [← taken]), ← taken]
      exact ⟨trivial, kept _ _ _, ⟨view, fun client set => absurd set (fd_zero_isset (sd client))⟩, inv.clock, Nat.le_refl _⟩
  | delay =>
      simp only [managerRound, position, Option.some.injEq] at taken
      simp only [View, position] at view
      rw [slots_shown_silent _ _ _ (fun _ => by simp [visits, position]) (by rw [← taken]), ← taken]
      exact ⟨trivial, kept _ _ _, view, inv.clock, inv.past⟩
  | waitForNotify =>
      simp only [managerRound, position] at taken
      simp only [View, position] at view
      split at taken <;> cases taken
      rw [slots_shown_silent clocked.state _ .manager (fun _ => by simp [visits, position]) (by rfl)]
      exact ⟨trivial, kept _ _ _, view, inv.clock, inv.past⟩
  | select => simp [managerRound, position] at taken
  | poll slot | test slot | takeMutex slot | writeSd slot | giveMutex slot | sendTimeout slot | refusedTimeout slot
  | sendReady slot | refusedReady slot => simp [View, position] at view

def Waits (clocked : Clocked ι) : Round ι → Prop
  | .submit _ msg => msg.deadline ≠ 0
  | .tick now => clocked.now ≤ now
  | .notify _ | .receive _ | .manager | .select _ _ => True

theorem receive_answering [DecidableEq ι] (sd : ι → Int) (distinct : Function.Injective sd) (clocked : Clocked ι)
    (ledger : Ledger) (client : ι) (after : State ι) (inv : Answering sd clocked ledger)
    (received : receiveRound clocked.state client = some after) :
    protocol.Accepts ledger (shows sd clocked (.receive client) { clocked with state := after }) ∧
      Answering sd { clocked with state := after }
        (protocol.after ledger (shows sd clocked (.receive client) { clocked with state := after })) := by
  cases position : clocked.state.clients client with
  | receive slot msg =>
      simp only [receiveRound, position] at received
      obtain ⟨⟨answer, queue⟩, taking, rfl⟩ := Option.map_eq_some_iff.mp received
      have items := Queue.receive_some _ queue answer taking
      have rest : queue.items = [] := by
        rcases Queue.single_cases (clocked.state.connections slot).rxSignal with none | ⟨only, one⟩
        · rw [none] at items
          cases items
        · rw [one] at items
          exact (List.cons.inj items).2.symm
      rw [rest] at items
      obtain ⟨idle, mayReturn⟩ := receive_phase sd clocked.state ledger client slot msg answer inv.kept position items
      have silent := receive_silent clocked.state client slot queue (answer.timeout == 1) rest
      simp only [shows, callShown, silent, set_client_clients, Function.update_self, List.append_nil]
      exact ⟨⟨mayReturn, trivial⟩, receive_kept sd distinct clocked.state ledger client slot queue _ inv.kept rest idle,
        receive_view sd distinct clocked.state ledger client slot queue _ idle inv.view, inv.clock, inv.past⟩
  | idle | returned _ | unreachable | findSocket _ _ | findFreeSocket _ _ | takeMutex _ _ | writeSd _ _
  | giveMutex _ _ | resetSignal _ _ | sendQueue _ _ | notify _ _ => simp [receiveRound, position] at received

theorem round_answering [DecidableEq ι] [Fintype ι] (sd : ι → Int) (few : Fintype.card ι ≤ 4)
    (nonneg : ∀ client, 0 ≤ sd client)
    (separate : ∀ client other, socketIndex (sd client) = socketIndex (sd other) → client = other)
    (clocked after : Clocked ι) (ledger : Ledger) (action : Round ι) (inv : Answering sd clocked ledger)
    (met : Waits clocked action) (taken : round sd clocked action = some after) :
    protocol.Accepts ledger (shows sd clocked action after) ∧
      Answering sd after (protocol.after ledger (shows sd clocked action after)) := by
  have distinct : Function.Injective sd := fun left right equal => separate left right (congrArg socketIndex equal)
  cases action with
  | tick now =>
      simp only [round, Option.some.injEq] at taken
      rw [shows, slots_shown_silent _ _ _ (fun _ => rfl) (by rw [← taken]), ← taken]
      exact ⟨⟨trivial, trivial⟩, ⟨inv.kept.clean, inv.kept.owned, inv.kept.apart, inv.kept.holds, inv.kept.home⟩, inv.view,
        rfl, Nat.le_trans inv.past met⟩
  | submit client msg =>
      obtain ⟨next, submitted, rfl⟩ := Option.map_eq_some_iff.mp taken
      have outside : Outside (clocked.state.clients client) ∧ submit sd clocked.state client msg = some next := by
        simp only [submitRound] at submitted
        split at submitted
        · rename_i position
          exact ⟨.inl position, submitted⟩
        · rename_i ready position
          exact ⟨.inr ⟨ready, position⟩, submitted⟩
        · cases submitted
      have quiet := home_outside sd clocked.state client _ outside.1 (inv.kept.home client)
      cases submit_cases sd clocked.state next client msg outside.2 with
      | placed slot conn mine room carries deadline signal queue =>
          simp only [shows, callShown, place_shown sd clocked.state client msg slot conn room carries queue, if_true,
            place_silent clocked.state client msg slot conn (by rw [carries]; exact nonneg client) room signal, List.append_nil]
          refine ⟨⟨quiet, trivial⟩, ?_⟩
          exact ⟨submit_kept sd nonneg distinct clocked.state ledger client msg slot conn inv.kept quiet met mine carries
              deadline signal queue,
            submit_view sd nonneg distinct clocked.state ledger client msg slot conn inv.view quiet mine carries,
            inv.clock, inv.past⟩
      | lost missing full =>
          obtain ⟨slot, carried⟩ := pool_full sd few clocked.state ledger client inv.kept full
          exact absurd carried (missing slot)
  | notify client =>
      obtain ⟨next, notified, rfl⟩ := Option.map_eq_some_iff.mp taken
      simp only [notifyRound] at notified
      split at notified
      · rename_i slot msg position
        cases notified
        rw [shows, slots_shown_silent clocked.state _ (.notify client) (fun _ => rfl) (by rfl)]
        refine ⟨trivial, notify_kept sd clocked.state ledger client slot msg position inv.kept, ?_, inv.clock, inv.past⟩
        exact view_frame sd clocked.state _ ledger ledger rfl rfl (fun _ _ _ => Iff.rfl) (fun _ _ => id)
          (fun _ _ _ _ _ => id) inv.view
      · cases notified
  | receive client =>
      obtain ⟨next, received, rfl⟩ := Option.map_eq_some_iff.mp taken
      exact receive_answering sd distinct clocked ledger client next inv received
  | manager =>
      obtain ⟨next, moved, rfl⟩ := Option.map_eq_some_iff.mp taken
      exact manager_answering sd nonneg separate clocked ledger next inv moved
  | select res fds =>
      obtain ⟨next, selected, rfl⟩ := Option.map_eq_some_iff.mp taken
      have same : next.connections = clocked.state.connections := by
        simp only [selectStep] at selected
        split at selected <;> cases selected
        rfl
      rw [shows, slots_shown_silent _ _ _ (fun _ => rfl) same, List.append_nil]
      refine ⟨?_, select_answering sd clocked ledger res fds next inv selected⟩
      simp only [callShown]
      split
      · exact ⟨trivial, trivial⟩
      · trivial

-- A request that waits for its answer is where the next visit finds it.
def NotLost (sd : ι → Int) (state : State ι) (ledger : Ledger) : Prop :=
  ∀ client, (ledger.phase (sd client)).pending = true → ∃ slot, (state.connections slot).sd = sd client ∧
    ((state.connections slot).rxQueue.items = [⟨(ledger.phase (sd client)).deadline⟩] ∨
      (state.connections slot).rxWaitDeadlineMs = (ledger.phase (sd client)).deadline)

theorem kept_not_lost (sd : ι → Int) (state : State ι) (ledger : Ledger) (inv : Kept sd state ledger) :
    NotLost sd state ledger := by
  intro client pending
  have home := inv.home client
  cases phase : ledger.phase (sd client) with
  | quiet | answered _ _ =>
      rw [phase] at pending
      cases pending
  | queued deadline =>
      rw [phase] at home
      obtain ⟨slot, _, _, carried⟩ := home
      have holds := inv.holds slot client carried
      rw [phase] at holds
      exact ⟨slot, carried, .inl holds.2.1⟩
  | armed deadline reported =>
      rw [phase] at home
      obtain ⟨slot, _, _, carried⟩ := home
      have holds := inv.holds slot client carried
      rw [phase] at holds
      exact ⟨slot, carried, .inr holds.2.2.1⟩

def watchedRound [DecidableEq ι] (sd : ι → Int) : Base.Step (Clocked ι × Ledger) (Round ι) :=
  Base.watched (round sd) (shows sd) protocol

def WatchedWaits (watched : Clocked ι × Ledger) (action : Round ι) : Prop := Waits watched.1 action

def AnswersRight [DecidableEq ι] (sd : ι → Int) : Prop :=
  ∀ watched, Reach (watchedRound sd) WatchedWaits (.initial, .initial) watched →
    NotLost sd watched.1.state watched.2 ∧
      ∀ action after, Waits watched.1 action → round sd watched.1 action = some after →
        protocol.Accepts watched.2 (shows sd watched.1 action after)

theorem reach_answering [DecidableEq ι] [Fintype ι] (sd : ι → Int) (few : Fintype.card ι ≤ 4)
    (nonneg : ∀ client, 0 ≤ sd client)
    (separate : ∀ client other, socketIndex (sd client) = socketIndex (sd other) → client = other)
    (watched : Clocked ι × Ledger) (reached : Reach (watchedRound sd) WatchedWaits (.initial, .initial) watched) :
    Answering sd watched.1 watched.2 := by
  refine Base.reach_invariant (watchedRound sd) WatchedWaits (.initial, .initial)
    (fun watched => Answering sd watched.1 watched.2) (initial_answering sd) ?_ watched reached
  intro before action after inv met taken
  obtain ⟨stepped, seen⟩ := (Base.watched_some_iff (round sd) (shows sd) protocol before after action).mp taken
  rw [seen]
  exact (round_answering sd few nonneg separate before.1 after.1 before.2 action inv met stepped).2

end

instance (count : Nat) (clocked : Clocked (Fin count)) (action : Round (Fin count)) : Decidable (Waits clocked action) :=
  match action with
  | .submit _ msg => inferInstanceAs (Decidable (msg.deadline ≠ 0))
  | .tick now => inferInstanceAs (Decidable (clocked.now ≤ now))
  | .notify _ | .receive _ | .manager | .select _ _ => inferInstanceAs (Decidable True)

instance (count : Nat) (watched : Clocked (Fin count) × Ledger) (action : Round (Fin count)) :
    Decidable (WatchedWaits watched action) := inferInstanceAs (Decidable (Waits watched.1 action))

def twins (client : Fin 2) : Int := if client = 0 then 1 else 17

end Miso.Mediator
