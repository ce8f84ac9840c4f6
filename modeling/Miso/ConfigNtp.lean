import Miso.ConfigReads

set_option autoImplicit false

namespace Miso.Config

open Base (Byte Buffer Item Json JsonType ascii cText nodesAt padded sameStart strncpy strncpy_fits flattenElements
  flattenMembers elementsSize membersSize flatten_length flatten_parents c_text_of_clean)

def Keys.copies (keys : Keys) (token : Token) : Bool :=
  if token.parent = 0 ∧ token.type = .string then false else keys.branch token = some .ntpUrlArray

-- The tokens that the loop copies to the NTP address, in order.
def ntpCopies (i : Nat) (keys : Keys) : List Token → List Token
  | [] => []
  | token :: rest => (if keys.copies token then [token] else []) ++ ntpCopies (i + 1) (keys.advance i token) rest

def copyOver (buffer : Buffer Setting.ntpUrl.sizeof) (token : Token) : Option (Buffer Setting.ntpUrl.sizeof) :=
  strncpy buffer token.src token.src_len

theorem apply_ntp (i : Nat) (next : Option Token) (action : Action) (sized : action.Sized) (loop after : Loop)
    (applied : applyMember i next action loop = some after) : after.store .ntpUrl = loop.store .ntpUrl := by
  obtain ⟨value, _, acted⟩ := Option.bind_eq_some_iff.mp applied
  cases action with
  | copyTo setting dest_len =>
      simp only at acted
      split at acted
      · obtain ⟨buffer, _, rfl⟩ := Option.map_eq_some_iff.mp acted
        exact Function.update_of_ne (Ne.symm sized.2) buffer loop.store
      · obtain rfl := Option.some.inj acted
        rfl
  | remember slot =>
      obtain rfl := Option.some.inj acted
      rfl
  | ignore =>
      obtain rfl := Option.some.inj acted
      rfl

theorem apply_defined (i : Nat) (next : Option Token) (action : Action) (sized : action.Sized) (loop : Loop)
    (there : next ≠ none) : (applyMember i next action loop).isSome = true := by
  cases next with
  | none => exact absurd rfl there
  | some value =>
      cases action with
      | copyTo setting dest_len =>
          obtain ⟨rfl, _⟩ := sized
          simp only [applyMember, Option.bind_some]
          split
          · have cleared := Base.store_full (loop.store setting) (List.replicate setting.sizeof 0) List.length_replicate
            have fits := (strncpy_fits ⟨List.replicate setting.sizeof 0, List.length_replicate⟩ value.src
              (min value.src_len setting.sizeof)).mpr (Nat.min_le_right _ _)
            simpa [copyString, Base.memset, cleared] using fits
          · rfl
      | remember slot => rfl
      | ignore => rfl

section Iteration

variable (i : Nat) (token : Token) (next : Option Token) (loop : Loop)

theorem iteration_copies (after : Loop) (stepped : iteration i token next loop = some after) :
    (if loop.keys.copies token then [token] else []).foldlM copyOver (loop.store .ntpUrl) = some (after.store .ntpUrl) := by
  by_cases inner : token.parent = 0 ∧ token.type = .string
  · simp only [iteration, inner, and_self, if_true] at stepped
    obtain rfl := Option.some.inj stepped
    simp only [Keys.copies, inner, and_self, if_true]
    cases rootMember token.src <;> rfl
  · cases taken : loop.keys.branch token with
    | none =>
        simp only [iteration, inner, if_false, taken] at stepped
        obtain rfl := Option.some.inj stepped
        simp [Keys.copies, taken]
    | some slot =>
        rcases (branch_some _ _ _ taken).known with section_slot | rfl | rfl | rfl
        · rw [iteration_section i token next loop slot inner taken section_slot] at stepped
          rw [apply_ntp i next _ (member_action_sized slot token.src) loop after stepped]
          have other : slot ≠ .ntpUrlArray := by
            rintro rfl
            cases section_slot
          simp [Keys.copies, taken, other]
        · simp only [iteration, inner, if_false, taken] at stepped
          obtain rfl := Option.some.inj stepped
          cases sameStart token.src "url" <;> simp [Keys.copies, taken, Loop.remember]
        · simp only [iteration, inner, if_false, taken] at stepped
          obtain rfl := Option.some.inj stepped
          simp [Keys.copies, taken, Loop.remember]
        · simp only [iteration, inner, if_false, taken] at stepped
          obtain ⟨buffer, copied, rfl⟩ := Option.map_eq_some_iff.mp stepped
          have copies : loop.keys.copies token = true := by simp [Keys.copies, inner, taken]
          simp only [copies, if_true, List.foldlM_cons, List.foldlM_nil, copyOver, copied]
          have written : loop.store.put .ntpUrl buffer .ntpUrl = buffer := by simp [Store.put]
          rw [written]
          rfl

theorem iteration_defined (ahead : loop.keys.looksAhead token = true → next ≠ none)
    (short : loop.keys.copies token = true → token.src_len ≤ Setting.ntpUrl.sizeof) :
    (iteration i token next loop).isSome = true := by
  by_cases inner : token.parent = 0 ∧ token.type = .string
  · simp [iteration, inner]
  · cases taken : loop.keys.branch token with
    | none => simp [iteration, inner, taken]
    | some slot =>
        rcases (branch_some _ _ _ taken).known with section_slot | rfl | rfl | rfl
        · rw [iteration_section i token next loop slot inner taken section_slot]
          exact apply_defined i next _ (member_action_sized slot token.src) loop
            (ahead (by simp [Keys.looksAhead, inner, taken, section_slot]))
        · simp [iteration, inner, taken]
        · simp [iteration, inner, taken]
        · have fits := (strncpy_fits (loop.store .ntpUrl) token.src token.src_len).mpr
            (short (by simp [Keys.copies, inner, taken]))
          simpa [iteration, inner, taken] using fits

end Iteration

theorem loop_copies (i : Nat) (tokens : List Token) (loop after : Loop) (ran : tokenLoop i tokens loop = some after) :
    (ntpCopies i loop.keys tokens).foldlM copyOver (loop.store .ntpUrl) = some (after.store .ntpUrl) := by
  induction tokens generalizing i loop with
  | nil =>
      obtain rfl := Option.some.inj ran
      rfl
  | cons token rest ih =>
      obtain ⟨next, stepped, remaining⟩ := Option.bind_eq_some_iff.mp ran
      have later := ih (i + 1) next remaining
      rw [iteration_keys i token _ loop next stepped] at later
      rw [ntpCopies, List.foldlM_append, iteration_copies i token _ loop next stepped]
      exact later

-- Nothing but a read past the end and a copy past the end stops the loop.
theorem loop_defined (i : Nat) (tokens : List Token) (loop : Loop)
    (within : ∀ index ∈ tokenReads i loop.keys tokens, index < i + tokens.length)
    (short : ∀ token ∈ ntpCopies i loop.keys tokens, token.src_len ≤ Setting.ntpUrl.sizeof) :
    (tokenLoop i tokens loop).isSome = true := by
  induction tokens generalizing i loop with
  | nil => rfl
  | cons token rest ih =>
      have first : (iteration i token rest.head? loop).isSome = true := by
        refine iteration_defined i token _ loop (fun ahead => ?_) fun copies => short token (by simp [ntpCopies, copies])
        have read := within (i + 1) (by simp [tokenReads, ahead])
        cases rest with
        | nil => simp at read
        | cons second rest => simp
      obtain ⟨next, stepped⟩ := Option.isSome_iff_exists.mp first
      have keys := iteration_keys i token _ loop next stepped
      rw [tokenLoop, stepped, Option.bind_some]
      apply ih (i + 1) next
      · intro index member
        rw [keys] at member
        have bound := within index (by simp [tokenReads, member])
        rw [List.length_cons] at bound
        omega
      · intro copied member
        rw [keys] at member
        exact short copied (by simp [ntpCopies, member])

theorem remembers_spells (keys : Keys) (token : Token) (item : Item) (spells : Spells token item) :
    keys.remembers token = keys.remembers (ofItem item) := by
  obtain ⟨type, parent, text⟩ := item
  rcases spells_cases token _ spells with ⟨_, rest, rfl⟩ | ⟨string, src, len, rfl⟩
  · have same : keys.branch ⟨type, parent, text ++ quote :: rest, text.length⟩ =
        keys.branch ⟨type, parent, text, text.length⟩ := rfl
    have named : sameStart (text ++ quote :: rest) "url" = sameStart text "url" := same_start_quoted _ _ _ (by decide)
    simp only [Keys.remembers, ofItem, same, root_member_quoted, member_action_quoted, named]
    rfl
  · have same : keys.branch ⟨type, parent, src, len⟩ = keys.branch ⟨type, parent, text, text.length⟩ := rfl
    have other : type ≠ .string := string
    simp only [Keys.remembers, same, ofItem, other, and_false, if_false]
    cases taken : keys.branch ⟨type, parent, text, text.length⟩ with
    | none => rfl
    | some slot =>
        obtain rfl := branch_of_string keys _ slot taken other
        rfl

theorem looks_ahead_spells (keys : Keys) (token : Token) (item : Item) (spells : Spells token item) :
    keys.looksAhead token = keys.looksAhead (ofItem item) := by
  obtain ⟨type, parent, src, src_len⟩ := token
  obtain rfl : type = item.type := spells.type
  obtain rfl : parent = item.parent := spells.parent
  rfl

theorem reads_spell (i : Nat) (keys : Keys) (tokens : List Token) (items : List Item)
    (spelled : List.Forall₂ Spells tokens items) : tokenReads i keys tokens = tokenReads i keys (items.map ofItem) := by
  induction spelled generalizing i keys with
  | nil => rfl
  | @cons token item _ _ spells rest ih =>
      rw [List.map_cons, tokenReads, tokenReads, looks_ahead_spells keys token item spells, Keys.advance, Keys.advance,
        remembers_spells keys token item spells, ih]

section Scan

def copiesOf (i : Nat) (keys : Keys) (items : List Item) : List (List Byte) :=
  (ntpCopies i keys (items.map ofItem)).map Token.src

def advanceAll (i : Nat) (keys : Keys) : List Item → Keys
  | [] => keys
  | item :: rest => advanceAll (i + 1) (keys.advance i (ofItem item)) rest

structure Scans (i : Nat) (items : List Item) (copied : List (List Byte)) (before after : Keys) : Prop where
  copies : copiesOf i before items = copied
  keys : advanceAll i before items = after

theorem scans_nil (i : Nat) (keys : Keys) : Scans i [] [] keys keys := ⟨rfl, rfl⟩

theorem scans_cons (i : Nat) (item : Item) (items : List Item) (copied : List (List Byte)) (keys after : Keys)
    (rest : Scans (i + 1) items copied (keys.advance i (ofItem item)) after) :
    Scans i (item :: items) ((if keys.copies (ofItem item) then [item.text] else []) ++ copied) keys after := by
  refine ⟨?_, rest.keys⟩
  have later := rest.copies
  rw [copiesOf] at later
  rw [copiesOf, List.map_cons, ntpCopies, List.map_append, later]
  split <;> rfl

theorem scans_append (i : Nat) (first second : List Item) (earlier later : List (List Byte)) (before between after : Keys)
    (left : Scans i first earlier before between) (right : Scans (i + first.length) second later between after) :
    Scans i (first ++ second) (earlier ++ later) before after := by
  induction first generalizing i before earlier with
  | nil =>
      obtain ⟨rfl, rfl⟩ := left
      exact right
  | cons item first ih =>
      have rest : Scans (i + 1) first (copiesOf (i + 1) (before.advance i (ofItem item)) first)
          (before.advance i (ofItem item)) between := ⟨rfl, left.keys⟩
      have joined := ih (i + 1) _ _ rest (by simpa [Nat.add_assoc, Nat.add_comm 1] using right)
      have whole := (scans_cons i item first _ before between rest).copies
      rw [left.copies] at whole
      rw [whole, List.append_assoc]
      exact scans_cons i item (first ++ second) _ before after joined

-- The slots that decide what is copied to the NTP address.
def Slot.leads : Slot → Bool
  | .wifi | .lwm2m | .ntp | .ntpUrl | .ntpUrlArray => true
  | _ => false

def Behind (keys : Keys) (bound : Nat) : Prop := ∀ slot, slot.leads = true → watched keys slot < bound

def Kept (before after : Keys) : Prop := ∀ slot, slot.leads = true → after slot = before slot

def Unread (keys : Keys) (item : Item) : Prop :=
  (item.type = .string → item.parent ≠ 0 ∧ watched keys .ntp ≠ item.parent ∧ watched keys .ntpUrlArray ≠ item.parent) ∧
    (item.type = .array → watched keys .ntpUrl ≠ item.parent)

theorem section_remembers (slot field : Slot) (name : List Byte)
    (action : (memberAction slot name).remembered = some field) : field.leads = false := by
  by_cases lwm2m : slot = .lwm2m
  · subst lwm2m
    rcases lwm2m_remembered name field action with rfl | rfl <;> rfl
  · by_cases mqtt : slot = .mqtt
    · subst mqtt
      rcases mqtt_remembered name field action with rfl | rfl <;> rfl
    · rw [others_remember_nothing slot name lwm2m mqtt] at action
      cases action

theorem unread_step (i : Nat) (keys : Keys) (item : Item) (unread : Unread keys item) :
    keys.copies (ofItem item) = false ∧ Kept keys (keys.advance i (ofItem item)) := by
  obtain ⟨string, array⟩ := unread
  have inner : ¬ ((ofItem item).parent = 0 ∧ (ofItem item).type = .string) := fun root => (string root.2).1 root.1
  have branch (slot : Slot) (taken : keys.branch (ofItem item) = some slot) :
      slot ≠ .ntp ∧ slot ≠ .ntpUrl ∧ slot ≠ .ntpUrlArray := by
    refine ⟨?_, ?_, ?_⟩ <;> rintro rfl
    · have held := branch_some keys _ _ taken
      exact (string held.type).2.1 held.hangs
    · have held := branch_some keys _ _ taken
      exact array held.type held.hangs
    · have held := branch_some keys _ _ taken
      exact (string held.type).2.2 held.hangs
  constructor
  · simp only [Keys.copies, inner, if_false, decide_eq_false_iff_not]
    exact fun taken => (branch _ taken).2.2 rfl
  · intro slot leads
    rw [Keys.advance]
    cases named : keys.remembers (ofItem item) with
    | none => rfl
    | some field =>
        refine Function.update_of_ne ?_ (i : Int) keys
        rintro rfl
        simp only [Keys.remembers, inner, if_false] at named
        cases taken : keys.branch (ofItem item) with
        | none => simp [taken] at named
        | some other =>
            obtain ⟨ntp, url, entries⟩ := branch other taken
            rw [taken] at named
            have unled := section_remembers other slot item.text (by cases other <;> first | exact named | contradiction)
            rw [unled] at leads
            cases leads

theorem kept_unread (before after : Keys) (kept : Kept before after) (item : Item) (unread : Unread before item) :
    Unread after item := by
  have ntp := kept .ntp rfl
  have url := kept .ntpUrl rfl
  have entries := kept .ntpUrlArray rfl
  simpa [Unread, watched, Slot.watches, ntp, url, entries] using unread

theorem scans_unread (i : Nat) (items : List Item) (keys : Keys) (unread : ∀ item ∈ items, Unread keys item) :
    ∃ after, Scans i items [] keys after ∧ Kept keys after := by
  induction items generalizing i keys with
  | nil => exact ⟨keys, scans_nil i keys, fun _ _ => rfl⟩
  | cons item rest ih =>
      obtain ⟨skipped, kept⟩ := unread_step i keys item (unread item List.mem_cons_self)
      obtain ⟨after, scans, still⟩ := ih (i + 1) (keys.advance i (ofItem item))
        fun later member => kept_unread _ _ kept later (unread later (List.mem_cons_of_mem _ member))
      refine ⟨after, ?_, fun slot leads => (still slot leads).trans (kept slot leads)⟩
      simpa [skipped] using scans_cons i item rest [] keys after scans

theorem behind_kept (before after : Keys) (bound : Nat) (behind : Behind before bound) (kept : Kept before after) :
    Behind after bound := by
  intro slot leads
  rw [watched, kept slot leads]
  exact behind slot leads

theorem behind_mono (keys : Keys) (bound larger : Nat) (behind : Behind keys bound) (le : bound ≤ larger) :
    Behind keys larger := fun slot leads => Int.lt_of_lt_of_le (behind slot leads) (by omega)

theorem behind_update (keys : Keys) (slot : Slot) (i : Nat) (behind : Behind keys i) :
    Behind (Function.update keys slot i) (i + 2) := by
  intro other leads
  have near := watches_near slot i
  have earlier := behind other leads
  rw [watched_update]
  split <;> omega

theorem unread_later (keys : Keys) (item : Item) (bound : Nat) (behind : Behind keys bound) (positive : 0 < bound)
    (later : (bound : Int) ≤ item.parent) : Unread keys item := by
  have ntp := behind .ntp rfl
  have url := behind .ntpUrl rfl
  have entries := behind .ntpUrlArray rfl
  exact ⟨fun _ => ⟨by omega, by omega, by omega⟩, fun _ => by omega⟩

-- A value of which only the first token could be read.
theorem scans_value (index : Nat) (parent : Int) (value : Json) (keys : Keys) (behind : Behind keys index)
    (positive : 0 < index) (head : Unread keys (firstItem parent value)) :
    ∃ after, Scans index (value.flatten index parent) [] keys after ∧ Kept keys after := by
  apply scans_unread
  exact flatten_forall index parent value (Unread keys) head fun item later => unread_later keys item index behind positive later

-- The loop stands inside the object of a leading slot.
structure Stands (keys : Keys) (slot : Slot) (parent i : Nat) : Prop where
  own : watched keys slot = parent
  alone : ∀ other, other.leads = true → other ≠ slot → watched keys other ≠ parent
  behind : Behind keys i
  positive : 0 < parent
  within : parent < i

theorem stands_mono (keys : Keys) (slot : Slot) (parent i later : Nat) (stands : Stands keys slot parent i) (le : i ≤ later) :
    Stands keys slot parent later :=
  ⟨stands.own, stands.alone, behind_mono keys i later stands.behind le, stands.positive, Nat.lt_of_lt_of_le stands.within le⟩

theorem stands_kept (before after : Keys) (slot : Slot) (leads : slot.leads = true) (parent i : Nat)
    (stands : Stands before slot parent i) (kept : Kept before after) : Stands after slot parent i where
  own := by rw [watched, kept slot leads]; exact stands.own
  alone := fun other led different => by rw [watched, kept other led]; exact stands.alone other led different
  behind := behind_kept before after i stands.behind kept
  positive := stands.positive
  within := stands.within

theorem entry_step (i : Nat) (keys : Keys) (token : Token) (outer : ¬ (token.parent = 0 ∧ token.type = .string))
    (taken : keys.branch token = some .ntpUrlArray) : keys.copies token = true ∧ keys.advance i token = keys := by
  constructor
  · simp [Keys.copies, outer, taken]
  · simp only [Keys.advance, Keys.remembers, outer, if_false, taken]
    rfl

theorem ntp_step (i : Nat) (keys : Keys) (token : Token) (outer : ¬ (token.parent = 0 ∧ token.type = .string))
    (taken : keys.branch token = some .ntp) :
    keys.copies token = false ∧ keys.advance i token = if sameStart token.src "url" then urlKeys keys i else keys := by
  constructor
  · simp [Keys.copies, taken]
  · simp only [Keys.advance, Keys.remembers, outer, if_false, taken]
    cases sameStart token.src "url" <;> rfl

theorem scans_entry (parent i : Nat) (element : Json) (keys : Keys) (stands : Stands keys .ntpUrlArray parent i) :
    ∃ after, Scans i (element.flatten i parent) element.text keys after ∧ Kept keys after := by
  have positive := stands.positive
  have within := stands.within
  have wifi := stands.alone .wifi rfl (by decide)
  have lwm2m := stands.alone .lwm2m rfl (by decide)
  have ntp := stands.alone .ntp rfl (by decide)
  have url := stands.alone .ntpUrl rfl (by decide)
  have own := stands.own
  by_cases string : ∃ raw, element = .string raw
  · obtain ⟨raw, rfl⟩ := string
    simp only [watched, Slot.watches] at wifi lwm2m ntp own
    have outer : ¬ ((ofItem ⟨.string, parent, raw⟩).parent = 0 ∧ (ofItem ⟨.string, parent, raw⟩).type = .string) := by
      simp only [ofItem]
      omega
    have taken : keys.branch (ofItem ⟨.string, parent, raw⟩) = some .ntpUrlArray := by
      simp [Keys.branch, ofItem, wifi, lwm2m, ntp, own]
    obtain ⟨copies, advance⟩ := entry_step i keys _ outer taken
    refine ⟨keys, ?_, fun _ _ => rfl⟩
    have scans := scans_cons i ⟨.string, parent, raw⟩ [] [] keys keys (by rw [advance]; exact scans_nil _ _)
    rw [copies] at scans
    exact scans
  · have nothing : element.text = [] := by cases element <;> simp_all [Json.text]
    rw [nothing]
    apply scans_value i parent element keys stands.behind (by omega)
    have under : (firstItem parent element).parent = parent := by cases element <;> rfl
    have type : (firstItem parent element).type ≠ .string := by cases element <;> simp_all [firstItem]
    exact ⟨fun same => absurd same type, fun _ => by rw [under]; exact url⟩

theorem scans_entries (parent i : Nat) (elements : List Json) (keys : Keys) (stands : Stands keys .ntpUrlArray parent i) :
    ∃ after, Scans i (flattenElements i parent elements) (elements.flatMap Json.text) keys after ∧ Kept keys after := by
  induction elements generalizing i keys with
  | nil => exact ⟨keys, scans_nil i keys, fun _ _ => rfl⟩
  | cons element rest ih =>
      obtain ⟨between, first, kept⟩ := scans_entry parent i element keys stands
      have still := stands_mono _ _ _ _ (i + element.size) (stands_kept keys between _ rfl parent i stands kept) (Nat.le_add_right _ _)
      obtain ⟨after, second, keptAfter⟩ := ih (i + element.size) between still
      refine ⟨after, ?_, fun slot leads => (keptAfter slot leads).trans (kept slot leads)⟩
      exact scans_append i _ _ _ _ keys between after first (by rwa [flatten_length])

theorem stands_new (keys : Keys) (slot : Slot) (i : Nat) (behind : Behind keys i) (next : slot.watches i = i + 1) :
    Stands (Function.update keys slot i) slot (i + 1) (i + 2) where
  own := by rw [watched_update, if_pos rfl, next]; rfl
  alone := by
    intro other leads different
    have earlier := behind other leads
    rw [watched_update, if_neg different]
    omega
  behind := behind_update keys slot i behind
  positive := Nat.succ_pos i
  within := Nat.lt_succ_self _

theorem stands_url (parent i : Nat) (keys : Keys) (stands : Stands keys .ntp parent i) :
    Stands (urlKeys keys i) .ntp parent (i + 1) where
  own := by
    rw [urlKeys, watched_update, if_neg (by decide)]
    exact stands.own
  alone := by
    intro other leads different
    have within := stands.within
    have apart := stands.alone other leads different
    rw [urlKeys, watched_update]
    split
    · simp only [Slot.watches]
      omega
    · exact apart
  behind := by
    intro slot leads
    have earlier := stands.behind slot leads
    rw [urlKeys, watched_update]
    split
    · simp only [Slot.watches]
      omega
    · omega
  positive := stands.positive
  within := Nat.lt_succ_of_lt stands.within

theorem stands_array (parent i : Nat) (keys : Keys) (stands : Stands keys .ntp parent i) :
    Stands (arrayKeys keys i) .ntpUrlArray (i + 1) (i + 2) ∧ Stands (arrayKeys keys i) .ntp parent (i + 2) := by
  have url := stands_url parent i keys stands
  have within := stands.within
  have behind : Behind (arrayKeys keys i) (i + 2) := by
    intro slot leads
    have earlier := url.behind slot leads
    rw [arrayKeys, watched_update]
    split
    · simp only [Slot.watches]
      omega
    · omega
  refine ⟨⟨?_, ?_, behind, Nat.succ_pos i, Nat.lt_succ_self _⟩, ⟨?_, ?_, behind, stands.positive, by omega⟩⟩
  · rw [arrayKeys, watched_update, if_pos rfl]
    rfl
  · intro other leads different
    have earlier := url.behind other leads
    rw [arrayKeys, watched_update, if_neg different]
    omega
  · rw [arrayKeys, watched_update, if_neg (by decide)]
    exact url.own
  · intro other leads different
    have apart := url.alone other leads different
    rw [arrayKeys, watched_update]
    split
    · simp only [Slot.watches]
      omega
    · exact apart

def fieldCopies (field : List Byte × Json) : List (List Byte) :=
  if sameStart field.1 "url" then field.2.elements.flatMap Json.text else []

def memberCopies (member : List Byte × Json) : List (List Byte) :=
  if rootMember member.1 = some .ntp then member.2.members.flatMap fieldCopies else []

-- The strings in the arrays under the names the loop takes for ntp and url.
def documentCopies (root : Json) : List (List Byte) := root.members.flatMap memberCopies

theorem scans_array (i : Nat) (elements : List Json) (keys : Keys) (parent : Nat) (stands : Stands keys .ntp parent i) :
    ∃ after, Scans (i + 1) ((Json.array elements).flatten (i + 1) i) (elements.flatMap Json.text) (urlKeys keys i) after ∧
      Stands after .ntp parent (i + 2) := by
  obtain ⟨array, ntp⟩ := stands_array parent i keys stands
  obtain ⟨after, scans, kept⟩ := scans_entries (i + 1) (i + 2) elements _ array
  refine ⟨after, ?_, stands_kept _ _ _ rfl parent (i + 2) ntp kept⟩
  have taken : (urlKeys keys i).branch (ofItem ⟨.array, i, []⟩) = some .ntpUrl := by simp [Keys.branch, ofItem, urlKeys]
  have copies : (urlKeys keys i).copies (ofItem ⟨.array, i, []⟩) = false := by simp [Keys.copies, taken]
  have advance : (urlKeys keys i).advance (i + 1) (ofItem ⟨.array, i, []⟩) = arrayKeys keys i := by
    have outer : ¬ ((ofItem ⟨.array, i, []⟩).parent = 0 ∧ (ofItem ⟨.array, i, []⟩).type = .string) := by simp [ofItem]
    simp only [Keys.advance, Keys.remembers, outer, if_false, taken]
    rfl
  have whole := scans_cons (i + 1) ⟨.array, i, []⟩ (flattenElements (i + 2) (i + 1 : Nat) elements) _ (urlKeys keys i) after
    (by rw [advance]; exact scans)
  rw [copies] at whole
  exact whole

theorem scans_ntp_field (parent i : Nat) (field : List Byte × Json) (keys : Keys) (stands : Stands keys .ntp parent i) :
    ∃ after, Scans i (⟨.string, parent, field.1⟩ :: field.2.flatten (i + 1) i) (fieldCopies field) keys after ∧
      Stands after .ntp parent (i + (field.2.size + 1)) := by
  obtain ⟨name, value⟩ := field
  have positive := stands.positive
  have within := stands.within
  have larger := size_pos value
  have outer : ¬ ((ofItem ⟨.string, parent, name⟩).parent = 0 ∧ (ofItem ⟨.string, parent, name⟩).type = .string) := by
    simp only [ofItem]
    omega
  have taken : keys.branch (ofItem ⟨.string, parent, name⟩) = some .ntp := by
    have wifi := stands.alone .wifi rfl (by decide)
    have lwm2m := stands.alone .lwm2m rfl (by decide)
    have own := stands.own
    simp only [watched, Slot.watches] at wifi lwm2m own
    simp [Keys.branch, ofItem, wifi, lwm2m, own]
  obtain ⟨copies, advance⟩ := ntp_step i keys _ outer taken
  have named (copied : List (List Byte)) (after : Keys)
      (scans : Scans (i + 1) (value.flatten (i + 1) i) copied (if sameStart name "url" then urlKeys keys i else keys) after) :
      Scans i (⟨.string, parent, name⟩ :: value.flatten (i + 1) i) copied keys after := by
    have whole := scans_cons i ⟨.string, parent, name⟩ _ copied keys after (by rw [advance]; exact scans)
    rw [copies] at whole
    exact whole
  have under : (firstItem i value).parent = i := by cases value <;> rfl
  by_cases url : sameStart name "url" = true
  · simp only [url, if_true, fieldCopies] at named ⊢
    have later := stands_url parent i keys stands
    by_cases array : ∃ elements, value = .array elements
    · obtain ⟨elements, rfl⟩ := array
      obtain ⟨after, scans, still⟩ := scans_array i elements keys parent stands
      exact ⟨after, named _ after scans, stands_mono _ _ _ _ _ still (by omega)⟩
    · have nothing : value.elements = [] := by cases value <;> simp_all [Json.elements]
      obtain ⟨after, scans, kept⟩ := scans_value (i + 1) i value (urlKeys keys i) later.behind (Nat.succ_pos i) (by
        have type : (firstItem i value).type ≠ .array := by cases value <;> simp_all [firstItem]
        refine ⟨fun _ => ?_, fun same => absurd same type⟩
        have entries := stands.behind .ntpUrlArray rfl
        rw [under, urlKeys, watched_update, watched_update, if_neg (by decide), if_neg (by decide), stands.own]
        omega)
      rw [nothing]
      exact ⟨after, named _ after scans, stands_mono _ _ _ _ _ (stands_kept _ _ _ rfl parent _ later kept) (by omega)⟩
  · simp only [url, fieldCopies] at named ⊢
    obtain ⟨after, scans, kept⟩ := scans_unread (i + 1) (value.flatten (i + 1) i) keys (by
      intro item member
      apply unread_later keys item i stands.behind (by omega)
      rcases flatten_parents (i + 1) i value item member with same | deeper <;> omega)
    exact ⟨after, named _ after scans, stands_mono _ _ _ _ _ (stands_kept _ _ _ rfl parent i stands kept) (by omega)⟩

-- A string in an array that stands for the NTP section is read as a name, but
-- no token hangs off it.
theorem scans_ntp_element (parent i : Nat) (element : Json) (keys : Keys) (stands : Stands keys .ntp parent i) :
    ∃ after, Scans i (element.flatten i parent) [] keys after ∧ Stands after .ntp parent (i + element.size) := by
  have positive := stands.positive
  have within := stands.within
  have larger := size_pos element
  by_cases string : ∃ raw, element = .string raw
  · obtain ⟨raw, rfl⟩ := string
    have outer : ¬ ((ofItem ⟨.string, parent, raw⟩).parent = 0 ∧ (ofItem ⟨.string, parent, raw⟩).type = .string) := by
      simp only [ofItem]
      omega
    have taken : keys.branch (ofItem ⟨.string, parent, raw⟩) = some .ntp := by
      have wifi := stands.alone .wifi rfl (by decide)
      have lwm2m := stands.alone .lwm2m rfl (by decide)
      have own := stands.own
      simp only [watched, Slot.watches] at wifi lwm2m own
      simp [Keys.branch, ofItem, wifi, lwm2m, own]
    obtain ⟨copies, advance⟩ := ntp_step i keys _ outer taken
    have whole := scans_cons i ⟨.string, parent, raw⟩ [] [] keys _ (scans_nil _ _)
    rw [copies] at whole
    refine ⟨_, whole, ?_⟩
    rw [advance]
    split
    · exact stands_url parent i keys stands
    · exact stands_mono _ _ _ _ _ stands (Nat.le_succ i)
  · have under : (firstItem parent element).parent = parent := by cases element <;> rfl
    have type : (firstItem parent element).type ≠ .string := by cases element <;> simp_all [firstItem]
    obtain ⟨after, scans, kept⟩ := scans_value i parent element keys stands.behind (by omega)
      ⟨fun same => absurd same type, fun _ => by rw [under]; exact stands.alone .ntpUrl rfl (by decide)⟩
    exact ⟨after, scans, stands_mono _ _ _ _ _ (stands_kept _ _ _ rfl parent i stands kept) (Nat.le_add_right _ _)⟩

theorem scans_ntp_elements (parent i : Nat) (elements : List Json) (keys : Keys) (stands : Stands keys .ntp parent i) :
    ∃ after, Scans i (flattenElements i parent elements) [] keys after ∧ Stands after .ntp parent (i + elementsSize elements) := by
  induction elements generalizing i keys with
  | nil => exact ⟨keys, scans_nil i keys, stands⟩
  | cons element rest ih =>
      obtain ⟨between, first, middle⟩ := scans_ntp_element parent i element keys stands
      obtain ⟨after, second, final⟩ := ih (i + element.size) between middle
      refine ⟨after, ?_, by simpa [elementsSize, Nat.add_assoc] using final⟩
      exact scans_append i _ _ [] [] keys between after first (by rwa [flatten_length])

theorem scans_each (parent : Int) (good : Nat → Keys → Prop) (copied : List Byte × Json → List (List Byte))
    (each : ∀ member i keys, good i keys →
      ∃ after, Scans i (⟨.string, parent, member.1⟩ :: member.2.flatten (i + 1) i) (copied member) keys after ∧
        good (i + (member.2.size + 1)) after)
    (members : List (List Byte × Json)) (i : Nat) (keys : Keys) (holds : good i keys) :
    ∃ after, Scans i (flattenMembers i parent members) (members.flatMap copied) keys after ∧
      good (i + membersSize members) after := by
  induction members generalizing i keys with
  | nil => exact ⟨keys, scans_nil i keys, holds⟩
  | cons member rest ih =>
      obtain ⟨name, value⟩ := member
      obtain ⟨between, first, middle⟩ := each (name, value) i keys holds
      obtain ⟨after, second, final⟩ := ih (i + (value.size + 1)) between middle
      refine ⟨after, ?_, by simpa [membersSize, Nat.add_assoc] using final⟩
      have size : (⟨.string, parent, name⟩ :: value.flatten (i + 1) i : List Item).length = value.size + 1 := by
        simp [flatten_length]
      exact scans_append i _ _ _ _ keys between after first (by rwa [size])

theorem scans_ntp (i : Nat) (value : Json) (keys : Keys) (behind : Behind keys i) (positive : 0 < i) :
    ∃ after, Scans (i + 1) (value.flatten (i + 1) i) (value.members.flatMap fieldCopies) (Function.update keys .ntp i) after ∧
      Behind after (i + (value.size + 1)) := by
  have stands := stands_new keys .ntp i behind rfl
  have url := behind .ntpUrl rfl
  have entries := behind .ntpUrlArray rfl
  have under : (firstItem i value).parent = i := by cases value <;> rfl
  have head : Unread (Function.update keys .ntp i) (firstItem i value) := by
    rw [Unread, under, watched_update, watched_update, watched_update, if_pos rfl, if_neg (by decide), if_neg (by decide)]
    simp only [Slot.watches]
    exact ⟨fun _ => ⟨by omega, by omega, by omega⟩, fun _ => by omega⟩
  obtain ⟨skipped, kept⟩ := unread_step (i + 1) _ _ head
  have inside := stands_kept _ _ _ rfl (i + 1) (i + 2) stands kept
  have opened (inner : List Item) (copied : List (List Byte)) (after : Keys)
      (scans : Scans (i + 2) inner copied (Keys.advance (Function.update keys .ntp i) (i + 1) (ofItem (firstItem i value))) after) :
      Scans (i + 1) (firstItem i value :: inner) copied (Function.update keys .ntp i) after := by
    have whole := scans_cons (i + 1) (firstItem i value) inner copied _ after scans
    rw [skipped] at whole
    exact whole
  have size := size_pos value
  rw [flatten_first]
  cases value with
  | primitive text => exact ⟨_, opened [] [] _ (scans_nil _ _), behind_mono _ (i + 2) _ inside.behind (by omega)⟩
  | string raw => exact ⟨_, opened [] [] _ (scans_nil _ _), behind_mono _ (i + 2) _ inside.behind (by omega)⟩
  | array elements =>
      obtain ⟨after, scans, final⟩ := scans_ntp_elements (i + 1) (i + 2) elements _ inside
      exact ⟨after, opened _ [] after scans, behind_mono _ _ _ final.behind (by simp only [Json.size]; omega)⟩
  | object fields =>
      obtain ⟨after, scans, final⟩ := scans_each (i + 1 : Nat) (fun index now => Stands now .ntp (i + 1) index) fieldCopies
        (fun field index now here => scans_ntp_field (i + 1) index field now here) fields (i + 2) _ inside
      exact ⟨after, opened _ _ after scans, behind_mono _ _ _ final.behind (by simp only [Json.size]; omega)⟩

theorem scans_member (i : Nat) (member : List Byte × Json) (keys : Keys) (behind : Behind keys i) (positive : 0 < i) :
    ∃ after, Scans i (⟨.string, 0, member.1⟩ :: member.2.flatten (i + 1) i) (memberCopies member) keys after ∧
      Behind after (i + (member.2.size + 1)) := by
  obtain ⟨name, value⟩ := member
  have size := size_pos value
  have copies : keys.copies (ofItem ⟨.string, 0, name⟩) = false := rfl
  have remembers : keys.remembers (ofItem ⟨.string, 0, name⟩) = rootMember name := rfl
  have named (copied : List (List Byte)) (after : Keys)
      (scans : Scans (i + 1) (value.flatten (i + 1) i) copied (keys.set i (rootMember name)) after) :
      Scans i (⟨.string, 0, name⟩ :: value.flatten (i + 1) i) copied keys after := by
    have whole := scans_cons i ⟨.string, 0, name⟩ _ copied keys after (by rw [Keys.advance, remembers]; exact scans)
    rw [copies] at whole
    exact whole
  by_cases ntp : rootMember name = some .ntp
  · simp only [ntp, Keys.set, memberCopies, if_true] at named ⊢
    obtain ⟨after, scans, final⟩ := scans_ntp i value keys behind positive
    exact ⟨after, named _ after scans, final⟩
  · have later : Behind (keys.set i (rootMember name)) (i + 2) := by
      cases rootMember name with
      | none => exact behind_mono _ _ _ behind (by omega)
      | some slot => exact behind_update keys slot i behind
    have unread : ∀ item ∈ value.flatten (i + 1) i, Unread (keys.set i (rootMember name)) item := by
      intro item member
      have parent : (i : Int) ≤ item.parent := by
        rcases flatten_parents (i + 1) i value item member with same | deeper <;> omega
      have same (slot : Slot) (other : rootMember name ≠ some slot) : keys.set i (rootMember name) slot = keys slot := by
        cases found : rootMember name with
        | none => rfl
        | some named => exact Function.update_of_ne (fun equal => other (found.trans (congrArg some equal.symm))) (i : Int) keys
      have outside (slot : Slot) (inner : slot = .ntpUrl ∨ slot = .ntpUrlArray) : rootMember name ≠ some slot := by
        intro found
        rcases inner with rfl | rfl <;> simpa using root_member_range name _ found
      have before := unread_later keys item i behind positive parent
      simpa only [Unread, watched, same .ntp ntp, same .ntpUrl (outside _ (.inl rfl)),
        same .ntpUrlArray (outside _ (.inr rfl))] using before
    obtain ⟨after, scans, kept⟩ := scans_unread (i + 1) _ _ unread
    simp only [memberCopies, ntp, if_false]
    exact ⟨after, named [] after scans, behind_kept _ _ _ (behind_mono _ _ _ later (by omega)) kept⟩

theorem document_copies (members : List (List Byte × Json)) :
    copiesOf 0 .unset ((Json.object members).flatten 0 (-1)) = documentCopies (.object members) := by
  have start : Behind .unset 1 := by
    intro slot _
    cases slot <;> decide
  have head : Unread .unset ⟨.object, -1, []⟩ := ⟨fun string => (by cases string), fun array => (by cases array)⟩
  obtain ⟨skipped, kept⟩ := unread_step 0 _ _ head
  obtain ⟨after, scans, _⟩ := scans_each 0 (fun index now => Behind now index ∧ 0 < index) memberCopies
    (by
      rintro member index now ⟨behind, positive⟩
      obtain ⟨after, scans, later⟩ := scans_member index member now behind positive
      exact ⟨after, scans, later, by omega⟩)
    members 1 _ ⟨behind_kept _ _ _ start kept, Nat.one_pos⟩
  have whole := scans_cons 0 ⟨.object, -1, []⟩ _ _ _ after scans
  rw [skipped] at whole
  exact whole.copies

end Scan

end Miso.Config
