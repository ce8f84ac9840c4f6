import Miso.Base.Latest
import Miso.ConfigResult

set_option autoImplicit false

namespace Miso.Config

open Base (Byte ascii sameStart strncpy Latest Tracks latest_unique tracks_start tracks_set tracks_keep tracks_iff)

def Action.remembered : Action → Option Slot
  | .remember slot => some slot
  | _ => none

def Keys.remembers (keys : Keys) (token : Token) : Option Slot :=
  if token.parent = 0 ∧ token.type = .string then rootMember token.src
  else match keys.branch token with
    | none => none
    | some .ntp => if sameStart token.src "url" then some .ntpUrl else none
    | some .ntpUrl => some .ntpUrlArray
    | some slot => (memberAction slot token.src).remembered

def Keys.set (keys : Keys) (i : Nat) : Option Slot → Keys
  | none => keys
  | some slot => Function.update keys slot i

def Keys.advance (keys : Keys) (i : Nat) (token : Token) : Keys := keys.set i (keys.remembers token)

def Keys.looksAhead (keys : Keys) (token : Token) : Bool :=
  if token.parent = 0 ∧ token.type = .string then false
  else match keys.branch token with
    | none => false
    | some slot => slot.section

-- The indices at which the loop reads json_tokens: each token, and the one
-- after it in the branches of the sections.
def tokenReads (i : Nat) (keys : Keys) : List Token → List Nat
  | [] => []
  | token :: rest =>
      i :: (if keys.looksAhead token then [i + 1] else []) ++ tokenReads (i + 1) (keys.advance i token) rest

-- Without a token array the loop starts to read through a null pointer.
def LoadEnv.tokenReads (env : LoadEnv) : List Nat :=
  if env.wants then
    if env.tokenBlock then
      match env.jsmnTokens env.text with
      | .ok tokens => Config.tokenReads 0 .unset (tokens.map (·.read env.text))
      | .error _ => []
    else [0]
  else []

theorem apply_keys (i : Nat) (next : Option Token) (action : Action) (loop after : Loop)
    (applied : applyMember i next action loop = some after) :
    after.keys = loop.keys.set i action.remembered := by
  obtain ⟨value, _, acted⟩ := Option.bind_eq_some_iff.mp applied
  cases action with
  | copyTo setting dest_len =>
      simp only at acted
      split at acted
      · obtain ⟨buffer, _, rfl⟩ := Option.map_eq_some_iff.mp acted
        rfl
      · exact congrArg Loop.keys (Option.some.inj acted).symm
  | remember slot => exact congrArg Loop.keys (Option.some.inj acted).symm
  | ignore => exact congrArg Loop.keys (Option.some.inj acted).symm

theorem iteration_section (i : Nat) (token : Token) (next : Option Token) (loop : Loop) (slot : Slot)
    (inner : ¬ (token.parent = 0 ∧ token.type = .string)) (taken : loop.keys.branch token = some slot)
    (section_slot : slot.section = true) :
    iteration i token next loop = applyMember i next (memberAction slot token.src) loop := by
  simp only [iteration, inner, if_false, taken]
  cases slot <;> first | rfl | cases section_slot

theorem first_match {α : Type} {condition : Prop} [Decidable condition] {here value : α} {rest : Option α}
    (taken : (if condition then some here else rest) = some value) : (condition ∧ value = here) ∨ rest = some value := by
  split at taken
  case isTrue held => exact .inl ⟨held, (Option.some.inj taken).symm⟩
  case isFalse => exact .inr taken

structure Branches (keys : Keys) (token : Token) (slot : Slot) : Prop where
  known : slot.section = true ∨ slot = .ntp ∨ slot = .ntpUrl ∨ slot = .ntpUrlArray
  hangs : watched keys slot = token.parent
  type : token.type = if slot = .ntpUrl then .array else .string

-- All that taking a branch says: the slot has one, its index is the one the
-- token hangs off, and the token is of the type the branch asks for.
theorem branch_some (keys : Keys) (token : Token) (slot : Slot) (taken : keys.branch token = some slot) :
    Branches keys token slot := by
  simp only [Keys.branch] at taken
  rcases first_match taken with ⟨⟨hangs, string⟩, rfl⟩ | taken
  · exact ⟨.inl rfl, hangs, string⟩
  rcases first_match taken with ⟨⟨hangs, string⟩, rfl⟩ | taken
  · exact ⟨.inl rfl, hangs, string⟩
  rcases first_match taken with ⟨⟨hangs, string⟩, rfl⟩ | taken
  · exact ⟨.inr (.inl rfl), hangs, string⟩
  rcases first_match taken with ⟨⟨hangs, array⟩, rfl⟩ | taken
  · exact ⟨.inr (.inr (.inl rfl)), hangs, array⟩
  rcases first_match taken with ⟨⟨hangs, string⟩, rfl⟩ | taken
  · exact ⟨.inr (.inr (.inr rfl)), hangs, string⟩
  rcases first_match taken with ⟨⟨hangs, string⟩, rfl⟩ | taken
  · exact ⟨.inl rfl, hangs, string⟩
  rcases first_match taken with ⟨⟨hangs, string⟩, rfl⟩ | taken
  · exact ⟨.inl rfl, hangs, string⟩
  rcases first_match taken with ⟨⟨hangs, string⟩, rfl⟩ | taken
  · exact ⟨.inl rfl, hangs, string⟩
  rcases first_match taken with ⟨⟨hangs, string⟩, rfl⟩ | taken
  · exact ⟨.inl rfl, hangs, string⟩
  rcases first_match taken with ⟨⟨hangs, string⟩, rfl⟩ | taken
  · exact ⟨.inl rfl, hangs, string⟩
  cases taken

theorem iteration_keys (i : Nat) (token : Token) (next : Option Token) (loop after : Loop)
    (stepped : iteration i token next loop = some after) : after.keys = loop.keys.advance i token := by
  by_cases inner : token.parent = 0 ∧ token.type = .string
  · simp only [iteration, inner, and_self, if_true] at stepped
    obtain rfl := Option.some.inj stepped
    simp only [Keys.advance, Keys.remembers, inner, and_self, if_true]
    cases rootMember token.src <;> rfl
  · cases taken : loop.keys.branch token with
    | none =>
        simp only [iteration, inner, if_false, taken] at stepped
        obtain rfl := Option.some.inj stepped
        simp only [Keys.advance, Keys.remembers, inner, if_false, taken]
        rfl
    | some slot =>
        rcases (branch_some _ _ _ taken).known with section_slot | rfl | rfl | rfl
        · rw [iteration_section i token next loop slot inner taken section_slot] at stepped
          rw [apply_keys i next _ loop after stepped]
          simp only [Keys.advance, Keys.remembers, inner, if_false, taken]
          cases slot <;> first | rfl | cases section_slot
        · simp only [iteration, inner, if_false, taken] at stepped
          obtain rfl := Option.some.inj stepped
          simp only [Keys.advance, Keys.remembers, inner, if_false, taken]
          split <;> rfl
        · simp only [iteration, inner, if_false, taken] at stepped
          obtain rfl := Option.some.inj stepped
          simp only [Keys.advance, Keys.remembers, inner, if_false, taken]
          rfl
        · simp only [iteration, inner, if_false, taken] at stepped
          obtain ⟨buffer, _, rfl⟩ := Option.map_eq_some_iff.mp stepped
          simp only [Keys.advance, Keys.remembers, inner, if_false, taken]
          rfl

theorem iteration_reads (i : Nat) (token : Token) (next : Option Token) (loop after : Loop)
    (stepped : iteration i token next loop = some after) (ahead : loop.keys.looksAhead token = true) : next ≠ none := by
  rintro rfl
  simp only [Keys.looksAhead] at ahead
  split at ahead
  case isTrue => cases ahead
  case isFalse inner =>
    cases taken : loop.keys.branch token with
    | none => simp [taken] at ahead
    | some slot =>
        simp only [taken] at ahead
        rw [iteration_section i token none loop slot inner taken ahead] at stepped
        cases stepped

-- A loop that comes to its end has read its tokens only.
theorem loop_reads_within (i : Nat) (tokens : List Token) (loop after : Loop) (ran : tokenLoop i tokens loop = some after) :
    ∀ index ∈ tokenReads i loop.keys tokens, index < i + tokens.length := by
  induction tokens generalizing i loop with
  | nil => simp [tokenReads]
  | cons token rest ih =>
      obtain ⟨next, stepped, remaining⟩ := Option.bind_eq_some_iff.mp ran
      have later := ih (i + 1) next remaining
      rw [iteration_keys i token _ loop next stepped] at later
      intro index member
      simp only [tokenReads, List.cons_append, List.mem_cons, List.mem_append] at member
      rw [List.length_cons]
      rcases member with rfl | ahead | inside
      · omega
      · split at ahead
        case isTrue looks =>
          have more := iteration_reads i token _ loop next stepped looks
          cases rest with
          | nil => exact absurd rfl more
          | cons second rest =>
              simp only [List.mem_singleton] at ahead
              rw [List.length_cons]
              omega
        case isFalse => cases ahead
      · have bound := later index inside
        omega

theorem root_member_range (name : List Byte) (slot : Slot) (named : rootMember name = some slot) :
    slot = .wifi ∨ slot = .lwm2m ∨ slot = .ntp ∨ slot = .mqtt ∨ slot = .http ∨ slot = .config := by
  simp only [rootMember] at named
  split_ifs at named <;> cases named <;> simp

theorem lwm2m_remembered (name : List Byte) (field : Slot) (named : (memberAction .lwm2m name).remembered = some field) :
    field = .lwm2mPsk ∨ field = .lwm2mCert := by
  simp only [memberAction, lwm2mMember] at named
  split_ifs at named <;> cases named <;> simp

theorem mqtt_remembered (name : List Byte) (field : Slot) (named : (memberAction .mqtt name).remembered = some field) :
    field = .mqttPsk ∨ field = .mqttCert := by
  simp only [memberAction, mqttMember] at named
  split_ifs at named <;> cases named <;> simp

-- Only the LWM2M and the MQTT section have names that are remembered.
theorem others_remember_nothing (slot : Slot) (name : List Byte) (lwm2m : slot ≠ .lwm2m) (mqtt : slot ≠ .mqtt) :
    (memberAction slot name).remembered = none := by
  cases slot with
  | wifi =>
      simp only [memberAction, wifiMember]
      split_ifs <;> rfl
  | http =>
      simp only [memberAction, httpMember]
      split_ifs <;> rfl
  | config =>
      simp only [memberAction, configMember]
      split_ifs <;> rfl
  | lwm2mPsk | mqttPsk =>
      simp only [memberAction, lwm2mPskMember, mqttPskMember, pskMember]
      split_ifs <;> rfl
  | lwm2m => exact absurd rfl lwm2m
  | mqtt => exact absurd rfl mqtt
  | _ => rfl

section Document

variable (tokens : List Token)

def SectionName (slot : Slot) (j : Nat) : Prop :=
  ∃ token ∈ tokens[j]?, token.type = .string ∧ token.parent = 0 ∧ rootMember token.src = some slot

-- A string that hangs off the value of the last name of a kind before it: the
-- value of a name is the token after it.
def Under (names : Nat → Prop) (j : Nat) : Prop :=
  ∃ token ∈ tokens[j]?, token.type = .string ∧ token.parent ≠ 0 ∧ ∃ k < j, Latest names j k ∧ token.parent = k + 1

def UrlName (j : Nat) : Prop :=
  Under tokens (SectionName tokens .ntp) j ∧ ∃ token ∈ tokens[j]?, sameStart token.src "url" = true

def UrlArray (j : Nat) : Prop :=
  ∃ token ∈ tokens[j]?, token.type = .array ∧ ∃ k < j, Latest (UrlName tokens) j k ∧ token.parent = k

def UrlEntry (j : Nat) : Prop :=
  ∃ token ∈ tokens[j]?, token.type = .string ∧ token.parent ≠ 0 ∧ ∃ k < j, Latest (UrlArray tokens) j k ∧ token.parent = k

def FieldName (slot field : Slot) (j : Nat) : Prop :=
  Under tokens (SectionName tokens slot) j ∧ ∃ token ∈ tokens[j]?, (memberAction slot token.src).remembered = some field

-- The names and the array a slot stands for.
def Remembered : Slot → Nat → Prop
  | .wifi => SectionName tokens .wifi
  | .lwm2m => SectionName tokens .lwm2m
  | .ntp => SectionName tokens .ntp
  | .mqtt => SectionName tokens .mqtt
  | .http => SectionName tokens .http
  | .config => SectionName tokens .config
  | .ntpUrl => UrlName tokens
  | .ntpUrlArray => UrlArray tokens
  | .lwm2mPsk => FieldName tokens .lwm2m .lwm2mPsk
  | .lwm2mCert => FieldName tokens .lwm2m .lwm2mCert
  | .mqttPsk => fun j => ¬ UrlEntry tokens j ∧ FieldName tokens .mqtt .mqttPsk j
  | .mqttCert => fun j => ¬ UrlEntry tokens j ∧ FieldName tokens .mqtt .mqttCert j

-- The strings after which the loop reads one token more, which need not be there.
def LooksAhead (j : Nat) : Prop :=
  Under tokens (Remembered tokens .wifi) j ∨ Under tokens (Remembered tokens .lwm2m) j ∨
    (¬ UrlEntry tokens j ∧
      (Under tokens (Remembered tokens .mqtt) j ∨ Under tokens (Remembered tokens .lwm2mPsk) j ∨
        Under tokens (Remembered tokens .mqttPsk) j ∨ Under tokens (Remembered tokens .http) j ∨
        Under tokens (Remembered tokens .config) j))

instance (slot : Slot) : DecidablePred (SectionName tokens slot) := fun j =>
  inferInstanceAs (Decidable (∃ token ∈ tokens[j]?, _))

instance (names : Nat → Prop) [DecidablePred names] : DecidablePred (Under tokens names) := fun j =>
  inferInstanceAs (Decidable (∃ token ∈ tokens[j]?, _))

instance : DecidablePred (UrlName tokens) := fun _ => inferInstanceAs (Decidable (_ ∧ _))

instance : DecidablePred (UrlArray tokens) := fun j => inferInstanceAs (Decidable (∃ token ∈ tokens[j]?, _))

instance : DecidablePred (UrlEntry tokens) := fun j => inferInstanceAs (Decidable (∃ token ∈ tokens[j]?, _))

instance (slot field : Slot) : DecidablePred (FieldName tokens slot field) := fun _ => inferInstanceAs (Decidable (_ ∧ _))

instance : (slot : Slot) → DecidablePred (Remembered tokens slot)
  | .wifi | .lwm2m | .ntp | .mqtt | .http | .config => inferInstanceAs (DecidablePred (SectionName tokens _))
  | .ntpUrl => inferInstanceAs (DecidablePred (UrlName tokens))
  | .ntpUrlArray => inferInstanceAs (DecidablePred (UrlArray tokens))
  | .lwm2mPsk | .lwm2mCert => inferInstanceAs (DecidablePred (FieldName tokens .lwm2m _))
  | .mqttPsk | .mqttCert => fun j => inferInstanceAs (Decidable (¬ UrlEntry tokens j ∧ FieldName tokens .mqtt _ j))

instance : DecidablePred (LooksAhead tokens) := fun _ => inferInstanceAs (Decidable (_ ∨ _))

theorem under_token (names : Nat → Prop) (i : Nat) (token : Token) (here : tokens[i]? = some token)
    (under : Under tokens names i) : token.type = .string ∧ token.parent ≠ 0 := by
  obtain ⟨other, there, string, inner, _⟩ := under
  obtain rfl := Option.some.inj (here.symm.trans there)
  exact ⟨string, inner⟩

theorem section_name_token (slot : Slot) (i : Nat) (token : Token) (here : tokens[i]? = some token)
    (named : SectionName tokens slot i) : token.type = .string ∧ token.parent = 0 ∧ rootMember token.src = some slot := by
  obtain ⟨other, there, held⟩ := named
  obtain rfl := Option.some.inj (here.symm.trans there)
  exact held

theorem under_names_meet (left right : Nat → Prop) (i : Nat) (first : Under tokens left i) (second : Under tokens right i) :
    ∃ k token, tokens[i]? = some token ∧ left k ∧ right k := by
  obtain ⟨token, here, _, _, k, _, latest, parent⟩ := first
  obtain ⟨other, there, _, _, l, _, otherLatest, otherParent⟩ := second
  obtain rfl := Option.some.inj (here.symm.trans there)
  obtain rfl : k = l := by omega
  exact ⟨k, token, here, latest.2.1, otherLatest.2.1⟩

-- A token hangs off one section at most.
theorem under_section_unique (left right : Slot) (i : Nat) (first : Under tokens (SectionName tokens left) i)
    (second : Under tokens (SectionName tokens right) i) : left = right := by
  obtain ⟨k, _, _, ⟨token, here, named⟩, otherNamed⟩ := under_names_meet tokens _ _ i first second
  have held := section_name_token tokens right k token here otherNamed
  exact Option.some.inj (named.2.2.symm.trans held.2.2)

theorem under_field_section (slot field other : Slot) (i : Nat) (names : Nat → Prop)
    (fields : ∀ j, names j → FieldName tokens slot field j) (first : Under tokens names i)
    (second : Under tokens (SectionName tokens other) i) : False := by
  obtain ⟨k, _, _, named, otherNamed⟩ := under_names_meet tokens _ _ i first second
  obtain ⟨under, token, here, _⟩ := fields k named
  exact (under_token tokens _ k token here under).2 (section_name_token tokens other k token here otherNamed).2.1

section Token

variable (keys : Keys) (i : Nat) (token : Token) (here : tokens[i]? = some token) (linked : -1 ≤ token.parent)
  (tracked : ∀ slot, Tracks (Remembered tokens slot) (-128) i (keys slot))

include here linked tracked

theorem under_iff (slot : Slot) (string : token.type = .string) (inner : token.parent ≠ 0) :
    keys slot + 1 = token.parent ↔ Under tokens (Remembered tokens slot) i := by
  rw [tracks_iff (Remembered tokens slot) (-128) i (keys slot) (tracked slot) 1 token.parent (by omega)]
  constructor
  · rintro ⟨k, latest, parent⟩
    exact ⟨token, here, string, inner, k, latest.1, latest, parent⟩
  · rintro ⟨other, there, _, _, k, _, latest, parent⟩
    obtain rfl := Option.some.inj (here.symm.trans there)
    exact ⟨k, latest, parent⟩

theorem url_array_iff (array : token.type = .array) : keys .ntpUrl = token.parent ↔ UrlArray tokens i := by
  have found := tracks_iff (Remembered tokens .ntpUrl) (-128) i (keys .ntpUrl) (tracked .ntpUrl) 0 token.parent (by omega)
  simp only [Int.add_zero] at found
  rw [found]
  constructor
  · rintro ⟨k, latest, parent⟩
    exact ⟨token, here, array, k, latest.1, latest, parent⟩
  · rintro ⟨other, there, _, k, _, latest, parent⟩
    obtain rfl := Option.some.inj (here.symm.trans there)
    exact ⟨k, latest, parent⟩

theorem url_entry_iff (string : token.type = .string) (inner : token.parent ≠ 0) :
    keys .ntpUrlArray = token.parent ↔ UrlEntry tokens i := by
  have found := tracks_iff (Remembered tokens .ntpUrlArray) (-128) i (keys .ntpUrlArray) (tracked .ntpUrlArray) 0 token.parent
    (by omega)
  simp only [Int.add_zero] at found
  rw [found]
  constructor
  · rintro ⟨k, latest, parent⟩
    exact ⟨token, here, string, inner, k, latest.1, latest, parent⟩
  · rintro ⟨other, there, _, _, k, _, latest, parent⟩
    obtain rfl := Option.some.inj (here.symm.trans there)
    exact ⟨k, latest, parent⟩

theorem ntp_alone (string : token.type = .string) (inner : token.parent ≠ 0) (ntp : keys .ntp + 1 = token.parent)
    (slot : Slot) (section_slot : slot.section = true) : keys slot + 1 ≠ token.parent := by
  intro both
  have other := (under_iff tokens keys i token here linked tracked .ntp string inner).mp ntp
  have under := (under_iff tokens keys i token here linked tracked slot string inner).mp both
  cases slot with
  | wifi | lwm2m | mqtt | http | config => cases under_section_unique tokens _ .ntp i under other
  | lwm2mPsk => exact under_field_section tokens .lwm2m .lwm2mPsk .ntp i _ (fun _ named => named) under other
  | mqttPsk => exact under_field_section tokens .mqtt .mqttPsk .ntp i _ (fun _ named => named.2) under other
  | ntp | ntpUrl | ntpUrlArray | lwm2mCert | mqttCert => cases section_slot

theorem looks_ahead_iff : keys.looksAhead token = true ↔ LooksAhead tokens i := by
  by_cases member : token.type = .string ∧ token.parent ≠ 0
  · obtain ⟨string, inner⟩ := member
    have under (slot : Slot) := under_iff tokens keys i token here linked tracked slot string inner
    have entry := url_entry_iff tokens keys i token here linked tracked string inner
    have alone := ntp_alone tokens keys i token here linked tracked string inner
    simp only [Keys.looksAhead, inner, if_false, Keys.branch, string, and_true, reduceCtorEq, and_false, LooksAhead,
      ← under, ← entry]
    by_cases wifi : keys .wifi + 1 = token.parent
    · simp [wifi, Slot.section]
    by_cases lwm2m : keys .lwm2m + 1 = token.parent
    · simp [wifi, lwm2m, Slot.section]
    by_cases ntp : keys .ntp + 1 = token.parent
    · have others := alone ntp
      simp [wifi, lwm2m, ntp, Slot.section, others .mqtt rfl, others .lwm2mPsk rfl, others .mqttPsk rfl, others .http rfl,
        others .config rfl]
    simp only [wifi, lwm2m, ntp, if_false, false_or]
    by_cases entered : keys .ntpUrlArray = token.parent
    · simp [entered, Slot.section]
    by_cases mqtt : keys .mqtt + 1 = token.parent
    · simp [entered, mqtt, Slot.section]
    by_cases lwm2mPsk : keys .lwm2mPsk + 1 = token.parent
    · simp [entered, mqtt, lwm2mPsk, Slot.section]
    by_cases mqttPsk : keys .mqttPsk + 1 = token.parent
    · simp [entered, mqtt, lwm2mPsk, mqttPsk, Slot.section]
    by_cases http : keys .http + 1 = token.parent
    · simp [entered, mqtt, lwm2mPsk, mqttPsk, http, Slot.section]
    by_cases config : keys .config + 1 = token.parent <;>
      simp [entered, mqtt, lwm2mPsk, mqttPsk, http, config, Slot.section]
  · have nothing (names : Nat → Prop) : ¬ Under tokens names i :=
      fun under => member (under_token tokens names i token here under)
    refine iff_of_false ?_ (by simp [LooksAhead, nothing])
    simp only [Keys.looksAhead]
    split
    case isTrue => exact Bool.false_ne_true
    case isFalse inner =>
      have other : token.type ≠ .string := fun string => inner ⟨by_contra fun outer => member ⟨string, outer⟩, string⟩
      cases taken : keys.branch token with
      | none => exact Bool.false_ne_true
      | some slot =>
          obtain rfl := branch_of_string keys token slot taken other
          exact Bool.false_ne_true

omit linked tracked in
theorem remembered_kinds (slot : Slot) : Remembered tokens slot i ↔
    (token.type = .string ∧ token.parent = 0 ∧ rootMember token.src = some slot) ∨
      (Under tokens (SectionName tokens .ntp) i ∧ sameStart token.src "url" = true ∧ slot = .ntpUrl) ∨
      (UrlArray tokens i ∧ slot = .ntpUrlArray) ∨
      (Under tokens (SectionName tokens .lwm2m) i ∧ (memberAction .lwm2m token.src).remembered = some slot) ∨
      (¬ UrlEntry tokens i ∧ Under tokens (SectionName tokens .mqtt) i ∧
        (memberAction .mqtt token.src).remembered = some slot) := by
  have held (holds : Token → Prop) : (∃ other ∈ tokens[i]?, holds other) ↔ holds token := by simp [here]
  have root := root_member_range token.src slot
  have lwm2m := lwm2m_remembered token.src slot
  have mqtt := mqtt_remembered token.src slot
  cases slot <;> simp_all [Remembered, SectionName, UrlName, FieldName]

omit linked tracked in
theorem url_array_token (array : UrlArray tokens i) : token.type = .array := by
  obtain ⟨other, there, type, _⟩ := array
  obtain rfl := Option.some.inj (here.symm.trans there)
  exact type

omit here linked tracked in
-- The branches of the other sections remember nothing.
theorem remembers_elsewhere (string : token.type = .string) (inner : token.parent ≠ 0)
    (elsewhere : ∀ slot ∈ [Slot.wifi, .lwm2m, .ntp, .ntpUrlArray, .mqtt], watched keys slot ≠ token.parent) :
    keys.remembers token = none := by
  simp only [Keys.remembers, inner, false_and, if_false]
  cases taken : keys.branch token with
  | none => rfl
  | some slot =>
      have held := branch_some keys token slot taken
      have other := fun listed => elsewhere slot listed held.hangs
      cases slot with
      | wifi | lwm2m | ntp | ntpUrlArray | mqtt => exact absurd (by decide) other
      | ntpUrl => cases held.type.symm.trans string
      | lwm2mPsk | mqttPsk | http | config | lwm2mCert | mqttCert =>
          exact others_remember_nothing _ token.src (by decide) (by decide)

theorem remembers_member (string : token.type = .string) (inner : token.parent ≠ 0) (slot : Slot) :
    keys.remembers token = some slot ↔ Remembered tokens slot i := by
  have under (section_slot : Slot) := under_iff tokens keys i token here linked tracked section_slot string inner
  have entry := url_entry_iff tokens keys i token here linked tracked string inner
  have alone := ntp_alone tokens keys i token here linked tracked string inner
  have array : ¬ UrlArray tokens i := fun array => by simp [url_array_token tokens i token here array] at string
  have apart (left right : Slot) (first : Under tokens (SectionName tokens left) i)
      (second : Under tokens (SectionName tokens right) i) := under_section_unique tokens left right i first second
  have lwm2m := under .lwm2m
  have mqtt := under .mqtt
  have ntp := under .ntp
  have wifi := under .wifi
  simp only [Remembered] at lwm2m mqtt ntp wifi
  rw [remembered_kinds tokens i token here slot]
  simp only [inner, and_false, false_and, array, false_or, ← lwm2m, ← mqtt, ← ntp, ← entry]
  by_cases inWifi : keys .wifi + 1 = token.parent
  · have noNtp : ¬ keys .ntp + 1 = token.parent := fun both => by cases apart .wifi .ntp (wifi.mp inWifi) (ntp.mp both)
    have noLwm2m : ¬ keys .lwm2m + 1 = token.parent := fun both => by cases apart .wifi .lwm2m (wifi.mp inWifi) (lwm2m.mp both)
    have noMqtt : ¬ keys .mqtt + 1 = token.parent := fun both => by cases apart .wifi .mqtt (wifi.mp inWifi) (mqtt.mp both)
    simp [Keys.remembers, Keys.branch, string, inner, inWifi, noNtp, noLwm2m, noMqtt, others_remember_nothing .wifi]
  by_cases inLwm2m : keys .lwm2m + 1 = token.parent
  · have noNtp : ¬ keys .ntp + 1 = token.parent := fun both => by cases apart .lwm2m .ntp (lwm2m.mp inLwm2m) (ntp.mp both)
    have noMqtt : ¬ keys .mqtt + 1 = token.parent := fun both => by cases apart .lwm2m .mqtt (lwm2m.mp inLwm2m) (mqtt.mp both)
    simp [Keys.remembers, Keys.branch, string, inner, inWifi, inLwm2m, noNtp, noMqtt]
  by_cases inNtp : keys .ntp + 1 = token.parent
  · have noMqtt := alone inNtp .mqtt rfl
    simp only [Keys.remembers, Keys.branch, string, inner, inWifi, inLwm2m, inNtp, noMqtt, false_and, and_true, if_true,
      if_false]
    cases sameStart token.src "url" <;> simp [eq_comm]
  by_cases inEntry : keys .ntpUrlArray = token.parent
  · simp [Keys.remembers, Keys.branch, string, inner, inWifi, inLwm2m, inNtp, inEntry, memberAction, Action.remembered]
  by_cases inMqtt : keys .mqtt + 1 = token.parent
  · simp [Keys.remembers, Keys.branch, string, inner, inWifi, inLwm2m, inNtp, inEntry, inMqtt]
  have silent : keys.remembers token = none := by
    apply remembers_elsewhere keys token string inner
    simp only [List.forall_mem_cons]
    exact ⟨inWifi, inLwm2m, inNtp, inEntry, inMqtt, fun _ member => absurd member List.not_mem_nil⟩
  simp [silent, inLwm2m, inNtp, inMqtt]

theorem remembers_iff (slot : Slot) : keys.remembers token = some slot ↔ Remembered tokens slot i := by
  by_cases string : token.type = .string
  · by_cases outer : token.parent = 0
    · rw [remembered_kinds tokens i token here slot]
      have nothing (names : Nat → Prop) : ¬ Under tokens names i :=
        fun under => (under_token tokens names i token here under).2 outer
      have array : ¬ UrlArray tokens i := fun array => by simp [url_array_token tokens i token here array] at string
      simp [Keys.remembers, outer, string, nothing, array]
    · exact remembers_member tokens keys i token here linked tracked string outer slot
  · rw [remembered_kinds tokens i token here slot]
    have nothing (names : Nat → Prop) : ¬ Under tokens names i :=
      fun under => string (under_token tokens names i token here under).1
    by_cases array : token.type = .array
    · have found := url_array_iff tokens keys i token here linked tracked array
      simp only [Keys.remembers, Keys.branch, array, reduceCtorEq, and_false, if_false, and_true, false_and, nothing,
        false_or, or_false, ← found]
      by_cases hangs : keys .ntpUrl = token.parent <;> simp [hangs, eq_comm]
    · have noArray : ¬ UrlArray tokens i := fun held => array (url_array_token tokens i token here held)
      simp [Keys.remembers, Keys.branch, array, string, nothing, noArray]

theorem tracked_advance (slot : Slot) : Tracks (Remembered tokens slot) (-128) (i + 1) (keys.advance i token slot) := by
  have remembers := remembers_iff tokens keys i token here linked tracked slot
  by_cases held : Remembered tokens slot i
  · have updated : keys.advance i token slot = i := by
      rw [Keys.advance, remembers.mpr held]
      exact Function.update_self slot (i : Int) keys
    rw [updated]
    exact tracks_set (Remembered tokens slot) (-128) i held
  · have kept : keys.advance i token slot = keys slot := by
      rw [Keys.advance]
      cases named : keys.remembers token with
      | none => rfl
      | some other =>
          have different : slot ≠ other := fun same => held (remembers.mp (same ▸ named))
          exact Function.update_of_ne different (i : Int) keys
    rw [kept]
    exact tracks_keep (Remembered tokens slot) (-128) i (keys slot) (tracked slot) held

end Token

theorem looks_ahead_within (j : Nat) (ahead : LooksAhead tokens j) : j < tokens.length := by
  have under (names : Nat → Prop) (hangs : Under tokens names j) : j < tokens.length := by
    obtain ⟨token, here, _⟩ := hangs
    exact (List.getElem?_eq_some_iff.mp here).1
  rcases ahead with hangs | hangs | ⟨_, hangs | hangs | hangs | hangs | hangs⟩ <;> exact under _ hangs

-- A read is of a token or of what follows one of those strings.
theorem reads_iff (seen rest : List Token) (keys : Keys) (whole : tokens = seen ++ rest)
    (linked : ∀ token ∈ tokens, -1 ≤ token.parent)
    (tracked : ∀ slot, Tracks (Remembered tokens slot) (-128) seen.length (keys slot)) (index : Nat) :
    index ∈ tokenReads seen.length keys rest ↔
      (seen.length ≤ index ∧ index < tokens.length) ∨ ∃ j, seen.length ≤ j ∧ LooksAhead tokens j ∧ index = j + 1 := by
  induction rest generalizing seen keys with
  | nil =>
      have all : tokens.length = seen.length := by rw [whole, List.append_nil]
      simp only [tokenReads, List.not_mem_nil, false_iff, not_or, not_exists]
      refine ⟨by omega, fun j ⟨from_here, ahead, _⟩ => ?_⟩
      have within := looks_ahead_within tokens j ahead
      omega
  | cons token rest ih =>
      have here : tokens[seen.length]? = some token := by simp [whole]
      have parent := linked token (by simp [whole])
      have further := ih (seen ++ [token]) (keys.advance seen.length token) (by simp [whole])
      rw [List.length_append, List.length_singleton] at further
      have later := further (tracked_advance tokens keys seen.length token here parent tracked)
      have size : tokens.length = seen.length + 1 + rest.length := by
        rw [whole, List.length_append, List.length_cons]
        omega
      have ahead := looks_ahead_iff tokens keys seen.length token here parent tracked
      have first : index ∈ (if keys.looksAhead token then [seen.length + 1] else []) ↔
          LooksAhead tokens seen.length ∧ index = seen.length + 1 := by
        rw [← ahead]
        cases keys.looksAhead token <;> simp
      simp only [tokenReads, List.cons_append, List.mem_cons, List.mem_append, first, later]
      constructor
      · rintro (rfl | ⟨looks, rfl⟩ | ⟨from_here, within⟩ | ⟨j, from_here, looks, rfl⟩)
        · exact .inl ⟨Nat.le_refl _, by omega⟩
        · exact .inr ⟨seen.length, Nat.le_refl _, looks, rfl⟩
        · exact .inl ⟨by omega, within⟩
        · exact .inr ⟨j, by omega, looks, rfl⟩
      · rintro (⟨from_here, within⟩ | ⟨j, from_here, looks, rfl⟩)
        · by_cases same : index = seen.length
          · exact .inl same
          · exact .inr (.inr (.inl ⟨by omega, within⟩))
        · by_cases same : j = seen.length
          · subst same
            exact .inr (.inl ⟨looks, rfl⟩)
          · exact .inr (.inr (.inr ⟨j, by omega, looks, rfl⟩))

theorem document_reads_iff (linked : ∀ token ∈ tokens, -1 ≤ token.parent) (index : Nat) :
    index ∈ tokenReads 0 .unset tokens ↔ index < tokens.length ∨ ∃ j, LooksAhead tokens j ∧ index = j + 1 := by
  have start (slot : Slot) : Tracks (Remembered tokens slot) (-128) 0 (Keys.unset slot) := tracks_start _ (-128)
  have reads := reads_iff tokens [] tokens .unset rfl linked start index
  simpa using reads

end Document

theorem loaded_reads (env : LoadEnv) (tokens : List JsmnTok) (loads : env.Loads tokens) :
    env.tokenReads = tokenReads 0 .unset (tokens.map (·.read env.text)) := by
  have parses : env.parses = true := by
    simp [LoadEnv.parses, LoadEnv.reads, LoadEnv.readBuffer, loads.fOpen, loads.readBlock, loads.fRead]
  cases tokens with
  | nil =>
      have nothing : env.wants = false := by simp [LoadEnv.wants, loads.jsmnCount]
      simp [LoadEnv.tokenReads, nothing, tokenReads]
  | cons token rest =>
      have wants : env.wants = true := by
        simp only [LoadEnv.wants, parses, loads.jsmnCount, List.length_cons, Bool.true_and, gt_iff_lt, decide_eq_true_eq]
        omega
      simp [LoadEnv.tokenReads, wants, loads.tokenBlock, loads.jsmnTokens]

-- Whatever the parser makes of the file, the tokens are read within the array
-- exactly when its last token is not one the loop looks past.
theorem token_reads_within (env : LoadEnv) (tokens : List JsmnTok) (loads : env.Loads tokens)
    (linked : ∀ token ∈ tokens, -1 ≤ token.parent) :
    (∀ index ∈ env.tokenReads, index < tokens.length) ↔
      ¬ LooksAhead (tokens.map (·.read env.text)) (tokens.length - 1) := by
  have links : ∀ token ∈ tokens.map (·.read env.text), -1 ≤ token.parent := by
    intro token member
    obtain ⟨source, inside, rfl⟩ := List.mem_map.mp member
    exact linked source inside
  have size : (tokens.map (·.read env.text)).length = tokens.length := List.length_map _
  rw [loaded_reads env tokens loads]
  constructor
  · intro bounded ahead
    have within := looks_ahead_within _ _ ahead
    have read := (document_reads_iff _ links (tokens.length - 1 + 1)).mpr (.inr ⟨tokens.length - 1, ahead, rfl⟩)
    have past := bounded _ read
    omega
  · intro last index member
    rcases (document_reads_iff _ links index).mp member with inside | ⟨j, ahead, rfl⟩
    · omega
    · have within := looks_ahead_within _ _ ahead
      have other : j ≠ tokens.length - 1 := fun same => last (same ▸ ahead)
      omega

theorem token_reads_within_home :
    ¬ LooksAhead (homeTokens.map (·.read homeFile)) (homeTokens.length - 1) ∧
      ∀ index ∈ (LoadEnv.given homeFile homeTokens).tokenReads, index < homeTokens.length := by
  have last : ¬ LooksAhead (homeTokens.map (·.read homeFile)) (homeTokens.length - 1) := by decide
  exact ⟨last, (token_reads_within (.given homeFile homeTokens) homeTokens (given_loads _ _) (by decide)).mpr last⟩

def listFile : List Byte := ascii "\x7b\"wifi\":[\"x\"]\x7d"

def listTokens : List JsmnTok := [⟨.object, 0, 14, -1⟩, ⟨.string, 2, 6, 0⟩, ⟨.array, 8, 13, 1⟩, ⟨.string, 10, 11, 2⟩]

-- The last token of this file is taken for a name of the WLAN section.
theorem list_reads_past :
    Tokenized listFile listTokens (.object [(ascii "wifi", .array [.string (ascii "x")])]) ∧
      (LoadEnv.given listFile listTokens).Loads listTokens ∧
      ¬ ∀ index ∈ (LoadEnv.given listFile listTokens).tokenReads, index < listTokens.length :=
  ⟨by decide, given_loads _ _, by decide⟩

end Miso.Config
