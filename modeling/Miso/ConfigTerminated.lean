import Miso.Base.Run
import Miso.ConfigResult

set_option autoImplicit false

namespace Miso.Config

open Base (Byte Buffer Reach ascii cText c_text_length memset padded padded_length store_full strlen strncpy strncpy_fits
  strncpy_full strncpy_terminated)

inductive Call where
  | configSet (setter : Setter) (argument : List Byte)
  | misoLoadConfig (env : LoadEnv)

def callStep (store : Store) : Call → Option Store
  | .configSet setter argument => configSet store setter argument
  | .misoLoadConfig env => (misoLoadConfig env store).map Prod.fst

def memberShort (value : Token) : Action → Bool
  | .copyTo setting _ => value.type ≠ .string || value.src_len < setting.sizeof
  | _ => true

-- The text a token leads to leaves room for a NUL, an NTP entry fits, and the
-- loop has a next token where it looks for one.
def iterationShort (token : Token) (next : Option Token) (keys : Keys) : Bool :=
  token.parent = 0 && token.type = .string ||
    match keys.branch token with
    | none | some .ntp | some .ntpUrl => true
    | some .ntpUrlArray => token.src_len ≤ Setting.ntpUrl.sizeof
    | some slot =>
        match next with
        | some value => memberShort value (memberAction slot token.src)
        | none => false

def loopShort (i : Nat) : List Token → Loop → Bool
  | [], _ => true
  | token :: rest, loop => iterationShort token rest.head? loop.keys &&
      match iteration i token rest.head? loop with
      | some after => loopShort (i + 1) rest after
      | none => false

def ShortCall (store : Store) : Call → Prop
  | .configSet setter argument => setter ≠ .ntpUrl → strlen argument < setter.buffer.sizeof
  | .misoLoadConfig env => env.wants = true → env.tokenBlock = true ∧
      ∀ tokens, env.jsmnTokens env.text = .ok tokens → loopShort 0 (tokens.map (·.read env.text)) ⟨.unset, store⟩ = true

def Terminated (store : Store) : Prop := ∀ getter, (configGet store getter).Terminated

theorem terminated_iff (store : Store) :
    Terminated store ↔ ∀ setting, setting ≠ .ntpUrl → (store setting).Terminated := by
  constructor
  · intro terminated setting notNtp
    cases setting with
    | ntpUrl => exact absurd rfl notNtp
    | wifiSsid => exact terminated .wifiSsid
    | wifiKey => exact terminated .wifiKey
    | lwm2mEndpoint => exact terminated .lwm2mEndpoint
    | lwm2mUri => exact terminated .lwm2mUri
    | lwm2mPskId => exact terminated .lwm2mPskId
    | lwm2mPskKey => exact terminated .lwm2mPskKey
    | mqttUri => exact terminated .mqttUrl
    | mqttDeviceId => exact terminated .mqttDeviceId
    | mqttPskId => exact terminated .mqttPskId
    | mqttPskKey => exact terminated .mqttPskKey
    | httpUri => exact terminated .httpUri
    | httpSigUri => exact terminated .httpSigUri
    | httpKey => exact terminated .httpSigKey
    | configUri => exact terminated .configUri
  · intro terminated getter
    exact terminated getter.buffer (by cases getter <;> decide)

theorem put_terminated (store : Store) (setting : Setting) (buffer : Buffer setting.sizeof) (terminated : Terminated store)
    (written : buffer.Terminated ∨ setting = .ntpUrl) : Terminated (store.put setting buffer) := by
  rw [terminated_iff] at terminated ⊢
  intro other notNtp
  by_cases same : other = setting
  · subst same
    simpa [Store.put] using written.resolve_right notNtp
  · simpa [Store.put, same] using terminated other notNtp

theorem zero_terminated : Terminated .zero := by
  intro getter
  cases getter <;> decide

theorem set_defined (store : Store) (setter : Setter) (argument : List Byte) :
    ∃ after, configSet store setter argument = some after := by
  rw [configSet, strncpy_full]
  exact ⟨_, rfl⟩

theorem set_terminated_iff (store after : Store) (setter : Setter) (argument : List Byte) (terminated : Terminated store)
    (set : configSet store setter argument = some after) :
    Terminated after ↔ (setter ≠ .ntpUrl → strlen argument < setter.buffer.sizeof) := by
  obtain ⟨buffer, copied, rfl⟩ := Option.map_eq_some_iff.mp set
  have ended := strncpy_terminated _ buffer argument copied
  constructor
  · intro kept notNtp
    have elsewhere : setter.buffer ≠ .ntpUrl := by cases setter <;> first | decide | exact absurd rfl notNtp
    have held := (terminated_iff _).mp kept setter.buffer elsewhere
    exact ended.mp (by simpa [Store.put] using held)
  · intro short
    apply put_terminated store _ buffer terminated
    by_cases ntp : setter = .ntpUrl
    · exact .inr (congrArg Setter.buffer ntp)
    · exact .inl (ended.mpr (short ntp))

theorem copy_string_terminated {capacity : Nat} (dest : Buffer capacity) (src : List Byte) (src_len : Nat)
    (short : src_len < capacity) :
    ∃ buffer, copyString dest capacity src src_len = some buffer ∧ buffer.Terminated := by
  have cleared : memset dest 0 capacity = some (.zero capacity) := store_full dest _ List.length_replicate
  have length : (padded (cText src src_len) src_len).length = src_len := padded_length _ _ (c_text_length src src_len)
  have fits : (padded (cText src src_len) src_len).length ≤ capacity := by omega
  refine ⟨⟨padded (cText src src_len) src_len ++ (Buffer.zero capacity).bytes.drop (padded (cText src src_len) src_len).length,
    ?_⟩, ?_, ?_⟩
  · simp [(Buffer.zero capacity).sized, fits]
  · simp [copyString, cleared, strncpy, Buffer.store, Nat.min_eq_left (Nat.le_of_lt short), fits]
  · apply List.mem_append_right
    simp only [Buffer.zero, List.drop_replicate, length]
    exact List.mem_replicate.mpr ⟨by omega, rfl⟩

theorem member_terminated (i : Nat) (slot : Slot) (name : List Byte) (value : Token) (loop : Loop) (terminated : Terminated loop.store)
    (short : memberShort value (memberAction slot name) = true) :
    ∃ after, applyMember i (some value) (memberAction slot name) loop = some after ∧ Terminated after.store := by
  have sized := member_action_sized slot name
  cases action : memberAction slot name with
  | remember other => exact ⟨loop.remember other i, rfl, terminated⟩
  | ignore => exact ⟨loop, rfl, terminated⟩
  | copyTo setting dest_len =>
      rw [action] at sized short
      obtain ⟨rfl, _⟩ := sized
      by_cases string : value.type = .string
      · obtain ⟨buffer, copied, ended⟩ := copy_string_terminated (loop.store setting) value.src value.src_len
          (by simpa [memberShort, string] using short)
        refine ⟨{ loop with store := loop.store.put setting buffer }, by simp [applyMember, string, copied], ?_⟩
        exact put_terminated loop.store setting buffer terminated (.inl ended)
      · exact ⟨loop, by simp [applyMember, string], terminated⟩

theorem entry_terminated (src : List Byte) (src_len : Nat) (loop : Loop) (terminated : Terminated loop.store)
    (fits : src_len ≤ Setting.ntpUrl.sizeof) :
    ∃ after, ((strncpy (loop.store .ntpUrl) src src_len).map fun buffer =>
      { loop with store := loop.store.put .ntpUrl buffer }) = some after ∧ Terminated after.store := by
  obtain ⟨buffer, copied⟩ := Option.isSome_iff_exists.mp ((strncpy_fits (loop.store .ntpUrl) src src_len).mpr fits)
  refine ⟨{ loop with store := loop.store.put .ntpUrl buffer }, by rw [copied]; rfl, ?_⟩
  exact put_terminated loop.store .ntpUrl buffer terminated (.inr rfl)

theorem iteration_terminated (i : Nat) (token : Token) (next : Option Token) (loop : Loop) (terminated : Terminated loop.store)
    (short : iterationShort token next loop.keys = true) :
    ∃ after, iteration i token next loop = some after ∧ Terminated after.store := by
  by_cases root : token.parent = 0 ∧ token.type = .string
  · simp only [iteration, root, and_self, if_true]
    cases rootMember token.src with
    | none => exact ⟨loop, rfl, terminated⟩
    | some slot => exact ⟨loop.remember slot i, rfl, terminated⟩
  · have inner := (Bool.or_eq_true _ _ ▸ short).resolve_left (by simpa using root)
    simp only [iteration, root, if_false]
    cases branch : loop.keys.branch token with
    | none => exact ⟨loop, rfl, terminated⟩
    | some slot =>
        simp only [branch] at inner
        cases slot with
        | ntp => exact ⟨_, rfl, by split <;> exact terminated⟩
        | ntpUrl => exact ⟨loop.remember .ntpUrlArray i, rfl, terminated⟩
        | ntpUrlArray => exact entry_terminated token.src token.src_len loop terminated (of_decide_eq_true inner)
        | _ =>
            cases next with
            | none => exact absurd inner Bool.false_ne_true
            | some value => exact member_terminated i _ token.src value loop terminated inner

theorem loop_terminated (i : Nat) (tokens : List Token) (loop : Loop) (terminated : Terminated loop.store)
    (short : loopShort i tokens loop = true) : ∃ after, tokenLoop i tokens loop = some after ∧ Terminated after.store := by
  induction tokens generalizing i loop with
  | nil => exact ⟨loop, rfl, terminated⟩
  | cons token rest ih =>
      obtain ⟨here, later⟩ := (Bool.and_eq_true _ _).mp short
      obtain ⟨middle, stepped, kept⟩ := iteration_terminated i token rest.head? loop terminated here
      rw [stepped] at later
      obtain ⟨after, ran, ended⟩ := ih (i + 1) middle kept later
      exact ⟨after, by simp [tokenLoop, stepped, ran], ended⟩

theorem load_terminated (env : LoadEnv) (store : Store) (terminated : Terminated store)
    (short : ShortCall store (.misoLoadConfig env)) :
    ∃ after, (misoLoadConfig env store).map Prod.fst = some after ∧ Terminated after := by
  rw [load_store]
  by_cases parses : env.parses = true
  · simp only [parses, if_true, parseConfig]
    by_cases count : env.jsmnCount env.text > 0
    · obtain ⟨block, copies⟩ := short (by simp [LoadEnv.wants, parses, count])
      simp only [count, block, if_true]
      cases filled : env.jsmnTokens env.text with
      | error code => exact ⟨store, rfl, terminated⟩
      | ok tokens =>
          obtain ⟨after, ran, ended⟩ := loop_terminated 0 _ ⟨.unset, store⟩ terminated (copies tokens filled)
          exact ⟨after.store, by simp [ran], ended⟩
    · exact ⟨store, by simp [count], terminated⟩
  · exact ⟨store, by simp [parses], terminated⟩

theorem call_terminated (store : Store) (call : Call) (terminated : Terminated store) (short : ShortCall store call) :
    ∃ after, callStep store call = some after ∧ Terminated after := by
  cases call with
  | configSet setter argument =>
      obtain ⟨after, set⟩ := set_defined store setter argument
      exact ⟨after, set, (set_terminated_iff store after setter argument terminated set).mpr short⟩
  | misoLoadConfig env => exact load_terminated env store terminated short

-- In every run of short calls each call is defined and no buffer a getter
-- returns is without its NUL. A setter's argument that is not short ends that.
theorem buffers_terminated (store : Store) (reached : Reach callStep ShortCall .zero store) :
    (∀ getter, (configGet store getter).Terminated) ∧
      (∀ call, ShortCall store call → ∃ after, callStep store call = some after) ∧
      ∀ setter argument after, callStep store (.configSet setter argument) = some after →
        ((∀ getter, (configGet after getter).Terminated) ↔ ShortCall store (.configSet setter argument)) := by
  have terminated : Terminated store := by
    apply Base.reach_invariant callStep ShortCall .zero Terminated zero_terminated _ store reached
    intro before call after ended short taken
    obtain ⟨result, stepped, kept⟩ := call_terminated before call ended short
    rw [taken] at stepped
    exact Option.some.inj stepped ▸ kept
  refine ⟨terminated, fun call short => ?_, fun setter argument after set => ?_⟩
  · obtain ⟨after, stepped, _⟩ := call_terminated store call terminated short
    exact ⟨after, stepped⟩
  · exact set_terminated_iff store after setter argument terminated set

theorem home_short : ShortCall .zero (.misoLoadConfig (.given homeFile homeTokens)) := by
  intro _
  refine ⟨rfl, ?_⟩
  intro tokens given
  obtain rfl : homeTokens = tokens := by simpa [LoadEnv.given] using given
  decide

theorem buffers_terminated_home : ∃ store, callStep .zero (.misoLoadConfig (.given homeFile homeTokens)) = some store ∧
    ∀ getter, (configGet store getter).Terminated := by
  obtain ⟨store, loaded⟩ := (buffers_terminated .zero .start).2.1 _ home_short
  exact ⟨store, loaded, (buffers_terminated store (.next _ _ _ .start home_short loaded)).1⟩

def fullName : List Byte := List.replicate 32 97

def fullFile : List Byte := ascii "\x7b\"wifi\":\x7b\"ssid\":\"" ++ fullName ++ ascii "\"\x7d\x7d"

def fullTokens : List JsmnTok :=
  [⟨.object, 0, 52, -1⟩, ⟨.string, 2, 6, 0⟩, ⟨.object, 8, 51, 1⟩, ⟨.string, 10, 14, 2⟩, ⟨.string, 17, 49, 3⟩]

-- A network name of 32 characters fills its buffer, whether it is set or read
-- from the card.
theorem full_name_unterminated :
    (callStep .zero (.configSet .wifiSsid fullName)).map (fun store => decide (configGet store .wifiSsid).Terminated) =
        some false ∧
      (callStep .zero (.misoLoadConfig (.given fullFile fullTokens))).map (fun store =>
        decide (configGet store .wifiSsid).Terminated) = some false := by decide

end Miso.Config
