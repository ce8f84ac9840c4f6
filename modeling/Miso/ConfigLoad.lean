import Miso.ConfigText

set_option autoImplicit false

namespace Miso.Config

open Base (Byte Buffer Item Json JsonType cText fit memset padded sameStart strncpy strncpy_fits store_full
  c_text_of_clean buffer_ext flattenElements flattenMembers elementsSize membersSize flatten_length flatten_elements_length
  flatten_members_length flatten_parents flatten_elements_parents flatten_members_parents)

-- The abstract effect of a document: its settings and NTP entries in order.
inductive Write where
  | copy (setting : Setting) (raw : List Byte)
  | ntp (raw : List Byte)

def Store.write (store : Store) : Write → Option Store
  | .copy setting raw => some (store.put setting (fit setting.sizeof raw))
  | .ntp raw => (strncpy (store .ntpUrl) raw raw.length).map (store.put .ntpUrl)

def Store.writeAll (store : Store) (writes : List Write) : Option Store := writes.foldlM Store.write store

theorem copy_string_clean {capacity : Nat} (dest : Buffer capacity) (raw : List Byte) (clean : 0 ∉ raw) :
    copyString dest capacity raw raw.length = some (fit capacity raw) := by
  have cleared : memset dest 0 capacity = some (.zero capacity) := store_full dest _ List.length_replicate
  have taken : cText raw (min raw.length capacity) = raw.take capacity := by
    rw [c_text_of_clean _ _ (fun member => clean (List.mem_of_mem_take member)), List.take_eq_take_iff]
    omega
  have exact_text : padded (raw.take capacity) (min raw.length capacity) = raw.take capacity := by
    simp [padded, Nat.min_comm]
  have short : (raw.take capacity).length ≤ capacity := List.length_take_le capacity raw
  simp only [copyString, cleared, Option.bind_some, strncpy, taken, exact_text, Buffer.store, short, dif_pos]
  congr 1
  apply buffer_ext
  simp [fit, padded, Buffer.zero]

-- Where each slot looks for its tokens. The certificate slots are never
-- compared with a parent.
def Slot.watches (key : Int) : Slot → Int
  | .ntpUrl | .ntpUrlArray => key
  | .lwm2mCert | .mqttCert => -127
  | _ => key + 1

def watched (keys : Keys) (slot : Slot) : Int := slot.watches (keys slot)

def Below (keys : Keys) (bound : Nat) : Prop := ∀ slot, watched keys slot < bound

def Walk (i : Nat) (items : List Item) (writes : List Write) (before after : Keys) : Prop :=
  ∀ store rest, itemLoop i (items ++ rest) ⟨before, store⟩ =
    (store.writeAll writes).bind fun written => itemLoop (i + items.length) rest ⟨after, written⟩

theorem walk_nil (i : Nat) (keys : Keys) : Walk i [] [] keys keys := fun _ _ => rfl

theorem walk_append (i : Nat) (first second : List Item) (earlier later : List Write) (before between after : Keys)
    (left : Walk i first earlier before between) (right : Walk (i + first.length) second later between after) :
    Walk i (first ++ second) (earlier ++ later) before after := by
  intro store rest
  rw [List.append_assoc, left store]
  simp only [Store.writeAll, List.foldlM_append, List.length_append, ← Nat.add_assoc]
  cases written : earlier.foldlM Store.write store with
  | none => rfl
  | some middle => simpa [Store.writeAll] using right middle rest

def Passive (keys : Keys) (item : Item) : Prop :=
  ¬ (item.parent = 0 ∧ item.type = .string) ∧ keys.branch (ofItem item) = none

theorem walk_passive (i : Nat) (items : List Item) (keys : Keys) (passive : ∀ item ∈ items, Passive keys item) :
    Walk i items [] keys keys := by
  induction items generalizing i with
  | nil => exact walk_nil i keys
  | cons item items ih =>
      intro store rest
      obtain ⟨inner, none⟩ := passive item (by simp)
      have skipped (next : Option Token) : iteration i (ofItem item) next ⟨keys, store⟩ = some ⟨keys, store⟩ := by
        have outside : ¬ ((ofItem item).parent = 0 ∧ (ofItem item).type = .string) := inner
        simp only [iteration, outside, if_false, none]
      have tail := ih (i + 1) (fun later member => passive later (List.mem_cons_of_mem _ member)) store rest
      simp only [itemLoop, List.cons_append, List.map_cons, tokenLoop, skipped, Option.bind_some] at tail ⊢
      rw [tail]
      simp [Store.writeAll, Nat.add_assoc, Nat.add_comm 1]

theorem branch_unwatched (keys : Keys) (token : Token) (unwatched : ∀ slot, watched keys slot ≠ token.parent) :
    keys.branch token = none := by
  have wifi := unwatched .wifi
  have lwm2m := unwatched .lwm2m
  have ntp := unwatched .ntp
  have ntpUrl := unwatched .ntpUrl
  have ntpUrlArray := unwatched .ntpUrlArray
  have mqtt := unwatched .mqtt
  have lwm2mPsk := unwatched .lwm2mPsk
  have mqttPsk := unwatched .mqttPsk
  have http := unwatched .http
  have config := unwatched .config
  simp only [watched, Slot.watches] at wifi lwm2m ntp ntpUrl ntpUrlArray mqtt lwm2mPsk mqttPsk http config
  simp [Keys.branch, wifi, lwm2m, ntp, ntpUrl, ntpUrlArray, mqtt, lwm2mPsk, mqttPsk, http, config]

theorem branch_object (keys : Keys) (token : Token) (object : token.type = .object) : keys.branch token = none := by
  simp [Keys.branch, object]

theorem passive_later (keys : Keys) (item : Item) (bound : Nat) (below : Below keys bound)
    (later : (bound : Int) ≤ item.parent) (positive : 0 < bound) : Passive keys item := by
  constructor
  · omega
  · apply branch_unwatched
    intro slot
    have earlier := below slot
    simp only [ofItem]
    omega

theorem below_mono (keys : Keys) (bound larger : Nat) (below : Below keys bound) (le : bound ≤ larger) :
    Below keys larger := by
  intro slot
  have := below slot
  omega

theorem walk_value (keys : Keys) (index bound : Nat) (parent : Int) (value : Json) (below : Below keys bound)
    (later : (bound : Int) ≤ parent) (inside : bound ≤ index) (positive : 0 < bound) :
    Walk index (value.flatten index parent) [] keys keys := by
  apply walk_passive
  intro item member
  apply passive_later keys item bound below _ positive
  rcases flatten_parents index parent value item member with same | deeper <;> omega

-- The slot whose members stand under a parent, and no other slot does.
structure Owns (keys : Keys) (slot : Slot) (parent : Nat) : Prop where
  own : watched keys slot = parent
  alone : ∀ other, other ≠ slot → watched keys other ≠ parent

def Slot.section : Slot → Bool
  | .wifi | .lwm2m | .mqtt | .lwm2mPsk | .mqttPsk | .http | .config => true
  | _ => false

theorem branch_owned (keys : Keys) (slot : Slot) (parent : Nat) (token : Token) (owns : Owns keys slot parent)
    (under : token.parent = parent) (string : token.type = .string) (compared : slot.section = true ∨ slot = .ntp ∨ slot = .ntpUrlArray) :
    keys.branch token = some slot := by
  obtain ⟨own, alone⟩ := owns
  have wifi := alone .wifi
  have lwm2m := alone .lwm2m
  have ntp := alone .ntp
  have ntpUrlArray := alone .ntpUrlArray
  have mqtt := alone .mqtt
  have lwm2mPsk := alone .lwm2mPsk
  have mqttPsk := alone .mqttPsk
  have http := alone .http
  simp only [watched, Slot.watches] at own wifi lwm2m ntp ntpUrlArray mqtt lwm2mPsk mqttPsk http
  clear alone
  cases slot <;> simp_all [Slot.section, Keys.branch]

theorem iteration_owned (i : Nat) (slot : Slot) (parent : Nat) (name : List Byte) (next : Option Token) (loop : Loop)
    (owns : Owns loop.keys slot parent) (positive : 0 < parent) (section_slot : slot.section = true) :
    iteration i (ofItem ⟨.string, parent, name⟩) next loop = applyMember i next (memberAction slot name) loop := by
  have inner : ¬ ((ofItem ⟨.string, parent, name⟩).parent = 0 ∧ (ofItem ⟨.string, parent, name⟩).type = .string) := by
    simp only [ofItem]
    omega
  have taken := branch_owned loop.keys slot parent (ofItem ⟨.string, parent, name⟩) owns rfl rfl (.inl section_slot)
  simp only [iteration, inner, if_false, taken]
  cases slot <;> first | rfl | exact absurd section_slot (by decide)

def firstItem (parent : Int) : Json → Item
  | .primitive text => ⟨.primitive, parent, text⟩
  | .string raw => ⟨.string, parent, raw⟩
  | .array _ => ⟨.array, parent, []⟩
  | .object _ => ⟨.object, parent, []⟩

def innerItems (index : Nat) : Json → List Item
  | .array elements => flattenElements (index + 1) index elements
  | .object members => flattenMembers (index + 1) index members
  | _ => []

theorem flatten_first (index : Nat) (parent : Int) (value : Json) :
    value.flatten index parent = firstItem parent value :: innerItems index value := by cases value <;> rfl

theorem inner_parents (index : Nat) (value : Json) : ∀ item ∈ innerItems index value, (index : Int) ≤ item.parent := by
  intro item member
  cases value with
  | array elements =>
      rcases flatten_elements_parents (index + 1) index elements item member with same | later <;> omega
  | object members =>
      rcases flatten_members_parents (index + 1) index members item member with same | later <;> omega
  | _ => simp [innerItems] at member

-- Of a value's tokens all but the first hang off it or off one of the others.
theorem flatten_forall (index : Nat) (parent : Int) (value : Json) (holds : Item → Prop) (head : holds (firstItem parent value))
    (later : ∀ item, (index : Int) ≤ item.parent → holds item) : ∀ item ∈ value.flatten index parent, holds item := by
  intro item member
  rw [flatten_first, List.mem_cons] at member
  rcases member with rfl | inner
  · exact head
  · exact later item (inner_parents index value item inner)

theorem walk_member (i : Nat) (item : Item) (value : Json) (writes later : List Write) (before between after : Keys)
    (step : ∀ store, iteration i (ofItem item) (some (ofItem (firstItem i value))) ⟨before, store⟩ =
      (store.writeAll writes).map (⟨between, ·⟩))
    (inside : Walk (i + 1) (value.flatten (i + 1) i) later between after) :
    Walk i (item :: value.flatten (i + 1) i) (writes ++ later) before after := by
  intro store rest
  have stepped : itemLoop i (item :: value.flatten (i + 1) i ++ rest) ⟨before, store⟩ =
      (store.writeAll writes).bind fun written =>
        itemLoop (i + 1) (value.flatten (i + 1) i ++ rest) ⟨between, written⟩ := by
    simp only [itemLoop, List.cons_append, List.map_cons, tokenLoop, flatten_first, List.head?_cons, step]
    cases store.writeAll writes <;> rfl
  rw [stepped]
  simp only [Store.writeAll, List.foldlM_append, List.length_cons]
  cases written : writes.foldlM Store.write store with
  | none => rfl
  | some middle => simpa [Store.writeAll, Nat.add_assoc, Nat.add_comm 1] using inside middle rest

def actionWrites : Action → Json → List Write
  | .copyTo setting _, .string raw => [.copy setting raw]
  | _, _ => []

theorem apply_copy (i : Nat) (setting : Setting) (value : Json) (keys : Keys) (store : Store)
    (clean : ∀ raw, value = .string raw → 0 ∉ raw) :
    applyMember i (some (ofItem (firstItem i value))) (.copyTo setting setting.sizeof) ⟨keys, store⟩ =
      (store.writeAll (actionWrites (.copyTo setting setting.sizeof) value)).map (⟨keys, ·⟩) := by
  cases value with
  | string raw =>
      simp [applyMember, firstItem, ofItem, actionWrites, Store.writeAll, Store.write, copy_string_clean _ raw (clean raw rfl)]
  | primitive text => rfl
  | array elements => rfl
  | object members => rfl

-- Every destination is passed with its own size and none is the NTP address;
-- only the nested objects of a section are remembered.
def Action.Sized : Action → Prop
  | .copyTo setting dest_len => dest_len = setting.sizeof ∧ setting ≠ .ntpUrl
  | .remember slot => slot = .lwm2mPsk ∨ slot = .lwm2mCert ∨ slot = .mqttPsk ∨ slot = .mqttCert
  | .ignore => True

instance (action : Action) : Decidable action.Sized :=
  match action with
  | .copyTo _ _ => inferInstanceAs (Decidable (_ ∧ _))
  | .remember _ => inferInstanceAs (Decidable (_ ∨ _ ∨ _ ∨ _))
  | .ignore => inferInstanceAs (Decidable True)

theorem nonzero_sized (action : Action) (sized : action.Sized) : action.nonzero.Sized := by
  match action with
  | .copyTo _ 0 => trivial
  | .copyTo _ (_ + 1) => exact sized
  | .remember _ => exact sized
  | .ignore => trivial

theorem mqtt_member_sized (name : List Byte) : (mqttMember name).Sized := by
  simp only [mqttMember]
  split_ifs <;> decide

theorem psk_member_sized (id key : Setting) (name : List Byte) (notNtp : id ≠ .ntpUrl ∧ key ≠ .ntpUrl) :
    (pskMember id key name).Sized := by
  simp only [pskMember]
  split_ifs
  · exact ⟨rfl, notNtp.1⟩
  · exact ⟨rfl, notNtp.2⟩
  · trivial

theorem member_action_sized (slot : Slot) (name : List Byte) : (memberAction slot name).Sized := by
  cases slot with
  | mqtt => exact nonzero_sized _ (mqtt_member_sized name)
  | lwm2mPsk => exact psk_member_sized _ _ name (by decide)
  | mqttPsk => exact psk_member_sized _ _ name (by decide)
  | wifi =>
      simp only [memberAction, wifiMember]
      split_ifs <;> decide
  | lwm2m =>
      simp only [memberAction, lwm2mMember]
      split_ifs <;> decide
  | http =>
      simp only [memberAction, httpMember]
      split_ifs <;> decide
  | config =>
      simp only [memberAction, configMember]
      split_ifs <;> decide
  | _ => trivial

theorem watched_update (keys : Keys) (slot other : Slot) (i : Int) :
    watched (Function.update keys slot i) other = if other = slot then slot.watches i else watched keys other := by
  by_cases same : other = slot
  · subst same
    simp [watched]
  · simp [watched, same]

theorem watches_near (slot : Slot) (i : Nat) : slot.watches i ≤ i + 1 := by
  cases slot <;> simp only [Slot.watches] <;> omega

theorem below_update (keys : Keys) (slot : Slot) (i : Nat) (below : Below keys i) :
    Below (Function.update keys slot i) (i + 2) := by
  intro other
  have near := watches_near slot i
  have earlier := below other
  rw [watched_update]
  split <;> omega

theorem owns_update (keys : Keys) (slot other : Slot) (parent i : Nat) (owns : Owns keys slot parent) (different : slot ≠ other)
    (apart : other.watches i ≠ parent) : Owns (Function.update keys other i) slot parent := by
  constructor
  · rw [watched_update, if_neg different]
    exact owns.own
  · intro third elsewhere
    rw [watched_update]
    split
    · exact apart
    · exact owns.alone third elsewhere

theorem owns_new (keys : Keys) (slot : Slot) (i : Nat) (below : Below keys i) (next : slot.watches i = i + 1) :
    Owns (Function.update keys slot i) slot (i + 1 : Nat) := by
  constructor
  · rw [watched_update, if_pos rfl, next]
    rfl
  · intro other different
    have earlier := below other
    rw [watched_update, if_neg different]
    omega

-- The loop stands inside the object of a slot.
structure Inside (keys : Keys) (slot : Slot) (parent i : Nat) : Prop where
  owns : Owns keys slot parent
  below : Below keys i
  positive : 0 < parent
  within : parent < i

theorem inside_new (keys : Keys) (slot : Slot) (i : Nat) (below : Below keys i) (next : slot.watches i = i + 1) :
    Inside (Function.update keys slot i) slot (i + 1) (i + 2) :=
  ⟨owns_new keys slot i below next, below_update keys slot i below, by omega, by omega⟩

theorem inside_mono (keys : Keys) (slot : Slot) (parent i later : Nat) (inside : Inside keys slot parent i) (le : i ≤ later) :
    Inside keys slot parent later :=
  ⟨inside.owns, below_mono keys i later inside.below le, inside.positive, Nat.lt_of_lt_of_le inside.within le⟩

theorem clean_string (index : Nat) (parent : Int) (value : Json) (clean : Clean (value.flatten index parent)) (raw : List Byte)
    (string : value = .string raw) : 0 ∉ raw := by
  subst string
  exact clean _ (List.mem_singleton_self _) rfl

theorem walk_each (parent : Int) (good : Nat → Keys → Prop) (writes : List Byte × Json → List Write)
    (members : List (List Byte × Json))
    (each : ∀ member ∈ members, ∀ i keys, good i keys → Clean (member.2.flatten (i + 1) i) →
      ∃ after, Walk i (⟨.string, parent, member.1⟩ :: member.2.flatten (i + 1) i) (writes member) keys after ∧
        good (i + (member.2.size + 1)) after)
    (i : Nat) (keys : Keys) (holds : good i keys) (clean : Clean (flattenMembers i parent members)) :
    ∃ after, Walk i (flattenMembers i parent members) (members.flatMap writes) keys after ∧
      good (i + membersSize members) after := by
  induction members generalizing i keys with
  | nil => exact ⟨keys, walk_nil i keys, holds⟩
  | cons member rest ih =>
      obtain ⟨name, value⟩ := member
      have parts : Clean (value.flatten (i + 1) i) ∧ Clean (flattenMembers (i + (value.size + 1)) parent rest) :=
        (clean_append _ _).mp fun item inside => clean item (List.mem_cons_of_mem _ inside)
      obtain ⟨between, first, middle⟩ := each (name, value) List.mem_cons_self i keys holds parts.1
      obtain ⟨after, second, final⟩ := ih (fun later member => each later (List.mem_cons_of_mem _ member))
        (i + (value.size + 1)) between middle parts.2
      refine ⟨after, ?_, by simpa [membersSize, Nat.add_assoc] using final⟩
      have joined := walk_append i _ _ _ _ keys between after first (by simpa [flatten_length] using second)
      simpa [flattenMembers] using joined

theorem walk_plain_field (slot : Slot) (parent i : Nat) (name : List Byte) (value : Json) (keys : Keys)
    (inside : Inside keys slot parent i) (section_slot : slot.section = true)
    (plain : ∀ other, memberAction slot name ≠ .remember other) (clean : Clean (value.flatten (i + 1) i)) :
    Walk i (⟨.string, parent, name⟩ :: value.flatten (i + 1) i) (actionWrites (memberAction slot name) value) keys keys := by
  have skipped : Walk (i + 1) (value.flatten (i + 1) i) [] keys keys :=
    walk_value keys (i + 1) i i value inside.below (Int.le_refl _) (Nat.le_succ i) (by have := inside.within; omega)
  have sized := member_action_sized slot name
  rw [← List.append_nil (actionWrites _ _)]
  apply walk_member i _ value _ [] keys keys keys _ skipped
  intro store
  rw [iteration_owned i slot parent name _ ⟨keys, store⟩ inside.owns inside.positive section_slot]
  cases action : memberAction slot name with
  | copyTo setting dest_len =>
      obtain ⟨rfl, _⟩ : dest_len = setting.sizeof ∧ setting ≠ .ntpUrl := by simpa [action, Action.Sized] using sized
      exact apply_copy i setting value keys store (clean_string _ _ value clean)
  | remember other => exact absurd action (plain other)
  | ignore => cases value <;> rfl

theorem psk_member_plain (slot : Slot) (psk : slot = .lwm2mPsk ∨ slot = .mqttPsk) (name : List Byte) (other : Slot) :
    memberAction slot name ≠ .remember other := by
  rcases psk with rfl | rfl
  all_goals
    simp only [memberAction, lwm2mPskMember, mqttPskMember, pskMember]
    split_ifs <;> exact Action.noConfusion

def pskWrites (slot : Slot) (members : List (List Byte × Json)) : List Write :=
  members.flatMap fun member => actionWrites (memberAction slot member.1) member.2

theorem walk_psk_members (slot : Slot) (psk : slot = .lwm2mPsk ∨ slot = .mqttPsk) (parent i : Nat)
    (members : List (List Byte × Json)) (keys : Keys) (inside : Inside keys slot parent i)
    (clean : Clean (flattenMembers i parent members)) :
    Walk i (flattenMembers i parent members) (pskWrites slot members) keys keys := by
  have section_slot : slot.section = true := by rcases psk with rfl | rfl <;> rfl
  obtain ⟨after, walked, rfl, _⟩ := walk_each parent (fun at_index now => now = keys ∧ Inside now slot parent at_index)
    (fun member => actionWrites (memberAction slot member.1) member.2) members
    (by
      rintro ⟨name, value⟩ _ index now ⟨rfl, here⟩ valueClean
      refine ⟨now, ?_, rfl, inside_mono now slot parent index _ here (by omega)⟩
      exact walk_plain_field slot parent index name value now here section_slot (psk_member_plain slot psk name) valueClean)
    i keys ⟨rfl, inside⟩ clean
  exact walked

def fieldWrites (slot : Slot) (field : List Byte × Json) : List Write :=
  match memberAction slot field.1 with
  | .remember other => pskWrites other field.2.members
  | action => actionWrites action field.2

-- The value of a psk member is no array with strings; nothing else is asked of
-- a section.
def FieldShaped (slot : Slot) (field : List Byte × Json) : Prop :=
  ∀ other, memberAction slot field.1 = .remember other → other = .lwm2mPsk ∨ other = .mqttPsk →
    ∀ raw, Json.string raw ∉ field.2.elements

theorem walk_object (index : Nat) (parent : Int) (members : List (List Byte × Json)) (writes : List Write)
    (before after : Keys) (inside : Walk (index + 1) (flattenMembers (index + 1) index members) writes before after) :
    Walk index ((Json.object members).flatten index parent) writes before after := by
  have opening : Walk index [⟨.object, parent, []⟩] [] before before := by
    apply walk_passive
    intro item member
    obtain rfl := List.mem_singleton.mp member
    exact ⟨fun string => JsonType.noConfusion string.2, branch_object _ _ rfl⟩
  exact walk_append index _ _ [] writes before before after opening inside

theorem walk_remember (slot other : Slot) (parent i : Nat) (name : List Byte) (value : Json) (writes : List Write)
    (keys after : Keys) (inside : Inside keys slot parent i) (section_slot : slot.section = true)
    (action : memberAction slot name = .remember other)
    (walked : Walk (i + 1) (value.flatten (i + 1) i) writes (Function.update keys other i) after) :
    Walk i (⟨.string, parent, name⟩ :: value.flatten (i + 1) i) writes keys after := by
  apply walk_member i _ value [] writes keys _ after _ walked
  intro store
  rw [iteration_owned i slot parent name _ ⟨keys, store⟩ inside.owns inside.positive section_slot, action]
  rfl

theorem size_pos (value : Json) : 0 < value.size := by cases value <;> simp [Json.size]

theorem inside_remember (keys : Keys) (slot other : Slot) (parent i : Nat) (value : Json) (inside : Inside keys slot parent i)
    (different : slot ≠ other) (apart : other.watches i ≠ parent) :
    Inside (Function.update keys other i) slot parent (i + (value.size + 1)) where
  owns := owns_update keys slot other parent i inside.owns different apart
  below := below_mono _ (i + 2) _ (below_update keys other i inside.below) (by have := size_pos value; omega)
  positive := inside.positive
  within := by
    have := inside.within
    omega

theorem passive_value (slot : Slot) (i : Nat) (item : Item) (keys : Keys) (below : Below keys i) (positive : 0 < i)
    (next : slot.watches i = i + 1) (under : item.parent = i) : Passive (Function.update keys slot i) item := by
  refine ⟨by omega, branch_unwatched _ _ fun other => ?_⟩
  have earlier := below other
  change watched _ other ≠ item.parent
  rw [under, watched_update]
  split <;> omega

-- A remembered name whose value has no tokens of its own to read.
theorem walk_leaf (slot : Slot) (i : Nat) (value : Json) (keys : Keys) (below : Below keys i) (positive : 0 < i)
    (next : slot.watches i = i + 1) (leaf : innerItems (i + 1) value = []) :
    Walk (i + 1) (value.flatten (i + 1) i) [] (Function.update keys slot i) (Function.update keys slot i) := by
  apply walk_passive
  intro item member
  rw [flatten_first, leaf, List.mem_singleton] at member
  subst member
  exact passive_value slot i _ keys below positive next (by cases value <;> rfl)

theorem branch_other (keys : Keys) (token : Token) (other : token.type ≠ .string) (apart : watched keys .ntpUrl ≠ token.parent) :
    keys.branch token = none := by
  have ntpUrl : keys .ntpUrl ≠ token.parent := apart
  simp [Keys.branch, other, ntpUrl]

theorem walk_headed (keys : Keys) (index : Nat) (parent : Int) (value : Json) (below : Below keys index) (positive : 0 < index)
    (head : Passive keys (firstItem parent value)) : Walk index (value.flatten index parent) [] keys keys := by
  apply walk_passive
  exact flatten_forall index parent value (Passive keys) head fun item later => passive_later keys item index below later positive

theorem walk_element (slot : Slot) (parent i : Nat) (element : Json) (keys : Keys) (inside : Inside keys slot parent i)
    (apart : slot ≠ .ntpUrl) (plain : ∀ raw, element ≠ .string raw) : Walk i (element.flatten i parent) [] keys keys := by
  have within := inside.within
  have positive := inside.positive
  apply walk_headed keys i parent element inside.below (by omega)
  have other : (firstItem parent element).type ≠ .string := by cases element <;> simp_all [firstItem]
  have under : (firstItem parent element).parent = parent := by cases element <;> rfl
  constructor
  · exact fun zero => other zero.2
  · apply branch_other _ _ other
    rw [ofItem, under]
    exact inside.owns.alone .ntpUrl (Ne.symm apart)

theorem walk_listed (slot : Slot) (i : Nat) (elements : List Json) (keys : Keys) (below : Below keys i) (positive : 0 < i)
    (next : slot.watches i = i + 1) (apart : slot ≠ .ntpUrl) (plain : ∀ raw, Json.string raw ∉ elements) :
    Walk (i + 1) ((Json.array elements).flatten (i + 1) i) [] (Function.update keys slot i) (Function.update keys slot i) := by
  have opening : Walk (i + 1) [⟨.array, i, []⟩] [] (Function.update keys slot i) (Function.update keys slot i) := by
    apply walk_passive
    intro item member
    obtain rfl := List.mem_singleton.mp member
    exact passive_value slot i _ keys below positive next rfl
  have each (at_index : Nat) (inside : Inside (Function.update keys slot i) slot (i + 1) at_index) :
      Walk at_index (flattenElements at_index (i + 1 : Nat) elements) [] (Function.update keys slot i)
        (Function.update keys slot i) := by
    induction elements generalizing at_index with
    | nil => exact walk_nil at_index _
    | cons element rest ih =>
        have first := walk_element slot (i + 1) at_index element _ inside apart fun raw same => plain raw (by simp [same])
        have later := ih (fun raw member => plain raw (List.mem_cons_of_mem _ member)) (at_index + element.size)
          (inside_mono _ slot _ at_index _ inside (Nat.le_add_right _ _))
        exact walk_append at_index _ _ [] [] _ _ _ first (by rwa [flatten_length])
  exact walk_append (i + 1) _ _ [] [] _ _ _ opening (each (i + 2) (inside_new keys slot i below next))

theorem walk_psk (slot other : Slot) (parent i : Nat) (field : List Byte × Json) (keys : Keys)
    (inside : Inside keys slot parent i) (section_slot : slot.section = true)
    (action : memberAction slot field.1 = .remember other) (psk : other = .lwm2mPsk ∨ other = .mqttPsk)
    (shaped : FieldShaped slot field) (clean : Clean (field.2.flatten (i + 1) i)) :
    Walk i (⟨.string, parent, field.1⟩ :: field.2.flatten (i + 1) i) (pskWrites other field.2.members) keys
      (Function.update keys other i) := by
  have next : other.watches i = i + 1 := by rcases psk with rfl | rfl <;> rfl
  have positive : 0 < i := Nat.lt_trans inside.positive inside.within
  apply walk_remember slot other parent i field.1 _ _ keys _ inside section_slot action
  have strings := shaped other action psk
  cases object : field.2 with
  | array elements =>
      rw [object] at strings
      have apart : other ≠ .ntpUrl := by rcases psk with rfl | rfl <;> decide
      exact walk_listed other i elements keys inside.below positive next apart strings
  | primitive text => exact walk_leaf other i _ keys inside.below positive next rfl
  | string raw => exact walk_leaf other i _ keys inside.below positive next rfl
  | object members =>
      rw [object] at clean
      have innerClean : Clean (flattenMembers (i + 2) (i + 1 : Nat) members) :=
        fun item member => clean item (List.mem_cons_of_mem _ member)
      apply walk_object
      exact walk_psk_members other psk (i + 1) (i + 2) members _ (inside_new keys other i inside.below next) innerClean

theorem walk_cert (slot other : Slot) (parent i : Nat) (field : List Byte × Json) (keys : Keys)
    (inside : Inside keys slot parent i) (section_slot : slot.section = true)
    (action : memberAction slot field.1 = .remember other) (cert : other = .lwm2mCert ∨ other = .mqttCert) :
    Walk i (⟨.string, parent, field.1⟩ :: field.2.flatten (i + 1) i) [] keys (Function.update keys other i) := by
  apply walk_remember slot other parent i field.1 field.2 _ keys _ inside section_slot action
  apply walk_value _ (i + 1) i i field.2 _ (Int.le_refl _) (Nat.le_succ i) (by have := inside.within; omega)
  intro third
  have earlier := inside.below third
  rw [watched_update]
  split
  · rcases cert with rfl | rfl <;> simp only [Slot.watches] <;> omega
  · exact earlier

theorem walk_field (slot : Slot) (parent i : Nat) (field : List Byte × Json) (keys : Keys)
    (inside : Inside keys slot parent i) (section_slot : slot.section = true)
    (top : slot ≠ .lwm2mPsk ∧ slot ≠ .mqttPsk) (shaped : FieldShaped slot field)
    (clean : Clean (field.2.flatten (i + 1) i)) :
    ∃ after, Walk i (⟨.string, parent, field.1⟩ :: field.2.flatten (i + 1) i) (fieldWrites slot field) keys after ∧
      Inside after slot parent (i + (field.2.size + 1)) := by
  have before := inside.within
  have sized := member_action_sized slot field.1
  by_cases remembers : ∃ other, memberAction slot field.1 = .remember other
  · obtain ⟨other, action⟩ := remembers
    have written : fieldWrites slot field = pskWrites other field.2.members := by simp only [fieldWrites, action]
    have kinds : (other = .lwm2mPsk ∨ other = .mqttPsk) ∨ (other = .lwm2mCert ∨ other = .mqttCert) := by
      simp only [action, Action.Sized] at sized
      tauto
    refine ⟨Function.update keys other i, ?_, inside_remember keys slot other parent i field.2 inside ?_ ?_⟩
    · rw [written]
      rcases kinds with psk | cert
      · exact walk_psk slot other parent i field keys inside section_slot action psk shaped clean
      · have nothing : pskWrites other field.2.members = [] := by
          rcases cert with rfl | rfl <;> simp [pskWrites, memberAction, actionWrites]
        rw [nothing]
        exact walk_cert slot other parent i field keys inside section_slot action cert
    · rintro rfl
      rcases kinds with (rfl | rfl) | (rfl | rfl) <;> simp_all [Slot.section]
    · rcases kinds with (rfl | rfl) | (rfl | rfl) <;> simp only [Slot.watches] <;> omega
  · have plain (other : Slot) : memberAction slot field.1 ≠ .remember other := fun action => remembers ⟨other, action⟩
    have written : fieldWrites slot field = actionWrites (memberAction slot field.1) field.2 := by
      cases action : memberAction slot field.1 with
      | remember other => exact absurd action (plain other)
      | copyTo setting dest_len => simp only [fieldWrites, action]
      | ignore => simp only [fieldWrites, action]
    rw [written]
    refine ⟨keys, ?_, inside_mono keys slot parent i _ inside (by omega)⟩
    exact walk_plain_field slot parent i field.1 field.2 keys inside section_slot plain clean

def entryWrites (element : Json) : List Write := element.text.map .ntp

theorem walk_entry (parent i : Nat) (element : Json) (keys : Keys) (inside : Inside keys .ntpUrlArray parent i)
    (clean : Clean (element.flatten i parent)) :
    Walk i (element.flatten i parent) (entryWrites element) keys keys := by
  have within := inside.within
  have positive := inside.positive
  by_cases string : ∃ raw, element = .string raw
  · obtain ⟨raw, rfl⟩ := string
    intro store rest
    have taken := branch_owned keys .ntpUrlArray parent (ofItem ⟨.string, parent, raw⟩) inside.owns rfl rfl (.inr (.inr rfl))
    have inner : ¬ ((ofItem ⟨.string, parent, raw⟩).parent = 0 ∧ (ofItem ⟨.string, parent, raw⟩).type = .string) := by
      simp only [ofItem]
      omega
    have step (next : Option Token) : iteration i (ofItem ⟨.string, parent, raw⟩) next ⟨keys, store⟩ =
        (store.writeAll [.ntp raw]).map (⟨keys, ·⟩) := by
      simp only [iteration, inner, if_false, taken]
      simp [ofItem, Store.writeAll, Store.write, Function.comp_def]
    simp only [Json.flatten, itemLoop, List.cons_append, List.nil_append, List.map_cons, tokenLoop, step, entryWrites, Json.text,
      List.map_nil]
    cases store.writeAll [.ntp raw] <;> rfl
  · have nothing : entryWrites element = [] := by cases element <;> simp_all [entryWrites, Json.text]
    rw [nothing]
    exact walk_element .ntpUrlArray parent i element keys inside (by decide) fun raw same => string ⟨raw, same⟩

theorem walk_entries (parent i : Nat) (elements : List Json) (keys : Keys) (inside : Inside keys .ntpUrlArray parent i)
    (clean : Clean (flattenElements i parent elements)) :
    Walk i (flattenElements i parent elements) (elements.flatMap entryWrites) keys keys := by
  induction elements generalizing i with
  | nil => exact walk_nil i keys
  | cons element rest ih =>
      obtain ⟨first, later⟩ := (clean_append _ _).mp clean
      have here := walk_entry parent i element keys inside first
      have there := ih (i + element.size) (inside_mono keys _ parent i _ inside (by omega)) later
      exact walk_append i _ _ _ _ keys keys keys here (by rwa [flatten_length])

end Miso.Config
