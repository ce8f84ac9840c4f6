import Miso.ConfigDocument

set_option autoImplicit false

namespace Miso.Config

open Base (Byte Buffer Json ascii fit nodesAt textsAt sameStart strncpy strncpy_fits)

def Slot.title : Slot → String
  | .wifi => "wifi"
  | .lwm2m => "lwm2m"
  | .ntp => "ntp"
  | .mqtt => "mqtt"
  | .http => "http"
  | .config => "config"
  | _ => ""

def titled : List Slot := [.wifi, .lwm2m, .ntp, .mqtt, .http, .config]

def Slot.fields : Slot → List String
  | .wifi => ["ssid", "key"]
  | .lwm2m => ["uri", "url", "psk", "cert", "bootstrap", "endpoint", "device"]
  | .ntp => ["url"]
  | .mqtt => ["uri", "url", "device", "username", "password", "psk", "cert"]
  | .http => ["uri", "url", "sig", "sig_uri", "key", "cert", "endpoint", "device"]
  | .config => ["uri", "url", "psk", "cert", "endpoint", "device"]
  | .lwm2mPsk | .mqttPsk => ["id", "key"]
  | _ => []

def Setting.path : Setting → List (List String)
  | .wifiSsid => [["wifi"], ["ssid"]]
  | .wifiKey => [["wifi"], ["key"]]
  | .lwm2mUri => [["lwm2m"], ["uri", "url"]]
  | .lwm2mEndpoint => [["lwm2m"], ["endpoint", "device"]]
  | .lwm2mPskId => [["lwm2m"], ["psk"], ["id"]]
  | .lwm2mPskKey => [["lwm2m"], ["psk"], ["key"]]
  | .ntpUrl => [["ntp"], ["url"]]
  | .mqttUri => [["mqtt"], ["uri", "url"]]
  | .mqttDeviceId => [["mqtt"], ["device"]]
  | .mqttPskId => [["mqtt"], ["psk"], ["id"]]
  | .mqttPskKey => [["mqtt"], ["psk"], ["key"]]
  | .httpUri => [["http"], ["uri", "url"]]
  | .httpSigUri => [["http"], ["sig", "sig_uri"]]
  | .httpKey => [["http"], ["key"]]
  | .configUri => [["config"], ["uri", "url"]]

def bytePath (path : List (List String)) : List (List (List Byte)) := path.map (·.map ascii)

def Setting.texts (setting : Setting) (root : Json) : List (List Byte) := textsAt (bytePath setting.path) root

-- The strings in the arrays a document gives for the NTP address.
def ntpEntries (root : Json) : List (List Byte) :=
  (nodesAt (bytePath Setting.ntpUrl.path) root).flatMap fun value => value.elements.flatMap Json.text

def RecognisedField (slot : Slot) (field : List Byte × Json) : Prop :=
  ∃ name ∈ slot.fields, field.1 = ascii name ∧
    ((slot = .lwm2m ∨ slot = .mqtt) → name = "psk" →
      ∃ members, field.2 = .object members ∧ ∀ member ∈ members, member.1 = ascii "id" ∨ member.1 = ascii "key")

-- Sections and members under the names the loop knows, psk being an object.
def Recognised (root : Json) : Prop :=
  ∃ members, root = .object members ∧ ∀ member ∈ members, ∃ slot ∈ titled, member.1 = ascii slot.title ∧
    ∃ fields, member.2 = .object fields ∧ ∀ field ∈ fields, RecognisedField slot field

def settle {capacity : Nat} (old : Buffer capacity) (texts : List (List Byte)) : Buffer capacity :=
  match texts.getLast? with
  | some raw => fit capacity raw
  | none => old

theorem settle_append {capacity : Nat} (old : Buffer capacity) (first second : List (List Byte)) :
    settle (settle old first) second = settle old (first ++ second) := by
  simp only [settle, List.getLast?_append]
  cases second.getLast? <;> rfl

def Write.textFor (setting : Setting) : Write → List (List Byte)
  | .copy other raw => if other = setting then [raw] else []
  | .ntp _ => []

def Write.entry : Write → List (List Byte)
  | .copy _ _ => []
  | .ntp raw => [raw]

theorem write_settles (store after : Store) (write : Write) (setting : Setting) (notNtp : setting ≠ .ntpUrl)
    (written : store.write write = some after) : after setting = settle (store setting) (write.textFor setting) := by
  cases write with
  | copy other raw =>
      obtain rfl : store.put other (fit other.sizeof raw) = after := by simpa [Store.write] using written
      by_cases same : other = setting
      · subst same
        simp [Store.put, Write.textFor, settle]
      · simp [Store.put, Write.textFor, settle, same, Ne.symm same]
  | ntp raw =>
      obtain ⟨buffer, _, rfl⟩ := Option.map_eq_some_iff.mp written
      simp [Store.put, Write.textFor, settle, notNtp]

theorem write_all_settles (store after : Store) (writes : List Write) (setting : Setting) (notNtp : setting ≠ .ntpUrl)
    (written : store.writeAll writes = some after) :
    after setting = settle (store setting) (writes.flatMap (·.textFor setting)) := by
  induction writes generalizing store with
  | nil =>
      obtain rfl : store = after := Option.some.inj written
      rfl
  | cons write rest ih =>
      obtain ⟨middle, first, later⟩ := Option.bind_eq_some_iff.mp written
      rw [ih middle later, write_settles store middle write setting notNtp first, settle_append, List.flatMap_cons]

theorem write_defined (store : Store) (write : Write) :
    (store.write write).isSome = true ↔ ∀ raw ∈ write.entry, raw.length ≤ Setting.ntpUrl.sizeof := by
  cases write with
  | copy other raw => simp [Store.write, Write.entry]
  | ntp raw => simp [Store.write, Write.entry, strncpy_fits]

-- The NTP entries are the only writes that can leave their buffer.
theorem write_all_defined (store : Store) (writes : List Write) :
    (store.writeAll writes).isSome = true ↔ ∀ raw ∈ writes.flatMap Write.entry, raw.length ≤ Setting.ntpUrl.sizeof := by
  induction writes generalizing store with
  | nil => simp [Store.writeAll]
  | cons write rest ih =>
      have head := write_defined store write
      simp only [Store.writeAll, List.foldlM_cons, List.flatMap_cons, List.forall_mem_append, ← head]
      cases store.write write with
      | none => simp
      | some middle => simpa [Store.writeAll] using ih middle

theorem texts_at_cons (names : List (List Byte)) (path : List (List (List Byte))) (json : Json) :
    textsAt (names :: path) json =
      json.members.flatMap fun member => if member.1 ∈ names then textsAt path member.2 else [] := by
  simp only [textsAt, nodesAt, List.flatMap_assoc]
  congr 1
  funext member
  split <;> simp

def Setting.pskSlot : Setting → Option Slot
  | .lwm2mPskId | .lwm2mPskKey => some .lwm2mPsk
  | .mqttPskId | .mqttPskKey => some .mqttPsk
  | _ => none

def Setting.copied : List Setting :=
  [.wifiSsid, .wifiKey, .lwm2mEndpoint, .lwm2mUri, .lwm2mPskId, .lwm2mPskKey, .mqttUri, .mqttDeviceId, .mqttPskId,
    .mqttPskKey, .httpUri, .httpSigUri, .httpKey, .configUri]

theorem copied_complete (setting : Setting) (notNtp : setting ≠ .ntpUrl) : setting ∈ Setting.copied := by
  cases setting <;> first | decide | exact absurd rfl notNtp

def Setting.remaining (setting : Setting) (slot : Slot) (name : List Byte) : Option (List (List String)) :=
  match setting.path with
  | first :: second :: rest => if ascii slot.title ∈ first.map ascii ∧ name ∈ second.map ascii then some rest else none
  | _ => none

def Action.leads (action : Action) (setting : Setting) : Option (List (List String)) :=
  match action with
  | .copyTo other _ => if other = setting then some [] else none
  | .remember other => if setting.pskSlot = some other then some (setting.path.drop 2) else none
  | .ignore => none

-- The branches of the loop against the paths of the settings.
theorem actions_follow_paths : ∀ slot ∈ titled, ∀ name ∈ slot.fields, ∀ setting ∈ Setting.copied,
    (memberAction slot (ascii name)).leads setting = setting.remaining slot (ascii name) := by decide +kernel

theorem psk_actions_follow_paths : ∀ slot ∈ [Slot.lwm2mPsk, .mqttPsk], ∀ name ∈ slot.fields, ∀ setting ∈ Setting.copied,
    memberAction slot (ascii name) = .copyTo setting setting.sizeof ↔
      setting.pskSlot = some slot ∧ [ascii name] ∈ (bytePath (setting.path.drop 2)) := by decide +kernel

theorem action_texts (action : Action) (value : Json) (setting : Setting) (sized : action.Sized) :
    (actionWrites action value).flatMap (·.textFor setting) =
      if action = .copyTo setting setting.sizeof then value.text else [] := by
  match action, value with
  | .copyTo other dest_len, .string raw =>
      obtain ⟨rfl, _⟩ := sized
      by_cases same : other = setting
      · subst same
        simp [actionWrites, Write.textFor, Json.text]
      · simp [actionWrites, Write.textFor, same]
  | .copyTo _ _, .primitive _ | .copyTo _ _, .array _ | .copyTo _ _, .object _ => simp [actionWrites, Json.text]
  | .remember _, value => simp [actionWrites]
  | .ignore, value => simp [actionWrites]

theorem flat_map_congr {α β : Type} (list : List α) (first second : α → List β)
    (same : ∀ entry ∈ list, first entry = second entry) : list.flatMap first = list.flatMap second := by
  simp only [List.flatMap_def, List.map_congr_left same]

theorem psk_path (setting : Setting) (slot : Slot) (own : setting.pskSlot = some slot) :
    ∃ last, setting.path.drop 2 = [[last]] := by cases setting <;> cases own <;> exact ⟨_, rfl⟩

theorem psk_texts (slot : Slot) (members : List (List Byte × Json)) (setting : Setting)
    (psk : slot ∈ [Slot.lwm2mPsk, .mqttPsk]) (copied : setting ∈ Setting.copied)
    (named : ∀ member ∈ members, member.1 = ascii "id" ∨ member.1 = ascii "key") :
    (pskWrites slot members).flatMap (·.textFor setting) =
      if setting.pskSlot = some slot then textsAt (bytePath (setting.path.drop 2)) (.object members) else [] := by
  have each (member : List Byte × Json) (listed : member ∈ members) :
      (actionWrites (memberAction slot member.1) member.2).flatMap (·.textFor setting) =
        if setting.pskSlot = some slot ∧ [member.1] ∈ bytePath (setting.path.drop 2) then member.2.text else [] := by
    obtain ⟨name, field, spelled⟩ : ∃ name ∈ slot.fields, member.1 = ascii name := by
      simp only [List.mem_cons, List.not_mem_nil, or_false] at psk
      rcases psk with rfl | rfl <;> rcases named member listed with id | key <;> simp [Slot.fields, *]
    rw [action_texts _ _ _ (member_action_sized slot member.1), spelled]
    simp only [psk_actions_follow_paths slot psk name field setting copied]
  rw [pskWrites, List.flatMap_assoc, flat_map_congr _ _ _ each]
  by_cases own : setting.pskSlot = some slot
  · obtain ⟨last, path⟩ := psk_path setting slot own
    have bytes : bytePath [[last]] = [[ascii last]] := rfl
    simp only [own, path, bytes, texts_at_cons, true_and, if_true]
    simp [textsAt, nodesAt, Json.members]
  · simp [own]

theorem remembered_psk : ∀ slot ∈ titled, ∀ name ∈ slot.fields, ∀ other ∈ [Slot.lwm2mPsk, .mqttPsk],
    memberAction slot (ascii name) = .remember other → (slot = .lwm2m ∨ slot = .mqtt) ∧ name = "psk" := by decide +kernel

theorem recognised_psk (slot other : Slot) (field : List Byte × Json) (top : slot ∈ titled)
    (recognised : RecognisedField slot field) (action : memberAction slot field.1 = .remember other)
    (psk : other ∈ [Slot.lwm2mPsk, .mqttPsk]) :
    ∃ members, field.2 = .object members ∧ ∀ member ∈ members, member.1 = ascii "id" ∨ member.1 = ascii "key" := by
  obtain ⟨name, listed, spelled, object⟩ := recognised
  obtain ⟨section_slot, named⟩ := remembered_psk slot top name listed other psk (by rw [← spelled, action])
  exact object section_slot named

theorem cert_writes (other : Slot) (cert : other ∉ [Slot.lwm2mPsk, .mqttPsk]) (members : List (List Byte × Json))
    (sized : (Action.remember other).Sized) : pskWrites other members = [] := by
  rcases sized with rfl | rfl | rfl | rfl <;> simp_all [pskWrites, memberAction, actionWrites]

theorem psk_slot_kinds (setting : Setting) (other : Slot) (own : setting.pskSlot = some other) :
    other ∈ [Slot.lwm2mPsk, .mqttPsk] := by cases setting <;> cases own <;> decide

theorem ntp_texts (field : List Byte × Json) (setting : Setting) : (ntpWrites field).flatMap (·.textFor setting) = [] := by
  rw [ntpWrites]
  split <;> simp [entryWrites, Write.textFor, List.flatMap_assoc, List.flatMap_map]

theorem field_texts (slot : Slot) (field : List Byte × Json) (setting : Setting) (top : slot ∈ titled)
    (copied : setting ∈ Setting.copied) (recognised : RecognisedField slot field) :
    (sectionWrites slot field).flatMap (·.textFor setting) =
      match setting.remaining slot field.1 with
      | some path => textsAt (bytePath path) field.2
      | none => [] := by
  obtain ⟨name, listed, spelled, _⟩ := id recognised
  have sized := member_action_sized slot field.1
  have led : (memberAction slot field.1).leads setting = setting.remaining slot field.1 := by
    rw [spelled]
    exact actions_follow_paths slot top name listed setting copied
  rw [← led]
  by_cases ntp : slot = .ntp
  · subst ntp
    exact ntp_texts field setting
  have written : sectionWrites slot field = fieldWrites slot field := by cases slot <;> first | rfl | exact absurd rfl ntp
  rw [written, fieldWrites]
  cases action : memberAction slot field.1 with
  | copyTo other dest_len =>
      rw [action] at sized
      obtain ⟨rfl, _⟩ := id sized
      simp only [action_texts _ _ _ sized]
      by_cases same : other = setting
      · subst same
        simp [Action.leads, bytePath, textsAt, nodesAt]
      · simp [Action.leads, same]
  | remember other =>
      rw [action] at sized
      by_cases psk : other ∈ [Slot.lwm2mPsk, .mqttPsk]
      · obtain ⟨members, object, named⟩ := recognised_psk slot other field top recognised action psk
        simp only [object, Json.members, psk_texts other members setting psk copied named, Action.leads]
        split <;> rfl
      · have elsewhere : setting.pskSlot ≠ some other := fun own => psk (psk_slot_kinds setting other own)
        simp [cert_writes other psk _ sized, Action.leads, elsewhere]
  | ignore => simp [actionWrites, Action.leads]

theorem section_slot_titles : ∀ slot ∈ titled, rootMember (ascii slot.title) = some slot := by decide +kernel

theorem recognised_shaped (root : Json) (recognised : Recognised root) : Shaped root := by
  obtain ⟨members, rfl, sections⟩ := recognised
  refine ⟨fun _ => Json.noConfusion, ?_⟩
  intro member listed slot named
  obtain ⟨own, top, title, fields, object, each⟩ := sections member listed
  obtain rfl : own = slot := by
    rw [title, section_slot_titles own top] at named
    exact Option.some.inj named
  rw [object]
  refine ⟨.inr fun _ => List.not_mem_nil, ?_⟩
  intro field inside other action psk
  obtain ⟨inner, innerObject, _⟩ := recognised_psk own other field top (each field inside) action (by simpa using psk)
  rw [innerObject]
  exact fun _ => List.not_mem_nil

theorem path_shape (setting : Setting) : ∃ first second rest, setting.path = first :: second :: rest := by
  cases setting <;> exact ⟨_, _, _, rfl⟩

theorem member_texts (member : List Byte × Json) (setting : Setting) (first second : List String) (rest : List (List String))
    (path : setting.path = first :: second :: rest) (copied : setting ∈ Setting.copied)
    (recognised : ∃ slot ∈ titled, member.1 = ascii slot.title ∧
      ∃ fields, member.2 = .object fields ∧ ∀ field ∈ fields, RecognisedField slot field) :
    (memberWrites member).flatMap (·.textFor setting) =
      if member.1 ∈ first.map ascii then textsAt (bytePath (second :: rest)) member.2 else [] := by
  obtain ⟨slot, top, title, fields, object, each⟩ := recognised
  have bytes : bytePath (second :: rest) = second.map ascii :: bytePath rest := rfl
  have below (field : List Byte × Json) (listed : field ∈ fields) :
      (sectionWrites slot field).flatMap (·.textFor setting) =
        if ascii slot.title ∈ first.map ascii then
          if field.1 ∈ second.map ascii then textsAt (bytePath rest) field.2 else []
        else [] := by
    rw [field_texts slot field setting top copied (each field listed)]
    simp only [Setting.remaining, path]
    by_cases outer : ascii slot.title ∈ first.map ascii <;> by_cases inner : field.1 ∈ second.map ascii <;>
      simp only [outer, inner, and_self, and_true, and_false, if_true, if_false]
  simp only [memberWrites, title, section_slot_titles slot top, object, Json.members, List.flatMap_assoc,
    flat_map_congr _ _ _ below, bytes, texts_at_cons]
  split <;> simp

theorem document_texts (root : Json) (setting : Setting) (recognised : Recognised root) (notNtp : setting ≠ .ntpUrl) :
    (documentWrites root).flatMap (·.textFor setting) = setting.texts root := by
  obtain ⟨members, rfl, sections⟩ := recognised
  obtain ⟨first, second, rest, path⟩ := path_shape setting
  have bytes : bytePath (first :: second :: rest) = first.map ascii :: bytePath (second :: rest) := rfl
  have each (member : List Byte × Json) (listed : member ∈ members) :=
    member_texts member setting first second rest path (copied_complete setting notNtp) (sections member listed)
  simp only [documentWrites, Json.members, List.flatMap_assoc, flat_map_congr _ _ _ each, Setting.texts, path, bytes,
    texts_at_cons]

theorem action_entries (action : Action) (value : Json) : (actionWrites action value).flatMap Write.entry = [] := by
  match action, value with
  | .copyTo _ _, .string _ => rfl
  | .copyTo _ _, .primitive _ | .copyTo _ _, .array _ | .copyTo _ _, .object _ => rfl
  | .remember _, _ | .ignore, _ => simp [actionWrites]

theorem field_entries (slot : Slot) (field : List Byte × Json) : (fieldWrites slot field).flatMap Write.entry = [] := by
  rw [fieldWrites]
  split
  · simp [pskWrites, List.flatMap_assoc, action_entries]
  · exact action_entries _ _

theorem section_entries (slot : Slot) (field : List Byte × Json) (recognised : RecognisedField slot field) :
    (sectionWrites slot field).flatMap Write.entry =
      if slot = .ntp then field.2.elements.flatMap Json.text else [] := by
  by_cases ntp : slot = .ntp
  · subst ntp
    obtain ⟨name, listed, spelled, _⟩ := recognised
    obtain rfl : name = "url" := by simpa [Slot.fields] using listed
    have url : sameStart (ascii "url") "url" = true := by decide
    simp [sectionWrites, ntpWrites, spelled, url, entryWrites, Write.entry, List.flatMap_assoc, List.flatMap_map]
  · have written : sectionWrites slot field = fieldWrites slot field := by
      cases slot <;> first | rfl | exact absurd rfl ntp
    rw [written, field_entries, if_neg ntp]

theorem ntp_title : ∀ slot ∈ titled, ascii slot.title = ascii "ntp" ↔ slot = .ntp := by decide +kernel

theorem member_entries (member : List Byte × Json)
    (recognised : ∃ slot ∈ titled, member.1 = ascii slot.title ∧
      ∃ fields, member.2 = .object fields ∧ ∀ field ∈ fields, RecognisedField slot field) :
    (memberWrites member).flatMap Write.entry =
      (if member.1 ∈ [ascii "ntp"] then nodesAt [[ascii "url"]] member.2 else []).flatMap fun value =>
        value.elements.flatMap Json.text := by
  obtain ⟨slot, top, title, fields, object, each⟩ := recognised
  have below (field : List Byte × Json) (listed : field ∈ fields) :=
    section_entries slot field (each field listed)
  simp only [memberWrites, title, section_slot_titles slot top, object, Json.members, List.flatMap_assoc,
    flat_map_congr _ _ _ below, List.mem_singleton, ntp_title slot top]
  by_cases ntp : slot = .ntp
  · subst ntp
    have urls (field : List Byte × Json) (listed : field ∈ fields) : field.1 = ascii "url" := by
      obtain ⟨name, known, spelled, _⟩ := each field listed
      obtain rfl : name = "url" := by simpa [Slot.fields] using known
      exact spelled
    simp only [if_true, nodesAt, Json.members, List.mem_singleton, List.flatMap_assoc]
    apply flat_map_congr
    intro field listed
    simp [urls field listed]
  · simp [ntp]

theorem document_entries (root : Json) (recognised : Recognised root) :
    (documentWrites root).flatMap Write.entry = ntpEntries root := by
  obtain ⟨members, rfl, sections⟩ := recognised
  have each (member : List Byte × Json) (listed : member ∈ members) := member_entries member (sections member listed)
  have path : bytePath Setting.ntpUrl.path = [[ascii "ntp"], [ascii "url"]] := rfl
  simp only [documentWrites, Json.members, List.flatMap_assoc, flat_map_congr _ _ _ each, ntpEntries, path]
  rw [nodesAt]
  simp only [Json.members, List.flatMap_assoc]

end Miso.Config
