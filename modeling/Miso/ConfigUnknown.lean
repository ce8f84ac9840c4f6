import Miso.ConfigResult

set_option autoImplicit false

namespace Miso.Config

open Base (Byte Buffer Item Json JsonType ascii fit padded sameStart strncpy cText flattenMembers)

abbrev Member := List Byte × Json

-- The members around an object that stands under a name.
structure Frame where
  before : List Member
  name : List Byte
  after : List Member

def fill : List Frame → List Member → Json
  | [], members => .object members
  | frame :: rest, members => .object (frame.before ++ (frame.name, fill rest members) :: frame.after)

-- Where a member can stand: at the root, in a section, or in the psk object of
-- one.
inductive Site : List Frame → Option Slot → Prop where
  | atRoot : Site [] none
  | inSection (frame : Frame) (slot : Slot) (named : rootMember frame.name = some slot) : Site [frame] (some slot)
  | inPsk (outer inner : Frame) (slot psk : Slot) (named : rootMember outer.name = some slot)
      (led : memberAction slot inner.name = .remember psk) (kind : psk = .lwm2mPsk ∨ psk = .mqttPsk) :
      Site [outer, inner] (some psk)

def placeWrites : Option Slot → Member → List Write
  | none => memberWrites
  | some slot => sectionWrites slot

def MemberShaped : Option Slot → Member → Prop
  | none, member => ∀ slot, rootMember member.1 = some slot → SectionShaped slot member.2
  | some slot, member => FieldShaped slot member

def Action.reaches : Action → Bool
  | .copyTo _ _ | .remember .lwm2mPsk | .remember .mqttPsk => true
  | .remember _ | .ignore => false

def leadsAt : Option Slot → List Byte → Bool
  | none, name => (rootMember name).isSome
  | some .ntp, name => sameStart name "url"
  | some slot, name => (memberAction slot name).reaches

theorem field_writes_plain (slot : Slot) (field : Member) (plain : ∀ other, memberAction slot field.1 ≠ .remember other) :
    fieldWrites slot field = actionWrites (memberAction slot field.1) field.2 := by
  rw [fieldWrites]
  split
  · rename_i other action
    exact absurd action (plain other)
  · rfl

theorem section_writes_field (slot : Slot) (other : slot ≠ .ntp) (field : Member) :
    sectionWrites slot field = fieldWrites slot field := by
  cases slot <;> first | rfl | exact absurd rfl other

theorem leads_action (slot : Slot) (other : slot ≠ .ntp) (name : List Byte) :
    leadsAt (some slot) name = (memberAction slot name).reaches := by
  cases slot <;> first | rfl | exact absurd rfl other

theorem unled_writes (place : Option Slot) (member : Member) (unled : leadsAt place member.1 = false) :
    placeWrites place member = [] := by
  cases place with
  | none =>
      have unnamed : rootMember member.1 = none := Option.not_isSome_iff_eq_none.mp (by simpa [leadsAt] using unled)
      simp only [placeWrites, memberWrites, unnamed]
  | some slot =>
      by_cases ntp : slot = .ntp
      · subst ntp
        exact if_neg (by simpa [leadsAt] using unled)
      · rw [leads_action slot ntp] at unled
        rw [placeWrites, section_writes_field slot ntp, fieldWrites]
        have sized := member_action_sized slot member.1
        cases action : memberAction slot member.1 with
        | copyTo setting dest_len => simp [action, Action.reaches] at unled
        | ignore => rfl
        | remember other =>
            rw [action] at unled sized
            have cert : other ∉ [Slot.lwm2mPsk, .mqttPsk] := by
              intro psk
              simp only [List.mem_cons, List.not_mem_nil, or_false] at psk
              rcases psk with rfl | rfl <;> cases unled
            exact cert_writes other cert _ sized

-- What the members of a site write stands between what its surroundings do.
theorem fill_writes (frames : List Frame) (place : Option Slot) (site : Site frames place) :
    ∃ earlier later, ∀ members,
      documentWrites (fill frames members) = earlier ++ members.flatMap (placeWrites place) ++ later := by
  cases site with
  | atRoot => exact ⟨[], [], fun members => by simp [fill, documentWrites, Json.members, placeWrites]⟩
  | inSection frame slot named =>
      refine ⟨frame.before.flatMap memberWrites, frame.after.flatMap memberWrites, fun members => ?_⟩
      have inner : memberWrites (frame.name, .object members) = members.flatMap (sectionWrites slot) := by
        simp only [memberWrites, named, Json.members]
      simp [fill, documentWrites, Json.members, placeWrites, inner]
  | inPsk outer inner slot psk named led kind =>
      refine ⟨outer.before.flatMap memberWrites ++ inner.before.flatMap (sectionWrites slot),
        inner.after.flatMap (sectionWrites slot) ++ outer.after.flatMap memberWrites, fun members => ?_⟩
      have other : slot ≠ .ntp := by
        rintro rfl
        cases led
      have apart : psk ≠ .ntp := by rcases kind with rfl | rfl <;> decide
      have inside (members : List Member) : sectionWrites slot (inner.name, .object members) = members.flatMap (sectionWrites psk) := by
        rw [section_writes_field slot other, fieldWrites, led]
        apply flat_map_congr
        intro member _
        rw [section_writes_field psk apart, field_writes_plain psk member (psk_member_plain psk kind member.1)]
      have whole : memberWrites (outer.name, .object (inner.before ++ (inner.name, .object members) :: inner.after)) =
          inner.before.flatMap (sectionWrites slot) ++
            (members.flatMap (sectionWrites psk) ++ inner.after.flatMap (sectionWrites slot)) := by
        simp only [memberWrites, named, Json.members, List.flatMap_append, List.flatMap_cons, inside]
      simp [fill, documentWrites, Json.members, placeWrites, whole]

theorem fill_shaped (frames : List Frame) (place : Option Slot) (site : Site frames place) :
    ∃ context : Prop, ∀ members,
      Shaped (fill frames members) ↔ context ∧ ∀ member ∈ members, MemberShaped place member := by
  have split (members : List Member) : Shaped (.object members) ↔ ∀ member ∈ members, MemberShaped none member :=
    ⟨fun shaped => shaped.2, fun each => ⟨fun _ => Json.noConfusion, each⟩⟩
  cases site with
  | atRoot => exact ⟨True, fun members => by rw [true_and]; exact split members⟩
  | inSection frame slot named =>
      refine ⟨(∀ member ∈ frame.before, MemberShaped none member) ∧ ∀ member ∈ frame.after, MemberShaped none member,
        fun members => ?_⟩
      have inner : MemberShaped none (frame.name, .object members) ↔ ∀ member ∈ members, MemberShaped (some slot) member := by
        constructor
        · exact fun shaped => (shaped slot named).2
        · intro each other found
          obtain rfl : slot = other := Option.some.inj (named.symm.trans found)
          exact ⟨.inr fun _ => List.not_mem_nil, each⟩
      rw [fill, split, List.forall_mem_append, List.forall_mem_cons, fill, inner]
      tauto
  | inPsk outer inner slot psk named led kind =>
      refine ⟨(∀ member ∈ outer.before, MemberShaped none member) ∧ (∀ member ∈ inner.before, FieldShaped slot member) ∧
        (∀ member ∈ inner.after, FieldShaped slot member) ∧ ∀ member ∈ outer.after, MemberShaped none member, fun members => ?_⟩
      have free (member : Member) : MemberShaped (some psk) member :=
        fun other action => absurd action (psk_member_plain psk kind member.1 other)
      have object : FieldShaped slot (inner.name, .object members) := fun _ _ _ _ => List.not_mem_nil
      have around : MemberShaped none (outer.name, .object (inner.before ++ (inner.name, .object members) :: inner.after)) ↔
          (∀ member ∈ inner.before, FieldShaped slot member) ∧ ∀ member ∈ inner.after, FieldShaped slot member := by
        constructor
        · intro shaped
          have fields := (shaped slot named).2
          simp only [Json.members, List.forall_mem_append, List.forall_mem_cons] at fields
          exact ⟨fields.1, fields.2.2⟩
        · rintro ⟨before, after⟩ other found
          obtain rfl : slot = other := Option.some.inj (named.symm.trans found)
          refine ⟨.inr fun _ => List.not_mem_nil, ?_⟩
          simp only [Json.members, List.forall_mem_append, List.forall_mem_cons]
          exact ⟨before, object, after⟩
      rw [fill, split, List.forall_mem_append, List.forall_mem_cons, fill, fill, around]
      have each : ∀ member ∈ members, MemberShaped (some psk) member := fun member _ => free member
      tauto

-- Deleting a member of this name here never changes what a load leaves in the
-- buffers.
def Ignored (place : Option Slot) (name : List Byte) : Prop :=
  ∀ frames before value after, Site frames place → Shaped (fill frames (before ++ (name, value) :: after)) →
    ∀ (whole cut : LoadEnv) (wholeTokens cutTokens : List JsmnTok) (store : Store),
      whole.Loads wholeTokens → Tokenized whole.text wholeTokens (fill frames (before ++ (name, value) :: after)) →
      cut.Loads cutTokens → Tokenized cut.text cutTokens (fill frames (before ++ after)) →
      (misoLoadConfig whole store).map Prod.fst = (misoLoadConfig cut store).map Prod.fst

theorem unled_ignored (place : Option Slot) (name : List Byte) (unled : leadsAt place name = false) : Ignored place name := by
  intro frames before value after site shaped whole cut wholeTokens cutTokens store wholeLoads wholeFile cutLoads cutFile
  obtain ⟨earlier, later, writes⟩ := fill_writes frames place site
  obtain ⟨context, shapes⟩ := fill_shaped frames place site
  have cutShaped : Shaped (fill frames (before ++ after)) := by
    obtain ⟨around, each⟩ := (shapes _).mp shaped
    simp only [List.forall_mem_append, List.forall_mem_cons] at each
    exact (shapes _).mpr ⟨around, List.forall_mem_append.mpr ⟨each.1, each.2.2⟩⟩
  have nothing : placeWrites place (name, value) = [] := unled_writes place (name, value) unled
  rw [load_result whole wholeTokens _ store wholeLoads wholeFile shaped,
    load_result cut cutTokens _ store cutLoads cutFile cutShaped, writes, writes]
  simp only [List.flatMap_append, List.flatMap_cons, nothing, List.nil_append]

def mark : List Byte := ascii "a"

def Marked (write : Write) : Prop := write = .ntp mark ∨ ∃ setting, write = .copy setting mark

theorem marked_visible (write : Write) (marked : Marked write) : Store.zero.write write ≠ some .zero := by
  rcases marked with rfl | ⟨setting, rfl⟩
  · intro same
    have first := congrArg (Option.map fun store : Store => (store .ntpUrl).bytes.head?) same
    exact absurd first (by decide)
  · intro same
    have buffer : fit setting.sizeof mark = .zero setting.sizeof := by
      simpa [Store.write, Store.put, Store.zero] using congrFun (Option.some.inj same) setting
    have first := congrArg (fun buffer => buffer.bytes.head?) buffer
    cases setting <;> exact absurd first (by decide)

theorem clean_single (index : Nat) (parent : Int) (name : List Byte) (value : Json) (clean : 0 ∉ name)
    (inside : ∀ index parent, Clean (value.flatten index parent)) :
    Clean ((Json.object [(name, value)]).flatten index parent) := by
  simp only [Json.flatten, flattenMembers, List.append_nil]
  exact List.forall_mem_cons.mpr ⟨fun string => JsonType.noConfusion string,
    List.forall_mem_cons.mpr ⟨fun _ => clean, inside _ _⟩⟩

-- A value that makes a member of a name in use write something.
structure Sample (place : Option Slot) (name : List Byte) (value : Json) (write : Write) : Prop where
  writes : placeWrites place (name, value) = [write]
  marked : Marked write
  shaped : MemberShaped place (name, value)
  clean : ∀ index parent, Clean (value.flatten index parent)

theorem mark_plain : 0 ∉ mark := by decide

theorem clean_mark (index : Nat) (parent : Int) : Clean ((Json.string mark).flatten index parent) := by
  intro item member _
  obtain rfl := List.mem_singleton.mp member
  exact mark_plain

theorem clean_mark_array (index : Nat) (parent : Int) : Clean ((Json.array [.string mark]).flatten index parent) := by
  intro item member string
  rcases List.mem_cons.mp member with rfl | inside
  · cases string
  · obtain rfl := List.mem_singleton.mp inside
    exact mark_plain

theorem sample_string (slot : Slot) (name : List Byte) (setting : Setting) (dest_len : Nat)
    (action : memberAction slot name = .copyTo setting dest_len) : Sample (some slot) name (.string mark) (.copy setting mark) where
  writes := by
    have other : slot ≠ .ntp := by
      rintro rfl
      cases action
    rw [placeWrites, section_writes_field slot other, fieldWrites, action]
    rfl
  marked := .inr ⟨setting, rfl⟩
  shaped := fun _ _ _ _ => List.not_mem_nil
  clean := clean_mark

theorem sample_psk (slot psk : Slot) (name : List Byte) (kind : psk = .lwm2mPsk ∨ psk = .mqttPsk)
    (action : memberAction slot name = .remember psk) :
    ∃ setting, Sample (some slot) name (.object [(ascii "id", .string mark)]) (.copy setting mark) := by
  obtain ⟨setting, dest_len, id⟩ : ∃ setting dest_len, memberAction psk (ascii "id") = .copyTo setting dest_len := by
    rcases kind with rfl | rfl <;> exact ⟨_, _, rfl⟩
  refine ⟨setting, ?_, .inr ⟨setting, rfl⟩, fun _ _ _ _ => List.not_mem_nil, ?_⟩
  · have other : slot ≠ .ntp := by
      rintro rfl
      cases action
    rw [placeWrites, section_writes_field slot other, fieldWrites, action]
    simp only [Json.members, pskWrites, List.flatMap_cons, id]
    rfl
  · exact fun index parent => clean_single index parent _ _ (by decide) clean_mark

theorem sample_ntp (name : List Byte) (url : sameStart name "url" = true) :
    Sample (some .ntp) name (.array [.string mark]) (.ntp mark) where
  writes := if_pos url
  marked := .inl rfl
  shaped := by
    intro other action
    cases action
  clean := clean_mark_array

theorem sample_field (slot : Slot) (name : List Byte) (led : leadsAt (some slot) name = true) :
    ∃ value write, Sample (some slot) name value write := by
  by_cases ntp : slot = .ntp
  · subst ntp
    exact ⟨_, _, sample_ntp name led⟩
  · rw [leads_action slot ntp] at led
    cases action : memberAction slot name with
    | copyTo setting dest_len => exact ⟨_, _, sample_string slot name setting dest_len action⟩
    | ignore => simp [action, Action.reaches] at led
    | remember psk =>
        have kind : psk = .lwm2mPsk ∨ psk = .mqttPsk := by
          cases psk <;> simp_all [Action.reaches]
        obtain ⟨setting, sample⟩ := sample_psk slot psk name kind action
        exact ⟨_, _, sample⟩

def Slot.sampleName : Slot → List Byte
  | .wifi => ascii "ssid"
  | .ntp => ascii "url"
  | _ => ascii "uri"

theorem sample_name_led : ∀ slot ∈ titled, leadsAt (some slot) slot.sampleName = true ∧ 0 ∉ slot.sampleName := by decide +kernel

theorem root_member_titled (name : List Byte) (slot : Slot) (named : rootMember name = some slot) : slot ∈ titled := by
  rcases root_member_slots name slot named with rfl | rfl | rfl | rfl | rfl | rfl <;> decide

theorem sample_member (place : Option Slot) (name : List Byte) (led : leadsAt place name = true) :
    ∃ value write, Sample place name value write := by
  cases place with
  | some slot => exact sample_field slot name led
  | none =>
      obtain ⟨slot, named⟩ := Option.isSome_iff_exists.mp led
      obtain ⟨known, plain⟩ := sample_name_led slot (root_member_titled name slot named)
      obtain ⟨value, write, field⟩ := sample_field slot slot.sampleName known
      refine ⟨.object [(slot.sampleName, value)], write, ?_, field.marked, ?_, ?_⟩
      · have written : sectionWrites slot (slot.sampleName, value) = [write] := field.writes
        simp only [placeWrites, memberWrites, named, Json.members, List.flatMap_cons, List.flatMap_nil, written, List.append_nil]
      · intro other found
        obtain rfl : slot = other := Option.some.inj (named.symm.trans found)
        exact ⟨.inr fun _ => List.not_mem_nil, List.forall_mem_singleton.mpr field.shaped⟩
      · exact fun index parent => clean_single index parent _ _ plain field.clean

structure Bare (frames : List Frame) (place : Option Slot) : Prop where
  site : Site frames place
  silent : documentWrites (fill frames []) = []
  shaped : Shaped (fill frames [])
  clean : ∀ members, (∀ index parent, Clean ((Json.object members).flatten index parent)) →
    ∀ index parent, Clean ((fill frames members).flatten index parent)

def Frame.alone (name : String) : Frame := ⟨[], ascii name, []⟩

theorem bare_root : Bare [] none :=
  ⟨.atRoot, rfl, ⟨fun _ => Json.noConfusion, List.forall_mem_nil _⟩, fun _ inside => inside⟩

theorem bare_section : ∀ slot ∈ titled, Bare [.alone slot.title] (some slot) := by
  intro slot top
  have named : rootMember (ascii slot.title) = some slot := section_slot_titles slot top
  have plain : ∀ slot ∈ titled, 0 ∉ ascii slot.title := by decide +kernel
  refine ⟨.inSection _ slot named, ?_, ?_, ?_⟩
  · simp [fill, Frame.alone, documentWrites, memberWrites, named, Json.members]
  · refine ⟨fun _ => Json.noConfusion, List.forall_mem_singleton.mpr fun other _ => ?_⟩
    exact ⟨.inr fun _ => List.not_mem_nil, List.forall_mem_nil _⟩
  · exact fun members inside index parent => clean_single index parent _ _ (plain slot top) inside

theorem bare_psk (slot psk : Slot) (top : slot ∈ titled) (led : memberAction slot (ascii "psk") = .remember psk)
    (kind : psk = .lwm2mPsk ∨ psk = .mqttPsk) : Bare [.alone slot.title, .alone "psk"] (some psk) := by
  have named : rootMember (ascii slot.title) = some slot := section_slot_titles slot top
  have plain : ∀ slot ∈ titled, 0 ∉ ascii slot.title := by decide +kernel
  have other : slot ≠ .ntp := by
    rintro rfl
    cases led
  refine ⟨.inPsk _ _ slot psk named led kind, ?_, ?_, ?_⟩
  · simp [fill, Frame.alone, documentWrites, memberWrites, named, Json.members, section_writes_field slot other, fieldWrites, led,
      pskWrites]
  · refine ⟨fun _ => Json.noConfusion, List.forall_mem_singleton.mpr fun found _ => ?_⟩
    exact ⟨.inr fun _ => List.not_mem_nil, List.forall_mem_singleton.mpr fun _ _ _ _ => List.not_mem_nil⟩
  · intro members inside index parent
    refine clean_single index parent _ _ (plain slot top) fun index parent => ?_
    exact clean_single index parent _ _ (by decide) inside

theorem bare_site (place : Option Slot) (name : List Byte) (led : leadsAt place name = true) : ∃ frames, Bare frames place := by
  cases place with
  | none => exact ⟨[], bare_root⟩
  | some slot =>
      cases slot with
      | wifi | lwm2m | ntp | mqtt | http | config => exact ⟨_, bare_section _ (by decide)⟩
      | lwm2mPsk => exact ⟨_, bare_psk .lwm2m .lwm2mPsk (by decide) (by decide) (.inl rfl)⟩
      | mqttPsk => exact ⟨_, bare_psk .mqtt .mqttPsk (by decide) (by decide) (.inr rfl)⟩
      | ntpUrl | ntpUrlArray | lwm2mCert | mqttCert => cases led

theorem led_noticed (place : Option Slot) (name : List Byte) (clean : 0 ∉ name) (led : leadsAt place name = true) :
    ¬ Ignored place name := by
  intro ignored
  obtain ⟨frames, bare⟩ := bare_site place name led
  obtain ⟨value, write, sample⟩ := sample_member place name led
  obtain ⟨earlier, later, writes⟩ := fill_writes frames place bare.site
  obtain ⟨context, shapes⟩ := fill_shaped frames place bare.site
  obtain ⟨rfl, rfl⟩ : earlier = [] ∧ later = [] := by simpa [bare.silent] using (writes []).symm
  have shaped : Shaped (fill frames [(name, value)]) :=
    (shapes _).mpr ⟨((shapes _).mp bare.shaped).1, List.forall_mem_singleton.mpr sample.shaped⟩
  have wholeFile := rendered_tokenized (fill frames [(name, value)])
    (bare.clean _ (fun index parent => clean_single index parent name value clean sample.clean) 0 (-1))
  have cutFile := rendered_tokenized (fill frames [])
    (bare.clean [] (fun index parent item member string => by
      obtain rfl := List.mem_singleton.mp member
      cases string) 0 (-1))
  have same := ignored frames [] value [] bare.site shaped (.given _ _) (.given _ _) _ _ .zero (given_loads _ _) wholeFile
    (given_loads _ _) cutFile
  rw [load_result _ _ _ _ (given_loads _ _) wholeFile shaped, load_result _ _ _ _ (given_loads _ _) cutFile bare.shaped,
    writes, writes] at same
  simp only [List.flatMap_cons, List.flatMap_nil, sample.writes, List.nil_append, List.append_nil] at same
  have single : Store.zero.writeAll [write] = Store.zero.write write := by simp [Store.writeAll]
  rw [single] at same
  exact marked_visible write sample.marked same

theorem unknown_ignored (place : Option Slot) (name : List Byte) (clean : 0 ∉ name) :
    Ignored place name ↔ leadsAt place name = false := by
  refine ⟨fun ignored => ?_, unled_ignored place name⟩
  cases led : leadsAt place name with
  | false => rfl
  | true => exact absurd ignored (led_noticed place name clean led)

theorem unknown_ignored_comment : Ignored (some .wifi) (ascii "comment") :=
  (unknown_ignored (some .wifi) (ascii "comment") (by decide)).mpr (by decide)

def guestDocument : Json := .object [
  (ascii "wifi", .object [(ascii "ssid", .string (ascii "home"))]),
  (ascii "wifi_guest", .object [(ascii "ssid", .string (ascii "cafe"))])]

def ownDocument : Json := .object [(ascii "wifi", .object [(ascii "ssid", .string (ascii "home"))])]

def fileOf (document : Json) : LoadEnv := .given (render document) (tokensAt 0 0 (-1) document)

-- No section is called wifi_guest, but its name begins like one.
theorem guest_section_read :
    render guestDocument = ascii "\x7b\"wifi\":\x7b\"ssid\":\"home\"\x7d,\"wifi_guest\":\x7b\"ssid\":\"cafe\"\x7d\x7d" ∧
      (∀ slot ∈ titled, ascii "wifi_guest" ≠ ascii slot.title) ∧
      Tokenized (render guestDocument) (tokensAt 0 0 (-1) guestDocument) guestDocument ∧
      Tokenized (render ownDocument) (tokensAt 0 0 (-1) ownDocument) ownDocument ∧
      (misoLoadConfig (fileOf guestDocument) .zero).map (fun loaded => (loaded.1 .wifiSsid).bytes) =
        some (padded (ascii "cafe") 32) ∧
      (misoLoadConfig (fileOf ownDocument) .zero).map (fun loaded => (loaded.1 .wifiSsid).bytes) =
        some (padded (ascii "home") 32) := by
  refine ⟨?_, ?_, ?_, ?_, ?_, ?_⟩ <;> decide

-- A string in an array that stands for a section is read as a name, and the
-- unknown member behind the array as its value.
example :
    let document := Json.object [(ascii "wifi", .array [.string (ascii "ssid")]), (ascii "site", .primitive (ascii "1"))]
    (misoLoadConfig (fileOf document) .zero).map (fun loaded => (loaded.1 .wifiSsid).bytes) = some (padded (ascii "site") 32) := by
  decide

end Miso.Config
