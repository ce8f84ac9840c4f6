import Miso.ConfigLoad

set_option autoImplicit false

namespace Miso.Config

open Base (Byte Item Json JsonType sameStart flattenElements flattenMembers elementsSize membersSize flatten_length)

theorem iteration_ntp (i parent : Nat) (name : List Byte) (next : Option Token) (loop : Loop)
    (owns : Owns loop.keys .ntp parent) (positive : 0 < parent) :
    iteration i (ofItem ⟨.string, parent, name⟩) next loop =
      some (if sameStart name "url" then loop.remember .ntpUrl i else loop) := by
  have inner : ¬ ((ofItem ⟨.string, parent, name⟩).parent = 0 ∧ (ofItem ⟨.string, parent, name⟩).type = .string) := by
    simp only [ofItem]
    omega
  have taken := branch_owned loop.keys .ntp parent (ofItem ⟨.string, parent, name⟩) owns rfl rfl (.inr (.inl rfl))
  simp only [iteration, inner, if_false, taken]
  rfl

theorem branch_not_array (keys : Keys) (token : Token) (other : token.type ≠ .array)
    (apart : ∀ slot, slot ≠ .ntpUrl → watched keys slot ≠ token.parent) : keys.branch token = none := by
  have wifi := apart .wifi
  have lwm2m := apart .lwm2m
  have ntp := apart .ntp
  have ntpUrlArray := apart .ntpUrlArray
  have mqtt := apart .mqtt
  have lwm2mPsk := apart .lwm2mPsk
  have mqttPsk := apart .mqttPsk
  have http := apart .http
  have config := apart .config
  simp_all [watched, Slot.watches, Keys.branch]

def urlKeys (keys : Keys) (i : Nat) : Keys := Function.update keys .ntpUrl i

def arrayKeys (keys : Keys) (i : Nat) : Keys := Function.update (urlKeys keys i) .ntpUrlArray (i + 1 : Nat)

theorem url_keys_below (keys : Keys) (i : Nat) (below : Below keys i) : Below (urlKeys keys i) (i + 1) := by
  intro slot
  have earlier := below slot
  rw [urlKeys, watched_update]
  split
  · simp only [Slot.watches]
    omega
  · omega

theorem url_keys_apart (keys : Keys) (i : Nat) (below : Below keys i) (slot : Slot) (other : slot ≠ .ntpUrl) :
    watched (urlKeys keys i) slot ≠ i := by
  have earlier := below slot
  rw [urlKeys, watched_update, if_neg other]
  omega

theorem array_keys_inside (keys : Keys) (i : Nat) (below : Below keys i) :
    Inside (arrayKeys keys i) .ntpUrlArray (i + 1) (i + 2) where
  owns := by
    have earlier := url_keys_below keys i below
    constructor
    · rw [arrayKeys, watched_update, if_pos rfl]
      rfl
    · intro other different
      have smaller := earlier other
      rw [arrayKeys, watched_update, if_neg different]
      omega
  below := by
    intro slot
    have earlier := url_keys_below keys i below slot
    rw [arrayKeys, watched_update]
    split
    · simp only [Slot.watches]
      omega
    · omega
  positive := Nat.succ_pos i
  within := Nat.lt_succ_self _

theorem walk_array (i : Nat) (elements : List Json) (keys : Keys) (below : Below keys i)
    (clean : Clean ((Json.array elements).flatten (i + 1) i)) :
    Walk (i + 1) ((Json.array elements).flatten (i + 1) i) (elements.flatMap entryWrites) (urlKeys keys i) (arrayKeys keys i) := by
  have opening : Walk (i + 1) [⟨.array, i, []⟩] [] (urlKeys keys i) (arrayKeys keys i) := by
    intro store rest
    have taken : (urlKeys keys i).branch (ofItem ⟨.array, i, []⟩) = some .ntpUrl := by
      simp [Keys.branch, ofItem, urlKeys]
    have step (next : Option Token) : iteration (i + 1) (ofItem ⟨.array, i, []⟩) next ⟨urlKeys keys i, store⟩ =
        some ⟨arrayKeys keys i, store⟩ := by
      have inner : ¬ ((ofItem ⟨.array, i, []⟩).parent = 0 ∧ (ofItem ⟨.array, i, []⟩).type = .string) := by
        simp [ofItem]
      simp only [iteration, inner, if_false, taken]
      rfl
    simp only [itemLoop, List.cons_append, List.nil_append, List.map_cons, tokenLoop, step]
    rfl
  have innerClean : Clean (flattenElements (i + 2) (i + 1 : Nat) elements) :=
    fun item member => clean item (List.mem_cons_of_mem _ member)
  have entries := walk_entries (i + 1) (i + 2) elements _ (array_keys_inside keys i below) innerClean
  exact walk_append (i + 1) _ _ [] _ _ _ _ opening entries

theorem walk_no_array (i : Nat) (value : Json) (keys : Keys) (below : Below keys i) (positive : 0 < i)
    (other : ∀ elements, value ≠ .array elements) :
    Walk (i + 1) (value.flatten (i + 1) i) [] (urlKeys keys i) (urlKeys keys i) := by
  apply walk_headed _ _ _ value (url_keys_below keys i below) (Nat.succ_pos i)
  have under : (firstItem i value).parent = i := by cases value <;> rfl
  constructor
  · omega
  · apply branch_not_array
    · cases value <;> simp_all [firstItem, ofItem]
    · intro slot different
      rw [ofItem, under]
      exact url_keys_apart keys i below slot different

def ntpWrites (field : List Byte × Json) : List Write :=
  if sameStart field.1 "url" then field.2.elements.flatMap entryWrites else []

theorem walk_url (parent i : Nat) (name : List Byte) (value : Json) (keys after : Keys) (writes : List Write)
    (inside : Inside keys .ntp parent i) (url : sameStart name "url" = true)
    (walked : Walk (i + 1) (value.flatten (i + 1) i) writes (urlKeys keys i) after) :
    Walk i (⟨.string, parent, name⟩ :: value.flatten (i + 1) i) writes keys after := by
  apply walk_member i _ value [] writes keys _ after _ walked
  intro store
  rw [iteration_ntp i parent name _ ⟨keys, store⟩ inside.owns inside.positive, if_pos url]
  rfl

theorem inside_url (parent i : Nat) (value : Json) (keys : Keys) (inside : Inside keys .ntp parent i) :
    Inside (urlKeys keys i) .ntp parent (i + (value.size + 1)) := by
  have within := inside.within
  apply inside_remember keys .ntp .ntpUrl parent i value inside (by decide)
  simp only [Slot.watches]
  omega

theorem inside_array (parent i : Nat) (value : Json) (keys : Keys) (inside : Inside keys .ntp parent i) :
    Inside (arrayKeys keys i) .ntp parent (i + (value.size + 1)) where
  owns := by
    have within := inside.within
    apply owns_update (urlKeys keys i) .ntp .ntpUrlArray parent (i + 1) (inside_url parent i value keys inside).owns (by decide)
    simp only [Slot.watches]
    omega
  below := by
    have larger := size_pos value
    exact below_mono _ (i + 2) _ (array_keys_inside keys i inside.below).below (by omega)
  positive := inside.positive
  within := (inside_url parent i value keys inside).within

theorem walk_ntp_field (parent i : Nat) (field : List Byte × Json) (keys : Keys) (inside : Inside keys .ntp parent i)
    (clean : Clean (field.2.flatten (i + 1) i)) :
    ∃ after, Walk i (⟨.string, parent, field.1⟩ :: field.2.flatten (i + 1) i) (ntpWrites field) keys after ∧
      Inside after .ntp parent (i + (field.2.size + 1)) := by
  obtain ⟨name, value⟩ := field
  have positive : 0 < i := Nat.lt_trans inside.positive inside.within
  by_cases url : sameStart name "url" = true
  · simp only [ntpWrites, url, if_true]
    by_cases array : ∃ elements, value = .array elements
    · obtain ⟨elements, rfl⟩ := array
      refine ⟨arrayKeys keys i, ?_, inside_array parent i _ keys inside⟩
      exact walk_url parent i name _ keys _ _ inside url (walk_array i elements keys inside.below clean)
    · have other (elements : List Json) : value ≠ .array elements := fun same => array ⟨elements, same⟩
      have nothing : value.elements = [] := by cases value <;> simp_all [Json.elements]
      refine ⟨urlKeys keys i, ?_, inside_url parent i value keys inside⟩
      rw [nothing]
      exact walk_url parent i name value keys _ [] inside url (walk_no_array i value keys inside.below positive other)
  · refine ⟨keys, ?_, inside_mono keys _ parent i _ inside (by omega)⟩
    simp only [ntpWrites, url]
    have skipped := walk_value keys (i + 1) i i value inside.below (Int.le_refl _) (Nat.le_succ i) positive
    apply walk_member i _ value [] [] keys keys keys _ skipped
    intro store
    rw [iteration_ntp i parent name _ ⟨keys, store⟩ inside.owns inside.positive, if_neg url]
    rfl

def sectionWrites : Slot → List Byte × Json → List Write
  | .ntp, field => ntpWrites field
  | slot, field => fieldWrites slot field

theorem root_member_slots (name : List Byte) (slot : Slot) (named : rootMember name = some slot) :
    slot = .wifi ∨ slot = .lwm2m ∨ slot = .ntp ∨ slot = .mqtt ∨ slot = .http ∨ slot = .config := by
  simp only [rootMember] at named
  split_ifs at named <;> simp_all

theorem walk_section_field (slot : Slot) (parent i : Nat) (field : List Byte × Json) (keys : Keys)
    (inside : Inside keys slot parent i)
    (top : slot = .wifi ∨ slot = .lwm2m ∨ slot = .ntp ∨ slot = .mqtt ∨ slot = .http ∨ slot = .config)
    (shaped : FieldShaped slot field) (clean : Clean (field.2.flatten (i + 1) i)) :
    ∃ after, Walk i (⟨.string, parent, field.1⟩ :: field.2.flatten (i + 1) i) (sectionWrites slot field) keys after ∧
      Inside after slot parent (i + (field.2.size + 1)) := by
  rcases top with rfl | rfl | rfl | rfl | rfl | rfl
  case inr.inr.inl => exact walk_ntp_field parent i field keys inside clean
  all_goals exact walk_field _ parent i field keys inside rfl (by decide) shaped clean

theorem walk_named (slot : Slot) (i : Nat) (name : List Byte) (value : Json) (writes : List Write) (keys after : Keys)
    (named : rootMember name = some slot)
    (inside : Walk (i + 1) (value.flatten (i + 1) i) writes (Function.update keys slot i) after) :
    Walk i (⟨.string, 0, name⟩ :: value.flatten (i + 1) i) writes keys after := by
  apply walk_member i _ value [] writes keys _ after _ inside
  intro store
  simp only [iteration, ofItem, and_self, if_true, named]
  rfl

theorem walk_fields (slot : Slot) (i : Nat) (fields : List (List Byte × Json)) (keys : Keys) (below : Below keys i)
    (top : slot = .wifi ∨ slot = .lwm2m ∨ slot = .ntp ∨ slot = .mqtt ∨ slot = .http ∨ slot = .config)
    (shaped : ∀ field ∈ fields, FieldShaped slot field) (clean : Clean ((Json.object fields).flatten (i + 1) i)) :
    ∃ after, Walk (i + 1) ((Json.object fields).flatten (i + 1) i) (fields.flatMap (sectionWrites slot))
      (Function.update keys slot i) after ∧ Below after (i + ((Json.object fields).size + 1)) := by
  have next : slot.watches i = i + 1 := by rcases top with rfl | rfl | rfl | rfl | rfl | rfl <;> rfl
  have innerClean : Clean (flattenMembers (i + 2) (i + 1 : Nat) fields) :=
    fun item member => clean item (List.mem_cons_of_mem _ member)
  obtain ⟨after, walked, inside⟩ := walk_each (i + 1 : Nat) (fun index now => Inside now slot (i + 1) index)
    (sectionWrites slot) fields
    (fun field member index now here => walk_section_field slot (i + 1) index field now here top (shaped field member))
    (i + 2) (Function.update keys slot i) (inside_new keys slot i below next) innerClean
  have reached : i + 2 + membersSize fields ≤ i + ((Json.object fields).size + 1) := by
    simp only [Json.size]
    omega
  exact ⟨after, walk_object (i + 1) i fields _ _ after walked, below_mono after _ _ inside.below reached⟩

theorem ntp_element_step (parent i : Nat) (raw : List Byte) (keys after : Keys) (inside : Inside keys .ntp parent i)
    (read : (if sameStart raw "url" then urlKeys keys i else keys) = after) :
    Walk i ((Json.string raw).flatten i parent) [] keys after := by
  intro store rest
  have stepped (next : Option Token) :
      iteration i (ofItem ⟨.string, parent, raw⟩) next ⟨keys, store⟩ = some ⟨after, store⟩ := by
    rw [iteration_ntp i parent raw next ⟨keys, store⟩ inside.owns inside.positive, ← read]
    split <;> rfl
  simp only [Json.flatten, itemLoop, List.cons_append, List.nil_append, List.map_cons, tokenLoop, stepped]
  rfl

theorem walk_ntp_element (parent i : Nat) (element : Json) (keys : Keys) (inside : Inside keys .ntp parent i) :
    ∃ after, Walk i (element.flatten i parent) [] keys after ∧ Inside after .ntp parent (i + element.size) := by
  have within := inside.within
  by_cases string : ∃ raw, element = .string raw
  · obtain ⟨raw, rfl⟩ := string
    by_cases url : sameStart raw "url" = true
    · refine ⟨urlKeys keys i, ntp_element_step parent i raw keys _ inside (if_pos url), ?_⟩
      have later := inside_url parent i (.string raw) keys inside
      exact ⟨later.owns, url_keys_below keys i inside.below, inside.positive, Nat.lt_succ_of_lt within⟩
    · exact ⟨keys, ntp_element_step parent i raw keys _ inside (if_neg url),
        inside_mono keys _ parent i _ inside (Nat.le_add_right i _)⟩
  · exact ⟨keys, walk_element .ntp parent i element keys inside (by decide) fun raw same => string ⟨raw, same⟩,
      inside_mono keys _ parent i _ inside (Nat.le_add_right i _)⟩

theorem walk_ntp_elements (parent i : Nat) (elements : List Json) (keys : Keys) (inside : Inside keys .ntp parent i) :
    ∃ after, Walk i (flattenElements i parent elements) [] keys after ∧ Inside after .ntp parent (i + elementsSize elements) := by
  induction elements generalizing i keys with
  | nil => exact ⟨keys, walk_nil i keys, inside⟩
  | cons element rest ih =>
      obtain ⟨between, first, middle⟩ := walk_ntp_element parent i element keys inside
      obtain ⟨after, second, final⟩ := ih (i + element.size) between middle
      refine ⟨after, ?_, by simpa [elementsSize, Nat.add_assoc] using final⟩
      exact walk_append i _ _ [] [] keys between after first (by rwa [flatten_length])

theorem walk_ntp_array (i : Nat) (elements : List Json) (keys : Keys) (below : Below keys i) (positive : 0 < i) :
    ∃ after, Walk (i + 1) ((Json.array elements).flatten (i + 1) i) [] (Function.update keys .ntp i) after ∧
      Below after (i + ((Json.array elements).size + 1)) := by
  have inside := inside_new keys .ntp i below rfl
  have opening : Walk (i + 1) [⟨.array, i, []⟩] [] (Function.update keys .ntp i) (Function.update keys .ntp i) := by
    apply walk_passive
    intro item member
    obtain rfl := List.mem_singleton.mp member
    exact passive_value .ntp i _ keys below positive rfl rfl
  obtain ⟨after, walked, final⟩ := walk_ntp_elements (i + 1) (i + 2) elements _ inside
  refine ⟨after, walk_append (i + 1) _ _ [] [] _ _ _ opening walked, below_mono after _ _ final.below ?_⟩
  simp only [Json.size]
  omega

theorem walk_unnamed (i : Nat) (name : List Byte) (value : Json) (keys : Keys) (below : Below keys i) (positive : 0 < i)
    (unnamed : rootMember name = none) :
    Walk i (⟨.string, 0, name⟩ :: value.flatten (i + 1) i) [] keys keys := by
  apply walk_member i _ value [] [] keys keys keys _
    (walk_value keys (i + 1) i i value below (Int.le_refl _) (Nat.le_succ i) positive)
  intro store
  simp only [iteration, ofItem, and_self, if_true, unnamed]
  rfl

def memberWrites (member : List Byte × Json) : List Write :=
  match rootMember member.1 with
  | some slot => member.2.members.flatMap (sectionWrites slot)
  | none => []

def documentWrites (root : Json) : List Write := root.members.flatMap memberWrites

-- The strings of an array that stands for a section or for psk would be read
-- as member names. Only in the NTP section does that no harm.
def SectionShaped (slot : Slot) (value : Json) : Prop :=
  (slot = .ntp ∨ ∀ raw, Json.string raw ∉ value.elements) ∧ ∀ field ∈ value.members, FieldShaped slot field

def Shaped (root : Json) : Prop :=
  (∀ elements, root ≠ .array elements) ∧
    ∀ member ∈ root.members, ∀ slot, rootMember member.1 = some slot → SectionShaped slot member.2

theorem walk_section (slot : Slot) (i : Nat) (name : List Byte) (value : Json) (keys : Keys) (below : Below keys i)
    (positive : 0 < i) (named : rootMember name = some slot) (shaped : SectionShaped slot value)
    (clean : Clean (value.flatten (i + 1) i)) :
    ∃ after, Walk i (⟨.string, 0, name⟩ :: value.flatten (i + 1) i) (value.members.flatMap (sectionWrites slot)) keys after ∧
      Below after (i + (value.size + 1)) := by
  have top := root_member_slots name slot named
  have next : slot.watches i = i + 1 := by rcases top with rfl | rfl | rfl | rfl | rfl | rfl <;> rfl
  have leaf (text : innerItems (i + 1) value = []) :
      Walk i (⟨.string, 0, name⟩ :: value.flatten (i + 1) i) [] keys (Function.update keys slot i) ∧
        Below (Function.update keys slot i) (i + (value.size + 1)) := by
    have size := size_pos value
    exact ⟨walk_named slot i name value [] keys _ named (walk_leaf slot i value keys below positive next text),
      below_mono _ (i + 2) _ (below_update keys slot i below) (by omega)⟩
  cases value with
  | primitive text => exact ⟨_, leaf rfl⟩
  | string raw => exact ⟨_, leaf rfl⟩
  | array elements =>
      rcases shaped.1 with rfl | plain
      · obtain ⟨after, walked, final⟩ := walk_ntp_array i elements keys below positive
        exact ⟨after, walk_named .ntp i name _ [] keys after named walked, final⟩
      · have apart : slot ≠ .ntpUrl := by rcases top with rfl | rfl | rfl | rfl | rfl | rfl <;> decide
        have walked := walk_listed slot i elements keys below positive next apart plain
        exact ⟨_, walk_named slot i name _ [] keys _ named walked, below_mono _ (i + 2) _ (below_update keys slot i below)
          (by simp only [Json.size]; omega)⟩
  | object fields =>
      obtain ⟨after, walked, final⟩ := walk_fields slot i fields keys below top shaped.2 clean
      exact ⟨after, walk_named slot i name _ _ keys after named walked, final⟩

theorem walk_root_member (i : Nat) (member : List Byte × Json) (keys : Keys) (below : Below keys i) (positive : 0 < i)
    (shaped : ∀ slot, rootMember member.1 = some slot → SectionShaped slot member.2)
    (clean : Clean (member.2.flatten (i + 1) i)) :
    ∃ after, Walk i (⟨.string, 0, member.1⟩ :: member.2.flatten (i + 1) i) (memberWrites member) keys after ∧
      Below after (i + (member.2.size + 1)) := by
  cases named : rootMember member.1 with
  | none =>
      simp only [memberWrites, named]
      refine ⟨keys, walk_unnamed i member.1 member.2 keys below positive named, ?_⟩
      exact below_mono keys i _ below (Nat.le_add_right i _)
  | some slot =>
      simp only [memberWrites, named]
      exact walk_section slot i member.1 member.2 keys below positive named (shaped slot named) clean

theorem walk_document (root : Json) (shaped : Shaped root) (clean : Clean (root.flatten 0 (-1))) :
    ∃ after, Walk 0 (root.flatten 0 (-1)) (documentWrites root) .unset after := by
  have alone (item : Item) (top : item.parent = -1) : Passive .unset item := by
    refine ⟨by omega, branch_unwatched _ _ fun slot => ?_⟩
    change watched .unset slot ≠ item.parent
    rw [top]
    cases slot <;> decide
  cases root with
  | primitive text => exact ⟨_, walk_passive 0 _ .unset (by simpa [Json.flatten] using alone ⟨.primitive, -1, text⟩ rfl)⟩
  | string raw => exact ⟨_, walk_passive 0 _ .unset (by simpa [Json.flatten] using alone ⟨.string, -1, raw⟩ rfl)⟩
  | array elements => exact absurd rfl (shaped.1 elements)
  | object members =>
      have start : Below .unset 1 := by
        intro slot
        cases slot <;> decide
      have innerClean : Clean (flattenMembers 1 (0 : Nat) members) :=
        fun item member => clean item (List.mem_cons_of_mem _ member)
      obtain ⟨after, walked, _⟩ := walk_each (0 : Nat) (fun index now => Below now index ∧ 0 < index) memberWrites members
        (by
          intro member listed index now good memberClean
          obtain ⟨after, walked, below⟩ :=
            walk_root_member index member now good.1 good.2 (shaped.2 member listed) memberClean
          exact ⟨after, walked, below, by omega⟩)
        1 .unset ⟨start, Nat.one_pos⟩ innerClean
      exact ⟨after, walk_object 0 (-1) members _ _ after walked⟩

theorem spelled_clean (tokens : List Token) (items : List Item) (spelled : List.Forall₂ Spells tokens items) : Clean items := by
  induction spelled with
  | nil => exact fun _ member => absurd member List.not_mem_nil
  | cons spells _ ih => exact List.forall_mem_cons.mpr ⟨fun string => (spells.text string).1, ih⟩

theorem token_loop_writes (text : List Byte) (tokens : List JsmnTok) (root : Json) (store : Store)
    (tokenized : Tokenized text tokens root) (shaped : Shaped root) :
    (tokenLoop 0 (tokens.map (·.read text)) ⟨.unset, store⟩).map Loop.store = store.writeAll (documentWrites root) := by
  obtain ⟨after, walked⟩ := walk_document root shaped (spelled_clean _ _ tokenized)
  have ran := walked store []
  rw [List.append_nil] at ran
  rw [token_loop_spells 0 _ _ _ tokenized, ran]
  cases store.writeAll (documentWrites root) <;> rfl

end Miso.Config
