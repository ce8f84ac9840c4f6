import Miso.Base.CString
import Miso.Base.Keyed
import Miso.Base.Run
import Miso.Base.Scan

set_option autoImplicit false

namespace Miso.Lwm2mServer

open Base (Byte Buffer Keyed Step lookup scan scanWith strncpy)

variable {υ : Type}

inductive CoapStatus where
  | created201
  | deleted202
  | changed204
  | content205
  | badRequest400
  | notFound404
  | methodNotAllowed405
  | notAcceptable406
  | internalServerError500
deriving DecidableEq

-- The types of an entry that the object tells apart.
inductive DataType where
  | multipleResource
  | string
  | opaqueBytes
  | other
deriving DecidableEq

structure LwData (υ : Type) where
  id : BitVec 16
  type : DataType
  value : υ
deriving DecidableEq

-- The data functions of the LwM2M library; asBuffer is the buffer of an entry
-- with its length.
structure DataApi (υ : Type) where
  dataNew : Nat → Option (List (LwData υ))
  encodeInt : Int → LwData υ → LwData υ
  encodeBool : Bool → LwData υ → LwData υ
  encodeString : List Byte → LwData υ → LwData υ
  decodeInt : LwData υ → Option Int
  decodeBool : LwData υ → Option Bool
  asBuffer : υ → List Byte

-- Memory is there, new entries are cleared, the encoders keep the id and what
-- they encode is what is decoded.
structure DataApi.Works (api : DataApi υ) : Prop where
  allocates : ∀ count, 0 < count → ∃ data, api.dataNew count = some data ∧ data.length = count ∧
    ∀ entry ∈ data, entry.type ≠ .multipleResource
  intKeeps : ∀ value entry, (api.encodeInt value entry).id = entry.id ∧
    (entry.type ≠ .multipleResource → (api.encodeInt value entry).type ≠ .multipleResource)
  boolKeeps : ∀ value entry, (api.encodeBool value entry).id = entry.id ∧
    (entry.type ≠ .multipleResource → (api.encodeBool value entry).type ≠ .multipleResource)
  stringKeeps : ∀ text entry, (api.encodeString text entry).id = entry.id ∧ (api.encodeString text entry).type = .string ∧
    api.asBuffer (api.encodeString text entry).value = text
  decodesInt : ∀ (value : Int) entry, 0 ≤ value → value < 9223372036854775808 → api.decodeInt (api.encodeInt value entry) = some value
  decodesBool : ∀ value entry, api.decodeBool (api.encodeBool value entry) = some value

structure ServerInstance where
  instanceId : BitVec 16
  shortServerId : BitVec 16
  lifetime : BitVec 32
  storing : Bool
  binding : Buffer 4
deriving DecidableEq

def ServerInstance.zero (instanceId : BitVec 16) : ServerInstance := ⟨instanceId, 0, 0, false, Buffer.zero 4⟩

-- The list functions of the LwM2M library on lists of instances: where the
-- instance with an id is, a list with a further instance, a list without the
-- instance with an id beside that instance.
structure ListApi where
  find : List ServerInstance → BitVec 16 → Option Nat
  add : List ServerInstance → ServerInstance → List ServerInstance
  remove : List ServerInstance → BitVec 16 → List ServerInstance × Option ServerInstance

def Sorted (instances : List ServerInstance) : Prop := (instances.map ServerInstance.instanceId).Pairwise (· < ·)

-- The library keeps its lists sorted by id.
structure ListApi.Works (list : ListApi) : Prop where
  finds : ∀ instances id index, list.find instances id = some index →
    ∃ instance_, instances[index]? = some instance_ ∧ instance_.instanceId = id
  misses : ∀ instances id, Sorted instances → list.find instances id = none →
    ∀ instance_ ∈ instances, instance_.instanceId ≠ id
  adds : ∀ instances instance_, (list.add instances instance_).Perm (instance_ :: instances)
  sorts : ∀ instances instance_, Sorted instances → (∀ other ∈ instances, other.instanceId ≠ instance_.instanceId) →
    Sorted (list.add instances instance_)
  removes : ∀ instances id index, Sorted instances → list.find instances id = some index →
    list.remove instances id = (instances.eraseIdx index, instances[index]?)
  keeps : ∀ instances id, Sorted instances → list.find instances id = none → list.remove instances id = (instances, none)

def lwm2mServerShortIdId : BitVec 16 := 0
def lwm2mServerLifetimeId : BitVec 16 := 1
def lwm2mServerMinPeriodId : BitVec 16 := 2
def lwm2mServerMaxPeriodId : BitVec 16 := 3
def lwm2mServerDisableId : BitVec 16 := 4
def lwm2mServerTimeoutId : BitVec 16 := 5
def lwm2mServerStoringId : BitVec 16 := 6
def lwm2mServerBindingId : BitVec 16 := 7
def lwm2mServerUpdateId : BitVec 16 := 8

-- What strlen and the encoder read of an array of characters.
def cString (buffer : Buffer 4) : List Byte := buffer.bytes.takeWhile (· ≠ 0)

def prvGetValue (api : DataApi υ) (targetP : ServerInstance) (dataP : LwData υ) : CoapStatus × LwData υ :=
  if dataP.id = lwm2mServerShortIdId then (.content205, api.encodeInt targetP.shortServerId.toNat dataP)
  else if dataP.id = lwm2mServerLifetimeId then (.content205, api.encodeInt targetP.lifetime.toNat dataP)
  else if dataP.id = lwm2mServerDisableId then (.methodNotAllowed405, dataP)
  else if dataP.id = lwm2mServerStoringId then (.content205, api.encodeBool targetP.storing dataP)
  else if dataP.id = lwm2mServerBindingId then (.content205, api.encodeString (cString targetP.binding) dataP)
  else if dataP.id = lwm2mServerUpdateId then (.methodNotAllowed405, dataP)
  else (.notFound404, dataP)

def readVisit (api : DataApi υ) (targetP : ServerInstance) (dataP : LwData υ) : CoapStatus × LwData υ :=
  if dataP.type = .multipleResource then (.notFound404, dataP) else prvGetValue api targetP dataP

def readResList : List (BitVec 16) :=
  [lwm2mServerShortIdId, lwm2mServerLifetimeId, lwm2mServerStoringId, lwm2mServerBindingId]

def discoverResList : List (BitVec 16) :=
  [lwm2mServerShortIdId, lwm2mServerLifetimeId, lwm2mServerMinPeriodId, lwm2mServerMaxPeriodId, lwm2mServerDisableId,
    lwm2mServerTimeoutId, lwm2mServerStoringId, lwm2mServerBindingId, lwm2mServerUpdateId]

def fullObject (api : DataApi υ) (ids : List (BitVec 16)) : Option (List (LwData υ)) :=
  (api.dataNew ids.length).map (List.zipWith (fun id entry => { entry with id := id }) ids)

def findInstance (list : ListApi) (instanceList : List ServerInstance) (instanceId : BitVec 16) :
    Option (Nat × ServerInstance) :=
  (list.find instanceList instanceId).bind fun index => instanceList[index]?.map fun targetP => (index, targetP)

-- dataArrayP holds numDataP entries.
def prvServerRead (api : DataApi υ) (list : ListApi) (instanceList : List ServerInstance) (instanceId : BitVec 16)
    (dataArrayP : List (LwData υ)) : CoapStatus × List (LwData υ) :=
  match findInstance list instanceList instanceId, dataArrayP with
  | none, _ => (.notFound404, dataArrayP)
  | some (_, targetP), [] =>
      match fullObject api readResList with
      | none => (.internalServerError500, [])
      | some data => scan (readVisit api targetP) .content205 .content205 data
  | some (_, targetP), _ :: _ => scan (readVisit api targetP) .content205 .content205 dataArrayP

def discoverVisit (dataP : LwData υ) : CoapStatus × LwData υ :=
  if discoverResList.any (· = dataP.id) then (.content205, dataP) else (.notFound404, dataP)

-- instanceId is not looked at.
def prvServerDiscover (api : DataApi υ) (_instanceId : BitVec 16) (dataArrayP : List (LwData υ)) :
    CoapStatus × List (LwData υ) :=
  match dataArrayP with
  | [] =>
      match fullObject api discoverResList with
      | none => (.internalServerError500, [])
      | some data => (.content205, data)
  | _ :: _ => scan discoverVisit .content205 .content205 dataArrayP

def prvSetIntValue (api : DataApi υ) (dataArray : LwData υ) (data : BitVec 32) : CoapStatus × BitVec 32 :=
  match api.decodeInt dataArray with
  | some value =>
      if 0 ≤ value ∧ value ≤ 0xFFFFFFFF then (.changed204, BitVec.ofInt 32 value) else (.notAcceptable406, data)
  | none => (.badRequest400, data)

def writeShortId (api : DataApi υ) (targetP : ServerInstance) (entry : LwData υ) : CoapStatus × ServerInstance :=
  match prvSetIntValue api entry 0 with
  | (.changed204, value) =>
      if 0 < value ∧ value ≤ 0xFFFF then (.changed204, { targetP with shortServerId := value.setWidth 16 })
      else (.notAcceptable406, targetP)
  | (result, _) => (result, targetP)

def writeLifetime (api : DataApi υ) (targetP : ServerInstance) (entry : LwData υ) : CoapStatus × ServerInstance :=
  ((prvSetIntValue api entry targetP.lifetime).1, { targetP with lifetime := (prvSetIntValue api entry targetP.lifetime).2 })

def writeStoring (api : DataApi υ) (targetP : ServerInstance) (entry : LwData υ) : CoapStatus × ServerInstance :=
  match api.decodeBool entry with
  | some value => (.changed204, { targetP with storing := value })
  | none => (.badRequest400, targetP)

theorem binding_fits (binding : Buffer 4) (buffer : List Byte) (short : buffer.length ≤ 3) :
    (strncpy binding buffer buffer.length).isSome = true := (Base.strncpy_fits binding buffer buffer.length).mpr (by omega)

def writeBinding (api : DataApi υ) (targetP : ServerInstance) (entry : LwData υ) : CoapStatus × ServerInstance :=
  if fits : (entry.type = .string ∨ entry.type = .opaqueBytes) ∧ 0 < (api.asBuffer entry.value).length ∧
      (api.asBuffer entry.value).length ≤ 3 then
    (.changed204, { targetP with
      binding := (strncpy targetP.binding (api.asBuffer entry.value) (api.asBuffer entry.value).length).get
        (binding_fits targetP.binding _ fits.2.2) })
  else (.badRequest400, targetP)

-- A pass of the loop of prv_server_write. Where it does not end with 204 the
-- loop ends too, by its condition or by the return of the default case.
def writeVisit (api : DataApi υ) (targetP : ServerInstance) (entry : LwData υ) : CoapStatus × ServerInstance :=
  if entry.type = .multipleResource then (.notFound404, targetP)
  else if entry.id = lwm2mServerShortIdId then writeShortId api targetP entry
  else if entry.id = lwm2mServerLifetimeId then writeLifetime api targetP entry
  else if entry.id = lwm2mServerDisableId then (.methodNotAllowed405, targetP)
  else if entry.id = lwm2mServerStoringId then writeStoring api targetP entry
  else if entry.id = lwm2mServerBindingId then writeBinding api targetP entry
  else if entry.id = lwm2mServerUpdateId then (.methodNotAllowed405, targetP)
  else (.notFound404, targetP)

-- prv_server_write for every write type but LWM2M_WRITE_REPLACE_INSTANCE. The
-- first entry is read whatever numData is: no entries is none here.
def writeResources (api : DataApi υ) (list : ListApi) (instanceList : List ServerInstance) (instanceId : BitVec 16)
    (dataArray : List (LwData υ)) : Option (CoapStatus × List ServerInstance) :=
  match findInstance list instanceList instanceId, dataArray with
  | none, _ => some (.notFound404, instanceList)
  | some _, [] => none
  | some (index, targetP), _ :: _ =>
      let written := scanWith (writeVisit api) .changed204 .changed204 targetP dataArray
      some (written.1, instanceList.set index written.2)

def prvServerDelete (list : ListApi) (instanceList : List ServerInstance) (id : BitVec 16) : CoapStatus × List ServerInstance :=
  match list.remove instanceList id with
  | (remaining, none) => (.notFound404, remaining)
  | (remaining, some _) => (.deleted202, remaining)

-- memory tells whether lwm2m_malloc finds a block.
def prvServerCreate (api : DataApi υ) (list : ListApi) (memory : Bool) (instanceList : List ServerInstance) (instanceId : BitVec 16)
    (dataArray : List (LwData υ)) : Option (CoapStatus × List ServerInstance) :=
  if memory then
    (writeResources api list (list.add instanceList (ServerInstance.zero instanceId)) instanceId dataArray).map
      fun result =>
        if result.1 ≠ .changed204 then (result.1, (prvServerDelete list result.2 instanceId).2) else (.created201, result.2)
  else some (.internalServerError500, instanceList)

inductive WriteType where
  | replaceResources
  | replaceInstance
  | partialUpdate
deriving DecidableEq

def prvServerWrite (api : DataApi υ) (list : ListApi) (memory : Bool) (instanceList : List ServerInstance) (instanceId : BitVec 16)
    (dataArray : List (LwData υ)) (writeType : WriteType) : Option (CoapStatus × List ServerInstance) :=
  match findInstance list instanceList instanceId, writeType with
  | none, _ => some (.notFound404, instanceList)
  | some _, .replaceInstance =>
      match prvServerDelete list instanceList instanceId with
      | (.deleted202, remaining) =>
          (prvServerCreate api list memory remaining instanceId dataArray).map fun result =>
            (if result.1 = .created201 then .changed204 else result.1, result.2)
      | (result, remaining) => some (result, remaining)
  | some _, _ => writeResources api list instanceList instanceId dataArray

def prvServerExecute (list : ListApi) (instanceList : List ServerInstance) (instanceId resourceId : BitVec 16) : CoapStatus :=
  match list.find instanceList instanceId with
  | none => .notFound404
  | some _ =>
      if resourceId = lwm2mServerDisableId then .changed204
      else if resourceId = lwm2mServerUpdateId then .changed204
      else .methodNotAllowed405

def hardcoded : ServerInstance :=
  { ServerInstance.zero 0 with shortServerId := 123, lifetime := 15 * 60, storing := false, binding := ⟨[85, 0, 0, 0], rfl⟩ }

def getServerObject (list : ListApi) : List ServerInstance := list.add [] hardcoded

-- What every pass of a write keeps: the instance's id and the last byte of the
-- binding.
structure Keeps (before after : ServerInstance) : Prop where
  id : after.instanceId = before.instanceId
  last : after.binding.bytes[3]? = before.binding.bytes[3]?

theorem write_short_id (api : DataApi υ) (targetP : ServerInstance) (entry : LwData υ) :
    Keeps targetP (writeShortId api targetP entry).2 := by
  unfold writeShortId
  split
  · split <;> exact ⟨rfl, rfl⟩
  · exact ⟨rfl, rfl⟩

theorem write_storing (api : DataApi υ) (targetP : ServerInstance) (entry : LwData υ) :
    Keeps targetP (writeStoring api targetP entry).2 := by
  unfold writeStoring
  split <;> exact ⟨rfl, rfl⟩

theorem write_binding (api : DataApi υ) (targetP : ServerInstance) (entry : LwData υ) :
    Keeps targetP (writeBinding api targetP entry).2 := by
  unfold writeBinding
  split
  · rename_i fits
    refine ⟨rfl, ?_⟩
    obtain ⟨copy, made⟩ := Option.isSome_iff_exists.mp (binding_fits targetP.binding _ fits.2.2)
    have bytes := Base.strncpy_bytes targetP.binding copy _ _ made
    have length := Base.padded_length _ _ (Base.c_text_length (api.asBuffer entry.value) (api.asBuffer entry.value).length)
    simp only [made, Option.get_some]
    rw [bytes, List.getElem?_append_right (by omega), length, List.getElem?_drop]
    congr 1
    omega
  · exact ⟨rfl, rfl⟩

theorem write_visit (api : DataApi υ) (targetP : ServerInstance) (entry : LwData υ) :
    Keeps targetP (writeVisit api targetP entry).2 := by
  have either (answer rest : CoapStatus × ServerInstance) (one : Keeps targetP answer.2) (two : Keeps targetP rest.2)
      (test : Prop) [Decidable test] : Keeps targetP (if test then answer else rest).2 := by
    split
    · exact one
    · exact two
  have refused (status : CoapStatus) : Keeps targetP (status, targetP).2 := ⟨rfl, rfl⟩
  have lifetime : Keeps targetP (writeLifetime api targetP entry).2 := ⟨rfl, rfl⟩
  exact either _ _ (refused _) (either _ _ (write_short_id api targetP entry) (either _ _ lifetime (either _ _ (refused _)
    (either _ _ (write_storing api targetP entry) (either _ _ (write_binding api targetP entry)
      (either _ _ (refused _) (refused _) _) _) _) _) _) _) _

def written (api : DataApi υ) (targetP : ServerInstance) (dataArray : List (LwData υ)) : CoapStatus × ServerInstance :=
  scanWith (writeVisit api) .changed204 .changed204 targetP dataArray

theorem written_keeps (api : DataApi υ) (targetP : ServerInstance) (dataArray : List (LwData υ)) :
    (written api targetP dataArray).2.instanceId = targetP.instanceId ∧
      (written api targetP dataArray).2.binding.bytes[3]? = targetP.binding.bytes[3]? :=
  Base.scan_with_keeps (writeVisit api)
    (fun state => state.instanceId = targetP.instanceId ∧ state.binding.bytes[3]? = targetP.binding.bytes[3]?)
    (fun state entry same => ⟨(write_visit api state entry).id.trans same.1, (write_visit api state entry).last.trans same.2⟩)
    .changed204 .changed204 targetP dataArray ⟨rfl, rfl⟩

-- The requests on a map in the place of the list, still with the code's writes.
abbrev Instances := BitVec 16 → Option ServerInstance

def mapWrite (api : DataApi υ) (objects : Instances) (instanceId : BitVec 16) (dataArray : List (LwData υ)) :
    CoapStatus × Instances :=
  match objects instanceId with
  | none => (.notFound404, objects)
  | some targetP =>
      ((written api targetP dataArray).1, Function.update objects instanceId (some (written api targetP dataArray).2))

def mapDelete (objects : Instances) (instanceId : BitVec 16) : CoapStatus × Instances :=
  match objects instanceId with
  | none => (.notFound404, objects)
  | some _ => (.deleted202, Function.update objects instanceId none)

def mapCreate (api : DataApi υ) (memory : Bool) (objects : Instances) (instanceId : BitVec 16) (dataArray : List (LwData υ)) :
    CoapStatus × Instances :=
  if memory then
    if (written api (ServerInstance.zero instanceId) dataArray).1 = .changed204 then
      (.created201, Function.update objects instanceId (some (written api (ServerInstance.zero instanceId) dataArray).2))
    else ((written api (ServerInstance.zero instanceId) dataArray).1, objects)
  else (.internalServerError500, objects)

def mapReplace (api : DataApi υ) (memory : Bool) (objects : Instances) (instanceId : BitVec 16) (dataArray : List (LwData υ)) :
    CoapStatus × Instances :=
  match objects instanceId with
  | none => (.notFound404, objects)
  | some _ =>
      (if (mapCreate api memory (Function.update objects instanceId none) instanceId dataArray).1 = .created201 then .changed204
        else (mapCreate api memory (Function.update objects instanceId none) instanceId dataArray).1,
        (mapCreate api memory (Function.update objects instanceId none) instanceId dataArray).2)

-- The ids are in order, and every binding ends in the array.
structure Well (instances : List ServerInstance) : Prop where
  sorted : Sorted instances
  terminated : ∀ instance_ ∈ instances, instance_.binding.bytes[3]? = some 0

theorem Well.keyed (instances : List ServerInstance) (well : Well instances) : Keyed ServerInstance.instanceId instances :=
  well.sorted.imp fun less same => absurd (same ▸ less) (BitVec.lt_irrefl _)

def Refines (answer : Option (CoapStatus × List ServerInstance)) (spec : CoapStatus × Instances) : Prop :=
  ∃ status after, answer = some (status, after) ∧ Well after ∧ (status, lookup ServerInstance.instanceId after) = spec

-- lwm2m_list_add without a second instance of one id, and lwm2m_list_find and
-- lwm2m_list_remove on what it builds.
def ordered (new : ServerInstance) : List ServerInstance → List ServerInstance
  | [] => [new]
  | head :: rest => if new.instanceId < head.instanceId then new :: head :: rest else head :: ordered new rest

def position (instances : List ServerInstance) (id : BitVec 16) : Option Nat :=
  instances.findIdx? fun instance_ => instance_.instanceId = id

def sortedList : ListApi where
  find := position
  add instances new := ordered new instances
  remove instances id :=
    match position instances id with
    | none => (instances, none)
    | some index => (instances.eraseIdx index, instances[index]?)

theorem ordered_perm (new : ServerInstance) (instances : List ServerInstance) :
    (ordered new instances).Perm (new :: instances) := by
  induction instances with
  | nil => exact List.Perm.refl _
  | cons head rest ih =>
      rw [ordered]
      split
      · exact List.Perm.refl _
      · exact (ih.cons head).trans (List.Perm.swap new head rest)

theorem ordered_sorted (new : ServerInstance) (instances : List ServerInstance) (sorted : Sorted instances)
    (absent : ∀ other ∈ instances, other.instanceId ≠ new.instanceId) : Sorted (ordered new instances) := by
  induction instances with
  | nil => exact List.pairwise_singleton _ _
  | cons head rest ih =>
      obtain ⟨above, tail⟩ := List.pairwise_cons.mp sorted
      rw [ordered]
      split
      · rename_i less
        refine List.pairwise_cons.mpr ⟨fun id member => ?_, sorted⟩
        rcases List.mem_cons.mp member with rfl | later
        · exact less
        · exact BitVec.lt_trans less (above id later)
      · rename_i less
        have first : head.instanceId < new.instanceId := by
          have apart := absent head List.mem_cons_self
          rcases Nat.lt_trichotomy head.instanceId.toNat new.instanceId.toNat with below | same | higher
          · exact BitVec.lt_def.mpr below
          · exact absurd (BitVec.eq_of_toNat_eq same) apart
          · exact absurd (BitVec.lt_def.mpr higher) less
        refine List.pairwise_cons.mpr ⟨fun id member => ?_, ih tail fun other later => absent other (List.mem_cons_of_mem head later)⟩
        rcases List.mem_cons.mp (((ordered_perm new rest).map ServerInstance.instanceId).mem_iff.mp member) with rfl | later
        · exact first
        · exact above id later

theorem sorted_list_works : sortedList.Works where
  finds instances id index found := by
    obtain ⟨bound, same, _⟩ := List.findIdx?_eq_some_iff_getElem.mp found
    exact ⟨instances[index], List.getElem?_eq_getElem bound, by simpa using same⟩
  misses instances id _ missed instance_ member := by
    simpa using List.findIdx?_eq_none_iff.mp missed instance_ member
  adds instances new := ordered_perm new instances
  sorts instances new sorted absent := ordered_sorted new instances sorted absent
  removes instances id index _ found := by
    have here : position instances id = some index := found
    simp only [sortedList, here]
  keeps instances id _ missed := by
    have nowhere : position instances id = none := missed
    simp only [sortedList, nowhere]

-- A data API that stores what it encodes.
inductive Datum where
  | nothing
  | integer (value : Int)
  | boolean (value : Bool)
  | buffer (bytes : List Byte)
deriving DecidableEq

def storingApi : DataApi Datum where
  dataNew count := some (List.replicate count ⟨0, .other, .nothing⟩)
  encodeInt value entry := { entry with type := .other, value := .integer value }
  encodeBool value entry := { entry with type := .other, value := .boolean value }
  encodeString text entry := { entry with type := .string, value := .buffer text }
  decodeInt entry := match entry.value with
    | .integer value => some value
    | _ => none
  decodeBool entry := match entry.value with
    | .boolean value => some value
    | _ => none
  asBuffer value := match value with
    | .buffer bytes => bytes
    | _ => []

theorem storing_api_works : storingApi.Works where
  allocates count _ := ⟨_, rfl, List.length_replicate, fun entry member => by rw [List.eq_of_mem_replicate member]; decide⟩
  intKeeps _ _ := ⟨rfl, fun _ => by simp [storingApi]⟩
  boolKeeps _ _ := ⟨rfl, fun _ => by simp [storingApi]⟩
  stringKeeps _ _ := ⟨rfl, rfl, rfl⟩
  decodesInt _ _ _ _ := rfl
  decodesBool _ _ := rfl

variable (api : DataApi υ) {list : ListApi}

theorem find_instance (works : list.Works) (instances : List ServerInstance) (well : Well instances) (instanceId : BitVec 16) :
    list.find instances instanceId = none ∧ findInstance list instances instanceId = none ∧
        lookup ServerInstance.instanceId instances instanceId = none ∨
      ∃ index targetP, list.find instances instanceId = some index ∧ instances[index]? = some targetP ∧
        targetP.instanceId = instanceId ∧ findInstance list instances instanceId = some (index, targetP) ∧
        lookup ServerInstance.instanceId instances instanceId = some targetP := by
  cases found : list.find instances instanceId with
  | none =>
      refine .inl ⟨rfl, by rw [findInstance, found, Option.bind_none], ?_⟩
      exact (Base.lookup_none_iff instances instanceId).mpr (works.misses instances instanceId well.sorted found)
  | some index =>
      obtain ⟨targetP, here, same⟩ := works.finds instances instanceId index found
      refine .inr ⟨index, targetP, rfl, here, same, by rw [findInstance, found, Option.bind_some, here, Option.map_some], ?_⟩
      exact (Base.lookup_some_iff instances instanceId targetP well.keyed).mpr ⟨List.mem_of_getElem? here, same⟩

theorem write_resources (works : list.Works) (instances : List ServerInstance) (well : Well instances) (instanceId : BitVec 16)
    (dataArray : List (LwData υ)) (entries : dataArray ≠ []) :
    Refines (writeResources api list instances instanceId dataArray)
      (mapWrite api (lookup ServerInstance.instanceId instances) instanceId dataArray) := by
  rcases find_instance works instances well instanceId with ⟨_, missed, absent⟩ | ⟨index, targetP, _, here, same, found, present⟩
  · exact ⟨.notFound404, instances, by unfold writeResources; rw [missed], well, by rw [mapWrite, absent]⟩
  · obtain ⟨kept, last⟩ := written_keeps api targetP dataArray
    obtain ⟨_, updated⟩ := Base.lookup_set instances index targetP (written api targetP dataArray).2 well.keyed here kept
    have sorted : Sorted (instances.set index (written api targetP dataArray).2) := by
      have same := Base.map_set_same ServerInstance.instanceId instances index targetP (written api targetP dataArray).2 here kept
      rw [Sorted, same]
      exact well.sorted
    refine ⟨(written api targetP dataArray).1, instances.set index (written api targetP dataArray).2, ?_, ⟨sorted, ?_⟩, ?_⟩
    · cases dataArray with
      | nil => exact absurd rfl entries
      | cons entry rest =>
          unfold writeResources
          rw [found]
          rfl
    · intro instance_ member
      rcases List.mem_or_eq_of_mem_set member with old | rfl
      · exact well.terminated instance_ old
      · rw [last]
        exact well.terminated targetP (List.mem_of_getElem? here)
    · rw [updated, same, mapWrite, present]

theorem prv_server_delete (works : list.Works) (instances : List ServerInstance) (well : Well instances) (instanceId : BitVec 16) :
    Refines (some (prvServerDelete list instances instanceId))
      (mapDelete (lookup ServerInstance.instanceId instances) instanceId) := by
  rcases find_instance works instances well instanceId with ⟨missed, _, absent⟩ | ⟨index, targetP, found, here, same, _, present⟩
  · exact ⟨.notFound404, instances, by rw [prvServerDelete, works.keeps instances instanceId well.sorted missed], well,
      by rw [mapDelete, absent]⟩
  · obtain ⟨_, erased⟩ := Base.lookup_erase instances index targetP well.keyed here
    have sorted : Sorted (instances.eraseIdx index) := well.sorted.sublist ((List.eraseIdx_sublist instances index).map _)
    refine ⟨.deleted202, instances.eraseIdx index, ?_, ⟨sorted, fun instance_ member => ?_⟩, ?_⟩
    · rw [prvServerDelete, works.removes instances instanceId index well.sorted found, here]
    · exact well.terminated instance_ (List.mem_of_mem_eraseIdx member)
    · rw [erased, same, mapDelete, present]

theorem well_add (works : list.Works) (instances : List ServerInstance) (well : Well instances) (new : ServerInstance)
    (last : new.binding.bytes[3]? = some 0) (absent : lookup ServerInstance.instanceId instances new.instanceId = none) :
    Well (list.add instances new) ∧ lookup ServerInstance.instanceId (list.add instances new) =
      Function.update (lookup ServerInstance.instanceId instances) new.instanceId (some new) := by
  obtain ⟨keyed, added⟩ := Base.lookup_cons instances new well.keyed absent
  obtain ⟨_, same⟩ := Base.lookup_perm _ _ keyed (works.adds instances new)
  have sorted := works.sorts instances new well.sorted ((Base.lookup_none_iff instances new.instanceId).mp absent)
  refine ⟨⟨sorted, fun instance_ member => ?_⟩, same.trans added⟩
  rcases List.mem_cons.mp ((works.adds instances new).mem_iff.mp member) with rfl | old
  · exact last
  · exact well.terminated instance_ old

theorem prv_server_create (works : list.Works) (memory : Bool) (instances : List ServerInstance) (well : Well instances)
    (instanceId : BitVec 16) (dataArray : List (LwData υ)) (entries : dataArray ≠ [])
    (absent : lookup ServerInstance.instanceId instances instanceId = none) :
    Refines (prvServerCreate api list memory instances instanceId dataArray)
      (mapCreate api memory (lookup ServerInstance.instanceId instances) instanceId dataArray) := by
  cases memory with
  | false => exact ⟨.internalServerError500, instances, rfl, well, rfl⟩
  | true =>
      obtain ⟨added, view⟩ := well_add works instances well (ServerInstance.zero instanceId) rfl absent
      obtain ⟨status, after, done, afterWell, spec⟩ :=
        write_resources api works (list.add instances (ServerInstance.zero instanceId)) added instanceId dataArray entries
      have fresh : lookup ServerInstance.instanceId (list.add instances (ServerInstance.zero instanceId)) instanceId =
          some (ServerInstance.zero instanceId) := by
        rw [view]
        exact Function.update_self ..
      rw [mapWrite, fresh, view] at spec
      obtain ⟨statusIs, afterIs⟩ := Prod.mk.inj spec
      change lookup _ after = Function.update (Function.update _ instanceId _) instanceId _ at afterIs
      rw [Function.update_idem] at afterIs
      by_cases accepted : status = .changed204
      · refine ⟨.created201, after, ?_, afterWell, ?_⟩
        · rw [prvServerCreate, if_pos rfl, done, Option.map_some, if_neg (not_not_intro accepted)]
        · rw [mapCreate, if_pos rfl, ← statusIs, if_pos accepted, afterIs]
      · obtain ⟨_, removed, deleted, removedWell, gone⟩ := prv_server_delete works after afterWell instanceId
        have present : lookup ServerInstance.instanceId after instanceId =
            some (written api (ServerInstance.zero instanceId) dataArray).2 := by rw [afterIs, Function.update_self]
        rw [mapDelete, present, afterIs, Function.update_idem] at gone
        refine ⟨status, removed, ?_, removedWell, ?_⟩
        · rw [prvServerCreate, if_pos rfl, done, Option.map_some, if_pos accepted]
          rw [Option.some.injEq] at deleted
          rw [deleted]
        · rw [mapCreate, if_pos rfl, ← statusIs, if_neg accepted, (Prod.mk.inj gone).2, ← absent, Function.update_eq_self]

theorem prv_server_write (works : list.Works) (memory : Bool) (instances : List ServerInstance) (well : Well instances)
    (instanceId : BitVec 16) (dataArray : List (LwData υ)) (entries : dataArray ≠ []) (writeType : WriteType) :
    Refines (prvServerWrite api list memory instances instanceId dataArray writeType)
      (if writeType = .replaceInstance then
        mapReplace api memory (lookup ServerInstance.instanceId instances) instanceId dataArray
      else mapWrite api (lookup ServerInstance.instanceId instances) instanceId dataArray) := by
  have resources := write_resources api works instances well instanceId dataArray entries
  rcases find_instance works instances well instanceId with ⟨_, missed, absent⟩ | ⟨index, targetP, _, _, _, found, present⟩
  · refine ⟨.notFound404, instances, by unfold prvServerWrite; rw [missed], well, ?_⟩
    rw [mapReplace, mapWrite, absent, ite_self]
  · cases writeType with
    | replaceResources =>
        unfold prvServerWrite
        rw [found]
        exact resources
    | partialUpdate =>
        unfold prvServerWrite
        rw [found]
        exact resources
    | replaceInstance =>
        obtain ⟨status, remaining, deleted, remainingWell, spec⟩ := prv_server_delete works instances well instanceId
        rw [mapDelete, present] at spec
        obtain ⟨rfl, view⟩ := Prod.mk.inj spec
        have absent : lookup ServerInstance.instanceId remaining instanceId = none := by rw [view, Function.update_self]
        obtain ⟨result, after, done, afterWell, created⟩ :=
          prv_server_create api works memory remaining remainingWell instanceId dataArray entries absent
        refine ⟨if result = .created201 then .changed204 else result, after, ?_, afterWell, ?_⟩
        · unfold prvServerWrite
          rw [Option.some.injEq] at deleted
          simp only [found, deleted, done, Option.map_some]
        · rw [if_pos rfl, mapReplace, present, ← view, ← created]

-- What the LwM2M core asks of the object that changes it; memory is what
-- lwm2m_malloc has to say.
inductive Request (υ : Type) where
  | write (memory : Bool) (instanceId : BitVec 16) (dataArray : List (LwData υ)) (writeType : WriteType)
  | create (memory : Bool) (instanceId : BitVec 16) (dataArray : List (LwData υ))
  | delete (instanceId : BitVec 16)

-- The newest answer comes first.
structure Served where
  instances : List ServerInstance
  answers : List CoapStatus

def Served.answer (served : Served) (result : CoapStatus × List ServerInstance) : Served :=
  ⟨result.2, result.1 :: served.answers⟩

def serve (api : DataApi υ) (list : ListApi) : Step Served (Request υ)
  | served, .write memory instanceId dataArray writeType =>
      (prvServerWrite api list memory served.instances instanceId dataArray writeType).map served.answer
  | served, .create memory instanceId dataArray =>
      (prvServerCreate api list memory served.instances instanceId dataArray).map served.answer
  | served, .delete instanceId => some (served.answer (prvServerDelete list served.instances instanceId))

theorem get_server_object (works : list.Works) : Well (getServerObject list) ∧
    lookup ServerInstance.instanceId (getServerObject list) = Function.update (fun _ => none) 0 (some hardcoded) := by
  have nothing : Well [] := ⟨.nil, fun _ member => absurd member List.not_mem_nil⟩
  exact well_add works [] nothing hardcoded rfl rfl

theorem c_string_short (binding : Buffer 4) (ends : binding.bytes[3]? = some 0) : (cString binding).length ≤ 3 := by
  rcases Nat.lt_or_ge 3 (cString binding).length with longer | short
  · obtain ⟨_, last⟩ := List.getElem?_eq_some_iff.mp ends
    have same : (cString binding)[3] = 0 := (List.IsPrefix.getElem (List.takeWhile_prefix _) longer).trans last
    have zero := List.mem_takeWhile_imp (List.mem_of_getElem same)
    simp at zero
  · exact short

theorem c_string_copied (binding : Buffer 4) :
    Base.padded (Base.cText (cString binding) (cString binding).length) (cString binding).length = cString binding := by
  have clean : 0 ∉ cString binding := by
    intro member
    simpa using List.mem_takeWhile_imp member
  rw [Base.c_text_of_clean _ _ (by rwa [List.take_length]), List.take_length, Base.padded, Nat.sub_self, List.replicate_zero,
    List.append_nil]

section Copies

variable {api} (works : api.Works)

include works

theorem set_encoded (value : Nat) (entry : LwData υ) (data : BitVec 32) (fits : value < 4294967296) :
    prvSetIntValue api (api.encodeInt value entry) data = (.changed204, BitVec.ofNat 32 value) := by
  have bounds : (0 : Int) ≤ value ∧ (value : Int) ≤ 0xFFFFFFFF := by omega
  unfold prvSetIntValue
  simp only [works.decodesInt value entry (by omega) (by omega), if_pos bounds, BitVec.ofInt_natCast]

theorem write_encoded_short_id (source targetP : ServerInstance) (entry : LwData υ)
    (single : entry.type ≠ .multipleResource) (resource : entry.id = lwm2mServerShortIdId) :
    writeVisit api targetP (api.encodeInt source.shortServerId.toNat entry) =
      if source.shortServerId ≠ 0 then (.changed204, { targetP with shortServerId := source.shortServerId })
      else (.notAcceptable406, targetP) := by
  obtain ⟨same, kept⟩ := works.intKeeps source.shortServerId.toNat entry
  have small := source.shortServerId.isLt
  rw [writeVisit, if_neg (kept single), if_pos (same.trans resource), writeShortId,
    set_encoded works source.shortServerId.toNat entry 0 (by omega)]
  have value : (BitVec.ofNat 32 source.shortServerId.toNat).toNat = source.shortServerId.toNat := by
    rw [BitVec.toNat_ofNat, Nat.mod_eq_of_lt (by omega)]
  have back : (BitVec.ofNat 32 source.shortServerId.toNat).setWidth 16 = source.shortServerId := by
    refine BitVec.eq_of_toNat_eq ?_
    rw [BitVec.toNat_setWidth, value, Nat.mod_eq_of_lt small]
  have upper : BitVec.ofNat 32 source.shortServerId.toNat ≤ 0xFFFF := by
    refine BitVec.le_def.mpr ?_
    rw [value]
    exact Nat.le_of_lt_succ small
  by_cases zero : source.shortServerId = 0
  · rw [if_neg (not_not_intro zero), zero]
    rfl
  · have lower : 0 < BitVec.ofNat 32 source.shortServerId.toNat := by
      refine BitVec.lt_def.mpr ?_
      rw [value]
      exact Nat.pos_of_ne_zero fun nothing => zero (BitVec.eq_of_toNat_eq nothing)
    simp only [if_pos (And.intro lower upper), if_pos (show source.shortServerId ≠ 0 from zero), back]

theorem write_encoded_lifetime (source targetP : ServerInstance) (entry : LwData υ)
    (single : entry.type ≠ .multipleResource) (resource : entry.id = lwm2mServerLifetimeId) :
    writeVisit api targetP (api.encodeInt source.lifetime.toNat entry) =
      (.changed204, { targetP with lifetime := source.lifetime }) := by
  obtain ⟨same, kept⟩ := works.intKeeps source.lifetime.toNat entry
  have other : (api.encodeInt source.lifetime.toNat entry).id ≠ lwm2mServerShortIdId := by
    rw [same, resource]
    decide
  rw [writeVisit, if_neg (kept single), if_neg other, if_pos (same.trans resource), writeLifetime,
    set_encoded works source.lifetime.toNat entry targetP.lifetime source.lifetime.isLt, BitVec.ofNat_toNat, BitVec.setWidth_eq]

theorem write_encoded_storing (source targetP : ServerInstance) (entry : LwData υ)
    (single : entry.type ≠ .multipleResource) (resource : entry.id = lwm2mServerStoringId) :
    writeVisit api targetP (api.encodeBool source.storing entry) = (.changed204, { targetP with storing := source.storing }) := by
  obtain ⟨same, kept⟩ := works.boolKeeps source.storing entry
  have here := same.trans resource
  rw [writeVisit, if_neg (kept single), if_neg (by rw [here]; decide), if_neg (by rw [here]; decide),
    if_neg (by rw [here]; decide), if_pos here, writeStoring]
  simp only [works.decodesBool]

theorem write_encoded_binding (source targetP : ServerInstance) (entry : LwData υ) (resource : entry.id = lwm2mServerBindingId)
    (ends : source.binding.bytes[3]? = some 0) :
    if cString source.binding = [] then
      writeVisit api targetP (api.encodeString (cString source.binding) entry) = (.badRequest400, targetP)
    else ∃ binding, writeVisit api targetP (api.encodeString (cString source.binding) entry) =
        (.changed204, { targetP with binding := binding }) ∧
      binding.bytes = cString source.binding ++ targetP.binding.bytes.drop (cString source.binding).length := by
  obtain ⟨same, type, buffer⟩ := works.stringKeeps (cString source.binding) entry
  have here := same.trans resource
  have short := c_string_short source.binding ends
  have visit : writeVisit api targetP (api.encodeString (cString source.binding) entry) =
      writeBinding api targetP (api.encodeString (cString source.binding) entry) := by
    rw [writeVisit, if_neg (by rw [type]; decide), if_neg (by rw [here]; decide), if_neg (by rw [here]; decide),
      if_neg (by rw [here]; decide), if_neg (by rw [here]; decide), if_pos here]
  rw [visit]
  by_cases empty : cString source.binding = []
  · rw [if_pos empty, writeBinding, dif_neg]
    rw [buffer, empty]
    simp
  · rw [if_neg empty]
    have fits : ((api.encodeString (cString source.binding) entry).type = .string ∨
        (api.encodeString (cString source.binding) entry).type = .opaqueBytes) ∧
        0 < (api.asBuffer (api.encodeString (cString source.binding) entry).value).length ∧
        (api.asBuffer (api.encodeString (cString source.binding) entry).value).length ≤ 3 := by
      rw [buffer]
      exact ⟨.inl type, List.length_pos_iff.mpr empty, short⟩
    obtain ⟨copy, made⟩ := Option.isSome_iff_exists.mp (binding_fits targetP.binding _ fits.2.2)
    refine ⟨copy, ?_, ?_⟩
    · rw [writeBinding, dif_pos fits]
      simp only [made, Option.get_some]
    · rw [Base.strncpy_bytes targetP.binding copy _ _ made, buffer, c_string_copied]

theorem full_entries : ∃ first second third fourth, fullObject api readResList = some [first, second, third, fourth] ∧
    (first.type ≠ .multipleResource ∧ first.id = lwm2mServerShortIdId) ∧
    (second.type ≠ .multipleResource ∧ second.id = lwm2mServerLifetimeId) ∧
    (third.type ≠ .multipleResource ∧ third.id = lwm2mServerStoringId) ∧
    fourth.type ≠ .multipleResource ∧ fourth.id = lwm2mServerBindingId := by
  obtain ⟨data, allocated, length, single⟩ := works.allocates readResList.length (by decide)
  match data, length with
  | [first, second, third, fourth], _ =>
      refine ⟨{ first with id := lwm2mServerShortIdId }, { second with id := lwm2mServerLifetimeId },
        { third with id := lwm2mServerStoringId }, { fourth with id := lwm2mServerBindingId },
        by rw [fullObject, allocated, Option.map_some]; rfl, ⟨single first ?_, rfl⟩, ⟨single second ?_, rfl⟩,
        ⟨single third ?_, rfl⟩, single fourth ?_, rfl⟩
      · simp
      · simp
      · simp
      · simp

theorem read_whole (listWorks : list.Works) (instances : List ServerInstance) (well : Well instances) (instanceId : BitVec 16)
    (source : ServerInstance) (here : lookup ServerInstance.instanceId instances instanceId = some source) :
    ∃ first second third fourth,
      prvServerRead api list instances instanceId [] = (.content205, [api.encodeInt source.shortServerId.toNat first,
        api.encodeInt source.lifetime.toNat second, api.encodeBool source.storing third,
        api.encodeString (cString source.binding) fourth]) ∧
      (first.type ≠ .multipleResource ∧ first.id = lwm2mServerShortIdId) ∧
      (second.type ≠ .multipleResource ∧ second.id = lwm2mServerLifetimeId) ∧
      (third.type ≠ .multipleResource ∧ third.id = lwm2mServerStoringId) ∧
      fourth.type ≠ .multipleResource ∧ fourth.id = lwm2mServerBindingId := by
  obtain ⟨first, second, third, fourth, full, one, two, three, four⟩ := full_entries works
  refine ⟨first, second, third, fourth, ?_, one, two, three, four⟩
  rcases find_instance listWorks instances well instanceId with ⟨_, _, absent⟩ | ⟨index, targetP, _, _, _, found, present⟩
  · rw [here] at absent
    cases absent
  · obtain rfl : targetP = source := Option.some.inj (present.symm.trans here)
    have visits (entry : LwData υ) (single : entry.type ≠ .multipleResource) :
        readVisit api targetP entry = prvGetValue api targetP entry := if_neg single
    have firstRead : readVisit api targetP first = (.content205, api.encodeInt targetP.shortServerId.toNat first) := by
      rw [visits first one.1, prvGetValue, if_pos one.2]
    have secondRead : readVisit api targetP second = (.content205, api.encodeInt targetP.lifetime.toNat second) := by
      rw [visits second two.1, prvGetValue, if_neg (by rw [two.2]; decide), if_pos two.2]
    have thirdRead : readVisit api targetP third = (.content205, api.encodeBool targetP.storing third) := by
      rw [visits third three.1, prvGetValue, if_neg (by rw [three.2]; decide), if_neg (by rw [three.2]; decide),
        if_neg (by rw [three.2]; decide), if_pos three.2]
    have fourthRead : readVisit api targetP fourth = (.content205, api.encodeString (cString targetP.binding) fourth) := by
      rw [visits fourth four.1, prvGetValue, if_neg (by rw [four.2]; decide), if_neg (by rw [four.2]; decide),
        if_neg (by rw [four.2]; decide), if_neg (by rw [four.2]; decide), if_pos four.2]
    unfold prvServerRead
    simp only [found, full, scan, firstRead, secondRead, thirdRead, fourthRead, if_true]

theorem write_whole (source targetP : ServerInstance) (ends : source.binding.bytes[3]? = some 0)
    (first second third fourth : LwData υ)
    (one : first.type ≠ .multipleResource ∧ first.id = lwm2mServerShortIdId)
    (two : second.type ≠ .multipleResource ∧ second.id = lwm2mServerLifetimeId)
    (three : third.type ≠ .multipleResource ∧ third.id = lwm2mServerStoringId)
    (four : fourth.type ≠ .multipleResource ∧ fourth.id = lwm2mServerBindingId) :
    ∃ status after, written api targetP [api.encodeInt source.shortServerId.toNat first,
        api.encodeInt source.lifetime.toNat second, api.encodeBool source.storing third,
        api.encodeString (cString source.binding) fourth] = (status, after) ∧
      (status = .changed204 ↔ source.shortServerId ≠ 0 ∧ cString source.binding ≠ []) ∧
      (status = .changed204 → ∃ binding : Buffer 4,
        binding.bytes = cString source.binding ++ targetP.binding.bytes.drop (cString source.binding).length ∧
        after = ⟨targetP.instanceId, source.shortServerId, source.lifetime, source.storing, binding⟩) := by
  have shortVisit := write_encoded_short_id works source targetP first one.1 one.2
  by_cases zero : source.shortServerId = 0
  · rw [if_neg (not_not_intro zero)] at shortVisit
    refine ⟨.notAcceptable406, targetP, ?_, ?_, CoapStatus.noConfusion⟩
    · rw [written, scanWith, shortVisit]
      rfl
    · exact iff_of_false CoapStatus.noConfusion fun copied => copied.1 zero
  · rw [if_pos zero] at shortVisit
    have lifetimeVisit := write_encoded_lifetime works source { targetP with shortServerId := source.shortServerId } second two.1 two.2
    have storingVisit := write_encoded_storing works source
      { targetP with shortServerId := source.shortServerId, lifetime := source.lifetime } third three.1 three.2
    have bindingVisit := write_encoded_binding works source
      { targetP with shortServerId := source.shortServerId, lifetime := source.lifetime, storing := source.storing }
      fourth four.2 ends
    have reached (last : CoapStatus × ServerInstance)
        (visit : writeVisit api { targetP with
          shortServerId := source.shortServerId, lifetime := source.lifetime, storing := source.storing }
          (api.encodeString (cString source.binding) fourth) = last) :
        written api targetP [api.encodeInt source.shortServerId.toNat first, api.encodeInt source.lifetime.toNat second,
          api.encodeBool source.storing third, api.encodeString (cString source.binding) fourth] = last := by
      simp only [written, scanWith, shortVisit, lifetimeVisit, storingVisit, visit, if_true]
      split
      · rename_i same
        rw [← same]
      · rfl
    by_cases empty : cString source.binding = []
    · rw [if_pos empty] at bindingVisit
      refine ⟨_, _, reached _ bindingVisit, ?_, CoapStatus.noConfusion⟩
      exact iff_of_false CoapStatus.noConfusion fun copied => copied.2 empty
    · rw [if_neg empty] at bindingVisit
      obtain ⟨binding, visit, bytes⟩ := bindingVisit
      exact ⟨_, _, reached _ visit, iff_of_true rfl ⟨zero, empty⟩, fun _ => ⟨binding, bytes, rfl⟩⟩

-- An instance read whole and written into another is copied: it is refused
-- exactly where the short id is still 0 or the binding empty, and of the
-- binding that was there the bytes past the new text stay.
theorem copy_instance (listWorks : list.Works) (memory : Bool) (instances : List ServerInstance) (well : Well instances)
    (sourceId targetId : BitVec 16) (source targetP : ServerInstance)
    (here : lookup ServerInstance.instanceId instances sourceId = some source)
    (there : lookup ServerInstance.instanceId instances targetId = some targetP) :
    ∃ data status after, prvServerRead api list instances sourceId [] = (.content205, data) ∧
      prvServerWrite api list memory instances targetId data .replaceResources = some (status, after) ∧
      (status = .changed204 ↔ source.shortServerId ≠ 0 ∧ cString source.binding ≠ []) ∧
      (status = .changed204 → ∃ binding : Buffer 4,
        binding.bytes = cString source.binding ++ targetP.binding.bytes.drop (cString source.binding).length ∧
        lookup ServerInstance.instanceId after = Function.update (lookup ServerInstance.instanceId instances) targetId
          (some ⟨targetP.instanceId, source.shortServerId, source.lifetime, source.storing, binding⟩)) := by
  obtain ⟨first, second, third, fourth, answered, one, two, three, four⟩ :=
    read_whole works listWorks instances well sourceId source here
  have ends : source.binding.bytes[3]? = some 0 :=
    well.terminated source ((Base.lookup_some_iff instances sourceId source well.keyed).mp here).1
  obtain ⟨result, changed, whole, settled, copied⟩ :=
    write_whole works source targetP ends first second third fourth one two three four
  have ready : ∃ data, prvServerRead api list instances sourceId [] = (.content205, data) ∧ data ≠ [] ∧
      written api targetP data = (result, changed) := ⟨_, answered, List.cons_ne_nil _ _, whole⟩
  obtain ⟨data, answered, entries, whole⟩ := ready
  obtain ⟨status, after, done, _, spec⟩ :=
    prv_server_write api listWorks memory instances well targetId data entries .replaceResources
  rw [if_neg (by decide), mapWrite, there] at spec
  simp only [whole] at spec
  obtain ⟨statusIs, afterIs⟩ := Prod.mk.inj spec
  refine ⟨data, status, after, answered, done, statusIs ▸ settled, fun accepted => ?_⟩
  obtain ⟨binding, bytes, same⟩ := copied (statusIs ▸ accepted)
  exact ⟨binding, bytes, same ▸ afterIs⟩

end Copies

def secondServer : ServerInstance :=
  { ServerInstance.zero 1 with shortServerId := 7, binding := ⟨[85, 81, 83, 0], rfl⟩ }

theorem two_servers_well : Well [hardcoded, secondServer] where
  sorted := by simp [Sorted, hardcoded, secondServer, ServerInstance.zero]
  terminated := by simp [hardcoded, secondServer]

theorem copy_instance_second :
    ∃ data status after, prvServerRead storingApi sortedList [hardcoded, secondServer] 0 [] = (.content205, data) ∧
      prvServerWrite storingApi sortedList true [hardcoded, secondServer] 1 data .replaceResources = some (status, after) ∧
      (status = .changed204 ↔ hardcoded.shortServerId ≠ 0 ∧ cString hardcoded.binding ≠ []) ∧
      (status = .changed204 → ∃ binding : Buffer 4,
        binding.bytes = cString hardcoded.binding ++ secondServer.binding.bytes.drop (cString hardcoded.binding).length ∧
        lookup ServerInstance.instanceId after = Function.update (lookup ServerInstance.instanceId [hardcoded, secondServer]) 1
          (some ⟨1, hardcoded.shortServerId, hardcoded.lifetime, hardcoded.storing, binding⟩)) :=
  copy_instance storing_api_works sorted_list_works true [hardcoded, secondServer] two_servers_well 0 1 hardcoded secondServer rfl rfl

end Miso.Lwm2mServer
