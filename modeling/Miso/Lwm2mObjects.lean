import Miso.Base.Scan

set_option autoImplicit false

namespace Miso.Lwm2mObjects

open Base (scan scanUpTo)

variable {υ φ : Type}

inductive CoapStatus where
  | noError
  | content205
  | notFound404
  | methodNotAllowed405
  | internalServerError500
deriving DecidableEq

-- multipleResource is all that is read of the entry's type; υ is what the
-- encoders store.
structure LwData (υ : Type) where
  id : BitVec 16
  multipleResource : Bool
  value : υ
deriving DecidableEq

-- The data functions of the LwM2M library.
structure DataApi (υ φ : Type) where
  dataNew : Nat → Option (List (LwData υ))
  encodeString : String → LwData υ → LwData υ
  encodeInt : Int → LwData υ → LwData υ
  encodeFloat : φ → LwData υ → LwData υ

-- Memory is there, new entries are cleared, and the encoders keep the id.
structure DataApi.Works (api : DataApi υ φ) : Prop where
  allocates : ∀ count, 0 < count → ∃ data, api.dataNew count = some data ∧ data.length = count ∧
    ∀ entry ∈ data, entry.multipleResource = false
  stringKeeps : ∀ text entry, (api.encodeString text entry).id = entry.id
  intKeeps : ∀ value entry, (api.encodeInt value entry).id = entry.id
  floatKeeps : ∀ value entry, (api.encodeFloat value entry).id = entry.id

def populate (ids : List (BitVec 16)) (data : List (LwData υ)) : List (LwData υ) :=
  List.zipWith (fun id entry => { entry with id := id }) ids data

def fullObject (api : DataApi υ φ) (ids : List (BitVec 16)) : Option (List (LwData υ)) :=
  (api.dataNew ids.length).map (populate ids)

structure AccelerometerValues (φ : Type) where
  x : φ
  y : φ
  z : φ

def lwm2mAccelXValue : BitVec 16 := 5702
def lwm2mAccelYValue : BitVec 16 := 5703
def lwm2mAccelZValue : BitVec 16 := 5704
def lwm2mAccelSensorUnits : BitVec 16 := 5701
def lwm2mAccelApplicationType : BitVec 16 := 5750

def resourceList : List (BitVec 16) :=
  [lwm2mAccelXValue, lwm2mAccelYValue, lwm2mAccelZValue, lwm2mAccelSensorUnits, lwm2mAccelApplicationType]

def accelReadSwitch (api : DataApi υ φ) (values : AccelerometerValues φ) (dataPoint : LwData υ) : CoapStatus × LwData υ :=
  if dataPoint.id = lwm2mAccelXValue then (.content205, api.encodeFloat values.x dataPoint)
  else if dataPoint.id = lwm2mAccelYValue then (.content205, api.encodeFloat values.y dataPoint)
  else if dataPoint.id = lwm2mAccelZValue then (.content205, api.encodeFloat values.z dataPoint)
  else if dataPoint.id = lwm2mAccelSensorUnits then (.content205, api.encodeString "LSB" dataPoint)
  else if dataPoint.id = lwm2mAccelApplicationType then (.content205, api.encodeString "Bosch Sensortec BMA280" dataPoint)
  else (.notFound404, dataPoint)

-- dataArrayP holds numDataP entries; of a negative count the source reads none.
def accelRead (api : DataApi υ φ) (values : AccelerometerValues φ) (instanceId : BitVec 16) (numDataP : Int)
    (dataArrayP : List (LwData υ)) : CoapStatus × List (LwData υ) :=
  if instanceId > 0 then (.notFound404, dataArrayP)
  else if numDataP = 0 then
    match fullObject api resourceList with
    | none => (.internalServerError500, [])
    | some data => scanUpTo (accelReadSwitch api values) .content205 .noError resourceList.length data
  else if numDataP < 0 then (.internalServerError500, dataArrayP)
  else scanUpTo (accelReadSwitch api values) .content205 .noError numDataP.toNat dataArrayP

def accelDiscoverSwitch (dataPoint : LwData υ) : CoapStatus × LwData υ :=
  if dataPoint.id = lwm2mAccelXValue then (.content205, dataPoint)
  else if dataPoint.id = lwm2mAccelYValue then (.content205, dataPoint)
  else if dataPoint.id = lwm2mAccelZValue then (.content205, dataPoint)
  else if dataPoint.id = lwm2mAccelSensorUnits then (.content205, dataPoint)
  else if dataPoint.id = lwm2mAccelApplicationType then (.content205, dataPoint)
  else (.notFound404, dataPoint)

-- instanceId is not looked at.
def accelDiscover (api : DataApi υ φ) (_instanceId : BitVec 16) (numDataP : Int) (dataArrayP : List (LwData υ)) :
    CoapStatus × List (LwData υ) :=
  if numDataP = 0 then
    match fullObject api resourceList with
    | none => (.internalServerError500, [])
    | some data => (.content205, data)
  else scanUpTo accelDiscoverSwitch .content205 .noError numDataP.toNat dataArrayP

def prvManufacturer : String := "https://github.com/FranciscoLlobet/efm32-freertos-zig"
def prvModelNumber : String := "miso powered by Zig"
def prvBindingMode : String := "U"

def resOManufacturer : BitVec 16 := 0
def resOModelNumber : BitVec 16 := 1
def resOSerialNumber : BitVec 16 := 2
def resOFirmwareVersion : BitVec 16 := 3
def resMReboot : BitVec 16 := 4
def resOAvlPowerSources : BitVec 16 := 6
def resOBatteryLevel : BitVec 16 := 9
def resOMemoryFree : BitVec 16 := 10
def resOCurrentTime : BitVec 16 := 13
def resMBindingModes : BitVec 16 := 16
def resOHardwareVersion : BitVec 16 := 18
def resOSoftwareVersion : BitVec 16 := 19

-- The resList of prv_device_read and, once more, of prv_device_discover.
def resList : List (BitVec 16) :=
  [resOManufacturer, resOModelNumber, resOSerialNumber, resOFirmwareVersion, resOHardwareVersion, resOSoftwareVersion,
    resOBatteryLevel, resOCurrentTime, resMBindingModes, resOMemoryFree]

structure DeviceValues where
  freeHeapSize : Int
  time : Int

def prvSetValue (api : DataApi υ φ) (values : DeviceValues) (dataP : LwData υ) : CoapStatus × LwData υ :=
  if dataP.id = resOManufacturer then (.content205, api.encodeString prvManufacturer dataP)
  else if dataP.id = resOModelNumber then (.content205, api.encodeString prvModelNumber dataP)
  else if dataP.id = resOSerialNumber then (.content205, api.encodeString "15-01021" dataP)
  else if dataP.id = resOFirmwareVersion then (.content205, api.encodeString "v0.0.0" dataP)
  else if dataP.id = resOHardwareVersion then (.content205, api.encodeString "Bosch XDK110" dataP)
  else if dataP.id = resOSoftwareVersion then (.content205, api.encodeString "v0.0.0" dataP)
  else if dataP.id = resOBatteryLevel then (.content205, api.encodeInt 100 dataP)
  else if dataP.id = resOMemoryFree then (.content205, api.encodeInt values.freeHeapSize dataP)
  else if dataP.id = resOCurrentTime then (.content205, api.encodeInt values.time dataP)
  else if dataP.id = resMReboot then (.methodNotAllowed405, dataP)
  else if dataP.id = resMBindingModes then (.content205, api.encodeString prvBindingMode dataP)
  else if dataP.id = resOAvlPowerSources then (.content205, api.encodeInt 1 dataP)
  else (.notFound404, dataP)

def deviceReadVisit (api : DataApi υ φ) (values : DeviceValues) (dataP : LwData υ) : CoapStatus × LwData υ :=
  if dataP.multipleResource then (.notFound404, dataP) else prvSetValue api values dataP

-- The loop is a do while: one entry is read whatever the count is, and the
-- first status is never the one returned.
def prvDeviceRead (api : DataApi υ φ) (values : DeviceValues) (instanceId : BitVec 16) (numDataP : Int)
    (dataArrayP : List (LwData υ)) : CoapStatus × List (LwData υ) :=
  if instanceId ≠ 0 then (.notFound404, dataArrayP)
  else if numDataP = 0 then
    match fullObject api resList with
    | none => (.internalServerError500, [])
    | some data => scanUpTo (deviceReadVisit api values) .content205 .noError resList.length data
  else scanUpTo (deviceReadVisit api values) .content205 .noError (max 1 numDataP.toNat) dataArrayP

def deviceDiscoverSwitch (dataP : LwData υ) : CoapStatus × LwData υ :=
  if dataP.id ∈ [resOManufacturer, resOModelNumber, resOSerialNumber, resOFirmwareVersion, resOHardwareVersion,
      resOSoftwareVersion, resOBatteryLevel, resOCurrentTime, resOMemoryFree, resMBindingModes] then (.content205, dataP)
  else (.notFound404, dataP)

def prvDeviceDiscover (api : DataApi υ φ) (instanceId : BitVec 16) (numDataP : Int) (dataArrayP : List (LwData υ)) :
    CoapStatus × List (LwData υ) :=
  if instanceId ≠ 0 then (.notFound404, dataArrayP)
  else if numDataP = 0 then
    match fullObject api resList with
    | none => (.internalServerError500, [])
    | some data => (.content205, data)
  else scanUpTo deviceDiscoverSwitch .content205 .content205 numDataP.toNat dataArrayP

def ids (data : List (LwData υ)) : List (BitVec 16) := data.map LwData.id

theorem populate_ids (resources : List (BitVec 16)) (data : List (LwData υ)) (same : data.length = resources.length) :
    ids (populate resources data) = resources := by
  induction resources generalizing data with
  | nil => rfl
  | cons resource rest ih =>
      cases data with
      | nil => cases same
      | cons entry others => exact congrArg (resource :: ·) (ih others (Nat.succ.inj same))

theorem populate_single (resources : List (BitVec 16)) (data : List (LwData υ))
    (cleared : ∀ entry ∈ data, entry.multipleResource = false) :
    ∀ entry ∈ populate resources data, entry.multipleResource = false := by
  intro entry member
  obtain ⟨index, bound, rfl⟩ := List.mem_iff_getElem.mp member
  simp only [populate, List.getElem_zipWith]
  exact cleared _ (List.getElem_mem _)

theorem full_object (api : DataApi υ φ) (works : api.Works) (resources : List (BitVec 16)) (some_ : 0 < resources.length) :
    ∃ data, fullObject api resources = some data ∧ ids data = resources ∧
      ∀ entry ∈ data, entry.multipleResource = false := by
  obtain ⟨data, allocated, length, cleared⟩ := works.allocates resources.length some_
  refine ⟨populate resources data, ?_, populate_ids resources data length, populate_single resources data cleared⟩
  rw [fullObject, allocated, Option.map_some]

theorem accel_read_switch (api : DataApi υ φ) (works : api.Works) (values : AccelerometerValues φ) (dataPoint : LwData υ) :
    ((accelReadSwitch api values dataPoint).1 = .content205 ↔ dataPoint.id ∈ resourceList) ∧
      (accelReadSwitch api values dataPoint).2.id = dataPoint.id := by
  grind -ext [accelReadSwitch, resourceList, works.stringKeeps, works.floatKeeps]

theorem accel_discover_switch (dataPoint : LwData υ) :
    (accelDiscoverSwitch dataPoint).1 = .content205 ↔ dataPoint.id ∈ resourceList := by
  grind -ext [accelDiscoverSwitch, resourceList]

theorem mem_res_list (id : BitVec 16) :
    id ∈ resList ↔ id = resOManufacturer ∨ id = resOModelNumber ∨ id = resOSerialNumber ∨ id = resOFirmwareVersion ∨
      id = resOHardwareVersion ∨ id = resOSoftwareVersion ∨ id = resOBatteryLevel ∨ id = resOCurrentTime ∨
      id = resMBindingModes ∨ id = resOMemoryFree := by
  simp only [resList, List.mem_cons, List.not_mem_nil, or_false]

theorem prv_set_value_listed (api : DataApi υ φ) (values : DeviceValues) (dataP : LwData υ)
    (listed : dataP.id ∈ resList ∨ dataP.id = resOAvlPowerSources) : (prvSetValue api values dataP).1 = .content205 := by
  obtain ⟨id, multipleResource, value⟩ := dataP
  rw [mem_res_list] at listed
  rcases listed with (rfl | rfl | rfl | rfl | rfl | rfl | rfl | rfl | rfl | rfl) | rfl
  all_goals rfl

theorem prv_set_value_cases (api : DataApi υ φ) (works : api.Works) (values : DeviceValues) (dataP : LwData υ) :
    ((prvSetValue api values dataP).1 = .content205 → dataP.id ∈ resList ∨ dataP.id = resOAvlPowerSources) ∧
      (prvSetValue api values dataP).2.id = dataP.id := by
  let motive (answer : CoapStatus × LwData υ) : Prop :=
    (answer.1 = .content205 → dataP.id ∈ resList ∨ dataP.id = resOAvlPowerSources) ∧ answer.2.id = dataP.id
  have text (value : String) (listed : dataP.id ∈ resList) : motive (.content205, api.encodeString value dataP) :=
    ⟨fun _ => .inl listed, works.stringKeeps value dataP⟩
  have number (value : Int) (listed : dataP.id ∈ resList ∨ dataP.id = resOAvlPowerSources) :
      motive (.content205, api.encodeInt value dataP) := ⟨fun _ => listed, works.intKeeps value dataP⟩
  have refused (status : CoapStatus) (other : status ≠ .content205) : motive (status, dataP) :=
    ⟨fun content => absurd content other, rfl⟩
  change motive (prvSetValue api values dataP)
  unfold prvSetValue
  apply iteInduction (fun here => text _ (by rw [here]; decide)) fun _ => ?_
  apply iteInduction (fun here => text _ (by rw [here]; decide)) fun _ => ?_
  apply iteInduction (fun here => text _ (by rw [here]; decide)) fun _ => ?_
  apply iteInduction (fun here => text _ (by rw [here]; decide)) fun _ => ?_
  apply iteInduction (fun here => text _ (by rw [here]; decide)) fun _ => ?_
  apply iteInduction (fun here => text _ (by rw [here]; decide)) fun _ => ?_
  apply iteInduction (fun here => number _ (.inl (by rw [here]; decide))) fun _ => ?_
  apply iteInduction (fun here => number _ (.inl (by rw [here]; decide))) fun _ => ?_
  apply iteInduction (fun here => number _ (.inl (by rw [here]; decide))) fun _ => ?_
  apply iteInduction (fun _ => refused _ CoapStatus.noConfusion) fun _ => ?_
  apply iteInduction (fun here => text _ (by rw [here]; decide)) fun _ => ?_
  apply iteInduction (fun here => number _ (.inr here)) fun _ => ?_
  exact refused _ CoapStatus.noConfusion

theorem device_discover_switch (dataP : LwData υ) : (deviceDiscoverSwitch dataP).1 = .content205 ↔ dataP.id ∈ resList := by
  have same : dataP.id ∈ [resOManufacturer, resOModelNumber, resOSerialNumber, resOFirmwareVersion, resOHardwareVersion,
      resOSoftwareVersion, resOBatteryLevel, resOCurrentTime, resOMemoryFree, resMBindingModes] ↔ dataP.id ∈ resList := by
    simp only [mem_res_list, List.mem_cons, List.not_mem_nil, or_false]
    rw [or_comm (a := dataP.id = resOMemoryFree)]
  unfold deviceDiscoverSwitch
  rw [← same]
  split
  · exact iff_of_true rfl ‹_›
  · exact iff_of_false CoapStatus.noConfusion ‹_›

theorem device_read_visit (api : DataApi υ φ) (works : api.Works) (values : DeviceValues) (dataP : LwData υ) :
    (dataP.multipleResource = false →
      ((deviceReadVisit api values dataP).1 = .content205 ↔ dataP.id ∈ resList ∨ dataP.id = resOAvlPowerSources)) ∧
      (deviceReadVisit api values dataP).2.id = dataP.id := by
  cases single : dataP.multipleResource with
  | true => simp [deviceReadVisit, single]
  | false =>
      rw [deviceReadVisit, single]
      obtain ⟨content, same⟩ := prv_set_value_cases api works values dataP
      exact ⟨fun _ => ⟨content, prv_set_value_listed api values dataP⟩, same⟩

abbrev Callback (υ : Type) := BitVec 16 → Int → List (LwData υ) → CoapStatus × List (LwData υ)

-- What a callback says of the list it is given: which instances exist, which
-- resources it serves, and which it announces when all are asked for.
structure Answers (callback : Callback υ) (present serves : BitVec 16 → Prop) (announces : List (BitVec 16))
    (data : List (LwData υ)) : Prop where
  status : ∀ instanceId, (callback instanceId data.length data).1 = .content205 ↔
    present instanceId ∧ ∀ id ∈ ids data, serves id
  announced : data = [] → ∀ instanceId, present instanceId → ids (callback instanceId data.length data).2 = announces

theorem answers_of_cases (callback : Callback υ) (present serves : BitVec 16 → Prop) (announces : List (BitVec 16))
    (data : List (LwData υ))
    (refuses : ∀ instanceId, ¬ present instanceId → (callback instanceId data.length data).1 = .notFound404)
    (full : ∀ instanceId, present instanceId →
      (callback instanceId 0 []).1 = .content205 ∧ ids (callback instanceId 0 []).2 = announces)
    (given : data ≠ [] → ∀ instanceId, present instanceId →
      ((callback instanceId data.length data).1 = .content205 ↔ ∀ id ∈ ids data, serves id)) :
    Answers callback present serves announces data where
  status := by
    intro instanceId
    by_cases here : present instanceId
    · cases data with
      | nil => exact iff_of_true (full instanceId here).1 ⟨here, fun id member => absurd member List.not_mem_nil⟩
      | cons entry rest =>
          rw [given (List.cons_ne_nil entry rest) instanceId here]
          exact (and_iff_right here).symm
    · rw [refuses instanceId here]
      exact iff_of_false CoapStatus.noConfusion fun answered => here answered.1
  announced := by
    rintro rfl instanceId here
    exact (full instanceId here).2

theorem scan_given (visit : LwData υ → CoapStatus × LwData υ) (serves : BitVec 16 → Prop) (ret : CoapStatus)
    (data : List (LwData υ)) (enters : data ≠ [])
    (visits : ∀ entry ∈ data, (visit entry).1 = .content205 ↔ serves entry.id) :
    (scan visit .content205 ret data).1 = .content205 ↔ ∀ id ∈ ids data, serves id := by
  rw [Base.scan_again visit _ _ data enters, ids, List.forall_mem_map]
  exact forall₂_congr visits

theorem scan_full (visit : LwData υ → CoapStatus × LwData υ) (serves : BitVec 16 → Prop) (ret : CoapStatus)
    (resources : List (BitVec 16)) (data : List (LwData υ)) (some : resources ≠ []) (same : ids data = resources)
    (visits : ∀ entry ∈ data, (visit entry).1 = .content205 ↔ serves entry.id) (keeps : ∀ entry, (visit entry).2.id = entry.id)
    (served : ∀ id ∈ resources, serves id) :
    (scanUpTo visit .content205 ret resources.length data).1 = .content205 ∧
      ids (scanUpTo visit .content205 ret resources.length data).2 = resources := by
  have whole : data.length = resources.length := by rw [← same, ids, List.length_map]
  have enters : data ≠ [] := by
    rintro rfl
    exact some same.symm
  rw [Base.scan_up_to_length visit _ _ _ data (Nat.le_of_eq whole), scan_given visit serves ret data enters visits]
  refine ⟨?_, (Base.scan_view visit LwData.id keeps _ ret data).trans same⟩
  rw [same]
  exact served

theorem count_pos (data : List (LwData υ)) (enters : data ≠ []) : (data.length : Int) ≠ 0 ∧ ¬ (data.length : Int) < 0 := by
  have some := List.length_pos_iff.mpr enters
  omega

theorem accel_read_answers (api : DataApi υ φ) (works : api.Works) (values : AccelerometerValues φ) (data : List (LwData υ)) :
    Answers (accelRead api values) (· = 0) (· ∈ resourceList) resourceList data := by
  apply answers_of_cases
  · intro instanceId other
    rw [accelRead, if_pos (by grind)]
  · rintro instanceId rfl
    obtain ⟨full, made, same, _⟩ := full_object api works resourceList (by decide)
    have ran := scan_full (accelReadSwitch api values) (· ∈ resourceList) .noError resourceList full (by decide) same
      (fun entry _ => (accel_read_switch api works values entry).1) (fun entry => (accel_read_switch api works values entry).2)
      fun _ member => member
    simpa [accelRead, made] using ran
  · rintro enters instanceId rfl
    obtain ⟨nonzero, nonnegative⟩ := count_pos data enters
    rw [accelRead, if_neg (by decide), if_neg nonzero, if_neg nonnegative, Int.toNat_natCast,
      Base.scan_up_to_length _ _ _ _ data (Nat.le_refl _)]
    exact scan_given _ _ _ data enters fun entry _ => (accel_read_switch api works values entry).1

theorem accel_discover_answers (api : DataApi υ φ) (works : api.Works) (data : List (LwData υ)) :
    Answers (accelDiscover api) (fun _ => True) (· ∈ resourceList) resourceList data := by
  apply answers_of_cases
  · exact fun _ absent => absurd trivial absent
  · intro instanceId _
    obtain ⟨full, made, same, _⟩ := full_object api works resourceList (by decide)
    simpa [accelDiscover, made] using same
  · intro enters instanceId _
    rw [accelDiscover, if_neg (count_pos data enters).1, Int.toNat_natCast, Base.scan_up_to_length _ _ _ _ data (Nat.le_refl _)]
    exact scan_given _ _ _ data enters fun entry _ => accel_discover_switch entry

theorem device_read_answers (api : DataApi υ φ) (works : api.Works) (values : DeviceValues) (data : List (LwData υ))
    (single : ∀ entry ∈ data, entry.multipleResource = false) :
    Answers (prvDeviceRead api values) (· = 0) (fun id => id ∈ resList ∨ id = resOAvlPowerSources) resList data := by
  apply answers_of_cases
  · intro instanceId other
    rw [prvDeviceRead, if_pos other]
  · rintro instanceId rfl
    obtain ⟨full, made, same, cleared⟩ := full_object api works resList (by decide)
    have ran := scan_full (deviceReadVisit api values) (fun id => id ∈ resList ∨ id = resOAvlPowerSources) .noError resList full
      (by decide) same (fun entry member => (device_read_visit api works values entry).1 (cleared entry member))
      (fun entry => (device_read_visit api works values entry).2) fun _ member => .inl member
    simpa [prvDeviceRead, made] using ran
  · rintro enters instanceId rfl
    have some := List.length_pos_iff.mpr enters
    rw [prvDeviceRead, if_neg (by decide), if_neg (count_pos data enters).1, Int.toNat_natCast,
      Base.scan_up_to_length _ _ _ _ data (Nat.le_max_right 1 _)]
    exact scan_given _ _ _ data enters fun entry member => (device_read_visit api works values entry).1 (single entry member)

theorem device_discover_answers (api : DataApi υ φ) (works : api.Works) (data : List (LwData υ)) :
    Answers (prvDeviceDiscover api) (· = 0) (· ∈ resList) resList data := by
  apply answers_of_cases
  · intro instanceId other
    rw [prvDeviceDiscover, if_pos other]
  · rintro instanceId rfl
    obtain ⟨full, made, same, _⟩ := full_object api works resList (by decide)
    simpa [prvDeviceDiscover, made] using same
  · rintro enters instanceId rfl
    rw [prvDeviceDiscover, if_neg (by decide), if_neg (count_pos data enters).1, Int.toNat_natCast,
      Base.scan_up_to_length _ _ _ _ data (Nat.le_refl _)]
    exact scan_given _ _ _ data enters fun entry _ => device_discover_switch entry

structure Agree (discover read : Callback υ) (instanceId : BitVec 16) (data : List (LwData υ)) : Prop where
  status : (discover instanceId data.length data).1 = .content205 ↔ (read instanceId data.length data).1 = .content205
  announced : data = [] → (read instanceId data.length data).1 = .content205 →
    ids (discover instanceId data.length data).2 = ids (read instanceId data.length data).2

theorem agree_iff (discover read : Callback υ) (seen present announced serves : BitVec 16 → Prop) (resources : List (BitVec 16))
    (instanceId : BitVec 16) (data : List (LwData υ)) (left : Answers discover seen announced resources data)
    (right : Answers read present serves resources data) :
    Agree discover read instanceId data ↔
      ((seen instanceId ∧ ∀ id ∈ ids data, announced id) ↔ (present instanceId ∧ ∀ id ∈ ids data, serves id)) := by
  rw [← left.status instanceId, ← right.status instanceId]
  constructor
  · exact fun agree => agree.status
  · intro same
    refine ⟨same, fun empty content => ?_⟩
    have here := ((right.status instanceId).mp content).1
    have there := ((left.status instanceId).mp (same.mpr content)).1
    exact (left.announced empty instanceId there).trans (right.announced empty instanceId here).symm

inductive InfoObject where
  | accelerometer
  | device
deriving DecidableEq

structure ObjectValues (φ : Type) where
  accelerometer : AccelerometerValues φ
  device : DeviceValues

namespace InfoObject

def read (api : DataApi υ φ) (values : ObjectValues φ) : InfoObject → Callback υ
  | .accelerometer => accelRead api values.accelerometer
  | .device => prvDeviceRead api values.device

def discover (api : DataApi υ φ) : InfoObject → Callback υ
  | .accelerometer => accelDiscover api
  | .device => prvDeviceDiscover api

-- accel_discover takes any instance for the one there is, and the device's
-- discover does not know the power sources that its read serves.
def Coincide (instanceId : BitVec 16) (ids : List (BitVec 16)) : InfoObject → Prop
  | .accelerometer => instanceId = 0 ∨ ∃ id ∈ ids, id ∉ resourceList
  | .device => instanceId = 0 → resOAvlPowerSources ∈ ids → ∃ id ∈ ids, id ∉ resList ∧ id ≠ resOAvlPowerSources

end InfoObject

theorem accelerometer_coincide (instanceId : BitVec 16) (asked : List (BitVec 16)) :
    ((True ∧ ∀ id ∈ asked, id ∈ resourceList) ↔ (instanceId = 0 ∧ ∀ id ∈ asked, id ∈ resourceList)) ↔
      InfoObject.Coincide instanceId asked .accelerometer := by
  unfold InfoObject.Coincide
  by_cases served : ∀ id ∈ asked, id ∈ resourceList
  · have all_known : ¬ ∃ id ∈ asked, id ∉ resourceList := fun ⟨id, member, unknown⟩ => unknown (served id member)
    rw [or_iff_left all_known]
    constructor
    · exact fun same => (same.mp ⟨trivial, served⟩).1
    · exact fun zero => ⟨fun both => ⟨zero, both.2⟩, fun both => ⟨trivial, both.2⟩⟩
  · have unknown : ∃ id ∈ asked, id ∉ resourceList := by simpa using served
    exact iff_of_true ⟨fun both => absurd both.2 served, fun both => absurd both.2 served⟩ (.inr unknown)

theorem device_coincide (instanceId : BitVec 16) (asked : List (BitVec 16)) :
    ((instanceId = 0 ∧ ∀ id ∈ asked, id ∈ resList) ↔
        (instanceId = 0 ∧ ∀ id ∈ asked, id ∈ resList ∨ id = resOAvlPowerSources)) ↔
      InfoObject.Coincide instanceId asked .device := by
  have unlisted : resOAvlPowerSources ∉ resList := by decide
  unfold InfoObject.Coincide
  constructor
  · rintro same rfl member
    by_cases served : ∀ id ∈ asked, id ∈ resList ∨ id = resOAvlPowerSources
    · exact absurd ((same.mpr ⟨rfl, served⟩).2 _ member) unlisted
    · simpa using served
  · intro spared
    constructor
    · exact fun listed => ⟨listed.1, fun id member => .inl (listed.2 id member)⟩
    · rintro ⟨rfl, served⟩
      refine ⟨rfl, fun id member => ?_⟩
      rcases served id member with listed | power
      · exact listed
      · obtain ⟨other, found, unknown, different⟩ := spared rfl (power ▸ member)
        rcases served other found with known | same
        · exact absurd known unknown
        · exact absurd same different

theorem discover_read_agree_iff (api : DataApi υ φ) (works : api.Works) (values : ObjectValues φ) (object : InfoObject)
    (instanceId : BitVec 16) (data : List (LwData υ)) (single : ∀ entry ∈ data, entry.multipleResource = false) :
    Agree (object.discover api) (object.read api values) instanceId data ↔ object.Coincide instanceId (ids data) := by
  cases object with
  | accelerometer =>
      rw [← accelerometer_coincide]
      exact agree_iff _ _ _ _ _ _ resourceList instanceId data (accel_discover_answers api works data)
        (accel_read_answers api works values.accelerometer data)
  | device =>
      rw [← device_coincide]
      exact agree_iff _ _ _ _ _ _ resList instanceId data (device_discover_answers api works data)
        (device_read_answers api works values.device data single)

-- A data API that fills in values of its own kind and hands out cleared entries.
inductive Stored where
  | none
  | string (text : String)
  | int (value : Int)
  | float (value : Int)
deriving DecidableEq

def plainApi : DataApi Stored Int where
  dataNew count := some (List.replicate count ⟨0, false, .none⟩)
  encodeString text entry := { entry with value := .string text }
  encodeInt value entry := { entry with value := .int value }
  encodeFloat value entry := { entry with value := .float value }

theorem plain_api_works : plainApi.Works where
  allocates count _ := ⟨_, rfl, List.length_replicate, fun entry member => by rw [List.eq_of_mem_replicate member]⟩
  stringKeeps _ _ := rfl
  intKeeps _ _ := rfl
  floatKeeps _ _ := rfl

def restingValues : ObjectValues Int := ⟨⟨0, 0, 0⟩, ⟨4096, 0⟩⟩

def powerSources : List (LwData Stored) := [⟨resOAvlPowerSources, false, .none⟩]

theorem discover_read_agree_power_sources :
    Agree (InfoObject.discover plainApi .device) (InfoObject.read plainApi restingValues .device) 0 powerSources ↔
      InfoObject.device.Coincide 0 (ids powerSources) :=
  discover_read_agree_iff plainApi plain_api_works restingValues .device 0 powerSources (by decide)

theorem discover_read_disagree :
    (¬ ∀ (instanceId : BitVec 16) (data : List (LwData Stored)), (∀ entry ∈ data, entry.multipleResource = false) →
      Agree (InfoObject.discover plainApi .accelerometer) (InfoObject.read plainApi restingValues .accelerometer) instanceId data) ∧
    ¬ ∀ (instanceId : BitVec 16) (data : List (LwData Stored)), (∀ entry ∈ data, entry.multipleResource = false) →
      Agree (InfoObject.discover plainApi .device) (InfoObject.read plainApi restingValues .device) instanceId data := by
  constructor
  · intro agree
    have refused : (InfoObject.read plainApi restingValues .accelerometer 1 0 []).1 ≠ .content205 := by decide
    exact refused ((agree 1 [] (by decide)).status.mp rfl)
  · intro agree
    have refused : (InfoObject.discover plainApi .device 0 1 powerSources).1 ≠ .content205 := by decide
    exact refused ((agree 0 powerSources (by decide)).status.mpr rfl)

end Miso.Lwm2mObjects
