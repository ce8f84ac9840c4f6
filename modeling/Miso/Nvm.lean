import Mathlib.Data.List.AList
import Miso.Base.CString

set_option autoImplicit false

namespace Miso.Nvm

open Base (Byte)

abbrev Key := BitVec 20

inductive AppNvmKeys where
  | startCounter | resetCounter | timestamp | deviceUuid
  | configSha256 | configPubkey
  | wifiSsid | wifiPsk
  | ntpUri
  | mqttUri | mqttPskId | mqttPskKey | mqttDeviceId
  | httpUri | httpSigUri | httpSigKey | httpPskId | httpPskKey
  | lwm2mUri | lwm2mPskId | lwm2mPskKey | lwm2mDeviceId
  | firmwareEtag | firmwareUpdateTrigger | firmwareDownloadCounter | firmwareUpdateState
  | configUri
  | updateRequest | bootRequest | firmwareSize
  | maxKey
deriving DecidableEq

def AppNvmKeys.toInt : AppNvmKeys → Key
  | .startCounter => 0x00000
  | .resetCounter => 0x00001
  | .timestamp => 0x00002
  | .deviceUuid => 0x00003
  | .configSha256 => 0x00010
  | .configPubkey => 0x00011
  | .wifiSsid => 0x00012
  | .wifiPsk => 0x00013
  | .ntpUri => 0x00014
  | .mqttUri => 0x00015
  | .mqttPskId => 0x00016
  | .mqttPskKey => 0x00017
  | .mqttDeviceId => 0x00018
  | .httpUri => 0x00019
  | .httpSigUri => 0x0001A
  | .httpSigKey => 0x0001B
  | .httpPskId => 0x0001C
  | .httpPskKey => 0x0001D
  | .lwm2mUri => 0x0001E
  | .lwm2mPskId => 0x0001F
  | .lwm2mPskKey => 0x00020
  | .lwm2mDeviceId => 0x00021
  | .firmwareEtag => 0x00022
  | .firmwareUpdateTrigger => 0x00023
  | .firmwareDownloadCounter => 0x00024
  | .firmwareUpdateState => 0x00025
  | .configUri => 0x00026
  | .updateRequest => 0x00027
  | .bootRequest => 0x00028
  | .firmwareSize => 0x00029
  | .maxKey => 0x0FFFF

inductive NvmError where
  | genericError | bufferSizeError | invalidObjectType
deriving DecidableEq

inductive ObjectType where
  | data | counter
deriving DecidableEq

inductive Object where
  | data (bytes : List Byte)
  | counter (value : BitVec 32)
deriving DecidableEq

def Object.type : Object → ObjectType
  | .data _ => .data
  | .counter _ => .counter

abbrev Store := AList fun _ : Key => Object

abbrev Ecode := BitVec 32

def ecodeNvm3Ok : Ecode := 0

-- The flash driver: a map from keys to objects whose calls can fail. Of a call
-- that returns an error nothing is known but that.
structure Nvm3 where
  eraseAll : Store → Ecode × Store
  writeCounter : Key → BitVec 32 → Store → Ecode × Store
  writeData : Key → List Byte → Store → Ecode × Store
  erased : ∀ store after, eraseAll store = (ecodeNvm3Ok, after) → after = ∅
  counted : ∀ key value store after, writeCounter key value store = (ecodeNvm3Ok, after) →
    after = store.insert key (.counter value)
  written : ∀ key bytes store after, writeData key bytes store = (ecodeNvm3Ok, after) →
    after = store.insert key (.data bytes)

abbrev Access (α : Type) := ExceptT NvmError (StateM Store) α

def outcome {α : Type} (program : Access α) (store : Store) : Except NvmError α × Store := program.run store

def check (ecode : Ecode) : Access Unit := if ecodeNvm3Ok ≠ ecode then throw .genericError else pure ()

def countObjects (store : Store) : Nat := store.keys.length

def defaultUuid : List Byte := List.replicate 36 0xFF

def defaultSha256 : List Byte := List.replicate 32 0xFF

section

variable (nvm3 : Nvm3)

def eraseAll : Access Unit := do check (← modifyGet nvm3.eraseAll)

def writeCounter (key : AppNvmKeys) (value : BitVec 32) : Access Unit := do
  check (← modifyGet (nvm3.writeCounter key.toInt value))

def writeData (key : AppNvmKeys) (value : List Byte) : Access Unit := do
  check (← modifyGet (nvm3.writeData key.toInt value))

-- The part of init that is behind its count.
def writeDefaults : Access Unit := do
  eraseAll nvm3
  writeCounter nvm3 .startCounter 0
  writeCounter nvm3 .resetCounter 0
  writeCounter nvm3 .timestamp 0
  writeCounter nvm3 .firmwareDownloadCounter 0
  writeData nvm3 .deviceUuid defaultUuid
  writeData nvm3 .configSha256 defaultSha256
  writeCounter nvm3 .bootRequest 0
  writeCounter nvm3 .updateRequest 0
  writeCounter nvm3 .firmwareSize 0

def init : Access Nat := do
  let num_objects := countObjects (← get)
  if num_objects < 9 then writeDefaults nvm3
  pure 0

end

def typeAt (store : Store) (key : Key) : Option ObjectType := (store.lookup key).map Object.type

def required : List (AppNvmKeys × ObjectType) := [
  (.startCounter, .counter), (.resetCounter, .counter), (.timestamp, .counter), (.firmwareDownloadCounter, .counter),
  (.bootRequest, .counter), (.updateRequest, .counter), (.firmwareSize, .counter), (.deviceUuid, .data),
  (.configSha256, .data)]

def Provisioned (store : Store) : Prop := ∀ entry ∈ required, typeAt store entry.1.toInt = some entry.2

instance (store : Store) : Decidable (Provisioned store) := inferInstanceAs (Decidable (∀ entry ∈ required, _))

theorem outcome_bind {α β : Type} (first : Access α) (second : α → Access β) (store : Store) :
    outcome (first >>= second) store = match outcome first store with
      | (.ok middle, between) => outcome (second middle) between
      | (.error error, between) => (.error error, between) := by
  simp only [outcome, ExceptT.run_bind]
  cases ran : first.run store with
  | mk result between =>
      simp only [ran, bind, StateT.bind]
      cases result <;> rfl

-- What a program that succeeds has made of the types in the store.
def Leaves (program : Access Unit) (effect : (Key → Option ObjectType) → Key → Option ObjectType) : Prop :=
  ∀ store after, outcome program store = (.ok (), after) → typeAt after = effect (typeAt store)

theorem leaves_then (first second : Access Unit) (earlier later : (Key → Option ObjectType) → Key → Option ObjectType)
    (left : Leaves first earlier) (right : Leaves second later) :
    Leaves (do first; second) fun types => later (earlier types) := by
  intro store after ended
  rw [outcome_bind] at ended
  cases ran : outcome first store with
  | mk result between =>
      cases result with
      | error error => simp [ran] at ended
      | ok value =>
          simp only [ran] at ended
          rw [right between after ended, left store between ran]

theorem checked_leaves (op : Store → Ecode × Store) (effect : (Key → Option ObjectType) → Key → Option ObjectType)
    (done : ∀ store after, op store = (ecodeNvm3Ok, after) → typeAt after = effect (typeAt store)) :
    Leaves (do check (← modifyGet op)) effect := by
  intro store after ended
  apply done store after
  rw [outcome_bind] at ended
  have ran : outcome (modifyGet op) store = (.ok (op store).1, (op store).2) := rfl
  simp only [ran, check] at ended
  split at ended
  · cases ended
  · rename_i same
    obtain ⟨_, rfl⟩ := Prod.mk.inj ended
    exact Prod.ext (not_not.mp same).symm rfl

theorem type_at_insert (store : Store) (key : Key) (object : Object) :
    typeAt (store.insert key object) = Function.update (typeAt store) key (some object.type) := by
  funext other
  by_cases same : other = key
  · subst same
    simp [typeAt]
  · simp [typeAt, same]

section

variable (nvm3 : Nvm3)

theorem erase_all_leaves : Leaves (eraseAll nvm3) fun _ _ => none := by
  apply checked_leaves
  intro store after erased
  rw [nvm3.erased store after erased]
  rfl

theorem write_counter_leaves (key : AppNvmKeys) (value : BitVec 32) :
    Leaves (writeCounter nvm3 key value) fun types => Function.update types key.toInt (some .counter) := by
  apply checked_leaves
  intro store after counted
  rw [nvm3.counted _ _ store after counted, type_at_insert]
  rfl

theorem write_data_leaves (key : AppNvmKeys) (value : List Byte) :
    Leaves (writeData nvm3 key value) fun types => Function.update types key.toInt (some .data) := by
  apply checked_leaves
  intro store after written
  rw [nvm3.written _ _ store after written, type_at_insert]
  rfl

theorem write_defaults_provisions (store after : Store) (ended : outcome (writeDefaults nvm3) store = (.ok (), after)) :
    Provisioned after := by
  have counters := write_counter_leaves nvm3
  have datas := write_data_leaves nvm3
  have leaves := leaves_then _ _ _ _ (erase_all_leaves nvm3) <| leaves_then _ _ _ _ (counters .startCounter 0) <|
    leaves_then _ _ _ _ (counters .resetCounter 0) <| leaves_then _ _ _ _ (counters .timestamp 0) <|
    leaves_then _ _ _ _ (counters .firmwareDownloadCounter 0) <| leaves_then _ _ _ _ (datas .deviceUuid defaultUuid) <|
    leaves_then _ _ _ _ (datas .configSha256 defaultSha256) <| leaves_then _ _ _ _ (counters .bootRequest 0) <|
    leaves_then _ _ _ _ (counters .updateRequest 0) (counters .firmwareSize 0)
  rw [Provisioned, leaves store after ended]
  beta_reduce
  decide

end

theorem provisioned_count (store : Store) (provisioned : Provisioned store) : 9 ≤ countObjects store := by
  have listed : required.map (·.1.toInt) ⊆ store.keys := by
    intro key member
    obtain ⟨entry, needed, rfl⟩ := List.mem_map.mp member
    have held := provisioned entry needed
    have found : (store.lookup entry.1.toInt).isSome := by
      cases object : store.lookup entry.1.toInt with
      | some _ => rfl
      | none => simp [typeAt, object] at held
    exact AList.mem_keys.mp (AList.lookup_isSome.mp found)
  have apart : (required.map (·.1.toInt)).Nodup := by decide
  exact (List.subperm_of_subset apart listed).length_le

theorem init_outcome (nvm3 : Nvm3) (store : Store) :
    outcome (init nvm3) store =
      if countObjects store < 9 then
        match outcome (writeDefaults nvm3) store with
        | (.ok (), after) => (.ok 0, after)
        | (.error error, after) => (.error error, after)
      else (.ok 0, store) := by
  have read : outcome (get : Access Store) store = (.ok store, store) := rfl
  rw [init, outcome_bind, read]
  by_cases few : countObjects store < 9
  · simp only [few, if_true]
    rw [outcome_bind]
    cases outcome (writeDefaults nvm3) store with
    | mk result after => cases result <;> rfl
  · simp only [few, if_false]
    rfl

-- init succeeds only with everything in place, and leaves a store that has it
-- alone.
def InitProvisions (nvm3 : Nvm3) (store : Store) : Prop :=
  (∀ value after, outcome (init nvm3) store = (.ok value, after) → Provisioned after) ∧
    (Provisioned store → outcome (init nvm3) store = (.ok 0, store))

theorem init_provisions (nvm3 : Nvm3) (store : Store) :
    InitProvisions nvm3 store ↔ countObjects store < 9 ∨ Provisioned store := by
  constructor
  · rintro ⟨succeeds, _⟩
    by_cases few : countObjects store < 9
    · exact .inl few
    · exact .inr (succeeds 0 store (by rw [init_outcome, if_neg few]))
  · intro condition
    constructor
    · intro value after ended
      rw [init_outcome] at ended
      split at ended
      · cases ran : outcome (writeDefaults nvm3) store with
        | mk result between =>
            rw [ran] at ended
            cases result with
            | error error => cases ended
            | ok done =>
                cases ended
                exact write_defaults_provisions nvm3 store _ ran
      · rename_i many
        cases ended
        exact condition.resolve_left many
    · intro provisioned
      rw [init_outcome, if_neg (Nat.not_lt.mpr (provisioned_count store provisioned))]

-- A driver whose calls all succeed.
def Nvm3.ideal : Nvm3 where
  eraseAll := fun _ => (ecodeNvm3Ok, ∅)
  writeCounter := fun key value store => (ecodeNvm3Ok, store.insert key (.counter value))
  writeData := fun key bytes store => (ecodeNvm3Ok, store.insert key (.data bytes))
  erased := fun _ _ same => (Prod.mk.inj same).2.symm
  counted := fun _ _ _ _ same => (Prod.mk.inj same).2.symm
  written := fun _ _ _ _ same => (Prod.mk.inj same).2.symm

-- All of the defaults but the last one, which an interrupted init did not
-- write, and a network name stored since.
def interrupted : Store :=
  ((required.filter fun entry => entry.1 ≠ .firmwareSize).map fun entry => (⟨entry.1.toInt, match entry.2 with
    | .counter => .counter 0
    | .data => .data []⟩ : Sigma fun _ : Key => Object)).toAList.insert AppNvmKeys.wifiSsid.toInt (.data [])

theorem interrupted_init_accepted :
    outcome (init .ideal) interrupted = (.ok 0, interrupted) ∧
      typeAt interrupted AppNvmKeys.firmwareSize.toInt = none := by
  rw [init_outcome, if_neg (by decide)]
  exact ⟨rfl, by decide⟩

end Miso.Nvm
