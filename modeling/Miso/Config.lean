import Mathlib.Logic.Function.Basic
import Miso.Base.Json

set_option autoImplicit false

namespace Miso.Config

open Base (Byte Buffer JsonType ascii sameStart strncpy memset)

inductive Setting where
  | wifiSsid | wifiKey
  | lwm2mEndpoint | lwm2mUri | lwm2mPskId | lwm2mPskKey
  | ntpUrl
  | mqttUri | mqttDeviceId | mqttPskId | mqttPskKey
  | httpUri | httpSigUri | httpKey
  | configUri
deriving DecidableEq

def Setting.sizeof : Setting → Nat
  | .wifiSsid | .wifiKey => 32
  | .lwm2mEndpoint | .lwm2mUri | .lwm2mPskId => 128
  | .lwm2mPskKey => 64
  | .ntpUrl => 64
  | .mqttUri | .mqttDeviceId | .mqttPskId => 128
  | .mqttPskKey => 64
  | .httpUri | .httpSigUri => 128
  | .httpKey => 256
  | .configUri => 128

abbrev Store := (setting : Setting) → Buffer setting.sizeof

def Store.zero : Store := fun setting => .zero setting.sizeof

def Store.put (store : Store) (setting : Setting) (buffer : Buffer setting.sizeof) : Store :=
  Function.update store setting buffer

inductive Setter where
  | wifiSsid | wifiKey | lwm2mEndpoint | lwm2mUri | lwm2mPskId | lwm2mPskKey | ntpUrl | mqttUri | mqttDeviceId
  | mqttPskId | mqttPskKey | httpUri | configUri | httpSigUri | httpSigKey
deriving DecidableEq

def Setter.buffer : Setter → Setting
  | .wifiSsid => .wifiSsid
  | .wifiKey => .wifiKey
  | .lwm2mEndpoint => .lwm2mEndpoint
  | .lwm2mUri => .lwm2mUri
  | .lwm2mPskId => .lwm2mPskId
  | .lwm2mPskKey => .lwm2mPskKey
  | .ntpUrl => .ntpUrl
  | .mqttUri => .mqttUri
  | .mqttDeviceId => .mqttDeviceId
  | .mqttPskId => .mqttPskId
  | .mqttPskKey => .mqttPskKey
  | .httpUri => .httpUri
  | .configUri => .configUri
  | .httpSigUri => .httpSigUri
  | .httpSigKey => .httpKey

-- Every setter is strncpy with the full size of its buffer.
def configSet (store : Store) (setter : Setter) (argument : List Byte) : Option Store :=
  (strncpy (store setter.buffer) argument setter.buffer.sizeof).map (store.put setter.buffer)

-- There is no getter for the NTP address.
inductive Getter where
  | wifiSsid | wifiKey | lwm2mUri | lwm2mPskId | lwm2mPskKey | mqttUrl | mqttDeviceId | lwm2mEndpoint | mqttPskId
  | mqttPskKey | httpUri | httpSigUri | httpSigKey | configUri
deriving DecidableEq

def Getter.buffer : Getter → Setting
  | .wifiSsid => .wifiSsid
  | .wifiKey => .wifiKey
  | .lwm2mUri => .lwm2mUri
  | .lwm2mPskId => .lwm2mPskId
  | .lwm2mPskKey => .lwm2mPskKey
  | .mqttUrl => .mqttUri
  | .mqttDeviceId => .mqttDeviceId
  | .lwm2mEndpoint => .lwm2mEndpoint
  | .mqttPskId => .mqttPskId
  | .mqttPskKey => .mqttPskKey
  | .httpUri => .httpUri
  | .httpSigUri => .httpSigUri
  | .httpSigKey => .httpKey
  | .configUri => .configUri

def configGet (store : Store) (getter : Getter) : Buffer getter.buffer.sizeof := store getter.buffer

def copyString {capacity : Nat} (dest : Buffer capacity) (dest_len : Nat) (src : List Byte) (src_len : Nat) :
    Option (Buffer capacity) :=
  (memset dest 0 dest_len).bind fun cleared => strncpy cleared src (min src_len dest_len)

structure JsmnTok where
  type : JsonType
  start : Nat
  stop : Nat
  parent : Int
deriving DecidableEq

-- A token as the loop reads it: src is the pointer read_buffer + start.
structure Token where
  type : JsonType
  parent : Int
  src : List Byte
  src_len : Nat
deriving DecidableEq

def JsmnTok.read (read_buffer : List Byte) (token : JsmnTok) : Token where
  type := token.type
  parent := token.parent
  src := read_buffer.drop token.start
  src_len := token.stop - token.start

inductive Slot where
  | wifi | lwm2m | ntp | lwm2mPsk | lwm2mCert | ntpUrl | ntpUrlArray | mqtt | mqttPsk | mqttCert | http | config
deriving DecidableEq

abbrev Keys := Slot → Int

def Keys.unset : Keys := fun _ => -128

structure Loop where
  keys : Keys
  store : Store

def rootMember (json_key : List Byte) : Option Slot :=
  if sameStart json_key "wifi" then some .wifi
  else if sameStart json_key "lwm2m" then some .lwm2m
  else if sameStart json_key "ntp" then some .ntp
  else if sameStart json_key "mqtt" then some .mqtt
  else if sameStart json_key "http" then some .http
  else if sameStart json_key "config" then some .config
  else none

def Keys.branch (keys : Keys) (token : Token) : Option Slot :=
  if keys .wifi + 1 = token.parent ∧ token.type = .string then some .wifi
  else if keys .lwm2m + 1 = token.parent ∧ token.type = .string then some .lwm2m
  else if keys .ntp + 1 = token.parent ∧ token.type = .string then some .ntp
  else if keys .ntpUrl = token.parent ∧ token.type = .array then some .ntpUrl
  else if keys .ntpUrlArray = token.parent ∧ token.type = .string then some .ntpUrlArray
  else if keys .mqtt + 1 = token.parent ∧ token.type = .string then some .mqtt
  else if keys .lwm2mPsk + 1 = token.parent ∧ token.type = .string then some .lwm2mPsk
  else if keys .mqttPsk + 1 = token.parent ∧ token.type = .string then some .mqttPsk
  else if keys .http + 1 = token.parent ∧ token.type = .string then some .http
  else if keys .config + 1 = token.parent ∧ token.type = .string then some .config
  else none

-- What a member name of a section leads to: dest_ptr and dest_len, or an index
-- to remember.
inductive Action where
  | copyTo (setting : Setting) (dest_len : Nat)
  | remember (slot : Slot)
  | ignore
deriving DecidableEq

def wifiMember (json_key : List Byte) : Action :=
  if sameStart json_key "ssid" then .copyTo .wifiSsid Setting.wifiKey.sizeof
  else if sameStart json_key "key" then .copyTo .wifiKey Setting.wifiKey.sizeof
  else .ignore

def lwm2mMember (json_key : List Byte) : Action :=
  if sameStart json_key "uri" || sameStart json_key "url" then .copyTo .lwm2mUri Setting.lwm2mUri.sizeof
  else if sameStart json_key "psk" then .remember .lwm2mPsk
  else if sameStart json_key "cert" then .remember .lwm2mCert
  else if sameStart json_key "bootstrap" then .ignore
  else if sameStart json_key "endpoint" || sameStart json_key "device" then
    .copyTo .lwm2mEndpoint Setting.lwm2mEndpoint.sizeof
  else .ignore

def mqttMember (json_key : List Byte) : Action :=
  if sameStart json_key "uri" || sameStart json_key "url" then .copyTo .mqttUri Setting.mqttUri.sizeof
  else if sameStart json_key "device" then .copyTo .mqttDeviceId Setting.mqttDeviceId.sizeof
  else if sameStart json_key "username" then .ignore
  else if sameStart json_key "password" then .ignore
  else if sameStart json_key "psk" then .remember .mqttPsk
  else if sameStart json_key "cert" then .remember .mqttCert
  else .ignore

-- The MQTT section also tests that dest_len is not 0.
def Action.nonzero : Action → Action
  | .copyTo _ 0 => .ignore
  | action => action

def pskMember (id key : Setting) (json_key : List Byte) : Action :=
  if sameStart json_key "id" then .copyTo id id.sizeof
  else if sameStart json_key "key" then .copyTo key key.sizeof
  else .ignore

def lwm2mPskMember (json_key : List Byte) : Action := pskMember .lwm2mPskId .lwm2mPskKey json_key

def mqttPskMember (json_key : List Byte) : Action := pskMember .mqttPskId .mqttPskKey json_key

-- The first test of the HTTP section is not part of the chain after it.
def httpMember (json_key : List Byte) : Action :=
  let dest : Action :=
    if sameStart json_key "uri" || sameStart json_key "url" then .copyTo .httpUri Setting.httpUri.sizeof else .ignore
  if sameStart json_key "sig" || sameStart json_key "sig_uri" then .copyTo .httpSigUri Setting.httpSigUri.sizeof
  else if sameStart json_key "key" then .copyTo .httpKey Setting.httpKey.sizeof
  else if sameStart json_key "cert" then dest
  else if sameStart json_key "endpoint" || sameStart json_key "device" then dest
  else dest

def configMember (json_key : List Byte) : Action :=
  if sameStart json_key "uri" || sameStart json_key "url" then .copyTo .configUri Setting.configUri.sizeof
  else if sameStart json_key "psk" then .ignore
  else if sameStart json_key "cert" then .ignore
  else if sameStart json_key "endpoint" || sameStart json_key "device" then .ignore
  else .ignore

def memberAction : Slot → List Byte → Action
  | .wifi, json_key => wifiMember json_key
  | .lwm2m, json_key => lwm2mMember json_key
  | .mqtt, json_key => (mqttMember json_key).nonzero
  | .lwm2mPsk, json_key => lwm2mPskMember json_key
  | .mqttPsk, json_key => mqttPskMember json_key
  | .http, json_key => httpMember json_key
  | .config, json_key => configMember json_key
  | .ntp, _ | .ntpUrl, _ | .ntpUrlArray, _ | .lwm2mCert, _ | .mqttCert, _ => .ignore

def Loop.remember (loop : Loop) (slot : Slot) (i : Nat) : Loop :=
  { loop with keys := Function.update loop.keys slot i }

-- The section branches read json_tokens[i + 1] whatever the name was. Past the
-- last token there is nothing to read.
def applyMember (i : Nat) (next : Option Token) (action : Action) (loop : Loop) : Option Loop :=
  next.bind fun value => match action with
    | .copyTo setting dest_len =>
        if value.type = .string then
          (copyString (loop.store setting) dest_len value.src value.src_len).map fun buffer =>
            { loop with store := loop.store.put setting buffer }
        else some loop
    | .remember slot => some (loop.remember slot i)
    | .ignore => some loop

def iteration (i : Nat) (token : Token) (next : Option Token) (loop : Loop) : Option Loop :=
  if token.parent = 0 ∧ token.type = .string then
    some (match rootMember token.src with
      | some slot => loop.remember slot i
      | none => loop)
  else match loop.keys.branch token with
    | none => some loop
    | some .ntp => some (if sameStart token.src "url" then loop.remember .ntpUrl i else loop)
    | some .ntpUrl => some (loop.remember .ntpUrlArray i)
    | some .ntpUrlArray =>
        (strncpy (loop.store .ntpUrl) token.src token.src_len).map fun buffer =>
          { loop with store := loop.store.put .ntpUrl buffer }
    | some slot => applyMember i next (memberAction slot token.src) loop

def tokenLoop (i : Nat) : List Token → Loop → Option Loop
  | [], loop => some loop
  | token :: rest, loop => (iteration i token rest.head? loop).bind (tokenLoop (i + 1) rest)

inductive FResult where
  | ok | notEnoughCore | error (code : Nat)
deriving DecidableEq

inductive Block where
  | readBuffer | jsonTokens
deriving DecidableEq

inductive LoadCall where
  | fOpen | fRead | fClose
  | pvPortMalloc (block : Block)
  | vPortFree (block : Block)
deriving DecidableEq

-- What the calls of one load return. The parser counts the tokens of the text
-- first and then fills the array it is given.
structure LoadEnv where
  fOpen : FResult
  fSize : Nat
  readBlock : Bool
  fRead : FResult
  text : List Byte
  jsmnCount : List Byte → Int
  tokenBlock : Bool
  jsmnTokens : List Byte → Except Int (List JsmnTok)

-- The conditions the steps of the load are taken under, and the blocks that
-- are there at its end.
def LoadEnv.asks (env : LoadEnv) : Bool := env.fOpen = .ok && env.fSize > 0

def LoadEnv.readBuffer (env : LoadEnv) : Bool := env.asks && env.readBlock

def LoadEnv.reads (env : LoadEnv) : Bool := env.fOpen = .ok && (!env.asks || env.readBuffer)

def LoadEnv.parses (env : LoadEnv) : Bool := env.reads && env.fRead = .ok

def LoadEnv.wants (env : LoadEnv) : Bool := env.parses && env.jsmnCount env.text > 0

def LoadEnv.jsonTokens (env : LoadEnv) : Bool := env.wants && env.tokenBlock

-- The parse and the loop. A positive count without a token array is read
-- through a null pointer.
def parseConfig (env : LoadEnv) (store : Store) : Option Store :=
  if env.jsmnCount env.text > 0 then
    if env.tokenBlock then
      match env.jsmnTokens env.text with
      | .ok tokens => (tokenLoop 0 (tokens.map (·.read env.text)) ⟨.unset, store⟩).map Loop.store
      | .error _ => some store
    else none
  else some store

def LoadEnv.calls (env : LoadEnv) : List LoadCall :=
  [.fOpen] ++ (if env.asks then [.pvPortMalloc .readBuffer] else []) ++ (if env.reads then [.fRead] else []) ++
    (if env.wants then [.pvPortMalloc .jsonTokens] else []) ++ [.fClose] ++
    (if env.jsonTokens then [.vPortFree .jsonTokens] else []) ++ (if env.readBuffer then [.vPortFree .readBuffer] else [])

-- The file is closed at the end whichever steps were taken.
def misoLoadConfig (env : LoadEnv) (store : Store) : Option (Store × List LoadCall) :=
  (if env.parses then parseConfig env store else some store).map fun loaded => (loaded, env.calls)

theorem load_store (env : LoadEnv) (store : Store) :
    (misoLoadConfig env store).map Prod.fst = if env.parses then parseConfig env store else some store := by
  simp [misoLoadConfig, Option.map_map, Function.comp_def]

end Miso.Config
