import Miso.SimpleLink

set_option autoImplicit false

namespace Miso

open Base (Fallible Script callWhile errdefer deferred ignoring lifted fail zoom)

def mbedtlsOk : Int := 0
def mbedtlsNok : Int := -1
def errCtrDrbgEntropySourceFailed : Int := -0x0034
def errSslWantRead : Int := -0x6900
def errSslWantWrite : Int := -0x6880

def isWant (ret : Int) : Bool := ret ≠ 0 ∧ (ret = errSslWantWrite ∨ ret = errSslWantRead)

inductive SecurityMode where
  | noSec
  | psk
  | certificateEc
  | certificateRsa
deriving DecidableEq

-- The steps of TlsContext.init, each with the calls of its block that return
-- nothing.
inductive InitStep where
  | configDefaults
  | confMaxFragLen
  | ctrDrbgSeed
  | confGroups
  | confCiphersuites
  | confVersion
  | confCid
  | authCallback
  | setup
  | ctrDrbgRandom
  | setCid
  | setTimerCb
  | setBio
deriving DecidableEq

inductive TlsEvent where
  | messup
  | cleanup
  | customInit
  | step (step : InitStep)
  | handshake (code : Int)
deriving DecidableEq

-- The credentials, the certificates and the mbedTLS contexts are behind the
-- calls whose codes are given; trace, newest first, is for the specification.
structure TlsContext where
  mode : SecurityMode
  customInitCallback : Bool
  conn : SimpleLinkConnection
  trace : List TlsEvent

structure Codes where
  mbedtls : InitStep → Int
  auth : Bool
  net : Network
  handshake : Script isWant

namespace TlsContext

def log (event : TlsEvent) : StateM TlsContext Unit := modify fun ctx => { ctx with trace := event :: ctx.trace }

def onConn {α : Type} (body : Fallible NetError SimpleLinkConnection α) : Fallible NetError TlsContext α :=
  zoom conn (fun ctx conn => { ctx with conn := conn }) body

-- A custom cleanup callback runs in the place of the standard one.
def cleanup : StateM TlsContext Unit := log .cleanup

def deinit : StateM TlsContext Unit := cleanup

-- What a step leaves in ret, or the error it returns at once.
def stepResult (codes : Codes) (mode : SecurityMode) : InitStep → Except NetError Int
  | .ctrDrbgSeed =>
      .ok (if codes.mbedtls .ctrDrbgSeed = errCtrDrbgEntropySourceFailed then mbedtlsOk else codes.mbedtls .ctrDrbgSeed)
  | .confCiphersuites => match mode with
    | .psk | .certificateEc => .ok mbedtlsOk
    | .noSec | .certificateRsa => .ok mbedtlsNok
  | .authCallback => if codes.auth then .ok mbedtlsOk else .error .authError
  | .confGroups | .confVersion | .setTimerCb | .setBio => .ok mbedtlsOk
  | step => .ok (codes.mbedtls step)

-- Each step runs only if ret is still mbedtls_ok.
def runSteps (codes : Codes) : Int → List InitStep → Fallible NetError TlsContext Int
  | ret, [] => pure ret
  | ret, step :: rest =>
      if ret = mbedtlsOk then do
        lifted (log (.step step))
        let ctx ← lifted get
        match stepResult codes ctx.mode step with
        | .ok ret => runSteps codes ret rest
        | .error failure => fail failure
      else pure ret

def initSteps (mode : SecurityMode) (protocol : Proto) : List InitStep :=
  [.configDefaults, .confMaxFragLen, .ctrDrbgSeed] ++ (if mode = .certificateEc then [.confGroups] else []) ++
    [.confCiphersuites, .confVersion] ++ (if protocol.isDtls then [.confCid] else []) ++ [.authCallback, .setup] ++
    (if protocol.isDtls then [.ctrDrbgRandom, .setCid] else []) ++ [.setTimerCb, .setBio]

-- A custom init callback returns nothing and leaves ret as it was.
def runInit (codes : Codes) (protocol : Proto) : Fallible NetError TlsContext Int := do
  let ctx ← lifted get
  if ctx.customInitCallback then do
    lifted (log .customInit)
    pure mbedtlsNok
  else do
    lifted (log .messup)
    runSteps codes mbedtlsOk (initSteps ctx.mode protocol)

def init (codes : Codes) (protocol : Proto) : Fallible NetError TlsContext Unit := do
  if protocol.isSecure then do
    let ret ← runInit codes protocol
    if ret ≠ mbedtlsOk then fail .initError else pure ()
  else fail .noSec

def handshake (codes : Codes) : StateM TlsContext Int :=
  callWhile isWant (fun code ctx => { ctx with trace := .handshake code :: ctx.trace }) errSslWantWrite codes.handshake.codes

-- ret is not looked at after the loop, so neither errdefer block ever runs for
-- a failed handshake.
def openTls (codes : Codes) (uri : Uri) (localPort : Option (BitVec 16)) : Fallible NetError TlsContext Unit := do
  init codes uri.scheme.getProtocol
  errdefer deinit do
    onConn (SimpleLinkConnection.openConn codes.net uri localPort)
    errdefer (ignoring (onConn (SimpleLinkConnection.close codes.net))) do
      let _ret ← lifted (handshake codes)
      pure ()

def close (codes : Codes) : Fallible NetError TlsContext Unit :=
  deferred deinit (onConn (SimpleLinkConnection.close codes.net))

end TlsContext

end Miso
