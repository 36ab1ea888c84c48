import TboxFramework.Library.FrameStream

/-!
# The wire protocol

Requests, responses and events are frames of one shape; only the meaning of the
first word differs. Headers are in native byte order, here that of a
little-endian machine, and carry no tag that tells the three kinds apart.
-/

namespace TboxFramework.Ipc

open FrameStream

set_option autoImplicit false

abbrev Bytes := List UInt8

inductive IpcError
  | kOk
  | kSocketFailed
  | kBindListenFailed
  | kFrameInvalid
  | kTransportFailed
  | kSerializationFailed
  | kHandlerFailed
  | kSubscriptionFailed
  deriving DecidableEq, Repr

def IpcError.code : IpcError → Int32
  | .kOk => 0
  | .kSocketFailed => 301
  | .kBindListenFailed => 302
  | .kFrameInvalid => 303
  | .kTransportFailed => 304
  | .kSerializationFailed => 305
  | .kHandlerFailed => 306
  | .kSubscriptionFailed => 307

def encodeRequest (methodId : UInt32) (paramsJson : Bytes) : Bytes := frame methodId paramsJson

def encodeResponse (statusCode : Int32) (responseJson : Bytes) : Bytes :=
  frame statusCode.toUInt32 responseJson

def encodeEvent (eventType : UInt32) (payloadJson : Bytes) : Bytes := frame eventType payloadJson

/-- `readRequest`, `readResponse` and `readEvent` after some bytes of a frame. -/
def readRequest (maxFrameBytes : UInt32) (got : Bytes) : Reading := readFrame maxFrameBytes got

def readResponse (maxFrameBytes : UInt32) (got : Bytes) : Reading := readFrame maxFrameBytes got

def readEvent (maxFrameBytes : UInt32) (got : Bytes) : Reading := readFrame maxFrameBytes got

/-- What a caller of `call` and a handler exchange: a status and a body. -/
abbrev Result := Int32 × Bytes

def makeTransportError (error : IpcError) : Result := (-error.code, [])

/-- The result that `connectionLoop` makes of a handler's run; none stands for an
exception and for an empty handler. -/
def handlerResult : Option Bytes → Result
  | some responseJson => (0, responseJson)
  | none => (IpcError.kHandlerFailed.code, [])

end TboxFramework.Ipc
