/-
  DoipPlayground.VirtualEcu.Uds
  ─────────────────────────────
  **UDS REQUESTS AND OUTCOMES** (`uds.py`).

  A request is the payload of a Diagnostic Message with its addresses.
  Handlers leave by returning or by raising; `Result` has one constructor
  for each way out.
-/
import DoipPlayground.Lib.Bytes

namespace DoipPlayground.VirtualEcu

open Wire

/-! ## §1. Service identifiers and negative response codes. -/

def sidDiagnosticSessionControl : UInt8 := 0x10
def sidEcuReset : UInt8 := 0x11
def sidReadDataByIdentifier : UInt8 := 0x22
def sidSecurityAccess : UInt8 := 0x27
def sidWriteDataByIdentifier : UInt8 := 0x2E
def sidRoutineControl : UInt8 := 0x31
def sidTesterPresent : UInt8 := 0x3E
def sidNegativeResponse : UInt8 := 0x7F

def nrcGeneralReject : UInt8 := 0x10
def nrcServiceNotSupported : UInt8 := 0x11
def nrcSubFunctionNotSupported : UInt8 := 0x12
def nrcIncorrectMessageLength : UInt8 := 0x13
def nrcResponseTooLong : UInt8 := 0x14
def nrcBusyRepeatRequest : UInt8 := 0x21
def nrcConditionsNotCorrect : UInt8 := 0x22
def nrcRequestSequenceError : UInt8 := 0x24
def nrcRequestOutOfRange : UInt8 := 0x31
def nrcSecurityAccessDenied : UInt8 := 0x33
def nrcInvalidKey : UInt8 := 0x35
def nrcExceededNumberOfAttempts : UInt8 := 0x36
def nrcResponsePending : UInt8 := 0x78
def nrcServiceNotSupportedInSession : UInt8 := 0x7F

/-- Services whose byte 1 is a sub-function. -/
def subFunctionServices : List UInt8 :=
  [0x10, 0x11, 0x19, 0x27, 0x28, 0x2C, 0x31, 0x3E, 0x83, 0x85, 0x86, 0x87]

/-- Codes never sent in reply to a functionally addressed request. -/
def functionalSuppressedNrcs : List UInt8 :=
  [nrcServiceNotSupported, nrcSubFunctionNotSupported, nrcRequestOutOfRange,
   nrcServiceNotSupportedInSession]

/-- The DID of the active diagnostic session. -/
def didActiveDiagnosticSession : Nat := 0xF186

/-! ## §2. Requests. -/

/-- One inbound request without its DoIP framing. -/
structure UdsRequest where
  raw : Bytes
  sourceAddr : Nat
  targetAddr : Nat
  functional : Bool := false
  deriving DecidableEq, Repr

namespace UdsRequest

variable (r : UdsRequest)

/-- The service identifier.  An empty request has -1, which is no service
and goes on the wire as 0xFF. -/
def sid : UInt8 := r.raw.headD 0xFF

/-- Everything after the SID. -/
def data : Bytes := r.raw.drop 1

def hasSubFunction : Bool := subFunctionServices.contains r.sid

/-- Byte 1 without bit 7, for services that have a sub-function. -/
def subFunction : Option Nat :=
  if r.hasSubFunction then (r.raw[1]?).map (fun b => (b &&& 0x7F).toNat) else none

/-- suppressPosRspMsgIndicationBit: bit 7 of the sub-function. -/
def suppressPosRsp : Bool :=
  r.hasSubFunction && ((r.raw[1]?).map (fun b => b &&& 0x80 != 0)).getD false

/-- Every DID of a request, two bytes each. -/
def didsOf : Bytes → List Nat
  | a :: b :: rest => fromBytes [a, b] :: didsOf rest
  | _ => []

def dids : List Nat := didsOf r.data

/-- `SID | 0x40` followed by the payload. -/
def positive (payload : Bytes) : Bytes := (r.sid ||| 0x40) :: payload

variable {r} in
/-- The second byte of a request for a service with sub-functions is one. -/
theorem subFunction_eq (hsid : subFunctionServices.contains r.sid = true)
    (hlen : 2 ≤ r.raw.length) : r.subFunction = some (r.subFunction.getD 0) := by
  unfold subFunction hasSubFunction
  have hbyte : r.raw[1]? ≠ none := by
    rw [ne_eq, List.getElem?_eq_none_iff]
    omega
  obtain ⟨b, hb⟩ := Option.ne_none_iff_exists'.mp hbyte
  rw [hsid, hb]
  rfl

end UdsRequest

/-! ## §3. How a handler ends. -/

/-- The outcome of a handler or of a dispatch. -/
inductive Result where
  /-- Returned response bytes. -/
  | bytes (response : Bytes)
  /-- Returned `NO_RESPONSE`. -/
  | noResponse
  /-- Raised `NegativeResponse`; the SID may be left open. -/
  | negative (nrc : UInt8) (sid : Option UInt8)
  /-- Raised `SuppressResponse`. -/
  | suppress
  /-- Raised `AbortConnectionAfterResponse`. -/
  | abort (response : Bytes)
  /-- Raised anything else. -/
  | error
  deriving DecidableEq, Repr

/-- `ctx.nrc` -/
def UdsRequest.nrc (r : UdsRequest) (code : UInt8) : Result := .negative code (some r.sid)

end DoipPlayground.VirtualEcu
