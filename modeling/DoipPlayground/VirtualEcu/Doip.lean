/-
  DoipPlayground.VirtualEcu.Doip
  ──────────────────────────────
  **DOIP FRAMES** (`doip.py`).

  An 8-byte header (version, its complement, payload type, payload length)
  and the payload.
-/
import DoipPlayground.Lib.Bytes

namespace DoipPlayground.VirtualEcu

open Wire

/-! ## §1. Constants. -/

def ver : UInt8 := 0x02

def acceptedVersions : List UInt8 := [0x02, 0x03]

def ptHeaderNack : Nat := 0x0000
def ptRoutingActRequest : Nat := 0x0005
def ptRoutingActResponse : Nat := 0x0006
def ptAliveCheckRequest : Nat := 0x0007
def ptAliveCheckResponse : Nat := 0x0008
def ptDiagnosticMessage : Nat := 0x8001
def ptDiagnosticPositiveAck : Nat := 0x8002
def ptDiagnosticNegativeAck : Nat := 0x8003

def nackInvalidSourceAddress : UInt8 := 0x02
def nackUnknownTargetAddress : UInt8 := 0x03
def nackMessageTooLarge : UInt8 := 0x04

def nackGenericIncorrectPattern : UInt8 := 0x00
def nackGenericUnknownPayloadType : UInt8 := 0x01
def nackGenericMessageTooLarge : UInt8 := 0x02
def nackGenericInvalidPayloadLength : UInt8 := 0x04

/-- The shortest Routing Activation Request payload. -/
def routingActRequestMinLen : Nat := 7

/-! ## §2. Frames. -/

/-- Wrap a payload in the generic header. -/
def buildFrame (payloadType : Nat) (payload : Bytes) (version : UInt8) : Bytes :=
  [version, 0xFF ^^^ version] ++ packH payloadType ++ packI payload.length ++ payload

/-- Payload type of a complete frame. -/
def ptype (raw : Bytes) : Nat := fromBytes ((raw.drop 2).take 2)

/-- Payload length a header declares. -/
def declaredLen (raw : Bytes) : Nat := fromBytes ((raw.drop 4).take 4)

/-- Payload of a complete frame. -/
def payload (raw : Bytes) : Bytes := raw.drop 8

/-- The version and its complement; `none` for an acceptable header.  TCP
has no payload type that admits the version wildcard and checks the type
itself. -/
def validateHeader (raw : Bytes) : Option UInt8 :=
  let ver := raw.headD 0
  let inv := (raw.drop 1).headD 0
  if inv ≠ 0xFF ^^^ ver then some nackGenericIncorrectPattern
  else if !acceptedVersions.contains ver then some nackGenericIncorrectPattern
  else none

theorem ptype_buildFrame {pt : Nat} (h : pt < 65536) (data : Bytes) (v : UInt8) :
    ptype (buildFrame pt data v) = pt := by
  show fromBytes (packH pt) = pt
  exact fromBytes_packH h

theorem declaredLen_buildFrame (pt : Nat) {data : Bytes} (h : data.length < 4294967296)
    (v : UInt8) : declaredLen (buildFrame pt data v) = data.length := by
  show fromBytes (packI data.length) = data.length
  exact fromBytes_packI h

theorem payload_buildFrame (pt : Nat) (data : Bytes) (v : UInt8) :
    payload (buildFrame pt data v) = data := rfl

end DoipPlayground.VirtualEcu
