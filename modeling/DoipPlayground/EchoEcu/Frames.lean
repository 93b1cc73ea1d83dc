/-
  DoipPlayground.EchoEcu.Frames
  ─────────────────────────────
  **FRAMES OF THE ECHO ECU** (the frame helpers of `echo_ecu.py`).
-/
import DoipPlayground.Lib.StreamReader
import DoipPlayground.Lib.Struct

namespace DoipPlayground.EchoEcu

open Wire

/-- `_build` -/
def build (payloadType : Nat) (payload : Bytes) (version : Nat := 0x02) :
    Option Bytes := do
  let inv := 0xFF ^^^ version
  let header ← packBBHI version inv payloadType payload.length
  return header ++ payload

/-- `_read_frame` -/
def readFrame (reader : StreamReader UInt8) :
    Except (StreamReader.Unread UInt8) Bytes × StreamReader UInt8 :=
  match reader.readexactly 8 with
  | (.error e, reader) => (.error e, reader)
  | (.ok hdr, reader) =>
      let plen := fromBytes ((hdr.drop 4).take 4)
      if plen = 0 then (.ok hdr, reader)
      else
        match reader.readexactly plen with
        | (.error e, reader) => (.error e, reader)
        | (.ok payload, reader) => (.ok (hdr ++ payload), reader)

/-- `_ptype` -/
def ptype (raw : Bytes) : Nat := fromBytes ((raw.drop 2).take 2)

/-- `_payload` -/
def payload (raw : Bytes) : Bytes := raw.drop 8

end DoipPlayground.EchoEcu
