import Switchboard.Notification.Wire
import Switchboard.Simulation.SimulatedEngine
/-!
# Reports on simulated engines

What a simulated engine was told and holds, as JSON, for whoever inspects a simulation.
-/

namespace Switchboard

open Switchboard.Json (ofUInt8 ofUInt32 ofUInt64 ofHex)

def SentChunk.toJson (chunk : SentChunk) : Json :=
  .array [ofUInt32 chunk.friend, ofUInt32 chunk.file,
    (chunk.position.map ofUInt64).getD .null, ofHex chunk.data]

def SentControl.toJson (sent : SentControl) : Json :=
  .array [ofUInt32 sent.friend, ofUInt8 sent.side, ofUInt8 sent.index, ofUInt8 sent.control]

def SimulatedEngine.toJson (released : Bool) (engine : SimulatedEngine) : Json :=
  .object [
    ("registered", .natural engine.registered.length), ("iterations", .natural engine.iterations),
    ("released", .bool released), ("savedata", ofHex engine.savedata), ("name", ofHex engine.name),
    ("status_message", ofHex engine.statusMessage),
    ("bootstrap_nodes", .array (engine.bootstrapNodes.map fun (host, port) =>
      .array [.string host, .natural port.toNat])),
    ("friends", .array (engine.friends.map fun (number, key) =>
      .array [ofUInt32 number, ofHex key.bytes])),
    ("sent_messages", .array (engine.messages.map fun (target, type, message) =>
      .array [ofUInt32 target, ofUInt32 type, ofHex message])),
    ("file_controls", .array (engine.fileControls.map fun (friend, file, control) =>
      .array [ofUInt32 friend, ofUInt32 file, ofUInt32 control])),
    ("legacy_controls", .array (engine.legacyControls.map SentControl.toJson)),
    ("sent_chunks", .array (engine.chunks.map SentChunk.toJson))]

end Switchboard
