import Switchboard.Json.Field
import Switchboard.Json.Reader
import Switchboard.Json.Writer
import Switchboard.Options
import Switchboard.Registry.Config
/-!
# Options and limits as JSON

Every member may be left out and then has its default, with one exception: save data has to say of
what sort it is, and holds data unless it is `none`.
-/

namespace Switchboard

open Switchboard.Json (ofUInt32 ofUInt64 ofBytes orDefault)

namespace ProxyOptions

def fieldNames : List String := ["type", "host", "port"]

def toJson (proxy : ProxyOptions) : Json :=
  .object (fieldNames.zip
    [.string (Enumerated.name proxy.kind), .string proxy.host, ofUInt32 proxy.port])

def ofJson? (value : Json) : Option ProxyOptions := do
  match ← value.fields? fieldNames with
  | [kind, host, port] =>
    return {
      kind := ← orDefault Json.choice? .none kind
      host := ← orDefault Json.text? "" host
      port := ← orDefault Json.uint32? 0 port }
  | _ => none

end ProxyOptions

/-- The sorts of save data. -/
inductive SaveSort where
  | fresh
  | blob
  | secretKey
  deriving DecidableEq, Repr

instance : Enumerated SaveSort where
  all := [.fresh, .blob, .secretKey]
  name
    | .fresh => "none"
    | .blob => "tox_save"
    | .secretKey => "secret_key"

instance : LawfulEnumerated SaveSort := ⟨fun value => by cases value <;> decide, by decide⟩

namespace SaveData

def toJson : SaveData → Json
  | .fresh => .object [("type", .string "none")]
  | .blob bytes => .object [("type", .string "tox_save"), ("data", ofBytes bytes)]
  | .secretKey key => .object [("type", .string "secret_key"), ("data", ofBytes key.bytes)]

/-- Save data of a sort, from its data. -/
def ofData? : SaveSort → Json → Option SaveData
  | .fresh, .null => some .fresh
  | .fresh, _ => none
  | .blob, data => data.bytes?.map .blob
  | .secretKey, data => (data.block? 32).map .secretKey

def ofJson? : Json → Option SaveData
  | .object members => do
    let sort ← (← Json.member? members "type").bind Json.choice?
    match ← Json.member? members "data" with
    | some data => ofData? sort data
    | none => if sort = .fresh then some .fresh else none
  | .array [.string sort, data] => (Enumerated.ofName? sort).bind fun sort => ofData? sort data
  | _ => none

end SaveData

namespace EngineOptions

def fieldNames : List String :=
  ["ipv6_enabled", "udp_enabled", "proxy", "start_port", "end_port", "tcp_port", "save_data"]

def toJson (options : EngineOptions) : Json :=
  .object (fieldNames.zip
    [.bool options.ipv6Enabled, .bool options.udpEnabled, options.proxy.toJson,
      ofUInt32 options.startPort, ofUInt32 options.endPort, ofUInt32 options.tcpPort,
      options.saveData.toJson])

def ofJson? (value : Json) : Option EngineOptions := do
  match ← value.fields? fieldNames with
  | [ipv6, udp, proxy, first, last, tcp, save] =>
    return {
      ipv6Enabled := ← orDefault Json.flag? true ipv6
      udpEnabled := ← orDefault Json.flag? true udp
      proxy := ← orDefault ProxyOptions.ofJson? {} proxy
      startPort := ← orDefault Json.uint32? 0 first
      endPort := ← orDefault Json.uint32? 0 last
      tcpPort := ← orDefault Json.uint32? 0 tcp
      saveData := ← orDefault SaveData.ofJson? .fresh save }
  | _ => none

def encode (options : EngineOptions) : List Char := options.toJson.write

def decode (text : List Char) : Option EngineOptions := (Json.parse text).bind ofJson?

end EngineOptions

namespace Registry.Config

def fieldNames : List String := ["max_sessions", "accumulator_warn_threshold"]

def toJson (config : Config) : Json :=
  .object (fieldNames.zip [ofUInt64 config.maxSessions, ofUInt64 config.warnThreshold])

def ofJson? (value : Json) : Option Config := do
  match ← value.fields? fieldNames with
  | [maxSessions, warnThreshold] =>
    return {
      maxSessions := ← orDefault Json.uint64? 4096 maxSessions
      warnThreshold := ← orDefault Json.uint64? 65536 warnThreshold }
  | _ => none

def encode (config : Config) : List Char := config.toJson.write

def decode (text : List Char) : Option Config := (Json.parse text).bind ofJson?

end Registry.Config

end Switchboard
