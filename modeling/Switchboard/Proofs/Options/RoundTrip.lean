import Switchboard.Options.Wire
import Switchboard.Proofs.Json.Field
/-!
# Options and limits read back

The options of an engine and the limits of a registry are read back from their texts. Members may
be removed from such a text, at the top and inside the proxy: what is then read is the same but for
the removed fields, and these have their defaults (`partial_round_trip`).

All three records are objects of distinct names with one value each, so what is left of the fields
after a removal is found once for all of them (`fields?_without`). Save data is no such record: it
has one form or the other, and is removed as a whole or not at all.
-/

namespace Switchboard

namespace Json

/-! ## Removing members -/

/-- An object without the members of some names. -/
def without (removed : String → Bool) : Json → Json
  | .object members => .object (members.filter fun member => !removed member.1)
  | value => value

def within (name : String) (change : Json → Json) : Json → Json
  | .object members =>
    .object (members.map fun member =>
      if member.1 = name then (member.1, change member.2) else member)
  | value => value

variable {levels : Nat} {value : Json} (removed : String → Bool)

private theorem without_nothing (value : Json) : value.without (fun _ => false) = value := by
  cases value with
  | object members => exact congrArg object (List.filter_eq_self.mpr fun _ _ => rfl)
  | _ => rfl

private theorem plain_without (plain : Plain levels value) :
    Plain levels (value.without removed) := by
  cases plain with
  | object plain => exact .object fun member h => plain member ((List.mem_filter.mp h).1)
  | null => exact .null _
  | bool => exact .bool _ _
  | natural _ fits => exact .natural _ fits
  | string => exact .string _ _
  | array plain => exact .array plain

/-- Of a member of a record that may have been removed, either nothing is found or its value. -/
theorem member?_without {members : List (String × Json)}
    (distinct : (members.map Prod.fst).Nodup) {member : String × Json} (h : member ∈ members) :
    member? (members.filter fun member => !removed member.1) member.1
      = some (bif removed member.1 then none else some member.2) := by
  cases hremoved : removed member.1 with
  | true =>
    have gone : (members.filter fun member => !removed member.1).filter (·.1 == member.1) = [] := by
      refine List.filter_eq_nil_iff.mpr fun other kept same => ?_
      have left := (List.mem_filter.mp kept).2
      rw [eq_of_beq same, hremoved] at left
      cases left
    rw [member?, gone]
    rfl
  | false =>
    have left : member ∈ members.filter fun member => !removed member.1 :=
      List.mem_filter.mpr ⟨h, by rw [hremoved]; rfl⟩
    exact member?_of_mem (distinct.sublist (List.filter_sublist.map _)) left

theorem fields?_without {names : List String} (values : List Json) (distinct : names.Nodup)
    (length : names.length = values.length) :
    ((object (names.zip values)).without removed).fields? names
      = some ((names.zip values).map fun member =>
          bif removed member.1 then none else some member.2) := by
  have fst := List.map_fst_zip (Nat.le_of_eq length)
  have distinct' : ((names.zip values).map Prod.fst).Nodup := by rw [fst]; exact distinct
  have fields := mapM_map_of_forall fun member h => member?_without removed distinct' h
  rwa [fst] at fields

/-- A field that may have been removed reads as its default or as what was written. -/
theorem orDefault_removed {α : Type} {read : Json → Option α} {default result : α}
    (back : read value = some result) (gone : Bool) :
    orDefault read default (bif gone then none else some value)
      = some (bif gone then default else result) := by
  cases gone with
  | true => rfl
  | false => exact back

@[simp] theorem text?_string (text : String) : (string text).text? = some text := rfl

@[simp] theorem choice?_name {α : Type} [Enumerated α] [LawfulEnumerated α] (value : α) :
    (string (Enumerated.name value)).choice? = some value := Enumerated.ofName?_name value

end Json

open Switchboard.Json (Plain without within ofUInt32 ofUInt64 ofBytes)

/-! ## Proxy -/

namespace ProxyOptions

/-- A proxy with some of its fields put back to their defaults. -/
def reset (removed : String → Bool) (proxy : ProxyOptions) : ProxyOptions where
  kind := bif removed "type" then ({} : ProxyOptions).kind else proxy.kind
  host := bif removed "host" then ({} : ProxyOptions).host else proxy.host
  port := bif removed "port" then ({} : ProxyOptions).port else proxy.port

theorem plain_toJson (levels : Nat) (proxy : ProxyOptions) : Plain (levels + 1) proxy.toJson := by
  refine .object fun member h => ?_
  simp only [fieldNames, List.zip_cons_cons, List.zip_nil_left, List.mem_cons, List.not_mem_nil,
    or_false] at h
  rcases h with rfl | rfl | rfl
  · exact .string levels _
  · exact .string levels _
  · exact Json.plain_ofUInt32 levels _

theorem ofJson?_without (proxy : ProxyOptions) (removed : String → Bool) :
    ofJson? (proxy.toJson.without removed) = some (proxy.reset removed) := by
  have fields := Json.fields?_without removed
    [.string (Enumerated.name proxy.kind), .string proxy.host, ofUInt32 proxy.port]
    (show fieldNames.Nodup by decide) rfl
  simp only [fieldNames, List.zip_cons_cons, List.zip_nil_left, List.map_cons, List.map_nil]
    at fields
  simp only [ofJson?, toJson, fieldNames, List.zip_cons_cons, List.zip_nil_left, fields,
    Option.bind_eq_bind, Option.bind_some, Option.pure_def]
  rw [Json.orDefault_removed (Json.choice?_name _), Json.orDefault_removed (Json.text?_string _),
    Json.orDefault_removed (Json.uint32?_ofUInt32 _)]
  rfl

end ProxyOptions

/-! ## Save data -/

namespace SaveData

theorem plain_toJson (save : SaveData) : Plain 2 save.toJson := by
  cases save with
  | fresh =>
    refine .object fun member h => ?_
    obtain rfl := List.mem_singleton.mp h
    exact .string 1 _
  | blob bytes =>
    refine .object fun member h => ?_
    rcases List.mem_cons.mp h with rfl | h
    · exact .string 1 _
    · obtain rfl := List.mem_singleton.mp h
      exact Json.plain_ofBytes 0 _
  | secretKey key =>
    refine .object fun member h => ?_
    rcases List.mem_cons.mp h with rfl | h
    · exact .string 1 _
    · obtain rfl := List.mem_singleton.mp h
      exact Json.plain_ofBytes 0 _

/-- Save data with data is read back if its data is. -/
theorem ofJson?_pair (sort : SaveSort) {data : Json} {save : SaveData}
    (back : ofData? sort data = some save) :
    ofJson? (.object [("type", .string (Enumerated.name sort)), ("data", data)]) = some save := by
  have distinct : ([("type", Json.string (Enumerated.name sort)), ("data", data)].map
      Prod.fst).Nodup := show ["type", "data"].Nodup by decide
  have hsort := Json.member?_of_mem distinct List.mem_cons_self
  have hdata := Json.member?_of_mem distinct (List.mem_cons_of_mem _ List.mem_cons_self)
  simp only [ofJson?, hsort, hdata, Option.bind_eq_bind, Option.bind_some, Json.choice?_name, back]

theorem ofJson?_toJson (save : SaveData) : ofJson? save.toJson = some save := by
  cases save with
  | fresh => decide
  | blob bytes => exact ofJson?_pair .blob (by simp [ofData?])
  | secretKey key => exact ofJson?_pair .secretKey (by simp [ofData?])

end SaveData

/-! ## Options -/

namespace EngineOptions

/-- Options with some of their fields put back to their defaults, and some fields of the proxy. -/
def reset (removed removedOfProxy : String → Bool) (options : EngineOptions) : EngineOptions where
  ipv6Enabled := bif removed "ipv6_enabled" then ({} : EngineOptions).ipv6Enabled
    else options.ipv6Enabled
  udpEnabled := bif removed "udp_enabled" then ({} : EngineOptions).udpEnabled
    else options.udpEnabled
  proxy := bif removed "proxy" then ({} : EngineOptions).proxy
    else options.proxy.reset removedOfProxy
  startPort := bif removed "start_port" then ({} : EngineOptions).startPort else options.startPort
  endPort := bif removed "end_port" then ({} : EngineOptions).endPort else options.endPort
  tcpPort := bif removed "tcp_port" then ({} : EngineOptions).tcpPort else options.tcpPort
  saveData := bif removed "save_data" then ({} : EngineOptions).saveData else options.saveData

/-- The options with a changed proxy. -/
theorem within_proxy (options : EngineOptions) (change : Json → Json) :
    options.toJson.within "proxy" change = .object (fieldNames.zip
      [.bool options.ipv6Enabled, .bool options.udpEnabled, change options.proxy.toJson,
        ofUInt32 options.startPort, ofUInt32 options.endPort, ofUInt32 options.tcpPort,
        options.saveData.toJson]) := by
  simp [toJson, within, fieldNames]

private theorem plain_within_proxy (options : EngineOptions) {change : Json → Json}
    (plain : Plain 2 (change options.proxy.toJson)) :
    Plain 3 (options.toJson.within "proxy" change) := by
  rw [within_proxy]
  refine .object fun member h => ?_
  simp only [fieldNames, List.zip_cons_cons, List.zip_nil_left, List.mem_cons, List.not_mem_nil,
    or_false] at h
  rcases h with rfl | rfl | rfl | rfl | rfl | rfl | rfl
  · exact .bool 2 _
  · exact .bool 2 _
  · exact plain
  · exact Json.plain_ofUInt32 2 _
  · exact Json.plain_ofUInt32 2 _
  · exact Json.plain_ofUInt32 2 _
  · exact options.saveData.plain_toJson

theorem ofJson?_without (options : EngineOptions) (removed removedOfProxy : String → Bool) :
    ofJson? ((options.toJson.within "proxy" (without removedOfProxy)).without removed)
      = some (options.reset removed removedOfProxy) := by
  have fields := Json.fields?_without removed
    [.bool options.ipv6Enabled, .bool options.udpEnabled,
      options.proxy.toJson.without removedOfProxy, ofUInt32 options.startPort,
      ofUInt32 options.endPort, ofUInt32 options.tcpPort, options.saveData.toJson]
    (show fieldNames.Nodup by decide) rfl
  simp only [fieldNames, List.zip_cons_cons, List.zip_nil_left, List.map_cons, List.map_nil]
    at fields
  simp only [within_proxy, ofJson?, fieldNames, List.zip_cons_cons, List.zip_nil_left, fields,
    Option.bind_eq_bind, Option.bind_some, Option.pure_def,
    Json.orDefault_removed (Json.flag?_bool _), Json.orDefault_removed (Json.uint32?_ofUInt32 _),
    Json.orDefault_removed (ProxyOptions.ofJson?_without _ _),
    Json.orDefault_removed (SaveData.ofJson?_toJson _)]
  rfl

/-- Options with members removed are read as the options with those fields put back. -/
theorem decode_without (options : EngineOptions) (removed removedOfProxy : String → Bool) :
    decode ((options.toJson.within "proxy" (without removedOfProxy)).without removed).write
      = some (options.reset removed removedOfProxy) := by
  have plain := Json.plain_without removed (options.plain_within_proxy
    (Json.plain_without removedOfProxy (options.proxy.plain_toJson 1)))
  rw [decode, Json.parse_write plain (by decide), Option.bind_some, ofJson?_without]

private theorem within_proxy_nothing (options : EngineOptions) :
    options.toJson.within "proxy" (without fun _ => false) = options.toJson := by
  rw [within_proxy, Json.without_nothing, toJson]

theorem parse_encode (options : EngineOptions) :
    Json.parse options.encode = some options.toJson := by
  rw [encode, ← within_proxy_nothing]
  exact Json.parse_write
    (options.plain_within_proxy (Json.plain_without _ (options.proxy.plain_toJson 1))) (by decide)

theorem decode_encode (options : EngineOptions) : decode options.encode = some options := by
  have whole := options.decode_without (fun _ => false) (fun _ => false)
  rwa [within_proxy_nothing, Json.without_nothing] at whole

end EngineOptions

/-! ## Limits -/

namespace Registry.Config

def reset (removed : String → Bool) (config : Config) : Config where
  maxSessions := bif removed "max_sessions" then ({} : Config).maxSessions else config.maxSessions
  warnThreshold := bif removed "accumulator_warn_threshold" then ({} : Config).warnThreshold
    else config.warnThreshold

theorem plain_toJson (config : Config) : Plain 1 config.toJson := by
  refine .object fun member h => ?_
  rcases List.mem_cons.mp h with rfl | h
  · exact Json.plain_ofUInt64 0 _
  · obtain rfl := List.mem_singleton.mp h
    exact Json.plain_ofUInt64 0 _

theorem ofJson?_without (config : Config) (removed : String → Bool) :
    ofJson? (config.toJson.without removed) = some (config.reset removed) := by
  have fields := Json.fields?_without removed
    [ofUInt64 config.maxSessions, ofUInt64 config.warnThreshold]
    (show fieldNames.Nodup by decide) rfl
  simp only [fieldNames, List.zip_cons_cons, List.zip_nil_left, List.map_cons, List.map_nil]
    at fields
  simp only [ofJson?, toJson, fieldNames, List.zip_cons_cons, List.zip_nil_left, fields,
    Option.bind_eq_bind, Option.bind_some, Option.pure_def,
    Json.orDefault_removed (Json.uint64?_ofUInt64 _)]
  rfl

theorem decode_without (config : Config) (removed : String → Bool) :
    decode (config.toJson.without removed).write = some (config.reset removed) := by
  rw [decode, Json.parse_write (Json.plain_without removed config.plain_toJson) (by decide),
    Option.bind_some, ofJson?_without]

theorem parse_encode (config : Config) : Json.parse config.encode = some config.toJson :=
  Json.parse_write config.plain_toJson (by decide)

theorem decode_encode (config : Config) : decode config.encode = some config := by
  rw [decode, parse_encode, Option.bind_some, ← Json.without_nothing config.toJson,
    ofJson?_without]
  rfl

end Registry.Config

/-- The options of an engine and the limits of a registry are read back from their texts. With any
members removed from the object such a text says, and any from the proxy in it, exactly the removed
fields are read as their defaults and all others as they were. -/
theorem partial_round_trip :
    (∀ options : EngineOptions,
      EngineOptions.decode options.encode = some options ∧
      Json.parse options.encode = some options.toJson ∧
      ∀ removed removedOfProxy : String → Bool,
        EngineOptions.decode
            ((options.toJson.within "proxy" (without removedOfProxy)).without removed).write
          = some (options.reset removed removedOfProxy)) ∧
    ∀ config : Registry.Config,
      Registry.Config.decode config.encode = some config ∧
      Json.parse config.encode = some config.toJson ∧
      ∀ removed : String → Bool,
        Registry.Config.decode (config.toJson.without removed).write
          = some (config.reset removed) :=
  ⟨fun options => ⟨options.decode_encode, options.parse_encode, options.decode_without⟩,
    fun config => ⟨config.decode_encode, config.parse_encode, config.decode_without⟩⟩

end Switchboard
