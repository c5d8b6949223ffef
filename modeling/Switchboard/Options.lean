import Switchboard.Bytes
import Switchboard.Enumerated
/-!
# Engine options

Callers ask for an engine with wide values. `EngineOptions.plan` checks them against what engines
accept and lays them out as engines take them; settings that are accepted but have no effect are
reported as warnings, in a fixed order.
-/

namespace Switchboard

inductive ProxyKind where
  | none
  | http
  | socks5
  deriving DecidableEq, Repr

instance : Enumerated ProxyKind where
  all := [.none, .http, .socks5]
  name
    | .none => "none"
    | .http => "http"
    | .socks5 => "socks5"

instance : LawfulEnumerated ProxyKind := ⟨fun value => by cases value <;> decide, by decide⟩

structure ProxyOptions where
  kind : ProxyKind := .none
  host : String := ""
  port : UInt32 := 0
  deriving DecidableEq, Repr

/-- The state an engine starts from. -/
inductive SaveData where
  /-- A fresh identity. -/
  | fresh
  /-- A whole state saved before. -/
  | blob (bytes : Bytes)
  /-- Only a secret key. -/
  | secretKey (key : Block 32)
  deriving DecidableEq, Repr

def SaveData.number : SaveData → UInt32
  | .fresh => 0
  | .blob _ => 1
  | .secretKey _ => 2

def SaveData.bytes : SaveData → Bytes
  | .fresh => []
  | .blob bytes => bytes
  | .secretKey key => key.bytes

structure EngineOptions where
  ipv6Enabled : Bool := true
  udpEnabled : Bool := true
  proxy : ProxyOptions := {}
  startPort : UInt32 := 0
  endPort : UInt32 := 0
  tcpPort : UInt32 := 0
  saveData : SaveData := .fresh
  deriving DecidableEq, Repr

/-- Options as engines take them. -/
structure EngineSettings where
  ipv6Enabled : Bool := false
  udpEnabled : Bool := false
  proxyType : UInt32 := 0
  proxyHost : String := ""
  proxyPort : UInt16 := 0
  startPort : UInt16 := 0
  endPort : UInt16 := 0
  tcpPort : UInt16 := 0
  savedataType : UInt32 := 0
  savedata : Bytes := []
  deriving DecidableEq, Repr

/-- The options that are ports. -/
inductive PortOption where
  | start
  | last
  | tcp
  | proxy
  deriving DecidableEq, Repr

def PortOption.name : PortOption → String
  | .start => "start_port"
  | .last => "end_port"
  | .tcp => "tcp_port"
  | .proxy => "proxy.port"

/-- What engines cannot accept. -/
inductive OptionFault where
  | portTooLarge (option : PortOption)
  | portsReversed
  | proxyHostEmpty
  | proxyHostTooLong
  | proxyPortZero
  deriving DecidableEq, Repr

namespace OptionFault

def message (_ : OptionFault) : String := "invalid engine option"

def field : OptionFault → String
  | .portTooLarge option => option.name
  | .portsReversed => "start_port"
  | .proxyHostEmpty => "proxy.host"
  | .proxyHostTooLong => "proxy.host"
  | .proxyPortZero => "proxy.port"

def reason : OptionFault → String
  | .portTooLarge _ => "port must be within 0..=65535"
  | .portsReversed => "start_port must not exceed end_port"
  | .proxyHostEmpty => "proxy host must not be empty"
  | .proxyHostTooLong => "proxy host exceeds 255 bytes"
  | .proxyPortZero => "proxy port must be within 1..=65535"

end OptionFault

/-- A setting that is accepted and has no effect. -/
inductive OptionWarning where
  | openPortRange (first last : UInt16)
  | proxyIgnored
  | emptySave
  deriving DecidableEq, Repr

def OptionWarning.text : OptionWarning → String
  | .openPortRange first last =>
    "port range " ++ toString first.toNat ++ "..=" ++ toString last.toNat ++
      " has an open end; engine picks the missing bound"
  | .proxyIgnored => "proxy host/port set without a proxy type; ignoring proxy settings"
  | .emptySave => "empty save blob; starting with a fresh identity"

namespace EngineOptions

/-- The longest proxy host, in bytes. -/
def maxHostLength : Nat := 255

/-- A port as engines take it. -/
def checkPort (option : PortOption) (value : UInt32) : Except OptionFault UInt16 :=
  if value.toNat < 65536 then .ok value.toUInt16 else .error (.portTooLarge option)

/-- Exactly one bound of the port range is left open. -/
def portWarnings (first last : UInt16) : List OptionWarning :=
  if (first = 0) ≠ (last = 0) then [.openPortRange first last] else []

/-- The proxy host and port as engines take them; without a proxy type both are left out. -/
def checkProxy (proxy : ProxyOptions) :
    Except OptionFault (String × UInt16 × List OptionWarning) :=
  if proxy.kind = .none then
    .ok ("", 0, if proxy.host ≠ "" ∨ proxy.port ≠ 0 then [.proxyIgnored] else [])
  else if proxy.host = "" then .error .proxyHostEmpty
  else if maxHostLength < proxy.host.utf8ByteSize then .error .proxyHostTooLong
  else
    (checkPort .proxy proxy.port).bind fun port =>
      if port = 0 then .error .proxyPortZero else .ok (proxy.host, port, [])

/-- The save data as engines take it; an empty saved state is no state. -/
def checkSave : SaveData → SaveData × List OptionWarning
  | .blob [] => (.fresh, [.emptySave])
  | save => (save, [])

/-- Check the options and lay them out, with warnings for what will have no effect. -/
def plan (options : EngineOptions) : Except OptionFault (EngineSettings × List OptionWarning) := do
  let first ← checkPort .start options.startPort
  let last ← checkPort .last options.endPort
  let tcp ← checkPort .tcp options.tcpPort
  if last < first then .error .portsReversed
  else
    let (host, port, proxyWarnings) ← checkProxy options.proxy
    let (save, saveWarnings) := checkSave options.saveData
    .ok
      ({ ipv6Enabled := options.ipv6Enabled
         udpEnabled := options.udpEnabled
         proxyType := Enumerated.number options.proxy.kind
         proxyHost := host
         proxyPort := port
         startPort := first
         endPort := last
         tcpPort := tcp
         savedataType := save.number
         savedata := save.bytes },
        portWarnings first last ++ proxyWarnings ++ saveWarnings)

/-- The options are ones that engines can take. -/
def isValid (options : EngineOptions) : Bool :=
  match options.plan with
  | .ok _ => true
  | .error _ => false

end EngineOptions

end Switchboard
