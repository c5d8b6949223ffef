import Switchboard.Options
/-!
# The plan of options

Options are planned if they meet every demand of the engines (`plan_of_met`), and are refused for
the first one that they do not meet otherwise (`plan_of_firstUnmet`). As long as there is no warning
the options can be read off their plan (`ofSettings?_of_silent`), so no setting is dropped without
one (`no_setting_dropped`).
-/

namespace Switchboard

namespace EngineOptions

/-! ## Demands -/

/-- What engines ask of options. -/
inductive Demand where
  | startPort
  | endPort
  | tcpPort
  | portOrder
  | proxyHost
  | proxyPort
  deriving DecidableEq, Repr

namespace Demand

/-- The demands in the order in which they are looked at. -/
def all : List Demand := [.startPort, .endPort, .tcpPort, .portOrder, .proxyHost, .proxyPort]

def place (demand : Demand) : Nat := all.idxOf demand

def Met (options : EngineOptions) : Demand → Prop
  | .startPort => options.startPort.toNat ≤ 65535
  | .endPort => options.endPort.toNat ≤ 65535
  | .tcpPort => options.tcpPort.toNat ≤ 65535
  | .portOrder => options.startPort ≤ options.endPort
  | .proxyHost => options.proxy.kind ≠ .none →
    1 ≤ options.proxy.host.utf8ByteSize ∧ options.proxy.host.utf8ByteSize ≤ 255
  | .proxyPort => options.proxy.kind ≠ .none →
    1 ≤ options.proxy.port.toNat ∧ options.proxy.port.toNat ≤ 65535

instance (options : EngineOptions) : (demand : Demand) → Decidable (demand.Met options)
  | .startPort => inferInstanceAs (Decidable (_ ≤ _))
  | .endPort => inferInstanceAs (Decidable (_ ≤ _))
  | .tcpPort => inferInstanceAs (Decidable (_ ≤ _))
  | .portOrder => inferInstanceAs (Decidable (_ ≤ _))
  | .proxyHost => inferInstanceAs (Decidable (_ → _ ∧ _))
  | .proxyPort => inferInstanceAs (Decidable (_ → _ ∧ _))

def field : Demand → String
  | .startPort => "start_port"
  | .endPort => "end_port"
  | .tcpPort => "tcp_port"
  | .portOrder => "start_port"
  | .proxyHost => "proxy.host"
  | .proxyPort => "proxy.port"

/-- What options are refused for that do not meet the demand. -/
def fault (options : EngineOptions) : Demand → OptionFault
  | .startPort => .portTooLarge .start
  | .endPort => .portTooLarge .last
  | .tcpPort => .portTooLarge .tcp
  | .portOrder => .portsReversed
  | .proxyHost => if options.proxy.host = "" then .proxyHostEmpty else .proxyHostTooLong
  | .proxyPort => if options.proxy.port = 0 then .proxyPortZero else .portTooLarge .proxy

theorem field_fault (options : EngineOptions) (demand : Demand) :
    (demand.fault options).field = demand.field := by
  cases demand with
  | proxyHost =>
    by_cases h : options.proxy.host = ""
    · simp only [fault, h, if_true, OptionFault.field, field]
    · simp only [fault, h, if_false, OptionFault.field, field]
  | proxyPort =>
    by_cases h : options.proxy.port = 0
    · simp only [fault, h, if_true, OptionFault.field, field]
    · simp only [fault, h, if_false, OptionFault.field, field, PortOption.name]
  | _ => rfl

end Demand

/-- The options do not meet this demand, and meet all that are looked at before it. -/
structure FirstUnmet (options : EngineOptions) (demand : Demand) : Prop where
  unmet : ¬ demand.Met options
  earlier : ∀ other : Demand, other.place < demand.place → other.Met options

private theorem exists_firstUnmet {options : EngineOptions} {demand : Demand}
    (unmet : ¬ demand.Met options) : ∃ first, options.FirstUnmet first := by
  induction hplace : demand.place using Nat.strongRecOn generalizing demand with
  | ind place ih =>
    by_cases h : ∀ other : Demand, other.place < demand.place → other.Met options
    · exact ⟨demand, unmet, h⟩
    · obtain ⟨other, hother⟩ := Classical.not_forall.mp h
      obtain ⟨hlt, hunmet⟩ := Classical.not_imp.mp hother
      exact ih other.place (hplace ▸ hlt) hunmet rfl

private theorem met_or_firstUnmet (options : EngineOptions) :
    (∀ demand : Demand, demand.Met options) ∨ ∃ demand, options.FirstUnmet demand := by
  by_cases h : ∀ demand : Demand, demand.Met options
  · exact .inl h
  · obtain ⟨demand, hunmet⟩ := Classical.not_forall.mp h
    exact .inr (exists_firstUnmet hunmet)

/-! ## Parts of the plan -/

section Parts

variable {option : PortOption} {value : UInt32} {options : EngineOptions}

private theorem checkPort_of_le (h : value.toNat ≤ 65535) :
    checkPort option value = .ok value.toUInt16 :=
  if_pos (Nat.lt_succ_of_le h)

private theorem checkPort_of_gt (h : ¬ value.toNat ≤ 65535) :
    checkPort option value = .error (.portTooLarge option) :=
  if_neg fun hlt => h (Nat.le_of_lt_succ hlt)

private theorem toNat_port (h : value.toNat ≤ 65535) : value.toUInt16.toNat = value.toNat := by
  rw [UInt32.toNat_toUInt16]
  exact Nat.mod_eq_of_lt (by omega)

private theorem port_ne_zero (hpos : 1 ≤ value.toNat) (hle : value.toNat ≤ 65535) :
    value.toUInt16 ≠ 0 := by
  intro e
  rw [← toNat_port hle, e] at hpos
  exact Nat.not_succ_le_zero 0 hpos

private theorem host_ne_empty_iff {host : String} : host ≠ "" ↔ 1 ≤ host.utf8ByteSize := by
  rw [Ne, ← String.utf8ByteSize_eq_zero_iff]
  exact Nat.one_le_iff_ne_zero.symm

/-- The proxy, and a warning if it has settings and no type. -/
def proxyLayout (proxy : ProxyOptions) : String × UInt16 × List OptionWarning :=
  if proxy.kind = .none then
    ("", 0, if proxy.host ≠ "" ∨ proxy.port ≠ 0 then [.proxyIgnored] else [])
  else (proxy.host, proxy.port.toUInt16, [])

private theorem checkProxy_of_met (host : Demand.proxyHost.Met options)
    (port : Demand.proxyPort.Met options) :
    checkProxy options.proxy = .ok (proxyLayout options.proxy) := by
  unfold checkProxy proxyLayout
  split
  · rfl
  · rename_i hkind
    obtain ⟨hsome, hshort⟩ := host hkind
    obtain ⟨hpos, hle⟩ := port hkind
    have hhost : options.proxy.host ≠ "" := host_ne_empty_iff.mpr hsome
    have hlong : ¬ maxHostLength < options.proxy.host.utf8ByteSize := Nat.not_lt.mpr hshort
    rw [if_neg hhost, if_neg hlong, checkPort_of_le hle]
    exact if_neg (port_ne_zero hpos hle)

private theorem checkProxy_of_host (unmet : ¬ Demand.proxyHost.Met options) :
    checkProxy options.proxy = .error (Demand.proxyHost.fault options) := by
  obtain ⟨hkind, hsize⟩ := Classical.not_imp.mp unmet
  unfold checkProxy
  rw [if_neg hkind]
  by_cases hhost : options.proxy.host = ""
  · simp only [Demand.fault, hhost, if_true]
  · have hsome := host_ne_empty_iff.mp hhost
    have hlong : maxHostLength < options.proxy.host.utf8ByteSize := by
      unfold maxHostLength
      omega
    simp only [Demand.fault, hhost, if_false, hlong, if_true]

private theorem checkProxy_of_port (host : Demand.proxyHost.Met options)
    (unmet : ¬ Demand.proxyPort.Met options) :
    checkProxy options.proxy = .error (Demand.proxyPort.fault options) := by
  obtain ⟨hkind, hport⟩ := Classical.not_imp.mp unmet
  obtain ⟨hsome, hshort⟩ := host hkind
  have hhost : options.proxy.host ≠ "" := host_ne_empty_iff.mpr hsome
  have hlong : ¬ maxHostLength < options.proxy.host.utf8ByteSize := Nat.not_lt.mpr hshort
  unfold checkProxy
  rw [if_neg hkind, if_neg hhost, if_neg hlong]
  by_cases hzero : options.proxy.port = 0
  · simp only [Demand.fault, hzero, if_true]
    rfl
  · have hpos : options.proxy.port.toNat ≠ 0 := fun e => hzero (UInt32.toNat.inj e)
    rw [checkPort_of_gt (by omega)]
    simp only [Demand.fault, hzero, if_false]
    rfl

end Parts

/-! ## The whole plan -/

/-- The options as engines take them, and what is remarked of them, with the proxy as it is given.
-/
def laid (options : EngineOptions) (proxy : String × UInt16 × List OptionWarning) :
    EngineSettings × List OptionWarning :=
  ({ ipv6Enabled := options.ipv6Enabled
     udpEnabled := options.udpEnabled
     proxyType := Enumerated.number options.proxy.kind
     proxyHost := proxy.1
     proxyPort := proxy.2.1
     startPort := options.startPort.toUInt16
     endPort := options.endPort.toUInt16
     tcpPort := options.tcpPort.toUInt16
     savedataType := (checkSave options.saveData).1.number
     savedata := (checkSave options.saveData).1.bytes },
    portWarnings options.startPort.toUInt16 options.endPort.toUInt16 ++ proxy.2.2 ++
      (checkSave options.saveData).2)

def layout (options : EngineOptions) : EngineSettings × List OptionWarning :=
  options.laid (proxyLayout options.proxy)

section Plan

variable {options : EngineOptions}

/-- What is left to be looked at when all ports are in range. They are compared after they were
narrowed. -/
theorem plan_of_ports (start : Demand.startPort.Met options) (last : Demand.endPort.Met options)
    (tcp : Demand.tcpPort.Met options) :
    options.plan =
      if Demand.portOrder.Met options then (checkProxy options.proxy).map options.laid
      else .error .portsReversed := by
  have hnarrow : options.endPort.toUInt16 < options.startPort.toUInt16 ↔
      ¬ Demand.portOrder.Met options := by
    unfold Demand.Met at start last ⊢
    rw [UInt16.lt_iff_toNat_lt, UInt32.le_iff_toNat_le, toNat_port start, toNat_port last]
    exact Nat.not_le.symm
  unfold Demand.Met at start last tcp
  simp only [plan, checkPort_of_le start, checkPort_of_le last, checkPort_of_le tcp, bind,
    Except.bind, hnarrow, ite_not]
  split
  · cases checkProxy options.proxy <;> rfl
  · rfl

theorem plan_of_met (met : ∀ demand : Demand, demand.Met options) :
    options.plan = .ok options.layout := by
  rw [plan_of_ports (met .startPort) (met .endPort) (met .tcpPort), if_pos (met .portOrder),
    checkProxy_of_met (met .proxyHost) (met .proxyPort)]
  rfl

theorem plan_of_firstUnmet {demand : Demand} (first : options.FirstUnmet demand) :
    options.plan = .error (demand.fault options) := by
  obtain ⟨hunmet, hearlier⟩ := first
  cases demand with
  | startPort =>
    unfold Demand.Met at hunmet
    simp only [plan, checkPort_of_gt hunmet]
    rfl
  | endPort =>
    have hstart := hearlier .startPort (by decide)
    unfold Demand.Met at hunmet hstart
    simp only [plan, checkPort_of_le hstart, checkPort_of_gt hunmet]
    rfl
  | tcpPort =>
    have hstart := hearlier .startPort (by decide)
    have hlast := hearlier .endPort (by decide)
    unfold Demand.Met at hunmet hstart hlast
    simp only [plan, checkPort_of_le hstart, checkPort_of_le hlast, checkPort_of_gt hunmet]
    rfl
  | portOrder =>
    rw [plan_of_ports (hearlier .startPort (by decide)) (hearlier .endPort (by decide))
      (hearlier .tcpPort (by decide)), if_neg hunmet]
    rfl
  | proxyHost =>
    rw [plan_of_ports (hearlier .startPort (by decide)) (hearlier .endPort (by decide))
      (hearlier .tcpPort (by decide)), if_pos (hearlier .portOrder (by decide)),
      checkProxy_of_host hunmet]
    rfl
  | proxyPort =>
    rw [plan_of_ports (hearlier .startPort (by decide)) (hearlier .endPort (by decide))
      (hearlier .tcpPort (by decide)), if_pos (hearlier .portOrder (by decide)),
      checkProxy_of_port (hearlier .proxyHost (by decide)) hunmet]
    rfl

theorem plan_eq_ok_iff {planned : EngineSettings × List OptionWarning} :
    options.plan = .ok planned ↔
      (∀ demand : Demand, demand.Met options) ∧ planned = options.layout := by
  constructor
  · intro h
    rcases met_or_firstUnmet options with met | ⟨demand, first⟩
    · exact ⟨met, Except.ok.inj (h.symm.trans (plan_of_met met))⟩
    · cases h.symm.trans (plan_of_firstUnmet first)
  · rintro ⟨met, rfl⟩
    exact plan_of_met met

theorem exists_firstUnmet_of_plan {fault : OptionFault} (h : options.plan = .error fault) :
    ∃ demand, options.FirstUnmet demand ∧ fault = demand.fault options := by
  rcases met_or_firstUnmet options with met | ⟨demand, first⟩
  · cases h.symm.trans (plan_of_met met)
  · exact ⟨demand, first, Except.error.inj (h.symm.trans (plan_of_firstUnmet first))⟩

end Plan

end EngineOptions

/-! ## What is laid out -/

structure EngineSettings.Coherent (settings : EngineSettings) : Prop where
  direct_iff : settings.proxyType = 0 ↔ settings.proxyHost = ""
  host_iff : settings.proxyHost = "" ↔ settings.proxyPort = 0
  fresh_iff : settings.savedataType = 0 ↔ settings.savedata = []
  key_length : settings.savedataType = 2 → settings.savedata.length = 32

namespace EngineOptions

private theorem number_kind_eq_zero_iff (kind : ProxyKind) :
    Enumerated.number kind = 0 ↔ kind = .none := by
  cases kind <;> decide

private theorem coherent_checkSave (save : SaveData) :
    ((checkSave save).1.number = 0 ↔ (checkSave save).1.bytes = []) ∧
      ((checkSave save).1.number = 2 → (checkSave save).1.bytes.length = 32) := by
  cases save with
  | fresh => exact ⟨⟨fun _ => rfl, fun _ => rfl⟩, fun h => absurd h (by decide)⟩
  | blob bytes =>
    cases bytes with
    | nil => exact ⟨⟨fun _ => rfl, fun _ => rfl⟩, fun h => absurd h (by decide)⟩
    | cons byte rest =>
      exact ⟨⟨fun h => absurd h (show (1 : UInt32) ≠ 0 by decide), fun h => nomatch h⟩,
        fun h => absurd h (show (1 : UInt32) ≠ 2 by decide)⟩
  | secretKey key =>
    refine ⟨⟨fun h => absurd h (show (2 : UInt32) ≠ 0 by decide), fun h => ?_⟩,
      fun _ => key.length_eq⟩
    have hlength := key.length_eq
    rw [show key.bytes = [] from h] at hlength
    cases hlength

theorem coherent_layout {options : EngineOptions} (met : ∀ demand : Demand, demand.Met options) :
    options.layout.1.Coherent := by
  obtain ⟨hfresh, hkey⟩ := coherent_checkSave options.saveData
  by_cases hkind : options.proxy.kind = .none
  · have hproxy : (proxyLayout options.proxy).1 = "" ∧ (proxyLayout options.proxy).2.1 = 0 := by
      rw [proxyLayout, if_pos hkind]
      exact ⟨rfl, rfl⟩
    exact ⟨iff_of_true ((number_kind_eq_zero_iff _).mpr hkind) hproxy.1,
      iff_of_true hproxy.1 hproxy.2, hfresh, hkey⟩
  · obtain ⟨hsome, -⟩ := met .proxyHost hkind
    obtain ⟨hpos, hle⟩ := met .proxyPort hkind
    have hproxy :
        (proxyLayout options.proxy).1 ≠ "" ∧ (proxyLayout options.proxy).2.1 ≠ 0 := by
      rw [proxyLayout, if_neg hkind]
      exact ⟨host_ne_empty_iff.mpr hsome, port_ne_zero hpos hle⟩
    exact ⟨iff_of_false (mt (number_kind_eq_zero_iff _).mp hkind) hproxy.1,
      iff_of_false hproxy.1 hproxy.2, hfresh, hkey⟩

/-! ## Reading settings back -/

/-- The save data of this number and with these bytes. -/
def saveOf? (number : UInt32) (bytes : Bytes) : Option SaveData :=
  if number = 0 then some .fresh
  else if number = 1 then some (.blob bytes)
  else (Block.ofBytes? 32 bytes).map .secretKey

private theorem saveOf?_number (save : SaveData) : saveOf? save.number save.bytes = some save := by
  cases save with
  | fresh => rfl
  | blob bytes => rfl
  | secretKey key =>
    have hread : saveOf? 2 key.bytes = (Block.ofBytes? 32 key.bytes).map .secretKey := rfl
    exact hread.trans (by rw [Block.ofBytes?_bytes]; rfl)

/-- The options that these settings are for, if they keep all of them. -/
def ofSettings? (settings : EngineSettings) : Option EngineOptions := do
  let kind ← Enumerated.ofNumber? settings.proxyType
  let save ← saveOf? settings.savedataType settings.savedata
  return {
    ipv6Enabled := settings.ipv6Enabled
    udpEnabled := settings.udpEnabled
    proxy := ⟨kind, settings.proxyHost, settings.proxyPort.toUInt32⟩
    startPort := settings.startPort.toUInt32
    endPort := settings.endPort.toUInt32
    tcpPort := settings.tcpPort.toUInt32
    saveData := save }

private theorem toUInt32_port {value : UInt32} (h : value.toNat ≤ 65535) :
    value.toUInt16.toUInt32 = value := by
  apply UInt32.toNat.inj
  rw [UInt16.toNat_toUInt32, toNat_port h]

private theorem checkSave_of_silent {save : SaveData} (silent : (checkSave save).2 = []) :
    (checkSave save).1 = save := by
  cases save with
  | blob bytes =>
    cases bytes with
    | nil => cases silent
    | cons byte rest => rfl
  | _ => rfl

/-- A proxy that is laid out without a warning is kept as it is. -/
theorem proxyLayout_of_silent {options : EngineOptions} (port : Demand.proxyPort.Met options)
    (silent : (proxyLayout options.proxy).2.2 = []) :
    (proxyLayout options.proxy).1 = options.proxy.host ∧
      (proxyLayout options.proxy).2.1.toUInt32 = options.proxy.port := by
  by_cases hkind : options.proxy.kind = .none
  · rw [proxyLayout, if_pos hkind] at silent ⊢
    by_cases hset : options.proxy.host ≠ "" ∨ options.proxy.port ≠ 0
    · rw [if_pos hset] at silent
      cases silent
    · obtain ⟨hhost, hport⟩ := not_or.mp hset
      rw [Decidable.not_not.mp hhost, Decidable.not_not.mp hport]
      exact ⟨rfl, rfl⟩
  · rw [proxyLayout, if_neg hkind]
    exact ⟨rfl, toUInt32_port (port hkind).2⟩

/-- Options that are laid out without a warning can be read back. -/
theorem ofSettings?_of_silent {options : EngineOptions}
    (met : ∀ demand : Demand, demand.Met options) (silent : options.layout.2 = []) :
    ofSettings? options.layout.1 = some options := by
  obtain ⟨hports, hsave⟩ := List.append_eq_nil_iff.mp silent
  obtain ⟨-, hproxy⟩ := List.append_eq_nil_iff.mp hports
  obtain ⟨hhost, hport⟩ := proxyLayout_of_silent (met .proxyPort) hproxy
  have hkind : Enumerated.ofNumber? (Enumerated.number options.proxy.kind) =
      some options.proxy.kind := by
    cases options.proxy.kind <;> rfl
  simp only [ofSettings?, layout, laid, checkSave_of_silent hsave, saveOf?_number, hkind, hhost,
    hport, toUInt32_port (met .startPort), toUInt32_port (met .endPort),
    toUInt32_port (met .tcpPort)]
  rfl

/-- Without a warning, what engines are given tells the options apart. With what is dropped of
options, the host or the port of a proxy or the kind of save data, comes a warning. -/
theorem no_setting_dropped :
    (∀ (first second : EngineOptions) (settings : EngineSettings),
      first.plan = .ok (settings, []) → second.plan = .ok (settings, []) → first = second) ∧
    ∀ (options : EngineOptions) (settings : EngineSettings) (warnings : List OptionWarning),
      options.plan = .ok (settings, warnings) →
      settings.proxyHost ≠ options.proxy.host ∨
        settings.proxyPort.toNat ≠ options.proxy.port.toNat ∨
        settings.savedataType ≠ options.saveData.number →
      warnings ≠ [] := by
  constructor
  · intro first second settings hfirst hsecond
    obtain ⟨met, hlaid⟩ := plan_eq_ok_iff.mp hfirst
    obtain ⟨met', hlaid'⟩ := plan_eq_ok_iff.mp hsecond
    have hread := ofSettings?_of_silent met (congrArg Prod.snd hlaid).symm
    have hread' := ofSettings?_of_silent met' (congrArg Prod.snd hlaid').symm
    rw [← hlaid] at hread
    rw [← hlaid'] at hread'
    exact Option.some.inj (hread.symm.trans hread')
  · intro options settings warnings hplan differs silent
    obtain ⟨met, hlaid⟩ := plan_eq_ok_iff.mp hplan
    obtain ⟨hsettings, hwarnings⟩ := Prod.mk.inj hlaid
    obtain ⟨hports, hsave⟩ := List.append_eq_nil_iff.mp (hwarnings.symm.trans silent)
    obtain ⟨-, hproxy⟩ := List.append_eq_nil_iff.mp hports
    obtain ⟨hhost, hport⟩ := proxyLayout_of_silent (met .proxyPort) hproxy
    rw [hsettings] at differs
    rcases differs with h | h | h
    · exact h hhost
    · rw [← hport, UInt16.toNat_toUInt32] at h
      exact h rfl
    · exact h (congrArg SaveData.number (checkSave_of_silent hsave))

def keyed : EngineOptions where
  udpEnabled := false
  proxy := ⟨.socks5, "localhost", 9050⟩
  startPort := 33445
  endPort := 33545
  saveData := .secretKey ⟨List.replicate 32 7, rfl⟩

/-- Options with a proxy of no type and a state of no bytes. -/
def neglected : EngineOptions where
  proxy := ⟨.none, "localhost", 9050⟩
  saveData := .blob []

theorem keyed_kept_neglected_dropped :
    keyed.plan = .ok (keyed.layout.1, []) ∧
      (∀ other : EngineOptions, other.plan = .ok (keyed.layout.1, []) → other = keyed) ∧
      neglected.plan = .ok ({ ipv6Enabled := true, udpEnabled := true }, neglected.layout.2) ∧
      neglected.layout.2 = [.proxyIgnored, .emptySave] ∧ neglected.layout.2 ≠ [] := by
  have hkeyed : keyed.plan = .ok (keyed.layout.1, []) := by rfl
  have hneglected : neglected.plan =
      .ok ({ ipv6Enabled := true, udpEnabled := true }, neglected.layout.2) := by rfl
  exact ⟨hkeyed, fun other hother => no_setting_dropped.1 other keyed _ hother hkeyed, hneglected,
    by decide +kernel, no_setting_dropped.2 neglected _ _ hneglected (.inl (by decide))⟩

end EngineOptions

end Switchboard
