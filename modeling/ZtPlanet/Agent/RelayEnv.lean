/-
# The agent and the relay agree on the relay's settings

`render` writes the RELAY_* variables and the relay reads them back with `Config::from_env`.  Every
range of `validate_config` lies inside the type that the relay parses the number as, and the
networks it accepts for the relay are IPv4 networks in their normal form, which the relay's own CIDR
reader takes and masks the same way.  So an accepted configuration starts the relay with its limits,
and the relay admits the IPv4 sources that the configuration names (`fromEnv_agrees`).
-/
import ZtPlanet.Agent.Restart
import ZtPlanet.Agent.Valid
import ZtPlanet.Relay.PythonText

namespace ZtPlanet.Agent

open ZtPlanet.Python
open ZtPlanet.Lib (mapM_ok_map)
open ZtPlanet.Relay (Settings Ipv4Cidr sourceAllowed rustText)

/-! ## 1. The environment of the relay -/

/-- A text as the relay finds it in its environment. -/
def rustString (s : PyStr) : String := String.ofList (rustText s)

/-- `env::var` in the relay, where the environment file passes its values unchanged. -/
def relayEnv (config : Config) (name : String) : Option String :=
  ((environment "RELAY_" config).find? fun e => e.1 == py name).map fun e => rustString e.2

/-- What the variables hold that `Config::from_env` asks for. -/
theorem relayEnv_eq (config : Config) :
    let relay := config.relayServer
    relayEnv config "RELAY_LISTEN" = none ∧
    relayEnv config "RELAY_METRICS_LISTEN" = none ∧
    relayEnv config "RELAY_ALLOWED_CIDRS" =
      some (rustString (join (py ",") relay.allowedSourceCidrs)) ∧
    relayEnv config "RELAY_MAX_CONNECTIONS" = some (rustString (decimal relay.maxConnections)) ∧
    relayEnv config "RELAY_MAX_CONNECTIONS_PER_IP" =
      some (rustString (decimal relay.maxConnectionsPerIp)) ∧
    relayEnv config "RELAY_HANDSHAKE_TIMEOUT_SECONDS" =
      some (rustString (decimal relay.handshakeTimeoutSeconds)) ∧
    relayEnv config "RELAY_IDLE_TIMEOUT_SECONDS" =
      some (rustString (decimal relay.idleTimeoutSeconds)) ∧
    relayEnv config "RELAY_PACKETS_PER_SECOND" =
      some (rustString (decimal relay.packetsPerSecond)) ∧
    relayEnv config "RELAY_BYTES_PER_SECOND" = some (rustString (decimal relay.bytesPerSecond)) ∧
    relayEnv config "RELAY_GLOBAL_PACKETS_PER_SECOND" =
      some (rustString (decimal relay.globalPacketsPerSecond)) ∧
    relayEnv config "RELAY_GLOBAL_BYTES_PER_SECOND" =
      some (rustString (decimal relay.globalBytesPerSecond)) ∧
    relayEnv config "RELAY_MAX_DESTINATIONS" = some (rustString (decimal relay.maxDestinations)) ∧
    relayEnv config "RELAY_MIN_DESTINATION_PORT" =
      some (rustString (decimal relay.minDestinationPort)) ∧
    relayEnv config "RELAY_MAX_FRAME_LENGTH" = none :=
  ⟨rfl, rfl, rfl, rfl, rfl, rfl, rfl, rfl, rfl, rfl, rfl, rfl, rfl, rfl⟩

/-! ## 2. Single settings -/

/-- A number of the configuration is read back by a type that it fits. -/
theorem envNumber_decimal {env : String → Option String} {name : String} {max default n : Nat}
    (henv : env name = some (rustString (decimal n))) (h : n ≤ max) :
    Relay.envNumber env name max default = .ok n := by
  have htext : (rustString (decimal n)).toList = Nat.toDigits 10 n := by
    unfold rustString decimal
    rw [String.toList_ofList, Relay.rustText_map]
  unfold Relay.envNumber Relay.envValue
  rw [henv, Option.getD_some, htext, Relay.parseUnsigned_toDigits h]

/-- A default is read as it is printed. -/
theorem envNumber_default {env : String → Option String} {name : String} {max default : Nat}
    (henv : env name = none) (h : default ≤ max) :
    Relay.envNumber env name max default = .ok default := by
  unfold Relay.envNumber Relay.envValue
  rw [henv, Option.getD_none, Nat.toString_eq_repr, Nat.toList_repr,
    Relay.parseUnsigned_toDigits h]

/-- The relay's range of an IPv4 network. -/
def relayCidr (cidr : PyStr) : Ipv4Cidr :=
  match IpNetwork.parse cidr with
  | some ⟨.v4 ip, length⟩ => Relay.cidrOf ip length
  | _ => ⟨0, 0⟩

/-- The networks of a relay are IPv4 networks in their normal form. -/
theorem RelayServer.Valid.exists_network {r : RelayServer} (h : r.Valid) {cidr : PyStr}
    (hcidr : cidr ∈ r.allowedSourceCidrs) : ∃ ip length, cidr = (IpNetwork.mk (.v4 ip) length).str ∧
      (IpNetwork.mk (.v4 ip) length).WellFormed ∧
        IpNetwork.parse cidr = some ⟨.v4 ip, length⟩ := by
  obtain ⟨network, hn, rfl⟩ := h.allowedSourceCidrs.2 cidr hcidr
  have hversion := h.ipv4 _ hcidr
  unfold isNotIpv4Cidr at hversion
  rw [hn] at hversion
  obtain ⟨address, length⟩ := network
  cases address with
  | v4 ip => exact ⟨ip, length, rfl, IpNetwork.wellFormed_of_parse hn, hn⟩
  | v6 ip scope => cases hversion

theorem trim_of_noWhitespace {t : List Char} (h : ∀ c ∈ t, Relay.isWhitespace c = false) :
    Relay.trim t = t := by
  have hdrop {l : List Char} (hl : ∀ c ∈ l, Relay.isWhitespace c = false) :
      l.dropWhile Relay.isWhitespace = l := by
    cases l with
    | nil => rfl
    | cons c l => rw [List.dropWhile_cons_of_neg (by simp [hl c (by simp)])]
  unfold Relay.trim
  rw [hdrop h, hdrop fun c hc => h c (List.mem_reverse.mp hc), List.reverse_reverse]

/-- What the relay's reader needs to know about the text of one network. -/
structure ReadsBack (cidr : PyStr) : Prop where
  comma : ',' ∉ rustText cidr
  trim : Relay.trim (rustText cidr) = rustText cidr
  ne_nil : rustText cidr ≠ []
  read : Ipv4Cidr.fromStr (String.ofList (rustText cidr)) = .ok (relayCidr cidr)

theorem readsBack_of_mem {r : RelayServer} (hr : r.Valid) {cidr : PyStr}
    (hcidr : cidr ∈ r.allowedSourceCidrs) : ReadsBack cidr := by
  obtain ⟨ip, length, rfl, hwf, hparse⟩ := hr.exists_network hcidr
  refine ⟨?_, trim_of_noWhitespace ?_, ?_, ?_⟩
  · intro hmem
    rcases Relay.mem_rustText_network hmem with h | h | h <;> revert h <;> decide
  · intro c hc
    rcases Relay.mem_rustText_network hc with h | rfl | rfl
    · rw [Relay.isDigit_iff] at h
      have hvalue := (digitValue_of_isAsciiDigit h).2
      rw [Relay.ofChar_val] at hvalue
      simp [Relay.isWhitespace]
      omega
    · decide
    · decide
  · rw [Relay.rustText_network]
    simp
  · unfold relayCidr
    rw [hparse]
    exact Relay.fromStr_network hwf

/-- **The source networks are read back one by one.** -/
theorem envCidrs_eq {env : String → Option String} {name : String} {r : RelayServer} (hr : r.Valid)
    (henv : env name = some (rustString (join (py ",") r.allowedSourceCidrs))) :
    Relay.envCidrs env name = .ok (r.allowedSourceCidrs.map relayCidr) := by
  have hback : ∀ cidr ∈ r.allowedSourceCidrs, ReadsBack cidr := fun _ hcidr =>
    readsBack_of_mem hr hcidr
  have hcomma : ∀ t ∈ r.allowedSourceCidrs.map rustText, ',' ∉ t := by
    intro t ht
    obtain ⟨cidr, hcidr, rfl⟩ := List.mem_map.mp ht
    exact (hback cidr hcidr).comma
  unfold Relay.envCidrs Relay.envValue
  rw [henv, Option.getD_some]
  unfold rustString
  rw [String.toList_ofList, Relay.rustText_join]
  by_cases hnil : r.allowedSourceCidrs = []
  · rw [hnil]
    rfl
  · have hparts : (",".toList.intercalate (r.allowedSourceCidrs.map rustText)).splitOn ',' =
        r.allowedSourceCidrs.map rustText :=
      List.splitOn_intercalate ',' hcomma fun h => hnil (List.map_eq_nil_iff.mp h)
    have hfilter : (r.allowedSourceCidrs.map rustText).filter (fun v => Relay.trim v ≠ []) =
        r.allowedSourceCidrs.map rustText := by
      refine List.filter_eq_self.mpr fun t ht => ?_
      obtain ⟨cidr, hcidr, rfl⟩ := List.mem_map.mp ht
      rw [(hback cidr hcidr).trim, decide_eq_true_eq]
      exact (hback cidr hcidr).ne_nil
    have hread : ∀ cidr ∈ r.allowedSourceCidrs,
        Ipv4Cidr.fromStr (String.ofList (Relay.trim (rustText cidr))) = .ok (relayCidr cidr) := by
      intro cidr hcidr
      rw [(hback cidr hcidr).trim]
      exact (hback cidr hcidr).read
    rw [hparts, hfilter]
    rw [List.mapM_map]
    exact mapM_ok_map hread

/-! ## 3. The settings -/

/-- The settings of the relay are the configured ones, those that the configuration does not name
have their defaults, and an IPv4 source is admitted if no network is configured or one of them holds
it. -/
structure SettingsAgree (r : RelayServer) (s : Settings) : Prop where
  maxConnections : s.limits.maxConnections = r.maxConnections
  maxConnectionsPerIp : s.limits.maxConnectionsPerIp = r.maxConnectionsPerIp
  packetsPerSecond : s.limits.packetsPerSecond = r.packetsPerSecond
  bytesPerSecond : s.limits.bytesPerSecond = r.bytesPerSecond
  globalPacketsPerSecond : s.limits.globalPacketsPerSecond = r.globalPacketsPerSecond
  globalBytesPerSecond : s.limits.globalBytesPerSecond = r.globalBytesPerSecond
  handshakeTimeout : s.handshakeTimeout = r.handshakeTimeoutSeconds
  idleTimeout : s.idleTimeout = r.idleTimeoutSeconds
  maxDestinations : s.limits.maxDestinations = r.maxDestinations
  minDestinationPort : s.limits.minDestinationPort.toNat = r.minDestinationPort
  maxFrameLen : s.limits.maxFrameLen = Settings.default.limits.maxFrameLen
  listen : s.listen = Settings.default.listen
  metricsListen : s.metricsListen = Settings.default.metricsListen
  sources : ∀ ip : UInt32, sourceAllowed (.v4 ip) s.allowedSources = true ↔
    r.allowedSourceCidrs = [] ∨ ∃ cidr ∈ r.allowedSourceCidrs, ∃ network,
      IpNetwork.parse cidr = some network ∧ network.contains (.v4 ip.toBitVec) = true

/-- The relay admits a source by the networks of the configuration. -/
theorem sourceAllowed_iff {r : RelayServer} (hr : r.Valid) (ip : UInt32) :
    sourceAllowed (.v4 ip) (r.allowedSourceCidrs.map relayCidr) = true ↔
      r.allowedSourceCidrs = [] ∨ ∃ cidr ∈ r.allowedSourceCidrs, ∃ network,
        IpNetwork.parse cidr = some network ∧ network.contains (.v4 ip.toBitVec) = true := by
  have hcontains : ∀ cidr ∈ r.allowedSourceCidrs, ((relayCidr cidr).contains ip = true ↔
      ∃ network, IpNetwork.parse cidr = some network ∧
        network.contains (.v4 ip.toBitVec) = true) := by
    intro cidr hcidr
    obtain ⟨base, length, -, hwf, hparse⟩ := hr.exists_network hcidr
    unfold relayCidr
    rw [hparse]
    simp only [Option.some.injEq, exists_eq_left']
    rw [Relay.contains_cidrOf hwf.masked.1]
    rfl
  unfold sourceAllowed
  by_cases hnil : r.allowedSourceCidrs = []
  · simp [hnil]
  · rw [if_neg fun h => hnil (List.map_eq_nil_iff.mp h), or_iff_right hnil]
    dsimp only
    rw [List.any_map, List.any_eq_true]
    exact exists_congr fun cidr => and_congr_right fun hcidr => hcontains cidr hcidr

/-- The settings that a configuration makes. -/
def relaySettings (r : RelayServer) : Settings where
  listen := Settings.default.listen
  metricsListen := Settings.default.metricsListen
  allowedSources := r.allowedSourceCidrs.map relayCidr
  handshakeTimeout := r.handshakeTimeoutSeconds
  idleTimeout := r.idleTimeoutSeconds
  limits := {
    maxConnections := r.maxConnections
    maxConnectionsPerIp := r.maxConnectionsPerIp
    packetsPerSecond := r.packetsPerSecond
    bytesPerSecond := r.bytesPerSecond
    globalPacketsPerSecond := r.globalPacketsPerSecond
    globalBytesPerSecond := r.globalBytesPerSecond
    maxDestinations := r.maxDestinations
    minDestinationPort := UInt16.ofNat r.minDestinationPort
    maxFrameLen := Settings.default.limits.maxFrameLen }

/-- `Config::from_env` returns them. -/
theorem fromEnv_eq {config : Config} (hr : config.relayServer.Valid) :
    Settings.fromEnv (relayEnv config) = .ok (relaySettings config.relayServer) := by
  obtain ⟨hlisten, hmetrics, hcidrs, hconnections, hperIp, hhandshake, hidle, hpackets, hbytes,
    hglobalPackets, hglobalBytes, hdestinations, hport, hframe⟩ := relayEnv_eq config
  have hu64 {n k : Nat} (hn : n ≤ k) (hk : k ≤ 10737418240) : n ≤ Relay.u64Max := by
    unfold Relay.u64Max
    omega
  have hminPort : config.relayServer.minDestinationPort ≤ Relay.u16Max := hr.minDestinationPort.2
  have hpositive : ¬(config.relayServer.maxConnections = 0 ∨
      config.relayServer.maxConnectionsPerIp = 0 ∨ config.relayServer.maxDestinations = 0 ∨
        4096 < Relay.addressHeaderLen + 16 ∨ 4096 > Relay.u16Max) := by
    have h₁ := hr.maxConnections.1
    have h₂ := hr.maxConnectionsPerIp.1
    have h₃ := hr.maxDestinations.1
    have h₄ : Relay.addressHeaderLen + 16 ≤ 4096 := by decide
    have h₅ : 4096 ≤ Relay.u16Max := by decide
    omega
  have haddress : Relay.envSocketAddr "RELAY_LISTEN" "0.0.0.0:4443" =
      .ok Settings.default.listen := rfl
  have hmetricsAddress : Relay.envSocketAddr "RELAY_METRICS_LISTEN" "0.0.0.0:9090" =
      .ok ⟨.v4 0, 9090⟩ := rfl
  have hmetricsText : Relay.trim "0.0.0.0:9090".toList ≠ [] := by decide
  unfold Settings.fromEnv
  rw [show Relay.envValue (relayEnv config) "RELAY_LISTEN" "0.0.0.0:4443" = "0.0.0.0:4443" by
      rw [Relay.envValue, hlisten, Option.getD_none],
    show Relay.envValue (relayEnv config) "RELAY_METRICS_LISTEN" "0.0.0.0:9090" = "0.0.0.0:9090" by
      rw [Relay.envValue, hmetrics, Option.getD_none],
    haddress, envCidrs_eq hr hcidrs,
    envNumber_decimal hconnections (hu64 hr.maxConnections.2 (by decide)),
    envNumber_decimal hperIp (hu64 hr.maxConnectionsPerIp.2 (by decide)),
    envNumber_decimal hhandshake (hu64 hr.handshakeTimeoutSeconds.2 (by decide)),
    envNumber_decimal hidle (hu64 hr.idleTimeoutSeconds.2 (by decide)),
    envNumber_decimal hpackets (hu64 hr.packetsPerSecond.2 (by decide)),
    envNumber_decimal hbytes (hu64 hr.bytesPerSecond.2 (by decide)),
    envNumber_decimal hglobalPackets (hu64 hr.globalPacketsPerSecond.2 (by decide)),
    envNumber_decimal hglobalBytes (hu64 hr.globalBytesPerSecond.2 (by decide)),
    envNumber_decimal hdestinations (hu64 hr.maxDestinations.2 (by decide)),
    envNumber_decimal hport hminPort,
    envNumber_default hframe (by decide)]
  simp only [bind, Except.bind]
  rw [if_neg hmetricsText, hmetricsAddress]
  exact if_neg hpositive

/-- **For an accepted configuration the relay reads the configured limits from its environment, and
admits an IPv4 source exactly if the configuration names no network or one that holds it.** -/
theorem fromEnv_agrees {nfkc : PyStr → PyStr} {raw : Json} {config : Config}
    {warnings : List PyStr} (h : validateConfig nfkc raw = .ok (config, warnings)) :
    ∃ settings, Settings.fromEnv (relayEnv config) = .ok settings ∧
      SettingsAgree config.relayServer settings := by
  obtain ⟨hvalid, -⟩ := valid_of_validateConfig h
  have hr := hvalid.relayServer
  refine ⟨_, fromEnv_eq hr, ?_⟩
  constructor
  case sources => exact sourceAllowed_iff hr
  case minDestinationPort =>
    have hport := hr.minDestinationPort.2
    exact UInt16.toNat_ofNat_of_lt' (by unfold UInt16.size; omega)
  all_goals rfl

/-- A relay for the sources of two networks. -/
theorem fromEnv_agrees_sample : ∃ settings,
    Settings.fromEnv (relayEnv sampleConfig) = .ok settings ∧
    SettingsAgree sampleConfig.relayServer settings :=
  fromEnv_agrees validateConfig_sample

end ZtPlanet.Agent
