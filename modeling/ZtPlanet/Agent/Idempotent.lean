/-
# A stored configuration can be sent again

`validate_config` on what `validate_config` returned.  Every valid configuration is accepted as it
is and with the same warnings, with one exception: `require_host` measures a host before it
normalizes it, and the normal form of an IPv6 address can be one character longer than the text it
was made from (`1::3:4:5:6:7:8` becomes `1:0:3:4:5:6:7:8`).  With a scope that fills the 253
characters, the host that was stored is refused when it comes back.

`validateConfig_again` says so for every valid configuration, `normalization_idempotent_iff` in
terms of the value that was sent first.
-/
import ZtPlanet.Agent.Valid

namespace ZtPlanet.Agent

open ZtPlanet.Python
open ZtPlanet.Lib (bind_ok_iff mapM_ok_iff)

/-! ## 1. Looking up the members of an object -/

/-- The members of an object, looked up by their names. -/
theorem getOr_map (members : List (String × Json)) (key : String) (default : Json) :
    getOr (members.map fun m => (py m.1, m.2)) key default =
      ((members.find? fun m => m.1 = key).map Prod.snd).getD default := by
  unfold getOr Json.member
  rw [List.find?_map, Option.map_map]
  have hpred : ((fun m : PyStr × Json => decide (m.1 = py key)) ∘
      fun m : String × Json => (py m.1, m.2)) = fun m => decide (m.1 = key) := by
    funext m
    exact decide_eq_decide.mpr py_injective.eq_iff
  rw [hpred]
  rfl

/-- `get` and `getOr` of the members of a section. -/
theorem get_map (members : List (String × Json)) (key : String) :
    get (members.map fun m => (py m.1, m.2)) key =
      ((members.find? fun m => m.1 = key).map Prod.snd).getD .null :=
  getOr_map members key .null

/-! ## 2. Values in their normal form -/

theorem requireBool_again (b : Bool) (name : PyStr) : requireBool (.bool b) name = .ok b := rfl

theorem requireInt_again {n minimum maximum : Nat} (name : PyStr) (h : minimum ≤ n ∧ n ≤ maximum) :
    requireInt (.int n) name minimum maximum = .ok n :=
  requireInt_eq_ok.mpr ⟨rfl, h⟩

theorem requireIp_again {text : PyStr} (name : PyStr) (h : IsNormalAddress text) :
    requireIp (.str text) name = .ok text := by
  obtain ⟨ip, hip, hstr⟩ := h
  exact requireIp_eq_ok.mpr ⟨text, ip, rfl, hip, hstr.symm⟩

theorem requireCidrs_again {cidrs : List PyStr} (name : PyStr) (h : ValidCidrs cidrs) :
    requireCidrs (.arr (cidrs.map .str)) name = .ok cidrs := by
  have hlen : ¬ (cidrs.map Json.str).length > 64 := by
    rw [List.length_map]
    exact not_lt.mpr h.1
  unfold requireCidrs
  dsimp only
  rw [if_neg hlen, mapM_ok_iff, List.forall₂_map_left_iff]
  refine List.forall₂_same.mpr fun c hc => ?_
  obtain ⟨network, hn, hstr⟩ := h.2 c hc
  exact requireCidr_eq_ok.mpr ⟨c, network, rfl, hn, hstr.symm⟩

theorem requireTlsMode_again (mode : TlsMode) (message : PyStr) :
    requireChoice tlsModes (.str mode.text) message = .ok mode := by
  cases mode <;> rfl

theorem requireExposure_again (exposure : Exposure) (message : PyStr) :
    requireChoice exposures (.str exposure.text) message = .ok exposure := by
  cases exposure <;> rfl

theorem requireClientMode_again (mode : ClientMode) (message : PyStr) :
    requireChoice clientModes (.str mode.text) message = .ok mode := by
  cases mode <;> rfl

/-! ## 3. The listeners -/

/-- Listeners that are apart are not the same socket. -/
theorem Apart.ne {l l' : Listener} (h : Apart l l') (hvalid : l'.Valid) :
    (l.address == l'.address && l.port == l'.port) = false := by
  rw [Bool.and_eq_false_imp, beq_iff_eq, beq_eq_false_iff_ne]
  intro haddress hport
  obtain ⟨ip, hip, -⟩ := hvalid.address
  unfold Apart bindingsOverlap at h
  rw [if_neg (by simp [hport]), haddress, ipAddress_eq_ok.mpr hip] at h
  have hself : (ip.version == ip.version && (ip == ip || ip.isUnspecified || ip.isUnspecified))
      = false := Except.ok.inj h
  simp at hself

theorem validateListener_again {l : Listener} {clean : List Listener} (index : Nat)
    (hvalid : l.Valid) (hapart : ∀ l' ∈ clean, Apart l' l) :
    validateListener l.toJson index clean = .ok (l, l.warnings) := by
  obtain ⟨ip, hip, hstr⟩ := hvalid.address
  have hsame : (clean.any fun l' => l'.address == l.address && l'.port == l.port) = false :=
    List.any_eq_false.mpr fun l' hl' => by simp [(hapart l' hl').ne hvalid]
  have hoverlaps : anyOf (fun l' => bindingsOverlap l.address l.port l'.address l'.port) clean
      = .ok false := anyOf_eq_false.mpr hapart
  unfold validateListener
  refine bind_ok_iff.mpr ⟨_, rfl, ?_⟩
  simp only [get_map, getOr_map, List.find?_cons, String.reduceEq, decide_false, decide_true,
    Option.map_some, Option.getD_some]
  refine bind_ok_iff.mpr ⟨l.address, requireIp_again _ hvalid.address, ?_⟩
  refine bind_ok_iff.mpr ⟨l.port, requireInt_again _ hvalid.port, ?_⟩
  refine bind_ok_iff.mpr ⟨l.tlsMode, requireTlsMode_again _ _, ?_⟩
  refine bind_ok_iff.mpr ⟨l.allowedCidrs, requireCidrs_again _ hvalid.allowedCidrs, ?_⟩
  refine bind_ok_iff.mpr ⟨(), refuseIf_eq_ok.mpr hsame, ?_⟩
  refine bind_ok_iff.mpr ⟨false, hoverlaps, ?_⟩
  refine bind_ok_iff.mpr ⟨(), refuseIf_eq_ok.mpr rfl, ?_⟩
  refine bind_ok_iff.mpr ⟨ip, ipAddress_eq_ok.mpr hip, ?_⟩
  unfold Listener.warnings
  rw [hip]
  rfl

theorem validateListeners_again : ∀ {rest clean : List Listener} (index : Nat)
    (warnings : List PyStr), (∀ l ∈ rest, l.Valid) → (clean ++ rest).Pairwise Apart →
      validateListeners (rest.map Listener.toJson) index clean warnings =
        .ok (clean ++ rest, warnings ++ rest.flatMap Listener.warnings)
  | [], clean, index, warnings, _, _ => by simp [validateListeners]
  | l :: rest, clean, index, warnings, hvalid, hapart => by
    have hfirst : ∀ l' ∈ clean, Apart l' l := fun l' hl' =>
      (List.pairwise_append.mp hapart).2.2 l' hl' l (by simp)
    have hrest : (clean ++ [l] ++ rest).Pairwise Apart := by
      rw [List.append_assoc]
      exact hapart
    have ih := validateListeners_again (index + 1) (warnings ++ l.warnings)
      (fun l' hl' => hvalid l' (List.mem_cons_of_mem _ hl')) hrest
    refine bind_ok_iff.mpr ⟨_, validateListener_again index (hvalid l (by simp)) hfirst, ?_⟩
    refine ih.trans ?_
    rw [List.append_assoc, List.append_assoc, List.flatMap_cons]
    rfl

/-! ## 4. The sections -/

theorem validateZeroTierAccess_again {nfkc : PyStr → PyStr} {m : Management}
    {members : List (PyStr × Json)} (hm : m.Valid nfkc)
    (hinterface : getOr members "zeroTierInterface" (.str []) = .str m.zeroTierInterface)
    (haddress : getOr members "zeroTierAddress" (.str []) = .str m.zeroTierAddress) :
    validateZeroTierAccess members m.allowZeroTier m.listeners =
      .ok (m.zeroTierInterface, m.zeroTierAddress, m.accessWarnings) := by
  unfold validateZeroTierAccess Management.accessWarnings
  rw [hinterface, haddress]
  dsimp only
  cases hallow : m.allowZeroTier with
  | false => simp [pure_eq_ok]
  | true =>
    obtain ⟨hsafe, hnormal⟩ := hm.access hallow
    rw [if_pos rfl]
    refine bind_ok_iff.mpr ⟨(), refuseIf_eq_ok.mpr (by simp [hsafe]), ?_⟩
    refine bind_ok_iff.mpr ⟨m.zeroTierAddress, requireIp_again _ hnormal, ?_⟩
    simp [pure_eq_ok]

theorem validateManagement_again {nfkc : PyStr → PyStr} {m : Management} (hm : m.Valid nfkc) :
    validateManagement nfkc m.toJson = .ok (m, m.warnings nfkc) := by
  obtain ⟨warnings, hurl⟩ := hm.publicUrl
  have hcount : 1 ≤ (m.listeners.map Listener.toJson).length ∧
      (m.listeners.map Listener.toJson).length ≤ 16 := by
    rw [List.length_map]
    exact hm.count
  have hapart : ([] ++ m.listeners).Pairwise Apart := hm.apart
  have hlisteners := validateListeners_again 0 [] hm.listeners hapart
  unfold validateManagement
  refine bind_ok_iff.mpr ⟨_, rfl, ?_⟩
  refine bind_ok_iff.mpr ⟨m.listeners.map Listener.toJson, ?_, ?_⟩
  · simp only [get_map, List.find?_cons, String.reduceEq, decide_false, decide_true,
      Option.map_some, Option.getD_some, requireListeners]
    exact if_pos hcount
  refine bind_ok_iff.mpr ⟨_, hlisteners, ?_⟩
  dsimp only [List.nil_append]
  refine bind_ok_iff.mpr ⟨(m.publicUrl, warnings), ?_, ?_⟩
  · simpa only [get_map, List.find?_cons, String.reduceEq, decide_false, decide_true,
      Option.map_some, Option.getD_some] using hurl
  refine bind_ok_iff.mpr ⟨m.allowZeroTier, ?_, ?_⟩
  · simp only [get_map, List.find?_cons, String.reduceEq, decide_false, decide_true,
      Option.map_some, Option.getD_some]
    exact requireBool_again _ _
  refine bind_ok_iff.mpr ⟨_, validateZeroTierAccess_again hm ?_ ?_, ?_⟩
  · simp only [getOr_map, List.find?_cons, String.reduceEq, decide_false, decide_true,
      Option.map_some, Option.getD_some]
  · simp only [getOr_map, List.find?_cons, String.reduceEq, decide_false, decide_true,
      Option.map_some, Option.getD_some]
  simp only [get_map, List.find?_cons, String.reduceEq, decide_false, decide_true,
    Option.map_some, Option.getD_some]
  refine bind_ok_iff.mpr ⟨_, requireInt_again _ hm.sessionMaxAgeSeconds, ?_⟩
  refine bind_ok_iff.mpr ⟨_, requireInt_again _ hm.loginAttempts, ?_⟩
  refine bind_ok_iff.mpr ⟨_, requireInt_again _ hm.loginLockoutSeconds, ?_⟩
  unfold Management.warnings Management.urlWarnings
  rw [hurl]
  rfl

theorem validateZeroTier_again {z : ZeroTier} (hz : z.Valid) :
    validateZeroTier z.toJson = .ok z := by
  unfold validateZeroTier
  refine bind_ok_iff.mpr ⟨_, rfl, ?_⟩
  simp only [get_map, getOr_map, List.find?_cons, String.reduceEq, decide_false, decide_true,
    Option.map_some, Option.getD_some]
  refine bind_ok_iff.mpr ⟨_, requireBool_again _ _, ?_⟩
  refine bind_ok_iff.mpr ⟨_, requireIp_again _ hz.bindAddress, ?_⟩
  refine bind_ok_iff.mpr ⟨_, requireInt_again _ hz.publicPort, ?_⟩
  refine bind_ok_iff.mpr ⟨_, requireInt_again _ ⟨Nat.zero_le _, hz.secondaryPort⟩, ?_⟩
  refine bind_ok_iff.mpr ⟨_, requireInt_again _ ⟨Nat.zero_le _, hz.tertiaryPort⟩, ?_⟩
  refine bind_ok_iff.mpr ⟨_, requireBool_again _ _, ?_⟩
  refine bind_ok_iff.mpr ⟨_, requireBool_again _ _, ?_⟩
  refine bind_ok_iff.mpr ⟨(), refuseIf_eq_ok.mpr ?_, rfl⟩
  rw [decide_eq_false_iff_not, not_not]
  exact hz.distinct

theorem validateController_again {c : Controller} (hc : c.Valid) (listeners : List Listener) :
    validateController c.toJson listeners = .ok (c, c.warnings listeners) := by
  unfold validateController
  refine bind_ok_iff.mpr ⟨_, rfl, ?_⟩
  simp only [get_map, List.find?_cons, String.reduceEq, decide_false, decide_true,
    Option.map_some, Option.getD_some]
  refine bind_ok_iff.mpr ⟨_, requireExposure_again _ _, ?_⟩
  refine bind_ok_iff.mpr ⟨_, requireIp_again _ hc.bindAddress, ?_⟩
  exact bind_ok_iff.mpr ⟨_, requireInt_again _ hc.port, rfl⟩

theorem validateRelayServer_again {r : RelayServer} (hr : r.Valid) :
    validateRelayServer r.toJson = .ok (r, r.warnings) := by
  obtain ⟨ip, hip, -⟩ := hr.bindAddress
  unfold validateRelayServer
  refine bind_ok_iff.mpr ⟨_, rfl, ?_⟩
  simp only [get_map, getOr_map, List.find?_cons, String.reduceEq, decide_false, decide_true,
    Option.map_some, Option.getD_some]
  refine bind_ok_iff.mpr ⟨_, requireBool_again _ _, ?_⟩
  refine bind_ok_iff.mpr ⟨_, requireIp_again _ hr.bindAddress, ?_⟩
  refine bind_ok_iff.mpr ⟨_, requireInt_again _ hr.port, ?_⟩
  refine bind_ok_iff.mpr ⟨_, requireCidrs_again _ hr.allowedSourceCidrs, ?_⟩
  refine bind_ok_iff.mpr ⟨_, requireInt_again _ hr.maxConnections, ?_⟩
  refine bind_ok_iff.mpr ⟨_, requireInt_again _ hr.maxConnectionsPerIp, ?_⟩
  refine bind_ok_iff.mpr ⟨_, requireInt_again _ hr.packetsPerSecond, ?_⟩
  refine bind_ok_iff.mpr ⟨_, requireInt_again _ hr.bytesPerSecond, ?_⟩
  refine bind_ok_iff.mpr ⟨_, requireInt_again _ hr.globalPacketsPerSecond, ?_⟩
  refine bind_ok_iff.mpr ⟨_, requireInt_again _ hr.globalBytesPerSecond, ?_⟩
  refine bind_ok_iff.mpr ⟨_, requireInt_again _ hr.handshakeTimeoutSeconds, ?_⟩
  refine bind_ok_iff.mpr ⟨_, requireInt_again _ hr.idleTimeoutSeconds, ?_⟩
  refine bind_ok_iff.mpr ⟨_, requireInt_again _ hr.maxDestinations, ?_⟩
  refine bind_ok_iff.mpr ⟨_, requireInt_again _ hr.minDestinationPort, ?_⟩
  refine bind_ok_iff.mpr ⟨false, anyOf_eq_false.mpr hr.ipv4, ?_⟩
  refine bind_ok_iff.mpr ⟨(), refuseIf_eq_ok.mpr rfl, ?_⟩
  refine bind_ok_iff.mpr ⟨ip, ipAddress_eq_ok.mpr hip, ?_⟩
  unfold RelayServer.warnings RelayServer.isPublic
  rw [hip]
  rfl

theorem requireClientHost_again {c : RelayClient} (hc : c.Valid) :
    requireClientHost c.mode (.str c.host) = .ok c.host ↔
      (c.mode.isCustom → c.host.length ≤ 253) := by
  unfold requireClientHost
  by_cases hcustom : c.mode = .customAuto ∨ c.mode = .customForce
  · rw [if_pos hcustom, requireHost_again (hc.host hcustom)]
    exact ⟨fun h _ => h, fun h => h hcustom⟩
  · rw [if_neg hcustom]
    exact iff_of_true rfl fun h => absurd h hcustom

/-- The relay client is returned as it is, unless its host is too long to be checked again. -/
theorem validateRelayClient_again {c : RelayClient} (hc : c.Valid) :
    validateRelayClient c.toJson = .ok (c, c.warnings) ↔
      (c.mode.isCustom → c.host.length ≤ 253) := by
  rw [← requireClientHost_again hc]
  unfold validateRelayClient
  constructor
  · intro h
    obtain ⟨members, hm, h⟩ := bind_ok_iff.mp h
    obtain rfl := (Json.obj.inj (requireDict_eq_ok.mp hm)).symm
    simp only [get_map, getOr_map, List.find?_cons, String.reduceEq, decide_false, decide_true,
      Option.map_some, Option.getD_some, requireClientMode_again] at h
    obtain ⟨mode, hmode, h⟩ := bind_ok_iff.mp h
    obtain ⟨host, hhost, h⟩ := bind_ok_iff.mp h
    obtain ⟨port, -, h⟩ := bind_ok_iff.mp h
    have hclient := congrArg Prod.fst (pure_eq_ok.mp h)
    rw [← Except.ok.inj hmode] at hhost
    rw [hhost, ← congrArg RelayClient.host hclient]
  · intro h
    refine bind_ok_iff.mpr ⟨_, rfl, ?_⟩
    simp only [get_map, getOr_map, List.find?_cons, String.reduceEq, decide_false, decide_true,
      Option.map_some, Option.getD_some]
    refine bind_ok_iff.mpr ⟨_, requireClientMode_again _ _, ?_⟩
    refine bind_ok_iff.mpr ⟨_, h, ?_⟩
    exact bind_ok_iff.mpr ⟨_, requireInt_again _ hc.port, rfl⟩

/-! ## 5. The whole configuration -/

/-- **A valid configuration is accepted as it is, unless the host of a custom relay is longer than
`require_host` allows.** -/
theorem validateConfig_again {nfkc : PyStr → PyStr} {c : Config} (hc : c.Valid nfkc) :
    validateConfig nfkc c.toJson = .ok (c, c.warnings nfkc) ↔
      (c.relayClient.mode.isCustom → c.relayClient.host.length ≤ 253) := by
  rw [← validateRelayClient_again hc.relayClient]
  have hkeys (a b c d e : Json) : hasExpectedKeys
      ([("management", a), ("zerotier", b), ("controller", c), ("relayServer", d),
        ("relayClient", e)].map fun m : String × Json => (py m.1, m.2)) = true := by
    simp [hasExpectedKeys, expectedKeys]
  unfold validateConfig
  constructor
  · intro h
    obtain ⟨root, hroot, h⟩ := bind_ok_iff.mp h
    obtain rfl := (Json.obj.inj (requireDict_eq_ok.mp hroot)).symm
    simp only [get_map, List.find?_cons, String.reduceEq, decide_false, decide_true,
      Option.map_some, Option.getD_some] at h
    obtain ⟨_, -, h⟩ := bind_ok_iff.mp h
    obtain ⟨management, -, h⟩ := bind_ok_iff.mp h
    obtain ⟨zerotier, -, h⟩ := bind_ok_iff.mp h
    obtain ⟨controller, -, h⟩ := bind_ok_iff.mp h
    obtain ⟨relay, -, h⟩ := bind_ok_iff.mp h
    obtain ⟨client, hclient, h⟩ := bind_ok_iff.mp h
    obtain ⟨_, -, h⟩ := bind_ok_iff.mp h
    have hconfig := congrArg (fun r => r.1.relayClient) (pure_eq_ok.mp h)
    have hwarnings := (valid_of_validateRelayClient hclient).2
    refine hclient.trans (congrArg Except.ok (Prod.ext hconfig ?_))
    exact hwarnings.trans (congrArg RelayClient.warnings hconfig)
  · intro h
    refine bind_ok_iff.mpr ⟨_, rfl, bind_ok_iff.mpr ⟨(), refuseIf_eq_ok.mpr ?_, ?_⟩⟩
    · exact decide_eq_false fun hnot => absurd (hnot.symm.trans (hkeys _ _ _ _ _)) (by decide)
    simp only [get_map, List.find?_cons, String.reduceEq, decide_false, decide_true,
      Option.map_some, Option.getD_some]
    refine bind_ok_iff.mpr ⟨_, validateManagement_again hc.management, ?_⟩
    refine bind_ok_iff.mpr ⟨_, validateZeroTier_again hc.zerotier, ?_⟩
    refine bind_ok_iff.mpr ⟨_, validateController_again hc.controller _, ?_⟩
    refine bind_ok_iff.mpr ⟨_, validateRelayServer_again hc.relayServer, ?_⟩
    refine bind_ok_iff.mpr ⟨_, h, ?_⟩
    exact bind_ok_iff.mpr ⟨(), hc.conflicts, rfl⟩

/-- The host that was sent for a custom relay is an address whose normal form is longer than 253
characters. -/
def HostGrows (raw : Json) : Prop :=
  (field (field raw "relayClient") "mode" = .str (py "custom-auto") ∨
    field (field raw "relayClient") "mode" = .str (py "custom-force")) ∧
  ∃ s ip, field (field raw "relayClient") "host" = .str s ∧ IpAddress.parse s = some ip ∧
    253 < ip.str.length

/-- The host of a valid custom relay is too long only if it grew. -/
theorem hostGrows_iff {value : Json} {result : RelayClient × List PyStr}
    (h : validateRelayClient value = .ok result) :
    ¬ (result.1.mode.isCustom → result.1.host.length ≤ 253) ↔
      (field value "mode" = .str (py "custom-auto") ∨
        field value "mode" = .str (py "custom-force")) ∧
      ∃ s ip, field value "host" = .str s ∧ IpAddress.parse s = some ip ∧ 253 < ip.str.length := by
  unfold validateRelayClient at h
  obtain ⟨members, hm, h⟩ := bind_ok_iff.mp h
  obtain ⟨mode, hmode, h⟩ := bind_ok_iff.mp h
  obtain ⟨host, hhost, h⟩ := bind_ok_iff.mp h
  obtain ⟨port, -, h⟩ := bind_ok_iff.mp h
  rw [← pure_eq_ok.mp h, requireDict_eq_ok.mp hm]
  have hcustom : mode.isCustom ↔ field (.obj members) "mode" = .str (py "custom-auto") ∨
      field (.obj members) "mode" = .str (py "custom-force") := by
    obtain ⟨c, hc, hvalue, rfl⟩ := requireChoice_eq_ok hmode
    change c.2.isCustom ↔ get members "mode" = _ ∨ get members "mode" = _
    rw [hvalue]
    have hall : ∀ c ∈ clientModes, (c.2 = .customAuto ∨ c.2 = .customForce) ↔
        py c.1 = py "custom-auto" ∨ py c.1 = py "custom-force" := by decide
    simp only [Json.str.injEq]
    exact hall c hc
  rw [Classical.not_imp, not_le, hcustom]
  refine and_congr_right fun hmodes => ?_
  have hmode' : mode = .customAuto ∨ mode = .customForce := hcustom.mpr hmodes
  have hchecked := hhost
  unfold requireClientHost at hchecked
  rw [if_pos hmode'] at hchecked
  obtain ⟨s, hs, hchecked⟩ := requireHost_eq_ok hchecked
  obtain ⟨hne, hlen, hcases⟩ := requireHost_str_eq_ok.mp hchecked
  have hfield : field (.obj members) "host" = .str s := by
    refine field_of_getOr hs fun hdefault => ?_
    exact hne (Json.str.inj hdefault).symm
  rw [hfield]
  constructor
  · intro hlong
    rcases hcases with ⟨ip, hip, hhost⟩ | ⟨-, hsafe, hhost⟩
    · exact ⟨s, ip, rfl, hip, hhost ▸ hlong⟩
    · have hname := (isName_of_isSafeHostname hsafe).lower
      rw [← hhost] at hname
      exact absurd hname.length.2 (not_le.mpr hlong)
  · rintro ⟨s', ip, hs', hip, hlong⟩
    cases hs'
    rcases hcases with ⟨ip', hip', hhost⟩ | ⟨hnone, -⟩
    · rw [hip] at hip'
      cases hip'
      exact hhost ▸ hlong
    · rw [hip] at hnone
      cases hnone

/-- **`validate_config` accepts what it returned, with the same warnings, exactly when the host of
the relay client did not grow beyond 253 characters.** -/
theorem normalization_idempotent_iff {nfkc : PyStr → PyStr} {raw : Json} {config : Config}
    {warnings : List PyStr} (h : validateConfig nfkc raw = .ok (config, warnings)) :
    validateConfig nfkc config.toJson = .ok (config, warnings) ↔ ¬ HostGrows raw := by
  obtain ⟨hvalid, rfl⟩ := valid_of_validateConfig h
  rw [validateConfig_again hvalid, ← not_iff_not, not_not]
  unfold validateConfig at h
  obtain ⟨root, hroot, h⟩ := bind_ok_iff.mp h
  obtain ⟨-, -, h⟩ := bind_ok_iff.mp h
  obtain ⟨management, -, h⟩ := bind_ok_iff.mp h
  obtain ⟨zerotier, -, h⟩ := bind_ok_iff.mp h
  obtain ⟨controller, -, h⟩ := bind_ok_iff.mp h
  obtain ⟨relay, -, h⟩ := bind_ok_iff.mp h
  obtain ⟨client, hclient, h⟩ := bind_ok_iff.mp h
  obtain ⟨_, -, h⟩ := bind_ok_iff.mp h
  have hconfig := congrArg (fun r => r.1.relayClient) (pure_eq_ok.mp h)
  have hgrows := hostGrows_iff hclient
  rw [show client.1 = config.relayClient from hconfig] at hgrows
  rw [hgrows, requireDict_eq_ok.mp hroot]
  rfl

/-- Addresses, networks and the host of the relay are normalized once. -/
theorem normalization_idempotent_sample :
    validateConfig id sampleConfig.toJson = .ok (sampleConfig, []) ↔
      ¬ HostGrows sampleRequest.toJson :=
  normalization_idempotent_iff validateConfig_sample

/-- The default configuration with a relay at `address`, whose scope is `length` letters long. -/
def withScopedHost (address : String) (length : Nat) : Config :=
  { defaultConfig with
    relayClient := {
      mode := .customAuto
      host := py address ++ ch '%' :: List.replicate length (ch 'a')
      port := 443 } }

/-- A host of 253 characters is stored with 254, and refused when it comes back. -/
theorem stored_host_refused : ∃ raw config warnings,
    validateConfig id raw = .ok (config, warnings) ∧
    validateConfig id config.toJson ≠ .ok (config, warnings) := by
  have haccepted : (validateConfig id (withScopedHost "1::3:4:5:6:7:8" 238).toJson).toOption =
      some (withScopedHost "1:0:3:4:5:6:7:8" 238, []) := by
    decide +kernel
  have hconfig := eq_ok_of_toOption haccepted
  refine ⟨_, _, _, hconfig, fun hagain => ?_⟩
  obtain ⟨hvalid, hwarnings⟩ := valid_of_validateConfig hconfig
  rw [hwarnings] at hagain
  have hlength := (validateConfig_again hvalid).mp hagain (.inl rfl)
  revert hlength
  decide +kernel

end ZtPlanet.Agent
