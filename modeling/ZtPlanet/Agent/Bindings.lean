/-
# The sockets of a deployment

The sockets that an applied configuration binds: one for each effective listener, one for the relay
where it is enabled, and one for the controller where its exposure is direct.

A socket accepts connections on a set of addresses, which for a wildcard is its whole family.  Two
sockets overlap in the sense of `bindings_overlap` exactly when they have one port and these sets
meet (`meets_iff`), so the test is symmetric.

`validate_config` compares the configured listeners with each other, and the relay and the
controller with the effective list.  It never compares the inherited listener with the configured
ones.  That listener is added only if no wildcard of its family is configured, so it overlaps one of
them exactly when it is a wildcard itself and shares its port with a listener of its family
(`bindingsDisjoint_iff`).
-/
import ZtPlanet.Agent.Effective

namespace ZtPlanet.Agent

open ZtPlanet.Python
open ZtPlanet.Lib (bind_ok_iff)

/-! ## 1. Overlapping sockets -/

/-- The local addresses on which a socket bound to `a` accepts connections. -/
def localAddresses (a : IpAddress) : Set IpAddress :=
  {b | b.version = a.version ∧ (a.isUnspecified = true ∨ b = a)}

/-- What `bindings_overlap` asks of the two addresses. -/
def meets (a b : IpAddress) : Bool :=
  a.version == b.version && (a == b || a.isUnspecified || b.isUnspecified)

/-- Two sockets meet exactly when there is an address on which both accept. -/
theorem meets_iff {a b : IpAddress} :
    meets a b = true ↔ (localAddresses a ∩ localAddresses b).Nonempty := by
  simp only [meets, Bool.and_eq_true, Bool.or_eq_true, beq_iff_eq]
  constructor
  · rintro ⟨hversion, (rfl | ha) | hb⟩
    · exact ⟨a, ⟨rfl, .inr rfl⟩, rfl, .inr rfl⟩
    · exact ⟨b, ⟨hversion.symm, .inl ha⟩, rfl, .inr rfl⟩
    · exact ⟨a, ⟨rfl, .inr rfl⟩, hversion, .inl hb⟩
  · rintro ⟨c, ⟨hca, ha⟩, hcb, hb⟩
    refine ⟨hca.symm.trans hcb, ?_⟩
    rcases ha with ha | rfl
    · exact .inl (.inr ha)
    · rcases hb with hb | rfl
      · exact .inr hb
      · exact .inl (.inl rfl)

theorem meets_comm (a b : IpAddress) : meets a b = meets b a := by
  rw [Bool.eq_iff_iff, meets_iff, meets_iff, Set.inter_comm]

theorem bindingsOverlap_eq {s t : PyStr} {p q : Nat} {a b : IpAddress}
    (ha : IpAddress.parse s = some a) (hb : IpAddress.parse t = some b) :
    bindingsOverlap s p t q = .ok (p == q && meets a b) := by
  unfold bindingsOverlap
  rw [ipAddress_eq_ok.mpr ha, ipAddress_eq_ok.mpr hb]
  by_cases hpq : p = q
  · rw [if_neg (not_not.mpr hpq)]
    simp [hpq, meets, Bind.bind, Except.bind, pure, Except.pure]
  · rw [if_pos hpq]
    simp [hpq]

/-- A socket: the address and the port it is bound to. -/
structure Binding where
  address : PyStr
  port : Nat
deriving DecidableEq

/-- `bindings_overlap` finds that two sockets do not overlap. -/
def Binding.Apart (a b : Binding) : Prop :=
  bindingsOverlap a.address a.port b.address b.port = .ok false

/-- The addresses of a socket are parsed without an error. -/
def Binding.IsNormal (b : Binding) : Prop := IsNormalAddress b.address

theorem Binding.apart_comm {a b : Binding} (ha : a.IsNormal) (hb : b.IsNormal) :
    a.Apart b ↔ b.Apart a := by
  obtain ⟨x, hx, -⟩ := ha
  obtain ⟨y, hy, -⟩ := hb
  unfold Binding.Apart
  rw [bindingsOverlap_eq hx hy, bindingsOverlap_eq hy hx, meets_comm x y, Bool.beq_comm]

/-! ## 2. The sockets of a configuration -/

def Listener.binding (l : Listener) : Binding := ⟨l.address, l.port⟩

def RelayServer.binding (r : RelayServer) : Binding := ⟨r.bindAddress, r.port⟩

def Controller.binding (c : Controller) : Binding := ⟨c.bindAddress, c.port⟩

/-- The sockets that the deployment of a configuration binds. -/
def deploymentBindings (config : Config) : Except PyError (List Binding) := do
  let listeners ← effectiveManagementListeners config.management
  return listeners.map Listener.binding ++
    (if config.relayServer.enabled then [config.relayServer.binding] else []) ++
    (if config.controller.exposure = .direct then [config.controller.binding] else [])

/-- No two sockets of the deployment overlap. -/
def BindingsDisjoint (config : Config) : Prop :=
  ∃ bindings, deploymentBindings config = .ok bindings ∧ bindings.Pairwise Binding.Apart

/-- The address of a listener is of the given family. -/
def hasVersion (version : Nat) (l : Listener) : Bool :=
  match IpAddress.parse l.address with
  | some ip => ip.version == version
  | none => false

/-- ZeroTier access adds a wildcard listener that no configured wildcard stands for, on a port on
which a listener of its family is configured. -/
def InheritsWildcard (m : Management) : Prop :=
  m.allowZeroTier = true ∧ ∃ selected first, IpAddress.parse m.zeroTierAddress = some selected ∧
    m.listeners.head? = some first ∧ selected.isUnspecified = true ∧
      (∀ l ∈ m.listeners, isWildcardFor selected l = false) ∧
        ∃ l ∈ m.listeners, l.port = first.port ∧ hasVersion selected.version l = true

/-! ## 3. The inherited listener -/

/-- A wildcard is uncovered if no other wildcard of its family is configured. -/
theorem isUncovered_of_isUnspecified {m : Management} {selected : IpAddress}
    (hselected : IpAddress.parse m.zeroTierAddress = some selected)
    (hunspecified : selected.isUnspecified = true)
    (hnone : ∀ l ∈ m.listeners, isWildcardFor selected l = false) :
    m.isUncovered selected = true := by
  unfold Management.isUncovered
  rw [List.all_eq_true]
  intro l hl
  rw [hnone l hl, Bool.not_false, Bool.and_true, bne_iff_ne]
  intro heq
  have hwildcard : isWildcardFor selected l = true := by
    unfold isWildcardFor
    rw [heq, hselected]
    simp [hunspecified]
  rw [hnone l hl] at hwildcard
  cases hwildcard

/-- An uncovered address meets a configured listener only as a wildcard. -/
theorem apart_inherited {nfkc : PyStr → PyStr} {m : Management} (hm : m.Valid nfkc)
    {selected : IpAddress} {port : Nat} (hallow : m.allowZeroTier = true)
    (hselected : IpAddress.parse m.zeroTierAddress = some selected)
    (huncovered : m.isUncovered selected = true) {l : Listener} (hl : l ∈ m.listeners) :
    l.binding.Apart ⟨m.zeroTierAddress, port⟩ ↔
      ¬(selected.isUnspecified = true ∧ l.port = port ∧ hasVersion selected.version l = true) := by
  have hnormal := (hm.listeners l hl).address
  obtain ⟨ip, hip, -⟩ := hnormal
  have huncovered := List.all_eq_true.mp huncovered l hl
  unfold isWildcardFor at huncovered
  unfold Binding.Apart Listener.binding hasVersion
  rw [bindingsOverlap_eq hip hselected]
  rw [hip, Bool.and_eq_true, bne_iff_ne] at huncovered
  obtain ⟨hne, hwildcard⟩ := huncovered
  have hwildcard : (!(ip.isUnspecified && ip.version == selected.version)) = true := hwildcard
  have hne : ip ≠ selected := by
    rintro rfl
    exact hne ((hm.listeners l hl).address.eq_of_parse (hm.access hallow).2 hip hselected)
  have hfamily :
      meets ip selected = (selected.isUnspecified && ip.version == selected.version) := by
    unfold meets
    rw [beq_eq_false_iff_ne.mpr hne]
    cases hversion : ip.version == selected.version with
    | false => rw [Bool.false_and, Bool.and_false]
    | true =>
      rw [hversion, Bool.and_true, Bool.not_eq_true'] at hwildcard
      rw [hwildcard, Bool.true_and, Bool.false_or, Bool.false_or, Bool.and_true]
  rw [hfamily, hip, Except.ok.injEq, ← Bool.not_eq_true]
  simp only [Bool.and_eq_true, beq_iff_eq]
  refine not_congr ⟨?_, ?_⟩
  · rintro ⟨hport, hunspecified, hversion⟩
    exact ⟨hunspecified, hport, hversion⟩
  · rintro ⟨hunspecified, hport, hversion⟩
    exact ⟨hport, hunspecified, hversion⟩

/-- The configured listeners have been compared with each other. -/
theorem listeners_apart {nfkc : PyStr → PyStr} {m : Management} (hm : m.Valid nfkc) :
    (m.listeners.map Listener.binding).Pairwise Binding.Apart := by
  rw [List.pairwise_map]
  refine List.Pairwise.imp_of_mem ?_ hm.apart
  intro l l' hl hl' hapart
  have hnormal : l.binding.IsNormal := (hm.listeners l hl).address
  have hnormal' : l'.binding.IsNormal := (hm.listeners l' hl').address
  exact (Binding.apart_comm hnormal' hnormal).mp hapart

/-- The effective listeners are apart exactly if no wildcard among them is inherited onto a port in
use. -/
theorem effective_apart_iff {nfkc : PyStr → PyStr} {m : Management} (hm : m.Valid nfkc) :
    ((m.listeners ++ m.inherited.toList).map Listener.binding).Pairwise Binding.Apart ↔
      ¬InheritsWildcard m := by
  cases hinherited : m.inherited with
  | none =>
    rw [Option.toList_none, List.append_nil]
    refine ⟨fun _ => ?_, fun _ => listeners_apart hm⟩
    rintro ⟨hallow, selected, first, hselected, hfirst, hunspecified, hnone, -⟩
    rw [inherited_eq_some.mpr ⟨hallow, selected, first, hselected, hfirst,
      isUncovered_of_isUnspecified hselected hunspecified hnone, rfl⟩] at hinherited
    cases hinherited
  | some inherited =>
    obtain ⟨hallow, selected, first, hselected, hfirst, huncovered, rfl⟩ :=
      inherited_eq_some.mp hinherited
    have happart : ∀ l ∈ m.listeners, l.binding.Apart ⟨m.zeroTierAddress, first.port⟩ ↔
        ¬(selected.isUnspecified = true ∧ l.port = first.port ∧
          hasVersion selected.version l = true) :=
      fun l hl => apart_inherited hm hallow hselected huncovered hl
    rw [Option.toList_some, List.map_append, List.pairwise_append]
    constructor
    · rintro ⟨-, -, hcross⟩ ⟨-, selected', first', hs, hf, hunspecified, -, l, hl, hport, hversion⟩
      rw [hselected] at hs
      rw [hfirst] at hf
      cases hs
      cases hf
      exact (happart l hl).mp (hcross _ (List.mem_map_of_mem hl) _ (List.mem_singleton.mpr rfl))
        ⟨hunspecified, hport, hversion⟩
    · intro hnot
      refine ⟨listeners_apart hm, List.pairwise_singleton _ _, ?_⟩
      intro b hb b' hb'
      obtain ⟨l, hl, rfl⟩ := List.mem_map.mp hb
      rw [List.mem_singleton.mp hb']
      refine (happart l hl).mpr ?_
      rintro ⟨hunspecified, hport, hversion⟩
      refine hnot ⟨hallow, selected, first, hselected, hfirst, hunspecified, fun k hk => ?_, l, hl,
        hport, hversion⟩
      have hk := List.all_eq_true.mp huncovered k hk
      rw [Bool.and_eq_true, Bool.not_eq_true'] at hk
      exact hk.2

/-! ## 4. The relay and the controller -/

/-- The cross-section checks compare the relay and the controller with every effective listener and
with each other. -/
theorem validateConflicts_eq_ok {nfkc : PyStr → PyStr} {config : Config}
    (hm : config.management.Valid nfkc) :
    validateConflicts config = .ok () ↔
      (config.relayServer.enabled = true →
        ∀ l ∈ config.management.listeners ++ config.management.inherited.toList,
          config.relayServer.binding.Apart l.binding) ∧
      (config.controller.exposure = .direct →
        ∀ l ∈ config.management.listeners ++ config.management.inherited.toList,
          config.controller.binding.Apart l.binding) ∧
      (config.relayServer.enabled = true → config.controller.exposure = .direct →
        config.relayServer.binding.Apart config.controller.binding) := by
  have hoverlaps (b : Binding) :
      anyOf (fun l => bindingsOverlap b.address b.port l.address l.port)
        (config.management.listeners ++ config.management.inherited.toList) = .ok false ↔
      ∀ l ∈ config.management.listeners ++ config.management.inherited.toList,
        b.Apart l.binding := anyOf_eq_false
  unfold validateConflicts
  rw [effective_eq hm]
  constructor
  · intro h
    obtain ⟨ls, hls, h⟩ := bind_ok_iff.mp h
    cases hls
    obtain ⟨_, hrelay, h⟩ := bind_ok_iff.mp h
    obtain ⟨_, hcontroller, hboth⟩ := bind_ok_iff.mp h
    refine ⟨fun henabled => ?_, fun hdirect => ?_, fun henabled hdirect => ?_⟩
    · exact (hoverlaps config.relayServer.binding).mp (refuseWhen_eq_ok.mp hrelay henabled)
    · exact (hoverlaps config.controller.binding).mp
        (refuseWhen_eq_ok.mp hcontroller (beq_iff_eq.mpr hdirect))
    · refine refuseWhen_eq_ok.mp hboth ?_
      rw [henabled, hdirect]
      rfl
  · rintro ⟨hrelay, hcontroller, hboth⟩
    refine bind_ok_iff.mpr ⟨_, rfl, bind_ok_iff.mpr ⟨(), ?_, bind_ok_iff.mpr ⟨(), ?_, ?_⟩⟩⟩
    · exact refuseWhen_eq_ok.mpr fun h =>
        (hoverlaps config.relayServer.binding).mpr (hrelay h)
    · exact refuseWhen_eq_ok.mpr fun h =>
        (hoverlaps config.controller.binding).mpr (hcontroller (beq_iff_eq.mp h))
    · refine refuseWhen_eq_ok.mpr fun h => ?_
      rw [Bool.and_eq_true, beq_iff_eq] at h
      exact hboth h.1 h.2

/-- **The sockets of an accepted configuration are disjoint exactly if ZeroTier access does not add
a wildcard listener on a port on which a listener of its family is configured.** -/
theorem bindingsDisjoint_iff {nfkc : PyStr → PyStr} {raw : Json} {config : Config}
    {warnings : List PyStr} (h : validateConfig nfkc raw = .ok (config, warnings)) :
    BindingsDisjoint config ↔ ¬InheritsWildcard config.management := by
  obtain ⟨hvalid, -⟩ := valid_of_validateConfig h
  have hm := hvalid.management
  obtain ⟨hrelay, hcontroller, hboth⟩ := (validateConflicts_eq_ok hm).mp hvalid.conflicts
  have hnormal : ∀ l ∈ config.management.listeners ++ config.management.inherited.toList,
      l.binding.IsNormal := fun l hl => (valid_of_mem_effective hm hl).address
  have hrelayNormal : config.relayServer.binding.IsNormal := hvalid.relayServer.bindAddress
  have hcontrollerNormal : config.controller.binding.IsNormal := hvalid.controller.bindAddress
  rw [← effective_apart_iff hm]
  unfold BindingsDisjoint deploymentBindings
  rw [effective_eq hm]
  constructor
  · rintro ⟨bindings, hbindings, hapart⟩
    cases hbindings
    exact (List.pairwise_append.mp (List.pairwise_append.mp hapart).1).1
  · intro hapart
    refine ⟨_, rfl, List.pairwise_append.mpr ⟨List.pairwise_append.mpr ⟨hapart, ?_, ?_⟩, ?_, ?_⟩⟩
    · split <;> simp
    · -- listeners against the relay
      intro b hb b' hb'
      obtain ⟨l, hl, rfl⟩ := List.mem_map.mp hb
      split at hb'
      · rename_i henabled
        rw [List.mem_singleton.mp hb']
        exact (Binding.apart_comm hrelayNormal (hnormal l hl)).mp (hrelay henabled l hl)
      · cases hb'
    · split <;> simp
    · -- listeners and the relay against the controller
      intro b hb b' hb'
      split at hb'
      · rename_i hdirect
        rw [List.mem_singleton.mp hb']
        rcases List.mem_append.mp hb with hb | hb
        · obtain ⟨l, hl, rfl⟩ := List.mem_map.mp hb
          exact (Binding.apart_comm hcontrollerNormal (hnormal l hl)).mp (hcontroller hdirect l hl)
        · split at hb
          · rename_i henabled
            rw [List.mem_singleton.mp hb]
            exact hboth henabled hdirect
          · cases hb
      · cases hb'

/-- Four listeners and a relay; the ZeroTier access is one of the listeners. -/
theorem bindingsDisjoint_sample :
    BindingsDisjoint sampleConfig ↔ ¬InheritsWildcard sampleConfig.management :=
  bindingsDisjoint_iff validateConfig_sample

/-- The default configuration with ZeroTier access on every IPv4 address. -/
def withWildcardAccess : Config :=
  { defaultConfig with
    management := {
      defaultConfig.management with
      allowZeroTier := true
      zeroTierInterface := py "zt0"
      zeroTierAddress := py "0.0.0.0" } }

/-- The loopback listener and the wildcard that inherits its port overlap. -/
theorem inherited_wildcard_overlaps : ∃ raw config warnings,
    validateConfig id raw = .ok (config, warnings) ∧ ¬BindingsDisjoint config := by
  have haccepted : (validateConfig id withWildcardAccess.toJson).toOption.map Prod.fst =
      some withWildcardAccess := by
    decide +kernel
  obtain ⟨result, hresult, hconfig⟩ := Option.map_eq_some_iff.mp haccepted
  refine ⟨_, result.1, result.2, eq_ok_of_toOption hresult, ?_⟩
  rw [hconfig]
  rintro ⟨bindings, hbindings, hapart⟩
  have hbindings' : (deploymentBindings withWildcardAccess).toOption =
      some [⟨py "127.0.0.1", 3443⟩, ⟨py "0.0.0.0", 3443⟩] := by
    decide +kernel
  rw [hbindings] at hbindings'
  cases hbindings'
  have hoverlap : (bindingsOverlap (py "127.0.0.1") 3443 (py "0.0.0.0") 3443).toOption =
      some true := by
    decide +kernel
  have hfalse := (List.pairwise_cons.mp hapart).1 _ (List.mem_singleton.mpr rfl)
  unfold Binding.Apart at hfalse
  rw [hfalse] at hoverlap
  cases hoverlap

end ZtPlanet.Agent
