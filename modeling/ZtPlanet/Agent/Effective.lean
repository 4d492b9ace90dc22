/-
# The effective listeners

`effective_management_listeners` returns the configured listeners and, where ZeroTier access is
allowed and no listener covers the ZeroTier address, one more that inherits everything but its
address from the first.

For a valid section nothing in it raises: `effective_eq` says what it returns, and the inherited
listener is a definition of its own.
-/
import ZtPlanet.Agent.Valid
import ZtPlanet.Agent.Injection

namespace ZtPlanet.Agent

open ZtPlanet.Python

theorem IsNormalAddress.ne_nil {text : PyStr} (h : IsNormalAddress text) : text ≠ [] := by
  rintro rfl
  obtain ⟨ip, hip, -⟩ := h
  have hnone : IpAddress.parse [] = none := by decide
  rw [hnone] at hip
  cases hip

/-- Two normal addresses with one value are one text. -/
theorem IsNormalAddress.eq_of_parse {s t : PyStr} {ip : IpAddress} (hs : IsNormalAddress s)
    (ht : IsNormalAddress t) (hsip : IpAddress.parse s = some ip)
    (htip : IpAddress.parse t = some ip) : s = t := by
  obtain ⟨a, ha, rfl⟩ := hs
  obtain ⟨b, hb, rfl⟩ := ht
  rw [hsip] at ha
  rw [htip] at hb
  cases ha
  cases hb
  rfl

/-- No listener has the address of the section or is the wildcard of its family. -/
def Management.isUncovered (m : Management) (selected : IpAddress) : Bool :=
  m.listeners.all fun l => l.address != m.zeroTierAddress && !isWildcardFor selected l

/-- The listener that the section inherits, if it inherits one. -/
def Management.inherited (m : Management) : Option Listener :=
  match IpAddress.parse m.zeroTierAddress, m.listeners.head? with
  | some selected, some first =>
    if m.allowZeroTier && m.isUncovered selected then
      some { first with address := m.zeroTierAddress }
    else none
  | _, _ => none

theorem inherited_eq_some {m : Management} {l : Listener} :
    m.inherited = some l ↔
      m.allowZeroTier = true ∧ ∃ selected first, IpAddress.parse m.zeroTierAddress = some selected ∧
        m.listeners.head? = some first ∧ m.isUncovered selected = true ∧
          l = { first with address := m.zeroTierAddress } := by
  unfold Management.inherited
  split
  · rename_i selected first hselected hfirst
    rw [hselected, hfirst]
    constructor
    · intro h
      split at h
      · rename_i hc
        rw [Bool.and_eq_true] at hc
        cases h
        exact ⟨hc.1, selected, first, rfl, rfl, hc.2, rfl⟩
      · cases h
    · rintro ⟨hallow, selected', first', hs, hf, huncovered, rfl⟩
      cases hs
      cases hf
      rw [hallow, huncovered]
      rfl
  · rename_i hnone
    constructor
    · intro h
      cases h
    · rintro ⟨-, selected, first, hs, hf, -⟩
      exact absurd hf (hnone selected first hs)

/-- What `effective_management_listeners` returns for a section that was accepted. -/
theorem effective_eq {nfkc : PyStr → PyStr} {m : Management} (hm : m.Valid nfkc) :
    effectiveManagementListeners m = .ok (m.listeners ++ m.inherited.toList) := by
  unfold effectiveManagementListeners Management.inherited
  cases hallow : m.allowZeroTier with
  | false =>
    rw [if_neg (fun h => absurd h.1 (by decide))]
    split <;> simp
  | true =>
    have hne := (hm.access hallow).2.ne_nil
    obtain ⟨selected, hselected, -⟩ := (hm.access hallow).2
    obtain ⟨first, rest, hlist⟩ := List.exists_cons_of_length_pos hm.count.1
    have hcovered := anyOf_covers m.zeroTierAddress selected fun l hl =>
      (hm.listeners l hl).address.imp fun _ hip => hip.1
    have hany : (m.listeners.any fun l => l.address == m.zeroTierAddress ||
        isWildcardFor selected l) = !m.isUncovered selected := by
      unfold Management.isUncovered
      rw [List.not_all_eq_any_not]
      refine congrArg (List.any _) (funext fun l => ?_)
      cases isWildcardFor selected l <;> by_cases h : l.address = m.zeroTierAddress <;>
        simp [h, bne]
    rw [if_pos ⟨rfl, hne⟩, ipAddress_eq_ok.mpr hselected, hselected]
    show (anyOf _ m.listeners >>= _) = _
    rw [hcovered, hany]
    cases huncovered : m.isUncovered selected with
    | true => simp [hlist, huncovered, Bind.bind, Except.bind, pure, Except.pure]
    | false => simp [hlist, huncovered, Bind.bind, Except.bind, pure, Except.pure]

/-- The inherited listener is as valid as the first one. -/
theorem valid_of_mem_effective {nfkc : PyStr → PyStr} {m : Management} (hm : m.Valid nfkc)
    {l : Listener} (hl : l ∈ m.listeners ++ m.inherited.toList) : l.Valid := by
  rcases List.mem_append.mp hl with hl | hl
  · exact hm.listeners l hl
  · obtain ⟨hallow, selected, first, -, hfirst, -, rfl⟩ :=
      inherited_eq_some.mp (Option.mem_toList.mp hl)
    obtain ⟨-, hport, hcidrs⟩ := hm.listeners first (List.mem_of_mem_head? hfirst)
    exact ⟨(hm.access hallow).2, hport, hcidrs⟩

end ZtPlanet.Agent
