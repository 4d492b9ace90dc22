/-
# Which requests are answered with a refusal

`validate_config` refuses a value with a `ValidationError`, and `send_error_json` answers that with
400.  Two things are in the way.

A membership test `value not in {…}` hashes the value, and a list or an object has no hash; and
`urlparse` raises a `ValueError` of its own, for brackets that do not close, for instance.  Both are
answered with 500.

The text of a refusal is encoded when it is sent.  An address may have a scope with a lone surrogate
in it, and the refusal of a listener that overlaps another one shows the address: nothing is
answered then.

`refused_iff` says that there is nothing else, and exactly when the checks arrive there.
-/
import ZtPlanet.Agent.Bindings
import ZtPlanet.Agent.Writable

namespace ZtPlanet.Agent

open ZtPlanet.Python
open ZtPlanet.Lib (bind_ok_iff mapM_ok_iff)

/-! ## 1. Answers to exceptions -/

/-- The status of `send_error_json`. -/
def PyError.status : PyError → Nat
  | .validation _ | .invalidCidr _ _ => 400
  | .conflict _ _ => 409
  | _ => 500

/-- The exception is answered with 400: its text is encoded when the answer is sent. -/
def PyError.IsRefusal (e : PyError) : Prop := e.status = 400 ∧ e.encodable = true

/-- The computation ends with an exception that is not answered with 400. -/
def Escapes {α : Type} (x : Except PyError α) : Prop := ∃ e, x = .error e ∧ ¬ e.IsRefusal

theorem not_escapes_ok {α : Type} (a : α) : ¬ Escapes (.ok a) := by
  rintro ⟨e, h, -⟩
  cases h

theorem escapes_error {α : Type} {e : PyError} : Escapes (.error e : Except PyError α) ↔
    ¬ e.IsRefusal := by
  constructor
  · rintro ⟨e', h, he⟩
    cases h
    exact he
  · exact fun h => ⟨e, rfl, h⟩

/-- An exception comes from the first part or, when that returns, from the second. -/
theorem escapes_bind {α β : Type} {x : Except PyError α} {f : α → Except PyError β} :
    Escapes (x >>= f) ↔ Escapes x ∨ ∃ a, x = .ok a ∧ Escapes (f a) := by
  cases x with
  | error e =>
    have hbind : (Except.error e >>= f) = .error e := rfl
    rw [hbind, escapes_error, escapes_error]
    constructor
    · exact .inl
    · rintro (h | ⟨a, ha, -⟩)
      · exact h
      · cases ha
  | ok a =>
    constructor
    · exact fun h => .inr ⟨a, rfl, h⟩
    · rintro (h | ⟨a', ha, h⟩)
      · exact absurd h (not_escapes_ok a)
      · cases ha
        exact h

theorem Escapes.of_bind {α β : Type} {x : Except PyError α} {f : α → Except PyError β}
    (h : Escapes (x >>= f)) (hx : ¬ Escapes x) : ∃ a, x = .ok a ∧ Escapes (f a) :=
  (escapes_bind.mp h).resolve_left hx

theorem escapes_fail {α : Type} {message : PyStr} :
    Escapes (fail message : Except PyError α) ↔ encodable message = false := by
  unfold fail
  rw [escapes_error]
  unfold PyError.IsRefusal
  rw [Bool.eq_false_iff]
  exact not_congr (and_iff_right rfl)

theorem escapes_refuseIf {condition : Bool} {message : PyStr} :
    Escapes (refuseIf condition message) ↔ condition = true ∧ encodable message = false := by
  cases condition with
  | false => exact iff_of_false (not_escapes_ok ()) fun h => absurd h.1 (by decide)
  | true => exact escapes_fail.trans (and_iff_right rfl).symm

theorem not_escapes_refuseIf {condition : Bool} {message : PyStr} (h : encodable message = true) :
    ¬ Escapes (refuseIf condition message) := by
  rw [escapes_refuseIf, h]
  exact fun hr => absurd hr.2 (by decide)

/-! ## 2. The helpers -/

section

variable {value : Json} {name : PyStr}

theorem not_escapes_requireDict (hname : encodable name = true) :
    ¬ Escapes (requireDict value name) := by
  unfold requireDict
  split
  · exact not_escapes_ok _
  · simp [escapes_fail, hname]

theorem not_escapes_requireBool (hname : encodable name = true) :
    ¬ Escapes (requireBool value name) := by
  unfold requireBool
  split
  · exact not_escapes_ok _
  · simp [escapes_fail, hname]

theorem not_escapes_requireInt (hname : encodable name = true) (minimum maximum : Nat) :
    ¬ Escapes (requireInt value name minimum maximum) := by
  unfold requireInt
  split
  · dsimp only
    split
    · exact not_escapes_ok _
    · simp [escapes_fail, hname]
  · simp [escapes_fail, hname]

theorem not_escapes_requireIp (hname : encodable name = true) :
    ¬ Escapes (requireIp value name) := by
  unfold requireIp
  split
  · split
    · exact not_escapes_ok _
    · simp [escapes_fail, hname]
  · simp [escapes_fail, hname]

theorem not_escapes_requireCidr (hname : encodable name = true) :
    ¬ Escapes (requireCidr value name) := by
  unfold requireCidr
  split
  · split
    · exact not_escapes_ok _
    · rw [escapes_error, not_not]
      exact ⟨rfl, rfl⟩
  · simp [escapes_fail, hname]

/-- Where no element escapes, the list does not. -/
theorem not_escapes_mapM {α β : Type} {f : α → Except PyError β} :
    ∀ {items : List α}, (∀ x ∈ items, ¬ Escapes (f x)) → ¬ Escapes (items.mapM f)
  | [], _ => not_escapes_ok _
  | x :: items, h => by
    rw [List.mapM_cons, escapes_bind]
    rintro (hx | ⟨y, -, hrest⟩)
    · exact h x List.mem_cons_self hx
    · rcases escapes_bind.mp hrest with hrest | ⟨ys, -, hpure⟩
      · exact not_escapes_mapM (fun z hz => h z (List.mem_cons_of_mem x hz)) hrest
      · exact not_escapes_ok _ hpure

theorem not_escapes_requireCidrs (hname : encodable name = true) :
    ¬ Escapes (requireCidrs value name) := by
  unfold requireCidrs
  split
  · dsimp only
    split
    · simp [escapes_fail, hname]
    · exact not_escapes_mapM fun _ _ => not_escapes_requireCidr hname
  · simp [escapes_fail, hname]

theorem not_escapes_requireHost (hname : encodable name = true) :
    ¬ Escapes (requireHost value name) := by
  unfold requireHost
  split
  · dsimp only
    split
    · simp [escapes_fail, hname]
    · split
      · exact not_escapes_ok _
      · split
        · exact not_escapes_ok _
        · simp [escapes_fail, hname]
  · simp [escapes_fail, hname]

/-- A membership test escapes on what has no hash. -/
theorem escapes_requireChoice {α : Type} {choices : List (String × α)} {message : PyStr}
    (hmessage : encodable message = true) :
    Escapes (requireChoice choices value message) ↔ value.hashable = false := by
  unfold requireChoice
  split
  · have hhash : ∀ s, (Json.str s).hashable = true := fun s => rfl
    split
    · exact iff_of_false (not_escapes_ok _) (by simp [hhash])
    · exact iff_of_false (by simp [escapes_fail, hmessage]) (by simp [hhash])
  · split
    · next h => exact iff_of_false (by simp [escapes_fail, hmessage]) (by simp [h])
    · next h =>
      refine iff_of_true ?_ (by simpa using h)
      rw [escapes_error]
      exact fun hrefusal => absurd hrefusal.1 (by decide)

end

/-- Where the test returns on every element, it is known when `anyOf` returns true. -/
theorem anyOf_total {α : Type} {f : α → Except PyError Bool} :
    ∀ {items : List α}, (∀ x ∈ items, ∃ b, f x = .ok b) →
      ∃ b, anyOf f items = .ok b ∧ (b = true ↔ ∃ x ∈ items, f x = .ok true)
  | [], _ => ⟨false, rfl, by simp⟩
  | x :: items, h => by
    obtain ⟨b, hb⟩ := h x List.mem_cons_self
    obtain ⟨b', hb', hiff⟩ := anyOf_total fun y hy => h y (List.mem_cons_of_mem x hy)
    cases b with
    | true =>
      refine ⟨true, ?_, iff_of_true rfl ⟨x, List.mem_cons_self, hb⟩⟩
      rw [anyOf, hb]
      rfl
    | false =>
      refine ⟨b', ?_, ?_⟩
      · rw [anyOf, hb]
        exact hb'
      · rw [hiff]
        simp [hb]

/-! ## 3. The listeners -/

/-- The fields that are read in front of the membership test of a listener. -/
structure ReadsListener (item : Json) (members : List (PyStr × Json)) (address : PyStr)
    (port : Nat) : Prop where
  item : item = .obj members
  address : IsAddress (get members "address") address
  port : get members "port" = .int port ∧ 1 ≤ port ∧ port ≤ 65535

/-- The listener is refused because it overlaps one of those before it. -/
structure Overlapping (members : List (PyStr × Json)) (address : PyStr) (port : Nat)
    (clean : List Listener) : Prop where
  tlsMode : ∃ mode ∈ tlsModes, get members "tlsMode" = .str (py mode.1)
  allowedCidrs : ∀ name, ∃ cidrs,
    requireCidrs (getOr members "allowedCidrs" (.arr [])) name = .ok cidrs
  overlaps : ∃ l ∈ clean, bindingsOverlap address port l.address l.port = .ok true

theorem bindingsOverlap_total {s t : PyStr} (hs : IsNormalAddress s) (ht : IsNormalAddress t)
    (p q : Nat) : ∃ b, bindingsOverlap s p t q = .ok b := by
  obtain ⟨a, ha, -⟩ := hs
  obtain ⟨b, hb, -⟩ := ht
  exact ⟨_, bindingsOverlap_eq ha hb⟩

theorem bindingsOverlap_self {s : PyStr} (hs : IsNormalAddress s) (p : Nat) :
    bindingsOverlap s p s p = .ok true := by
  obtain ⟨a, ha, -⟩ := hs
  rw [bindingsOverlap_eq ha ha]
  simp [meets]

/-- The name in the refusals of `require_cidrs` does not decide whether it refuses. -/
theorem requireCidrs_name {value : Json} {name : PyStr} {cidrs : List PyStr}
    (h : requireCidrs value name = .ok cidrs) (name' : PyStr) :
    requireCidrs value name' = .ok cidrs := by
  unfold requireCidrs at h ⊢
  split at h
  · dsimp only at h ⊢
    split at h
    · cases h
    · next hlength =>
      rw [if_neg hlength, mapM_ok_iff]
      exact (mapM_ok_iff.mp h).imp fun _ _ hc => requireCidr_eq_ok.mpr (requireCidr_eq_ok.mp hc)
  · cases h

theorem requireTlsMode_ok {value : Json} (h : ∃ mode ∈ tlsModes, value = .str (py mode.1))
    (message : PyStr) : ∃ mode, requireChoice tlsModes value message = .ok mode := by
  obtain ⟨⟨text, mode⟩, hmode, rfl⟩ := h
  simp only [tlsModes, List.mem_cons, Prod.mk.injEq, List.not_mem_nil, or_false] at hmode
  rcases hmode with ⟨rfl, rfl⟩ | ⟨rfl, rfl⟩ | ⟨rfl, rfl⟩
  · exact ⟨.off, rfl⟩
  · exact ⟨.selfSigned, rfl⟩
  · exact ⟨.files, rfl⟩

/-- **A listener escapes** with a TLS mode that has no hash, and with an address that cannot be
encoded where it is to be shown. -/
theorem escapes_validateListener {item : Json} {index : Nat} {clean : List Listener}
    (hclean : ∀ l ∈ clean, IsNormalAddress l.address) :
    Escapes (validateListener item index clean) ↔
      ∃ members address port, ReadsListener item members address port ∧
        ((get members "tlsMode").hashable = false ∨
          Overlapping members address port clean ∧ encodable address = false) := by
  have hname : encodable (py "management.listeners[" ++ decimal index ++ py "]") = true := by simp
  have hshown : ∀ (text : String) (address : PyStr) (port : Nat),
      encodable (py text ++ (address ++ ch ':' :: decimal port)) = encodable address := by simp
  unfold validateListener
  dsimp only
  constructor
  · intro h
    obtain ⟨members, hmembers, h⟩ := h.of_bind (not_escapes_requireDict hname)
    obtain ⟨address, haddress, h⟩ := h.of_bind (not_escapes_requireIp (by simp))
    obtain ⟨port, hport, h⟩ := h.of_bind (not_escapes_requireInt (by simp) _ _)
    have haddress := requireIp_eq_ok.mp haddress
    refine ⟨members, address, port,
      ⟨requireDict_eq_ok.mp hmembers, haddress, requireInt_eq_ok.mp hport⟩, ?_⟩
    have hnormal := isNormalAddress_of_isAddress haddress
    rcases escapes_bind.mp h with h | ⟨mode, hmode, h⟩
    · exact .inl ((escapes_requireChoice (by simp)).mp h)
    obtain ⟨cidrs, hcidrs, h⟩ := h.of_bind (not_escapes_requireCidrs (by simp))
    right
    have hoverlapping : (∃ l ∈ clean, bindingsOverlap address port l.address l.port = .ok true) →
        Overlapping members address port clean := by
      intro hoverlaps
      obtain ⟨choice, hchoice, hvalue, -⟩ := requireChoice_eq_ok hmode
      exact ⟨⟨choice, hchoice, hvalue⟩, fun name =>
        ⟨cidrs, requireCidrs_name hcidrs name⟩, hoverlaps⟩
    rcases escapes_bind.mp h with h | ⟨_, -, h⟩
    · -- the same address and port
      obtain ⟨hany, hmessage⟩ := escapes_refuseIf.mp h
      obtain ⟨l, hl, hsame⟩ := List.any_eq_true.mp hany
      rw [Bool.and_eq_true, beq_iff_eq, beq_iff_eq] at hsame
      refine ⟨hoverlapping ⟨l, hl, ?_⟩, hshown _ _ _ ▸ hmessage⟩
      rw [hsame.1, hsame.2]
      exact bindingsOverlap_self hnormal port
    obtain ⟨b, hb, hiff⟩ := anyOf_total fun l hl =>
      bindingsOverlap_total hnormal (hclean l hl) port l.port
    rw [hb] at h
    obtain ⟨b', hb', h⟩ := h.of_bind (not_escapes_ok b)
    cases hb'
    rcases escapes_bind.mp h with h | ⟨_, -, h⟩
    · obtain ⟨hoverlaps, hmessage⟩ := escapes_refuseIf.mp h
      refine ⟨hoverlapping (hiff.mp hoverlaps), ?_⟩
      simpa using hmessage
    obtain ⟨ip, hip, -⟩ := hnormal
    rw [ipAddress_eq_ok.mpr hip] at h
    obtain ⟨_, -, h⟩ := h.of_bind (not_escapes_ok ip)
    exact absurd h (not_escapes_ok _)
  · rintro ⟨members, address, port, ⟨rfl, haddress, hport⟩, hescapes⟩
    have hnormal := isNormalAddress_of_isAddress haddress
    refine escapes_bind.mpr (.inr ⟨members, rfl, ?_⟩)
    refine escapes_bind.mpr (.inr ⟨address, requireIp_eq_ok.mpr haddress, ?_⟩)
    refine escapes_bind.mpr (.inr ⟨port, requireInt_eq_ok.mpr hport, ?_⟩)
    rcases hescapes with hhash | ⟨⟨hmode, hcidrs, hoverlaps⟩, haddress⟩
    · exact escapes_bind.mpr (.inl ((escapes_requireChoice (by simp)).mpr hhash))
    obtain ⟨mode, hmode⟩ := requireTlsMode_ok hmode
      (py "management.listeners[" ++ decimal index ++ py "]" ++ py ".tlsMode is invalid")
    obtain ⟨cidrs, hcidrs⟩ := hcidrs
      (py "management.listeners[" ++ decimal index ++ py "]" ++ py ".allowedCidrs")
    refine escapes_bind.mpr (.inr ⟨mode, hmode, ?_⟩)
    refine escapes_bind.mpr (.inr ⟨cidrs, hcidrs, ?_⟩)
    refine escapes_bind.mpr ?_
    cases hany : clean.any fun l => l.address == address && l.port == port with
    | true => exact .inl (escapes_refuseIf.mpr ⟨rfl, (hshown _ _ _).trans haddress⟩)
    | false =>
      obtain ⟨b, hb, hiff⟩ := anyOf_total fun l hl =>
        bindingsOverlap_total hnormal (hclean l hl) port l.port
      rw [hiff.mpr hoverlaps] at hb
      refine .inr ⟨(), rfl, escapes_bind.mpr (.inr ⟨true, hb, escapes_bind.mpr (.inl ?_)⟩)⟩
      exact escapes_refuseIf.mpr ⟨rfl, by simpa using haddress⟩

/-- **The loop escapes** at the first listener that does. -/
theorem escapes_validateListeners {items : List Json} {index : Nat} {clean : List Listener}
    {warnings : List PyStr} :
    Escapes (validateListeners items index clean warnings) ↔
      ∃ before item after clean' warnings', items = before ++ item :: after ∧
        validateListeners before index clean warnings = .ok (clean', warnings') ∧
          Escapes (validateListener item (index + before.length) clean') := by
  induction items generalizing index clean warnings with
  | nil =>
    refine iff_of_false (not_escapes_ok _) ?_
    rintro ⟨before, item, after, _, _, h, -⟩
    exact List.append_ne_nil_of_right_ne_nil before (List.cons_ne_nil item after) h.symm
  | cons item items ih =>
    constructor
    · intro h
      rcases escapes_bind.mp h with h | ⟨⟨listener, new⟩, hlistener, h⟩
      · exact ⟨[], item, items, clean, warnings, rfl, rfl, h⟩
      · obtain ⟨before, item', after, clean', warnings', rfl, hbefore, hescapes⟩ := ih.mp h
        refine ⟨item :: before, item', after, clean', warnings', rfl,
          bind_ok_iff.mpr ⟨_, hlistener, hbefore⟩, ?_⟩
        rwa [List.length_cons, Nat.add_comm before.length 1, ← Nat.add_assoc]
    · rintro ⟨before, item', after, clean', warnings', heq, hbefore, hescapes⟩
      cases before with
      | nil =>
        cases heq
        cases hbefore
        exact escapes_bind.mpr (.inl hescapes)
      | cons first before =>
        cases heq
        obtain ⟨⟨listener, new⟩, hlistener, hbefore⟩ := bind_ok_iff.mp hbefore
        refine escapes_bind.mpr (.inr
          ⟨_, hlistener, ih.mpr ⟨before, item', after, clean', warnings',
          rfl, hbefore, ?_⟩⟩)
        rwa [List.length_cons, Nat.add_comm before.length 1, ← Nat.add_assoc] at hescapes

/-! ## 4. The sections -/

theorem not_escapes_publicPort (url : ParseResult) : ¬ Escapes (publicPort url) := by
  unfold publicPort
  split
  · simp [escapes_fail]
  · split <;> exact not_escapes_ok _

/-- **The public URL escapes** when `urlparse` raises. -/
theorem escapes_validatePublicUrl {nfkc : PyStr → PyStr} {value : Json}
    {listeners : List Listener} :
    Escapes (validatePublicUrl nfkc value listeners) ↔
      ∃ url, value = .str url ∧ url.length ≤ 512 ∧ UrlParse.urlparse nfkc url = none := by
  have hrequire : ∀ url, requirePublicUrl value = .ok url ↔
    value = .str url ∧ url.length ≤ 512 := by
    intro url
    unfold requirePublicUrl
    cases value with
    | str s =>
      by_cases hlong : s.length > 512
      · simp only [if_pos hlong, fail, Json.str.injEq]
        refine iff_of_false (by rintro ⟨⟩) ?_
        rintro ⟨rfl, hle⟩
        omega
      · simp only [if_neg hlong, Except.ok.injEq, Json.str.injEq]
        constructor
        · rintro rfl
          exact ⟨rfl, Nat.not_lt.mp hlong⟩
        · exact And.left
    | _ => simp [fail]
  have hnot : ¬ Escapes (requirePublicUrl value) := by
    unfold requirePublicUrl
    split
    · split
      · simp [escapes_fail]
      · exact not_escapes_ok _
    · simp [escapes_fail]
  unfold validatePublicUrl
  constructor
  · intro h
    obtain ⟨url, hurl, h⟩ := h.of_bind hnot
    obtain ⟨hvalue, hlength⟩ := (hrequire url).mp hurl
    refine ⟨url, hvalue, hlength, ?_⟩
    unfold parseUrl at h
    cases hparse : UrlParse.urlparse nfkc url with
    | none => rfl
    | some result =>
      rw [hparse] at h
      obtain ⟨_, -, h⟩ := h.of_bind (not_escapes_ok _)
      obtain ⟨_, -, h⟩ := h.of_bind (not_escapes_refuseIf (by simp))
      obtain ⟨_, -, h⟩ := h.of_bind (not_escapes_refuseIf (by simp))
      obtain ⟨_, -, h⟩ := h.of_bind (not_escapes_publicPort _)
      exact absurd h (not_escapes_ok _)
  · rintro ⟨url, hvalue, hlength, hparse⟩
    refine escapes_bind.mpr (.inr ⟨url, (hrequire url).mpr ⟨hvalue, hlength⟩, ?_⟩)
    refine escapes_bind.mpr (.inl ?_)
    unfold parseUrl
    rw [hparse]
    exact escapes_error.mpr fun hrefusal => absurd hrefusal.1 (by decide)

theorem not_escapes_validateZeroTierAccess (management : List (PyStr × Json)) (allowZt : Bool)
    (listeners : List Listener) :
    ¬ Escapes (validateZeroTierAccess management allowZt listeners) := by
  unfold validateZeroTierAccess
  split
  · split
    · intro h
      obtain ⟨_, -, h⟩ := h.of_bind (not_escapes_refuseIf (by simp))
      obtain ⟨_, -, h⟩ := h.of_bind (not_escapes_requireIp (by simp))
      exact absurd h (not_escapes_ok _)
    · exact not_escapes_ok _
  · simp [escapes_fail]

theorem not_escapes_requireListeners (value : Json) : ¬ Escapes (requireListeners value) := by
  unfold requireListeners
  split
  · split
    · exact not_escapes_ok _
    · simp [escapes_fail]
  · simp [escapes_fail]

/-- **The management section** escapes in its listeners or, behind them, in its URL. -/
theorem escapes_validateManagement {nfkc : PyStr → PyStr} {value : Json} :
    Escapes (validateManagement nfkc value) ↔
      ∃ management items, value = .obj management ∧
        requireListeners (get management "listeners") = .ok items ∧
          (Escapes (validateListeners items 0 [] []) ∨
            (∃ result, validateListeners items 0 [] [] = .ok result) ∧
              ∃ url, get management "publicUrl" = .str url ∧ url.length ≤ 512 ∧
                UrlParse.urlparse nfkc url = none) := by
  unfold validateManagement
  constructor
  · intro h
    obtain ⟨management, hmanagement, h⟩ := h.of_bind (not_escapes_requireDict (by simp))
    obtain ⟨items, hitems, h⟩ := h.of_bind (not_escapes_requireListeners _)
    refine ⟨management, items, requireDict_eq_ok.mp hmanagement, hitems, ?_⟩
    rcases escapes_bind.mp h with h | ⟨result, hresult, h⟩
    · exact .inl h
    refine .inr ⟨⟨result, hresult⟩, ?_⟩
    rcases escapes_bind.mp h with h | ⟨_, -, h⟩
    · exact escapes_validatePublicUrl.mp h
    obtain ⟨_, -, h⟩ := h.of_bind (not_escapes_requireBool (by simp))
    obtain ⟨_, -, h⟩ := h.of_bind (not_escapes_validateZeroTierAccess _ _ _)
    obtain ⟨_, -, h⟩ := h.of_bind (not_escapes_requireInt (by simp) _ _)
    obtain ⟨_, -, h⟩ := h.of_bind (not_escapes_requireInt (by simp) _ _)
    obtain ⟨_, -, h⟩ := h.of_bind (not_escapes_requireInt (by simp) _ _)
    exact absurd h (not_escapes_ok _)
  · rintro ⟨management, items, rfl, hitems, hescapes⟩
    refine escapes_bind.mpr (.inr ⟨management, rfl, ?_⟩)
    refine escapes_bind.mpr (.inr ⟨items, hitems, ?_⟩)
    rcases hescapes with hescapes | ⟨⟨result, hresult⟩, hurl⟩
    · exact escapes_bind.mpr (.inl hescapes)
    · refine escapes_bind.mpr (.inr ⟨result, hresult, ?_⟩)
      exact escapes_bind.mpr (.inl (escapes_validatePublicUrl.mpr hurl))

theorem not_escapes_validateZeroTier (value : Json) : ¬ Escapes (validateZeroTier value) := by
  unfold validateZeroTier
  intro h
  obtain ⟨_, -, h⟩ := h.of_bind (not_escapes_requireDict (by simp))
  obtain ⟨_, -, h⟩ := h.of_bind (not_escapes_requireBool (by simp))
  obtain ⟨_, -, h⟩ := h.of_bind (not_escapes_requireIp (by simp))
  obtain ⟨_, -, h⟩ := h.of_bind (not_escapes_requireInt (by simp) _ _)
  obtain ⟨_, -, h⟩ := h.of_bind (not_escapes_requireInt (by simp) _ _)
  obtain ⟨_, -, h⟩ := h.of_bind (not_escapes_requireInt (by simp) _ _)
  obtain ⟨_, -, h⟩ := h.of_bind (not_escapes_requireBool (by simp))
  obtain ⟨_, -, h⟩ := h.of_bind (not_escapes_requireBool (by simp))
  obtain ⟨_, -, h⟩ := h.of_bind (not_escapes_refuseIf (by simp))
  exact absurd h (not_escapes_ok _)

/-- **The controller section** escapes with an exposure that has no hash. -/
theorem escapes_validateController {value : Json} {listeners : List Listener} :
    Escapes (validateController value listeners) ↔
      ∃ controller, value = .obj controller ∧ (get controller "exposure").hashable = false := by
  unfold validateController
  constructor
  · intro h
    obtain ⟨controller, hcontroller, h⟩ := h.of_bind (not_escapes_requireDict (by simp))
    rcases escapes_bind.mp h with h | ⟨_, -, h⟩
    · exact ⟨controller, requireDict_eq_ok.mp hcontroller, (escapes_requireChoice (by simp)).mp h⟩
    obtain ⟨_, -, h⟩ := h.of_bind (not_escapes_requireIp (by simp))
    obtain ⟨_, -, h⟩ := h.of_bind (not_escapes_requireInt (by simp) _ _)
    exact absurd h (not_escapes_ok _)
  · rintro ⟨controller, rfl, hhash⟩
    refine escapes_bind.mpr (.inr ⟨controller, rfl, ?_⟩)
    exact escapes_bind.mpr (.inl ((escapes_requireChoice (by simp)).mpr hhash))

theorem not_escapes_anyOf_isNotIpv4Cidr {cidrs : List PyStr} (h : ValidCidrs cidrs) :
    ¬ Escapes (anyOf isNotIpv4Cidr cidrs) := by
  obtain ⟨b, hb, -⟩ := anyOf_total (f := isNotIpv4Cidr) fun c hc => by
    obtain ⟨network, hnetwork, -⟩ := h.2 c hc
    unfold isNotIpv4Cidr
    rw [hnetwork]
    exact ⟨_, rfl⟩
  rw [hb]
  exact not_escapes_ok b

theorem not_escapes_validateRelayServer (value : Json) : ¬ Escapes (validateRelayServer value) := by
  unfold validateRelayServer
  intro h
  obtain ⟨_, -, h⟩ := h.of_bind (not_escapes_requireDict (by simp))
  obtain ⟨_, -, h⟩ := h.of_bind (not_escapes_requireBool (by simp))
  obtain ⟨address, haddress, h⟩ := h.of_bind (not_escapes_requireIp (by simp))
  obtain ⟨_, -, h⟩ := h.of_bind (not_escapes_requireInt (by simp) _ _)
  obtain ⟨allowed, hallowed, h⟩ := h.of_bind (not_escapes_requireCidrs (by simp))
  iterate 10
    obtain ⟨_, -, h⟩ := h.of_bind (not_escapes_requireInt (by simp) _ _)
  obtain ⟨_, -, h⟩ := h.of_bind
    (not_escapes_anyOf_isNotIpv4Cidr (validCidrs_of_requireCidrs hallowed))
  obtain ⟨_, -, h⟩ := h.of_bind (not_escapes_refuseIf (by simp))
  obtain ⟨ip, hip, -⟩ := isNormalAddress_of_isAddress (requireIp_eq_ok.mp haddress)
  rw [ipAddress_eq_ok.mpr hip] at h
  obtain ⟨_, -, h⟩ := h.of_bind (not_escapes_ok ip)
  exact absurd h (not_escapes_ok _)

/-- **The relay client section** escapes with a mode that has no hash. -/
theorem escapes_validateRelayClient {value : Json} :
    Escapes (validateRelayClient value) ↔
      ∃ client, value = .obj client ∧ (get client "mode").hashable = false := by
  have hhost : ∀ mode host, ¬ Escapes (requireClientHost mode host) := by
    intro mode host
    unfold requireClientHost
    split
    · exact not_escapes_requireHost (by simp)
    · split
      · exact not_escapes_ok _
      · simp [escapes_fail]
  unfold validateRelayClient
  constructor
  · intro h
    obtain ⟨client, hclient, h⟩ := h.of_bind (not_escapes_requireDict (by simp))
    rcases escapes_bind.mp h with h | ⟨_, -, h⟩
    · exact ⟨client, requireDict_eq_ok.mp hclient, (escapes_requireChoice (by simp)).mp h⟩
    obtain ⟨_, -, h⟩ := h.of_bind (hhost _ _)
    obtain ⟨_, -, h⟩ := h.of_bind (not_escapes_requireInt (by simp) _ _)
    exact absurd h (not_escapes_ok _)
  · rintro ⟨client, rfl, hhash⟩
    refine escapes_bind.mpr (.inr ⟨client, rfl, ?_⟩)
    exact escapes_bind.mpr (.inl ((escapes_requireChoice (by simp)).mpr hhash))

theorem not_escapes_refuseWhen {condition : Bool} {test : Except PyError Bool} {message : PyStr}
    (htest : ∃ b, test = .ok b) (hmessage : encodable message = true) :
    ¬ Escapes (refuseWhen condition test message) := by
  obtain ⟨b, rfl⟩ := htest
  unfold refuseWhen
  split
  · intro h
    obtain ⟨_, -, h⟩ := h.of_bind (not_escapes_ok b)
    exact absurd (escapes_refuseIf.mp h).2 (by simp [hmessage])
  · exact not_escapes_ok ()

/-- Sections that have been accepted are compared without an exception. -/
theorem not_escapes_validateConflicts {nfkc : PyStr → PyStr} {config : Config}
    (hm : config.management.Valid nfkc) (hc : config.controller.Valid)
    (hr : config.relayServer.Valid) :
    ¬ Escapes (validateConflicts config) := by
  have hany : ∀ {s : PyStr} {p : Nat}, IsNormalAddress s → ∃ b,
      anyOf (fun l => bindingsOverlap s p l.address l.port)
        (config.management.listeners ++ config.management.inherited.toList) = .ok b := by
    intro s p hs
    obtain ⟨b, hb, -⟩ := anyOf_total fun l hl =>
      bindingsOverlap_total hs (valid_of_mem_effective hm hl).address p l.port
    exact ⟨b, hb⟩
  unfold validateConflicts
  dsimp only
  rw [effective_eq hm]
  intro h
  obtain ⟨_, hlisteners, h⟩ := h.of_bind (not_escapes_ok _)
  cases hlisteners
  obtain ⟨_, -, h⟩ := h.of_bind (not_escapes_refuseWhen (hany hr.bindAddress) (by simp))
  obtain ⟨_, -, h⟩ := h.of_bind (not_escapes_refuseWhen (hany hc.bindAddress) (by simp))
  exact absurd h (not_escapes_refuseWhen
      (bindingsOverlap_total hr.bindAddress hc.bindAddress _ _) (by simp))

/-! ## 5. The whole configuration -/

/-- The listener whose turn it is when those before it have been accepted, and its fields in front
of the membership test. -/
def Arrives (management members : List (PyStr × Json)) (address : PyStr) (port : Nat)
    (clean : List Listener) : Prop :=
  ∃ before item after warnings,
    requireListeners (get management "listeners") = .ok (before ++ item :: after) ∧
      validateListeners before 0 [] [] = .ok (clean, warnings) ∧
        ReadsListener item members address port

/-- Where the checks arrive at something that is not refused. -/
inductive Trips (nfkc : PyStr → PyStr) (root : List (PyStr × Json)) : Prop where
  /-- a TLS mode that is a list or an object -/
  | tlsMode (management members : List (PyStr × Json)) (address : PyStr) (port : Nat)
    (clean : List Listener) (section_eq : get root "management" = .obj management)
    (arrives : Arrives management members address port clean)
    (mode : (get members "tlsMode").hashable = false)
  /-- a listener that overlaps an earlier one, with a lone surrogate in its address -/
  | shown (management members : List (PyStr × Json)) (address : PyStr) (port : Nat)
    (clean : List Listener) (section_eq : get root "management" = .obj management)
    (arrives : Arrives management members address port clean)
    (overlapping : Overlapping members address port clean) (surrogate : encodable address = false)
  /-- a public URL that `urlparse` raises on -/
  | publicUrl (management : List (PyStr × Json)) (items : List Json)
    (listeners : List Listener × List PyStr) (url : PyStr)
    (section_eq : get root "management" = .obj management)
    (items_eq : requireListeners (get management "listeners") = .ok items)
    (accepted : validateListeners items 0 [] [] = .ok listeners)
    (url_eq : get management "publicUrl" = .str url) (length : url.length ≤ 512)
    (raises : UrlParse.urlparse nfkc url = none)
  /-- an exposure that is a list or an object -/
  | exposure (controller : List (PyStr × Json)) (management : Management × List PyStr)
    (zerotier : ZeroTier) (section_eq : get root "controller" = .obj controller)
    (accepted_management : validateManagement nfkc (get root "management") = .ok management)
    (accepted_zerotier : validateZeroTier (get root "zerotier") = .ok zerotier)
    (value : (get controller "exposure").hashable = false)
  /-- a mode of the relay client that is a list or an object -/
  | mode (client : List (PyStr × Json)) (management : Management × List PyStr) (zerotier : ZeroTier)
    (controller : Controller × List PyStr) (relay : RelayServer × List PyStr)
    (section_eq : get root "relayClient" = .obj client)
    (accepted_management : validateManagement nfkc (get root "management") = .ok management)
    (accepted_zerotier : validateZeroTier (get root "zerotier") = .ok zerotier)
    (accepted_controller :
      validateController (get root "controller") management.1.listeners = .ok controller)
    (accepted_relay : validateRelayServer (get root "relayServer") = .ok relay)
    (value : (get client "mode").hashable = false)

/-- The listeners in front of which the loop has come are normal. -/
theorem isNormalAddress_of_validateListeners {before : List Json} {clean : List Listener}
    {warnings : List PyStr} (h : validateListeners before 0 [] [] = .ok (clean, warnings)) :
    ∀ l ∈ clean, IsNormalAddress l.address := fun l hl =>
  ((valid_of_validateListeners h (fun _ hl => nomatch hl) .nil rfl).1 l hl).address

theorem trips_of_management {nfkc : PyStr → PyStr} {root : List (PyStr × Json)}
    (h : Escapes (validateManagement nfkc (get root "management"))) : Trips nfkc root := by
  obtain ⟨management, items, hsection, hitems, hescapes⟩ := escapes_validateManagement.mp h
  rcases hescapes with hescapes | ⟨⟨listeners, hlisteners⟩, url, hurl, hlength, hraises⟩
  · obtain ⟨before, item, after, clean, warnings, rfl, hbefore, hescapes⟩ :=
      escapes_validateListeners.mp hescapes
    obtain ⟨members, address, port, hreads, hcases⟩ := (escapes_validateListener
      (isNormalAddress_of_validateListeners hbefore)).mp hescapes
    have harrives : Arrives management members address port clean :=
      ⟨before, item, after, warnings, hitems, hbefore, hreads⟩
    rcases hcases with hmode | ⟨hoverlapping, hsurrogate⟩
    · exact .tlsMode management members address port clean hsection harrives hmode
    · exact .shown management members address port clean hsection harrives hoverlapping hsurrogate
  · exact .publicUrl management items listeners url hsection hitems hlisteners hurl hlength hraises

/-- A listener that escapes makes its section escape. -/
theorem escapes_of_arrives {nfkc : PyStr → PyStr} {root management members : List (PyStr × Json)}
    {address : PyStr} {port : Nat} {clean : List Listener}
    (hsection : get root "management" = .obj management)
    (harrives : Arrives management members address port clean)
    (hcases : (get members "tlsMode").hashable = false ∨
      Overlapping members address port clean ∧ encodable address = false) :
    Escapes (validateManagement nfkc (get root "management")) := by
  obtain ⟨before, item, after, warnings, hitems, hbefore, hreads⟩ := harrives
  refine escapes_validateManagement.mpr ⟨management, _, hsection, hitems, .inl ?_⟩
  refine escapes_validateListeners.mpr ⟨before, item, after, clean, warnings, rfl, hbefore, ?_⟩
  exact (escapes_validateListener (isNormalAddress_of_validateListeners hbefore)).mpr
    ⟨members, address, port, hreads, hcases⟩

/-- **Every exception is answered with 400**, unless the checks arrive at a TLS mode, an exposure or
a relay mode that is a list or an object, at a public URL that `urlparse` raises on, or at an
overlapping listener with a lone surrogate in its address. -/
theorem refused_iff (nfkc : PyStr → PyStr) (raw : Json) :
    (∀ e, validateConfig nfkc raw = .error e → e.IsRefusal) ↔
      ∀ root, raw = .obj root → hasExpectedKeys root = true → ¬ Trips nfkc root := by
  have hescapes : (∀ e, validateConfig nfkc raw = .error e → e.IsRefusal) ↔
      ¬ Escapes (validateConfig nfkc raw) := by
    unfold Escapes
    simp only [not_exists, not_and, not_not]
  rw [hescapes]
  unfold validateConfig
  constructor
  · rintro hnot root rfl hkeys htrips
    apply hnot
    refine escapes_bind.mpr (.inr ⟨root, rfl, ?_⟩)
    refine escapes_bind.mpr (.inr ⟨(), refuseIf_eq_ok.mpr (by simp [hkeys]), ?_⟩)
    cases htrips with
    | tlsMode management members address port clean hsection harrives hmode =>
      exact escapes_bind.mpr (.inl (escapes_of_arrives hsection harrives (.inl hmode)))
    | shown management members address port clean hsection harrives hoverlapping hsurrogate =>
      exact escapes_bind.mpr (.inl (escapes_of_arrives hsection harrives
        (.inr ⟨hoverlapping, hsurrogate⟩)))
    | publicUrl management items listeners url hsection hitems hlisteners hurl hlength hraises =>
      exact escapes_bind.mpr (.inl (escapes_validateManagement.mpr ⟨management, items, hsection,
        hitems, .inr ⟨⟨listeners, hlisteners⟩, url, hurl, hlength, hraises⟩⟩))
    | exposure controller management zerotier hsection hmanagement hzerotier hvalue =>
      refine escapes_bind.mpr (.inr ⟨management, hmanagement, ?_⟩)
      refine escapes_bind.mpr (.inr ⟨zerotier, hzerotier, ?_⟩)
      exact escapes_bind.mpr (.inl (escapes_validateController.mpr ⟨controller, hsection, hvalue⟩))
    | mode client management zerotier controller relay hsection hmanagement hzerotier hcontroller
        hrelay hvalue =>
      refine escapes_bind.mpr (.inr ⟨management, hmanagement, ?_⟩)
      refine escapes_bind.mpr (.inr ⟨zerotier, hzerotier, ?_⟩)
      refine escapes_bind.mpr (.inr ⟨controller, hcontroller, ?_⟩)
      refine escapes_bind.mpr (.inr ⟨relay, hrelay, ?_⟩)
      exact escapes_bind.mpr (.inl (escapes_validateRelayClient.mpr ⟨client, hsection, hvalue⟩))
  · intro hnot h
    obtain ⟨root, hroot, h⟩ := h.of_bind (not_escapes_requireDict (by simp))
    obtain ⟨_, hkeys, h⟩ := h.of_bind (not_escapes_refuseIf (by decide))
    have hkeys := refuseIf_eq_ok.mp hkeys
    rw [decide_eq_false_iff_not, Bool.not_eq_false] at hkeys
    refine hnot root (requireDict_eq_ok.mp hroot) hkeys ?_
    rcases escapes_bind.mp h with h | ⟨management, hmanagement, h⟩
    · exact trips_of_management h
    obtain ⟨zerotier, hzerotier, h⟩ := h.of_bind (not_escapes_validateZeroTier _)
    rcases escapes_bind.mp h with h | ⟨controller, hcontroller, h⟩
    · obtain ⟨members, hsection, hvalue⟩ := escapes_validateController.mp h
      exact .exposure members management zerotier hsection hmanagement hzerotier hvalue
    obtain ⟨relay, hrelay, h⟩ := h.of_bind (not_escapes_validateRelayServer _)
    rcases escapes_bind.mp h with h | ⟨client, hclient, h⟩
    · obtain ⟨members, hsection, hvalue⟩ := escapes_validateRelayClient.mp h
      exact .mode members management zerotier controller relay hsection hmanagement hzerotier
        hcontroller hrelay hvalue
    obtain ⟨_, -, h⟩ := h.of_bind (@not_escapes_validateConflicts nfkc _
      (valid_of_validateManagement hmanagement).1 (valid_of_validateController hcontroller).1
      (valid_of_validateRelayServer hrelay).1)
    exact absurd h (not_escapes_ok _)

/-- A configuration of which only the management section is read. -/
def rawConfig (publicUrl : String) (listeners : List Json) : Json :=
  .obj [(py "controller", .null), (py "relayClient", .null), (py "relayServer", .null),
    (py "zerotier", .null),
    (py "management", .obj [(py "publicUrl", .str (py publicUrl)),
      (py "listeners", .arr listeners)])]

def rawListener (address : PyStr) (tlsMode : Json) : Json :=
  .obj [(py "address", .str address), (py "port", .int 3443), (py "tlsMode", tlsMode)]

/-- The answer has the status 400. -/
def answered400 {α : Type} : Except PyError α → Bool
  | .ok _ => true
  | .error e => e.status == 400 && e.encodable

theorem exists_error_of_answered400 {α : Type} {x : Except PyError α} (h : answered400 x = false) :
    ∃ e, x = .error e ∧ ¬ e.IsRefusal := by
  cases x with
  | ok a => cases h
  | error e =>
    refine ⟨e, rfl, fun hrefusal => ?_⟩
    have h' : (e.status == 400 && e.encodable) = false := h
    rw [hrefusal.1, hrefusal.2] at h'
    cases h'

/-- **Requests that are not refused**: a list for a TLS mode, a bracket that is not closed, and two
listeners with a lone surrogate in the scope of their address. -/
theorem not_refused :
    (∃ e, validateConfig id (rawConfig "" [rawListener (py "127.0.0.1") (.arr [])]) = .error e ∧
      ¬ e.IsRefusal) ∧
    (∃ e, validateConfig id (rawConfig "http://["
      [rawListener (py "127.0.0.1") (.str (py "off"))]) =
        .error e ∧ ¬ e.IsRefusal) ∧
    ∃ e, validateConfig id (rawConfig "" (List.replicate 2
        (rawListener (py "fe80::1%" ++ [0xd800]) (.str (py "off"))))) = .error e ∧ ¬ e.IsRefusal :=
  ⟨exists_error_of_answered400 (by decide +kernel), exists_error_of_answered400 (by decide +kernel),
    exists_error_of_answered400 (by decide +kernel)⟩

end ZtPlanet.Agent
