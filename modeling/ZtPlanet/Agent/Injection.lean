/-
# Injection into the generated files

`render_caddy` and `render_compose_override` paste validated addresses and networks into files
that Caddy and Compose parse.  The digits and colons of an address can do no harm there; the scope
of an IPv6 address can: `ipaddress` lets it be any text without `%` and `/`, `str` keeps it, and
nothing in `validate_config` looks at it.

`injectionFree_iff` says exactly when an accepted configuration is rendered safely: when no scope
that reaches one of the two files holds a white space, a quote or a brace.  The condition is a
condition on the JSON value the client sent (`ScopesClean`), and it names the scopes that do reach
a file: those of listeners and of the relay always, those of networks only without host bits,
those of ZeroTier and the controller only where they are published, and that of the ZeroTier
management address only where it adds a listener.
-/
import ZtPlanet.Agent.Accepted
import ZtPlanet.Agent.Render

namespace ZtPlanet.Agent

open ZtPlanet.Python
open ZtPlanet.Lib (bind_ok_iff)

/-! ## 1. Harmful characters -/

/-- White space (line feeds included), quotes and braces. -/
def isHarmful (c : CodePoint) : Bool :=
  isSpace c || c.val == 0x22 || c.val == 0x27 || c.val == 0x60 || c.val == 0x7b || c.val == 0x7d

/-- No character of the text is harmful. -/
def Clean (s : PyStr) : Prop := ∀ c ∈ s, isHarmful c = false

/-- A character that `str` writes for an address or a network outside the scope. -/
def IsPlain (c : CodePoint) : Prop := isHexDigit c = true ∨ c ∈ py ".:%/"

theorem isPlain_of_isAsciiDigit {c : CodePoint} (h : isAsciiDigit c = true) : IsPlain c :=
  .inl (by simp [isHexDigit, h])

/-- The scope of an address, empty without one. -/
def scopeOf : IpAddress → PyStr
  | .v6 _ (some scope) => scope
  | _ => []

section

variable {P : CodePoint → Prop}

theorem forall_mem_decimal (hP : ∀ c, IsPlain c → P c) (n : Nat) : ∀ c ∈ decimal n, P c :=
  fun c hc => hP c (isPlain_of_isAsciiDigit (isAsciiDigit_of_mem_decimal hc))

theorem forall_mem_ipv4Text (hP : ∀ c, IsPlain c → P c) (ip : BitVec 32) :
    ∀ c ∈ IpAddress.ipv4Text ip, P c := by
  intro c hc
  rcases IpAddress.mem_ipv4Text hc with hc | rfl
  · exact hP c (isPlain_of_isAsciiDigit hc)
  · exact hP _ (.inr (by decide))

theorem forall_mem_ipv6Text (hP : ∀ c, IsPlain c → P c) (ip : BitVec 128) :
    ∀ c ∈ IpAddress.ipv6Text ip, P c := by
  intro c hc
  rcases IpAddress.mem_ipv6Text hc with hc | rfl
  · exact hP c (.inl hc)
  · exact hP _ (.inr (by decide))

/-- What holds of the plain characters holds of an address if it holds of its scope. -/
theorem forall_mem_str (hP : ∀ c, IsPlain c → P c) (a : IpAddress) :
    (∀ c ∈ a.str, P c) ↔ ∀ c ∈ scopeOf a, P c := by
  have hnil : ∀ c ∈ ([] : PyStr), P c := fun c hc => by cases hc
  cases a with
  | v4 ip => exact iff_of_true (forall_mem_ipv4Text hP ip) hnil
  | v6 ip scope =>
    cases scope with
    | none =>
      refine iff_of_true ?_ hnil
      simpa [IpAddress.str, IpAddress.scopeText] using forall_mem_ipv6Text hP ip
    | some scope =>
      have hpercent : P (ch '%') := hP _ (.inr (by decide))
      unfold IpAddress.str IpAddress.scopeText scopeOf
      rw [List.forall_mem_append, List.forall_mem_cons]
      exact ⟨fun h => h.2.2, fun h => ⟨forall_mem_ipv6Text hP ip, hpercent, h⟩⟩

theorem forall_mem_networkStr (hP : ∀ c, IsPlain c → P c) (n : IpNetwork) :
    (∀ c ∈ n.str, P c) ↔ ∀ c ∈ scopeOf n.address, P c := by
  have hslash : P (ch '/') := hP _ (.inr (by decide))
  unfold IpNetwork.str
  rw [List.forall_mem_append, List.forall_mem_cons, forall_mem_str hP]
  exact ⟨And.left, fun h => ⟨h, hslash, forall_mem_decimal hP n.prefixLength⟩⟩

end

theorem not_isHarmful_of_isPlain (c : CodePoint) (h : IsPlain c) : isHarmful c = false := by
  rcases h with h | h
  · simp only [isHexDigit, isAsciiDigit, Bool.or_eq_true, Bool.and_eq_true, decide_eq_true_eq] at h
    simp [isHarmful, isSpace]
    omega
  · have hall : ((py ".:%/").all fun c => !isHarmful c) = true := by decide
    exact Bool.not_eq_true' _ ▸ List.all_eq_true.mp hall c h

theorem clean_decimal (n : Nat) : Clean (decimal n) :=
  forall_mem_decimal not_isHarmful_of_isPlain n

/-- **Only the scope of an address can be harmful.** -/
theorem clean_str (a : IpAddress) : Clean a.str ↔ Clean (scopeOf a) :=
  forall_mem_str not_isHarmful_of_isPlain a

theorem clean_networkStr (n : IpNetwork) : Clean n.str ↔ Clean (scopeOf n.address) :=
  forall_mem_networkStr not_isHarmful_of_isPlain n

/-! ## 2. The property and the condition -/

/-- The lines of a Caddyfile for these listeners: the global block and one site block each, with
an empty line behind every block. -/
def caddyLines (exposure : Exposure) (listeners : List Listener) : List PyStr :=
  globalLines ++ [[]] ++ listeners.flatMap fun l => siteLines exposure l ++ [[]]

/-- The addresses that the compose override publishes. -/
def publishedAddresses (config : Config) : List PyStr :=
  (if config.zerotier.enabled then [config.zerotier.bindAddress] else []) ++
  (if config.controller.exposure = .direct then [config.controller.bindAddress] else []) ++
  [config.relayServer.bindAddress]

/-- The two files have the structure that the templates give them, and no pasted text holds a
harmful character. -/
structure InjectionFree (config : Config) : Prop where
  caddy : ∃ listeners text, effectiveManagementListeners config.management = .ok listeners ∧
    renderCaddy config = .ok text ∧
    split text (ch '\n') = caddyLines config.controller.exposure listeners ∧
    ∀ l ∈ listeners, Clean l.address ∧ ∀ cidr ∈ l.allowedCidrs, Clean cidr
  compose : split (renderComposeOverride config) (ch '\n') = composeLines config ++ [[]]
  published : ∀ address ∈ publishedAddresses config, Clean address

/-- The scope that `ip_address` reads from a value. -/
def addressScope (value : Json) : PyStr :=
  match value with
  | .str s => ((IpAddress.parse s).map scopeOf).getD []
  | _ => []

/-- The scope that `ip_network` reads from a value and keeps. -/
def cidrScope (value : Json) : PyStr :=
  match value with
  | .str s => ((IpNetwork.parse s).map fun n => scopeOf n.address).getD []
  | _ => []

/-- A listener on the wildcard address of the family of `value`'s address. -/
def coversFamily (value listener : Json) : Prop :=
  ∃ s a t b, value = .str s ∧ IpAddress.parse s = some a ∧
    field listener "address" = .str t ∧ IpAddress.parse t = some b ∧
    b.isUnspecified = true ∧ b.version = a.version

/-- No scope that is pasted into one of the two files holds a harmful character. -/
structure ScopesClean (raw : Json) : Prop where
  listeners : ∀ l ∈ items (field (field raw "management") "listeners"),
    Clean (addressScope (field l "address")) ∧
      ∀ cidr ∈ items (field l "allowedCidrs"), Clean (cidrScope cidr)
  zeroTierAddress : field (field raw "management") "allowZeroTier" = .bool true →
    (∀ l ∈ items (field (field raw "management") "listeners"),
      ¬ coversFamily (field (field raw "management") "zeroTierAddress") l) →
    Clean (addressScope (field (field raw "management") "zeroTierAddress"))
  zerotier : field (field raw "zerotier") "enabled" = .bool true →
    Clean (addressScope (field (field raw "zerotier") "bindAddress"))
  controller : field (field raw "controller") "exposure" = .str (py "direct") →
    Clean (addressScope (field (field raw "controller") "bindAddress"))
  relayServer : Clean (addressScope (field (field raw "relayServer") "bindAddress"))

/-! ## 3. Texts and the values they were made from -/

theorem IsAddress.clean_iff {value : Json} {text : PyStr} (h : IsAddress value text) :
    Clean text ↔ Clean (addressScope value) := by
  obtain ⟨s, ip, rfl, hip, rfl⟩ := h
  simp [addressScope, hip, clean_str]

theorem IsCidr.clean_iff {value : Json} {text : PyStr} (h : IsCidr value text) :
    Clean text ↔ Clean (cidrScope value) := by
  obtain ⟨s, network, rfl, hn, rfl⟩ := h
  simp [cidrScope, hn, clean_networkStr]

/-- A property of the elements of two lists that correspond. -/
theorem forall_mem_iff_of_forall₂ {α β : Type} {R : α → β → Prop} {P : α → Prop} {Q : β → Prop}
    (h : ∀ a b, R a b → (Q b ↔ P a)) {as : List α} {bs : List β} (hab : List.Forall₂ R as bs) :
    (∀ b ∈ bs, Q b) ↔ ∀ a ∈ as, P a := by
  induction hab with
  | nil => simp
  | cons hr _ ih => rw [List.forall_mem_cons, List.forall_mem_cons, ih, h _ _ hr]

theorem IsListener.clean_iff {value : Json} {l : Listener} (h : IsListener value l) :
    (Clean l.address ∧ ∀ cidr ∈ l.allowedCidrs, Clean cidr) ↔
      (Clean (addressScope (field value "address")) ∧
        ∀ cidr ∈ items (field value "allowedCidrs"), Clean (cidrScope cidr)) :=
  and_congr h.address.clean_iff
    (forall_mem_iff_of_forall₂ (fun _ _ hc => hc.clean_iff) h.allowedCidrs)

/-- A normalized address parses to the address it was made from. -/
theorem IsAddress.parse {value : Json} {text : PyStr} (h : IsAddress value text) :
    ∃ s ip, value = .str s ∧ IpAddress.parse s = some ip ∧ text = ip.str ∧
      IpAddress.parse text = some ip := by
  obtain ⟨s, ip, hv, hip, rfl⟩ := h
  exact ⟨s, ip, hv, hip, rfl, IpAddress.parse_str_of_parse hip⟩

theorem IsAddress.ne_nil {value : Json} {text : PyStr} (h : IsAddress value text) : text ≠ [] := by
  obtain ⟨s, ip, -, -, -, hip⟩ := h.parse
  rintro rfl
  cases hip

/-! ## 4. The effective listeners -/

/-- The listener is bound to the wildcard address of the family of `selected`. -/
def isWildcardFor (selected : IpAddress) (l : Listener) : Bool :=
  match IpAddress.parse l.address with
  | some ip => ip.isUnspecified && ip.version == selected.version
  | none => false

theorem coversFamily_iff {value item : Json} {l : Listener} {s : PyStr} {selected : IpAddress}
    (hvalue : value = .str s) (hparse : IpAddress.parse s = some selected)
    (hl : IsListener item l) : coversFamily value item ↔ isWildcardFor selected l = true := by
  obtain ⟨t, b, ht, hb, -, hlparse⟩ := hl.address.parse
  unfold isWildcardFor
  rw [hlparse]
  simp only [Bool.and_eq_true, beq_iff_eq]
  constructor
  · rintro ⟨s', a, t', b', hs', ha, ht', hb', hunspec, hversion⟩
    rw [hvalue] at hs'
    cases hs'
    rw [ht] at ht'
    cases ht'
    rw [hb] at hb'
    cases hb'
    rw [hparse] at ha
    cases ha
    exact ⟨hunspec, hversion⟩
  · rintro ⟨hunspec, hversion⟩
    exact ⟨s, selected, t, b, hvalue, hparse, ht, hb, hunspec, hversion⟩

/-- The test whether a listener is there for the ZeroTier address already. -/
theorem anyOf_covers {listeners : List Listener} (zeroTierAddress : PyStr) (selected : IpAddress)
    (hparse : ∀ l ∈ listeners, ∃ ip, IpAddress.parse l.address = some ip) :
    anyOf (fun l =>
        if l.address = zeroTierAddress then .ok true
        else do
          let ip ← ipAddress l.address
          return ip.isUnspecified && ip.version == selected.version) listeners =
      .ok (listeners.any fun l => l.address == zeroTierAddress || isWildcardFor selected l) := by
  refine anyOf_eq_any fun l hl => ?_
  obtain ⟨ip, hip⟩ := hparse l hl
  by_cases heq : l.address = zeroTierAddress
  · simp [heq]
  · simp [heq, isWildcardFor, hip, ipAddress]

/-- What `effective_management_listeners` computes where ZeroTier access is allowed. -/
theorem effective_of_allowed {m : Management} {selected : IpAddress} {ls : List Listener}
    (hallow : m.allowZeroTier = true) (hne : m.zeroTierAddress ≠ [])
    (hselected : IpAddress.parse m.zeroTierAddress = some selected)
    (hparse : ∀ l ∈ m.listeners, ∃ ip, IpAddress.parse l.address = some ip)
    (h : effectiveManagementListeners m = .ok ls) :
    (ls = m.listeners ∧
      ∃ l ∈ m.listeners, l.address = m.zeroTierAddress ∨ isWildcardFor selected l = true) ∨
    (∃ first rest, m.listeners = first :: rest ∧
      ls = m.listeners ++ [{ first with address := m.zeroTierAddress }] ∧
      ∀ l ∈ m.listeners, isWildcardFor selected l = false) := by
  unfold effectiveManagementListeners at h
  rw [if_pos ⟨hallow, hne⟩] at h
  obtain ⟨a, ha, h⟩ := bind_ok_iff.mp h
  have haddress : a = selected := by
    unfold ipAddress at ha
    rw [hselected] at ha
    exact (Except.ok.inj ha).symm
  subst haddress
  obtain ⟨covered, hcovered, h⟩ := bind_ok_iff.mp h
  rw [anyOf_covers _ a hparse] at hcovered
  cases hc : covered with
  | true =>
    rw [hc] at h hcovered
    obtain ⟨l, hl, hcov⟩ := List.any_eq_true.mp (Except.ok.inj hcovered)
    simp only [Bool.or_eq_true, beq_iff_eq] at hcov
    exact .inl ⟨(Except.ok.inj h).symm, l, hl, hcov⟩
  | false =>
    rw [hc] at h hcovered
    refine .inr ?_
    have hnone := List.any_eq_false.mp (Except.ok.inj hcovered)
    rw [if_neg (by simp)] at h
    split at h
    · cases h
    · rename_i first rest hlist
      refine ⟨first, rest, hlist, (Except.ok.inj h).symm, fun l hl => ?_⟩
      have := hnone l hl
      simp only [Bool.or_eq_true, not_or, Bool.not_eq_true] at this
      exact this.2

/-- Every effective listener is clean exactly when every scope that reaches a site block is. -/
theorem clean_effective_iff {raw : Json} {config : Config} {ls : List Listener}
    (hacc : Accepted raw config) (h : effectiveManagementListeners config.management = .ok ls) :
    (∀ l ∈ ls, Clean l.address ∧ ∀ cidr ∈ l.allowedCidrs, Clean cidr) ↔
      (∀ l ∈ items (field (field raw "management") "listeners"),
        Clean (addressScope (field l "address")) ∧
          ∀ cidr ∈ items (field l "allowedCidrs"), Clean (cidrScope cidr)) ∧
      (field (field raw "management") "allowZeroTier" = .bool true →
        (∀ l ∈ items (field (field raw "management") "listeners"),
          ¬ coversFamily (field (field raw "management") "zeroTierAddress") l) →
        Clean (addressScope (field (field raw "management") "zeroTierAddress"))) := by
  rw [← forall_mem_iff_of_forall₂ (fun _ _ hl => IsListener.clean_iff hl) hacc.listeners]
  cases hallow : config.management.allowZeroTier with
  | false =>
    have hls : ls = config.management.listeners := by
      unfold effectiveManagementListeners at h
      rw [if_neg (by simp [hallow])] at h
      exact (Except.ok.inj h).symm
    rw [hls, hacc.allowZeroTier, hallow]
    simp
  | true =>
    have haddress := hacc.zeroTierAddress hallow
    obtain ⟨s, selected, hvalue, hparse, htext, hselected⟩ := haddress.parse
    have hlisteners : ∀ l ∈ config.management.listeners,
        ∃ ip, IpAddress.parse l.address = some ip :=
      (forall_mem_iff_of_forall₂ (P := fun _ => True) (fun _ l hl => by
        obtain ⟨-, ip, -, -, -, hip⟩ := hl.address.parse
        exact iff_of_true ⟨ip, hip⟩ trivial) hacc.listeners).mpr fun _ _ => trivial
    have hcovers := forall_mem_iff_of_forall₂
      (P := fun item => ¬ coversFamily (field (field raw "management") "zeroTierAddress") item)
      (Q := fun l => isWildcardFor selected l = false)
      (fun _ _ hl => by rw [coversFamily_iff hvalue hparse hl, Bool.not_eq_true]) hacc.listeners
    rw [hacc.allowZeroTier, hallow, ← hcovers, ← haddress.clean_iff]
    rcases effective_of_allowed hallow haddress.ne_nil hselected hlisteners h with
      ⟨rfl, l, hl, hcov⟩ | ⟨first, rest, hlist, rfl, hnone⟩
    · -- covered: a listener with the same address is clean already
      refine ⟨fun hall => ⟨hall, fun _ hwild => ?_⟩, And.left⟩
      rcases hcov with heq | hwildcard
      · exact heq ▸ (hall l hl).1
      · rw [hwild l hl] at hwildcard
        cases hwildcard
    · -- a listener is added
      simp only [List.forall_mem_append, List.forall_mem_singleton]
      have hfirst : first ∈ config.management.listeners := by simp [hlist]
      constructor
      · rintro ⟨hall, haddr, -⟩
        exact ⟨hall, fun _ _ => haddr⟩
      · rintro ⟨hall, hzt⟩
        exact ⟨hall, hzt trivial hnone, (hall first hfirst).2⟩

/-! ## 5. Lines -/

theorem lineFeed_notMem {s : PyStr} (h : Clean s) : ch '\n' ∉ s := by
  intro hmem
  have hharmful : isHarmful (ch '\n') = true := by decide
  rw [h _ hmem] at hharmful
  cases hharmful

/-- A join of lines splits into the lines again. -/
theorem split_join {lines : List PyStr} (hne : lines ≠ []) (h : ∀ l ∈ lines, ch '\n' ∉ l) :
    split (join (py "\n") lines) (ch '\n') = lines :=
  List.splitOn_intercalate _ h hne

theorem join_append (sep : PyStr) {s t : List PyStr} (hs : s ≠ []) (ht : t ≠ []) :
    join sep (s ++ t) = join sep s ++ sep ++ join sep t := by
  unfold join
  induction s with
  | nil => exact absurd rfl hs
  | cons x s ih =>
    rw [List.cons_append, List.intercalate_cons_of_ne_nil (by simp [ht])]
    cases s with
    | nil => simp
    | cons y s =>
      rw [ih (by simp), List.intercalate_cons_cons]
      simp only [List.append_assoc]

/-- Joined joins are one join. -/
theorem join_map_join (sep : PyStr) {blocks : List (List PyStr)} (h : ∀ b ∈ blocks, b ≠ []) :
    join sep (blocks.map (join sep)) = join sep blocks.flatten := by
  induction blocks with
  | nil => rfl
  | cons b blocks ih =>
    have hb := h b (by simp)
    have ih := ih fun x hx => h x (List.mem_cons_of_mem b hx)
    cases blocks with
    | nil => simp [join]
    | cons c blocks =>
      have hc : c ≠ [] := h c (by simp)
      rw [List.flatten_cons, join_append sep hb (by simp [hc]), ← ih]
      simp [join]

/-- The lines of a block, with the empty line that the last line feed makes. -/
theorem blockText_eq {lines : List PyStr} (h : lines ≠ []) :
    blockText lines = join (py "\n") (lines ++ [[]]) := by
  rw [join_append _ h (by simp)]
  simp [blockText, join]

theorem siteLines_ne_nil (exposure : Exposure) (l : Listener) : siteLines exposure l ≠ [] := by
  simp [siteLines]

/-- The Caddyfile is the join of its lines. -/
theorem renderCaddy_eq {config : Config} {ls : List Listener}
    (h : effectiveManagementListeners config.management = .ok ls) :
    renderCaddy config = .ok (join (py "\n") (caddyLines config.controller.exposure ls)) := by
  have hblocks : ∀ b ∈ (globalLines ++ [[]]) ::
      ls.map (fun l => siteLines config.controller.exposure l ++ [[]]), b ≠ [] := by simp
  unfold renderCaddy
  rw [h]
  refine congrArg Except.ok ?_
  rw [blockText_eq (by decide)]
  calc join (py "\n") (join (py "\n") (globalLines ++ [[]]) ::
        ls.map fun l => blockText (siteLines config.controller.exposure l))
      = join (py "\n") (((globalLines ++ [[]]) ::
          ls.map fun l => siteLines config.controller.exposure l ++ [[]]).map
            (join (py "\n"))) := by
        simp only [List.map_cons, List.map_map, Function.comp_def,
          blockText_eq (siteLines_ne_nil _ _)]
    _ = join (py "\n") (caddyLines config.controller.exposure ls) := by
        rw [join_map_join _ hblocks, caddyLines, List.flatten_cons, List.flatMap_def]

theorem composeHost_lineFeed {address : PyStr} (h : Clean address) :
    ch '\n' ∉ composeHost address := by
  unfold composeHost
  split
  · have hopen : ch '\n' ≠ ch '[' := by decide
    have hclose : ch '\n' ≠ ch ']' := by decide
    simp [lineFeed_notMem h, hopen, hclose]
  · exact lineFeed_notMem h

/-- Without a line feed in the texts, every line of a site block is one line. -/
theorem siteLines_lineFeed {exposure : Exposure} {l : Listener} (haddress : Clean l.address)
    (hcidrs : ∀ cidr ∈ l.allowedCidrs, Clean cidr) :
    ∀ line ∈ siteLines exposure l, ch '\n' ∉ line := by
  have hhost := composeHost_lineFeed haddress
  have hallowed : ch '\n' ∉ join (py " ") l.allowedCidrs := by
    intro hmem
    rcases mem_join hmem with hmem | ⟨cidr, hc, hmem⟩
    · exact absurd hmem (by decide)
    · exact lineFeed_notMem (hcidrs cidr hc) hmem
  have hport : ch '\n' ∉ decimal l.port := lineFeed_notMem (clean_decimal _)
  unfold siteLines
  simp only [List.forall_mem_append]
  refine ⟨⟨⟨⟨⟨⟨?_, ?_⟩, ?_⟩, ?_⟩, ?_⟩, ?_⟩, ?_⟩
  · rw [List.forall_mem_cons, List.forall_mem_singleton]
    constructor
    · have hscheme : ch '\n' ∉ if l.tlsMode = .off then py "http" else py "https" := by
        split <;> decide
      have hcolon : ch '\n' ≠ ch ':' := by decide
      simp only [List.mem_append, List.mem_cons, not_or]
      exact ⟨⟨⟨⟨hscheme, by decide⟩, hhost⟩, hcolon, hport⟩, by decide⟩
    · rw [List.mem_append, not_or]
      exact ⟨by decide, lineFeed_notMem haddress⟩
  · cases l.tlsMode <;> decide
  · split
    · simp
    · rw [List.forall_mem_cons, List.mem_append, not_or]
      exact ⟨⟨by decide, hallowed⟩, by decide⟩
  · split <;> decide
  · decide
  · split <;> decide
  · decide

theorem portLine_lineFeed {address : PyStr} (h : Clean address) (host container : Nat)
    {protocol : String} (hprotocol : ch '\n' ∉ py protocol) :
    ch '\n' ∉ portLine address host container protocol := by
  have hport (n : Nat) : ch '\n' ∉ decimal n := lineFeed_notMem (clean_decimal n)
  have hcolon : ch '\n' ≠ ch ':' := by decide
  simp only [portLine, List.mem_append, List.mem_cons, not_or]
  exact ⟨⟨⟨⟨⟨by decide, composeHost_lineFeed h⟩, hcolon, hport host⟩, hcolon, hport container⟩,
    hprotocol⟩, by decide⟩

/-- Without a line feed in the published addresses, every line of the override is one line. -/
theorem composeLines_lineFeed {config : Config}
    (h : ∀ address ∈ publishedAddresses config, Clean address) :
    ∀ line ∈ composeLines config, ch '\n' ∉ line := by
  have hudp : ch '\n' ∉ py "/udp" := by decide
  have htcp : ch '\n' ∉ py "/tcp" := by decide
  simp only [publishedAddresses, List.forall_mem_append, List.forall_mem_singleton] at h
  obtain ⟨⟨hzt, hct⟩, hrelay⟩ := h
  have hlines : ∀ line ∈ zerotierPortLines config, ch '\n' ∉ line := by
    unfold zerotierPortLines
    rw [List.forall_mem_append]
    constructor
    · split
      · rename_i henabled
        rw [if_pos henabled, List.forall_mem_singleton] at hzt
        rw [List.forall_mem_cons]
        refine ⟨portLine_lineFeed hzt _ _ hudp, fun line hline => ?_⟩
        obtain ⟨port, -, rfl⟩ := List.mem_map.mp hline
        exact portLine_lineFeed hzt _ _ hudp
      · simp
    · split
      · rename_i hdirect
        rw [if_pos hdirect, List.forall_mem_singleton] at hct
        rw [List.forall_mem_singleton]
        exact portLine_lineFeed hct _ _ htcp
      · simp
  unfold composeLines
  rw [List.forall_mem_append, List.forall_mem_append]
  refine ⟨⟨by decide, ?_⟩, ?_⟩
  · split
    · decide
    · rw [List.forall_mem_cons]
      exact ⟨by decide, hlines⟩
  · simp only [List.forall_mem_cons]
    exact ⟨by decide, by decide, by decide, by decide, by decide, by decide, by decide, by decide,
      portLine_lineFeed hrelay _ _ htcp, by simp⟩

/-! ## 6. The condition is exact -/

theorem effective_of_accepted {config : Config} (h : validateConflicts config = .ok ()) :
    ∃ ls, effectiveManagementListeners config.management = .ok ls := by
  unfold validateConflicts at h
  obtain ⟨ls, hls, -⟩ := bind_ok_iff.mp h
  exact ⟨ls, hls⟩

/-- **An accepted configuration is rendered without injection exactly when no scope that reaches
one of the files holds a white space, a quote or a brace.** -/
theorem injectionFree_iff {nfkc : PyStr → PyStr} {raw : Json} {config : Config}
    {warnings : List PyStr} (h : validateConfig nfkc raw = .ok (config, warnings)) :
    InjectionFree config ↔ ScopesClean raw := by
  obtain ⟨hacc, hconflicts⟩ := accepted_of_validateConfig h
  obtain ⟨ls, hls⟩ := effective_of_accepted hconflicts
  have hlisteners := clean_effective_iff hacc hls
  have hpublished : (∀ address ∈ publishedAddresses config, Clean address) ↔
      (field (field raw "zerotier") "enabled" = .bool true →
        Clean (addressScope (field (field raw "zerotier") "bindAddress"))) ∧
      (field (field raw "controller") "exposure" = .str (py "direct") →
        Clean (addressScope (field (field raw "controller") "bindAddress"))) ∧
      Clean (addressScope (field (field raw "relayServer") "bindAddress")) := by
    rw [hacc.enabled, hacc.exposure, ← hacc.zerotier.clean_iff, ← hacc.controller.clean_iff,
      ← hacc.relayServer.clean_iff]
    simp only [publishedAddresses, List.forall_mem_append, List.forall_mem_singleton, and_assoc]
    refine and_congr ?_ (and_congr ?_ Iff.rfl)
    · cases config.zerotier.enabled <;> simp
    · have hinternal : py "internal" ≠ py "direct" := by decide
      have hhttps : py "https" ≠ py "direct" := by decide
      cases config.controller.exposure <;> simp [Exposure.text, hinternal, hhttps]
  constructor
  · rintro ⟨⟨listeners, text, heff, -, -, hclean⟩, -, hpub⟩
    cases hls.symm.trans heff
    obtain ⟨hl, hz⟩ := hlisteners.mp hclean
    obtain ⟨hzt, hct, hrelay⟩ := hpublished.mp hpub
    exact ⟨hl, hz, hzt, hct, hrelay⟩
  · rintro ⟨hl, hz, hzt, hct, hrelay⟩
    have hclean := hlisteners.mpr ⟨hl, hz⟩
    have hpub := hpublished.mpr ⟨hzt, hct, hrelay⟩
    refine ⟨⟨ls, _, hls, renderCaddy_eq hls, split_join ?_ ?_, hclean⟩, ?_, hpub⟩
    · simp [caddyLines, globalLines]
    · unfold caddyLines
      rw [List.forall_mem_append, List.forall_mem_append]
      refine ⟨by decide, fun line hline => ?_⟩
      obtain ⟨l, hmem, hline⟩ := List.mem_flatMap.mp hline
      rcases List.mem_append.mp hline with hline | hline
      · exact siteLines_lineFeed (hclean l hmem).1 (hclean l hmem).2 line hline
      · simp [List.mem_singleton.mp hline]
    · rw [renderComposeOverride, blockText_eq (by simp [composeLines]), split_join (by simp)]
      rw [List.forall_mem_append]
      exact ⟨composeLines_lineFeed hpub, by simp⟩

/-- One of the listeners has a scope. -/
theorem injectionFree_iff_sample :
    InjectionFree sampleConfig ↔ ScopesClean sampleRequest.toJson :=
  injectionFree_iff validateConfig_sample

/-- A configuration whose only listener is bound to an address with a line feed in its scope. -/
def scopedConfig : Config :=
  { defaultConfig with
    management :=
      { defaultConfig.management with
        listeners := [⟨py "::1%x\nrespond pwned", 3443, .selfSigned, []⟩] } }

/-- It is accepted as it is, and the Caddyfile has a directive that no template wrote. -/
theorem injected_directive : ∃ config warnings text,
    validateConfig id scopedConfig.toJson = .ok (config, warnings) ∧
    renderCaddy config = .ok text ∧ py "respond pwned" ∈ split text (ch '\n') ∧
    ¬ InjectionFree config := by
  have haccepted : validateConfig id scopedConfig.toJson = .ok (scopedConfig, []) :=
    eq_ok_of_toOption (by decide +kernel)
  have heffective : effectiveManagementListeners scopedConfig.management
      = .ok scopedConfig.management.listeners := rfl
  refine ⟨scopedConfig, [], _, haccepted, renderCaddy_eq heffective, by decide +kernel, ?_⟩
  rintro ⟨⟨ls, _, hls, -, -, hclean⟩, -, -⟩
  cases heffective.symm.trans hls
  exact lineFeed_notMem (hclean _ (List.mem_singleton.mpr rfl)).1 (by decide)

end ZtPlanet.Agent
