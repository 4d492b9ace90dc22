/-
# Values that are checked twice

A client reads back the configuration that was stored and sends it again, so what
`validate_config` returned has to pass its own checks.  This module does that for single values:
when each `require_*` helper returns, that what it returned is in a normal form, and that a value in
its normal form is returned as it is.

Two values take an argument.  The public URL may lose a slash behind it, which `urlparse` does not
notice.  A host loses a dot and its capitals, and may turn into an IPv4 address on the way; it is
then the text of that address.  What is not a fixed point is the length of a host: an IPv6 address
may be written one character shorter than its normal form.
-/
import ZtPlanet.Agent.Accepted
import ZtPlanet.Python.NetworkRoundTrip
import ZtPlanet.Python.UrlOrigin

namespace ZtPlanet.Agent

open ZtPlanet.Python
open ZtPlanet.Lib (bind_ok_iff mapM_ok_iff)

/-! ## 1. Normal forms -/

/-- The text that `str(ipaddress.ip_address(value))` gives. -/
def IsNormalAddress (text : PyStr) : Prop := ∃ ip, IpAddress.parse text = some ip ∧ ip.str = text

/-- The text that `str(ipaddress.ip_network(value, strict=False))` gives. -/
def IsNormalCidr (text : PyStr) : Prop :=
  ∃ network, IpNetwork.parse text = some network ∧ network.str = text

/-- A host as `require_host` returns it. -/
def IsNormalHost (text : PyStr) : Prop :=
  IsNormalAddress text ∨
    IpAddress.parse text = none ∧ isSafeHostname text = true ∧
      lower (rstrip text (ch '.')) = text

/-- A list of networks that `require_cidrs` can return. -/
def ValidCidrs (cidrs : List PyStr) : Prop := cidrs.length ≤ 64 ∧ ∀ c ∈ cidrs, IsNormalCidr c

/-- A port that `require_int` lets through. -/
def ValidPort (port : Nat) : Prop := 1 ≤ port ∧ port ≤ 65535

theorem isNormalAddress_of_isAddress {value : Json} {text : PyStr} (h : IsAddress value text) :
    IsNormalAddress text := by
  obtain ⟨s, ip, -, hip, rfl⟩ := h
  exact ⟨ip, IpAddress.parse_str_of_parse hip, rfl⟩

theorem isNormalCidr_of_isCidr {value : Json} {text : PyStr} (h : IsCidr value text) :
    IsNormalCidr text := by
  obtain ⟨s, network, -, hn, rfl⟩ := h
  exact ⟨network, IpNetwork.parse_str_of_parse hn, rfl⟩

/-! ## 2. More of the helpers -/

theorem refuseIf_eq_ok {condition : Bool} {message : PyStr} :
    refuseIf condition message = .ok () ↔ condition = false := by
  cases condition <;> simp [refuseIf, fail]

theorem refuseWhen_eq_ok {condition : Bool} {test : Except PyError Bool} {message : PyStr} :
    refuseWhen condition test message = .ok () ↔ condition = true → test = .ok false := by
  unfold refuseWhen
  cases condition with
  | false => simp
  | true =>
    rw [if_pos rfl, bind_ok_iff]
    simp [refuseIf_eq_ok]

theorem requireInt_eq_ok {value : Json} {name : PyStr} {minimum maximum n : Nat} :
    requireInt value name minimum maximum = .ok n ↔
      value = .int n ∧ minimum ≤ n ∧ n ≤ maximum := by
  unfold requireInt
  cases value with
  | int k =>
    dsimp only
    split
    · rename_i h
      simp only [Except.ok.injEq, Json.int.injEq]
      omega
    · rename_i h
      simp only [fail, reduceCtorEq, Json.int.injEq, false_iff]
      omega
  | _ => simp [fail]

/-- Where the test holds of nothing, `anyOf` has looked at everything. -/
theorem anyOf_eq_false {α : Type} {f : α → Except PyError Bool} :
    ∀ {items : List α}, anyOf f items = .ok false ↔ ∀ x ∈ items, f x = .ok false
  | [] => by simp [anyOf]
  | x :: items => by
    rw [anyOf, bind_ok_iff, List.forall_mem_cons, ← anyOf_eq_false]
    constructor
    · rintro ⟨b, hb, h⟩
      cases b with
      | true => cases h
      | false => exact ⟨hb, h⟩
    · rintro ⟨hx, h⟩
      exact ⟨false, hx, h⟩

theorem ipAddress_eq_ok {s : PyStr} {ip : IpAddress} :
    ipAddress s = .ok ip ↔ IpAddress.parse s = some ip := by
  unfold ipAddress
  cases IpAddress.parse s <;> simp

theorem forall_mem_of_forall₂ {α β : Type} {R : α → β → Prop} {P : β → Prop}
    (h : ∀ a b, R a b → P b) {as : List α} {bs : List β} (hall : List.Forall₂ R as bs) :
    ∀ b ∈ bs, P b := by
  induction hall with
  | nil => exact fun b hb => by cases hb
  | cons hab _ ih => exact List.forall_mem_cons.mpr ⟨h _ _ hab, ih⟩

/-- `require_cidrs` returns at most 64 networks in their normal form. -/
theorem validCidrs_of_requireCidrs {value : Json} {name : PyStr} {texts : List PyStr}
    (h : requireCidrs value name = .ok texts) : ValidCidrs texts := by
  unfold requireCidrs at h
  split at h
  · dsimp only at h
    split at h
    · cases h
    · rename_i hlen
      have hall := mapM_ok_iff.mp h
      refine ⟨by rw [← hall.length_eq]; omega, forall_mem_of_forall₂ (fun value c hc => ?_) hall⟩
      exact isNormalCidr_of_isCidr (requireCidr_eq_ok.mp hc)
  · cases h

/-! ## 3. The public URL -/

theorem rstrip_append_self (s : PyStr) (c : CodePoint) : rstrip (s ++ [c]) c = rstrip s c := by
  simp [rstrip, List.dropWhile_cons_of_pos]

theorem rstrip_of_getLast? {s : PyStr} {c : CodePoint} (h : s.getLast? ≠ some c) :
    rstrip s c = s := by
  unfold rstrip
  cases hs : s.reverse with
  | nil => rw [List.dropWhile_nil, List.reverse_nil, ← List.reverse_eq_nil_iff.mp hs]
  | cons d rest =>
    have hd : d ≠ c := by
      rintro rfl
      exact h (by rw [← List.head?_reverse, hs]; rfl)
    rw [List.dropWhile_cons_of_neg (by simpa using hd), ← hs, List.reverse_reverse]

/-- What `validate_config` asks of the components of the public URL. -/
structure IsOrigin (url : ParseResult) : Prop where
  scheme : url.scheme = py "http" ∨ url.scheme = py "https"
  host : url.hasHostname = true
  path : url.path = [] ∨ url.path = py "/"
  userinfo : url.userinfo = ([], [])
  query : url.query = []
  fragment : url.fragment = []

/-- The warnings about the public URL. -/
def urlWarnings (scheme : PyStr) (port : Nat) (listeners : List Listener) : List PyStr :=
  (if listeners.any fun l => l.port == port then [] else
    [py "management.publicUrl port is not present in the configured management listeners"]) ++
  (if scheme = py "https" ∧
      (listeners.any fun l => l.port == port && l.tlsMode != .off) = false then
    [py "management.publicUrl uses HTTPS but no listener on that port has TLS"] else [])

theorem validatePublicUrl_eq_ok {nfkc : PyStr → PyStr} {value : Json} {listeners : List Listener}
    {result : PyStr × List PyStr} :
    validatePublicUrl nfkc value listeners = .ok result ↔
      ∃ s url port, value = .str s ∧ s.length ≤ 512 ∧ UrlParse.urlparse nfkc s = some url ∧
        IsOrigin url ∧ publicPort url = .ok port ∧
        result = (rstrip s (ch '/'), urlWarnings url.scheme port listeners) := by
  have hurl (s : PyStr) : requirePublicUrl value = .ok s ↔ value = .str s ∧ s.length ≤ 512 := by
    unfold requirePublicUrl
    cases value with
    | str t =>
      dsimp only
      split
      · simp only [fail, reduceCtorEq, Json.str.injEq, false_iff]
        rintro ⟨rfl, h⟩
        omega
      · simp only [Except.ok.injEq, Json.str.injEq]
        constructor
        · rintro rfl
          exact ⟨rfl, by omega⟩
        · exact fun h => h.1
    | _ => simp [fail]
  have hparse (s : PyStr) (url : ParseResult) : parseUrl nfkc s = .ok url ↔
      UrlParse.urlparse nfkc s = some url := by
    unfold parseUrl
    cases UrlParse.urlparse nfkc s <;> simp
  unfold validatePublicUrl
  constructor
  · intro h
    obtain ⟨s, hs, h⟩ := bind_ok_iff.mp h
    obtain ⟨url, hu, h⟩ := bind_ok_iff.mp h
    obtain ⟨_, horigin, h⟩ := bind_ok_iff.mp h
    obtain ⟨_, hplain, h⟩ := bind_ok_iff.mp h
    obtain ⟨port, hport, h⟩ := bind_ok_iff.mp h
    obtain ⟨hvalue, hlen⟩ := (hurl s).mp hs
    have horigin := refuseIf_eq_ok.mp horigin
    have hplain := refuseIf_eq_ok.mp hplain
    simp only [Bool.or_eq_false_iff, Bool.and_eq_false_imp, bne_iff_ne, ne_eq,
      bne_eq_false_iff_eq, Bool.not_eq_false'] at horigin hplain
    refine ⟨s, url, port, hvalue, hlen, (hparse s url).mp hu, ?_, hport, (pure_eq_ok.mp h).symm⟩
    exact {
      scheme := or_iff_not_imp_left.mpr horigin.1.1
      host := horigin.1.2
      path := or_iff_not_imp_left.mpr horigin.2
      userinfo := Prod.ext hplain.1.1.1 hplain.1.1.2
      query := hplain.1.2
      fragment := hplain.2 }
  · rintro ⟨s, url, port, hvalue, hlen, hu, ho, hport, rfl⟩
    refine bind_ok_iff.mpr ⟨s, (hurl s).mpr ⟨hvalue, hlen⟩, ?_⟩
    refine bind_ok_iff.mpr ⟨url, (hparse s url).mpr hu, ?_⟩
    refine bind_ok_iff.mpr ⟨(), refuseIf_eq_ok.mpr ?_, ?_⟩
    · simp only [Bool.or_eq_false_iff, Bool.and_eq_false_imp, bne_iff_ne, ne_eq,
        bne_eq_false_iff_eq, Bool.not_eq_false']
      exact ⟨⟨or_iff_not_imp_left.mp ho.scheme, ho.host⟩, or_iff_not_imp_left.mp ho.path⟩
    · refine bind_ok_iff.mpr ⟨(), refuseIf_eq_ok.mpr ?_, ?_⟩
      · simp [ho.userinfo, ho.query, ho.fragment]
      · exact bind_ok_iff.mpr ⟨port, hport, rfl⟩

/-- **The public URL is a fixed point of its validation.** -/
theorem validatePublicUrl_again {nfkc : PyStr → PyStr} {value : Json} {listeners : List Listener}
    {result : PyStr × List PyStr} (h : validatePublicUrl nfkc value listeners = .ok result) :
    validatePublicUrl nfkc (.str result.1) listeners = .ok result := by
  obtain ⟨s, url, port, -, hlen, hu, ho, hport, rfl⟩ := validatePublicUrl_eq_ok.mp h
  dsimp only
  by_cases hlast : s.getLast? = some (ch '/')
  · obtain ⟨init, rfl⟩ := List.getLast?_eq_some_iff.mp hlast
    have hscheme : url.scheme ≠ [] := by
      rcases ho.scheme with hs | hs <;> rw [hs] <;> decide
    have hnetloc : url.netloc ≠ [] := by
      intro hnil
      have hhost := ho.host
      unfold ParseResult.hasHostname ParseResult.hostinfo at hhost
      rw [hnil] at hhost
      revert hhost
      decide
    obtain ⟨hu', hlast'⟩ := UrlParse.urlparse_of_slash hu hscheme hnetloc ho.path ho.query
      ho.fragment
    rw [rstrip_append_self, rstrip_of_getLast? hlast']
    refine validatePublicUrl_eq_ok.mpr ⟨init, _, port, rfl, ?_, hu', ?_, hport, ?_⟩
    · rw [List.length_append] at hlen
      omega
    · exact ⟨ho.scheme, ho.host, .inl rfl, ho.userinfo, rfl, rfl⟩
    · rw [rstrip_of_getLast? hlast']
  · rw [rstrip_of_getLast? hlast]
    refine validatePublicUrl_eq_ok.mpr ⟨s, url, port, rfl, hlen, hu, ho, hport, ?_⟩
    rw [rstrip_of_getLast? hlast]

/-! ## 4. The host of the relay client -/

/-- `lower`, one character at a time. -/
def lowerChar (c : CodePoint) : CodePoint :=
  if 65 ≤ c.val ∧ c.val ≤ 90 then Fin.ofNat 0x110000 (c.val + 32) else c

theorem lower_eq (s : PyStr) : lower s = s.map lowerChar := rfl

theorem lowerChar_val (c : CodePoint) :
    (lowerChar c).val = if 65 ≤ c.val ∧ c.val ≤ 90 then c.val + 32 else c.val := by
  unfold lowerChar
  split
  · exact Nat.mod_eq_of_lt (by omega)
  · rfl

theorem lower_lower (s : PyStr) : lower (lower s) = lower s := by
  rw [lower_eq, lower_eq, List.map_map]
  refine List.map_congr_left fun c _ => Fin.ext ?_
  rw [Function.comp_apply, lowerChar_val, lowerChar_val]
  by_cases hc : 65 ≤ c.val ∧ c.val ≤ 90
  · rw [if_pos hc, if_neg (by omega)]
  · rw [if_neg hc, if_neg hc]

theorem isAsciiAlnum_lowerChar {c : CodePoint} (h : isAsciiAlnum c = true) :
    isAsciiAlnum (lowerChar c) = true := by
  simp only [isAsciiAlnum, isAsciiDigit, isAsciiLetter, Bool.or_eq_true, Bool.and_eq_true,
    decide_eq_true_eq, lowerChar_val] at h ⊢
  split <;> omega

/-- A label of a host name stays one in lower case. -/
theorem isSafeLabel_lower {label : PyStr} (h : isSafeLabel label = true) :
    isSafeLabel (lower label) = true := by
  simp only [isSafeLabel, Bool.and_eq_true, decide_eq_true_eq] at h ⊢
  obtain ⟨⟨⟨hlen, hall⟩, hhead⟩, hlast⟩ := h
  have hany {o : Option CodePoint} (ho : o.any isAsciiAlnum = true) :
      (o.map lowerChar).any isAsciiAlnum = true := by
    cases o with
    | none => cases ho
    | some c => exact isAsciiAlnum_lowerChar ho
  rw [lower_eq]
  refine ⟨⟨⟨by rwa [List.length_map], ?_⟩, ?_⟩, ?_⟩
  · rw [List.all_eq_true] at hall ⊢
    intro c hc
    obtain ⟨d, hd, rfl⟩ := List.mem_map.mp hc
    have hd := hall d hd
    rw [Bool.or_eq_true] at hd ⊢
    rcases hd with hd | hd
    · exact .inl (isAsciiAlnum_lowerChar hd)
    · rw [beq_iff_eq.mp hd]
      exact .inr (by decide)
  · rw [List.head?_map]
    exact hany hhead
  · rw [List.getLast?_map]
    exact hany hlast

/-- A label has no dot, and no character that a name cannot hold. -/
theorem mem_of_isSafeLabel {label : PyStr} (h : isSafeLabel label = true) :
    label ≠ [] ∧ ∀ c ∈ label, isAsciiAlnum c = true ∨ c = ch '-' := by
  simp only [isSafeLabel, Bool.and_eq_true, decide_eq_true_eq] at h
  obtain ⟨⟨⟨hlen, hall⟩, -⟩, -⟩ := h
  refine ⟨?_, fun c hc => ?_⟩
  · rintro rfl
    simp at hlen
  · have hc := List.all_eq_true.mp hall c hc
    rw [Bool.or_eq_true, beq_iff_eq] at hc
    exact hc

theorem lower_join (sep : PyStr) (parts : List PyStr) :
    lower (join sep parts) = join (lower sep) (parts.map lower) := by
  have hlower : lower = List.map lowerChar := funext lower_eq
  rw [hlower]
  exact map_intercalate lowerChar sep parts

/-- Labels joined with dots. -/
structure IsName (s : PyStr) : Prop where
  length : 1 ≤ s.length ∧ s.length ≤ 253
  labels : ∀ label ∈ split s (ch '.'), isSafeLabel label = true

theorem IsName.join_labels {s : PyStr} : s = join (py ".") (split s (ch '.')) :=
  (List.intercalate_splitOn _).symm

/-- A name does not end with a dot. -/
theorem IsName.getLast?_ne {s : PyStr} (h : IsName s) : s.getLast? ≠ some (ch '.') := by
  intro hlast
  obtain ⟨init, rfl⟩ := List.getLast?_eq_some_iff.mp hlast
  have hnil : ([] : PyStr) ∈ split (init ++ [ch '.']) (ch '.') := by
    unfold split
    rw [List.splitOn_append_cons_self, List.splitOn_nil]
    simp
  have hsafe := h.labels [] hnil
  revert hsafe
  decide

theorem IsName.mem {s : PyStr} (h : IsName s) :
    ∀ c ∈ s, isAsciiAlnum c = true ∨ c = ch '-' ∨ c = ch '.' := by
  intro c hc
  rw [IsName.join_labels (s := s)] at hc
  rcases mem_join hc with hc | ⟨p, hp, hc⟩
  · exact .inr (.inr (List.mem_singleton.mp hc))
  · rcases (mem_of_isSafeLabel (h.labels p hp)).2 c hc with h | h
    · exact .inl h
    · exact .inr (.inl h)

/-- Lower case keeps a name a name. -/
theorem IsName.lower {s : PyStr} (h : IsName s) : IsName (lower s) := by
  have hsplit : split (Python.lower s) (ch '.') = (split s (ch '.')).map Python.lower := by
    have hjoin : Python.lower s = join (py ".") ((split s (ch '.')).map Python.lower) := by
      conv_lhs => rw [IsName.join_labels (s := s), lower_join]
      rfl
    rw [hjoin]
    refine List.splitOn_intercalate _ ?_ ?_
    · intro l hl hdot
      obtain ⟨label, hlabel, rfl⟩ := List.mem_map.mp hl
      rcases (mem_of_isSafeLabel (isSafeLabel_lower (h.labels label hlabel))).2 _ hdot with hc | hc
        <;> revert hc <;> decide
    · rw [ne_eq, List.map_eq_nil_iff]
      exact List.splitOn_ne_nil _ _
  refine ⟨by rw [lower_eq, List.length_map]; exact h.length, fun label hlabel => ?_⟩
  rw [hsplit] at hlabel
  obtain ⟨label', hlabel', rfl⟩ := List.mem_map.mp hlabel
  exact isSafeLabel_lower (h.labels label' hlabel')

/-- A safe host name is a name, with a dot behind it or without. -/
theorem isName_of_isSafeHostname {s : PyStr} (h : isSafeHostname s = true) :
    IsName (rstrip s (ch '.')) := by
  unfold isSafeHostname at h
  rw [Bool.and_eq_true, decide_eq_true_eq, List.all_eq_true] at h
  obtain ⟨hlen, hlabels⟩ := h
  by_cases hlast : s.getLast? = some (ch '.')
  · rw [if_pos hlast] at hlabels
    obtain ⟨init, rfl⟩ := List.getLast?_eq_some_iff.mp hlast
    rw [List.dropLast_concat] at hlabels
    rw [List.length_append, List.length_singleton] at hlen
    have hname : IsName init := by
      refine ⟨⟨?_, by omega⟩, hlabels⟩
      rw [Nat.one_le_iff_ne_zero]
      intro hnil
      rw [List.length_eq_zero_iff.mp hnil] at hlabels
      have hempty := hlabels [] (by simp [split])
      revert hempty
      decide
    rw [rstrip_append_self, rstrip_of_getLast? hname.getLast?_ne]
    exact hname
  · rw [if_neg hlast] at hlabels
    rw [rstrip_of_getLast? hlast]
    exact ⟨hlen, hlabels⟩

theorem IsName.isSafeHostname {s : PyStr} (h : IsName s) : isSafeHostname s = true := by
  unfold Agent.isSafeHostname
  rw [if_neg h.getLast?_ne, Bool.and_eq_true, decide_eq_true_eq, List.all_eq_true]
  exact ⟨h.length, h.labels⟩

/-- An IPv6 address holds a colon. -/
theorem colon_mem_of_ipv6Address {s : PyStr} {p : BitVec 128 × Option PyStr}
    (h : IpAddress.ipv6Address s = some p) : ch ':' ∈ s := by
  unfold IpAddress.ipv6Address at h
  split at h
  · cases h
  · split at h
    · cases h
    · rename_i addr scope hscope
      obtain ⟨ip, hip, -⟩ := Option.map_eq_some_iff.mp h
      have hcolon : ch ':' ∈ addr := by
        by_contra hnot
        unfold IpAddress.ipv6FromString split at hip
        rw [List.splitOn_eq_singleton hnot, if_pos (by simp)] at hip
        cases hip
      unfold IpAddress.splitScopeId at hscope
      split at hscope
      · rename_i hpart
        cases hscope
        have hall := notMem_of_partition hpart
        rw [partition_of_notMem hall] at hpart
        cases hpart
        exact hcolon
      · rename_i hpart
        split at hscope
        · cases hscope
        · cases hscope
          rw [(eq_of_partition hpart).1]
          exact List.mem_append_left _ hcolon

/-- A name that is an address is the text of the address. -/
theorem IsName.isNormalAddress {s : PyStr} (h : IsName s) {ip : IpAddress}
    (hip : IpAddress.parse s = some ip) : IsNormalAddress s := by
  refine ⟨ip, hip, ?_⟩
  unfold IpAddress.parse at hip
  split at hip
  · rename_i ip4 hip4
    cases hip
    unfold IpAddress.ipv4Address at hip4
    split at hip4
    · cases hip4
    · exact IpAddress.ipv4Text_of_parse hip4
  · obtain ⟨p, hp, -⟩ := Option.map_eq_some_iff.mp hip
    have hcolon := h.mem _ (colon_mem_of_ipv6Address hp)
    have hnot : ¬ (isAsciiAlnum (ch ':') = true ∨ ch ':' = ch '-' ∨ ch ':' = ch '.') := by decide
    exact absurd hcolon hnot

/-- When `require_host` returns for a text. -/
theorem requireHost_str_eq_ok {s name text : PyStr} :
    requireHost (.str s) name = .ok text ↔ s ≠ [] ∧ s.length ≤ 253 ∧
      ((∃ ip, IpAddress.parse s = some ip ∧ text = ip.str) ∨
        IpAddress.parse s = none ∧ isSafeHostname s = true ∧
          text = Python.lower (rstrip s (ch '.'))) := by
  unfold requireHost
  dsimp only
  by_cases hbad : s = [] ∨ s.length > 253
  · rw [if_pos hbad]
    refine iff_of_false (fun h => by cases h) ?_
    rintro ⟨hne, hlen, -⟩
    rcases hbad with h | h
    · exact hne h
    · exact absurd hlen (not_le.mpr h)
  · rw [if_neg hbad]
    rw [not_or, not_lt] at hbad
    cases hparse : IpAddress.parse s with
    | some ip =>
      constructor
      · intro h
        exact ⟨hbad.1, hbad.2, .inl ⟨ip, rfl, (Except.ok.inj h).symm⟩⟩
      · rintro ⟨-, -, ⟨ip', hip, rfl⟩ | ⟨hnone, -⟩⟩
        · cases hip
          rfl
        · cases hnone
    | none =>
      dsimp only
      by_cases hsafe : isSafeHostname s = true
      · rw [if_pos hsafe]
        constructor
        · intro h
          exact ⟨hbad.1, hbad.2, .inr ⟨rfl, hsafe, (Except.ok.inj h).symm⟩⟩
        · rintro ⟨-, -, ⟨ip, hip, -⟩ | ⟨-, -, rfl⟩⟩
          · cases hip
          · rfl
      · rw [if_neg hsafe]
        refine iff_of_false (fun h => by cases h) ?_
        rintro ⟨-, -, ⟨ip, hip, -⟩ | ⟨-, h, -⟩⟩
        · cases hip
        · exact hsafe h

theorem requireHost_eq_ok {value : Json} {name text : PyStr}
    (h : requireHost value name = .ok text) : ∃ s, value = .str s ∧
      requireHost (.str s) name = .ok text := by
  cases value with
  | str s => exact ⟨s, rfl, h⟩
  | _ => cases h

/-- What `require_host` returns is in its normal form. -/
theorem isNormalHost_of_requireHost {value : Json} {name text : PyStr}
    (h : requireHost value name = .ok text) : IsNormalHost text := by
  obtain ⟨s, -, h⟩ := requireHost_eq_ok h
  obtain ⟨-, -, ⟨ip, hip, rfl⟩ | ⟨-, hsafe, rfl⟩⟩ := requireHost_str_eq_ok.mp h
  · exact .inl ⟨ip, IpAddress.parse_str_of_parse hip, rfl⟩
  · have hname := (isName_of_isSafeHostname hsafe).lower
    cases hparse : IpAddress.parse (Python.lower (rstrip s (ch '.'))) with
    | some ip => exact .inl (hname.isNormalAddress hparse)
    | none =>
      refine .inr ⟨hparse, hname.isSafeHostname, ?_⟩
      rw [rstrip_of_getLast? hname.getLast?_ne, lower_lower]

/-- **A host in its normal form is returned as it is, unless it is too long.** -/
theorem requireHost_again {text name : PyStr} (h : IsNormalHost text) :
    requireHost (.str text) name = .ok text ↔ text.length ≤ 253 := by
  rw [requireHost_str_eq_ok]
  refine ⟨fun h => h.2.1, fun hlen => ?_⟩
  rcases h with ⟨ip, hip, rfl⟩ | ⟨hnone, hsafe, htext⟩
  · refine ⟨?_, hlen, .inl ⟨ip, hip, rfl⟩⟩
    intro hnil
    rw [hnil] at hip
    cases hip
  · refine ⟨?_, hlen, .inr ⟨hnone, hsafe, htext.symm⟩⟩
    rintro rfl
    revert hsafe
    decide

end ZtPlanet.Agent
