/-
# What the rule compiler puts out

The controller takes the compiled rules as they are.  What the compiler sees to is said by
`compile_wellFormed`, for the rules, the capabilities and the tags of every script that is accepted:
numbers are 32 bits wide (no narrower width is checked for a protocol or a VLAN), bytes and ranges
are in order, addresses and masks have their length.  Of a network it is only checked that an
address is found somewhere in front of the slash.

One value is out of range: that of a tag for a word that is a property of every object of JavaScript
is no number but that property (`TagValue.inherited`).

Rules are looked at where they are rendered, with the steps over conditions and statements.  What
the definitions have collected is an invariant of the second pass (`definitions_preserve`).
-/
import ZtPlanet.Ztnet.RuleMasks
import ZtPlanet.Ztnet.RuleMeaning

namespace ZtPlanet.Ztnet.RuleCompiler

open ZtPlanet.Js ZtPlanet.Lib ZtPlanet.Lib.FilterChain

variable {π : Type} {unicode : Unicode}

/-! ## 1. Fields -/

/-- A number of 32 bits. -/
def IsWord (n : Int) : Prop := 0 ≤ n ∧ n ≤ 0xffffffff

/-- What the checks of a number leave. -/
theorem isWord_of_checks {n : Int} (h : ¬(n < 0 ∨ n > 0xffffffff)) : IsWord n := by
  unfold IsWord
  omega

/-- A number of eight bits. -/
def IsByte (n : Int) : Prop := 0 ≤ n ∧ n ≤ 0xff

/-- A result of a bitwise operator. -/
def IsSigned (n : Int) : Prop := -2 ^ 31 ≤ n ∧ n < 2 ^ 31

/-- Digits, with a colon behind each two of them. -/
def InPairs (mac : JsString) : Prop :=
  ∀ i u, mac[i]? = some u → if i % 3 = 2 then u = 58 else isLowerHex u = true

/-- A host in which a pattern is found somewhere, and what is behind its slash. -/
def IsNetwork (regex : Regex) (ip : JsString) : Prop :=
  ∃ host bits, ip = host ++ 47 :: bits ∧ host ≠ [] ∧ 47 ∉ host ∧ regex.test host = true

def TagValue.WellFormed : TagValue → Prop
  | .number n => IsWord n
  | .inherited => False

def Match.WellFormed : Match → Prop
  | .zerotierAddress _ zt => zt.length = 10 ∧ ∀ u ∈ zt, isLowerHex u = true
  | .number _ num => IsWord num
  | .random probability => IsWord probability
  | .mac _ address => address.length = 17 ∧ InPairs address
  | .ipv4 _ ip => IsNetwork ipv4Regex ip
  | .ipv6 _ ip => IsNetwork ipv6Regex ip
  | .icmp icmpType icmpCode => IsByte icmpType ∧ ∀ code ∈ icmpCode, IsByte code
  | .range _ first last => 0 ≤ first ∧ first ≤ last ∧ last ≤ 0xffff
  | .ipTos mask first last => IsByte mask ∧ 0 ≤ first ∧ first ≤ last ∧ last ≤ 0xff
  | .characteristics mask => IsMask mask
  | .tags _ id value => IsWord id ∧ value.WellFormed

def Action.WellFormed : Action → Prop
  | .tee address length | .watch address length =>
    address.length = 10 ∧ -1 ≤ length ∧ length ≤ 0xffff
  | .redirect address => address.length = 10
  | _ => True

/-- The match compares a tag with an inherited property. -/
def Match.inherits : Match → Prop
  | .tags _ id value => IsWord id ∧ value = .inherited
  | _ => False

/-- The fields of the rule are in range, unless it compares a tag with an inherited property. -/
def Rule.WellFormed : Rule → Prop
  | .test _ _ m => m.WellFormed ∨ m.inherits
  | .act a => a.WellFormed

/-- A list of rules is made of blocks, and their fields are in range. -/
structure RulesWellFormed (rules : List Rule) : Prop where
  blocks : IsBlocks rules
  fields : ∀ rule ∈ rules, Rule.WellFormed rule

/-! ## 2. Matches -/

theorem cleanMacFrom_of_le {m2 : JsString} {charcount : Nat} {m : JsString} (h : 17 ≤ m2.length) :
    cleanMacFrom m2 charcount m = m2 := by
  cases m with
  | nil => rfl
  | cons c m => exact if_pos h

theorem InPairs.append_one {mac : JsString} {u : UInt16} (h : InPairs mac)
    (hu : if mac.length % 3 = 2 then u = 58 else isLowerHex u = true) : InPairs (mac ++ [u]) := by
  intro i v hv
  rcases lt_trichotomy i mac.length with hlt | rfl | hgt
  · rw [List.getElem?_append_left hlt] at hv
    exact h i v hv
  · rw [List.getElem?_concat_length] at hv
    cases hv
    exact hu
  · have hge : (mac ++ [u]).length ≤ i := by
      rw [List.length_append, List.length_singleton]
      omega
    rw [List.getElem?_eq_none hge] at hv
    cases hv

/-- The loop counts the digits behind the last colon. -/
theorem inPairs_cleanMacFrom {m m2 : JsString} {charcount : Nat} (h : InPairs m2)
    (hcount : charcount = m2.length % 3) (hle : charcount ≤ 1) :
    InPairs (cleanMacFrom m2 charcount m) := by
  induction m generalizing m2 charcount with
  | nil => exact h
  | cons c m ih =>
    rw [cleanMacFrom]
    by_cases hlen : 17 ≤ m2.length
    · rw [if_pos hlen]
      exact h
    rw [if_neg hlen]
    by_cases hc : isLowerHex c = true
    · rw [if_pos hc]
      have hdigit : InPairs (m2 ++ [c]) := by
        refine h.append_one ?_
        rw [if_neg (by omega)]
        exact hc
      have hlength : (m2 ++ [c]).length = m2.length + 1 := List.length_append
      dsimp only
      by_cases hcolon : (m2 ++ [c]).length ≠ 17 ∧ 2 ≤ charcount + 1
      · rw [if_pos hcolon]
        have hpair : InPairs (m2 ++ [c] ++ [58]) := by
          refine hdigit.append_one ?_
          rw [if_pos (by omega)]
        refine ih hpair ?_ (by decide)
        · have hcolons : (js ":").length = 1 := rfl
          rw [List.length_append, hlength, hcolons]
          omega
      · rw [if_neg hcolon]
        by_cases hfull : (m2 ++ [c]).length = 17
        · rw [cleanMacFrom_of_le hfull.ge]
          exact hdigit
        · exact ih hdigit (by omega) (by omega)
    · rw [if_neg hc]
      exact ih h hcount hle

theorem isWord_probability (arg : JsString) : IsWord (probability arg) := by
  unfold probability
  split
  · exact ⟨by decide, by decide⟩
  · exact ⟨by decide, by decide⟩
  · exact ⟨by decide, by decide⟩
  · rename_i q _
    have hunit : 0 ≤ max 0 (min 1 q) ∧ max 0 (min 1 q) ≤ 1 := ⟨by simp, by simp⟩
    have hbounds : 0 ≤ 4294967295 * max 0 (min 1 q) ∧
        4294967295 * max 0 (min 1 q) ≤ (4294967295 : Nat) := by
      constructor
      · exact mul_nonneg (by norm_num) hunit.1
      · push_cast
        linarith [hunit.2]
    obtain ⟨p, hp, hpos, hle⟩ := ofRat_between hbounds.1 hbounds.2 (by decide)
    have hmul : Double.mul (.value 4294967295) (.value (max 0 (min 1 q))) = .value p := hp
    rw [hmul]
    constructor
    · exact Int.floor_nonneg.mpr hpos
    · refine Int.floor_le_iff.mpr ?_
      push_cast at hle ⊢
      linarith

theorem isNetwork_of_take {regex : Regex} {ip : JsString} (hpos : ip.idxOf 47 ≠ 0)
    (hlt : ip.idxOf 47 < ip.length) (htest : regex.test (ip.take (ip.idxOf 47)) = true) :
    IsNetwork regex ip := by
  have hmem : 47 ∈ ip := List.idxOf_lt_length_iff.mp hlt
  refine ⟨ip.take (ip.idxOf 47), ip.drop (ip.idxOf 47 + 1), ?_, ?_, ?_, htest⟩
  · have hhead : ip[ip.idxOf 47] = 47 := List.getElem_idxOf hlt
    calc ip = ip.take (ip.idxOf 47) ++ ip.drop (ip.idxOf 47) := (List.take_append_drop _ _).symm
      _ = _ := by rw [List.drop_eq_getElem_cons hlt, hhead]
  · intro hnil
    have := congrArg List.length hnil
    rw [List.length_take, List.length_nil] at this
    omega
  · intro hhost
    exact absurd ((List.mem_take_iff_idxOf_lt hmem).mp hhost) (lt_irrefl _)

/-- **What a match is rendered as.** -/
theorem Match.wellFormed_of_renderMatch {tags : Dict JsString Tag} {word : MatchWord}
    {arg arg' : JsString} {m : Match} (h : renderMatch unicode tags word arg arg' = .ok m) :
    m.WellFormed ∨ m.inherits := by
  cases word with
  | zerotierAddress side =>
    obtain ⟨hlen, h⟩ := if_error_ok_iff.mp h
    cases h
    refine .inl ⟨not_not.mp hlen, ?_⟩
    intro u hu
    exact (List.mem_filter.mp hu).2
  | number field =>
    obtain ⟨hrange, h⟩ := if_error_ok_iff.mp h
    cases h
    exact .inl ⟨by omega, by omega⟩
  | random =>
    cases h
    exact .inl (isWord_probability arg)
  | mac side =>
    obtain ⟨hlen, h⟩ := if_error_ok_iff.mp h
    cases h
    refine .inl ⟨not_not.mp hlen, inPairs_cleanMacFrom ?_ rfl (by decide)⟩
    intro i u hu
    cases hu
  | ip side =>
    obtain ⟨hslash, h⟩ := if_error_ok_iff.mp h
    have hpos : arg.idxOf 47 ≠ 0 := by tauto
    have hlt : arg.idxOf 47 < arg.length := by omega
    split at h
    · rename_i htest
      cases h
      exact .inl (isNetwork_of_take hpos hlt htest)
    · split at h
      · rename_i htest
        cases h
        exact .inl (isNetwork_of_take hpos hlt htest)
      · cases h
  | icmp =>
    obtain ⟨htype, h⟩ := if_error_ok_iff.mp h
    obtain ⟨hcode, h⟩ := if_error_ok_iff.mp h
    cases h
    refine .inl ⟨⟨by omega, by omega⟩, ?_⟩
    intro code hmem
    split at hmem
    · cases hmem
    · cases hmem
      exact ⟨by omega, by omega⟩
  | range field =>
    unfold renderMatch at h
    dsimp only at h
    split at h
    · cases h
    · obtain ⟨hrange, h⟩ := if_error_ok_iff.mp h
      cases h
      exact .inl ⟨by omega, by omega, by omega⟩
  | iptos =>
    obtain ⟨hmask, h⟩ := if_error_ok_iff.mp h
    split at h
    · cases h
    · obtain ⟨hrange, h⟩ := if_error_ok_iff.mp h
      cases h
      exact .inl ⟨⟨by omega, by omega⟩, by omega, by omega, by omega⟩
  | chr =>
    unfold renderMatch at h
    dsimp only at h
    split at h
    · cases h
    · rename_i mask hmask
      cases h
      exact .inl (isMask_characteristicMask hmask)
  | tags test =>
    unfold renderMatch at h
    dsimp only at h
    split at h
    · split at h
      · cases h
      · obtain ⟨hid, h⟩ := if_error_ok_iff.mp h
        obtain ⟨hvalue, h⟩ := if_error_ok_iff.mp h
        cases h
        exact .inl ⟨⟨by omega, by omega⟩, by omega, by omega⟩
    · rename_i tag htag
      obtain ⟨hid, h⟩ := if_error_ok_iff.mp h
      obtain ⟨hvalue, h⟩ := if_error_ok_iff.mp h
      cases h
      have hword : IsWord tag.id := ⟨by omega, by omega⟩
      cases htext : tag.value unicode arg' with
      | inherited => exact .inr ⟨hword, rfl⟩
      | number n =>
        rw [htext] at hvalue
        simp only [TagValue.outside, Bool.or_eq_true, decide_eq_true_eq] at hvalue
        exact .inl ⟨hword, by omega, by omega⟩

variable {macros : Dict JsString (Macro π)} {tags : Dict JsString Tag}
  {params : Dict JsString JsString}

theorem Matches.wellFormed {es es' : List (Elem π)} {m : Match}
    (hm : Matches unicode tags params es m es') : m.WellFormed ∨ m.inherits := by
  cases hm with
  | one _ _ _ _ hm => exact Match.wellFormed_of_renderMatch hm
  | two _ _ _ _ _ hm => exact Match.wellFormed_of_renderMatch hm

theorem wellFormed_of_renderMatches {es : List (Elem π)} {not or : Bool} {rules : List Rule}
    (h : renderMatches unicode tags params not or es = .ok rules) :
    ∀ rule ∈ rules, Rule.WellFormed rule := by
  induction hlength : es.length using Nat.strong_induction_on generalizing es not or rules with
  | h length ih =>
    subst hlength
    cases es with
    | nil =>
      cases h
      exact List.forall_mem_nil _
    | cons e es =>
      have hes : es.length < (e :: es).length := Nat.lt_succ_self _
      rcases renderMatches_cons h with hand | hn | ho | ⟨hjoin, hword, hinherited⟩ | ⟨m, es', hm⟩
      · exact ih _ hes (renderMatches_and hand ▸ h) rfl
      · exact ih _ hes (renderMatches_not hn ▸ h) rfl
      · exact ih _ hes (renderMatches_or ho ▸ h) rfl
      · exact ih _ hes (renderMatches_inherited hjoin hword hinherited ▸ h) rfl
      · rw [renderMatches_test hm, map_ok_iff] at h
        obtain ⟨rest, hrest, rfl⟩ := h
        exact List.forall_mem_cons.mpr ⟨hm.wellFormed, ih _ hm.length_lt hrest rfl⟩

/-! ## 3. Statements -/

theorem length_of_actionTarget {e : Elem π} {target : JsString} (h : actionTarget e = some target) :
    target.length = 10 := by
  obtain ⟨-, hlen⟩ := Option.filter_eq_some_iff.mp h
  simpa using hlen

theorem Guards.wellFormed {e : Elem π} {es mtree es' : List (Elem π)} {a : Action}
    (ha : Guards unicode e es mtree a es') : a.WellFormed := by
  have hplain : ∀ word a, plainActions.find? word = some a → Action.WellFormed a := by
    intro word a hfind
    obtain ⟨entry, hentry, rfl⟩ := Option.map_eq_some_iff.mp hfind
    have hmem := List.mem_of_find?_eq_some hentry
    simp only [plainActions, List.mem_cons, List.not_mem_nil, or_false] at hmem
    rcases hmem with rfl | rfl | rfl
    · trivial
    · trivial
    · trivial
  cases ha with
  | plain _ ha => exact hplain _ _ ha
  | alone _ ha _ => exact hplain _ _ ha
  | copy _ _ ha _ hlength ht =>
    rcases ha with ⟨-, rfl⟩ | ⟨-, -, rfl⟩
    · exact ⟨length_of_actionTarget ht, hlength⟩
    · exact ⟨length_of_actionTarget ht, hlength⟩
  | redirect _ _ _ _ ht => exact length_of_actionTarget ht

theorem wellFormed_of_renderActionsWith
    {call : Dict JsString JsString → List (Elem π) → Except (Failure π) (List Rule)}
    (hcall : ∀ bound tree rules, call bound tree = .ok rules → ∀ rule ∈ rules, Rule.WellFormed rule)
    {es : List (Elem π)} {rules : List Rule}
    (h : renderActionsWith unicode macros tags params call es = .ok rules) :
    ∀ rule ∈ rules, Rule.WellFormed rule := by
  induction hlength : es.length using Nat.strong_induction_on generalizing es rules with
  | h length ih =>
    subst hlength
    cases es with
    | nil =>
      cases h
      exact List.forall_mem_nil _
    | cons e es =>
      rcases renderActionsWith_cons h
        with hword | ⟨name, es', m, bound, rfl, he⟩ | ⟨mtree, a, es', ha⟩
      · exact ih _ (Nat.lt_succ_self _) (renderActionsWith_skip hword ▸ h) rfl
      · rw [renderActionsWith_expand he] at h
        obtain ⟨expanded, hexpanded, h⟩ := bind_ok_iff.mp h
        obtain ⟨rest, hrest, h⟩ := bind_ok_iff.mp h
        cases h
        have hlt : es'.length < (e :: name :: es').length :=
          Nat.lt_trans (Nat.lt_succ_self _) (Nat.lt_succ_self _)
        exact List.forall_mem_append.mpr ⟨hcall _ _ _ hexpanded, ih _ hlt hrest rfl⟩
      · rw [renderActionsWith_guarded ha] at h
        obtain ⟨condition, hcondition, h⟩ := bind_ok_iff.mp h
        obtain ⟨rest, hrest, h⟩ := bind_ok_iff.mp h
        cases h
        have hlt : es'.length < (e :: es).length := Nat.lt_succ_of_le ha.length_le
        exact List.forall_mem_append.mpr ⟨wellFormed_of_renderMatches hcondition,
          List.forall_mem_cons.mpr ⟨ha.wellFormed, ih _ hlt hrest rfl⟩⟩

/-- **What statements are rendered as.** -/
theorem wellFormed_of_renderActions {depth : Nat} {tree : List (Elem π)} {rules : List Rule}
    (h : renderActions unicode macros tags depth params tree = .ok rules) :
    RulesWellFormed rules := by
  refine ⟨(renders_of_renderActions h).1, ?_⟩
  induction depth generalizing params tree rules with
  | zero => cases h
  | succ depth ih => exact wellFormed_of_renderActionsWith (fun bound tree rules => ih) h

/-! ## 4. Tags -/

/-- A name that may be defined. -/
def IsName (name : JsString) : Prop := isValidName name = true ∧ isReserved name = false

structure Tag.WellFormed (tag : Tag) : Prop where
  id : IsWord tag.id
  enums : ∀ name n, tag.enums.get? name = some n → isValidName name = true ∧ IsWord n
  flags : ∀ name n, tag.flags.get? name = some n → isValidName name = true ∧ IsSigned n
  default : ∀ n, tag.default = some n → IsWord n ∨ IsSigned n

theorem isSigned_toInt (b : BitVec 32) : IsSigned b.toInt := by
  have hlow := BitVec.le_toInt b
  have hhigh := BitVec.toInt_lt (x := b)
  exact ⟨by omega, by omega⟩

theorem isSigned_flagMask {flags : Dict JsString Int} {bits : List JsString} {mask mask' : Js.Num}
    (h : flagMask unicode flags bits mask = some mask') (hmask : IsSigned (mask.getD 0)) :
    IsSigned (mask'.getD 0) := by
  induction bits generalizing mask with
  | nil =>
    cases h
    exact hmask
  | cons bit bits ih =>
    rw [flagMask] at h
    dsimp only at h
    split at h
    · exact ih h (isSigned_toInt _)
    · split at h
      · exact ih h (isSigned_toInt _)
      · split at h
        · cases h
        · exact ih h (isSigned_toInt _)

/-- What the loop over a tag has collected. -/
structure TagDraft.WellFormed (draft : TagDraft) : Prop where
  id : 0 ≤ draft.id → IsWord draft.id
  enums : ∀ name n, draft.enums.get? name = some n → isValidName name = true ∧ IsWord n
  flags : ∀ name n, draft.flags.get? name = some n → isValidName name = true ∧ IsSigned n

theorem forall_get?_set {α : Type} {d : Dict JsString α} {P : JsString → α → Prop}
    (h : ∀ name a, d.get? name = some a → P name a) {key : JsString} {b : α} (hb : P key b) :
    ∀ name a, (d.set key b).get? name = some a → P name a := by
  intro name a ha
  rw [Dict.get?_set] at ha
  split at ha
  · rename_i hname
    cases ha
    exact hname ▸ hb
  · exact h name a ha

theorem tagItems_wellFormed {es : List (Elem π)} {draft draft' : TagDraft}
    (h : tagItems unicode es draft = .ok draft') (hdraft : draft.WellFormed) :
    draft'.WellFormed := by
  induction hlength : es.length using Nat.strong_induction_on generalizing es draft with
  | h length ih =>
    subst hlength
    cases es with
    | nil =>
      cases h
      exact hdraft
    | cons e es =>
      rw [tagItems.eq_def] at h
      dsimp only at h
      split at h
      · cases h
      rename_i text htext
      split at h
      · split at h
        · exact absurd h refuse_ne_ok
        split at h
        · exact absurd h refuse_ne_ok
        split at h
        · exact absurd h refuse_ne_ok
        · rename_i v es' hid
          refine ih _ ?_ h ⟨fun _ => isWord_of_checks hid, hdraft.enums, hdraft.flags⟩ rfl
          simp only [List.length_cons]
          omega
      split at h
      · split at h
        · exact absurd h refuse_ne_ok
        split at h
        · exact absurd h refuse_ne_ok
        split at h
        · cases h
        · refine ih _ ?_ h ⟨hdraft.id, hdraft.enums, hdraft.flags⟩ rfl
          simp only [List.length_cons]
          omega
      split at h
      · split at h
        · split at h
          · cases h
          split at h
          · exact absurd h refuse_ne_ok
          rename_i mask hmask
          obtain ⟨flagName, hname, h⟩ := bind_ok_iff.mp h
          split at h
          · exact absurd h refuse_ne_ok
          rename_i hvalid
          split at h
          · exact absurd h refuse_ne_ok
          refine ih _ ?_ h ⟨hdraft.id, hdraft.enums, forall_get?_set hdraft.flags ?_⟩ rfl
          · simp only [List.length_cons]
            omega
          · exact ⟨by simpa using hvalid, isSigned_flagMask hmask ⟨by decide, by decide⟩⟩
        · exact absurd h refuse_ne_ok
      split at h
      · split at h
        · split at h
          · exact absurd h refuse_ne_ok
          rename_i hvalue
          obtain ⟨enumName, hname, h⟩ := bind_ok_iff.mp h
          split at h
          · exact absurd h refuse_ne_ok
          rename_i hvalid
          split at h
          · exact absurd h refuse_ne_ok
          refine ih _ ?_ h ⟨hdraft.id, forall_get?_set hdraft.enums ?_, hdraft.flags⟩ rfl
          · simp only [List.length_cons]
            omega
          · exact ⟨by simpa using hvalid, by omega, by omega⟩
        · exact absurd h refuse_ne_ok
      · exact absurd h refuse_ne_ok

theorem TagDraft.WellFormed.default {draft : TagDraft} (h : draft.WellFormed) {n : Int}
    (hn : draft.default = some n) : IsWord n ∨ IsSigned n := by
  obtain ⟨dfl, -, rfl⟩ := Option.map_eq_some_iff.mp hn
  split
  · rename_i n henum
    exact .inl (h.enums _ _ henum).2
  · refine .inr ?_
    cases hflag : draft.flags.get? dfl with
    | some n => exact (h.flags _ _ hflag).2
    | none => exact isSigned_toInt _

/-! ## 5. Definitions -/

/-- **An invariant of the second pass** is one of its three definitions. -/
theorem definitions_preserve {P : Program π → Prop}
    (hbase : ∀ p e, P p → P { p with baseRuleTree := p.baseRuleTree ++ [e] })
    (hmac : ∀ p p' name items, P p → defineMacro unicode p name items = .ok p' → P p')
    (htag : ∀ p p' name items, P p → defineTag unicode p name items = .ok p' → P p')
    (hcap : ∀ p p' name items, P p → defineCap unicode p name items = .ok p' → P p')
    {es : List (Elem π)} {p q : Program π} (h : definitions unicode es p = .ok q) (hp : P p) :
    P q := by
  induction hlength : es.length using Nat.strong_induction_on generalizing es p with
  | h length ih =>
    subst hlength
    cases es with
    | nil =>
      cases h
      exact hp
    | cons e es =>
      rw [definitions.eq_def] at h
      dsimp only at h
      split at h
      · split at h
        · rename_i name items es'
          obtain ⟨p', hp', h⟩ := bind_ok_iff.mp h
          refine ih _ ?_ h (hmac _ _ _ _ hp hp') rfl
          simp only [List.length_cons]
          omega
        · exact absurd h refuse_ne_ok
      split at h
      · split at h
        · rename_i name items es'
          obtain ⟨p', hp', h⟩ := bind_ok_iff.mp h
          refine ih _ ?_ h (htag _ _ _ _ hp hp') rfl
          simp only [List.length_cons]
          omega
        · exact absurd h refuse_ne_ok
      split at h
      · split at h
        · rename_i name items es'
          obtain ⟨p', hp', h⟩ := bind_ok_iff.mp h
          refine ih _ ?_ h (hcap _ _ _ _ hp hp') rfl
          simp only [List.length_cons]
          omega
        · exact absurd h refuse_ne_ok
      · exact ih _ (Nat.lt_succ_self _) h (hbase _ _ hp) rfl

/-- What the second pass has collected. -/
structure Program.WellFormed (p : Program π) : Prop where
  tags : ∀ name tag, p.tags.get? name = some tag → IsName name ∧ tag.WellFormed
  caps : ∀ name cap, p.caps.get? name = some cap → IsName name ∧ IsWord cap.id
  /-- no two capabilities have one id -/
  ids : ∀ name cap, p.caps.get? name = some cap → ∀ name' cap', p.caps.get? name' = some cap' →
    cap.id = cap'.id → name = name'

section

variable {p p' : Program π} {name : Elem π} {items : List (Elem π)}

theorem defineMacro_wellFormed (hp : p.WellFormed) (h : defineMacro unicode p name items = .ok p') :
    p'.WellFormed := by
  obtain ⟨text, htext, h⟩ := bind_ok_iff.mp h
  dsimp only at h
  split at h
  · exact absurd h refuse_ne_ok
  split at h
  · exact absurd h refuse_ne_ok
  split at h
  · exact absurd h refuse_ne_ok
  · cases h
    exact ⟨hp.tags, hp.caps, hp.ids⟩

theorem defineTag_wellFormed (hp : p.WellFormed) (h : defineTag unicode p name items = .ok p') :
    p'.WellFormed := by
  obtain ⟨tagName, htext, h⟩ := bind_ok_iff.mp h
  split at h
  · exact absurd h refuse_ne_ok
  rename_i hvalid
  split at h
  · exact absurd h refuse_ne_ok
  rename_i hreserved
  split at h
  · exact absurd h refuse_ne_ok
  obtain ⟨draft, hitems, h⟩ := bind_ok_iff.mp h
  split at h
  · exact absurd h refuse_ne_ok
  rename_i hid
  cases h
  have hdraft : draft.WellFormed := by
    refine tagItems_wellFormed hitems ⟨fun hneg => ?_, ?_, ?_⟩
    · exact absurd hneg (by decide)
    · intro name n hn
      cases hn
    · intro name n hn
      cases hn
  refine ⟨forall_get?_set hp.tags ⟨⟨by simpa using hvalid, by simpa using hreserved⟩, ?_⟩,
    hp.caps, hp.ids⟩
  exact ⟨hdraft.id (not_lt.mp hid), hdraft.enums, hdraft.flags, fun n hn => hdraft.default hn⟩

/-- The number of a capability is in range, and no other capability has it. -/
theorem capItems_id {caps : Dict JsString (Capability (Elem π))} {es : List (Elem π)}
    {draft draft' : Capability (Elem π)} (h : capItems unicode caps es draft = .ok draft')
    (hdraft : 0 ≤ draft.id → IsWord draft.id ∧ ∀ entry ∈ caps.entries, entry.2.id ≠ draft.id) :
    0 ≤ draft'.id → IsWord draft'.id ∧ ∀ entry ∈ caps.entries, entry.2.id ≠ draft'.id := by
  induction hlength : es.length using Nat.strong_induction_on generalizing es draft with
  | h length ih =>
    subst hlength
    cases es with
    | nil =>
      cases h
      exact hdraft
    | cons e es =>
      rw [capItems.eq_def] at h
      dsimp only at h
      split at h
      · split at h
        · exact absurd h refuse_ne_ok
        split at h
        · exact absurd h refuse_ne_ok
        rename_i v es'
        split at h
        · exact absurd h refuse_ne_ok
        rename_i hrange
        split at h
        · exact absurd h refuse_ne_ok
        rename_i hother
        refine ih _ ?_ h (fun _ => ⟨isWord_of_checks hrange, ?_⟩) rfl
        · simp only [List.length_cons]
          omega
        · intro entry hentry heq
          exact hother (List.any_eq_true.mpr ⟨entry, hentry, by simpa using heq⟩)
      split at h
      · exact ih _ (Nat.lt_succ_self _) h hdraft rfl
      · exact ih _ (Nat.lt_succ_self _) h hdraft rfl

theorem defineCap_wellFormed (hp : p.WellFormed) (h : defineCap unicode p name items = .ok p') :
    p'.WellFormed := by
  obtain ⟨capName, htext, h⟩ := bind_ok_iff.mp h
  split at h
  · exact absurd h refuse_ne_ok
  rename_i hvalid
  split at h
  · exact absurd h refuse_ne_ok
  rename_i hreserved
  split at h
  · exact absurd h refuse_ne_ok
  obtain ⟨draft, hitems, h⟩ := bind_ok_iff.mp h
  split at h
  · exact absurd h refuse_ne_ok
  rename_i hid
  cases h
  obtain ⟨hword, hother⟩ := capItems_id hitems
    (fun hneg => absurd hneg (Int.not_le.mpr (by decide : (-1 : Int) < 0)))
    (not_lt.mp hid)
  have hfresh : ∀ name cap, p.caps.get? name = some cap → cap.id ≠ draft.id := by
    intro name cap hcap
    exact hother (name, cap) (Dict.get?_eq_some_iff.mp hcap)
  refine ⟨hp.tags, forall_get?_set hp.caps
    ⟨⟨by simpa using hvalid, by simpa using hreserved⟩, hword⟩, ?_⟩
  intro name cap hcap name' cap' hcap' hsame
  rw [Dict.get?_set] at hcap hcap'
  split at hcap
  · rename_i hname
    cases hcap
    split at hcap'
    · rename_i hname'
      exact hname.symm.trans hname'
    · exact absurd hsame.symm (hfresh _ _ hcap')
  · split at hcap'
    · cases hcap'
      exact absurd hsame (hfresh _ _ hcap)
    · exact hp.ids _ _ hcap _ _ hcap' hsame

theorem definitions_wellFormed {es : List (Elem π)} {q : Program π}
    (h : definitions unicode es Program.empty = .ok q) : q.WellFormed := by
  refine definitions_preserve (P := Program.WellFormed) ?_ (fun p p' name items =>
    defineMacro_wellFormed)
    (fun p p' name items => defineTag_wellFormed) (fun p p' name items => defineCap_wellFormed) h ?_
  · intro p e hp
    exact ⟨hp.tags, hp.caps, hp.ids⟩
  · refine ⟨?_, ?_, ?_⟩
    · intro name tag htag
      cases htag
    · intro name cap hcap
      cases hcap
    · intro name cap hcap
      cases hcap

end

/-! ## 6. Scripts -/

/-- What the controller is given. -/
structure Compiled.WellFormed (out : Compiled) : Prop where
  rules : RulesWellFormed out.rules
  caps : ∀ cap ∈ out.caps, IsName cap.1 ∧ IsWord cap.2.id ∧ RulesWellFormed cap.2.rules
  /-- capabilities have different names and different ids -/
  distinct : out.caps.Pairwise fun cap cap' => cap.1 ≠ cap'.1 ∧ cap.2.id ≠ cap'.2.id
  tags : ∀ name tag, out.tags.get? name = some tag → IsName name ∧ tag.WellFormed

/-- **The compiler puts out well-formed rules**, capabilities and tags. -/
theorem compile_wellFormed {depth : Nat} {src : JsString} {out : Compiled}
    (h : compile unicode depth src = .ok out) : out.WellFormed := by
  obtain ⟨p, hp, htags, hcaps, hrules⟩ := compileTree_ok_iff.mp h
  have hwf := definitions_wellFormed hp
  have hcap : ∀ entry cap, renderCap unicode p depth entry = .ok cap →
      cap.1 = entry.1 ∧ cap.2.id = entry.2.id ∧ RulesWellFormed cap.2.rules := by
    intro entry cap hrender
    obtain ⟨rules, hrules, hrender⟩ := bind_ok_iff.mp hrender
    cases hrender
    exact ⟨rfl, rfl, wellFormed_of_renderActions hrules⟩
  refine ⟨wellFormed_of_renderActions hrules, ?_, ?_, htags ▸ hwf.tags⟩
  · intro cap hmem
    obtain ⟨entry, hentry, hrender⟩ := exists_of_forall₂ hcaps cap hmem
    obtain ⟨hname, hid, hrules⟩ := hcap entry cap hrender
    have hget : p.caps.get? entry.1 = some entry.2 := Dict.get?_eq_some_iff.mpr hentry
    rw [hname, hid]
    exact ⟨(hwf.caps _ _ hget).1, (hwf.caps _ _ hget).2, hrules⟩
  · have hentries : p.caps.entries.Pairwise fun e e' => e.1 ≠ e'.1 ∧ e.2.id ≠ e'.2.id := by
      refine (List.pairwise_map.mp p.caps.nodup).imp_of_mem ?_
      intro e e' he he' hne
      refine ⟨hne, fun hsame => hne ?_⟩
      exact hwf.ids _ _ (Dict.get?_eq_some_iff.mpr he) _ _ (Dict.get?_eq_some_iff.mpr he') hsame
    refine pairwise_of_forall₂ hcaps ?_ hentries
    intro e cap e' cap' hrender hrender' hne
    obtain ⟨hname, hid, -⟩ := hcap _ _ hrender
    obtain ⟨hname', hid', -⟩ := hcap _ _ hrender'
    rw [hname, hname', hid, hid']
    exact hne

/-- The value `constructor` of a tag is not in range. -/
example : (compile asciiCase 2 (js <| "macro foo($v) accept tand dept $v; ; tag dept id 1; " ++
    "include foo(constructor);")).toOption.map (fun out => out.rules) =
      some [.test false false (.tags .bitwiseAnd 1 .inherited), .act .accept] := by decide +kernel

theorem sample_wellFormed : Compiled.WellFormed sampleCompiled :=
  compile_wellFormed compile_sample

end ZtPlanet.Ztnet.RuleCompiler
