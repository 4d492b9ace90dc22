/-
# `ip_address(str(a)) = a`

The agent keeps addresses as text and parses them again wherever it needs a predicate, so that
what it validated and what it later decides about have to be the same address.  They are: the text
of an address parses to that address, scope included.

For IPv6 the work is in the compression.  `compressHextets` is shown to do one thing only, to
replace one run of two or more zero groups by an empty part (`compressHextets_cases`), and the
parser to undo exactly that (`ipv6FromString_join`).
-/
import Mathlib.Data.List.Nodup
import ZtPlanet.Python.IpAddress

namespace ZtPlanet.Python.IpAddress

/-! ## 1. IPv4 -/

theorem parseOctet_decimal : ∀ n < 256, parseOctet (decimal n) = some n := by decide +kernel

theorem dot_notMem_decimal (n : Nat) : ch '.' ∉ decimal n := by
  intro h
  have := isAsciiDigit_of_mem_decimal h
  revert this
  decide

theorem ipv4FromString_ipv4Text (ip : BitVec 32) : ipv4FromString (ipv4Text ip) = some ip := by
  have hsplit : split (ipv4Text ip) (ch '.')
      = (List.range 4).map fun i => decimal (ip.toNat / 256 ^ (3 - i) % 256) := by
    refine List.splitOn_intercalate _ ?_ (by simp)
    intro l hl
    obtain ⟨i, -, rfl⟩ := List.mem_map.mp hl
    exact dot_notMem_decimal _
  have hoctet : ∀ m, parseOctet (decimal (m % 256)) = some (m % 256) :=
    fun m => parseOctet_decimal _ (Nat.mod_lt _ (by decide))
  have hlt := ip.isLt
  unfold ipv4FromString
  simp only [hsplit, List.map_map, Function.comp_def, hoctet]
  simp only [List.range_succ, List.range_zero, List.nil_append, List.cons_append, List.map_cons,
    List.map_nil]
  refine congrArg some (BitVec.eq_of_toNat_eq ?_)
  simp
  omega

/-- A text that parses as IPv4 consists of digits and dots. -/
theorem mem_of_ipv4FromString {s : PyStr} {ip : BitVec 32} (h : ipv4FromString s = some ip) :
    ∀ c ∈ s, isAsciiDigit c = true ∨ c = ch '.' := by
  have hall : ∀ p ∈ split s (ch '.'), ∃ n, parseOctet p = some n := by
    unfold ipv4FromString at h
    split at h
    · rename_i a b c d heq
      intro p hp
      have hm := List.mem_map_of_mem (f := parseOctet) hp
      rw [heq] at hm
      simp only [List.mem_cons, List.not_mem_nil, or_false] at hm
      rcases hm with hm | hm | hm | hm <;> exact ⟨_, hm⟩
    · cases h
  intro c hc
  have hjoin : s = join (py ".") (split s (ch '.')) := (List.intercalate_splitOn _).symm
  rw [hjoin] at hc
  rcases mem_join hc with hc | ⟨p, hp, hc⟩
  · exact .inr (List.mem_singleton.mp hc)
  · obtain ⟨n, hn⟩ := hall p hp
    unfold parseOctet at hn
    split at hn
    · cases hn
    · split at hn
      · cases hn
      · rename_i hd
        rw [Bool.not_eq_false, List.all_eq_true] at hd
        exact .inl (hd c hc)

theorem colon_notMem_of_ipv4FromString {s : PyStr} {ip : BitVec 32}
    (h : ipv4FromString s = some ip) :
    ch ':' ∉ s := by
  intro hmem
  exact absurd (mem_of_ipv4FromString h _ hmem) (by decide)

/-! ## 2. One group of an IPv6 address -/

theorem parseHextet_hexadecimal {n : Nat} (h : n < 65536) :
    parseHextet (hexadecimal n) = some n := by
  have hall : (hexadecimal n).all isHexDigit = true :=
    List.all_eq_true.mpr fun c hc => isHexDigit_of_mem_hexadecimal hc
  have hlen := length_hexadecimal_le h
  unfold parseHextet
  rw [if_neg (by simp [hall]), if_neg (by omega), if_neg (hexadecimal_ne_nil n),
    ofDigits_hexadecimal]

theorem mapM_parseHextet {l : List Nat} (h : ∀ n ∈ l, n < 65536) :
    (l.map hexadecimal).mapM parseHextet = some l := by
  induction l with
  | nil => rfl
  | cons n l ih =>
    rw [List.map_cons, List.mapM_cons, parseHextet_hexadecimal (h n (by simp)),
      ih fun m hm => h m (List.mem_cons_of_mem _ hm)]
    rfl

theorem eq_zero_of_hexadecimal {n : Nat} (h : hexadecimal n = py "0") : n = 0 := by
  rw [← ofDigits_hexadecimal n, h]
  decide

theorem hextets_lt (ip : BitVec 128) : ∀ n ∈ hextets ip, n < 65536 := by
  intro n hn
  obtain ⟨i, -, rfl⟩ := List.mem_map.mp hn
  exact Nat.mod_lt _ (by decide)

/-- The digits of a number in a base, read from the left, are the number. -/
theorem foldl_digits (base n m : Nat) :
    ((List.range n).map fun i => m / base ^ (n - 1 - i) % base).foldl (fun k d => k * base + d) 0 =
      m % base ^ n := by
  induction n generalizing m with
  | zero => simp [Nat.mod_one]
  | succ n ih =>
    have hinit : ((List.range n).map fun i => m / base ^ (n - i) % base) =
        (List.range n).map fun i => m / base / base ^ (n - 1 - i) % base := by
      refine List.map_congr_left fun i hi => ?_
      have hexponent : n - i = n - 1 - i + 1 := by have := List.mem_range.mp hi; omega
      rw [hexponent, Nat.pow_succ', Nat.div_div_eq_div_mul]
    rw [List.range_succ, List.map_append, List.foldl_append, Nat.add_sub_cancel, hinit, ih,
      Nat.pow_succ', Nat.mod_mul]
    simp only [List.map_cons, List.map_nil, List.foldl_cons, List.foldl_nil, Nat.sub_self,
      Nat.pow_zero, Nat.div_one]
    rw [Nat.add_comm, Nat.mul_comm]

theorem ofHextets_hextets (ip : BitVec 128) : ofHextets (hextets ip) = ip.toNat :=
  (foldl_digits 65536 8 ip.toNat).trans (Nat.mod_eq_of_lt ip.isLt)

/-! ## 3. The compression -/

/-- What the loop of `_compress_hextets` knows after the groups before `index`: the best run lies
before it, the current run ends there, and both consist of zero groups. -/
structure ZeroRun.Valid (l : List PyStr) (index : Nat) (run : ZeroRun) : Prop where
  best_le : run.bestStart + run.bestLen ≤ index
  best_zero : ∀ i, run.bestStart ≤ i → i < run.bestStart + run.bestLen → l[i]? = some (py "0")
  current_eq : 0 < run.len → run.start + run.len = index
  current_zero : 0 < run.len → ∀ i, run.start ≤ i → i < index → l[i]? = some (py "0")

theorem ZeroRun.Valid.next {l : List PyStr} {index : Nat} {run : ZeroRun} {h : PyStr}
    (hv : run.Valid l index) (hget : l[index]? = some h) :
    (run.next index h).Valid l (index + 1) := by
  unfold ZeroRun.next
  by_cases hz : h = py "0"
  · rw [if_pos hz]
    subst hz
    by_cases hlen : run.len = 0
    · -- a run starts here
      have hsingle : ∀ i, index ≤ i → i < index + 1 → l[i]? = some (py "0") := by
        intro i h₁ h₂
        rwa [show i = index by omega]
      simp only [hlen, if_true, Nat.zero_add]
      split
      · exact ⟨by dsimp only; omega, hsingle, fun _ => rfl, fun _ => hsingle⟩
      · exact ⟨by have := hv.best_le; dsimp only; omega, hv.best_zero, fun _ => rfl,
          fun _ => hsingle⟩
    · -- the current run goes on
      have hstart := hv.current_eq (by omega)
      have hzero : ∀ i, run.start ≤ i → i < index + 1 → l[i]? = some (py "0") := by
        intro i h₁ h₂
        by_cases hi : i = index
        · rwa [hi]
        · exact hv.current_zero (by omega) i h₁ (by omega)
      simp only [hlen, if_false]
      split
      · refine ⟨by dsimp only; omega, ?_, fun _ => by dsimp only; omega, fun _ => hzero⟩
        intro i h₁ h₂
        dsimp only at h₁ h₂
        exact hzero i h₁ (by omega)
      · exact ⟨by have := hv.best_le; dsimp only; omega, hv.best_zero,
          fun _ => by dsimp only; omega, fun _ => hzero⟩
  · rw [if_neg hz]
    exact ⟨by have := hv.best_le; dsimp only; omega, hv.best_zero, fun hlt => absurd hlt (by simp),
      fun hlt => absurd hlt (by simp)⟩

theorem zeroRun_valid {l : List PyStr} : ∀ {rest : List PyStr} {index : Nat} {run : ZeroRun},
    index ≤ l.length → run.Valid l index → l.drop index = rest →
      (zeroRun rest index run).Valid l l.length
  | [], index, run, hle, hv, hdrop => by
    have hlen : l.length = index := by
      have := List.drop_eq_nil_iff.mp hdrop
      omega
    unfold zeroRun
    rwa [hlen]
  | h :: rest, index, run, hle, hv, hdrop => by
    have hget : l[index]? = some h := by
      rw [← List.head?_drop, hdrop]
      rfl
    have hlt := (List.getElem?_eq_some_iff.mp hget).1
    have hdrop' : l.drop (index + 1) = rest := by
      rw [← List.tail_drop, hdrop]
      rfl
    unfold zeroRun
    exact zeroRun_valid hlt (hv.next hget) hdrop'

/-- A part that is left out at an end is written as an empty part. -/
def orEmpty (parts : List PyStr) : List PyStr := if parts = [] then [[]] else parts

theorem orEmpty_of_ne_nil {parts : List PyStr} (h : parts ≠ []) : orEmpty parts = parts := if_neg h

/-- **The compression replaces one run of zero groups by an empty part, or does nothing.** -/
theorem compressHextets_cases (l : List PyStr) :
    compressHextets l = l ∨
    ∃ pre k post, 2 ≤ k ∧ l = pre ++ List.replicate k (py "0") ++ post ∧
      compressHextets l = orEmpty pre ++ [] :: orEmpty post := by
  have hv : (zeroRun l 0 ⟨0, 0, 0, 0⟩).Valid l l.length :=
    zeroRun_valid (Nat.zero_le _) ⟨Nat.le_refl _, fun i _ h => absurd h (Nat.not_lt_zero i),
      fun h => absurd h (by simp), fun h => absurd h (by simp)⟩ rfl
  unfold compressHextets
  generalize zeroRun l 0 ⟨0, 0, 0, 0⟩ = run at hv
  obtain ⟨start, len, _, _⟩ := run
  obtain ⟨hle, hzero, -, -⟩ := hv
  dsimp only at hle hzero ⊢
  by_cases hlen : len > 1
  · rw [if_pos hlen]
    refine .inr ⟨l.take start, len, l.drop (start + len), hlen, ?_, ?_⟩
    · -- the middle of `l` is the run
      have hmiddle : (l.drop start).take len = List.replicate len (py "0") := by
        refine List.ext_getElem? fun i => ?_
        rw [List.getElem?_take, List.getElem?_drop, List.getElem?_replicate]
        split
        · exact hzero (start + i) (by omega) (by omega)
        · rfl
      rw [← hmiddle, List.append_assoc, ← List.drop_drop, List.take_append_drop,
        List.take_append_drop]
    · have hpost : (if start + len = l.length then [[]] else l.drop (start + len))
          = orEmpty (l.drop (start + len)) := by
        unfold orEmpty
        by_cases hend : start + len = l.length
        · rw [if_pos hend, if_pos (List.drop_eq_nil_of_le (by omega))]
        · rw [if_neg hend, if_neg (by rw [List.drop_eq_nil_iff]; omega)]
      rw [hpost]
      by_cases hstart : start = 0
      · rw [if_pos hstart, hstart]
        rfl
      · have hne : l.take start ≠ [] := by
          rw [ne_eq, List.take_eq_nil_iff]
          rintro (h | h)
          · exact hstart h
          · rw [h, List.length_nil] at hle
            omega
        rw [if_neg hstart, orEmpty_of_ne_nil hne]
  · rw [if_neg hlen]
    exact .inl rfl

/-! ## 4. The parser undoes it -/

/-- Parts of which only the one at `k` is empty inside. -/
theorem emptyInside_eq {parts : List PyStr} {k : Nat} (hk : 1 ≤ k) (hk' : k + 1 < parts.length)
    (h : ∀ i, 1 ≤ i → i + 1 < parts.length → (parts[i]? = some [] ↔ i = k)) :
    emptyInside parts = [k] := by
  have hfilter : emptyInside parts = (List.range parts.length).filter (· == k) := by
    refine List.filter_congr fun i _ => Bool.eq_iff_iff.mpr ?_
    simp only [Bool.and_eq_true, decide_eq_true_eq, beq_iff_eq]
    constructor
    · rintro ⟨⟨h₁, h₂⟩, hget⟩
      exact (h i h₁ h₂).mp hget
    · rintro rfl
      exact ⟨⟨hk, hk'⟩, (h i hk hk').mpr rfl⟩
  rw [hfilter, List.filter_beq, List.count_eq_one_of_mem List.nodup_range
    (List.mem_range.mpr (by omega))]
  rfl

/-- Parts without an empty one inside. -/
theorem emptyInside_eq_nil {parts : List PyStr} (h : ∀ p ∈ parts, p ≠ []) :
    emptyInside parts = [] := by
  unfold emptyInside
  refine List.filter_eq_nil_iff.mpr fun i _ => ?_
  simp only [Bool.and_eq_true, beq_iff_eq, not_and]
  intro _ hget
  exact h [] (List.mem_of_getElem? hget) rfl

section

variable {pre post : List PyStr} {k : Nat}

theorem length_orEmpty (parts : List PyStr) : (orEmpty parts).length = max 1 parts.length := by
  unfold orEmpty
  split
  · rename_i h
    simp [h]
  · rename_i h
    have := List.length_pos_iff.mpr h
    omega

theorem head?_orEmpty_append (hpre : ∀ p ∈ pre, p ≠ []) (rest : List PyStr) :
    (orEmpty pre ++ rest).head? = some [] ↔ pre = [] := by
  cases pre with
  | nil => simp [orEmpty]
  | cons p pre =>
    have := hpre p (by simp)
    simp [orEmpty, this]

theorem getLast?_append_orEmpty (hpost : ∀ p ∈ post, p ≠ []) (rest : List PyStr) :
    (rest ++ [] :: orEmpty post).getLast? = some [] ↔ post = [] := by
  cases post with
  | nil => simp [orEmpty]
  | cons p post =>
    have hne : (p :: post) ≠ [] := by simp
    rw [orEmpty_of_ne_nil hne, List.getLast?_append_cons, List.getLast?_cons_of_ne_nil hne,
      List.getLast?_eq_some_getLast hne, Option.some.injEq]
    exact ⟨fun h => absurd h (hpost _ (List.getLast_mem hne)), fun h => absurd h hne⟩

/-- The only empty part strictly inside stands for the run. -/
theorem emptyInside_orEmpty (hpre : ∀ p ∈ pre, p ≠ []) (hpost : ∀ p ∈ post, p ≠ []) :
    emptyInside (orEmpty pre ++ [] :: orEmpty post) = [(orEmpty pre).length] := by
  have hlen₁ := length_orEmpty pre
  have hlen₂ := length_orEmpty post
  refine emptyInside_eq (by omega) (by simp; omega) fun i hi hi' => ?_
  simp only [List.length_append, List.length_cons] at hi'
  constructor
  · intro hget
    rcases Nat.lt_trichotomy i (orEmpty pre).length with hlt | heq | hgt
    · -- before it: a group of `pre`
      rw [List.getElem?_append_left hlt] at hget
      have hne : pre ≠ [] := by
        rintro rfl
        simp [orEmpty] at hlt
        omega
      rw [orEmpty_of_ne_nil hne] at hget
      exact absurd rfl (hpre [] (List.mem_of_getElem? hget))
    · exact heq
    · -- behind it: a group of `post`
      rw [List.getElem?_append_right (by omega),
        show i - (orEmpty pre).length = (i - (orEmpty pre).length - 1) + 1 by omega,
        List.getElem?_cons_succ] at hget
      have hne : post ≠ [] := by
        rintro rfl
        simp only [hlen₂, List.length_nil] at hi'
        omega
      rw [orEmpty_of_ne_nil hne] at hget
      exact absurd rfl (hpost [] (List.mem_of_getElem? hget))
  · rintro rfl
    simp

/-- **The parser undoes the compression.** -/
theorem ipv6FromParts_orEmpty (hpre : ∀ p ∈ pre, p ≠ []) (hpost : ∀ p ∈ post, p ≠ [])
    (hk : 2 ≤ k) (hlen : pre.length + k + post.length = 8) :
    ipv6FromParts (orEmpty pre ++ [] :: orEmpty post) = assemble pre k post := by
  have hlen₁ := length_orEmpty pre
  have hlen₂ := length_orEmpty post
  have hstarts := head?_orEmpty_append hpre ([] :: orEmpty post)
  have hends := getLast?_append_orEmpty hpost (orEmpty pre)
  have htotal : (orEmpty pre ++ [] :: orEmpty post).length
      = max 1 pre.length + max 1 post.length + 1 := by
    simp
    omega
  unfold ipv6FromParts
  simp only [emptyInside_orEmpty hpre hpost, hstarts, hends, htotal, hlen₁]
  rw [if_neg (by omega)]
  have hhi : (if pre = [] then max 1 pre.length - 1 else max 1 pre.length) = pre.length := by
    split
    · rename_i h
      simp [h]
    · rename_i h
      have := List.length_pos_iff.mpr h
      omega
  have hlo : (if post = [] then max 1 pre.length + max 1 post.length + 1 - max 1 pre.length - 2
      else max 1 pre.length + max 1 post.length + 1 - max 1 pre.length - 1) = post.length := by
    split
    · rename_i h
      simp only [h, List.length_nil]
      omega
    · rename_i h
      have := List.length_pos_iff.mpr h
      omega
  rw [hhi, hlo, if_neg (by rintro ⟨h, h'⟩; simp [h] at h'),
    if_neg (by rintro ⟨h, h'⟩; simp [h] at h'), if_neg (by omega)]
  have htake : (orEmpty pre ++ [] :: orEmpty post).take pre.length = pre := by
    by_cases h : pre = []
    · simp [h]
    · rw [orEmpty_of_ne_nil h, List.take_left']
      rfl
  have hdrop : (orEmpty pre ++ [] :: orEmpty post).drop
      (max 1 pre.length + max 1 post.length + 1 - post.length) = post := by
    by_cases h : post = []
    · have hzero : post.length = 0 := by rw [h, List.length_nil]
      rw [List.drop_eq_nil_of_le (by omega), h]
    · have := List.length_pos_iff.mpr h
      rw [orEmpty_of_ne_nil h, ← List.singleton_append, ← List.append_assoc, List.drop_left']
      simp
      omega
  rw [htake, hdrop, show 8 - (pre.length + post.length) = k by omega]

end

/-- Eight groups are read as they are. -/
theorem ipv6FromParts_full {parts : List PyStr} (h : ∀ p ∈ parts, p ≠ [])
    (hlen : parts.length = 8) : ipv6FromParts parts = assemble parts 0 [] := by
  have hne : parts ≠ [] := by
    rintro rfl
    simp at hlen
  have hhead : ¬ parts.head? = some [] := by
    rw [List.head?_eq_some_head hne, Option.some.injEq]
    exact h _ (List.head_mem hne)
  have hlast : ¬ parts.getLast? = some [] := by
    rw [List.getLast?_eq_some_getLast hne, Option.some.injEq]
    exact h _ (List.getLast_mem hne)
  unfold ipv6FromParts
  simp only [emptyInside_eq_nil h, hhead, hlast, hlen]
  simp

/-! ## 5. IPv6 -/

theorem colon_notMem_hexadecimal (n : Nat) : ch ':' ∉ hexadecimal n := by
  intro h
  have := isHexDigit_of_mem_hexadecimal h
  revert this
  decide

theorem dot_notMem_hexadecimal (n : Nat) : ch '.' ∉ hexadecimal n := by
  intro h
  have := isHexDigit_of_mem_hexadecimal h
  revert this
  decide

/-- Every part of a compressed address is a group or empty. -/
theorem mem_compressHextets {ip : BitVec 128} {p : PyStr}
    (h : p ∈ compressHextets ((hextets ip).map hexadecimal)) :
    p = [] ∨ ∃ n, p = hexadecimal n := by
  have hgroup : ∀ p ∈ (hextets ip).map hexadecimal, ∃ n, p = hexadecimal n := by
    intro p hp
    obtain ⟨n, -, rfl⟩ := List.mem_map.mp hp
    exact ⟨n, rfl⟩
  rcases compressHextets_cases ((hextets ip).map hexadecimal) with
    heq | ⟨pre, k, post, -, heq, hcomp⟩
  · exact .inr (hgroup p (heq ▸ h))
  · have horEmpty : ∀ parts : List PyStr, (∀ p ∈ parts, p ∈ (hextets ip).map hexadecimal) →
        p ∈ orEmpty parts → p = [] ∨ ∃ n, p = hexadecimal n := by
      intro parts hparts hp
      unfold orEmpty at hp
      split at hp
      · exact .inl (List.mem_singleton.mp hp)
      · exact .inr (hgroup p (hparts p hp))
    rw [hcomp] at h
    rcases List.mem_append.mp h with h | h
    · exact horEmpty pre (fun q hq => by rw [heq]; simp [hq]) h
    · rcases List.mem_cons.mp h with h | h
      · exact .inl h
      · exact horEmpty post (fun q hq => by rw [heq]; simp [hq]) h

theorem length_compressHextets (ip : BitVec 128) :
    3 ≤ (compressHextets ((hextets ip).map hexadecimal)).length := by
  rcases compressHextets_cases ((hextets ip).map hexadecimal) with
    heq | ⟨pre, k, post, -, -, hcomp⟩
  · rw [heq]
    simp [hextets]
  · have hlen₁ := length_orEmpty pre
    have hlen₂ := length_orEmpty post
    rw [hcomp, List.length_append, List.length_cons]
    omega

/-- The parts of a compressed address denote it. -/
theorem ipv6FromParts_compressHextets (ip : BitVec 128) :
    ipv6FromParts (compressHextets ((hextets ip).map hexadecimal)) = some ip := by
  have hofNat : ∀ l, l = hextets ip → some (BitVec.ofNat 128 (ofHextets l)) = some ip := by
    rintro l rfl
    rw [ofHextets_hextets, BitVec.ofNat_toNat, BitVec.setWidth_eq]
  have hne : ∀ l : List Nat, ∀ p ∈ l.map hexadecimal, p ≠ [] := by
    intro l p hp
    obtain ⟨n, -, rfl⟩ := List.mem_map.mp hp
    exact hexadecimal_ne_nil n
  have hlt := hextets_lt ip
  have hlen : (hextets ip).length = 8 := by simp [hextets]
  rcases compressHextets_cases ((hextets ip).map hexadecimal) with
    heq | ⟨pre, k, post, hk, heq, hcomp⟩
  · rw [heq, ipv6FromParts_full (hne _) (by simp [hlen]), assemble, mapM_parseHextet hlt]
    exact hofNat _ (by simp)
  · -- the groups before the run, the run and the groups behind it
    obtain ⟨front, back, hfront, hmap, rfl⟩ := List.map_eq_append_iff.mp heq
    obtain ⟨before, run, rfl, rfl, hrun⟩ := List.map_eq_append_iff.mp hmap
    have hzero : run = List.replicate k 0 := by
      have hlenRun : run.length = k := by simpa using congrArg List.length hrun
      refine List.eq_replicate_iff.mpr ⟨hlenRun, fun n hn => eq_zero_of_hexadecimal ?_⟩
      have hm := List.mem_map_of_mem (f := hexadecimal) hn
      rw [hrun] at hm
      exact List.eq_of_mem_replicate hm
    subst hzero
    have hlens : before.length + k + back.length = 8 := by
      have := congrArg List.length hfront
      simp only [List.length_append, List.length_replicate, hlen] at this
      omega
    rw [hcomp, ipv6FromParts_orEmpty (hne before) (hne back) hk (by simpa using hlens), assemble,
      mapM_parseHextet fun n hn => hlt n (by rw [hfront]; simp [hn]),
      mapM_parseHextet fun n hn => hlt n (by rw [hfront]; simp [hn])]
    exact hofNat _ hfront.symm

/-- What the text of an IPv6 address consists of. -/
theorem mem_ipv6Text {ip : BitVec 128} {c : CodePoint} (h : c ∈ ipv6Text ip) :
    isHexDigit c = true ∨ c = ch ':' := by
  rcases mem_join h with h | ⟨p, hp, hc⟩
  · exact .inr (List.mem_singleton.mp h)
  · rcases mem_compressHextets hp with rfl | ⟨n, rfl⟩
    · cases hc
    · exact .inl (isHexDigit_of_mem_hexadecimal hc)

theorem mem_ipv4Text {ip : BitVec 32} {c : CodePoint} (h : c ∈ ipv4Text ip) :
    isAsciiDigit c = true ∨ c = ch '.' := by
  rcases mem_join h with h | ⟨p, hp, hc⟩
  · exact .inr (List.mem_singleton.mp h)
  · obtain ⟨i, -, rfl⟩ := List.mem_map.mp hp
    exact .inl (isAsciiDigit_of_mem_decimal hc)

theorem colon_mem_of_ipv6FromString {s : PyStr} {n : BitVec 128} (h : ipv6FromString s = some n) :
    ch ':' ∈ s := by
  by_contra hcolon
  unfold ipv6FromString split at h
  rw [List.splitOn_eq_singleton hcolon] at h
  cases h

/-- A text is read part by part, where no part has a dot. -/
theorem ipv6FromString_join {parts : List PyStr} (hlen : 3 ≤ parts.length)
    (hcolon : ∀ p ∈ parts, ch ':' ∉ p) (hdot : ∀ p ∈ parts, ch '.' ∉ p) :
    ipv6FromString (join (py ":") parts) = ipv6FromParts parts := by
  have hne : parts ≠ [] := by
    rintro rfl
    exact absurd hlen (by decide)
  have hsplit : split (join (py ":") parts) (ch ':') = parts :=
    List.splitOn_intercalate _ hcolon hne
  have hdotted : expandDotted parts = some parts := by
    unfold expandDotted
    split
    · rename_i tail htail
      rw [if_neg (hdot tail (List.mem_of_getLast? htail))]
    · rfl
  unfold ipv6FromString
  simp only [hsplit, hdotted]
  rw [if_neg (by omega)]

theorem ipv6FromString_ipv6Text (ip : BitVec 128) : ipv6FromString (ipv6Text ip) = some ip := by
  have hmem (c : CodePoint) (hc : ∀ n, c ∉ hexadecimal n) :
      ∀ p ∈ compressHextets ((hextets ip).map hexadecimal), c ∉ p := by
    intro p hp
    rcases mem_compressHextets hp with rfl | ⟨n, rfl⟩
    · exact List.not_mem_nil
    · exact hc n
  unfold ipv6Text
  rw [ipv6FromString_join (length_compressHextets ip) (hmem _ colon_notMem_hexadecimal)
    (hmem _ dot_notMem_hexadecimal), ipv6FromParts_compressHextets]

/-! ## 6. Addresses -/

/-- The scopes that `_split_scope_id` lets through. -/
def WellFormed : IpAddress → Prop
  | .v4 _ => True
  | .v6 _ scope => ∀ s ∈ scope, s ≠ [] ∧ ch '%' ∉ s ∧ ch '/' ∉ s

theorem wellFormed_of_ipv6Address {s : PyStr} {ip : BitVec 128} {scope : Option PyStr}
    (h : ipv6Address s = some (ip, scope)) : WellFormed (.v6 ip scope) := by
  unfold ipv6Address at h
  split at h
  · cases h
  · rename_i hslash
    split at h
    · cases h
    · rename_i addr scope' hscope
      obtain ⟨_, -, hpair⟩ := Option.map_eq_some_iff.mp h
      cases hpair
      intro t ht
      cases ht
      unfold splitScopeId at hscope
      split at hscope
      · cases hscope
      · rename_i hpart
        split at hscope
        · cases hscope
        · rename_i hok
          cases hscope
          rw [not_or] at hok
          exact ⟨hok.1, hok.2, fun hm => hslash (mem_of_partition hpart hm)⟩

/-- What `ip_address` returns is well formed. -/
theorem wellFormed_of_parse {s : PyStr} {a : IpAddress} (h : parse s = some a) :
    a.WellFormed := by
  unfold parse at h
  split at h
  · cases h
    trivial
  · obtain ⟨⟨ip, scope⟩, hip, rfl⟩ := Option.map_eq_some_iff.mp h
    exact wellFormed_of_ipv6Address hip

theorem notMem_ipv6Text {ip : BitVec 128} {c : CodePoint} (h : isHexDigit c = false)
    (hc : c ≠ ch ':') : c ∉ ipv6Text ip := by
  intro hm
  rcases mem_ipv6Text hm with hm | hm
  · rw [h] at hm
    cases hm
  · exact hc hm

/-- An IPv6 text is not an IPv4 address: it holds a colon. -/
theorem ipv4Address_ipv6Text_append (ip : BitVec 128) (rest : PyStr) :
    ipv4Address (ipv6Text ip ++ rest) = none := by
  have hcolon : ch ':' ∈ ipv6Text ip := by
    have hlen := length_compressHextets ip
    unfold ipv6Text join
    match compressHextets ((hextets ip).map hexadecimal), hlen with
    | p :: q :: ps, _ =>
      rw [List.intercalate_cons_cons]
      exact List.mem_append_left _ (List.mem_append_right _ (by decide))
  unfold ipv4Address
  split
  · rfl
  · cases h : ipv4FromString (ipv6Text ip ++ rest) with
    | none => rfl
    | some ip4 =>
      exact absurd (List.mem_append_left _ hcolon) (colon_notMem_of_ipv4FromString h)

/-- The text of an address has no slash. -/
theorem slash_notMem_str {a : IpAddress} (h : a.WellFormed) : ch '/' ∉ a.str := by
  cases a with
  | v4 ip =>
    intro hm
    rcases mem_ipv4Text hm with hm | hm <;> revert hm <;> decide
  | v6 ip scope =>
    have hslash : ch '/' ∉ ipv6Text ip := notMem_ipv6Text (by decide) (by decide)
    rw [str, List.mem_append]
    rintro (hm | hm)
    · exact hslash hm
    · cases scope with
      | none => cases hm
      | some s =>
        rcases List.mem_cons.mp hm with hm | hm
        · revert hm
          decide
        · exact (h s rfl).2.2 hm

/-- **The text of an address parses to the address.** -/
theorem parse_str {a : IpAddress} (h : a.WellFormed) : parse a.str = some a := by
  have hslash := slash_notMem_str h
  cases a with
  | v4 ip =>
    unfold parse ipv4Address
    rw [if_neg hslash]
    unfold str
    rw [ipv4FromString_ipv4Text]
  | v6 ip scope =>
    have hpercent : ch '%' ∉ ipv6Text ip := notMem_ipv6Text (by decide) (by decide)
    have hv4 : ipv4Address (IpAddress.v6 ip scope).str = none :=
      ipv4Address_ipv6Text_append ip (scopeText scope)
    have hv6 : ipv6Address (IpAddress.v6 ip scope).str = some (ip, scope) := by
      unfold ipv6Address
      rw [if_neg hslash]
      cases scope with
      | none =>
        simp only [str, scopeText, List.append_nil, splitScopeId, partition_of_notMem hpercent,
          ipv6FromString_ipv6Text, Option.map_some]
      | some s =>
        obtain ⟨hne, hpct, -⟩ := h s rfl
        simp only [str, scopeText, splitScopeId, partition_append hpercent, hne, hpct, or_self,
          if_false, ipv6FromString_ipv6Text, Option.map_some]
    unfold parse
    rw [hv4, hv6]
    rfl

/-- What `ip_address` returns is what its text parses to. -/
theorem parse_str_of_parse {s : PyStr} {a : IpAddress} (h : parse s = some a) :
    parse a.str = some a :=
  parse_str (wellFormed_of_parse h)

end ZtPlanet.Python.IpAddress
