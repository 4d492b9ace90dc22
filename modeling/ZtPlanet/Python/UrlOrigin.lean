/-
# The slash behind an origin

An origin may be written with a slash behind it, and the agent strips it.  `urlparse` sees the same
components with and without it: the slash is the path, and there is nothing else behind the network
location (`urlparse_of_slash`).

The argument follows the parser: what it strips at the front, the scheme, the network location and
the rest are looked at in turn, each time for a text and for the same text with a slash behind it.
-/
import Mathlib.Data.List.Induction
import ZtPlanet.Python.UrlParse

namespace ZtPlanet.Python

/-! ## 1. Partitions -/

/-- Where a text is split, and that it is split at the first separator. -/
theorem eq_of_partition {s before rest : PyStr} {sep : CodePoint}
    (h : partition s sep = (before, some rest)) : s = before ++ sep :: rest ∧ sep ∉ before := by
  unfold partition at h
  split at h
  · cases h
  · rename_i c rest' hdrop
    cases h
    have hc : c = sep := by
      have hhead := List.head?_dropWhile_not (fun x => decide (x ≠ sep)) s
      rw [hdrop] at hhead
      simpa using hhead
    refine ⟨?_, fun hmem => ?_⟩
    · rw [← hc, ← hdrop, hc, List.takeWhile_append_dropWhile]
    · have := List.mem_takeWhile_imp hmem
      simp at this

theorem notMem_of_partition {s before : PyStr} {sep : CodePoint}
    (h : partition s sep = (before, none)) : sep ∉ s := by
  unfold partition at h
  split at h
  · rename_i hdrop
    intro hmem
    have := List.dropWhile_eq_nil_iff.mp hdrop sep hmem
    simp at this
  · cases h

/-- A text that ends with a character other than the separator is split before its end. -/
theorem partition_append_one {s before rest : PyStr} {sep c : CodePoint} (hc : c ≠ sep)
    (h : partition (s ++ [c]) sep = (before, some rest)) :
    ∃ rest', rest = rest' ++ [c] ∧ partition s sep = (before, some rest') := by
  obtain ⟨hs, hnot⟩ := eq_of_partition h
  cases rest using List.reverseRecOn with
  | nil =>
    have hlast := congrArg List.getLast? hs
    rw [List.getLast?_append, List.getLast?_append] at hlast
    simp only [List.getLast?_singleton, Option.some_or, Option.some.injEq] at hlast
    exact absurd hlast hc
  | append_singleton rest' d =>
    rw [← List.cons_append, ← List.append_assoc] at hs
    obtain ⟨hs', hd⟩ := List.append_inj' hs rfl
    cases hd
    exact ⟨rest', rfl, by rw [hs', partition_append hnot]⟩

namespace UrlParse

/-! ## 2. What is behind the network location -/

/-- What `urlparse` looks at: leading blanks are gone, and so are tabs and line breaks. -/
def cleaned (url : PyStr) : PyStr :=
  (url.dropWhile fun c => decide (c.val ≤ 0x20)).filter fun c =>
    decide (c.val ≠ 9 ∧ c.val ≠ 10 ∧ c.val ≠ 13)

theorem cleaned_append_slash (s : PyStr) : cleaned (s ++ [ch '/']) = cleaned s ++ [ch '/'] := by
  have hdrop : (s ++ [ch '/']).dropWhile (fun c => decide (c.val ≤ 0x20)) =
      (s.dropWhile fun c => decide (c.val ≤ 0x20)) ++ [ch '/'] := by
    rw [List.dropWhile_append]
    split
    · rename_i hempty
      rw [List.isEmpty_iff.mp hempty]
      decide
    · rfl
  unfold cleaned
  rw [hdrop, List.filter_append]
  rfl

theorem splitScheme_append_slash {t : PyStr} (h : (splitScheme (t ++ [ch '/'])).1 ≠ []) :
    ∃ scheme rest, splitScheme (t ++ [ch '/']) = (scheme, rest ++ [ch '/']) ∧
      splitScheme t = (scheme, rest) ∧ ch ':' :: rest <:+ t := by
  unfold splitScheme at h ⊢
  split at h
  · rename_i c scheme rest hhead hpart
    split at h
    · rename_i hok
      obtain ⟨rest', rfl, hpart'⟩ := partition_append_one (by decide) hpart
      have hscheme : scheme ≠ [] := by
        rintro rfl
        exact h rfl
      obtain ⟨ht, -⟩ := eq_of_partition hpart'
      have hhead' : t.head? = some c := by
        rw [ht] at hhead ⊢
        cases scheme with
        | nil => exact absurd rfl hscheme
        | cons d scheme => exact hhead
      refine ⟨lower scheme, rest', if_pos hok, ?_, ⟨scheme, ht.symm⟩⟩
      rw [hhead', hpart']
      exact if_pos hok
    · exact absurd rfl h
  · exact absurd rfl h

theorem splitOnce_append_slash {t : PyStr} {sep : CodePoint} (hsep : ch '/' ≠ sep)
    (h : (splitOnce (t ++ [ch '/']) sep).2 = []) :
    sep ∉ t ∧ (splitOnce (t ++ [ch '/']) sep).1 = t ++ [ch '/'] := by
  unfold splitOnce at h ⊢
  cases hp : partition (t ++ [ch '/']) sep with
  | mk before after =>
    cases after with
    | some rest =>
      rw [hp] at h
      obtain ⟨rest', rfl, -⟩ := partition_append_one hsep hp
      simp at h
    | none =>
      have hnot := notMem_of_partition hp
      rw [partition_of_notMem hnot] at hp
      cases hp
      exact ⟨fun hmem => hnot (List.mem_append_left _ hmem), rfl⟩

/-- A path that ends with a slash has no parameters. -/
theorem splitParams_append_slash (t : PyStr) :
    splitParams (t ++ [ch '/']) = (t ++ [ch '/'], []) := by
  have hpart : rpartition (t ++ [ch '/']) (ch '/') = (some t, []) := by
    unfold rpartition
    rw [List.reverse_append, List.reverse_singleton, List.singleton_append,
      List.dropWhile_cons_of_neg (by simp), List.takeWhile_cons_of_neg (by simp)]
    simp
  unfold splitParams
  rw [hpart]
  rfl

/-- Splitting off the components behind the network location. -/
def components (scheme url : PyStr) : PyStr × PyStr × PyStr × PyStr :=
  let (url, fragment) := splitOnce url (ch '#')
  let (url, query) := splitOnce url (ch '?')
  let (path, params) :=
    if scheme ∈ usesParams ∧ ch ';' ∈ url then splitParams url else (url, [])
  (path, params, query, fragment)

theorem components_nil (scheme : PyStr) : components scheme [] = ([], [], [], []) := by
  unfold components
  have h : ∀ sep, splitOnce [] sep = ([], []) := fun sep => rfl
  simp [h]

/-- If there is a path of at most a slash and nothing behind it, the slash is all there is. -/
theorem eq_nil_of_components {scheme t : PyStr}
    (hpath : (components scheme (t ++ [ch '/'])).1 = [] ∨
      (components scheme (t ++ [ch '/'])).1 = py "/")
    (hquery : (components scheme (t ++ [ch '/'])).2.2.1 = [])
    (hfragment : (components scheme (t ++ [ch '/'])).2.2.2 = []) : t = [] := by
  obtain ⟨-, hurl⟩ := splitOnce_append_slash (by decide) hfragment
  have hquery' : (splitOnce (t ++ [ch '/']) (ch '?')).2 = [] := by
    rw [← hurl]
    exact hquery
  obtain ⟨-, hurl'⟩ := splitOnce_append_slash (by decide) hquery'
  have hpath' : (components scheme (t ++ [ch '/'])).1 = t ++ [ch '/'] := by
    unfold components
    dsimp only
    rw [hurl, hurl', splitParams_append_slash]
    split <;> rfl
  rw [hpath'] at hpath
  rcases hpath with h | h
  · simp at h
  · exact List.append_left_eq_self.mp h

/-- The characters that end the network location. -/
def isDelimiter (c : CodePoint) : Bool := decide (c ∈ py "/?#")

/-- The network location of what is behind the scheme. -/
def netlocOf (url : PyStr) : PyStr :=
  if url.take 2 = py "//" then (url.drop 2).takeWhile fun c => !isDelimiter c else []

/-- What is behind it. -/
def restOf (url : PyStr) : PyStr :=
  if url.take 2 = py "//" then (url.drop 2).dropWhile fun c => !isDelimiter c else url

/-- The result for a scheme and what is behind it. -/
def resultOf (scheme url : PyStr) : ParseResult :=
  let (path, params, query, fragment) := components scheme (restOf url)
  ⟨scheme, netlocOf url, path, params, query, fragment⟩

/-- When `urlparse` returns, and what. -/
theorem urlparse_eq_some {nfkc : PyStr → PyStr} {url : PyStr} {r : ParseResult} :
    urlparse nfkc url = some r ↔
      bracketsOk (netlocOf (splitScheme (cleaned url)).2) = true ∧
      netlocOk nfkc (netlocOf (splitScheme (cleaned url)).2) = true ∧
      resultOf (splitScheme (cleaned url)).1 (splitScheme (cleaned url)).2 = r := by
  have hdef : urlparse nfkc url =
      if bracketsOk (netlocOf (splitScheme (cleaned url)).2) = false then none
      else if netlocOk nfkc (netlocOf (splitScheme (cleaned url)).2) = false then none
      else some (resultOf (splitScheme (cleaned url)).1 (splitScheme (cleaned url)).2) := rfl
  rw [hdef]
  by_cases hb : bracketsOk (netlocOf (splitScheme (cleaned url)).2) = false
  · rw [if_pos hb, hb]
    simp
  · by_cases hn : netlocOk nfkc (netlocOf (splitScheme (cleaned url)).2) = false
    · rw [if_neg hb, if_pos hn, hn]
      simp
    · rw [if_neg hb, if_neg hn]
      rw [Bool.not_eq_false] at hb hn
      simp [hb, hn]

/-! ## 3. The slash -/

/-- A network location ends before the slash behind it. -/
theorem netlocOf_append_slash {t : PyStr} (h : netlocOf (t ++ [ch '/']) ≠ []) :
    netlocOf t = netlocOf (t ++ [ch '/']) ∧ restOf (t ++ [ch '/']) = restOf t ++ [ch '/'] ∧
      t = py "//" ++ netlocOf t ++ restOf t := by
  have htake : (t ++ [ch '/']).take 2 = py "//" := by
    by_contra hne
    exact h (if_neg hne)
  match t, htake with
  | [], htake => exact absurd htake (by decide)
  | [c], htake =>
    unfold netlocOf at h
    rw [if_pos htake] at h
    exact absurd rfl h
  | c :: d :: body, htake =>
    have htake' : (c :: d :: body).take 2 = py "//" := htake
    have hcd : c :: d :: body = py "//" ++ body := by
      rw [← htake']
      rfl
    have hslash : (!isDelimiter (ch '/')) = false := by decide
    unfold netlocOf restOf
    rw [if_pos htake, if_pos htake', if_pos htake, if_pos htake']
    simp only [List.cons_append, List.drop_succ_cons, List.drop_zero]
    refine ⟨?_, ?_, ?_⟩
    · rw [List.takeWhile_append]
      split
      · rename_i hlen
        have hbody := (List.takeWhile_prefix fun c => !isDelimiter c).eq_of_length hlen
        rw [hbody, List.takeWhile_cons_of_neg (by simp [hslash]), List.append_nil]
      · rfl
    · rw [List.dropWhile_append]
      split
      · rename_i hempty
        simp [hslash, List.isEmpty_iff.mp hempty]
      · rfl
    · rw [List.append_assoc, List.takeWhile_append_dropWhile]
      exact hcd

/-- **Without the slash behind it, an origin has the same components.** -/
theorem urlparse_of_slash {nfkc : PyStr → PyStr} {s : PyStr} {r : ParseResult}
    (h : urlparse nfkc (s ++ [ch '/']) = some r) (hscheme : r.scheme ≠ [])
    (hnetloc : r.netloc ≠ []) (hpath : r.path = [] ∨ r.path = py "/") (hquery : r.query = [])
    (hfragment : r.fragment = []) :
    urlparse nfkc s = some ⟨r.scheme, r.netloc, [], [], [], []⟩ ∧ s.getLast? ≠ some (ch '/') := by
  obtain ⟨hbrackets, hchecked, hr⟩ := urlparse_eq_some.mp h
  rw [cleaned_append_slash] at hbrackets hchecked hr
  have hne : (splitScheme (cleaned s ++ [ch '/'])).1 ≠ [] := by
    rw [← hr] at hscheme
    exact hscheme
  obtain ⟨scheme, rest, hslash, hplain, hsuffix⟩ := splitScheme_append_slash hne
  rw [hslash] at hbrackets hchecked hr
  subst hr
  change netlocOf (rest ++ [ch '/']) ≠ [] at hnetloc
  obtain ⟨hloc, hrest, hall⟩ := netlocOf_append_slash hnetloc
  unfold resultOf at hpath hquery hfragment
  dsimp only at hpath hquery hfragment
  rw [hrest] at hpath hquery hfragment
  have hnil : restOf rest = [] := eq_nil_of_components hpath hquery hfragment
  constructor
  · refine urlparse_eq_some.mpr ?_
    rw [hplain, hloc]
    refine ⟨hbrackets, hchecked, ?_⟩
    unfold resultOf
    rw [hnil, components_nil, hloc]
  · intro hlast
    obtain ⟨init, rfl⟩ := List.getLast?_eq_some_iff.mp hlast
    rw [cleaned_append_slash] at hsuffix
    have hrestne : rest ≠ [] := by
      rintro rfl
      simp [py_eq_map] at hall
    have hrestlast : rest.getLast? = some (ch '/') := by
      obtain ⟨before, hbefore⟩ := hsuffix
      have hend := congrArg List.getLast? hbefore
      rw [← List.singleton_append, ← List.append_assoc, List.getLast?_append_of_ne_nil _ hrestne]
        at hend
      simpa using hend
    rw [← hloc] at hnetloc
    rw [hall, hnil, List.append_nil, List.getLast?_append_of_ne_nil _ hnetloc] at hrestlast
    have hmem := List.mem_of_getLast? hrestlast
    unfold netlocOf at hmem
    split at hmem
    · have hdelimiter := List.mem_takeWhile_imp hmem
      revert hdelimiter
      decide
    · cases hmem

end UrlParse

end ZtPlanet.Python
