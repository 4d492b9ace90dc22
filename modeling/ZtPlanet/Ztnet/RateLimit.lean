/-
# The rate limiter

`rateLimit` counts the requests of a key, a token with an identifier, in a bucket that expires
`interval` milliseconds after its first request.  The buckets are kept in a cache of at most
`uniqueTokenPerInterval` entries, so a bucket is lost when enough other keys come in between, and
the next request of its key starts a new one.

A bucket is kept for its whole window exactly if, whenever its key comes again, fewer than
`uniqueTokenPerInterval` other keys have come since (`bucket_kept_iff`); then the key has at most
`limit` accepted requests in the window (`limit_holds`).  Otherwise it can have more
(`limit_exceeded`).
-/
import ZtPlanet.Lib.LruCache
import ZtPlanet.Lib.Machine
import ZtPlanet.Python.IpRoundTrip

namespace ZtPlanet.Ztnet.RateLimit

open ZtPlanet.Lib ZtPlanet.Python ZtPlanet.Python.IpAddress

/-! ## 1. `check` -/

/-- `${token}:${identifier}`. -/
def cacheKey (token identifier : PyStr) : PyStr := token ++ py ":" ++ identifier

/-- What a request is answered. -/
structure Answer where
  time : Nat
  token : PyStr
  identifier : PyStr
  limit : Nat
  /-- `currentUsage` -/
  usage : Nat
deriving DecidableEq

def Answer.key (a : Answer) : PyStr := cacheKey a.token a.identifier

/-- The request is accepted. -/
def Answer.accepted (a : Answer) : Bool := a.usage ≤ a.limit

/-- `X-RateLimit-Remaining`. -/
def Answer.remaining (a : Answer) : Nat := if a.accepted then a.limit - a.usage else 0

/-- `rateLimit`, with what it has answered. -/
structure Limiter (max : Nat) where
  tokenCache : LruCache PyStr Nat max
  /-- the clock of the cache -/
  now : Nat
  log : List Answer

/-- The options, `uniqueTokenPerInterval` and `interval`. -/
structure Options where
  max : Nat
  ttl : Nat
  pos : 0 < max

variable {options : Options}

/-- `check`; an identifier that is missing is `"global"`. -/
def Limiter.check (s : Limiter options.max) (limit : Nat) (token : PyStr)
    (identifier : Option PyStr) :
    Limiter options.max :=
  let identifier := identifier.getD (py "global")
  let key := cacheKey token identifier
  let got := s.tokenCache.get options.pos options.ttl s.now key
  let tokenCount := got.1.getD 0
  let tokenCache := if tokenCount = 0 then got.2.set options.pos s.now key 0 else got.2
  -- the array in the cache is changed in place
  { s with
    tokenCache := tokenCache.modify key (· + 1)
    log := s.log ++ [⟨s.now, token, identifier, limit, tokenCount + 1⟩] }

inductive Event where
  /-- time passes -/
  | wait (ms : Nat)
  | check (limit : Nat) (token : PyStr) (identifier : Option PyStr)
deriving DecidableEq

def limiterMachine (options : Options) : Machine (Limiter options.max) Event where
  step s
    | .wait ms => some { s with now := s.now + ms }
    | .check limit token identifier => some (s.check limit token identifier)

/-- A new limiter. -/
def newLimiter (options : Options) : Limiter options.max := ⟨LruCache.empty, 0, []⟩

/-! ## 2. Windows -/

/-- The answers in the window of a bucket, behind its first one. -/
def window (options : Options) (first : Answer) (after : List Answer) : List Answer :=
  after.filter fun a => a.time ≤ first.time + options.ttl

/-- The other keys that have come since the key, where `used` have before. -/
def since (key : PyStr) (used : Finset PyStr) : List Answer → Finset PyStr
  | [] => used
  | a :: rest => since key (if a.key = key then ∅ else insert a.key used) rest

/-- Whenever the key comes, fewer than `max` other keys have come since it did. -/
def spaced (max : Nat) (key : PyStr) (used : Finset PyStr) : List Answer → Bool
  | [] => true
  | a :: rest =>
    if a.key = key then used.card < max && spaced max key ∅ rest
    else spaced max key (insert a.key used) rest

/-- The requests of the key have all counted on in the bucket. -/
def kept (key : PyStr) (l : List Answer) : Bool := l.all fun a => a.key ≠ key || a.usage ≠ 1

/-- The request is of the same token and identifier. -/
def Answer.same (first a : Answer) : Bool :=
  a.token = first.token && a.identifier = first.identifier

/-- The number of requests of the token and identifier of `first` that are accepted. -/
def accepted (first : Answer) (l : List Answer) : Nat :=
  l.countP fun a => first.same a && a.accepted

section

variable {max : Nat} {key : PyStr} {used : Finset PyStr} {l : List Answer} {a : Answer}

theorem window_concat {first : Answer} : window options first (l ++ [a]) =
    if a.time ≤ first.time + options.ttl then window options first l ++ [a]
      else window options first l := by
  by_cases ha : a.time ≤ first.time + options.ttl
  · simp [window, List.filter_append, ha]
  · simp [window, List.filter_append, ha]

theorem since_concat : since key used (l ++ [a]) =
    if a.key = key then ∅ else insert a.key (since key used l) := by
  induction l generalizing used with
  | nil => rfl
  | cons b l ih => exact ih

theorem spaced_concat : spaced max key used (l ++ [a]) =
    (spaced max key used l && (a.key ≠ key || (since key used l).card < max)) := by
  induction l generalizing used with
  | nil =>
    by_cases ha : a.key = key
    · by_cases hused : used.card < max <;> simp [spaced, since, ha, hused]
    · simp [spaced, since, ha]
  | cons b l ih =>
    rw [List.cons_append, spaced, spaced, since]
    by_cases hb : b.key = key
    · rw [if_pos hb, if_pos hb, if_pos hb, ih, Bool.and_assoc]
    · rw [if_neg hb, if_neg hb, if_neg hb, ih]

theorem kept_concat : kept key (l ++ [a]) = (kept key l && (a.key ≠ key || a.usage ≠ 1)) := by
  simp [kept]

theorem accepted_concat {first : Answer} : accepted first (l ++ [a]) =
    accepted first l + if first.same a && a.accepted then 1 else 0 := by
  simp [accepted, List.countP_append, List.countP_cons]

theorem Answer.key_of_same {first : Answer} (h : first.same a = true) : a.key = first.key := by
  simp only [Answer.same, Bool.and_eq_true, decide_eq_true_eq] at h
  rw [Answer.key, Answer.key, h.1, h.2]

end

/-! ## 3. A bucket and the requests behind it -/

section

variable {s : Limiter options.max} {limit : Nat} {token : PyStr} {identifier : Option PyStr}
  {used : Finset PyStr} {e : LruEntry PyStr Nat}

/-- The key of a request. -/
def requestKey (token : PyStr) (identifier : Option PyStr) : PyStr :=
  cacheKey token (identifier.getD (py "global"))

/-- The answer to a request. -/
def Limiter.answer (s : Limiter options.max) (limit : Nat) (token : PyStr)
    (identifier : Option PyStr) :
    Answer :=
  ⟨s.now, token, identifier.getD (py "global"), limit,
    (s.tokenCache.get options.pos options.ttl s.now (requestKey token identifier)).1.getD 0 + 1⟩

@[simp] theorem answer_time : (s.answer limit token identifier).time = s.now := rfl

@[simp] theorem answer_limit : (s.answer limit token identifier).limit = limit := rfl

@[simp] theorem answer_key : (s.answer limit token identifier).key = requestKey token identifier :=
  rfl

theorem check_log : (s.check limit token identifier).log =
    s.log ++ [s.answer limit token identifier] := rfl

/-- What a request leaves in the cache. -/
theorem check_tokenCache : (s.check limit token identifier).tokenCache =
    (if (s.tokenCache.get options.pos options.ttl s.now (requestKey token identifier)).1.getD 0 = 0
      then
      (s.tokenCache.get options.pos options.ttl s.now (requestKey token identifier)).2.set
      options.pos s.now
        (requestKey token identifier) 0
    else (s.tokenCache.get options.pos options.ttl s.now (requestKey token identifier)).2).modify
      (requestKey token identifier) (· + 1) := rfl

/-- **Another key**: the bucket sees it come to the front. -/
theorem check_other (limit : Nat) (h : s.tokenCache.Seen used e)
    (hne : requestKey token identifier ≠ e.key) :
    (s.check limit token identifier).tokenCache.Seen
    (insert (requestKey token identifier) used) e := by
  obtain ⟨hset, hget⟩ := LruCache.Seen.get options.pos h hne options.ttl s.now
  rw [check_tokenCache, ← show e.updated (requestKey token identifier) (· + 1) = e
    from if_neg hne.symm]
  refine LruCache.Seen.modify ?_ _
  split
  · exact hset 0
  · next hcount =>
    refine hget (Option.isSome_iff_ne_none.mpr fun hnone => hcount ?_)
    rw [hnone]
    rfl

/-- **The key of a bucket that is there** counts on. -/
theorem check_own (limit : Nat) (h : s.tokenCache.Behind used e)
    (hkey : requestKey token identifier = e.key)
    (htime : s.now ≤ e.start + options.ttl) (hvalue : e.value ≠ 0) :
    (s.answer limit token identifier).usage = e.value + 1 ∧
      (s.check limit token identifier).tokenCache.Seen ∅ { e with value := e.value + 1 } := by
  rw [Limiter.answer, check_tokenCache, hkey, h.get htime]
  refine ⟨rfl, ?_⟩
  rw [Option.getD_some, if_neg hvalue]
  have hfront := (LruCache.behind_toFront options.pos s.tokenCache e).seen.modify
    (f := (· + 1)) e.key
  rwa [LruEntry.updated, if_pos rfl] at hfront

/-- **A first request** starts a bucket. -/
theorem check_first (h : (s.answer limit token identifier).usage = 1) :
    (s.check limit token identifier).tokenCache.Seen ∅ ⟨requestKey token identifier, 1, s.now⟩ := by
  have hcount : (s.tokenCache.get options.pos options.ttl s.now
      (requestKey token identifier)).1.getD 0 = 0 := Nat.succ.inj h
  rw [check_tokenCache, if_pos hcount]
  generalize (s.tokenCache.get options.pos options.ttl s.now (requestKey token identifier)).2 =
    cache
  have hfront := (LruCache.behind_toFront options.pos cache
    ⟨requestKey token identifier, 0, s.now⟩).seen.modify (f := (· + 1))
      (requestKey token identifier)
  rwa [LruEntry.updated, if_pos rfl] at hfront

/-- The key of a bucket that is lost is a first one. -/
theorem check_absent (h : s.tokenCache.Absent (requestKey token identifier)) :
    (s.answer limit token identifier).usage = 1 := by
  rw [Limiter.answer, LruCache.get, LruCache.find?_eq_none_iff.mpr h]
  rfl

end

/-! ## 4. What holds of a bucket along a run -/

/-- What holds of the bucket of a first request, with the answers behind it. -/
structure Bucket (first : Answer) (after : List Answer) (s : Limiter options.max) : Prop where
  /-- the bucket has been kept exactly where the other keys are few -/
  exact : spaced options.max first.key ∅ (window options first after) =
    kept first.key (window options first after)
  bound : kept first.key (window options first after) = true → ∀ limit,
    (∀ a ∈ first :: window options first after, first.same a = true → a.limit ≤ limit) →
    accepted first (first :: window options first after) ≤ limit
  /-- within its window the cache says so, and it has counted what has been accepted -/
  live : kept first.key (window options first after) = true → s.now ≤ first.time + options.ttl →
    ∃ n, n ≠ 0 ∧ accepted first (first :: window options first after) ≤ n ∧
      s.tokenCache.Seen (since first.key ∅ (window options first after)) ⟨first.key, n, first.time⟩

section

variable {s s' : Limiter options.max} {limit : Nat} {token : PyStr} {identifier : Option PyStr}
  {first : Answer} {after : List Answer}

/-- A first request. -/
theorem bucket_first (h : (s.answer limit token identifier).usage = 1) :
    Bucket (s.answer limit token identifier) [] (s.check limit token identifier) := by
  have hsame : (s.answer limit token identifier).same (s.answer limit token identifier) = true := by
    simp [Answer.same]
  have haccepted : accepted (s.answer limit token identifier) [s.answer limit token identifier] =
      if 1 ≤ limit then 1 else 0 := by
    simp only [accepted, Answer.accepted, h, List.countP_cons, List.countP_nil, hsame,
      Bool.true_and,
      decide_eq_true_eq, Nat.zero_add, answer_limit]
  refine ⟨rfl, fun _ bound hbound => ?_, fun _ _ => ⟨1, one_ne_zero, ?_, check_first h⟩⟩
  · have hlimit : limit ≤ bound := hbound _ (List.mem_cons_self ..) hsame
    refine haccepted.trans_le ?_
    split
    · next hone => exact hone.trans hlimit
    · exact Nat.zero_le _
  · refine haccepted.trans_le ?_
    split <;> omega

/-- Time that passes leaves a bucket. -/
theorem Bucket.wait (h : Bucket first after s) (ms : Nat) :
    Bucket first after { s with now := s.now + ms } where
  exact := h.exact
  bound := h.bound
  live hkept hnow := h.live hkept ((Nat.le_add_right _ _).trans hnow)

/-- The key of a bucket comes again in its window: the bucket is kept exactly if it has not been
pushed out of the cache. -/
theorem Bucket.own (h : Bucket first after s) (hnow : s.now ≤ first.time + options.ttl)
    (hkey : requestKey token identifier = first.key) :
    Bucket first (after ++ [s.answer limit token identifier]) (s.check limit token identifier) := by
  have hwindow : window options first (after ++ [s.answer limit token identifier]) =
      window options first after ++ [s.answer limit token identifier] := by
    rw [window_concat, answer_time, if_pos hnow]
  have hkept : kept first.key (window options first after ++ [s.answer limit token identifier]) =
      (kept first.key (window options first after) &&
        (s.answer limit token identifier).usage ≠ 1) := by
    simp [kept_concat, hkey]
  have hspaced : spaced options.max first.key ∅
      (window options first after ++ [s.answer limit token identifier]) =
      (kept first.key (window options first after) &&
        (since first.key ∅ (window options first after)).card < options.max) := by
    simp [spaced_concat, hkey, h.exact]
  by_cases hk : kept first.key (window options first after) = true
  · obtain ⟨n, hn, hcount, hseen⟩ := h.live hk hnow
    by_cases hfew : (since first.key ∅ (window options first after)).card < options.max
    · rw [LruCache.Seen, if_pos hfew] at hseen
      obtain ⟨husage, hafter⟩ := check_own limit hseen hkey hnow hn
      have haccepted : accepted first
          (first :: (window options first after ++ [s.answer limit token identifier])) =
          accepted first (first :: window options first after) +
            if first.same (s.answer limit token identifier) &&
              (s.answer limit token identifier).accepted
            then 1 else 0 := by
        rw [← List.cons_append, accepted_concat]
      constructor
      · rw [hwindow, hkept, hspaced, husage]
        simp [hk, hfew, hn]
      · rw [hwindow, haccepted]
        intro _ bound hlimits
        have hold := h.bound hk bound fun a ha => hlimits a (by
          rw [← List.cons_append]
          exact List.mem_append_left _ ha)
        split
        · next hgranted =>
          -- its usage is within its own limit, and no request before it has as high a usage
          obtain ⟨hsame, hlimit⟩ := Bool.and_eq_true_iff.mp hgranted
          have hnew : limit ≤ bound := hlimits (s.answer limit token identifier) (by simp) hsame
          rw [Answer.accepted, husage, decide_eq_true_eq, answer_limit] at hlimit
          dsimp only at hlimit
          omega
        · exact hold
      · rw [hwindow, haccepted]
        intro _ _
        refine ⟨n + 1, Nat.succ_ne_zero n, ?_, ?_⟩
        · split <;> omega
        · rw [since_concat, answer_key, if_pos hkey]
          exact hafter
    · rw [LruCache.Seen, if_neg hfew] at hseen
      have husage : (s.answer limit token identifier).usage = 1 := check_absent (hkey ▸ hseen)
      have hlost : kept first.key (window options first after ++
        [s.answer limit token identifier]) = false := by
        rw [hkept, husage]
        simp
      constructor
      · rw [hwindow, hlost, hspaced]
        simp [hfew]
      · rw [hwindow, hlost]
        intro hfalse
        cases hfalse
      · rw [hwindow, hlost]
        intro hfalse
        cases hfalse
  · have hlost : kept first.key
      (window options first after ++ [s.answer limit token identifier]) = false := by
      rw [hkept]
      simp [hk]
    constructor
    · rw [hwindow, hlost, hspaced]
      simp [hk]
    · rw [hwindow, hlost]
      intro hfalse
      cases hfalse
    · rw [hwindow, hlost]
      intro hfalse
      cases hfalse

/-- **A request behind a first one.** -/
theorem Bucket.check (h : Bucket first after s) (limit : Nat) (token : PyStr)
    (identifier : Option PyStr) :
    Bucket first (after ++ [s.answer limit token identifier]) (s.check limit token identifier) := by
  by_cases hnow : s.now ≤ first.time + options.ttl
  · by_cases hkey : requestKey token identifier = first.key
    · exact h.own hnow hkey
    · have hwindow : window options first (after ++ [s.answer limit token identifier]) =
          window options first after ++ [s.answer limit token identifier] := by
        rw [window_concat, answer_time, if_pos hnow]
      obtain ⟨hexact, hbound, hlive⟩ := h
      have hkept :
          kept first.key (window options first after ++ [s.answer limit token identifier]) =
          kept first.key (window options first after) := by
        simp [kept_concat, hkey]
      have hother : first.same (s.answer limit token identifier) = false :=
        Bool.eq_false_iff.mpr fun hsame => hkey (Answer.key_of_same hsame)
      have haccepted : accepted first
          (first :: (window options first after ++ [s.answer limit token identifier])) =
          accepted first (first :: window options first after) := by
        rw [← List.cons_append, accepted_concat, hother]
        rfl
      constructor
      · rw [hwindow, hkept, spaced_concat, hexact]
        simp [hkey]
      · rw [hwindow, hkept, haccepted]
        refine fun hk bound hlimits => hbound hk bound fun a ha => hlimits a ?_
        rw [← List.cons_append]
        exact List.mem_append_left _ ha
      · rw [hwindow, hkept, haccepted]
        intro hk hlater
        obtain ⟨n, hn, hcount, hseen⟩ := hlive hk hlater
        refine ⟨n, hn, hcount, ?_⟩
        rw [since_concat, answer_key, if_neg hkey]
        exact check_other limit hseen hkey
  · -- the window is over
    have hwindow : window options first (after ++ [s.answer limit token identifier]) =
        window options first after := by
      rw [window_concat, answer_time, if_neg hnow]
    constructor
    · rw [hwindow]
      exact h.exact
    · rw [hwindow]
      exact h.bound
    · exact fun _ hlater => absurd hlater hnow

end

/-! ## 5. Runs -/

/-- The requests behind each first one. -/
def Buckets (s : Limiter options.max) : Prop :=
  ∀ before first after, s.log = before ++ first :: after → first.usage = 1 → Bucket first after s

theorem buckets_newLimiter : Buckets (newLimiter options) := by
  intro before first after hlog
  exact absurd hlog.symm (List.append_ne_nil_of_right_ne_nil _ (List.cons_ne_nil _ _))

/-- The step lemma. -/
theorem Buckets.check {s : Limiter options.max} (h : Buckets s) (limit : Nat) (token : PyStr)
    (identifier : Option PyStr) : Buckets (s.check limit token identifier) := by
  intro before first after hlog hfirst
  rw [check_log] at hlog
  -- is it the request itself that is the first one, or one before it
  cases after using List.reverseRecOn with
  | nil =>
    obtain ⟨-, ha⟩ := List.append_inj' hlog rfl
    rw [← List.singleton_injective ha] at hfirst ⊢
    exact bucket_first hfirst
  | append_singleton after a =>
    rw [← List.cons_append, ← List.append_assoc] at hlog
    obtain ⟨hbefore, ha⟩ := List.append_inj' hlog rfl
    rw [← List.singleton_injective ha]
    exact (h before first after hbefore hfirst).check limit token identifier

/-- The run lemma. -/
theorem buckets_of_run {es : List Event} {s : Limiter options.max}
    (hrun : (limiterMachine options).run (newLimiter options) es = some s) : Buckets s := by
  refine Machine.run_invariant (P := Buckets) (fun t e t' ht hstep => ?_) es buckets_newLimiter hrun
  cases e with
  | wait ms =>
    cases hstep
    exact fun before first after hlog hfirst => (ht before first after hlog hfirst).wait ms
  | check limit token identifier =>
    cases hstep
    exact ht.check limit token identifier

section

variable {es : List Event} {s : Limiter options.max} {before after : List Answer} {first : Answer}

/-- **A bucket is kept for its window** exactly if fewer than `max` other keys come between two
requests of its key. -/
theorem bucket_kept_iff (hrun : (limiterMachine options).run (newLimiter options) es = some s)
    (hlog : s.log = before ++ first :: after) (hfirst : first.usage = 1) :
    kept first.key (window options first after) = true ↔
      spaced options.max first.key ∅ (window options first after) = true := by
  rw [(buckets_of_run hrun before first after hlog hfirst).exact]

/-- **The limit holds in the window of a bucket**, where fewer than `max` other keys come between
two requests of its key. -/
theorem limit_holds {limit : Nat}
    (hrun : (limiterMachine options).run (newLimiter options) es = some s)
    (hlog : s.log = before ++ first :: after) (hfirst : first.usage = 1)
    (hspaced : spaced options.max first.key ∅ (window options first after) = true)
    (hlimit : ∀ a ∈ first :: window options first after, first.same a = true → a.limit ≤ limit) :
    accepted first (first :: window options first after) ≤ limit := by
  have hkept := (bucket_kept_iff hrun hlog hfirst).mpr hspaced
  exact (buckets_of_run hrun before first after hlog hfirst).bound hkept limit hlimit

end

/-- One of the tokens of `authRouter`. -/
def passwordResetLink : PyStr := py "PASSWORD_RESET_LINK"

/-- Two addresses that alternate, in a cache for two. -/
def exampleRequests : List Event :=
  [.check 1 passwordResetLink (some (py "10.0.0.1")), .wait 5,
    .check 1 passwordResetLink (some (py "10.0.0.2")),
    .check 1 passwordResetLink (some (py "10.0.0.1"))]

def exampleFirst : Answer := ⟨0, passwordResetLink, py "10.0.0.1", 1, 1⟩

def exampleAfter : List Answer :=
  [⟨5, passwordResetLink, py "10.0.0.2", 1, 1⟩, ⟨5, passwordResetLink, py "10.0.0.1", 1, 2⟩]

/-- The second request of the first address is turned down. -/
theorem limit_holds_two : ∃ s : Limiter 2,
    (limiterMachine ⟨2, 60, by decide⟩).run
    (newLimiter ⟨2, 60, by decide⟩) exampleRequests = some s ∧
      accepted exampleFirst (exampleFirst :: window ⟨2, 60, by decide⟩ exampleFirst exampleAfter) ≤
        1 := by
  refine Machine.exists_run (P := fun s => s.log = [] ++ exampleFirst :: exampleAfter)
    (by decide +kernel) fun s hrun hlog => ?_
  exact limit_holds hrun hlog rfl (by decide +kernel) (by decide +kernel)

/-! ## 6. A bucket that is pushed out -/

/-- `limiter` of `authRouter`, where `RATE_LIMIT_WINDOW` is not set. -/
def limiter : Options := ⟨1000, 10 * 60 * 1000, by decide⟩

/-- A request from each of the identifiers. -/
def flood (limit : Nat) (token : PyStr) (identifiers : List PyStr) : List Event :=
  identifiers.map fun identifier => .check limit token (some identifier)

section

variable {s : Limiter options.max} {token identifier : PyStr} {used : Finset PyStr}
  {e : LruEntry PyStr Nat}

theorem cacheKey_injective (token : PyStr) : Function.Injective (cacheKey token) :=
  fun _ _ h => List.append_cancel_left h

/-- The requests of a flood come while no time passes, and a bucket of another identifier sees them
all. -/
theorem run_flood (limit : Nat) (token : PyStr) (identifiers : List PyStr)
    (hseen : s.tokenCache.Seen used e) (hne : ∀ i ∈ identifiers, cacheKey token i ≠ e.key) :
    ∃ s' answers, (limiterMachine options).run s (flood limit token identifiers) = some s' ∧
      s'.log = s.log ++ answers ∧ (∀ a ∈ answers, a.time = s.now ∧ a.limit = limit) ∧
        s'.now = s.now ∧
      s'.tokenCache.Seen (used ∪ identifiers.toFinset.image (cacheKey token)) e := by
  induction identifiers generalizing s used with
  | nil => exact ⟨s, [], rfl, by simp, by simp, rfl, by simpa using hseen⟩
  | cons i rest ih =>
    have hi : requestKey token (some i) ≠ e.key := hne i (List.mem_cons_self ..)
    obtain ⟨s', answers, hrun, hlog, hanswers, hnow, hafter⟩ :=
      ih (check_other limit hseen hi) fun j hj => hne j (List.mem_cons_of_mem _ hj)
    refine ⟨s', s.answer limit token (some i) :: answers,
      Machine.run_cons_eq_some.mpr ⟨_, rfl, hrun⟩,
      ?_, ?_, hnow, ?_⟩
    · rw [hlog, check_log, List.append_assoc, List.singleton_append]
    · rintro a ha
      rcases List.mem_cons.mp ha with rfl | ha
      · exact ⟨rfl, rfl⟩
      · exact hanswers a ha
    · rwa [List.toFinset_cons, Finset.image_insert, ← Finset.insert_union_comm]

/-- **The limit does not hold** where as many other identifiers come in between as the cache has
entries: the next request starts a new bucket. -/
theorem exceeded_of_flood {identifiers : List PyStr} (hnodup : identifiers.Nodup)
    (hmany : options.max ≤ identifiers.length) (hid : identifier ∉ identifiers) (token : PyStr) :
    ∃ (s : Limiter options.max) (first : Answer) (after : List Answer),
      (limiterMachine options).run (newLimiter options) (.check 1 token (some identifier) ::
        (flood 1 token identifiers ++ [.check 1 token (some identifier)])) = some s ∧
      s.log = first :: after ∧ first.usage = 1 ∧ (∀ a ∈ first :: after, a.limit = 1) ∧
      2 ≤ accepted first (first :: window options first after) := by
  obtain ⟨s, answers, hrun, hlog, hanswers, hnow, hseen⟩ := run_flood 1 token identifiers
    (@check_first options (newLimiter options) 1 token (some identifier) rfl)
    fun i hi heq => hid ((cacheKey_injective token heq : i = identifier) ▸ hi)
  -- every entry of the cache is another identifier's
  have hcard : (∅ ∪ identifiers.toFinset.image (cacheKey token)).card = identifiers.length := by
    rw [Finset.empty_union, Finset.card_image_of_injective _ (cacheKey_injective token),
      List.toFinset_card_of_nodup hnodup]
  rw [LruCache.Seen, if_neg (by omega)] at hseen
  have husage : (s.answer 1 token (some identifier)).usage = 1 := check_absent hseen
  have htime : s.now = 0 := hnow
  generalize hlast : s.answer 1 token (some identifier) = last at husage
  have hlast_mem : last ∈ window options ((newLimiter options).answer 1 token (some identifier))
      (answers ++ [last]) := by
    rw [window_concat, ← hlast, answer_time, htime, if_pos (Nat.zero_le _)]
    exact List.mem_append_right _ (List.mem_singleton_self _)
  refine ⟨s.check 1 token (some identifier), (newLimiter options).answer 1 token (some identifier),
    answers ++ [last], ?_, ?_, rfl, ?_, ?_⟩
  · rw [← List.cons_append, Machine.run_append, Machine.run_cons_eq_some.mpr ⟨_, rfl, hrun⟩]
    rfl
  · rw [check_log, hlog, hlast]
    rfl
  · intro a ha
    rcases List.mem_cons.mp ha with rfl | ha
    · rfl
    rcases List.mem_append.mp ha with ha | ha
    · exact (hanswers a ha).2
    · rw [List.mem_singleton.mp ha, ← hlast]
      rfl
  · -- both are accepted, the first one and the last one
    have hlast_counted :
        (((newLimiter options).answer 1 token (some identifier)).same last && last.accepted) =
          true := by
      rw [Answer.accepted, husage, ← hlast]
      simp [Answer.same, Limiter.answer]
    have hpos : 0 < accepted ((newLimiter options).answer 1 token (some identifier))
        (window options ((newLimiter options).answer 1 token (some identifier))
          (answers ++ [last])) :=
      List.countP_pos_iff.mpr ⟨last, hlast_mem, hlast_counted⟩
    have hfirst_counted : (((newLimiter options).answer 1 token (some identifier)).same
        ((newLimiter options).answer 1 token (some identifier)) &&
          ((newLimiter options).answer 1 token (some identifier)).accepted) = true := by
      rw [Answer.accepted, Answer.same]
      simp [Limiter.answer, newLimiter, LruCache.get, LruCache.find?, LruCache.empty]
    rw [accepted, List.countP_cons, if_pos hfirst_counted]
    exact Nat.succ_le_succ hpos

end

/-- The first thousand addresses. -/
def thousandAddresses : List PyStr := (List.range 1000).map fun i => ipv4Text (BitVec.ofNat 32 i)

theorem nodup_thousandAddresses : thousandAddresses.Nodup := by
  refine List.Nodup.map_on (fun i hi j hj h => ?_) List.nodup_range
  have hof : BitVec.ofNat 32 i = BitVec.ofNat 32 j := by
    have htext := congrArg ipv4FromString h
    rwa [ipv4FromString_ipv4Text, ipv4FromString_ipv4Text, Option.some.injEq] at htext
  have hnat := congrArg BitVec.toNat hof
  rw [BitVec.toNat_ofNat, BitVec.toNat_ofNat, Nat.mod_eq_of_lt, Nat.mod_eq_of_lt] at hnat
  · exact hnat
  · exact (List.mem_range.mp hj).trans (by decide)
  · exact (List.mem_range.mp hi).trans (by decide)

/-- **A thousand addresses** push the bucket of another one out of the cache of `limiter`: with a
limit of one, it has two requests accepted in the window. -/
theorem limit_exceeded : ∃ (s : Limiter 1000) (first : Answer) (after : List Answer),
    (limiterMachine limiter).run (newLimiter limiter)
      (.check 1 passwordResetLink (some (py "10.0.0.1")) ::
        (flood 1 passwordResetLink thousandAddresses ++
          [.check 1 passwordResetLink (some (py "10.0.0.1"))])) = some s ∧
    s.log = first :: after ∧ first.usage = 1 ∧ (∀ a ∈ first :: after, a.limit = 1) ∧
    2 ≤ accepted first (first :: window limiter first after) := by
  refine @exceeded_of_flood limiter _ _ nodup_thousandAddresses ?_ ?_ passwordResetLink
  · rw [thousandAddresses, List.length_map, List.length_range]
    rfl
  · intro hmem
    obtain ⟨i, hi, htext⟩ := List.mem_map.mp hmem
    have hof := congrArg ipv4FromString htext
    rw [ipv4FromString_ipv4Text,
      show ipv4FromString (py "10.0.0.1") = some 0x0a000001#32 by decide +kernel,
      Option.some.injEq] at hof
    have hnat := congrArg BitVec.toNat hof
    rw [BitVec.toNat_ofNat, Nat.mod_eq_of_lt ((List.mem_range.mp hi).trans (by decide))] at hnat
    rw [hnat] at hi
    exact absurd (List.mem_range.mp hi) (by decide)

end ZtPlanet.Ztnet.RateLimit
