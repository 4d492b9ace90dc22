/-
# `Handler.authorized`: signed requests to the configuration agent

Every request to the agent carries a timestamp, a nonce and a signature over both, the request
line, the actor and the body.  `Handler.authorized` first compares the timestamp with the clock
truncated to seconds; then, under `nonce_lock`, it reads the clock again, drops the nonces seen
more than 60 s ago, refuses a nonce that is still there, checks the signature and stores the
nonce with the time read under the lock.

The server handles every request on a thread of its own, so a call is two events: `present`
(everything before the lock) and `enter` (the critical section).  Clock readings are rational
numbers of seconds and never go back.  Header values and the request line are Latin-1 texts, one
byte per character, which is how `http.server` decodes them.  `mac` is
`hmac.new(secret, ·, sha256).hexdigest()`.
-/
import Mathlib.Algebra.Order.Floor.Ring
import Mathlib.Data.Rat.Floor
import ZtPlanet.Lib.Dict
import ZtPlanet.Lib.Machine

namespace ZtPlanet.Agent.Authorization

open ZtPlanet.Lib

/-! ## 1. Latin-1 texts -/

/-- A header value or a part of the request line. -/
abbrev Text := List UInt8

def latin1 (s : String) : Text := s.toList.map fun c => UInt8.ofNat c.toNat

/-- The characters that `int()` skips around a number. -/
def isSpace (c : UInt8) : Bool := (9 ≤ c && c ≤ 13) || c == 32 || c == 0x85 || c == 0xa0

def isDigit (c : UInt8) : Bool := 48 ≤ c && c ≤ 57

/-- `text.strip()`, for the spaces of `int()`. -/
def strip (text : Text) : Text := ((text.dropWhile isSpace).reverse.dropWhile isSpace).reverse

/-- Decimal digits with single underscores between them; `afterDigit` says whether the last
character was a digit. -/
def readDigits : Text → Nat → Bool → Option Nat
  | [], n, afterDigit => if afterDigit then some n else none
  | c :: cs, n, afterDigit =>
    if isDigit c then readDigits cs (10 * n + (c.toNat - 48)) true
    else if c = 95 ∧ afterDigit then readDigits cs n false
    else none

/-- `int(text)`; `none` is `ValueError`, which more than 4300 digits raise too. -/
def pyInt (text : Text) : Option Int :=
  let core := strip text
  if (core.filter isDigit).length > 4300 then none
  else
    match core with
    | 43 :: digits => (readDigits digits 0 false).map Int.ofNat
    | 45 :: digits => (readDigits digits 0 false).map fun n => -Int.ofNat n
    | digits => (readDigits digits 0 false).map Int.ofNat

/-- The UTF-8 encoding of one Latin-1 character. -/
def encodeChar (c : UInt8) : List UInt8 :=
  if c < 0x80 then [c]
  else [UInt8.ofNat (0xC0 + c.toNat / 64), UInt8.ofNat (0x80 + c.toNat % 64)]

/-- `text.encode()`. -/
def encode (text : Text) : List UInt8 := text.flatMap encodeChar

/-! ## 2. Requests -/

/-- What `authorized` reads of a request.  The request line is split at white space, so its
command and path hold no line feed. -/
structure Request where
  command : Text
  path : Text
  timestamp : Text
  nonce : Text
  signature : Text
  actor : Text
  body : List UInt8
  command_line : 10 ∉ command
  path_line : 10 ∉ path
deriving DecidableEq

/-- The signed bytes: the six parts joined by line feeds. -/
def canonical (r : Request) : List UInt8 :=
  encode r.command ++ 10 :: (encode r.path ++ 10 :: (encode r.timestamp ++ 10 ::
    (encode r.nonce ++ 10 :: (encode r.actor ++ 10 :: r.body))))

/-- What a call of `authorized` ends with; a refusal answers 401 with the text. -/
inductive Verdict where
  | authorized
  | refused (error : String)
  /-- `hmac.compare_digest` raises `TypeError` on a signature that is not ASCII -/
  | raised
deriving DecidableEq

/-- `re.fullmatch(r"[A-Za-z0-9_-]{16,128}", nonce)`. -/
def nonceShape (nonce : Text) : Bool :=
  decide (16 ≤ nonce.length ∧ nonce.length ≤ 128) && nonce.all fun c =>
    (65 ≤ c && c ≤ 90) || (97 ≤ c && c ≤ 122) || isDigit c || c == 95 || c == 45

/-- `int(time.time())`, which truncates toward zero. -/
def truncate (clock : ℚ) : Int := if 0 ≤ clock then ⌊clock⌋ else ⌈clock⌉

/-- The part of `authorized` before the lock: the refusal, if any. -/
def precheck (r : Request) (clock : ℚ) : Option Verdict :=
  match pyInt r.timestamp with
  | none => some (.refused "invalid authentication")
  | some unixTime =>
    if (truncate clock - unixTime).natAbs > 30 ∨ nonceShape r.nonce = false then
      some (.refused "expired or invalid authentication")
    else none

/-- The critical section of `authorized`, with the clock read inside it. -/
def admitRequest (mac : List UInt8 → Text) (nonces : Dict Text ℚ) (r : Request) (now : ℚ) :
    Dict Text ℚ × Verdict :=
  let nonces := nonces.filter fun _ seen => decide (now - seen ≤ 60)
  if nonces.contains r.nonce then (nonces, .refused "replayed authentication")
  else if r.signature.all (· < 0x80) = false then (nonces, .raised)
  else if mac (canonical r) ≠ r.signature then (nonces, .refused "invalid authentication")
  else (nonces.set r.nonce now, .authorized)

/-! ## 3. The threaded server -/

/-- One call of `authorized`. -/
inductive Call where
  /-- fresh and well formed; waiting for `nonce_lock` -/
  | waiting (r : Request)
  | done (v : Verdict)
deriving DecidableEq

/-- The server: the last clock reading, the nonce table, the calls so far, and as history the
requests for which `authorized` returned `True`, oldest first, each with the time stored. -/
structure Server where
  clock : ℚ
  nonces : Dict Text ℚ
  calls : List Call
  authorized : List (Request × ℚ)
deriving DecidableEq

/-- A server that has just started. -/
def Server.start : Server := ⟨0, Dict.empty, [], []⟩

inductive Event where
  /-- a request arrives and its timestamp is compared with the clock -/
  | present (r : Request) (clock : ℚ)
  /-- call `i` takes the lock and runs its critical section -/
  | enter (i : Nat) (clock : ℚ)
deriving DecidableEq

def step (mac : List UInt8 → Text) (s : Server) (e : Event) : Option Server :=
  match e with
  | .present r t =>
    if s.clock ≤ t then
      some { s with
        clock := t
        calls := s.calls ++ [match precheck r t with
          | some v => .done v
          | none => .waiting r] }
    else none
  | .enter i t =>
    match s.calls[i]? with
    | some (.waiting r) =>
      if s.clock ≤ t then
        let (nonces, v) := admitRequest mac s.nonces r t
        some {
          clock := t
          nonces := nonces
          calls := s.calls.set i (.done v)
          authorized := if v = .authorized then s.authorized ++ [(r, t)] else s.authorized }
      else none
    | _ => none

/-- The server as a machine. -/
def machine (mac : List UInt8 → Text) : Machine Server Event := ⟨step mac⟩

/-! ## 4. What the signed bytes determine

Equal signed bytes carry the same unix time: a timestamp that reads as an integer can only be
continued past a line feed by white space. -/

theorem lineFeed_notMem_encode {text : Text} (h : 10 ∉ text) : 10 ∉ encode text := by
  intro hm
  obtain ⟨c, hc, hm⟩ := List.mem_flatMap.mp hm
  unfold encodeChar at hm
  split at hm
  · rw [List.mem_singleton] at hm
    exact h (hm ▸ hc)
  · have hlt := c.toNat_lt
    rcases List.mem_cons.mp hm with hm | hm
    · have := congrArg UInt8.toNat hm
      simp at this
      omega
    · rw [List.mem_singleton] at hm
      have := congrArg UInt8.toNat hm
      simp at this
      omega

/-- Two parts without a line feed, each followed by one. -/
theorem lineFeed_append_inj : ∀ {a b l m : List UInt8}, 10 ∉ a → 10 ∉ b →
    a ++ 10 :: l = b ++ 10 :: m → a = b ∧ l = m
  | [], [], _, _, _, _, h => ⟨rfl, (List.cons.inj h).2⟩
  | [], y :: b, _, _, _, hb, h => absurd ((List.cons.inj h).1 ▸ List.mem_cons_self) hb
  | x :: a, [], _, _, ha, _, h => absurd ((List.cons.inj h).1 ▸ List.mem_cons_self) ha
  | x :: a, y :: b, _, _, ha, hb, h => by
    obtain ⟨rfl, htail⟩ := List.cons.inj h
    obtain ⟨rfl, hlm⟩ := lineFeed_append_inj (fun hm => ha (List.mem_cons_of_mem _ hm))
      (fun hm => hb (List.mem_cons_of_mem _ hm)) htail
    exact ⟨rfl, hlm⟩

/-- The first byte tells the length of a character, and the bytes tell the character. -/
theorem encodeChar_append_inj {c d : UInt8} {l m : List UInt8}
    (h : encodeChar c ++ l = encodeChar d ++ m) : c = d ∧ l = m := by
  have hc := c.toNat_lt
  have hd := d.toNat_lt
  unfold encodeChar at h
  split at h <;> split at h
  · simpa using h
  · rename_i h₁ h₂
    simp only [List.cons_append, List.nil_append, List.cons.injEq] at h
    have := congrArg UInt8.toNat h.1
    rw [UInt8.lt_iff_toNat_lt] at h₁
    simp at this h₁
    omega
  · rename_i h₁ h₂
    simp only [List.cons_append, List.nil_append, List.cons.injEq] at h
    have := congrArg UInt8.toNat h.1
    rw [UInt8.lt_iff_toNat_lt] at h₂
    simp at this h₂
    omega
  · simp only [List.cons_append, List.nil_append, List.cons.injEq] at h
    have h₁ := congrArg UInt8.toNat h.1
    have h₂ := congrArg UInt8.toNat h.2.1
    simp at h₁ h₂
    refine ⟨UInt8.toNat_inj.mp ?_, h.2.2⟩
    omega

/-- Two encoded texts, each followed by a line feed: one text continues the other. -/
theorem encode_lineFeed_cases : ∀ {a b : Text} {l m : List UInt8},
    encode a ++ 10 :: l = encode b ++ 10 :: m →
      a = b ∨ (∃ e, b = a ++ 10 :: e) ∨ ∃ e, a = b ++ 10 :: e
  | [], [], _, _, _ => .inl rfl
  | [], y :: b, l, m, h => by
    have h' : encodeChar 10 ++ l = encodeChar y ++ (encode b ++ 10 :: m) := by
      simpa [encode, encodeChar] using h
    obtain ⟨rfl, -⟩ := encodeChar_append_inj h'
    exact .inr (.inl ⟨b, rfl⟩)
  | x :: a, [], l, m, h => by
    have h' : encodeChar x ++ (encode a ++ 10 :: l) = encodeChar 10 ++ m := by
      simpa [encode, encodeChar] using h
    obtain ⟨rfl, -⟩ := encodeChar_append_inj h'
    exact .inr (.inr ⟨a, rfl⟩)
  | x :: a, y :: b, l, m, h => by
    have h' : encodeChar x ++ (encode a ++ 10 :: l) = encodeChar y ++ (encode b ++ 10 :: m) := by
      simpa [encode] using h
    obtain ⟨rfl, h''⟩ := encodeChar_append_inj h'
    rcases encode_lineFeed_cases h'' with rfl | ⟨e, rfl⟩ | ⟨e, rfl⟩
    · exact .inl rfl
    · exact .inr (.inl ⟨e, rfl⟩)
    · exact .inr (.inr ⟨e, rfl⟩)

theorem not_isSpace_of_readDigits : ∀ {text : Text} {n v : Nat} {b : Bool},
    readDigits text n b = some v → ∀ c ∈ text, isSpace c = false
  | [], _, _, _, _, c, hc => by cases hc
  | d :: text, n, v, b, h, c, hc => by
    unfold readDigits at h
    split at h
    · rename_i hd
      rcases List.mem_cons.mp hc with rfl | hc
      · simp only [isDigit, Bool.and_eq_true, decide_eq_true_eq, UInt8.le_iff_toNat_le] at hd
        simp [isSpace, UInt8.le_iff_toNat_le, ← UInt8.toNat_inj] at hd ⊢
        omega
      · exact not_isSpace_of_readDigits h c hc
    · split at h
      · rename_i hd
        rcases List.mem_cons.mp hc with rfl | hc
        · rw [hd.1]
          decide
        · exact not_isSpace_of_readDigits h c hc
      · cases h

/-- A text that `int()` accepts has no white space inside and something left after `strip`. -/
theorem strip_of_pyInt {text : Text} {v : Int} (h : pyInt text = some v) :
    strip text ≠ [] ∧ ∀ c ∈ strip text, isSpace c = false := by
  unfold pyInt at h
  generalize hcore : strip text = core at h
  dsimp only at h
  split at h
  · cases h
  · split at h <;> obtain ⟨n, hn, -⟩ := Option.map_eq_some_iff.mp h
    · refine ⟨by simp, fun c hc => ?_⟩
      rcases List.mem_cons.mp hc with rfl | hc
      · decide
      · exact not_isSpace_of_readDigits hn c hc
    · refine ⟨by simp, fun c hc => ?_⟩
      rcases List.mem_cons.mp hc with rfl | hc
      · decide
      · exact not_isSpace_of_readDigits hn c hc
    · refine ⟨?_, not_isSpace_of_readDigits hn⟩
      rintro rfl
      simp [readDigits] at hn

/-- White space is all that can follow a line feed behind a number. -/
theorem pyInt_lineFeed_append {a e : Text} {v w : Int} (ha : pyInt a = some v)
    (hb : pyInt (a ++ 10 :: e) = some w) : v = w := by
  have hstrip : strip (a ++ 10 :: e) = strip a := by
    have hne := (strip_of_pyInt ha).1
    have hspace := (strip_of_pyInt hb).2
    have hdrop : a.dropWhile isSpace ≠ [] := by
      intro h
      exact hne (by simp [strip, h])
    unfold strip at hspace ⊢
    rw [List.dropWhile_append, if_neg (by simpa [List.isEmpty_iff] using hdrop)] at hspace ⊢
    simp only [List.reverse_append, List.reverse_cons, List.append_assoc, List.singleton_append]
      at hspace ⊢
    rw [List.dropWhile_append] at hspace ⊢
    split at hspace
    · rename_i hall
      rw [if_pos hall, List.dropWhile_cons_of_pos (by decide)]
    · -- otherwise the line feed stays inside
      have := hspace 10 (by simp)
      cases this
  have : pyInt (a ++ 10 :: e) = pyInt a := by
    unfold pyInt
    rw [hstrip]
  rw [this, ha] at hb
  exact Option.some.inj hb

/-- **Equal signed bytes carry equal unix times.** -/
theorem unixTime_eq_of_canonical_eq {r r' : Request} {v w : Int}
    (h : canonical r = canonical r') (hr : pyInt r.timestamp = some v)
    (hr' : pyInt r'.timestamp = some w) : v = w := by
  unfold canonical at h
  have h := (lineFeed_append_inj (lineFeed_notMem_encode r.command_line)
    (lineFeed_notMem_encode r'.command_line) h).2
  have h := (lineFeed_append_inj (lineFeed_notMem_encode r.path_line)
    (lineFeed_notMem_encode r'.path_line) h).2
  rcases encode_lineFeed_cases h with heq | ⟨e, heq⟩ | ⟨e, heq⟩
  · rw [heq, hr'] at hr
    exact (Option.some.inj hr).symm
  · exact pyInt_lineFeed_append hr (heq ▸ hr')
  · exact (pyInt_lineFeed_append hr' (heq ▸ hr)).symm

end ZtPlanet.Agent.Authorization
