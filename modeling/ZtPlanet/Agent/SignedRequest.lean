/-
# Signer and verifier

The client signs a text that it puts together from JavaScript strings in UTF-8; the agent puts
together its own from what arrives in Latin-1.  All parts in front of the body are graphic ASCII, so
the two texts are the same bytes (`canonical_presented`), no part holds the line feed that separates
it from the next, and the request line has three words.  With the body read back in full the request
is authorized, and the signed text determines the request (`signer_verifier_agree`).
-/
import ZtPlanet.Agent.Client
import ZtPlanet.Python.Decimal

namespace ZtPlanet.Agent.Client

open ZtPlanet.Js ZtPlanet.Lib ZtPlanet.Agent.Authorization

/-! ## 1. Graphic texts -/

/-- ASCII without white space and control characters. -/
def IsGraphic (s : JsString) : Prop := ∀ u ∈ s, 33 ≤ u.toNat ∧ u.toNat < 127

instance (s : JsString) : Decidable (IsGraphic s) := List.decidableBAll _ s

theorem IsGraphic.isAscii {s : JsString} (h : IsGraphic s) : IsAscii s := by
  intro u hu
  have := h u hu
  rw [UInt16.lt_iff_toNat_lt]
  exact Nat.lt_of_lt_of_le this.2 (by decide)

theorem IsGraphic.mem {s : JsString} (h : IsGraphic s) {c : UInt8} (hc : c ∈ latin1Bytes s) :
    33 ≤ c.toNat ∧ c.toNat < 127 := by
  obtain ⟨u, hu, rfl⟩ := List.mem_map.mp hc
  have := h u hu
  rw [UInt16.toNat_toUInt8]
  omega

theorem isGraphic_method (m : Method) : IsGraphic m.text := by
  cases m <;> decide

theorem isGraphic_of_isEndpoint {path : JsString} (h : isEndpoint path = true) :
    IsGraphic path := by
  simp only [isEndpoint, Bool.and_eq_true, beq_iff_eq, bne_iff_ne] at h
  obtain ⟨⟨hhead, -⟩, hrest⟩ := h
  intro u hu
  rw [← List.take_append_drop 4 path, hhead] at hu
  rcases List.mem_append.mp hu with hu | hu
  · exact (by decide : IsGraphic (js "/v1/")) u hu
  · have := List.all_eq_true.mp hrest u hu
    simp only [isPathUnit, Bool.or_eq_true, Bool.and_eq_true, decide_eq_true_eq, beq_iff_eq,
      UInt16.le_iff_toNat_le, ← UInt16.toNat_inj] at this
    simp at this
    omega

theorem isGraphic_decimal (n : Int) : IsGraphic (decimal n) := by
  have hdigits : IsGraphic ((Nat.toDigits 10 n.natAbs).map fun c => UInt16.ofNat c.toNat) := by
    intro u hu
    obtain ⟨c, hc, rfl⟩ := List.mem_map.mp hu
    exact Python.forall_mem_toDigits
      (P := fun c => 33 ≤ (UInt16.ofNat c.toNat).toNat ∧ (UInt16.ofNat c.toNat).toNat < 127)
      (by decide) (by decide) n.natAbs c hc
  unfold decimal
  dsimp only
  split
  · intro u hu
    rcases List.mem_cons.mp hu with rfl | hu
    · decide
    · exact hdigits u hu
  · exact hdigits

theorem isGraphic_timestamp (call : Call) : IsGraphic call.timestamp :=
  isGraphic_decimal call.seconds

theorem isGraphic_nonce (call : Call) : IsGraphic call.nonce :=
  forall_mem_base64url (P := fun u => 33 ≤ u.toNat ∧ u.toNat < 127) (by decide) call.random

theorem isGraphic_sanitize (actor : JsString) : IsGraphic (sanitize actor) := by
  intro u hu
  obtain ⟨v, -, rfl⟩ := List.mem_map.mp (List.mem_of_mem_take hu)
  split
  · rename_i hv
    simp only [isActorUnit, Bool.or_eq_true, Bool.and_eq_true, decide_eq_true_eq, beq_iff_eq,
      UInt16.le_iff_toNat_le, ← UInt16.toNat_inj] at hv
    simp at hv
    omega
  · decide

theorem isGraphic_safeActor (call : Call) : IsGraphic call.safeActor :=
  isGraphic_sanitize call.actor

/-! ## 2. Reading a text back -/

theorem dropWhile_of_forall {α : Type} {p : α → Bool} {l : List α} (h : ∀ c ∈ l, p c = false) :
    l.dropWhile p = l := by
  cases l with
  | nil => rfl
  | cons c l => rw [List.dropWhile_cons_of_neg (by rw [h c List.mem_cons_self]; decide)]

theorem trimWith_of_forall {isBlank : UInt8 → Bool} {text : Text}
    (h : ∀ c ∈ text, isBlank c = false) : trimWith isBlank text = text := by
  unfold trimWith
  rw [dropWhile_of_forall h, dropWhile_of_forall fun c hc => h c (List.mem_reverse.mp hc),
    List.reverse_reverse]

theorem trimWith_lineFeed {isBlank : UInt8 → Bool} {text : Text} (hlf : isBlank 10 = true)
    (h : ∀ c ∈ text, isBlank c = false) : trimWith isBlank (text ++ [10]) = text := by
  cases text with
  | nil => simp [trimWith, hlf]
  | cons c text =>
    have hfront : (c :: text ++ [10]).dropWhile isBlank = c :: text ++ [10] :=
      List.dropWhile_cons_of_neg (by rw [h c List.mem_cons_self]; decide)
    unfold trimWith
    rw [hfront, List.reverse_append, List.reverse_singleton, List.singleton_append,
      List.dropWhile_cons_of_pos hlf,
      dropWhile_of_forall fun d hd => h d (List.mem_reverse.mp hd), List.reverse_reverse]

theorem toNat_of_isHexDigit {c : UInt8} (h : isHexDigit c = true) :
    33 ≤ c.toNat ∧ c.toNat < 127 := by
  simp only [isHexDigit, isDigit, Bool.or_eq_true, Bool.and_eq_true, decide_eq_true_eq,
    UInt8.le_iff_toNat_le] at h
  simp at h
  omega

/-- The client and the agent take the same key from the file that the agent has created. -/
theorem clientSecret_eq {file : Text} (h : IsSecretFile file) :
    clientSecret file = .ok (agentSecret file) := by
  obtain ⟨token, rfl, hlen, hhex⟩ := h
  have hrange : ∀ c ∈ token, 33 ≤ c.toNat ∧ c.toNat < 127 := fun c hc =>
    toNat_of_isHexDigit (List.all_eq_true.mp hhex c hc)
  have hagent : agentSecret (token ++ [10]) = token := by
    refine trimWith_lineFeed (by decide) fun c hc => ?_
    have := hrange c hc
    simp [UInt8.le_iff_toNat_le, ← UInt8.toNat_inj]
    omega
  unfold clientSecret
  rw [hagent, trimWith_lineFeed (by decide) fun c hc => ?_]
  · dsimp only
    rw [if_pos ⟨hlen, hhex⟩]
  · have := hrange c hc
    simp [UInt8.le_iff_toNat_le, ← UInt8.toNat_inj]
    omega

/-- Graphic ASCII has one form on both sides. -/
theorem encode_latin1Bytes {s : JsString} (h : IsGraphic s) :
    encode (latin1Bytes s) = latin1Bytes s := by
  have hone : ∀ c ∈ latin1Bytes s, encodeChar c = [c] := by
    intro c hc
    have := (h.mem hc).2
    unfold encodeChar
    rw [if_pos (by
      rw [UInt8.lt_iff_toNat_lt]
      exact Nat.lt_of_lt_of_le this (by decide))]
  unfold encode
  rw [List.flatMap_congr hone, List.flatMap_singleton']

theorem lineFeed_notMem {s : JsString} (h : IsGraphic s) : 10 ∉ latin1Bytes s := by
  intro hm
  have := (h.mem hm).1
  exact absurd this (by decide)

/-! ## 3. Numbers -/

theorem readDigits_of_isDigit : ∀ {text : Text} {n : Nat} {b : Bool},
    (∀ c ∈ text, isDigit c = true) → (text ≠ [] ∨ b = true) →
      readDigits text n b = some (text.foldl (fun n c => 10 * n + (c.toNat - 48)) n)
  | [], n, b, _, hne => by
    have hb : b = true := hne.resolve_left fun h => h rfl
    rw [readDigits, if_pos hb]
    rfl
  | c :: text, n, b, h, _ => by
    have hc := h c List.mem_cons_self
    rw [readDigits, if_pos hc, List.foldl_cons]
    exact readDigits_of_isDigit (fun d hd => h d (List.mem_cons_of_mem c hd)) (.inr rfl)

/-- The byte of a digit. -/
def digitByte (c : Char) : UInt8 := (UInt16.ofNat c.toNat).toUInt8

theorem digitByte_of_mem_toDigits (n : Nat) : ∀ c ∈ Nat.toDigits 10 n,
    isDigit (digitByte c) = true ∧
      (digitByte c).toNat - 48 = Python.digitValue (Python.ofChar c) :=
  Python.forall_mem_toDigits
    (P := fun c => isDigit (digitByte c) = true ∧
      (digitByte c).toNat - 48 = Python.digitValue (Python.ofChar c))
    (by decide) (by decide) n

theorem foldl_digitByte : ∀ {digits : List Char}, (∀ c ∈ digits,
    (digitByte c).toNat - 48 = Python.digitValue (Python.ofChar c)) → ∀ n : Nat,
      (digits.map digitByte).foldl (fun n c => 10 * n + (c.toNat - 48)) n
        = (digits.map Python.ofChar).foldl (fun n c => 10 * n + Python.digitValue c) n
  | [], _, _ => rfl
  | c :: digits, h, n => by
    rw [List.map_cons, List.map_cons, List.foldl_cons, List.foldl_cons, h c List.mem_cons_self]
    exact foldl_digitByte (fun d hd => h d (List.mem_cons_of_mem c hd)) _

theorem readDigits_toDigits (n : Nat) :
    readDigits ((Nat.toDigits 10 n).map digitByte) 0 false = some n := by
  have hdigits := digitByte_of_mem_toDigits n
  rw [readDigits_of_isDigit ?_ (.inl (by simp [Nat.toDigits_ne_nil])),
    foldl_digitByte (fun c hc => (hdigits c hc).2)]
  · exact congrArg some (Python.ofDigits_decimal n)
  · intro b hb
    obtain ⟨c, hc, rfl⟩ := List.mem_map.mp hb
    exact (hdigits c hc).1

theorem latin1Bytes_decimal (n : Int) :
    latin1Bytes (decimal n) =
      if n < 0 then 45 :: (Nat.toDigits 10 n.natAbs).map digitByte
      else (Nat.toDigits 10 n.natAbs).map digitByte := by
  unfold decimal latin1Bytes
  dsimp only
  split
  · rw [List.map_cons, List.map_map]
    rfl
  · rw [List.map_map]
    rfl

theorem length_latin1Bytes_decimal {n : Int} {k : Nat} (hk : 0 < k) (h : n.natAbs < 10 ^ k) :
    (latin1Bytes (decimal n)).length ≤ k + 1 := by
  have hlen : (Nat.toDigits 10 n.natAbs).length ≤ k :=
    (Nat.length_toDigits_le_iff (by decide) hk).mpr h
  rw [latin1Bytes_decimal]
  split
  · rw [List.length_cons, List.length_map]
    exact Nat.succ_le_succ hlen
  · rw [List.length_map]
    exact Nat.le_succ_of_le hlen

/-- **`int()` reads what `toString()` writes.** -/
theorem pyInt_decimal {n : Int} {k : Nat} (hk : 0 < k) (hk' : k < 4300) (h : n.natAbs < 10 ^ k) :
    pyInt (latin1Bytes (decimal n)) = some n := by
  have hstrip : strip (latin1Bytes (decimal n)) = latin1Bytes (decimal n) := by
    refine trimWith_of_forall fun c hc => ?_
    have := (isGraphic_decimal n).mem hc
    simp [Authorization.isSpace, UInt8.le_iff_toNat_le, ← UInt8.toNat_inj]
    omega
  have hshort : ¬ ((latin1Bytes (decimal n)).filter isDigit).length > 4300 := by
    have hlen := length_latin1Bytes_decimal hk h
    have hle := List.length_filter_le isDigit (latin1Bytes (decimal n))
    omega
  clear h
  unfold pyInt
  rw [hstrip]
  dsimp only
  rw [if_neg hshort, latin1Bytes_decimal]
  by_cases hneg : n < 0
  · rw [if_pos hneg]
    have hvalue : Option.map (fun n => -Int.ofNat n) (readDigits ((Nat.toDigits 10 n.natAbs).map
        digitByte) 0 false) = some n := by
      rw [readDigits_toDigits, Option.map_some, Int.ofNat_eq_natCast]
      congr 1
      omega
    exact hvalue
  · have hvalue : Option.map Int.ofNat (readDigits ((Nat.toDigits 10 n.natAbs).map digitByte) 0
        false) = some n := by
      rw [readDigits_toDigits, Option.map_some, Int.ofNat_eq_natCast]
      congr 1
      omega
    rw [if_neg hneg]
    -- the first character is a digit, not a sign
    have hdigits := digitByte_of_mem_toDigits n.natAbs
    cases hlist : Nat.toDigits 10 n.natAbs with
    | nil => exact absurd hlist Nat.toDigits_ne_nil
    | cons c digits =>
      have hc := (hdigits c (by
        rw [hlist]
        exact List.mem_cons_self)).1
      rw [hlist] at hvalue
      rw [List.map_cons] at hvalue ⊢
      split
      · rename_i heq
        rw [(List.cons.inj heq).1] at hc
        cases hc
      · rename_i heq
        rw [(List.cons.inj heq).1] at hc
        cases hc
      · exact hvalue

/-! ## 4. What the agent reads of a request -/

theorem firstWord_append {text rest : Text} (h : ∀ c ∈ text, isWordSpace c = false) :
    firstWord (text ++ 32 :: rest) = text ∧
      afterFirstWord (text ++ 32 :: rest) = rest.dropWhile isWordSpace := by
  unfold firstWord afterFirstWord
  have hpos : ∀ c ∈ text, (!isWordSpace c) = true := fun c hc => by rw [h c hc]; rfl
  constructor
  · rw [List.takeWhile_append_of_pos hpos, List.takeWhile_cons_of_neg (by decide), List.append_nil]
  · rw [List.dropWhile_append_of_pos hpos, List.dropWhile_cons_of_neg (by decide),
      List.dropWhile_cons_of_pos (by decide)]

theorem IsGraphic.not_isWordSpace {s : JsString} (h : IsGraphic s) :
    ∀ c ∈ latin1Bytes s, isWordSpace c = false := by
  intro c hc
  have := h.mem hc
  simp [isWordSpace, UInt8.le_iff_toNat_le, ← UInt8.toNat_inj]
  omega

/-- The request line of a call has the method and the path for its first two words. -/
theorem command_request (call : Call) (signature : Text) :
    (call.request signature).command = latin1Bytes call.method.text :=
  (firstWord_append (isGraphic_method call.method).not_isWordSpace).1

theorem target_request {call : Call} (h : isEndpoint call.path = true) (signature : Text) :
    (call.request signature).target = latin1Bytes call.path := by
  have hspace := (isGraphic_of_isEndpoint h).not_isWordSpace
  simp only [isEndpoint, Bool.and_eq_true, beq_iff_eq] at h
  obtain ⟨rest, hrest⟩ : ∃ rest, latin1Bytes call.path = 47 :: 118 :: rest := by
    refine ⟨49 :: 47 :: latin1Bytes (call.path.drop 4), ?_⟩
    conv_lhs => rw [← List.take_append_drop 4 call.path, h.1.1]
    rfl
  have hline : (call.request signature).requestLine
      = latin1Bytes call.method.text ++ 32 :: (latin1Bytes call.path ++ 32 :: latin1 "HTTP/1.1") :=
    rfl
  unfold HttpRequest.target
  rw [hline, (firstWord_append (isGraphic_method call.method).not_isWordSpace).2, hrest,
    List.cons_append, List.dropWhile_cons_of_neg (by decide), ← List.cons_append, ← hrest,
    (firstWord_append hspace).1, hrest]
  rfl

/-- A header that a call sends comes back as it was sent. -/
theorem header_eq {m : HttpRequest} {name default : String} {key value : Text}
    (hfind : (m.headers.find? fun h => h.1.map lowerChar == (latin1 name).map lowerChar)
      = some (key, value))
    (hvalue : ∀ c ∈ value, 33 ≤ c.toNat) : m.header name default = value := by
  unfold HttpRequest.header
  rw [hfind]
  refine dropWhile_of_forall fun c hc => ?_
  have := hvalue c hc
  simp [← UInt8.toNat_inj]
  omega

section Headers

variable (call : Call) (signature : Text)

theorem contentLength_request :
    (call.request signature).header "Content-Length" "0"
      = latin1Bytes (decimal call.body.length) :=
  header_eq rfl fun _ hc => ((isGraphic_decimal _).mem hc).1

theorem timestamp_request :
    (call.request signature).header "X-ZT-Timestamp" "" = latin1Bytes call.timestamp :=
  header_eq rfl fun _ hc => ((isGraphic_timestamp call).mem hc).1

theorem nonce_request :
    (call.request signature).header "X-ZT-Nonce" "" = latin1Bytes call.nonce :=
  header_eq rfl fun _ hc => ((isGraphic_nonce call).mem hc).1

theorem signature_request {signature : Text} (h : ∀ c ∈ signature, isHexDigit c = true) :
    (call.request signature).header "X-ZT-Signature" "" = signature :=
  header_eq rfl fun c hc => (toNat_of_isHexDigit (h c hc)).1

theorem actor_request :
    (call.request signature).header "X-ZT-Actor" "unknown" = latin1Bytes call.safeActor :=
  header_eq rfl fun _ hc => ((isGraphic_safeActor call).mem hc).1

end Headers

/-! ## 5. Agreement -/

/-- The signed bytes of a call, part by part. -/
theorem canonical_call {call : Call} (h : isEndpoint call.path = true) :
    call.canonical =
      latin1Bytes call.method.text ++ 10 :: (latin1Bytes call.path ++ 10 ::
        (latin1Bytes call.timestamp ++ 10 :: (latin1Bytes call.nonce ++ 10 ::
          (latin1Bytes call.safeActor ++ 10 :: call.body)))) := by
  have hmethod := (isGraphic_method call.method).isAscii
  have hpath := (isGraphic_of_isEndpoint h).isAscii
  have htime := (isGraphic_timestamp call).isAscii
  have hnonce := (isGraphic_nonce call).isAscii
  have hactor := (isGraphic_safeActor call).isAscii
  have hlf : IsAscii (js "\n") := by decide
  unfold Call.canonical
  rw [utf8_of_isAscii ((((((((((hmethod.append hlf).append hpath).append hlf).append htime).append
    hlf).append hnonce).append hlf).append hactor).append hlf))]
  simp only [latin1Bytes, List.map_append, List.append_assoc]
  rfl

/-- **The agent signs the same bytes.** -/
theorem canonical_presented {call : Call} (h : isEndpoint call.path = true) (signature : Text) :
    canonical ((call.request signature).presented call.body) = call.canonical := by
  unfold canonical HttpRequest.presented
  dsimp only
  rw [command_request, target_request h, timestamp_request, nonce_request, actor_request,
    encode_latin1Bytes (isGraphic_method call.method),
    encode_latin1Bytes (isGraphic_of_isEndpoint h), encode_latin1Bytes (isGraphic_timestamp call),
    encode_latin1Bytes (isGraphic_nonce call), encode_latin1Bytes (isGraphic_safeActor call),
    canonical_call h]

/-- The calls that the agent serves: a GET carries no payload, the request line with its line end
has at most 65536 bytes, and the body at most 1 MiB. -/
structure Call.Served (call : Call) : Prop where
  payload : call.method = .get → call.payload = none
  line : call.method.text.length + call.path.length + 12 ≤ 65536
  body : call.body.length ≤ maxBody

theorem readBody_request {call : Call} (h : call.body.length ≤ maxBody) (signature : Text) :
    (call.request signature).readBody = .ok call.body := by
  have hbound : (call.body.length : Int).natAbs < 10 ^ 10 := by
    unfold maxBody at h
    omega
  unfold HttpRequest.readBody
  rw [contentLength_request, pyInt_decimal (by decide) (by decide) hbound]
  dsimp only
  rw [if_neg (by omega), Int.toNat_natCast]
  exact congrArg Except.ok (List.take_length (l := call.body))

theorem length_requestLine (call : Call) (signature : Text) :
    (call.request signature).requestLine.length + 2
      = call.method.text.length + call.path.length + 12 := by
  simp only [HttpRequest.requestLine, Call.request, List.length_append, List.length_cons,
    latin1Bytes, List.length_map]
  rw [show (latin1 " HTTP/1.1").length = 9 from rfl]
  omega

theorem receive_request {call : Call} (h : call.Served) (signature : Text) :
    (call.request signature).receive = .ok ((call.request signature).presented call.body) := by
  unfold HttpRequest.receive
  rw [if_neg (by
    rw [length_requestLine]
    exact Nat.not_lt.mpr h.line), command_request]
  cases hmethod : call.method with
  | get =>
    have hbody : call.body = [] := by
      unfold Call.body
      rw [h.payload hmethod]
    rw [if_pos (by rfl), hbody]
  | post => rw [if_neg (by decide), if_pos (by rfl), readBody_request h.body]

/-! ## 6. Acceptance -/

/-- Whatever the server has done so far: within the window around the time of signing the request
passes to the lock, and there it is authorized unless its nonce has been used in the last 60 s. -/
structure Accepted (mac : List UInt8 → Text) (r : Request) (seconds : Int) : Prop where
  present : ∀ (s : Server) (t : ℚ), s.clock ≤ t → (truncate t - seconds).natAbs ≤ 30 →
    step mac s (.present r t) = some { s with clock := t, calls := s.calls ++ [.waiting r] }
  enter : ∀ (s : Server) (i : Nat) (t : ℚ), s.calls[i]? = some (.waiting r) → s.clock ≤ t →
    (∀ seen, s.nonces.get? r.nonce = some seen → 60 < t - seen) →
      ∃ s', step mac s (.enter i t) = some s' ∧ s'.calls[i]? = some (.done .authorized) ∧
        s'.authorized = s.authorized ++ [(r, t)]

theorem nonceShape_nonce (call : Call) : nonceShape (latin1Bytes call.nonce) = true := by
  have hlen : (latin1Bytes call.nonce).length = 32 := by
    rw [latin1Bytes, List.length_map, Call.nonce, length_base64url, call.random_length]
  unfold nonceShape
  rw [hlen, Bool.and_eq_true]
  refine ⟨by decide, List.all_eq_true.mpr fun c hc => ?_⟩
  obtain ⟨u, hu, rfl⟩ := List.mem_map.mp hc
  exact forall_mem_base64url (P := fun u => ((65 ≤ u.toUInt8 && u.toUInt8 ≤ 90) ||
    (97 ≤ u.toUInt8 && u.toUInt8 ≤ 122) || isDigit u.toUInt8 || u.toUInt8 == 95 ||
      u.toUInt8 == 45) = true) (by decide) call.random u hu

/-- What `authorized` does with a request whose parts are in order. -/
theorem accepted_of_signed {mac : List UInt8 → Text} {r : Request} {seconds : Int}
    (htime : pyInt r.timestamp = some seconds) (hnonce : nonceShape r.nonce = true)
    (hascii : r.signature.all (· < 0x80) = true) (hsigned : mac (canonical r) = r.signature) :
    Accepted mac r seconds where
  present s t hclock hwindow := by
    have hcheck : precheck r t = none := by
      unfold precheck
      rw [htime]
      dsimp only
      rw [if_neg (by
        rintro (hlate | hshape)
        · exact absurd hwindow (Nat.not_le.mpr hlate)
        · rw [hnonce] at hshape
          cases hshape)]
    unfold step
    dsimp only
    rw [if_pos hclock, hcheck]
  enter s i t hwaiting hclock hunused := by
    have hdropped : ¬ (s.nonces.filter fun _ seen => decide (t - seen ≤ 60)).contains r.nonce
        = true := by
      intro hc
      obtain ⟨seen, hseen⟩ := Dict.contains_iff.mp hc
      rw [Dict.get?_filter] at hseen
      obtain ⟨hget, hyoung⟩ := Option.filter_eq_some_iff.mp hseen
      exact absurd (hunused seen hget) (not_lt.mpr (by simpa using hyoung))
    have hadmit : (admitRequest mac s.nonces r t).2 = .authorized := by
      unfold admitRequest
      dsimp only
      rw [if_neg hdropped, if_neg (by rw [hascii]; decide), if_neg (not_not.mpr hsigned)]
    have hi := (List.getElem?_eq_some_iff.mp hwaiting).1
    unfold step
    dsimp only
    rw [hwaiting]
    dsimp only
    rw [if_pos hclock]
    refine ⟨_, rfl, ?_, ?_⟩
    · dsimp only
      rw [List.getElem?_set_self hi, hadmit]
    · dsimp only
      rw [if_pos hadmit]

theorem accepted_request {call : Call} (h : isEndpoint call.path = true)
    {mac : List UInt8 → Text} (hhex : ∀ c ∈ mac call.canonical, isHexDigit c = true) :
    Accepted mac ((call.request (mac call.canonical)).presented call.body) call.seconds := by
  refine accepted_of_signed ?_ ?_ ?_ ?_
  · have hrange : call.seconds.natAbs < 10 ^ 16 := by
      have := call.now_range
      unfold Call.seconds
      omega
    exact (congrArg pyInt (timestamp_request call (mac call.canonical))).trans
      (pyInt_decimal (by decide) (by decide) hrange)
  · exact (congrArg nonceShape (nonce_request call (mac call.canonical))).trans
      (nonceShape_nonce call)
  · refine (congrArg (List.all · (· < 0x80)) (signature_request call hhex)).trans ?_
    refine List.all_eq_true.mpr fun c hc => ?_
    have := (toNat_of_isHexDigit (hhex c hc)).2
    rw [decide_eq_true_eq, UInt8.lt_iff_toNat_lt]
    exact Nat.lt_of_lt_of_le this (by decide)
  · rw [canonical_presented h]
    exact (signature_request call hhex).symm

/-! ## 7. What a signature stands for -/

/-- **The signed bytes determine the request.** -/
theorem request_eq_of_canonical_eq {call call' : Call} (h : isEndpoint call.path = true)
    (h' : isEndpoint call'.path = true) (heq : call.canonical = call'.canonical)
    (signature : Text) : call.request signature = call'.request signature := by
  rw [canonical_call h, canonical_call h'] at heq
  obtain ⟨hmethod, heq⟩ := lineFeed_append_inj (lineFeed_notMem (isGraphic_method _))
    (lineFeed_notMem (isGraphic_method _)) heq
  obtain ⟨hpath, heq⟩ := lineFeed_append_inj (lineFeed_notMem (isGraphic_of_isEndpoint h))
    (lineFeed_notMem (isGraphic_of_isEndpoint h')) heq
  obtain ⟨htime, heq⟩ := lineFeed_append_inj (lineFeed_notMem (isGraphic_timestamp call))
    (lineFeed_notMem (isGraphic_timestamp call')) heq
  obtain ⟨hnonce, heq⟩ := lineFeed_append_inj (lineFeed_notMem (isGraphic_nonce _))
    (lineFeed_notMem (isGraphic_nonce _)) heq
  obtain ⟨hactor, hbody⟩ := lineFeed_append_inj (lineFeed_notMem (isGraphic_safeActor call))
    (lineFeed_notMem (isGraphic_safeActor call')) heq
  unfold Call.request
  rw [hmethod, hpath, htime, hnonce, hactor, hbody]

theorem callAgent_eq {hmac : Text → List UInt8 → Text} {file : Text} (hfile : IsSecretFile file)
    (call : Call) :
    callAgent hmac file call =
      if isEndpoint call.path = false then .error "Invalid configuration agent endpoint"
      else .ok (call.request (hmac (agentSecret file) call.canonical)) := by
  unfold callAgent
  rw [clientSecret_eq hfile]

/-- **Signer and verifier agree, and a signature stands for one request.**  With the secret file
that the agent has created: of every call on an endpoint that the agent serves, the agent puts
together the bytes that the client has signed and accepts the request; and two calls whose
signatures are equal, where the digest does not collide on what they sign, send the same request:
method, path, headers and body. -/
theorem signer_verifier_agree {hmac : Text → List UInt8 → Text}
    (hhex : ∀ key message, ∀ c ∈ hmac key message, isHexDigit c = true) {file : Text}
    (hfile : IsSecretFile file) :
    (∀ call : Call, isEndpoint call.path = true → call.Served →
      ∃ m r, callAgent hmac file call = .ok m ∧ m.receive = .ok r ∧
        canonical r = call.canonical ∧ Accepted (hmac (agentSecret file)) r call.seconds) ∧
    ∀ (call call' : Call) (m m' : HttpRequest),
      callAgent hmac file call = .ok m → callAgent hmac file call' = .ok m' →
        (hmac (agentSecret file) call.canonical = hmac (agentSecret file) call'.canonical →
          call.canonical = call'.canonical) →
        m.header "X-ZT-Signature" "" = m'.header "X-ZT-Signature" "" → m = m' := by
  constructor
  · intro call hpath hserved
    refine ⟨call.request (hmac (agentSecret file) call.canonical), _, ?_,
      receive_request hserved _, canonical_presented hpath _, ?_⟩
    · rw [callAgent_eq hfile, if_neg (by rw [hpath]; decide)]
    · exact accepted_request hpath (hhex _ _)
  · intro call call' m m' hm hm' hinj hsignature
    rw [callAgent_eq hfile] at hm hm'
    split at hm
    · cases hm
    · rename_i hpath
      split at hm'
      · cases hm'
      · rename_i hpath'
        cases hm
        cases hm'
        rw [signature_request call (hhex _ _), signature_request call' (hhex _ _)] at hsignature
        rw [← hsignature]
        exact request_eq_of_canonical_eq (by simpa using hpath) (by simpa using hpath')
          (hinj hsignature) _

def exampleSecret : Text :=
  latin1 "0123456789abcdef0123456789abcdef0123456789abcdef0123456789abcdef"

/-- A call made at the unix time 1700000000. -/
def exampleCall (method : Method) (path : JsString) (payload : String) (actor : String) :
    Call where
  method := method
  path := path
  payload := some (js payload)
  actor := js actor
  now := 1700000000123
  random := [0, 1, 2, 3, 4, 5, 6, 7, 8, 9, 10, 11, 12, 13, 14, 15, 16, 17, 18, 19, 20, 21, 22, 23]
  now_range := by decide
  random_length := rfl

def validateCall (actor : String) : Call :=
  exampleCall .post (js "/v1/validate") "\x7b\"config\":\x7b\x7d\x7d" actor

/-- A GET with a payload. -/
def statusCall : Call := exampleCall .get (js "/v1/status") "\x7b\x7d" "ztnet"

/-- A call whose path is one byte too long for the agent's server. -/
def longCall : Call :=
  exampleCall .post (js "/v1/" ++ List.replicate 65517 97) "\x7b\x7d" "ztnet"

/-- HMAC-SHA256 under that secret, on the messages of the examples. -/
def exampleHmac (key : Text) (message : List UInt8) : Text :=
  if key ≠ exampleSecret then []
  else if message = (validateCall "ops_team").canonical then
    latin1 "62d93544042513a069d54dd5a3591fa0de4bd50518075140a885d717b6ffd0f4"
  else if message = statusCall.canonical then
    latin1 "3ed275db3a54293b5555201a2791b867d3ad3929540332a437398b313532c569"
  else if message = canonical ((statusCall.request []).presented []) then
    latin1 "96d9689ff2d3cc29e0506571e9642941e80268f7c7c38bcdc8b6e22727154c34"
  else []

theorem exampleHmac_hex (key : Text) (message : List UInt8) :
    ∀ c ∈ exampleHmac key message, isHexDigit c = true := by
  intro c hc
  refine List.all_eq_true.mp ?_ c hc
  unfold exampleHmac
  repeat' split
  all_goals decide +kernel

theorem isSecretFile_example : IsSecretFile (exampleSecret ++ [10]) :=
  ⟨exampleSecret, rfl, by decide, by decide⟩

/-- A call by the actor "ops team" is accepted, and "ops_team" sends the same request. -/
theorem signer_verifier_agree_validate :
    (∃ m r, callAgent exampleHmac (exampleSecret ++ [10]) (validateCall "ops team") = .ok m ∧
      m.receive = .ok r ∧ canonical r = (validateCall "ops team").canonical ∧
      Accepted (exampleHmac (agentSecret (exampleSecret ++ [10]))) r 1700000000) ∧
    callAgent exampleHmac (exampleSecret ++ [10]) (validateCall "ops team")
      = callAgent exampleHmac (exampleSecret ++ [10]) (validateCall "ops_team") := by
  obtain ⟨hagree, hbind⟩ := signer_verifier_agree exampleHmac_hex isSecretFile_example
  refine ⟨hagree (validateCall "ops team") (by decide) ⟨by decide, by decide, by decide⟩, ?_⟩
  have hcall : ∀ actor, callAgent exampleHmac (exampleSecret ++ [10]) (validateCall actor)
      = .ok ((validateCall actor).request
        (exampleHmac (agentSecret (exampleSecret ++ [10])) (validateCall actor).canonical)) :=
    fun actor => (callAgent_eq isSecretFile_example _).trans
      (if_neg (by rw [show isEndpoint (validateCall actor).path = true from rfl]; decide))
  rw [hcall, hcall]
  exact congrArg Except.ok (hbind _ _ _ _ (hcall _) (hcall _) (fun _ => by decide +kernel)
    (by decide +kernel))

theorem isEndpoint_replicate (n : Nat) :
    isEndpoint (js "/v1/" ++ List.replicate (n + 1) 97) = true := by
  unfold isEndpoint
  rw [show 4 = (js "/v1/").length from rfl, List.take_left, List.drop_left, List.replicate_succ,
    List.all_cons]
  have hall : (List.replicate n 97).all isPathUnit = true := by
    refine List.all_eq_true.mpr fun u hu => ?_
    rw [List.eq_of_mem_replicate hu]
    decide
  rw [hall]
  rfl

/-- **A GET with a payload is refused.**  The client signs the payload, the agent signs an empty
body.  And a path that is too long never reaches `authorized`. -/
theorem get_payload_refused :
    (∃ m r, callAgent exampleHmac (exampleSecret ++ [10]) statusCall = .ok m ∧
      m.receive = .ok r ∧ canonical r ≠ statusCall.canonical ∧ precheck r 1700000000 = none ∧
      admitRequest (exampleHmac exampleSecret) Dict.empty r 1700000000
        = (Dict.empty, .refused "invalid authentication")) ∧
    ∃ m, callAgent exampleHmac (exampleSecret ++ [10]) longCall = .ok m ∧
      m.receive = .error 414 := by
  constructor
  · refine ⟨statusCall.request (exampleHmac exampleSecret statusCall.canonical),
      (statusCall.request (exampleHmac exampleSecret statusCall.canonical)).presented [],
      ?_, ?_, ?_, ?_, ?_⟩
    · decide +kernel
    · decide +kernel
    · decide +kernel
    · decide +kernel
    · decide +kernel
  · refine ⟨longCall.request (exampleHmac (agentSecret (exampleSecret ++ [10])) longCall.canonical),
      ?_, ?_⟩
    · rw [callAgent_eq isSecretFile_example,
        if_neg (by rw [show isEndpoint longCall.path = true from isEndpoint_replicate _]; decide)]
    · unfold HttpRequest.receive
      rw [length_requestLine, if_pos (by
        rw [show longCall.path.length = 4 + 65517 by
          rw [longCall, exampleCall, List.length_append, List.length_replicate]
          rfl]
        decide)]

end ZtPlanet.Agent.Client
