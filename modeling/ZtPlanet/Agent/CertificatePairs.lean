/-
# The installed pairs

A new pair is moved into place by two renames, and no lock keeps another request out between them.
So an installed certificate and an installed key may come from different requests: for a moment in
every request, and for good where the requests move their keys in another order than their
certificates, or where a request fails between the two.  A request that fails behind its second
rename raises although its pair is installed.

`Orderly` excludes just that: no request fails while a file of its own is installed, and a request
moves its key only while the installed certificate is one whose own key is still to come, its own
or another's.  It is exact (`pairs_match_iff`): a run consists of such steps if and only if, all
along it, every slot has a pair from one request or a certificate whose key is still to be moved,
and no request that has failed has left a file behind.
-/
import ZtPlanet.Agent.Certificates

namespace ZtPlanet.Agent.Certificates

open ZtPlanet.Lib ZtPlanet.Python

variable {openssl : OpenSsl} {texts : Slot → Part → Option PyStr} {w w' : World}
  {request request' : Request} {files files' : Files} {i j : Nat} {fails : Bool}

/-! ## 1. What a step can do -/

/-- The two texts of a request belong together: openssl has made them in one run, or has found the
same public key in both. -/
def Validated (openssl : OpenSsl) : Input → Prop
  | .selfSigned _ _ => True
  | .custom certificate privateKey => ∃ publicKey,
      ((Input.custom certificate privateKey).text .certificate).bind
        (openssl.publicKey .certificate) = some publicKey ∧
      ((Input.custom certificate privateKey).text .key).bind (openssl.publicKey .key) =
        some publicKey

theorem Validated.text {input : Input} (h : Validated openssl input) (part : Part) :
    ∃ text, input.text part = some text := by
  cases input with
  | selfSigned names generated => exact ⟨generated part, rfl⟩
  | custom certificate privateKey =>
    obtain ⟨publicKey, hcertificate, hkey⟩ := h
    cases part with
    | certificate =>
      obtain ⟨text, htext, -⟩ := Option.bind_eq_some_iff.mp hcertificate
      exact ⟨text, htext⟩
    | key =>
      obtain ⟨text, htext, -⟩ := Option.bind_eq_some_iff.mp hkey
      exact ⟨text, htext⟩

/-- What a request has in its directory when so many operations are still to come. -/
def Prepared (openssl : OpenSsl) (input : Input) (temporary : Part → Option PyStr) :
    List Op → Prop
  | [] => temporary = input.text ∧ Validated openssl input
  | .checkEnd :: ops => temporary = input.text ∧ Validated openssl input ∧ ops = []
  | .comparePublicKeys :: ops => temporary = input.text ∧ ops = [.checkEnd]
  | .write .key :: ops => temporary .certificate = input.text .certificate ∧
      ops = [.comparePublicKeys, .checkEnd]
  | .write .certificate :: ops => ops = [.write .key, .comparePublicKeys, .checkEnd]
  | .generate :: ops => input.slot = .selfSigned ∧ ops = []
  | _ :: _ => False

/-- What a request has in its directory at the point it has reached. -/
def Ready (openssl : OpenSsl) (request : Request) : Prop :=
  match request.phase with
  | .preparing ops => Prepared openssl request.input request.temporary ops
  | .halfway => request.temporary .key = request.input.text .key ∧ Validated openssl request.input
  | _ => True

/-- Behind the first rename. -/
def Phase.moved : Phase → Bool
  | .entering | .preparing _ => false
  | _ => true

theorem ready_of_stopped (h : request.phase.stopped = true) : Ready openssl request := by
  obtain ⟨input, temporary, phase⟩ := request
  cases phase with
  | failed => trivial
  | raised => trivial
  | entering => cases h
  | preparing ops => cases h
  | halfway => cases h
  | completing ops => cases h
  | auditing => cases h
  | returned => cases h

/-- What a step of request `i` does to the request and to the installed files. -/
inductive Effect (openssl : OpenSsl) (i : Nat) (fails : Bool) (request : Request) (files : Files) :
    Request → Files → Prop where
  | goesOn {request' : Request} (hinput : request'.input = request.input)
      (hhalfway : request.phase ≠ .halfway) (hhalfway' : request'.phase ≠ .halfway)
      (hstopped : request'.phase.stopped = request.phase.stopped)
      (hmoved : request.phase.moved = true → request'.phase.moved = true)
      (hready : Ready openssl request')
      (hfails : fails = true → request.phase.canFail = false) :
      Effect openssl i fails request files request' files
  | stops {phase : Phase} (hphase : phase.stopped = true) (hhalfway : phase ≠ .halfway)
      (hmoved : phase.moved = true) (hnot : request.phase.stopped = false)
      (hfails : if fails then request.phase.canFail = true else request.phase.moved = false) :
      Effect openssl i fails request files { request with phase := phase } files
  | movesCertificate {text : PyStr} (hphase : request.phase = .preparing [])
      (hfails : fails = false) (htext : request.input.text .certificate = some text)
      (hkey : request.temporary .key = request.input.text .key)
      (hvalid : Validated openssl request.input) :
      Effect openssl i fails request files
        { request.put .certificate none with phase := .halfway }
        (files.replace request.input.slot .certificate ⟨text, some i⟩)
  | movesKey {text : PyStr} (hphase : request.phase = .halfway) (hfails : fails = false)
      (htext : request.input.text .key = some text) (hvalid : Validated openssl request.input) :
      Effect openssl i fails request files
        { request.put .key none with phase := .completing request.input.completion }
        (files.replace request.input.slot .key ⟨text, some i⟩)

/-- Each operation prepares for the next. -/
theorem prepared_of_perform {op : Op} {ops : List Op}
    (h : Prepared openssl request.input request.temporary (op :: ops))
    (hop : perform openssl request op = some request') :
    Prepared openssl request'.input request'.temporary ops ∧ request'.input = request.input := by
  obtain ⟨input, temporary, phase⟩ := request
  cases op with
  | generate =>
    obtain ⟨hslot, rfl⟩ := h
    obtain rfl := Option.some.inj hop
    refine ⟨⟨rfl, ?_⟩, rfl⟩
    cases input with
    | selfSigned names generated => trivial
    | custom certificate privateKey => cases hslot
  | write part =>
    obtain rfl := Option.some.inj hop
    cases part with
    | certificate =>
      obtain rfl : ops = _ := h
      exact ⟨⟨rfl, rfl⟩, rfl⟩
    | key =>
      obtain ⟨hcertificate, rfl⟩ := h
      refine ⟨⟨funext fun part => ?_, rfl⟩, rfl⟩
      cases part with
      | certificate => exact hcertificate
      | key => rfl
  | comparePublicKeys =>
    obtain ⟨htemporary, rfl⟩ : temporary = input.text ∧ ops = [.checkEnd] := h
    subst htemporary
    obtain ⟨certKey, hcertKey, hop⟩ := Option.bind_eq_some_iff.mp hop
    obtain ⟨privatePublic, hprivate, hop⟩ := Option.bind_eq_some_iff.mp hop
    split at hop
    next heq =>
      obtain rfl := Option.some.inj hop
      refine ⟨⟨rfl, ?_, rfl⟩, rfl⟩
      cases input with
      | selfSigned names generated => trivial
      | custom certificate privateKey => exact ⟨certKey, hcertKey, heq ▸ hprivate⟩
    next => cases hop
  | checkEnd =>
    obtain ⟨htemporary, hvalid, rfl⟩ := h
    obtain rfl := Option.some.inj hop
    exact ⟨⟨htemporary, hvalid⟩, rfl⟩
  | chmod part => exact h.elim
  | makeRuntimeReadable part => exact h.elim
  | makeGatewayReadable part => exact h.elim

theorem prepared_preparation (input : Input) (temporary : Part → Option PyStr) :
    Prepared openssl input temporary input.preparation := by
  cases input with
  | selfSigned names generated => exact ⟨rfl, rfl⟩
  | custom certificate privateKey => exact rfl

/-- A step goes on, stops with an exception, or moves a file. -/
theorem effect_of_advance (hready : Ready openssl request)
    (h : advance openssl i fails request files = some (request', files')) :
    Effect openssl i fails request files request' files' := by
  obtain ⟨input, temporary, phase⟩ := request
  unfold advance at h
  cases phase with
  | entering =>
    cases fails with
    | true =>
      cases h
      exact .stops rfl (by decide) rfl rfl rfl
    | false =>
      cases h
      exact .goesOn rfl (by simp) (by simp) rfl (by simp [Phase.moved])
        (prepared_preparation _ _) (by simp)
  | preparing ops =>
    cases fails with
    | true =>
      cases ops with
      | nil =>
        cases h
        exact .stops rfl (by decide) rfl rfl rfl
      | cons op ops =>
        cases h
        exact .stops rfl (by decide) rfl rfl rfl
    | false =>
      cases ops with
      | nil =>
        obtain ⟨htemporary, hvalid⟩ : temporary = input.text ∧ Validated openssl input := hready
        obtain ⟨text, htext⟩ := hvalid.text .certificate
        have hfile : temporary .certificate = some text := htemporary ▸ htext
        dsimp only [install] at h
        rw [hfile] at h
        cases h
        exact .movesCertificate rfl rfl htext (congrFun htemporary .key) hvalid
      | cons op ops =>
        dsimp only at h
        cases hop : perform openssl ⟨input, temporary, .preparing (op :: ops)⟩ op with
        | none =>
          rw [hop] at h
          cases h
          exact .stops rfl (by decide) rfl rfl rfl
        | some next =>
          rw [hop] at h
          cases h
          obtain ⟨hnext, hinput⟩ := prepared_of_perform hready hop
          exact .goesOn hinput (by simp) (by simp) rfl (by simp [Phase.moved]) hnext (by simp)
  | halfway =>
    cases fails with
    | true =>
      cases h
      exact .stops rfl (by decide) rfl rfl rfl
    | false =>
      obtain ⟨htemporary, hvalid⟩ := hready
      obtain ⟨text, htext⟩ := hvalid.text .key
      have hfile : temporary .key = some text := htemporary.trans htext
      dsimp only [install] at h
      rw [hfile] at h
      cases h
      exact .movesKey rfl rfl htext hvalid
  | completing ops =>
    cases ops with
    | nil =>
      cases h
      exact .goesOn rfl (by simp) (by simp) rfl (fun _ => rfl) trivial fun _ => rfl
    | cons op ops =>
      cases fails with
      | true =>
        cases h
        exact .stops rfl (by decide) rfl rfl rfl
      | false =>
        cases h
        exact .goesOn rfl (by simp) (by simp) rfl (fun _ => rfl) trivial (by simp)
  | failed =>
    cases h
    exact .goesOn rfl (by simp) (by simp) rfl (fun _ => rfl) trivial fun _ => rfl
  | auditing =>
    cases fails with
    | true =>
      cases h
      exact .stops rfl (by decide) rfl rfl rfl
    | false =>
      cases h
      exact .goesOn rfl (by simp) (by simp) rfl (fun _ => rfl) trivial (by simp)
  | returned => cases h
  | raised => cases h

/-- A step of the server is one of a request. -/
theorem exists_advance_of_step (h : (machine openssl).step w (.step i fails) = some w') :
    ∃ request request' files', w.requests[i]? = some request ∧
      advance openssl i fails request w.files = some (request', files') ∧
      w' = ⟨files', w.requests.set i request'⟩ := by
  obtain ⟨request, hi, h⟩ := Option.bind_eq_some_iff.mp h
  cases hadvance : advance openssl i fails request w.files with
  | none =>
    rw [hadvance] at h
    cases h
  | some next =>
    obtain ⟨request', files'⟩ := next
    rw [hadvance] at h
    exact ⟨request, request', files', hi, hadvance, (Option.some.inj h).symm⟩

/-! ## 2. Where the installed files are from -/

/-- The file is a part of the validated pair of this request. -/
structure Provides (openssl : OpenSsl) (slot : Slot) (part : Part) (text : PyStr)
    (request : Request) : Prop where
  slot : request.input.slot = slot
  valid : Validated openssl request.input
  text : request.input.text part = some text
  moved : request.phase.moved = true

/-- What holds whatever the requests do. -/
structure Sane (openssl : OpenSsl) (texts : Slot → Part → Option PyStr) (w : World) : Prop where
  ready : ∀ (i : Nat) (request : Request), w.requests[i]? = some request → Ready openssl request
  provided : ∀ (slot : Slot) (part : Part) (text : PyStr) (i : Nat),
    w.files slot part = some ⟨text, some i⟩ →
    ∃ request, w.requests[i]? = some request ∧ Provides openssl slot part text request
  untouched : ∀ slot part, w.owner slot part = none →
    w.files slot part = (initial texts).files slot part

namespace World

theorem reached_append {P : Phase → Prop} {request : Request} :
    reached { w with requests := w.requests ++ [request] } P j ↔
      w.reached P j ∨ j = w.requests.length ∧ P request.phase := by
  unfold reached
  constructor
  · rintro ⟨r, hr, hP⟩
    rcases lt_trichotomy j w.requests.length with hlt | rfl | hgt
    · rw [List.getElem?_append_left hlt] at hr
      exact .inl ⟨r, hr, hP⟩
    · rw [List.getElem?_concat_length] at hr
      obtain rfl := Option.some.inj hr
      exact .inr ⟨rfl, hP⟩
    · rw [List.getElem?_eq_none (by simp; omega)] at hr
      cases hr
  · rintro (⟨r, hr, hP⟩ | ⟨rfl, hP⟩)
    · have hlt := (List.getElem?_eq_some_iff.mp hr).1
      exact ⟨r, (List.getElem?_append_left hlt).trans hr, hP⟩
    · exact ⟨request, List.getElem?_concat_length, hP⟩

theorem reached_set {P : Phase → Prop} (hi : w.requests[i]? = some request) :
    reached ⟨files', w.requests.set i request'⟩ P j ↔
      if j = i then P request'.phase else w.reached P j := by
  have hlt := (List.getElem?_eq_some_iff.mp hi).1
  unfold reached
  dsimp only
  by_cases hj : j = i
  · subst hj
    rw [if_pos rfl, List.getElem?_set_self hlt]
    simp
  · rw [if_neg hj, List.getElem?_set_ne (Ne.symm hj)]

end World

/-- A request that comes later provides what it provided. -/
theorem provided_set {slot : Slot} {part : Part} {text : PyStr}
    (hi : w.requests[i]? = some request) (hinput : request'.input = request.input)
    (hmoved : request.phase.moved = true → request'.phase.moved = true)
    (h : ∃ r, w.requests[j]? = some r ∧ Provides openssl slot part text r) :
    ∃ r, (w.requests.set i request')[j]? = some r ∧ Provides openssl slot part text r := by
  obtain ⟨r, hr, hprovides⟩ := h
  by_cases hj : j = i
  · subst hj
    obtain rfl : request = r := Option.some.inj (hi.symm.trans hr)
    have hlt := (List.getElem?_eq_some_iff.mp hi).1
    refine ⟨request', List.getElem?_set_self hlt, ?_, ?_, ?_, hmoved hprovides.moved⟩
    · exact hinput ▸ hprovides.slot
    · exact hinput ▸ hprovides.valid
    · exact hinput ▸ hprovides.text
  · exact ⟨r, (List.getElem?_set_ne (Ne.symm hj)).trans hr, hprovides⟩

theorem ready_set (hw : Sane openssl texts w) (hi : w.requests[i]? = some request)
    (hready : Ready openssl request') {r : Request}
    (hr : (w.requests.set i request')[j]? = some r) : Ready openssl r := by
  by_cases hj : j = i
  · subst hj
    rw [List.getElem?_set_self (List.getElem?_eq_some_iff.mp hi).1] at hr
    exact Option.some.inj hr ▸ hready
  · rw [List.getElem?_set_ne (Ne.symm hj)] at hr
    exact hw.ready j r hr

theorem replace_apply {slot slot' : Slot} {part part' : Part} {file : Installed} :
    files.replace slot part file slot' part' =
      if slot' = slot ∧ part' = part then some file else files slot' part' := rfl

/-- Files that are left alone. -/
theorem sane_set (hw : Sane openssl texts w) (hi : w.requests[i]? = some request)
    (hinput : request'.input = request.input)
    (hmoved : request.phase.moved = true → request'.phase.moved = true)
    (hready : Ready openssl request') :
    Sane openssl texts ⟨w.files, w.requests.set i request'⟩ where
  ready _ _ hr := ready_set hw hi hready hr
  provided slot part text j hfile :=
    provided_set hi hinput hmoved (hw.provided slot part text j hfile)
  untouched := hw.untouched

/-- A file that is moved into place. -/
theorem sane_replace {part : Part} {text : PyStr} (hw : Sane openssl texts w)
    (hi : w.requests[i]? = some request) (hinput : request'.input = request.input)
    (hmoved : request'.phase.moved = true) (hready : Ready openssl request')
    (htext : request.input.text part = some text) (hvalid : Validated openssl request.input) :
    Sane openssl texts
      ⟨w.files.replace request.input.slot part ⟨text, some i⟩, w.requests.set i request'⟩ where
  ready _ _ hr := ready_set hw hi hready hr
  provided slot' part' text' j hfile := by
    dsimp only at hfile
    rw [replace_apply] at hfile
    split at hfile
    next hsame =>
      obtain ⟨rfl, rfl⟩ := hsame
      cases hfile
      have hlt := (List.getElem?_eq_some_iff.mp hi).1
      refine ⟨request', List.getElem?_set_self hlt, ?_, ?_, ?_, hmoved⟩
      · rw [hinput]
      · exact hinput ▸ hvalid
      · exact hinput ▸ htext
    next =>
      exact provided_set hi hinput (fun _ => hmoved) (hw.provided slot' part' text' j hfile)
  untouched slot' part' howner := by
    unfold World.owner at howner
    dsimp only at howner ⊢
    rw [replace_apply] at howner ⊢
    split at howner
    next => cases howner
    next hother =>
      rw [if_neg hother]
      exact hw.untouched slot' part' howner

/-- Every step keeps it. -/
theorem sane_of_effect (hw : Sane openssl texts w) (hi : w.requests[i]? = some request)
    (h : Effect openssl i fails request w.files request' files') :
    Sane openssl texts ⟨files', w.requests.set i request'⟩ := by
  cases h with
  | goesOn hinput _ _ _ hmoved hready _ => exact sane_set hw hi hinput hmoved hready
  | stops hphase hhalfway hmoved _ _ =>
    exact sane_set hw hi rfl (fun _ => hmoved) (ready_of_stopped hphase)
  | movesCertificate hphase _ htext hkey hvalid =>
    exact sane_replace hw hi rfl rfl ⟨hkey, hvalid⟩ htext hvalid
  | movesKey _ _ htext hvalid => exact sane_replace hw hi rfl rfl trivial htext hvalid

theorem sane_initial : Sane openssl texts (initial texts) where
  ready i request hi := by cases hi
  provided slot part text i hfile := by
    obtain ⟨_, _, hinstalled⟩ := Option.map_eq_some_iff.mp hfile
    cases hinstalled
  untouched _ _ _ := rfl

theorem sane_step {event : Event} (hw : Sane openssl texts w)
    (h : (machine openssl).step w event = some w') : Sane openssl texts w' := by
  cases event with
  | start input =>
    obtain rfl := Option.some.inj h
    refine ⟨fun i request hi => ?_, fun slot part text i hfile => ?_, hw.untouched⟩
    · rcases List.mem_append.mp (List.mem_of_getElem? hi) with hmem | hmem
      · obtain ⟨j, hj⟩ := List.getElem?_of_mem hmem
        exact hw.ready j request hj
      · obtain rfl := List.mem_singleton.mp hmem
        unfold Ready enter
        cases input.check with
        | ok _ => trivial
        | error _ => trivial
    · obtain ⟨request, hi, hprovides⟩ := hw.provided slot part text i hfile
      have hlt := (List.getElem?_eq_some_iff.mp hi).1
      exact ⟨request, (List.getElem?_append_left hlt).trans hi, hprovides⟩
  | step i fails =>
    obtain ⟨request, request', files', hi, hadvance, rfl⟩ := exists_advance_of_step h
    exact sane_of_effect hw hi (effect_of_advance (hw.ready i request hi) hadvance)

/-! ## 3. Steps that keep the pairs together -/

/-- **The condition on a step.**  No request fails while a file of its own is installed; a key is
moved while the installed certificate is one whose own key is still to be moved. -/
def Orderly (w : World) : Event → Prop
  | .start _ => True
  | .step i fails => ∀ request, w.requests[i]? = some request →
    if fails then request.phase.canFail = true → ∀ slot part, w.owner slot part ≠ some i
    else request.phase = .halfway →
      ∃ j, w.owner request.input.slot .certificate = some j ∧ w.isHalfway j

/-- What is installed on the way. -/
structure Sound (w : World) : Prop where
  together : ∀ slot, w.owner slot .certificate = w.owner slot .key ∨
    ∃ i, w.owner slot .certificate = some i ∧ w.isHalfway i
  spared : ∀ (i : Nat), w.hasFailed i → ∀ slot part, w.owner slot part ≠ some i

/-- The request of an installed file. -/
theorem provides_of_owner {slot : Slot} {part : Part} (hw : Sane openssl texts w)
    (hi : w.requests[i]? = some request) (howner : w.owner slot part = some i) :
    request.input.slot = slot ∧ request.phase.moved = true := by
  obtain ⟨⟨text, owner⟩, hfile, rfl⟩ := Option.bind_eq_some_iff.mp howner
  obtain ⟨r, hr, hprovides⟩ := hw.provided slot part text i hfile
  obtain rfl : request = r := Option.some.inj (hi.symm.trans hr)
  exact ⟨hprovides.slot, hprovides.moved⟩

theorem owner_replace {slot slot' : Slot} {part part' : Part} {text : PyStr}
    {requests : List Request} :
    World.owner ⟨w.files.replace slot part ⟨text, some i⟩, requests⟩ slot' part' =
      if slot' = slot ∧ part' = part then some i else w.owner slot' part' := by
  unfold World.owner
  dsimp only
  rw [replace_apply]
  split
  · rfl
  · rfl

theorem isHalfway_iff (hi : w.requests[i]? = some request) :
    w.isHalfway i ↔ request.phase = .halfway := by
  unfold World.isHalfway World.reached
  simp [hi]

theorem isHalfway_set (hi : w.requests[i]? = some request) :
    World.isHalfway ⟨files', w.requests.set i request'⟩ j ↔
      if j = i then request'.phase = .halfway else w.isHalfway j :=
  World.reached_set hi

theorem hasFailed_set (hi : w.requests[i]? = some request) :
    World.hasFailed ⟨files', w.requests.set i request'⟩ j ↔
      if j = i then request'.phase.stopped = true else w.hasFailed j :=
  World.reached_set hi

theorem hasFailed_iff (hi : w.requests[i]? = some request) :
    w.hasFailed i ↔ request.phase.stopped = true := by
  unfold World.hasFailed World.reached
  simp [hi]

/-- A step that moves no file and does not lead between the two renames. -/
theorem sound_set_iff (hs : Sound w) (hi : w.requests[i]? = some request)
    (hhalfway : request'.phase ≠ .halfway) :
    Sound ⟨w.files, w.requests.set i request'⟩ ↔
      (∀ slot, w.owner slot .certificate = w.owner slot .key ∨
        ∃ j, w.owner slot .certificate = some j ∧ j ≠ i ∧ w.isHalfway j) ∧
      (request'.phase.stopped = true → ∀ slot part, w.owner slot part ≠ some i) := by
  constructor
  · rintro ⟨htogether, hspared⟩
    refine ⟨fun slot => (htogether slot).imp_right ?_, fun hstopped => hspared i ?_⟩
    · rintro ⟨j, howner, hj⟩
      rw [isHalfway_set hi] at hj
      split at hj
      next => exact absurd hj hhalfway
      next hne => exact ⟨j, howner, hne, hj⟩
    · rw [hasFailed_set hi, if_pos rfl]
      exact hstopped
  · rintro ⟨htogether, hspared⟩
    refine ⟨fun slot => (htogether slot).imp_right ?_, fun j hj => ?_⟩
    · rintro ⟨j, howner, hne, hj⟩
      refine ⟨j, howner, ?_⟩
      rw [isHalfway_set hi, if_neg hne]
      exact hj
    · rw [hasFailed_set hi] at hj
      split at hj
      next heq =>
        rw [heq]
        exact hspared hj
      next => exact hs.spared j hj

/-- A file that a request has moved does not spoil what holds of the others. -/
theorem spared_replace {slot : Slot} {part : Part} {text : PyStr} (hs : Sound w)
    (hi : w.requests[i]? = some request) (hstopped : request'.phase.stopped = false)
    (hj : World.hasFailed ⟨w.files.replace slot part ⟨text, some i⟩, w.requests.set i request'⟩ j)
    (slot' : Slot) (part' : Part) :
    World.owner ⟨w.files.replace slot part ⟨text, some i⟩, w.requests.set i request'⟩
      slot' part' ≠ some j := by
  rw [hasFailed_set hi] at hj
  rw [owner_replace]
  split at hj
  next => exact absurd (hstopped.symm.trans hj) (by decide)
  next hne =>
    split
    · rintro heq
      exact hne (Option.some.inj heq).symm
    · exact hs.spared j hj slot' part'

/-- The first rename: the slot has a certificate whose key is still to be moved. -/
theorem sound_movesCertificate {text : PyStr} (hs : Sound w) (hi : w.requests[i]? = some request)
    (hphase : request.phase ≠ .halfway) (hphase' : request'.phase = .halfway) :
    Sound ⟨w.files.replace request.input.slot .certificate ⟨text, some i⟩,
      w.requests.set i request'⟩ := by
  refine ⟨fun slot => ?_, fun j hj => spared_replace hs hi (by rw [hphase']; rfl) hj⟩
  rw [owner_replace, owner_replace]
  by_cases hslot : slot = request.input.slot
  · refine .inr ⟨i, if_pos ⟨hslot, rfl⟩, ?_⟩
    rw [isHalfway_set hi, if_pos rfl]
    exact hphase'
  · rw [if_neg fun h => hslot h.1, if_neg fun h => hslot h.1]
    refine (hs.together slot).imp_right ?_
    rintro ⟨j, howner, hj⟩
    refine ⟨j, howner, ?_⟩
    have hne : j ≠ i := by
      rintro rfl
      exact hphase ((isHalfway_iff hi).mp hj)
    rw [isHalfway_set hi, if_neg hne]
    exact hj

/-- The second rename: the slot has this request's pair, or a certificate whose own key is still to
be moved. -/
theorem sound_movesKey_iff {text : PyStr} (hw : Sane openssl texts w) (hs : Sound w)
    (hi : w.requests[i]? = some request) (hphase : request.phase = .halfway)
    (hphase' : request'.phase ≠ .halfway) (hstopped : request'.phase.stopped = false) :
    Sound ⟨w.files.replace request.input.slot .key ⟨text, some i⟩, w.requests.set i request'⟩ ↔
      ∃ j, w.owner request.input.slot .certificate = some j ∧ w.isHalfway j := by
  constructor
  · rintro ⟨htogether, -⟩
    rcases htogether request.input.slot with hsame | ⟨j, howner, hj⟩
    · rw [owner_replace, owner_replace, if_neg (by simp), if_pos ⟨rfl, rfl⟩] at hsame
      exact ⟨i, hsame, (isHalfway_iff hi).mpr hphase⟩
    · rw [owner_replace, if_neg (by simp)] at howner
      rw [isHalfway_set hi] at hj
      split at hj
      next => exact absurd hj hphase'
      next => exact ⟨j, howner, hj⟩
  · rintro ⟨j, howner, hj⟩
    refine ⟨fun slot => ?_, fun j hj => spared_replace hs hi hstopped hj⟩
    rw [owner_replace, owner_replace, if_neg (by simp)]
    by_cases hslot : slot = request.input.slot
    · subst hslot
      rw [if_pos ⟨rfl, rfl⟩]
      by_cases hji : j = i
      · exact .inl (hji ▸ howner)
      · refine .inr ⟨j, howner, ?_⟩
        rw [isHalfway_set hi, if_neg hji]
        exact hj
    · rw [if_neg fun h => hslot h.1]
      refine (hs.together slot).imp_right ?_
      rintro ⟨k, howner, hk⟩
      refine ⟨k, howner, ?_⟩
      have hne : k ≠ i := by
        rintro rfl
        exact hslot (provides_of_owner hw hi howner).1.symm
      rw [isHalfway_set hi, if_neg hne]
      exact hk

/-- **A step keeps the pairs together exactly if it is orderly.** -/
theorem sound_iff_of_effect (hw : Sane openssl texts w) (hs : Sound w)
    (hi : w.requests[i]? = some request)
    (h : Effect openssl i fails request w.files request' files') :
    Sound ⟨files', w.requests.set i request'⟩ ↔ Orderly w (.step i fails) := by
  have horderly : Orderly w (.step i fails) ↔
      if fails then request.phase.canFail = true → ∀ slot part, w.owner slot part ≠ some i
      else request.phase = .halfway →
        ∃ j, w.owner request.input.slot .certificate = some j ∧ w.isHalfway j := by
    simp [Orderly, hi]
  rw [horderly]
  cases h with
  | goesOn hinput hhalfway hhalfway' hstopped hmoved hready hfails =>
    rw [sound_set_iff hs hi hhalfway']
    refine iff_of_true ⟨fun slot => (hs.together slot).imp_right ?_, fun hstop => ?_⟩ ?_
    · rintro ⟨j, howner, hj⟩
      refine ⟨j, howner, ?_, hj⟩
      rintro rfl
      exact hhalfway ((isHalfway_iff hi).mp hj)
    · exact hs.spared i ((hasFailed_iff hi).mpr (hstopped ▸ hstop))
    · split
      next hf => exact fun hcan => absurd ((hfails hf).symm.trans hcan) (by decide)
      next => exact fun h => absurd h hhalfway
  | stops hphase hhalfway hmoved hnot hfails =>
    rw [sound_set_iff hs hi hhalfway]
    have hown : (if fails = true then
          request.phase.canFail = true → ∀ slot part, w.owner slot part ≠ some i
        else request.phase = .halfway →
          ∃ j, w.owner request.input.slot .certificate = some j ∧ w.isHalfway j) ↔
        ∀ slot part, w.owner slot part ≠ some i := by
      cases fails with
      | true => exact ⟨fun h => h hfails, fun h _ => h⟩
      | false =>
        -- nothing of the request has been moved yet
        refine iff_of_true (fun h => ?_) fun slot part howner => ?_
        · rw [h] at hfails
          cases hfails
        · exact absurd (hfails.symm.trans (provides_of_owner hw hi howner).2) (by decide)
    rw [hown]
    constructor
    · exact fun h => h.2 hphase
    · intro h
      refine ⟨fun slot => (hs.together slot).imp_right ?_, fun _ => h⟩
      rintro ⟨j, howner, hj⟩
      refine ⟨j, howner, ?_, hj⟩
      rintro rfl
      exact h slot .certificate howner
  | movesCertificate hphase hfails htext hkey hvalid =>
    have hhalfway : request.phase ≠ .halfway := by
      rw [hphase]
      simp
    rw [hfails]
    exact iff_of_true (sound_movesCertificate hs hi hhalfway rfl) fun h => absurd h hhalfway
  | movesKey hphase hfails htext hvalid =>
    rw [hfails]
    refine (sound_movesKey_iff hw hs hi hphase (by simp) rfl).trans ?_
    exact ⟨fun h _ => h, fun h => h hphase⟩

/-! ## 4. Runs -/

/-- The pair of a slot: both files are from one request, whose pair was validated, or both are the
files that were there before. -/
structure HasPair (openssl : OpenSsl) (texts : Slot → Part → Option PyStr) (w : World)
    (slot : Slot) : Prop where
  same : w.owner slot .certificate = w.owner slot .key
  before : w.owner slot .certificate = none →
    ∀ part, w.files slot part = (initial texts).files slot part
  validated : ∀ i, w.owner slot .certificate = some i → ∃ request, w.requests[i]? = some request ∧
    request.input.slot = slot ∧ Validated openssl request.input ∧
    ∀ part, (w.files slot part).map Installed.text = request.input.text part

/-- What the agent promises about its certificates. -/
structure Matched (openssl : OpenSsl) (texts : Slot → Part → Option PyStr) (w : World) : Prop where
  /-- a request that raises leaves the files of the others in place -/
  spared : ∀ (i : Nat), w.hasFailed i → ∀ slot part, w.owner slot part ≠ some i
  /-- a slot is without its pair only between two renames -/
  together : ∀ slot, w.owner slot .certificate = w.owner slot .key ∨
    ∃ i, w.owner slot .certificate = some i ∧ w.isHalfway i
  /-- when all requests have ended, every slot has a pair -/
  paired : w.finished → ∀ slot, HasPair openssl texts w slot

theorem hasPair_of_same {slot : Slot} (hw : Sane openssl texts w)
    (hsame : w.owner slot .certificate = w.owner slot .key) : HasPair openssl texts w slot where
  same := hsame
  before hnone part := by
    refine hw.untouched slot part ?_
    cases part with
    | certificate => exact hnone
    | key => exact hsame ▸ hnone
  validated i hi := by
    have hpart (part : Part) : ∃ request, w.requests[i]? = some request ∧
        ∃ text, w.files slot part = some ⟨text, some i⟩ ∧
          Provides openssl slot part text request := by
      have howner : w.owner slot part = some i := by
        cases part with
        | certificate => exact hi
        | key => exact hsame ▸ hi
      obtain ⟨⟨text, owner⟩, hfile, rfl⟩ := Option.bind_eq_some_iff.mp howner
      obtain ⟨request, hrequest, hprovides⟩ := hw.provided slot part text i hfile
      exact ⟨request, hrequest, text, hfile, hprovides⟩
    obtain ⟨request, hrequest, _, _, hprovides⟩ := hpart .certificate
    refine ⟨request, hrequest, hprovides.slot, hprovides.valid, fun part => ?_⟩
    obtain ⟨r, hr, text, hfile, htext⟩ := hpart part
    obtain rfl : request = r := Option.some.inj (hrequest.symm.trans hr)
    rw [hfile, htext.text]
    rfl

theorem matched_iff (hw : Sane openssl texts w) : Matched openssl texts w ↔ Sound w := by
  constructor
  · exact fun h => ⟨h.together, h.spared⟩
  · intro h
    refine ⟨h.spared, h.together, fun hfinished slot => ?_⟩
    rcases h.together slot with hsame | ⟨i, -, request, hi, hphase⟩
    · exact hasPair_of_same hw hsame
    · rcases hfinished request (List.mem_of_getElem? hi) with h | h
      · cases hphase.symm.trans h
      · cases hphase.symm.trans h

theorem sound_initial : Sound (initial texts) where
  together slot := by
    have hnone (part : Part) : (initial texts).owner slot part = none := by
      unfold World.owner initial
      dsimp only
      cases texts slot part with
      | none => rfl
      | some text => rfl
    rw [hnone, hnone]
    exact .inl rfl
  spared i hi := by
    obtain ⟨request, hrequest, -⟩ := hi
    cases hrequest

/-- A new request owns nothing yet. -/
theorem sound_start {input : Input} (hw : Sane openssl texts w) (hs : Sound w) :
    Sound { w with requests := w.requests ++ [enter input] } where
  together slot := by
    refine (hs.together slot).imp_right ?_
    rintro ⟨i, howner, hi⟩
    exact ⟨i, howner, World.reached_append.mpr (.inl hi)⟩
  spared i hi slot part howner := by
    rcases World.reached_append.mp hi with hi | ⟨rfl, -⟩
    · exact hs.spared i hi slot part howner
    · obtain ⟨⟨text, owner⟩, hfile, rfl⟩ := Option.bind_eq_some_iff.mp howner
      obtain ⟨request, hrequest, -⟩ := hw.provided slot part text _ hfile
      exact absurd (List.getElem?_eq_some_iff.mp hrequest).1 (lt_irrefl _)

theorem sound_iff_orderly {event : Event} (hw : Sane openssl texts w) (hs : Sound w)
    (h : (machine openssl).step w event = some w') : Sound w' ↔ Orderly w event := by
  cases event with
  | start input =>
    obtain rfl := Option.some.inj h
    exact iff_of_true (sound_start hw hs) trivial
  | step i fails =>
    obtain ⟨request, request', files', hi, hadvance, rfl⟩ := exists_advance_of_step h
    exact sound_iff_of_effect hw hs hi (effect_of_advance (hw.ready i request hi) hadvance)

/-- Only a request that has ended takes no step. -/
theorem ended_of_advance_eq_none (h : advance openssl i fails request files = none) :
    request.phase.canFail = false ∧ request.phase ≠ .halfway := by
  obtain ⟨input, temporary, phase⟩ := request
  unfold advance at h
  cases phase with
  | entering => cases fails <;> cases h
  | preparing ops =>
    cases fails with
    | true => cases ops <;> cases h
    | false =>
      cases ops with
      | nil => cases h
      | cons op ops =>
        dsimp only at h
        cases hop : perform openssl ⟨input, temporary, .preparing (op :: ops)⟩ op with
        | none =>
          rw [hop] at h
          cases h
        | some next =>
          rw [hop] at h
          cases h
  | halfway => cases fails <;> cases h
  | completing ops =>
    cases ops with
    | nil => cases h
    | cons op ops => cases fails <;> cases h
  | failed => cases h
  | auditing => cases fails <;> cases h
  | returned => exact ⟨rfl, by simp⟩
  | raised => exact ⟨rfl, by simp⟩

/-- An event that cannot occur. -/
theorem orderly_of_stuck {event : Event} (h : (machine openssl).step w event = none) :
    Orderly w event := by
  cases event with
  | start input => trivial
  | step i fails =>
    intro request hi
    have hadvance : advance openssl i fails request w.files = none := by
      change (w.requests[i]?).bind _ = none at h
      rw [hi, Option.bind_some] at h
      cases hadvance : advance openssl i fails request w.files with
      | none => rfl
      | some next =>
        rw [hadvance] at h
        cases h
    obtain ⟨hcan, hhalfway⟩ := ended_of_advance_eq_none hadvance
    split
    · exact fun h => absurd (hcan.symm.trans h) (by decide)
    · exact fun h => absurd h hhalfway

/-- **The installed pairs match exactly along orderly runs.** -/
theorem pairs_match_iff (openssl : OpenSsl) (texts : Slot → Part → Option PyStr)
    (events : List Event) :
    (∀ past, past <+: events → ∀ w, (machine openssl).run (initial texts) past = some w →
        Matched openssl texts w) ↔
      (machine openssl).Conforms Orderly (initial texts) events := by
  have hexact := @Machine.invariant_iff_conforms _ _ (machine openssl)
    (fun w => Sane openssl texts w ∧ Sound w) Orderly
    (fun w event w' hw hstep => by
      have hsane := sane_step hw.1 hstep
      rw [and_iff_right hsane]
      exact sound_iff_orderly hw.1 hw.2 hstep)
    (fun w event => orderly_of_stuck) events (initial texts) ⟨sane_initial, sound_initial⟩
  rw [← hexact]
  refine forall₄_congr fun past _ w hrun => ?_
  have hsane : Sane openssl texts w :=
    Machine.run_invariant (fun _ _ _ => sane_step) past sane_initial hrun
  rw [matched_iff hsane, and_iff_right hsane]

/-- A request for a certificate of the local host. -/
def localRequest (certificate key : String) : Input :=
  .selfSigned (.arr [.str (py "127.0.0.1")]) fun
    | .certificate => py certificate
    | .key => py key

/-- Two such requests; the second installs its whole pair between the renames of the first. -/
def crossedRequests : List Event :=
  [.start (localRequest "certificate 0" "key 0"), .start (localRequest "certificate 1" "key 1")] ++
    (List.replicate 3 0 ++ List.replicate 4 1 ++ List.replicate 9 0 ++ List.replicate 8 1).map
      fun i => .step i false

/-- Both requests succeed, and the certificate of one is left with the key of the other. -/
theorem crossed_requests_mismatch :
    (((machine ⟨fun _ _ => none⟩).run (initial fun _ _ => none) crossedRequests).map fun w =>
      (w.requests.map Request.phase, w.owner .selfSigned .certificate,
        w.owner .selfSigned .key)) =
      some ([.returned, .returned], some 1, some 0) := by
  decide +kernel

end ZtPlanet.Agent.Certificates
