/-
# Transactions over rows

A table store is a dictionary from the keys of rows to rows.  A transaction keeps its changes to
itself until it commits; until then only it sees them, on top of what is committed.  It holds a lock
on every row that it has changed, and a statement of another one that would change such a row has to
wait, so its step is not enabled.  Where a statement or the commit fails, the changes are gone.

A client is a program counter with the changes of its transaction.  `next` says what a client does
next when it sees a certain store; the input of a step is whatever else a statement depends on, such
as the time.

`TxKeeps` says of a property of each client that its own steps keep it, and what another client
commits, which changes only rows that this one has not locked.  `tx_invariant_run` is the rule that
such a property holds of every client after every run.
-/
import ZtPlanet.Lib.Dict
import ZtPlanet.Lib.Machine
import ZtPlanet.Lib.Pool

namespace ZtPlanet.Lib

variable {κ ν π ι Op : Type}

/-! ## 1. Changes that are not committed -/

/-- What is to become of rows, the latest first; `none` is a row that is deleted. -/
abbrev Changes (κ ν : Type) : Type := List (κ × Option ν)

/-- Two clients have not changed the same row. -/
def Apart (changes changes' : Changes κ ν) : Prop :=
  ∀ k ∈ changes.map Prod.fst, k ∉ changes'.map Prod.fst

theorem Apart.nil_left (changes : Changes κ ν) : Apart [] changes := by simp [Apart]

theorem Apart.nil_right (changes : Changes κ ν) : Apart changes [] := by simp [Apart]

theorem Apart.symm {changes changes' : Changes κ ν} (h : Apart changes changes') :
    Apart changes' changes := fun k hk hk' => h k hk' hk

theorem Apart.append {changes changes' other : Changes κ ν} (h : Apart changes other)
    (h' : Apart changes' other) : Apart (changes ++ changes') other := by
  intro k hk
  rw [List.map_append] at hk
  rcases List.mem_append.mp hk with hk | hk
  · exact h k hk
  · exact h' k hk

variable [DecidableEq κ]

/-- The row as it will be, `none` where it is not changed. -/
def Changes.at (changes : Changes κ ν) (k : κ) : Option (Option ν) :=
  (changes.find? fun change => change.1 = k).map Prod.snd

/-- The store with one row changed. -/
def Dict.change (d : Dict κ ν) : κ × Option ν → Dict κ ν
  | (k, some v) => d.set k v
  | (k, none) => d.erase k

/-- The store with the changes made. -/
def Dict.apply (d : Dict κ ν) (changes : Changes κ ν) : Dict κ ν :=
  changes.foldr (fun change d => d.change change) d

section

variable {d : Dict κ ν} {cs cs' : Changes κ ν} {k : κ} {v : Option ν}

@[simp] theorem Changes.at_nil : Changes.at ([] : Changes κ ν) k = none := rfl

theorem Changes.at_cons (c : κ × Option ν) :
    Changes.at (c :: cs) k = if c.1 = k then some c.2 else Changes.at cs k := by
  by_cases h : c.1 = k <;> simp [Changes.at, h]

theorem Changes.at_append :
    Changes.at (cs' ++ cs) k = (Changes.at cs' k <|> Changes.at cs k) := by
  induction cs' with
  | nil => rfl
  | cons c t ih =>
    rw [List.cons_append, Changes.at_cons, Changes.at_cons, ih]
    by_cases h : c.1 = k <;> simp [h]

theorem Changes.at_eq_none : Changes.at cs k = none ↔ k ∉ cs.map Prod.fst := by
  induction cs with
  | nil => simp
  | cons c t ih =>
    rw [Changes.at_cons]
    by_cases h : c.1 = k
    · simp [h]
    · simp [h, ih, Ne.symm h]

theorem Changes.mem_of_at (h : Changes.at cs k = some v) : (k, v) ∈ cs := by
  induction cs with
  | nil => simp at h
  | cons c t ih =>
    rw [Changes.at_cons] at h
    by_cases hk : c.1 = k
    · rw [if_pos hk, Option.some.injEq] at h
      exact List.mem_cons.mpr (.inl (Prod.ext hk.symm h.symm))
    · rw [if_neg hk] at h
      exact List.mem_cons_of_mem _ (ih h)

theorem Dict.get?_change (d : Dict κ ν) (c : κ × Option ν) (k : κ) :
    (d.change c).get? k = if c.1 = k then c.2 else d.get? k := by
  obtain ⟨j, _ | v⟩ := c
  · exact Dict.get?_erase d j k
  · exact Dict.get?_set d j k v

/-- **What a transaction sees of a row**: its own change, or what is committed. -/
theorem Dict.get?_apply (d : Dict κ ν) (cs : Changes κ ν) (k : κ) :
    (d.apply cs).get? k = (Changes.at cs k).getD (d.get? k) := by
  induction cs with
  | nil => rfl
  | cons c t ih =>
    change ((d.apply t).change c).get? k = _
    rw [Dict.get?_change, Changes.at_cons, ih]
    by_cases h : c.1 = k <;> simp [h]

theorem Dict.get?_apply_of_notMem (h : k ∉ cs.map Prod.fst) : (d.apply cs).get? k = d.get? k := by
  rw [Dict.get?_apply, Changes.at_eq_none.mpr h, Option.getD_none]

theorem Dict.get?_apply_of_at (h : Changes.at cs k = some v) : (d.apply cs).get? k = v := by
  rw [Dict.get?_apply, h, Option.getD_some]

end

/-! ## 2. Clients -/

/-- A client, with the changes of its transaction. -/
structure Client (π κ ν : Type) where
  pc : π
  changes : Changes κ ν

/-- What a client does next. -/
inductive Move (π κ ν : Type) where
  /-- a statement that changes these rows -/
  | statement (changes : Changes κ ν) (pc : π)
  | commit (pc : π)
  | rollback (pc : π)

/-- The programs of the clients. -/
structure TxProgram (π ι Op κ ν : Type) where
  init : Op → π
  /-- `none` where the client has ended -/
  next : π → ι → Dict κ ν → Option (Move π κ ν)
  /-- where it goes when a statement or the commit fails -/
  fail : π → Option π

structure TxState (π κ ν : Type) where
  committed : Dict κ ν
  clients : List (Client π κ ν)

inductive TxEvent (Op ι : Type) where
  | start (op : Op)
  | step (i : Nat) (input : ι)
  | fail (i : Nat)

/-- The client whose event it is. -/
def TxEvent.client? : TxEvent Op ι → Option Nat
  | .start _ => none
  | .step i _ | .fail i => some i

/-- Where a client is. -/
def TxState.pcAt (w : TxState π κ ν) (i : Nat) : Option π := (w.clients[i]?).map Client.pc

/-- No other client has changed one of the rows. -/
def TxState.Free (w : TxState π κ ν) (i : Nat) (changes : Changes κ ν) : Prop :=
  ∀ j ∈ List.range w.clients.length, j ≠ i → ∀ other ∈ w.clients[j]?,
    ∀ change ∈ changes, change.1 ∉ other.changes.map Prod.fst

instance (w : TxState π κ ν) (i : Nat) (changes : Changes κ ν) : Decidable (w.Free i changes) :=
  inferInstanceAs (Decidable (∀ _ ∈ List.range _, _ → ∀ _ ∈ (_ : Option (Client π κ ν)), _))

/-- A client makes its move. -/
def TxState.move (w : TxState π κ ν) (i : Nat) (client : Client π κ ν) :
    Move π κ ν → Option (TxState π κ ν)
  | .statement changes pc =>
    if w.Free i changes then
      some { w with clients := w.clients.set i ⟨pc, changes ++ client.changes⟩ }
    else none
  | .commit pc => some ⟨w.committed.apply client.changes, w.clients.set i ⟨pc, []⟩⟩
  | .rollback pc => some { w with clients := w.clients.set i ⟨pc, []⟩ }

/-- The clients take turns. -/
def txMachine (p : TxProgram π ι Op κ ν) : Machine (TxState π κ ν) (TxEvent Op ι) where
  step w
    | .start op => some { w with clients := w.clients ++ [⟨p.init op, []⟩] }
    | .step i input =>
      (w.clients[i]?).bind fun client =>
        (p.next client.pc input (w.committed.apply client.changes)).bind (w.move i client)
    | .fail i =>
      (w.clients[i]?).bind fun client =>
        (p.fail client.pc).map fun pc => { w with clients := w.clients.set i ⟨pc, []⟩ }

variable {p : TxProgram π ι Op κ ν} {w w' : TxState π κ ν} {event : TxEvent Op ι}

/-- **What an event does.** -/
theorem tx_step_cases (hstep : (txMachine p).step w event = some w') :
    (∃ op, event = .start op ∧ w' = { w with clients := w.clients ++ [⟨p.init op, []⟩] }) ∨
    (∃ i input client changes pc, event = .step i input ∧ w.clients[i]? = some client ∧
      p.next client.pc input (w.committed.apply client.changes) = some (.statement changes pc) ∧
      w.Free i changes ∧
      w' = { w with clients := w.clients.set i ⟨pc, changes ++ client.changes⟩ }) ∨
    (∃ i input client pc, event = .step i input ∧ w.clients[i]? = some client ∧
      p.next client.pc input (w.committed.apply client.changes) = some (.commit pc) ∧
      w' = ⟨w.committed.apply client.changes, w.clients.set i ⟨pc, []⟩⟩) ∨
    ∃ i client pc, w.clients[i]? = some client ∧
      ((∃ input, event = .step i input ∧
        p.next client.pc input (w.committed.apply client.changes) = some (.rollback pc)) ∨
        event = .fail i ∧ p.fail client.pc = some pc) ∧
      w' = { w with clients := w.clients.set i ⟨pc, []⟩ } := by
  cases event with
  | start op =>
    cases hstep
    exact .inl ⟨op, rfl, rfl⟩
  | step i input =>
    obtain ⟨client, hclient, hstep⟩ := Option.bind_eq_some_iff.mp hstep
    obtain ⟨move, hmove, hstep⟩ := Option.bind_eq_some_iff.mp hstep
    cases move with
    | statement changes pc =>
      obtain ⟨hfree, hstep⟩ := Option.ite_none_right_eq_some.mp hstep
      cases hstep
      exact .inr (.inl ⟨i, input, client, changes, pc, rfl, hclient, hmove, hfree, rfl⟩)
    | commit pc =>
      cases hstep
      exact .inr (.inr (.inl ⟨i, input, client, pc, rfl, hclient, hmove, rfl⟩))
    | rollback pc =>
      cases hstep
      exact .inr (.inr (.inr ⟨i, client, pc, hclient, .inl ⟨input, rfl, hmove⟩, rfl⟩))
  | fail i =>
    obtain ⟨client, hclient, hstep⟩ := Option.bind_eq_some_iff.mp hstep
    obtain ⟨pc, hpc, rfl⟩ := Option.map_eq_some_iff.mp hstep
    exact .inr (.inr (.inr ⟨i, client, pc, hclient, .inr ⟨rfl, hpc⟩, rfl⟩))

/-! ## 3. Locks -/

/-- A property of every client, and no two clients with a change of the same row. -/
structure TxInvariant (J : π → Changes κ ν → Dict κ ν → Prop) (w : TxState π κ ν) : Prop where
  client : ∀ client ∈ w.clients, J client.pc client.changes w.committed
  locked : ∀ (i j : Nat) (client other : Client π κ ν), i ≠ j → w.clients[i]? = some client →
    w.clients[j]? = some other → Apart client.changes other.changes

omit [DecidableEq κ] in
/-- A client has moved, and the rows that it has changed are still nobody else's. -/
theorem TxInvariant.locked_set {J : π → Changes κ ν → Dict κ ν → Prop} (h : TxInvariant J w)
    {i : Nat} {client' : Client π κ ν}
    (hapart : ∀ (j : Nat) (other : Client π κ ν), j ≠ i → w.clients[j]? = some other →
      Apart client'.changes other.changes ∧ Apart other.changes client'.changes) :
    ∀ (j j' : Nat) (c c' : Client π κ ν), j ≠ j' → (w.clients.set i client')[j]? = some c →
      (w.clients.set i client')[j']? = some c' → Apart c.changes c'.changes := by
  intro j j' c c' hne hc hc'
  rcases getElem?_set_cases hc with ⟨hj, hown⟩ | ⟨hj, hc⟩
  · rcases getElem?_set_cases hc' with ⟨hj', -⟩ | ⟨hj', hc'⟩
    · exact absurd (hj.trans hj'.symm) hne
    · rw [hown]
      exact (hapart j' c' hj' hc').1
  · rcases getElem?_set_cases hc' with ⟨-, hown⟩ | ⟨-, hc'⟩
    · rw [hown]
      exact (hapart j c hj hc).2
    · exact h.locked j j' c c' hne hc hc'

omit [DecidableEq κ] in
/-- A statement that gets through touches no row that another client has changed. -/
theorem TxState.Free.apart {i j : Nat} {changes : Changes κ ν} {other : Client π κ ν}
    (h : w.Free i changes) (hj : j ≠ i) (hother : w.clients[j]? = some other) :
    Apart changes other.changes := by
  intro k hk hk'
  obtain ⟨change, hchange, rfl⟩ := List.mem_map.mp hk
  have hlt : j < w.clients.length := (List.getElem?_eq_some_iff.mp hother).1
  exact h j (List.mem_range.mpr hlt) hj other hother change hchange hk'

/-- A property that a client's own moves keep, and what another client commits keeps too. -/
structure TxKeeps (p : TxProgram π ι Op κ ν) (J : π → Changes κ ν → Dict κ ν → Prop) : Prop where
  init : ∀ op d, J (p.init op) [] d
  statement : ∀ pc cs d input cs' pc', J pc cs d →
    p.next pc input (d.apply cs) = some (.statement cs' pc') → J pc' (cs' ++ cs) d
  commit : ∀ pc cs d input pc', J pc cs d →
    p.next pc input (d.apply cs) = some (.commit pc') → J pc' [] (d.apply cs)
  rollback : ∀ pc cs d input pc', J pc cs d →
    p.next pc input (d.apply cs) = some (.rollback pc') → J pc' [] d
  fail : ∀ pc cs d pc', J pc cs d → p.fail pc = some pc' → J pc' [] d
  other : ∀ pc cs d pc₂ cs₂ input pc', J pc cs d → J pc₂ cs₂ d → Apart cs cs₂ →
    p.next pc₂ input (d.apply cs₂) = some (.commit pc') → J pc cs (d.apply cs₂)

/-- The same where `D` holds of what is committed, which the commits keep. -/
structure TxKeepsOn (p : TxProgram π ι Op κ ν) (D : Dict κ ν → Prop)
    (J : π → Changes κ ν → Dict κ ν → Prop) : Prop where
  init : ∀ op d, D d → J (p.init op) [] d
  statement : ∀ pc cs d input cs' pc', D d → J pc cs d →
    p.next pc input (d.apply cs) = some (.statement cs' pc') → J pc' (cs' ++ cs) d
  commit : ∀ pc cs d input pc', D d → J pc cs d →
    p.next pc input (d.apply cs) = some (.commit pc') → D (d.apply cs) ∧ J pc' [] (d.apply cs)
  rollback : ∀ pc cs d input pc', D d → J pc cs d →
    p.next pc input (d.apply cs) = some (.rollback pc') → J pc' [] d
  fail : ∀ pc cs d pc', D d → J pc cs d → p.fail pc = some pc' → J pc' [] d
  other : ∀ pc cs d pc₂ cs₂ input pc', D d → J pc cs d → J pc₂ cs₂ d → Apart cs cs₂ →
    p.next pc₂ input (d.apply cs₂) = some (.commit pc') → J pc cs (d.apply cs₂)

theorem TxKeeps.on {J : π → Changes κ ν → Dict κ ν → Prop} (h : TxKeeps p J) :
    TxKeepsOn p (fun _ => True) J where
  init op d _ := h.init op d
  statement pc cs d input cs' pc' _ := h.statement pc cs d input cs' pc'
  commit pc cs d input pc' _ hJ hnext := ⟨trivial, h.commit pc cs d input pc' hJ hnext⟩
  rollback pc cs d input pc' _ := h.rollback pc cs d input pc'
  fail pc cs d pc' _ := h.fail pc cs d pc'
  other pc cs d pc₂ cs₂ input pc' _ := h.other pc cs d pc₂ cs₂ input pc'

/-- **The step rule**, on stores with a property. -/
theorem tx_invariant_step_on {D : Dict κ ν → Prop} {J : π → Changes κ ν → Dict κ ν → Prop}
    (hJ : TxKeepsOn p D J) (hD : D w.committed) (h : TxInvariant J w)
    (hstep : (txMachine p).step w event = some w') : D w'.committed ∧ TxInvariant J w' := by
  rcases tx_step_cases hstep with ⟨op, rfl, rfl⟩ |
    ⟨i, input, client, changes, pc, rfl, hclient, hnext, hfree, rfl⟩ |
    ⟨i, input, client, pc, rfl, hclient, hnext, rfl⟩ | ⟨i, client, pc, hclient, hends, rfl⟩
  · refine ⟨hD, ?_, ?_⟩
    · exact forall_mem_append_one h.client (hJ.init op _ hD)
    · intro i j client other hne hclient hother
      rcases Nat.lt_or_ge i w.clients.length with hi | hi
      · rw [List.getElem?_append_left hi] at hclient
        rcases Nat.lt_or_ge j w.clients.length with hj | hj
        · rw [List.getElem?_append_left hj] at hother
          exact h.locked i j client other hne hclient hother
        · rw [List.getElem?_append_right hj] at hother
          rw [List.mem_singleton.mp (List.mem_of_getElem? hother)]
          exact .nil_right _
      · rw [List.getElem?_append_right hi] at hclient
        rw [List.mem_singleton.mp (List.mem_of_getElem? hclient)]
        exact .nil_left _
  · have hown := h.client client (List.mem_of_getElem? hclient)
    refine ⟨hD, forall_mem_set h.client (hJ.statement _ _ _ _ _ _ hD hown hnext), h.locked_set ?_⟩
    intro j other hj hother
    have hapart := (hfree.apart hj hother).append (h.locked i j client other hj.symm hclient hother)
    exact ⟨hapart, hapart.symm⟩
  · have hown := h.client client (List.mem_of_getElem? hclient)
    obtain ⟨hD', hcommitted⟩ := hJ.commit _ _ _ _ _ hD hown hnext
    refine ⟨hD', fun c hc => ?_, h.locked_set fun j other _ _ => ⟨.nil_left _, .nil_right _⟩⟩
    obtain ⟨j, hj⟩ := List.getElem?_of_mem hc
    rcases getElem?_set_cases hj with ⟨-, rfl⟩ | ⟨hne, hj⟩
    · exact hcommitted
    · exact hJ.other _ _ _ _ _ _ _ hD (h.client c (List.mem_of_getElem? hj)) hown
        (h.locked j i c client hne hj hclient) hnext
  · have hown := h.client client (List.mem_of_getElem? hclient)
    refine ⟨hD, forall_mem_set h.client ?_, h.locked_set fun j other _ _ =>
      ⟨.nil_left _, .nil_right _⟩⟩
    rcases hends with ⟨input, -, hnext⟩ | ⟨-, hpc⟩
    · exact hJ.rollback _ _ _ _ _ hD hown hnext
    · exact hJ.fail _ _ _ _ hD hown hpc

/-- **The step rule.** -/
theorem tx_invariant_step {J : π → Changes κ ν → Dict κ ν → Prop} (hJ : TxKeeps p J)
    (h : TxInvariant J w) (hstep : (txMachine p).step w event = some w') : TxInvariant J w' :=
  (tx_invariant_step_on hJ.on trivial h hstep).2

omit [DecidableEq κ] in
/-- Without clients there is nothing to keep. -/
theorem txInvariant_nil (J : π → Changes κ ν → Dict κ ν → Prop) (d : Dict κ ν) :
    TxInvariant J ⟨d, []⟩ := ⟨by simp, by simp⟩

/-- **The run rule.**  What every step keeps, where the clients have their property, holds after
every run. -/
theorem tx_invariant_run {J : π → Changes κ ν → Dict κ ν → Prop} {P : TxState π κ ν → Prop}
    (hJ : TxKeeps p J) (hP : ∀ w event w', TxInvariant J w → P w →
      (txMachine p).step w event = some w' → P w')
    {d : Dict κ ν} (hstart : P ⟨d, []⟩) {events : List (TxEvent Op ι)}
    (hrun : (txMachine p).run ⟨d, []⟩ events = some w) : TxInvariant J w ∧ P w :=
  Machine.run_invariant (P := fun w => TxInvariant J w ∧ P w)
    (fun w event w' h hstep => ⟨tx_invariant_step hJ h.1 hstep, hP w event w' h.1 h.2 hstep⟩) events
    ⟨txInvariant_nil J d, hstart⟩ hrun

/-! ## 4. Where the clients are -/

omit [DecidableEq κ]

theorem pcAt_append {d : Dict κ ν} {clients : List (Client π κ ν)} {client : Client π κ ν} {i : Nat}
    {pc : π} (h : TxState.pcAt ⟨d, clients ++ [client]⟩ i = some pc) (d' : Dict κ ν) :
    pc = client.pc ∨ TxState.pcAt ⟨d', clients⟩ i = some pc := by
  obtain ⟨c, hc, rfl⟩ := Option.map_eq_some_iff.mp h
  rcases Nat.lt_or_ge i clients.length with hi | hi
  · rw [List.getElem?_append_left hi] at hc
    exact .inr (Option.map_eq_some_iff.mpr ⟨c, hc, rfl⟩)
  · rw [List.getElem?_append_right hi] at hc
    exact .inl (congrArg Client.pc (List.mem_singleton.mp (List.mem_of_getElem? hc)))

theorem pcAt_set {d : Dict κ ν} {clients : List (Client π κ ν)} {client : Client π κ ν} {i j : Nat}
    {pc : π} (h : TxState.pcAt ⟨d, clients.set j client⟩ i = some pc) (d' : Dict κ ν) :
    pc = client.pc ∨ TxState.pcAt ⟨d', clients⟩ i = some pc := by
  obtain ⟨c, hc, rfl⟩ := Option.map_eq_some_iff.mp h
  rcases getElem?_set_cases hc with ⟨-, rfl⟩ | ⟨-, hc⟩
  · exact .inl rfl
  · exact .inr (Option.map_eq_some_iff.mpr ⟨c, hc, rfl⟩)

theorem pcAt_set_self {d : Dict κ ν} {clients : List (Client π κ ν)} {client client' : Client π κ ν}
    {i : Nat} (h : clients[i]? = some client') :
    TxState.pcAt ⟨d, clients.set i client⟩ i = some client.pc := by
  rw [TxState.pcAt, List.getElem?_set_self (List.getElem?_eq_some_iff.mp h).1]
  rfl

end ZtPlanet.Lib
