/-
# The history directory is an undo stack

`apply` saves the configuration it replaces under a file name that is made from the current
revision, and `rollback` restores the file whose name sorts last and removes it.  Both advance the
revision, so the names in the directory have gaps; what keeps them in order is that every saved
revision is older than the current one, and that numbers below 10^8 sort as texts of eight digits.

`undo_stack` says what that comes to.  Seen through `AgentState.undoable`, which lists the saved
configurations in the order of `sorted(…, reverse=True)`, a successful `apply` is a replacement and
a successful `rollback` an undo; calls that are refused before they write anything do nothing.
-/
import Mathlib.Data.List.Lex
import Mathlib.Data.List.ReduceOption
import ZtPlanet.Agent.FailedApply
import ZtPlanet.Lib.UndoStack
import ZtPlanet.Python.Decimal

namespace ZtPlanet.Agent

open ZtPlanet.Lib ZtPlanet.Python

variable {host : Host} {plan : Plan} {s t u : AgentState}

/-! ## 1. File names -/

/-- The padded number of a history file. -/
def paddedRevision (revision : Nat) : PyStr :=
  List.replicate (8 - (decimal revision).length) (ch '0') ++ decimal revision

theorem historyName_eq (n : Nat) :
    historyName n = py "revision-" ++ (paddedRevision n ++ py ".json") := by
  simp [historyName, paddedRevision]

theorem ofDigits_paddedRevision (n : Nat) : ofDigits 10 (paddedRevision n) = n := by
  rw [paddedRevision, ofDigits_replicate_zero, ofDigits_decimal]

theorem isAsciiDigit_of_mem_paddedRevision {n : Nat} :
    ∀ c ∈ paddedRevision n, isAsciiDigit c = true := by
  intro c hc
  rcases List.mem_append.mp hc with hc | hc
  · rw [(List.mem_replicate.mp hc).2]
    decide
  · exact isAsciiDigit_of_mem_decimal hc

theorem length_paddedRevision {n : Nat} (h : n < 10 ^ 8) : (paddedRevision n).length = 8 := by
  have hlen := length_decimal_le (by decide) h
  rw [paddedRevision, List.length_append, List.length_replicate]
  omega

/-- Different revisions have different files. -/
theorem historyName_injective : Function.Injective historyName := by
  intro m n h
  rw [historyName_eq, historyName_eq] at h
  have hpadded := List.append_cancel_right (List.append_cancel_left h)
  rw [← ofDigits_paddedRevision m, hpadded, ofDigits_paddedRevision]

/-- **Below 10^8, file names sort by revision.** -/
theorem historyName_le_iff {m n : Nat} (hm : m < 10 ^ 8) (hn : n < 10 ^ 8) :
    historyName m ≤ historyName n ↔ m ≤ n := by
  have hlen : (paddedRevision n).length = (paddedRevision m).length := by
    rw [length_paddedRevision hm, length_paddedRevision hn]
  have hlt := lt_iff_ofDigits_lt isAsciiDigit_of_mem_paddedRevision
    isAsciiDigit_of_mem_paddedRevision hlen
  rw [ofDigits_paddedRevision, ofDigits_paddedRevision] at hlt
  rw [← not_lt, ← not_lt (a := n) (b := m), historyName_eq, historyName_eq, append_left_lt_iff,
    append_lt_append_iff hlen, hlt]

/-! ## 2. The saved configurations -/

/-- `sorted(self.history_dir.glob("revision-*.json"), reverse=True)`, as revisions. -/
def AgentState.candidates (s : AgentState) : List Nat :=
  s.history.keys.insertionSort fun m n => historyName n ≤ historyName m

/-- The current configuration, and those that are saved, the last candidate last. -/
def AgentState.undoable (s : AgentState) : Undoable Config where
  current := s.config.config
  saved := s.candidates.filterMap fun n => (s.history.get? n).map Envelope.config

/-- Every saved revision is older than the current one. -/
def Ordered (s : AgentState) : Prop := ∀ n ∈ s.history.keys, n < s.config.revision

/-- A list of revisions is sorted in one way only. -/
theorem insertionSort_eq {l l' : List Nat} (hperm : l.Perm l')
    (hsorted : l'.Pairwise fun m n => historyName n ≤ historyName m) :
    (l.insertionSort fun m n => historyName n ≤ historyName m) = l' := by
  have htrans : IsTrans Nat fun m n => historyName n ≤ historyName m :=
    ⟨fun _ _ _ h h' => le_trans h' h⟩
  have htotal : Std.Total fun m n : Nat => historyName n ≤ historyName m :=
    ⟨fun m n => le_total (historyName n) (historyName m)⟩
  refine List.Perm.eq_of_pairwise ?_ (List.pairwise_insertionSort _ _) hsorted
    ((List.perm_insertionSort _ _).trans hperm)
  intro m n _ _ h h'
  exact historyName_injective (le_antisymm h' h)

theorem candidates_sorted (s : AgentState) :
    s.candidates.Pairwise fun m n => historyName n ≤ historyName m := by
  have htrans : IsTrans Nat fun m n => historyName n ≤ historyName m :=
    ⟨fun _ _ _ h h' => le_trans h' h⟩
  have htotal : Std.Total fun m n : Nat => historyName n ≤ historyName m :=
    ⟨fun m n => le_total (historyName n) (historyName m)⟩
  exact List.pairwise_insertionSort _ _

theorem candidates_perm (s : AgentState) : s.candidates.Perm s.history.keys :=
  List.perm_insertionSort _ _

theorem candidates_nodup (s : AgentState) : s.candidates.Nodup :=
  (candidates_perm s).nodup_iff.mpr s.history.nodup

/-- What `newest` chooses is the greatest name. -/
theorem newest_spec : ∀ {l : List Nat} {m : Nat}, newest l = some m →
    m ∈ l ∧ ∀ n ∈ l, historyName n ≤ historyName m
  | [], m, h => by cases h
  | n :: l, m, h => by
    unfold newest at h
    cases hl : newest l with
    | none =>
      rw [hl] at h
      cases h
      have hnil : l = [] := by
        cases l with
        | nil => rfl
        | cons a l =>
          unfold newest at hl
          split at hl
          · cases hl
          · split at hl <;> cases hl
      rw [hnil]
      refine ⟨by simp, fun k hk => ?_⟩
      rw [List.mem_singleton.mp hk]
    | some k =>
      rw [hl] at h
      dsimp only at h
      obtain ⟨hmem, hmax⟩ := newest_spec hl
      split at h
      · rename_i hlt
        cases h
        refine ⟨List.mem_cons_of_mem _ hmem, fun j hj => ?_⟩
        rcases List.mem_cons.mp hj with rfl | hj
        · exact le_of_lt hlt
        · exact hmax j hj
      · rename_i hge
        cases h
        refine ⟨by simp, fun j hj => ?_⟩
        rcases List.mem_cons.mp hj with rfl | hj
        · exact le_refl _
        · exact (hmax j hj).trans (not_lt.mp hge)

/-- It is the first candidate. -/
theorem candidates_of_newest {m : Nat} (h : newest s.history.keys = some m) :
    ∃ rest, s.candidates = m :: rest := by
  obtain ⟨hmem, hmax⟩ := newest_spec h
  cases hc : s.candidates with
  | nil =>
    have hm : m ∈ s.candidates := (candidates_perm s).mem_iff.mpr hmem
    rw [hc] at hm
    cases hm
  | cons n rest =>
    have hsorted := candidates_sorted s
    rw [hc] at hsorted
    have hn : n ∈ s.history.keys := (candidates_perm s).mem_iff.mp (by rw [hc]; simp)
    have hm : m ∈ n :: rest := hc ▸ (candidates_perm s).mem_iff.mpr hmem
    refine ⟨rest, ?_⟩
    rcases List.mem_cons.mp hm with rfl | hm
    · rfl
    · have hle := List.rel_of_pairwise_cons hsorted hm
      rw [historyName_injective (le_antisymm (hmax n hn) hle)]

theorem mem_keys_iff {d : Dict Nat Envelope} {n : Nat} : n ∈ d.keys ↔ d.get? n ≠ none := by
  rw [Ne, Dict.get?_eq_none_iff, not_not]

/-- The files that are saved under the names of other revisions. -/
theorem filterMap_saved {d e : Dict Nat Envelope} {l : List Nat}
    (h : ∀ n ∈ l, e.get? n = d.get? n) :
    l.filterMap (fun n => (e.get? n).map Envelope.config) =
      l.filterMap fun n => (d.get? n).map Envelope.config := by
  refine List.filterMap_congr fun n hn => ?_
  rw [h n hn]

/-- Saving the current revision puts it in front. -/
theorem undoable_of_saved (hs : Ordered s) (hrevision : s.config.revision < 10 ^ 8)
    (h : t.history = s.history.set s.config.revision s.config) :
    t.undoable = ⟨t.config.config, s.config.config :: s.undoable.saved⟩ := by
  have hnew : s.config.revision ∉ s.history.keys := fun hmem => lt_irrefl _ (hs _ hmem)
  have hkeys : t.history.keys.Perm (s.config.revision :: s.history.keys) := by
    refine (List.perm_ext_iff_of_nodup t.history.nodup
      (List.nodup_cons.mpr ⟨hnew, s.history.nodup⟩)).mpr fun n => ?_
    change n ∈ t.history.keys ↔ _
    rw [mem_keys_iff, List.mem_cons, mem_keys_iff, h, Dict.get?_set]
    by_cases hn : s.config.revision = n
    · simp [hn]
    · simp [hn, Ne.symm hn]
  have hcandidates : t.candidates = s.config.revision :: s.candidates := by
    refine insertionSort_eq (hkeys.trans ((candidates_perm s).symm.cons _))
      (List.pairwise_cons.mpr ⟨fun n hn => ?_, candidates_sorted s⟩)
    have hlt := hs n ((candidates_perm s).mem_iff.mp hn)
    exact (historyName_le_iff (hlt.trans hrevision) hrevision).mpr hlt.le
  have hsaved := filterMap_saved (d := s.history) (e := t.history) (l := s.candidates)
    fun n hn => by
      rw [h, Dict.get?_set_ne]
      rintro rfl
      exact hnew ((candidates_perm s).mem_iff.mp hn)
  unfold AgentState.undoable
  rw [hcandidates, List.filterMap_cons, hsaved, h, Dict.get?_set_self]
  rfl

/-- Removing the newest file takes the front away. -/
theorem undoable_of_removed {n : Nat} {stored : Envelope}
    (hnewest : newest s.history.keys = some n) (hstored : s.history.get? n = some stored)
    (h : t.history = s.history.erase n) :
    s.undoable.saved = stored.config :: t.undoable.saved := by
  obtain ⟨rest, hrest⟩ := candidates_of_newest hnewest
  have hnodup := candidates_nodup s
  have hsorted := candidates_sorted s
  rw [hrest, List.nodup_cons] at hnodup
  rw [hrest, List.pairwise_cons] at hsorted
  have hkeys : t.history.keys.Perm rest := by
    refine (List.perm_ext_iff_of_nodup t.history.nodup hnodup.2).mpr fun k => ?_
    have hk : k ∈ s.history.keys ↔ k ∈ n :: rest :=
      hrest ▸ (candidates_perm s).mem_iff.symm
    change k ∈ t.history.keys ↔ _
    rw [mem_keys_iff, h, Dict.get?_erase]
    by_cases hkn : n = k
    · subst hkn
      simp [hnodup.1]
    · rw [if_neg hkn, ← mem_keys_iff, hk, List.mem_cons]
      simp [Ne.symm hkn]
  have hcandidates : t.candidates = rest := insertionSort_eq hkeys hsorted.2
  have hsaved := filterMap_saved (d := s.history) (e := t.history) (l := rest) fun k hk => by
    rw [h, Dict.get?_erase, if_neg]
    rintro rfl
    exact hnodup.1 hk
  unfold AgentState.undoable
  rw [hcandidates, hsaved, hrest, List.filterMap_cons, hstored]
  rfl

/-! ## 3. What a successful call does -/

/-- A `try` block whose recovery raises again returns where the block does. -/
theorem exec_try_eq_ok {current updated : Envelope} {recover : PyError → AgentM Runtime}
    {runtime : Runtime}
    (hrecover : ∀ error s r, (Prog.exec (handle host plan) (recover error) s).1 ≠ .ok r)
    (h : Prog.exec (handle host plan) (tryCatch (publish host current updated) recover) s =
      (.ok runtime, t)) :
    t.config = updated ∧ t.history = s.history := by
  rw [Prog.exec_tryCatch] at h
  cases hp : Prog.exec (handle host plan) (publish host current updated) s with
  | mk r u =>
    rw [hp] at h
    cases r with
    | error e => exact absurd (congrArg Prod.fst h) (hrecover e u runtime)
    | ok a =>
      cases h
      obtain ⟨_, v, hinstall, hrestart⟩ := Prog.exec_bind_eq_ok.mp hp
      have hframe := (exec_install_eq_ok hinstall).2
      have hv : t = v := by
        rw [← exec_restart_snd host plan .forward current.config updated.config v, hrestart]
      rw [hv, hframe]
      exact ⟨rfl, rfl⟩

/-- What ends in `throw` does not return. -/
theorem exec_throw_ne_ok {α β : Type} {p : AgentM α} {error : PyError} {b : β} :
    (Prog.exec (handle host plan) (p >>= fun _ => throw error) s).1 ≠ .ok b := by
  intro h
  have hexec : Prog.exec (handle host plan) (p >>= fun _ => throw error) s
      = (.ok b, (Prog.exec (handle host plan) (p >>= fun _ => throw error) s).2) :=
    Prod.ext h rfl
  obtain ⟨a, u, -, hthrow⟩ := Prog.exec_bind_eq_ok.mp hexec
  cases hthrow

theorem recoverApply_ne_ok {current updated : Envelope} {actor : PyStr} (error : PyError)
    (s : AgentState) (r : Runtime) :
    (Prog.exec (handle host plan) (recoverApply host current updated actor error) s).1 ≠ .ok r := by
  intro h
  have hexec : Prog.exec (handle host plan) (recoverApply host current updated actor error) s =
      (.ok r, (Prog.exec (handle host plan) (recoverApply host current updated actor error) s).2) :=
    Prod.ext h rfl
  obtain ⟨_, u, -, hrest⟩ := Prog.exec_bind_eq_ok.mp hexec
  exact exec_throw_ne_ok (congrArg Prod.fst hrest)

theorem recoverRollback_ne_ok {current target : Envelope} (error : PyError) (s : AgentState)
    (r : Runtime) :
    (Prog.exec (handle host plan) (recoverRollback host current target error) s).1 ≠ .ok r := by
  intro h
  have hexec : Prog.exec (handle host plan) (recoverRollback host current target error) s =
      (.ok r, (Prog.exec (handle host plan) (recoverRollback host current target error) s).2) :=
    Prod.ext h rfl
  obtain ⟨_, u, -, hrest⟩ := Prog.exec_bind_eq_ok.mp hexec
  exact exec_throw_ne_ok (congrArg Prod.fst hrest)

/-- **A successful `apply` saves the current configuration and puts the new one in its place.** -/
theorem exec_apply_eq_ok {request : Json} {actor key : PyStr} {members : List (PyStr × Json)}
    {result : ApplyResult} (hkey : requestKey request = .ok (members, key))
    (hfresh : s.idempotency.get? key = none)
    (h : Prog.exec (handle host plan) (apply host request actor) s = (.ok result, t)) :
    result.updated.revision = s.config.revision + 1 ∧ t.config = result.updated ∧
      t.history = s.history.set s.config.revision s.config := by
  unfold apply at h
  rw [hkey, Prog.exec_bind_ok (Prog.exec_ofExcept _)] at h
  obtain ⟨found, u, hfound, h⟩ := Prog.exec_bind_eq_ok.mp h
  rw [Prog.exec_call] at hfound
  obtain ⟨hanswer, rfl⟩ : Except.ok (s.idempotency.get? key) = Except.ok found ∧ s = u :=
    Prod.mk.inj hfound
  obtain rfl : found = none := (Except.ok.inj hanswer).symm.trans hfresh
  obtain ⟨current, u, hread, h⟩ := Prog.exec_bind_eq_ok.mp h
  rw [Prog.exec_call] at hread
  obtain ⟨-, hcurrent, rfl⟩ := read_eq_ok.mp hread
  cases hcurrent
  obtain ⟨_, u', hrevision, h⟩ := Prog.exec_bind_eq_ok.mp h
  obtain ⟨-, rfl⟩ := Prod.mk.inj (Prog.exec_ofExcept _ ▸ hrevision)
  obtain ⟨validated, u', hvalid, h⟩ := Prog.exec_bind_eq_ok.mp h
  obtain ⟨-, rfl⟩ := Prod.mk.inj (Prog.exec_ofExcept _ ▸ hvalid)
  obtain ⟨_, archived, hwrite, h⟩ := Prog.exec_bind_eq_ok.mp h
  rw [Prog.exec_call] at hwrite
  obtain ⟨-, -, rfl⟩ := write_eq_ok.mp hwrite
  obtain ⟨now, u', hnow, h⟩ := Prog.exec_bind_eq_ok.mp h
  rw [Prog.exec_call] at hnow
  obtain ⟨-, rfl⟩ := Prod.mk.inj hnow
  obtain ⟨runtime, published, htry, h⟩ := Prog.exec_bind_eq_ok.mp h
  obtain ⟨hconfig, hhistory⟩ := exec_try_eq_ok recoverApply_ne_ok htry
  obtain ⟨_, remembered, hremember, h⟩ := Prog.exec_bind_eq_ok.mp h
  rw [Prog.exec_call] at hremember
  obtain ⟨-, rfl⟩ := Prod.mk.inj hremember
  obtain ⟨_, audited, haudit, h⟩ := Prog.exec_bind_eq_ok.mp h
  rw [Prog.exec_call] at haudit
  obtain ⟨-, -, rfl⟩ := write_eq_ok.mp haudit
  cases h
  exact ⟨rfl, hconfig, hhistory⟩

/-- **A successful `rollback` restores the newest file and removes it.** -/
theorem exec_rollback_eq_ok {actor : PyStr} {result : Envelope × Runtime}
    (h : Prog.exec (handle host plan) (rollback host actor) s = (.ok result, t)) :
    ∃ n stored, newest s.history.keys = some n ∧ s.history.get? n = some stored ∧
      t.config.revision = s.config.revision + 1 ∧ t.config.config = stored.config ∧
      t.history = s.history.erase n := by
  obtain ⟨revisions, u, hglob, h⟩ := Prog.exec_bind_eq_ok.mp h
  rw [Prog.exec_call] at hglob
  obtain ⟨-, hkeys, rfl⟩ := read_eq_ok.mp hglob
  cases hkeys
  cases hnewest : newest u.history.keys with
  | none =>
    rw [hnewest] at h
    cases h
  | some n =>
    rw [hnewest] at h
    unfold rollbackTo at h
    obtain ⟨stored, v, hread, hrest⟩ := Prog.exec_bind_eq_ok.mp h
    clear h
    rw [Prog.exec_call] at hread
    obtain ⟨-, hstored, rfl⟩ := read_eq_ok.mp hread
    obtain ⟨current, v', hcurrent, h⟩ := Prog.exec_bind_eq_ok.mp hrest
    clear hrest
    rw [Prog.exec_call] at hcurrent
    obtain ⟨-, hconfig, rfl⟩ := read_eq_ok.mp hcurrent
    obtain rfl := Option.some.inj hconfig
    obtain ⟨now, v', hnow, h⟩ := Prog.exec_bind_eq_ok.mp h
    rw [Prog.exec_call] at hnow
    obtain ⟨-, rfl⟩ := Prod.mk.inj hnow
    obtain ⟨runtime, published, htry, h⟩ := Prog.exec_bind_eq_ok.mp h
    obtain ⟨hconfig, hhistory⟩ := exec_try_eq_ok recoverRollback_ne_ok htry
    obtain ⟨_, unlinked, hunlink, h⟩ := Prog.exec_bind_eq_ok.mp h
    rw [Prog.exec_call] at hunlink
    obtain ⟨-, -, rfl⟩ := write_eq_ok.mp hunlink
    obtain ⟨_, audited, haudit, h⟩ := Prog.exec_bind_eq_ok.mp h
    rw [Prog.exec_call] at haudit
    obtain ⟨-, -, rfl⟩ := write_eq_ok.mp haudit
    cases h
    refine ⟨n, stored, rfl, hstored, ?_, ?_, congrArg (Dict.erase · n) hhistory⟩
    · change published.config.revision = _
      rw [hconfig]
    · change published.config.config = _
      rw [hconfig]

/-! ## 4. Calls -/

/-- The operations that only look at something. -/
def Act.reads : Act → Prop
  | .remembered _ | .readConfig | .globHistory | .readHistory _ | .utcNow => True
  | _ => False

/-- A call that succeeds, or that is refused before it writes anything; the move is what it does
to the undo stack. -/
inductive UndoCall (host : Host) (s : AgentState) :
    Option (UndoMove Config) → AgentState → Prop where
  /-- a successful `apply` with a fresh key -/
  | applied {plan : Plan} {request : Json} {actor key : PyStr} {members : List (PyStr × Json)}
    {result : ApplyResult} {t : AgentState} (hkey : requestKey request = .ok (members, key))
    (hfresh : s.idempotency.get? key = none)
    (h : Prog.exec (handle host plan) (apply host request actor) s = (.ok result, t)) :
    UndoCall host s (some (.replace result.updated.config)) t
  /-- a successful `rollback` -/
  | rolledBack {plan : Plan} {actor : PyStr} {result : Envelope × Runtime} {t : AgentState}
    (h : Prog.exec (handle host plan) (rollback host actor) s = (.ok result, t)) :
    UndoCall host s (some .undo) t
  /-- an `apply` that raises before the history write -/
  | refusedApply {plan : Plan} {request : Json} {actor : PyStr} {error : PyError} {t : AgentState}
    (h : Prog.exec (handle host plan) (apply host request actor) s = (.error error, t))
    (hreads : Prog.Along (handle host plan) (fun act _ => act.reads) (apply host request actor) s) :
    UndoCall host s none t
  /-- a `rollback` that raises before it writes -/
  | refusedRollback {plan : Plan} {actor : PyStr} {error : PyError} {t : AgentState}
    (h : Prog.exec (handle host plan) (rollback host actor) s = (.error error, t))
    (hreads : Prog.Along (handle host plan) (fun act _ => act.reads) (rollback host actor) s) :
    UndoCall host s none t

/-- Calls one after the other. -/
inductive UndoCalls (host : Host) :
    AgentState → List (Option (UndoMove Config)) → AgentState → Prop where
  | nil (s : AgentState) : UndoCalls host s [] s
  | cons {s t u : AgentState} {move : Option (UndoMove Config)}
    {moves : List (Option (UndoMove Config))} (h : UndoCall host s move t)
    (hs : UndoCalls host t moves u) : UndoCalls host s (move :: moves) u

/-- What only reads changes nothing. -/
theorem exec_of_reads {α : Type} {p : AgentM α}
    (h : Prog.Along (handle host plan) (fun act _ => act.reads) p s) :
    (Prog.exec (handle host plan) p s).2 = s := by
  refine h.exec_preserves (I := (· = s)) ?_ rfl
  rintro act u hact rfl
  cases act with
  | remembered | utcNow => rfl
  | readConfig | globHistory | readHistory => exact read_snd _ _
  | _ => cases hact

/-- A call seen through the undo stack. -/
structure Refines (s t : AgentState) (moves : List (UndoMove Config)) : Prop where
  revision : t.config.revision = s.config.revision + moves.length
  undoable : Undoable.machine.run s.undoable moves = some t.undoable
  ordered : Ordered t

/-- **One call is one move.** -/
theorem UndoCall.refines {move : Option (UndoMove Config)} (h : UndoCall host s move t)
    (hs : Ordered s) (ht : t.config.revision ≤ 10 ^ 8) : Refines s t move.toList := by
  cases h with
  | applied hkey hfresh h =>
    obtain ⟨hrevision, hconfig, hhistory⟩ := exec_apply_eq_ok hkey hfresh h
    have hr : t.config.revision = s.config.revision + 1 := hconfig ▸ hrevision
    refine ⟨hr, ?_, fun n hn => ?_⟩
    · have hundo := undoable_of_saved hs (by omega) hhistory
      rw [hconfig] at hundo
      exact congrArg some hundo.symm
    · rw [mem_keys_iff, hhistory, Dict.get?_set] at hn
      split at hn
      · omega
      · have := hs n (mem_keys_iff.mpr hn)
        omega
  | rolledBack h =>
    obtain ⟨n, stored, hnewest, hstored, hrevision, hconfig, hhistory⟩ := exec_rollback_eq_ok h
    refine ⟨hrevision, ?_, fun k hk => ?_⟩
    · have hundo := undoable_of_removed hnewest hstored hhistory
      have hs : s.undoable = ⟨s.config.config, stored.config :: t.undoable.saved⟩ := by
        rw [← hundo]
        rfl
      rw [hs, ← hconfig]
      rfl
    · rw [mem_keys_iff, hhistory, Dict.get?_erase] at hk
      split at hk
      · exact absurd rfl hk
      · have := hs k (mem_keys_iff.mpr hk)
        omega
  | refusedApply h hreads | refusedRollback h hreads =>
    have hsame := exec_of_reads hreads
    rw [h] at hsame
    cases hsame
    exact ⟨rfl, rfl, hs⟩

theorem Refines.trans {moves moves' : List (UndoMove Config)} (h : Refines s t moves)
    (h' : Refines t u moves') : Refines s u (moves ++ moves') where
  revision := by rw [h'.revision, h.revision, List.length_append, Nat.add_assoc]
  undoable := by
    rw [Machine.run_append, h.undoable]
    exact h'.undoable
  ordered := h'.ordered

/-- No call takes the revision back. -/
theorem UndoCall.revision_le {move : Option (UndoMove Config)} (h : UndoCall host s move t) :
    s.config.revision ≤ t.config.revision := by
  cases h with
  | applied hkey hfresh h =>
    obtain ⟨hrevision, hconfig, -⟩ := exec_apply_eq_ok hkey hfresh h
    rw [hconfig, hrevision]
    omega
  | rolledBack h =>
    obtain ⟨n, stored, -, -, hrevision, -⟩ := exec_rollback_eq_ok h
    omega
  | refusedApply h hreads | refusedRollback h hreads =>
    have hsame := exec_of_reads hreads
    rw [h] at hsame
    cases hsame
    exact le_rfl

theorem UndoCalls.revision_le {moves : List (Option (UndoMove Config))}
    (h : UndoCalls host s moves t) : s.config.revision ≤ t.config.revision := by
  induction h with
  | nil => exact le_rfl
  | cons h _ ih => exact h.revision_le.trans ih

/-- **A run of calls is the run of its moves.** -/
theorem UndoCalls.refines {moves : List (Option (UndoMove Config))}
    (h : UndoCalls host s moves t) (hs : Ordered s) (ht : t.config.revision ≤ 10 ^ 8) :
    Refines s t moves.reduceOption := by
  induction h with
  | nil => exact ⟨rfl, rfl, hs⟩
  | @cons s t u move moves h hrest ih =>
    have hfirst := h.refines hs (hrest.revision_le.trans ht)
    have hall := hfirst.trans (ih hfirst.ordered ht)
    cases move with
    | none => exact hall
    | some m => exact hall

/-! ## 5. Calls that nothing hinders -/

/-- No operation on a file fails. -/
def Plan.Calm (plan : Plan) : Prop := ∀ act, plan.outcome act = .done

/-- On a host without Docker, what can be rendered is published. -/
theorem exec_publish_renderOnly (current updated : Envelope)
    {generated : GeneratedFile → Option Content} (hhost : host.applyDocker = false)
    (hplan : plan.Calm) (hencodable : updated.encodable = true)
    (hrendering : IsRendering host updated.config generated) (s : AgentState) :
    Prog.exec (handle host plan) (publish host current updated) s =
      (.ok (.renderOnly (changedServices current.config updated.config)),
        s.publish updated generated) := by
  have hwrite : Prog.exec (handle host plan) (perform (.writeConfig .forward updated)) s =
      (.ok (), s.publish updated s.generated) :=
    exec_writeConfig_eq_ok.mpr ⟨hplan _, hencodable, rfl⟩
  have hrenders : plan.Renders .forward := ⟨fun _ _ => hplan _, hplan _, fun _ => hplan _⟩
  have hrender := exec_render hrenders hrendering (s.publish updated s.generated)
  have hinstall : Prog.exec (handle host plan) (install .forward updated) s =
      (.ok (), s.publish updated generated) := by
    unfold install
    rw [Prog.exec_bind_ok hwrite, hrender]
    rfl
  unfold publish
  rw [Prog.exec_bind_ok hinstall, restart, applyRuntime, if_pos hhost]
  rfl

theorem exec_write_calm (hplan : plan.Calm) {act : Act} {encodable : Bool} (t : AgentState)
    (h : encodable = true) : write (plan.outcome act) encodable s t = (.ok (), t) :=
  write_eq_ok.mpr ⟨hplan act, h, rfl⟩

/-- There an admitted `apply` succeeds. -/
theorem exec_apply_renderOnly (actor : PyStr) {request : Json} {key : PyStr}
    {validated : Config × List PyStr} {generated : GeneratedFile → Option Content}
    (hhost : host.applyDocker = false) (hplan : plan.Calm)
    (hadmitted : Admitted host plan s request key validated) (hs : s.config.encodable = true)
    (htexts : validated.1.texts.all encodable = true)
    (hrendering : IsRendering host validated.1 generated)
    (haudit : (encodable (actor.take 128) && validated.2.all encodable) = true) :
    ∃ result t, Prog.exec (handle host plan) (apply host request actor) s = (.ok result, t) ∧
      result.updated.config = validated.1 := by
  have hwrite : Prog.exec (handle host plan) (perform (.writeHistory s.config)) s
      = (.ok (), s.archive) := by
    rw [Prog.exec_call]
    exact exec_write_calm hplan _ hs
  have hnow : Prog.exec (handle host plan) (perform .utcNow) s.archive
      = (.ok plan.updatedAt, s.archive) := Prog.exec_call _
  let services := changedServices s.config.config validated.1
  let published := s.archive.publish (updatedBy plan s validated.1) generated
  let result : ApplyResult := ⟨updatedBy plan s validated.1, validated.2, .renderOnly services⟩
  let remembered : AgentState :=
    { published with idempotency := remember published.idempotency key result }
  have htry : Prog.exec (handle host plan)
      (tryCatch (publish host s.config (updatedBy plan s validated.1))
        (recoverApply host s.config (updatedBy plan s validated.1) actor)) s.archive =
      (.ok (.renderOnly services), published) := by
    rw [Prog.exec_tryCatch, exec_publish_renderOnly s.config (updatedBy plan s validated.1) hhost
      hplan htexts hrendering]
    rfl
  let details : AuditDetails := .apply (s.config.revision + 1) services validated.2
  let recorded : AgentState :=
    { remembered with audit := remembered.audit ++ [⟨plan.auditTime, actor.take 128, details⟩] }
  have hrecord : Prog.exec (handle host plan) (perform (.audit (actor.take 128) details))
      remembered = (.ok (), recorded) := by
    rw [Prog.exec_call]
    exact exec_write_calm hplan _ haudit
  rw [exec_apply_of_admitted hadmitted]
  unfold applyAdmitted
  rw [Prog.exec_bind_ok hwrite, Prog.exec_bind_ok hnow]
  refine ⟨result, recorded, (Prog.exec_bind_ok htry).trans ?_, rfl⟩
  exact (Prog.exec_bind_ok (Prog.exec_call _)).trans (Prog.exec_bind_ok hrecord)

/-- And so does a `rollback` where something is saved. -/
theorem exec_rollback_renderOnly (actor : PyStr) {n : Nat} {stored : Envelope}
    {generated : GeneratedFile → Option Content} (hhost : host.applyDocker = false)
    (hplan : plan.Calm) (hnewest : newest s.history.keys = some n)
    (hstored : s.history.get? n = some stored) (hencodable : stored.encodable = true)
    (hrendering : IsRendering host stored.config generated)
    (haudit : encodable (actor.take 128) = true) :
    ∃ result t, Prog.exec (handle host plan) (rollback host actor) s = (.ok result, t) := by
  have hread : Prog.exec (handle host plan) (perform (.readHistory n)) s = (.ok stored, s) := by
    rw [Prog.exec_call]
    exact read_eq_ok.mpr ⟨hplan _, hstored, rfl⟩
  have hglob : Prog.exec (handle host plan) (perform .globHistory) s
      = (.ok s.history.keys, s) := by
    rw [Prog.exec_call]
    exact read_eq_ok.mpr ⟨hplan _, rfl, rfl⟩
  have hnow : Prog.exec (handle host plan) (perform .utcNow) s = (.ok plan.updatedAt, s) :=
    Prog.exec_call _
  let target : Envelope := ⟨s.config.revision + 1, plan.updatedAt, stored.config⟩
  let published := s.publish target generated
  let unlinked : AgentState := { published with history := published.history.erase n }
  have htry : Prog.exec (handle host plan)
      (tryCatch (publish host s.config target) (recoverRollback host s.config target)) s =
      (.ok (.renderOnly (changedServices s.config.config stored.config)), published) := by
    rw [Prog.exec_tryCatch, exec_publish_renderOnly s.config target hhost hplan hencodable
      hrendering]
  have hunlink : Prog.exec (handle host plan) (perform (.unlinkHistory n)) published
      = (.ok (), unlinked) := by
    rw [Prog.exec_call]
    exact exec_write_calm hplan _ rfl
  have haudit : Prog.exec (handle host plan)
      (perform (.audit (actor.take 128) (.rollback target.revision))) unlinked =
      (.ok (), { unlinked with audit := unlinked.audit ++
        [⟨plan.auditTime, actor.take 128, .rollback target.revision⟩] }) := by
    rw [Prog.exec_call]
    exact exec_write_calm hplan _ ((Bool.and_true _).trans haudit)
  unfold rollback
  rw [Prog.exec_bind_ok hglob, hnewest]
  unfold rollbackTo
  rw [Prog.exec_bind_ok hread, Prog.exec_bind_ok (exec_readConfig (hplan _) s),
    Prog.exec_bind_ok hnow]
  exact ⟨_, _, (Prog.exec_bind_ok htry).trans
    ((Prog.exec_bind_ok hunlink).trans (Prog.exec_bind_ok haudit))⟩

/-! ## 6. The stack -/

/-- A new directory saves nothing. -/
theorem undoable_initial (host : Host) (now : PyStr) :
    (initial host now).undoable = ⟨defaultConfig, []⟩ ∧ (initial host now).config.revision = 1 ∧
      Ordered (initial host now) := by
  obtain ⟨generated, hinitial⟩ := initial_frame host now
  rw [hinitial]
  refine ⟨rfl, rfl, fun n hn => ?_⟩
  cases hn

/-- **The history directory is an undo stack.**  After any sequence of successful calls, with any
refused calls between them: the revision has counted the successes, and the directory holds what an
undo stack holds; from there every further call is a move of the stack, a `rollback` right behind an
`apply` takes it back, and so do as many rollbacks as there were calls of `apply`. -/
theorem undo_stack {now : PyStr} {moves : List (Option (UndoMove Config))}
    (h : UndoCalls host (initial host now) moves s) (hs : s.config.revision ≤ 10 ^ 8) :
    (s.config.revision = 1 + moves.reduceOption.length ∧
      Undoable.machine.run ⟨defaultConfig, []⟩ moves.reduceOption = some s.undoable) ∧
    (∀ move t, UndoCall host s move t → t.config.revision ≤ 10 ^ 8 →
      t.config.revision = s.config.revision + move.toList.length ∧
      Undoable.machine.run s.undoable move.toList = some t.undoable) ∧
    (∀ config t u, UndoCall host s (some (.replace config)) t → UndoCall host t (some .undo) u →
      u.config.revision ≤ 10 ^ 8 → u.config.config = s.config.config) ∧
    (∀ (configs : List Config) moves' t, UndoCalls host s moves' t → t.config.revision ≤ 10 ^ 8 →
      moves'.reduceOption = configs.map .replace ++ List.replicate configs.length .undo →
      t.undoable = s.undoable) := by
  obtain ⟨hundoable, hrevision, hordered⟩ := undoable_initial host now
  have hrun := h.refines hordered hs
  have hback (configs : List Config) (moves' : List (Option (UndoMove Config))) (t : AgentState)
      (ht : UndoCalls host s moves' t) (hle : t.config.revision ≤ 10 ^ 8)
      (hmoves : moves'.reduceOption =
        configs.map .replace ++ List.replicate configs.length .undo) :
      t.undoable = s.undoable := by
    have hback := (ht.refines hrun.ordered hle).undoable
    rw [hmoves, Undoable.run_replaces_undos] at hback
    exact (Option.some.inj hback).symm
  refine ⟨⟨?_, ?_⟩, fun move t ht hle => ?_, fun config t u ht hu hle => ?_, hback⟩
  · rw [hrun.revision, hrevision]
  · rw [← hundoable]
    exact hrun.undoable
  · exact ⟨(ht.refines hrun.ordered hle).revision, (ht.refines hrun.ordered hle).undoable⟩
  · have hcalls := UndoCalls.cons ht (UndoCalls.cons hu (UndoCalls.nil u))
    exact congrArg Undoable.current (hback [config] _ u hcalls hle rfl)

/-- A host without Docker. -/
def renderOnlyHost : Host := { exampleHost with applyDocker := false }

/-- What `apply` reads from a request. -/
theorem exampleRequest_members (request : Config) : ∃ members,
    requestKey (exampleRequest request) = .ok (members, py "abcdefghijklmnop") ∧
    checkRevision (get members "expectedRevision") 1 = .ok () ∧
    get members "config" = request.toJson := by
  have hrevision : (checkRevision (.int 1) 1).toOption = some () := by decide
  have hkey : py "idempotencyKey" ≠ py "config" := by decide
  have hexpected : py "expectedRevision" ≠ py "config" := by decide
  refine ⟨_, rfl, eq_ok_of_toOption hrevision, ?_⟩
  simp [get, getOr, Json.member, hkey, hexpected]

/-- A configuration that is accepted and can be rendered is applied in a new directory. -/
theorem example_applied {request config : Config}
    (hvalid : validateConfig id request.toJson = .ok (config, []))
    (htexts : config.texts.all encodable = true)
    (hrendering : ∃ generated, IsRendering renderOnlyHost config generated) :
    ∃ result t, Prog.exec (handle renderOnlyHost (calm []))
        (apply renderOnlyHost (exampleRequest request) []) (initial renderOnlyHost []) =
          (.ok result, t) ∧
      result.updated.config = config ∧
      t.history = Dict.empty.set 1 (initial renderOnlyHost []).config := by
  obtain ⟨generated, hrendering⟩ := hrendering
  obtain ⟨generated', hframe⟩ := initial_frame renderOnlyHost []
  have hencodable := (installed_initial renderOnlyHost []).encodable
  rw [hframe] at hencodable ⊢
  obtain ⟨members, hkey, hrevision, hconfig⟩ := exampleRequest_members request
  rw [← hconfig] at hvalid
  have hadmitted : Admitted renderOnlyHost (calm []) ((blank []).withGenerated generated')
      (exampleRequest request) (py "abcdefghijklmnop") (config, []) :=
    ⟨⟨members, hkey, hrevision, hvalid⟩, rfl, rfl⟩
  obtain ⟨result, t, happly, hconfig⟩ := exec_apply_renderOnly [] rfl (fun _ => rfl) hadmitted
    hencodable htexts hrendering rfl
  exact ⟨result, t, happly, hconfig, (exec_apply_eq_ok rfl rfl happly).2.2⟩

/-- The sample is applied, a call without a body is refused, and the sample is taken back. -/
theorem undo_stack_example : ∃ t,
    UndoCalls renderOnlyHost (initial renderOnlyHost [])
      [some (.replace sampleConfig), none, some .undo] t ∧
    t.config.revision = 3 ∧ t.undoable = ⟨defaultConfig, []⟩ := by
  have hcalm : (calm []).Calm := fun _ => rfl
  obtain ⟨result, t, happly, hconfig, hhistory⟩ := example_applied validateConfig_sample
    sample_encodable (sample_rendering renderOnlyHost)
  obtain ⟨generated, hframe⟩ := initial_frame renderOnlyHost []
  obtain ⟨hencodable, hrendering⟩ := installed_initial renderOnlyHost []
  obtain ⟨-, hrevision, -⟩ := undoable_initial renderOnlyHost []
  rw [hframe] at hencodable hrendering hrevision
  rw [hframe] at hhistory
  have hfresh : (initial renderOnlyHost []).idempotency.get? (py "abcdefghijklmnop") = none := by
    rw [hframe]
    rfl
  obtain ⟨hnext, hcurrent, -⟩ := exec_apply_eq_ok rfl hfresh happly
  have hrefused : Prog.exec (handle renderOnlyHost (calm [])) (apply renderOnlyHost .null []) t =
      (.error .attributeError, t) := rfl
  obtain ⟨result', u, hrollback⟩ := exec_rollback_renderOnly [] (n := 1) rfl hcalm
    (by rw [hhistory]; rfl) (by rw [hhistory]; rfl) hencodable hrendering rfl
  obtain ⟨-, -, -, -, hlast, -⟩ := exec_rollback_eq_ok hrollback
  have hfirst : UndoCall renderOnlyHost (initial renderOnlyHost []) (some (.replace sampleConfig))
      t := by
    have happlied := UndoCall.applied rfl hfresh happly
    rwa [hconfig] at happlied
  have hcalls := UndoCalls.cons hfirst (UndoCalls.cons (UndoCall.refusedApply hrefused trivial)
    (UndoCalls.cons (UndoCall.rolledBack hrollback) (UndoCalls.nil u)))
  have hu : u.config.revision = 3 := by
    rw [hlast, hcurrent, hnext, hframe]
    rfl
  obtain ⟨⟨-, hrun⟩, -⟩ := undo_stack hcalls (by omega)
  exact ⟨u, hcalls, hu, (Option.some.inj hrun).symm⟩

end ZtPlanet.Agent
