/-
# The default user group

`addUserGroup` marks a group as the default one in two statements: an `updateMany` takes the mark
from every group that has it, and an `upsert` writes the group with the mark.  In between it parses
a date, and the upsert has a limit of networks that `parseInt` makes of a text.

The statements are not one transaction.  A call that fails at the second one has taken the mark away
already, and of two calls that both clear before either writes, both leave their mark.  No other
step does harm (`default_group_iff`).  Registrations pick the group with `findFirst`.
-/
import ZtPlanet.Js.Double
import ZtPlanet.Js.Number
import ZtPlanet.Lib.Dict
import ZtPlanet.Lib.Fields
import ZtPlanet.Lib.Machine
import ZtPlanet.Lib.Pool

namespace ZtPlanet.Ztnet.UserGroups

open ZtPlanet.Lib ZtPlanet.Python ZtPlanet.Js

/-! ## 1. Inputs -/

/-- What `addUserGroup` is called with. -/
structure Input where
  id : Option Double
  groupName : PyStr
  maxNetworks : PyStr
  isDefault : Bool
  expiresAt : Option PyStr
deriving DecidableEq

/-- The dates of the host, in milliseconds; `none` is an invalid date. -/
structure Dates where
  /-- `Date.parse` -/
  parse : PyStr → Option Int
  /-- `setHours(0, 0, 0, 0)` -/
  startOfDay : Int → Option Int
  /-- `setHours(23, 59, 59, 999)` -/
  endOfDay : Int → Option Int

variable (dates : Dates)

/-- `expiresAt`, as the schema transforms it. -/
def Input.expires (input : Input) : Option PyStr := input.expiresAt.filter (· ≠ [])

/-- The schema. -/
def Input.accepted (now : Int) (input : Input) : Bool :=
  decide (input.id ≠ some .nan) && decide (strip Js.isSpace input.groupName ≠ []) &&
    decide (strip Js.isSpace input.maxNetworks ≠ []) &&
    match input.expires with
    | none => true
    | some text =>
      match dates.parse text, dates.startOfDay now with
      | some selectedDate, some today => decide (today ≤ selectedDate)
      | _, _ => false

/-- `input.id || -1`. -/
def Input.key (input : Input) : Double :=
  match input.id with
  | none | some .nan => .value (-1)
  | some id => if id = .value 0 then .value (-1) else id

/-! ## 2. The table -/

structure UserGroup where
  name : PyStr
  maxNetworks : Int
  isDefault : Bool
  expiresAt : Option Int
deriving DecidableEq

/-- The groups by their ids, and the next id. -/
structure Table where
  groups : Dict Int UserGroup
  nextId : Int
deriving DecidableEq

/-- An integer of the database. -/
def int4 (n : Int) : Option Int := if -2 ^ 31 ≤ n ∧ n < 2 ^ 31 then some n else none

/-- The end of the day of expiry, if there is one; `none` is an invalid date. -/
def Input.expiry (input : Input) : Option (Option Int) :=
  match input.expires with
  | none => some none
  | some text => ((dates.parse text).bind dates.endOfDay).map some

/-- What is written; `none` is an argument that the database client refuses. -/
def Input.row (input : Input) : Option UserGroup := do
  let maxNetworks ← (parseInt input.maxNetworks none).bind int4
  let expiresAt ← input.expiry dates
  return { name := input.groupName, maxNetworks, isDefault := input.isDefault, expiresAt }

namespace Table

variable (t : Table)

/-- How many groups are marked. -/
def count : Nat := (t.groups.entries.filter fun e => e.2.isDefault).length

/-- `updateMany({ where: { isDefault: true }, data: { isDefault: false } })`. -/
def clearDefault : Table :=
  { t with
    groups := t.groups.map fun _ g => if g.isDefault then { g with isDefault := false } else g }

/-- The id of the group that an upsert writes. -/
def target (id : Int) : Int := if t.groups.contains id then id else t.nextId

/-- `upsert`: a name may not be taken by another group, nor the id of a new one. -/
def upsert (input : Input) : Option Table := do
  let id ← input.key.integer?.bind int4
  let row ← input.row dates
  let taken := t.groups.entries.any fun e => e.1 ≠ t.target id && e.2.name == row.name
  if taken then none
  else if t.groups.contains id then some { t with groups := t.groups.set id row }
  else if t.groups.contains t.nextId then none
  else some ⟨t.groups.set t.nextId row, t.nextId + 1⟩

/-- `findFirst({ where: { isDefault: true } })` of a registration. -/
def defaultUserGroup : Option (Int × UserGroup) := t.groups.entries.find? fun e => e.2.isDefault

end Table

/-! ## 3. Calls -/

/-- How far a call is. -/
inductive Phase where
  | started
  /-- Behind the `updateMany`, which has changed this many rows. -/
  | cleared (count : Nat)
  | done
  | failed (count : Nat)
deriving DecidableEq

structure Call where
  input : Input
  phase : Phase
deriving DecidableEq

structure State where
  table : Table
  calls : List Call
deriving DecidableEq

/-- A step of a call; the database may fail to answer any statement. -/
inductive Event where
  | start (now : Int) (input : Input)
  | updateMany (i : Nat) (answers : Bool)
  | upsert (i : Nat) (answers : Bool)
deriving DecidableEq

namespace State

variable (s : State)

def goto (i : Nat) (call : Call) : State := { s with calls := s.calls.set i call }

/-- The call `i`, if it is at its upsert, with the number of rows that it has changed. -/
def atUpsert (i : Nat) : Option (Input × Nat) :=
  match s.calls[i]? with
  | some ⟨input, .cleared count⟩ => some (input, count)
  | _ => none

/-- The call `i`, if it is at its `updateMany`. -/
def atUpdateMany (i : Nat) : Option Input :=
  match s.calls[i]? with
  | some ⟨input, .started⟩ => some input
  | _ => none

end State

/-- `addUserGroup`, any number of calls of it. -/
def machine : Machine State Event where
  step s
    | .start now input =>
      if input.accepted dates now then
        -- a group that is no default one is written at once
        some
          { s with calls := s.calls ++ [⟨input, if input.isDefault then .started else .cleared 0⟩] }
      else none
    | .updateMany i answers =>
      (s.atUpdateMany i).map fun input =>
        if answers then
          { table := s.table.clearDefault
            calls := s.calls.set i ⟨input, .cleared s.table.count⟩ }
        else s.goto i ⟨input, .failed 0⟩
    | .upsert i answers =>
      (s.atUpsert i).map fun (input, count) =>
        match if answers then s.table.upsert dates input else none with
        | some table => { table, calls := s.calls.set i ⟨input, .done⟩ }
        | none => s.goto i ⟨input, .failed count⟩

/-! ## 4. What is asked for -/

/-- The group is marked. -/
def Table.IsDefault (t : Table) (id : Int) : Prop :=
  ∃ g, t.groups.get? id = some g ∧ g.isDefault = true

/-- **At most one group is the default one, and a call that has failed has changed no row.** -/
structure Atomic (s : State) : Prop where
  unique : ∀ id id', s.table.IsDefault id → s.table.IsDefault id' → id = id'
  kept : ∀ call ∈ s.calls, ∀ count, call.phase = .failed count → count = 0

/-- An upsert with the mark goes through only where no other group has it, and fails only in a call
that has taken no mark away. -/
def Separate (s : State) : Event → Prop
  | .upsert i answers => ∀ input count, s.atUpsert i = some (input, count) →
    if answers = true ∧ (s.table.upsert dates input).isSome = true then
      input.isDefault = true → ∀ id, s.table.IsDefault id → input.key.integer? = some id
    else count = 0
  | _ => True

/-! ## 5. The statements -/

variable {dates} {t t' : Table} {s s' : State} {input : Input} {i : Nat}

/-- No group is marked behind an `updateMany`. -/
theorem not_isDefault_clearDefault (t : Table) (id : Int) : ¬t.clearDefault.IsDefault id := by
  rintro ⟨g, hg, hdefault⟩
  unfold Table.clearDefault at hg
  rw [Dict.get?_map] at hg
  obtain ⟨g', -, rfl⟩ := Option.map_eq_some_iff.mp hg
  split at hdefault
  · cases hdefault
  · next hnot => exact hnot hdefault

/-- A group is marked if and only if one is counted. -/
theorem count_eq_zero_iff : t.count = 0 ↔ ∀ id, ¬t.IsDefault id := by
  unfold Table.count
  rw [List.length_eq_zero_iff, List.filter_eq_nil_iff]
  constructor
  · rintro hnone id ⟨g, hg, hdefault⟩
    exact hnone (id, g) (Dict.get?_eq_some_iff.mp hg) hdefault
  · intro hnone e he hdefault
    exact hnone e.1 ⟨e.2, Dict.get?_eq_some_iff.mpr he, hdefault⟩

/-- **What an `updateMany` does to registrations**: they have the group that they had if and only if
no row is changed. -/
theorem defaultUserGroup_clearDefault_iff :
    t.clearDefault.defaultUserGroup = t.defaultUserGroup ↔ t.count = 0 := by
  have hfind (t : Table) : t.defaultUserGroup = none ↔ t.count = 0 := by
    unfold Table.defaultUserGroup Table.count
    rw [List.find?_eq_none, List.length_eq_zero_iff, List.filter_eq_nil_iff]
  have hcleared : t.clearDefault.defaultUserGroup = none :=
    (hfind _).mpr (count_eq_zero_iff.mpr (not_isDefault_clearDefault t))
  rw [hcleared, eq_comm, hfind]

/-- A registration picks a group that is marked, if there is one. -/
theorem defaultUserGroup_of_unique (hunique : ∀ id id', t.IsDefault id → t.IsDefault id' → id = id')
    {id : Int} {g : UserGroup} (hg : t.groups.get? id = some g) (hdefault : g.isDefault = true) :
    t.defaultUserGroup = some (id, g) := by
  have hmem := Dict.get?_eq_some_iff.mp hg
  unfold Table.defaultUserGroup
  cases hfind : t.groups.entries.find? fun e => e.2.isDefault with
  | none => exact absurd hdefault (List.find?_eq_none.mp hfind _ hmem)
  | some e =>
    have hget := Dict.get?_eq_some_iff.mpr (List.mem_of_find?_eq_some hfind)
    have hmarked : e.2.isDefault = true := by simpa using List.find?_some hfind
    obtain rfl := hunique id e.1 ⟨g, hg, hdefault⟩ ⟨e.2, hget, hmarked⟩
    rw [hg] at hget
    rw [Option.some.inj hget]

/-- **An upsert** that goes through writes one group, an old one under its own id. -/
theorem upsert_eq_some (h : t.upsert dates input = some t') :
    ∃ id row, input.key.integer? = some id ∧ row.isDefault = input.isDefault ∧
      t'.groups = t.groups.set (t.target id) row ∧
      (t.groups.contains (t.target id) = true → t.target id = id) := by
  unfold Table.upsert at h
  obtain ⟨id, hid, h⟩ := Option.bind_eq_some_iff.mp h
  obtain ⟨row, hrow, h⟩ := Option.bind_eq_some_iff.mp h
  obtain ⟨n, hn, hint⟩ := Option.bind_eq_some_iff.mp hid
  obtain ⟨-, hint⟩ := Option.ite_none_right_eq_some.mp hint
  obtain rfl := Option.some.inj hint
  have hdefault : row.isDefault = input.isDefault := by
    unfold Input.row at hrow
    obtain ⟨maxNetworks, -, hrow⟩ := Option.bind_eq_some_iff.mp hrow
    obtain ⟨expiresAt, -, hrow⟩ := Option.bind_eq_some_iff.mp hrow
    obtain rfl := Option.some.inj hrow
    rfl
  refine ⟨n, row, hn, hdefault, ?_⟩
  unfold Table.target
  dsimp only at h
  obtain ⟨-, h⟩ := Option.ite_none_left_eq_some.mp h
  split at h
  · next hcontains =>
    obtain rfl := Option.some.inj h
    rw [if_pos hcontains]
    exact ⟨rfl, fun _ => rfl⟩
  · next hcontains =>
    obtain ⟨hnew, h⟩ := Option.ite_none_left_eq_some.mp h
    obtain rfl := Option.some.inj h
    rw [if_neg hcontains]
    exact ⟨rfl, fun hold => absurd hold hnew⟩

/-- **Where an upsert leaves one mark**: it writes none, or no other group has one. -/
theorem unique_upsert_iff (hunique : ∀ id id', t.IsDefault id → t.IsDefault id' → id = id')
    (h : t.upsert dates input = some t') :
    (∀ id id', t'.IsDefault id → t'.IsDefault id' → id = id') ↔
      (input.isDefault = true → ∀ id, t.IsDefault id → input.key.integer? = some id) := by
  obtain ⟨key, row, hkey, hrow, hgroups, hold⟩ := upsert_eq_some h
  have hother : ∀ id, id ≠ t.target key → (t'.IsDefault id ↔ t.IsDefault id) := by
    intro id hne
    unfold Table.IsDefault
    rw [hgroups, Dict.get?_set_ne _ (Ne.symm hne)]
  have hself : t'.IsDefault (t.target key) ↔ input.isDefault = true := by
    unfold Table.IsDefault
    rw [hgroups, Dict.get?_set_self, ← hrow]
    simp
  have hcontains : ∀ id, t.IsDefault id → t.groups.contains id = true := by
    rintro id ⟨g, hg, -⟩
    exact Dict.contains_iff.mpr ⟨g, hg⟩
  rw [hkey]
  constructor
  · intro hunique' hdefault id hid
    by_cases heq : id = t.target key
    · rw [heq, hold (heq ▸ hcontains id hid)]
    · exact absurd (hunique' _ _ ((hother id heq).mpr hid) (hself.mpr hdefault)) heq
  · intro hothers id id' hid hid'
    by_cases hdefault : input.isDefault = true
    · have htarget : ∀ id, t'.IsDefault id → id = t.target key := by
        intro id hid
        by_contra hne
        have hid := (hother id hne).mp hid
        obtain rfl := Option.some.inj (hothers hdefault id hid)
        unfold Table.target at hne
        rw [if_pos (hcontains key hid)] at hne
        exact hne rfl
      rw [htarget id hid, htarget id' hid']
    · have hne : ∀ id, t'.IsDefault id → id ≠ t.target key := by
        rintro id hid rfl
        exact hdefault (hself.mp hid)
      exact hunique id id' ((hother id (hne id hid)).mp hid) ((hother id' (hne id' hid')).mp hid')

/-! ## 6. Runs -/

theorem lt_of_atUpsert {count : Nat} (h : s.atUpsert i = some (input, count)) :
    i < s.calls.length := by
  unfold State.atUpsert at h
  split at h
  · next hcall => exact (List.getElem?_eq_some_iff.mp hcall).1
  · cases h

/-- **What a step does.** -/
theorem step_cases {e : Event} (h : (machine dates).step s e = some s') :
    (∃ now input, e = .start now input ∧
      s' = { s with
        calls := s.calls ++ [⟨input, if input.isDefault then .started else .cleared 0⟩] }) ∨
    (∃ i input, e = .updateMany i true ∧
      s' = ⟨s.table.clearDefault, s.calls.set i ⟨input, .cleared s.table.count⟩⟩) ∨
    (∃ i input, e = .updateMany i false ∧ s' = s.goto i ⟨input, .failed 0⟩) ∨
    (∃ i answers input count table, e = .upsert i answers ∧ s.atUpsert i = some (input, count) ∧
      answers = true ∧ s.table.upsert dates input = some table ∧
      s' = ⟨table, s.calls.set i ⟨input, .done⟩⟩) ∨
    ∃ i answers input count, e = .upsert i answers ∧ s.atUpsert i = some (input, count) ∧
      ¬(answers = true ∧ (s.table.upsert dates input).isSome = true) ∧
      s' = s.goto i ⟨input, .failed count⟩ := by
  cases e with
  | start now input =>
    obtain ⟨-, h⟩ := Option.ite_none_right_eq_some.mp h
    exact .inl ⟨now, input, rfl, (Option.some.inj h).symm⟩
  | updateMany i answers =>
    obtain ⟨input, -, rfl⟩ := Option.map_eq_some_iff.mp h
    cases answers with
    | true => exact .inr (.inl ⟨i, input, rfl, rfl⟩)
    | false => exact .inr (.inr (.inl ⟨i, input, rfl, rfl⟩))
  | upsert i answers =>
    obtain ⟨⟨input, count⟩, hat, rfl⟩ := Option.map_eq_some_iff.mp h
    cases answers with
    | false =>
      refine .inr (.inr (.inr (.inr ⟨i, false, input, count, rfl, hat, ?_, rfl⟩)))
      exact fun h => Bool.false_ne_true h.1
    | true =>
      cases hupsert : s.table.upsert dates input with
      | some table =>
        exact .inr (.inr
          (.inr (.inl ⟨i, true, input, count, table, rfl, hat, rfl, hupsert, by simp [hupsert]⟩)))
      | none =>
        exact .inr (.inr
          (.inr (.inr ⟨i, true, input, count, rfl, hat, by simp [hupsert], by simp [hupsert]⟩)))

/-- **A step keeps what is asked for** if and only if it is separate. -/
theorem atomic_step_iff {e : Event} (hs : Atomic s) (h : (machine dates).step s e = some s') :
    Atomic s' ↔ Separate dates s e := by
  rcases step_cases h with ⟨now, input, rfl, rfl⟩ | ⟨i, input, rfl, rfl⟩ | ⟨i, input, rfl, rfl⟩ |
    ⟨i, answers, input, count, table, rfl, hat, rfl, hupsert, rfl⟩ |
    ⟨i, answers, input, count, rfl, hat, hfails, rfl⟩
  · refine iff_of_true ⟨hs.unique, forall_mem_append_one hs.kept ?_⟩ trivial
    intro count hphase
    dsimp only at hphase
    split at hphase <;> cases hphase
  · refine iff_of_true ⟨fun id _ hid => ?_, forall_mem_set hs.kept ?_⟩ trivial
    · exact absurd hid (not_isDefault_clearDefault _ id)
    · intro count hphase
      cases hphase
  · refine iff_of_true ⟨hs.unique, forall_mem_set hs.kept ?_⟩ trivial
    intro count hphase
    cases hphase
    rfl
  · have hseparate : Separate dates s (.upsert i true) ↔
        (input.isDefault = true → ∀ id, s.table.IsDefault id → input.key.integer? = some id) := by
      unfold Separate
      dsimp only
      rw [hat]
      simp [hupsert]
    rw [hseparate, ← unique_upsert_iff hs.unique hupsert]
    refine ⟨fun hs' => hs'.unique, fun hunique => ⟨hunique, forall_mem_set hs.kept ?_⟩⟩
    intro count hphase
    cases hphase
  · have hseparate : Separate dates s (.upsert i answers) ↔ count = 0 := by
      unfold Separate
      dsimp only
      rw [hat]
      simp only [Option.some.injEq, Prod.mk.injEq]
      constructor
      · intro hall
        have hcount := hall input count ⟨rfl, rfl⟩
        rwa [if_neg hfails] at hcount
      · rintro rfl _ _ ⟨rfl, rfl⟩
        rw [if_neg hfails]
    rw [hseparate]
    constructor
    · intro hs'
      exact hs'.kept ⟨input, .failed count⟩ (List.mem_set (lt_of_atUpsert hat) _) count rfl
    · rintro rfl
      refine ⟨hs.unique, forall_mem_set hs.kept fun count hphase => ?_⟩
      cases hphase
      rfl

/-- **The default group**: in every run that begins with at most one and without harm done, there is
at most one, and no call that has failed has changed it, all along if and only if every step is
separate. -/
theorem default_group_iff (dates : Dates) (s : State) (hs : Atomic s) (events : List Event) :
    (∀ es, es <+: events → ∀ s', (machine dates).run s es = some s' → Atomic s') ↔
      (machine dates).Conforms (Separate dates) s events := by
  refine Machine.invariant_iff_conforms (fun _ _ _ => atomic_step_iff) ?_ events hs
  intro s e hstuck
  cases e with
  | start now input => trivial
  | updateMany i answers => trivial
  | upsert i answers =>
    intro input count hat
    cases Option.map_eq_none_iff.mp hstuck ▸ hat

/-! ## 7. Examples -/

/-- Dates of a host that reads none. -/
def noDates : Dates := ⟨fun _ => none, some, some⟩

/-- One group, which is the default one. -/
def oneGroup : State :=
  ⟨⟨Dict.empty.set 1 ⟨py "members", 5, true, none⟩, 2⟩, []⟩

theorem oneGroup_atomic : Atomic oneGroup where
  unique := by
    have hone : ∀ id, oneGroup.table.IsDefault id → id = 1 := by
      rintro id ⟨g, hg, -⟩
      unfold oneGroup at hg
      rw [Dict.get?_set] at hg
      by_contra hne
      rw [if_neg (Ne.symm hne)] at hg
      cases hg
    exact fun id id' hid hid' => (hone id hid).trans (hone id' hid').symm
  kept := fun call hcall => absurd hcall List.not_mem_nil

/-- A new default group with a limit of networks. -/
def newDefault (name maxNetworks : String) : Input :=
  ⟨none, py name, py maxNetworks, true, none⟩

theorem default_group_iff_oneGroup :
    (∀ es, es <+: [.start 0 (newDefault "guests" "3"), .updateMany 0 true, .upsert 0 true] →
        ∀ s', (machine noDates).run oneGroup es = some s' → Atomic s') ↔
      (machine noDates).Conforms (Separate noDates) oneGroup
        [.start 0 (newDefault "guests" "3"), .updateMany 0 true, .upsert 0 true] :=
  default_group_iff noDates oneGroup oneGroup_atomic _

/-- **A limit that is no number leaves no default group, and two calls leave two.** -/
theorem default_group_lost :
    (∃ s', (machine noDates).run oneGroup
        [.start 0 (newDefault "guests" "many"), .updateMany 0 true, .upsert 0 true] = some s' ∧
      s'.table.defaultUserGroup = none ∧ ¬Atomic s') ∧
    ∃ s', (machine noDates).run oneGroup
        [.start 0 (newDefault "guests" "3"), .start 0 (newDefault "visitors" "4"),
          .updateMany 0 true,
          .updateMany 1 true, .upsert 0 true, .upsert 1 true] = some s' ∧ ¬Atomic s' := by
  constructor
  · refine Machine.exists_run (P := fun s' => s'.table.defaultUserGroup = none ∧
      ⟨newDefault "guests" "many", .failed 1⟩ ∈ s'.calls) (by decide +kernel) ?_
    rintro s' - ⟨hnone, hcall⟩
    refine ⟨hnone, fun hatomic => ?_⟩
    exact absurd (hatomic.kept _ hcall 1 rfl) (by decide)
  · refine Machine.exists_run (P := fun s' =>
      (s'.table.groups.get? 2).map UserGroup.isDefault = some true ∧
        (s'.table.groups.get? 3).map UserGroup.isDefault = some true) (by decide +kernel) ?_
    rintro s' - ⟨htwo, hthree⟩ hatomic
    have hdefault : ∀ id, (s'.table.groups.get? id).map UserGroup.isDefault = some true →
        s'.table.IsDefault id := fun id h => Option.map_eq_some_iff.mp h
    exact absurd (hatomic.unique 2 3 (hdefault 2 htwo) (hdefault 3 hthree)) (by decide)

end ZtPlanet.Ztnet.UserGroups
