/-
# The routes of a network, on the controller and in the database

The controller is the source of truth for the managed routes of a network; the table `Routes` keeps
a copy of them, with a note of the user's own on each.  `syncNetworkRoutes` makes the copy follow.
It takes the rows and the controller's routes by a key in which a missing gateway and an empty one
are the same, keeps one row of each key, and creates, updates and deletes what differs, in one
transaction.

The two unique indexes of the table see the gateways as they are stored, so two rows of one key can
stand side by side, one with NULL and one with ''.  The sync deletes the second of them last.
-/
import Mathlib.Data.List.Sort
import Mathlib.Data.List.Dedup
import Mathlib.Data.List.Pairwise
import ZtPlanet.Js.Text
import ZtPlanet.Lib.FirstBy
import ZtPlanet.Ztnet.Members

namespace ZtPlanet.Ztnet.Routes

open ZtPlanet.Lib ZtPlanet.Js

/-! ## 1. The table -/

abbrev RouteId : Type := Nat

/-- What the controller says of a route; `none` is `null`. -/
structure Route where
  target : JsString
  via : Option JsString
deriving DecidableEq

/-- A row of `Routes`. -/
structure Row extends Route where
  id : RouteId
  networkId : NetworkId
  notes : Option JsString
deriving DecidableEq

/-- Two rows that the unique index on `networkId`, `target` and `via` forbids; NULLs are distinct
there. -/
def GatewayConflict (r s : Row) : Prop :=
  r.networkId = s.networkId ∧ r.target = s.target ∧ ∃ via, r.via = some via ∧ s.via = some via

/-- Two rows that the partial unique index on `networkId` and `target` forbids. -/
def LanConflict (r s : Row) : Prop :=
  r.via = none ∧ s.via = none ∧ r.networkId = s.networkId ∧ r.target = s.target

def Conflict (r s : Row) : Prop := GatewayConflict r s ∨ LanConflict r s

/-- Together the two indexes see a row's network, target and gateway. -/
theorem conflict_iff {r s : Row} :
    Conflict r s ↔ r.networkId = s.networkId ∧ r.toRoute = s.toRoute := by
  obtain ⟨⟨t, v⟩, _, n, _⟩ := r
  obtain ⟨⟨t', v'⟩, _, n', _⟩ := s
  cases v <;> cases v' <;> simp [Conflict, GatewayConflict, LanConflict, eq_comm]

theorem Conflict.symm {r s : Row} (h : Conflict r s) : Conflict s r := by
  rw [conflict_iff] at h ⊢
  exact ⟨h.1.symm, h.2.symm⟩

instance (r s : Row) : Decidable (Conflict r s) := decidable_of_iff' _ conflict_iff

/-- The table, with its primary key and its unique indexes. -/
structure Table where
  rows : List Row
  nodup : (rows.map Row.id).Nodup
  unique : rows.Pairwise fun r s => ¬ Conflict r s

/-- `findMany`, of one network. -/
def Table.rowsOf (table : Table) (nwid : NetworkId) : List Row :=
  table.rows.filter fun row => row.networkId = nwid

/-- An id that no row has. -/
def Table.cuid (table : Table) : RouteId := (table.rows.map Row.id).sum + 1

theorem Table.cuid_notMem (table : Table) : table.cuid ∉ table.rows.map Row.id := by
  intro hmem
  exact Nat.not_succ_le_self _ (List.le_sum_of_mem hmem)

/-- One row of a `createMany` with `skipDuplicates`: `ON CONFLICT DO NOTHING`. -/
def Table.insert (table : Table) (nwid : NetworkId) (route : Route) : Table :=
  let row : Row := { route with id := table.cuid, networkId := nwid, notes := none }
  if h : ∀ other ∈ table.rows, ¬ Conflict other row then
    { rows := table.rows ++ [row]
      nodup := by
        rw [List.map_append, List.map_singleton, List.nodup_append']
        exact ⟨table.nodup, List.nodup_singleton _,
          List.disjoint_singleton.mpr table.cuid_notMem⟩
      unique := by
        rw [List.pairwise_append]
        refine ⟨table.unique, List.pairwise_singleton _ _, fun other hother _ hrow => ?_⟩
        rw [List.mem_singleton.mp hrow]
        exact h other hother }
  else table

inductive DbError where
  /-- the row to be updated does not exist -/
  | recordNotFound
  /-- a unique index would be violated -/
  | uniqueConstraint
deriving DecidableEq

/-- A row with another route. -/
def Row.withRoute (row : Row) (route : Route) : Row := { row with toRoute := route }

/-- The row `id` has another route, in the list of all rows. -/
def setRoute (id : RouteId) (route : Route) (rows : List Row) : List Row :=
  rows.map fun row => if row.id = id then row.withRoute route else row

theorem map_id_setRoute (id : RouteId) (route : Route) (rows : List Row) :
    (setRoute id route rows).map Row.id = rows.map Row.id := by
  rw [setRoute, List.map_map]
  refine List.map_congr_left fun row _ => ?_
  by_cases h : row.id = id <;> simp [h, Row.withRoute]

/-- `update` of the row `id`. -/
def Table.update (table : Table) (id : RouteId) (route : Route) : Except DbError Table :=
  if id ∈ table.rows.map Row.id then
    if h : (setRoute id route table.rows).Pairwise fun r s => ¬ Conflict r s then
      .ok
        { rows := setRoute id route table.rows
          nodup := by
            rw [map_id_setRoute]
            exact table.nodup
          unique := h }
    else .error .uniqueConstraint
  else .error .recordNotFound

/-- `deleteMany`. -/
def Table.deleteMany (table : Table) (ids : List RouteId) : Table where
  rows := table.rows.filter fun row => row.id ∉ ids
  nodup := table.nodup.sublist (List.filter_sublist.map _)
  unique := table.unique.sublist List.filter_sublist

/-! ## 2. The sync -/

/-- `via || null`. -/
def viaOrNull : Option JsString → Option JsString
  | some (unit :: units) => some (unit :: units)
  | _ => none

/-- `getRouteKey`. -/
def getRouteKey (route : Route) : JsString :=
  route.target ++ js "-" ++ (viaOrNull route.via).getD (js "null")

/-- `hasRouteChanged`. -/
def hasRouteChanged (dbRoute : Row) (ztRoute : Route) : Bool :=
  dbRoute.target ≠ ztRoute.target || dbRoute.via ≠ viaOrNull ztRoute.via

/-- `!!row.notes?.trim()`. -/
def Row.hasNote (row : Row) : Bool :=
  (row.notes.getD []).any fun unit => !Js.isSpaceUnit unit

/-- The comparison of the sort puts `a` before `b`, or leaves them in their order. -/
def noteFirst (a b : Row) : Prop := b.hasNote.toNat ≤ a.hasNote.toNat

instance : DecidableRel noteFirst := fun _ _ => inferInstanceAs (Decidable (_ ≤ _))

instance : Std.Total noteFirst := ⟨fun _ _ => Nat.le_total _ _⟩

instance : IsTrans Row noteFirst := ⟨fun _ _ _ hab hbc => Nat.le_trans hbc hab⟩

/-- `dbRoutes`; the sort is stable. -/
def sortRoutes (dbRoutesRaw : List Row) : List Row := dbRoutesRaw.insertionSort noteFirst

/-- The key of a row. -/
abbrev Row.key (row : Row) : JsString := getRouteKey row.toRoute

/-- `existingRouteMap`. -/
def existingRouteMap (dbRoutesRaw : List Row) : Dict JsString Row :=
  indexBy Row.key (sortRoutes dbRoutesRaw)

/-- `newRouteMap`. -/
def newRouteMap (ztControllerRoutes : List Route) : Dict JsString Route :=
  indexBy getRouteKey ztControllerRoutes

/-- The rows that repeat a key, with the keys seen before. -/
def repeatedRows : List JsString → List Row → List RouteId
  | _, [] => []
  | seenKeys, row :: rows =>
    if row.key ∈ seenKeys then row.id :: repeatedRows seenKeys rows
    else repeatedRows (row.key :: seenKeys) rows

/-- `routesToCreate`, `routesToUpdate` and `routesToDelete`. -/
structure Changes where
  create : List Route
  update : List (RouteId × Route)
  delete : List RouteId
deriving DecidableEq

/-- One round of the loop over `newRouteMap`. -/
def Changes.add (existing : Dict JsString Row) (changes : Changes) (entry : JsString × Route) :
    Changes :=
  match existing.get? entry.1 with
  | none =>
    if changes.create.any fun route => getRouteKey route = entry.1 then changes
    else { changes with create := changes.create ++ [entry.2] }
  | some row =>
    if hasRouteChanged row entry.2 then
      if changes.update.any fun change => getRouteKey change.2 = entry.1 then changes
      else { changes with update := changes.update ++ [(row.id, entry.2)] }
    else changes

/-- One round of the loop over `existingRouteMap`, with `seenDeleteKeys`. -/
def removedRoutes (new : Dict JsString Route) :
    List RouteId → List (JsString × Row) → List RouteId
  | _, [] => []
  | seenDeleteKeys, (key, row) :: rows =>
    if new.contains key = false ∧ row.id ∉ seenDeleteKeys then
      row.id :: removedRoutes new (row.id :: seenDeleteKeys) rows
    else removedRoutes new seenDeleteKeys rows

/-- The changes that a sync makes. -/
def planChanges (dbRoutesRaw : List Row) (ztControllerRoutes : List Route) : Changes :=
  let existing := existingRouteMap dbRoutesRaw
  let new := newRouteMap ztControllerRoutes
  let repeated := repeatedRows [] (sortRoutes dbRoutesRaw)
  let changes := new.entries.foldl (Changes.add existing) ⟨[], [], repeated⟩
  { changes with delete := changes.delete ++ removedRoutes new [] existing.entries }

/-- A route as it is stored. -/
def Route.stored (route : Route) : Route := ⟨route.target, viaOrNull route.via⟩

/-- The first statements of the transaction: the routes that are not there yet.  (The guards of the
source against empty lists only save a statement.) -/
def createRoutes (nwid : NetworkId) (routesToCreate : List Route) (table : Table) : Table :=
  let currentKeys := (table.rowsOf nwid).map Row.key
  let freshRoutes := routesToCreate.filter fun route => getRouteKey route ∉ currentKeys
  freshRoutes.foldl (fun table route => table.insert nwid route.stored) table

/-- The updates, one after the other. -/
def updateRoutes (routesToUpdate : List (RouteId × Route)) (table : Table) :
    Except DbError Table :=
  routesToUpdate.foldlM (fun table change => table.update change.1 change.2.stored) table

/-- The transaction. -/
def applyChanges (nwid : NetworkId) (changes : Changes) (table : Table) : Except DbError Table := do
  let table ← updateRoutes changes.update (createRoutes nwid changes.create table)
  pure (table.deleteMany changes.delete)

/-- `syncNetworkRoutes`: the routes of the network that it returns, `none` where it has caught an
error, and the table behind it. -/
def syncNetworkRoutes (nwid : NetworkId) (dbRoutesRaw : List Row) (ztControllerRoutes : List Route)
    (table : Table) : Option (List Row) × Table :=
  let changes := planChanges dbRoutesRaw ztControllerRoutes
  if changes.create.length = 0 ∧ changes.update.length = 0 ∧ changes.delete.length = 0 then
    (some dbRoutesRaw, table)
  else
    match applyChanges nwid changes table with
    | .ok after => (some (after.rowsOf nwid), after)
    | .error _ => (none, table)

/-! ## 3. What the statements do -/

section Statements

variable {table after : Table} {nwid : NetworkId} {row other : Row} {id : RouteId}
  {route : Route}

@[simp] theorem withRoute_id : (row.withRoute route).id = row.id := rfl

@[simp] theorem withRoute_toRoute : (row.withRoute route).toRoute = route := rfl

theorem mem_rowsOf : row ∈ table.rowsOf nwid ↔ row ∈ table.rows ∧ row.networkId = nwid := by
  simp [Table.rowsOf]

/-- A row is the only one with its id. -/
theorem eq_of_id (hrow : row ∈ table.rows) (hother : other ∈ table.rows) (h : row.id = other.id) :
    row = other :=
  List.inj_on_of_nodup_map table.nodup hrow hother h

/-- A row that no index forbids is appended. -/
theorem rows_insert (table : Table) (nwid : NetworkId) (route : Route)
    (h : ∀ other ∈ table.rows, other.networkId = nwid → other.toRoute ≠ route) :
    ∃ row : Row, row.toRoute = route ∧ row.networkId = nwid ∧ row.notes = none ∧
      (table.insert nwid route).rows = table.rows ++ [row] := by
  let row : Row := { route with id := table.cuid, networkId := nwid, notes := none }
  have hfree : ∀ other ∈ table.rows, ¬ Conflict other row := by
    intro other hother hconflict
    obtain ⟨hnwid, hroute⟩ := conflict_iff.mp hconflict
    exact h other hother hnwid hroute
  refine ⟨row, rfl, rfl, rfl, ?_⟩
  rw [Table.insert, dif_pos hfree]

theorem mem_setRoute {rows : List Row} : row ∈ setRoute id route rows ↔
    (row ∈ rows ∧ row.id ≠ id) ∨ ∃ old ∈ rows, old.id = id ∧ old.withRoute route = row := by
  simp only [setRoute, List.mem_map]
  constructor
  · rintro ⟨old, hold, rfl⟩
    by_cases h : old.id = id
    · exact .inr ⟨old, hold, h, by simp [h]⟩
    · exact .inl ⟨by simpa [h] using hold, by simp [h]⟩
  · rintro (⟨hrow, h⟩ | ⟨old, hold, h, rfl⟩)
    · exact ⟨row, hrow, by simp [h]⟩
    · exact ⟨old, hold, by simp [h]⟩

theorem rows_of_update (h : table.update id route = .ok after) :
    after.rows = setRoute id route table.rows := by
  unfold Table.update at h
  split at h
  · split at h
    · cases h
      rfl
    · cases h
  · cases h

/-- **An update succeeds** where no other row has the route already. -/
theorem update_eq_ok (hrow : row ∈ table.rows)
    (hfree : ∀ other ∈ table.rows, other.id ≠ row.id → ¬ Conflict other (row.withRoute route)) :
    ∃ after, table.update row.id route = .ok after := by
  have hmem : row.id ∈ table.rows.map Row.id := List.mem_map_of_mem hrow
  have hunique : (setRoute row.id route table.rows).Pairwise fun r s => ¬ Conflict r s := by
    have hids := List.pairwise_map.mp table.nodup
    refine List.pairwise_map.mpr ((hids.and table.unique).imp_of_mem ?_)
    rintro r s hr hs ⟨hne, hconflict⟩
    by_cases hid : r.id = row.id
    · obtain rfl := eq_of_id hr hrow hid
      rw [if_pos rfl, if_neg hne.symm]
      exact fun h => hfree s hs hne.symm h.symm
    · rw [if_neg hid]
      by_cases hid' : s.id = row.id
      · obtain rfl := eq_of_id hs hrow hid'
        rw [if_pos rfl]
        exact hfree r hr hid
      · rw [if_neg hid']
        exact hconflict
  rw [Table.update, if_pos hmem, dif_pos hunique]
  exact ⟨_, rfl⟩

instance : Std.Symm fun r s : Row => ¬ Conflict r s := ⟨fun _ _ h hsr => h hsr.symm⟩

/-- **An update fails** where another row has the route. -/
theorem update_eq_error (hrow : row ∈ table.rows) (hother : other ∈ table.rows)
    (hne : other.id ≠ row.id) (hconflict : Conflict other (row.withRoute route)) :
    table.update row.id route = .error .uniqueConstraint := by
  have hmem : row.id ∈ table.rows.map Row.id := List.mem_map_of_mem hrow
  have hunique : ¬ (setRoute row.id route table.rows).Pairwise fun r s => ¬ Conflict r s := by
    intro hpairwise
    refine hpairwise.forall (a := other) (b := row.withRoute route) ?_ ?_ ?_ hconflict
    · exact mem_setRoute.mpr (.inl ⟨hother, hne⟩)
    · exact mem_setRoute.mpr (.inr ⟨row, hrow, rfl, rfl⟩)
    · exact fun h => hne ((congrArg Row.id h).trans withRoute_id)
  rw [Table.update, if_pos hmem, dif_neg hunique]

end Statements

/-! ## 4. What is planned -/

section Plan

variable {dbRoutesRaw : List Row} {zt : List Route} {row : Row} {route : Route} {id : RouteId}
  {key : JsString}

@[simp] theorem viaOrNull_viaOrNull (via : Option JsString) :
    viaOrNull (viaOrNull via) = viaOrNull via := by
  rcases via with _ | _ | _ <;> rfl

/-- A route has the same key when it is stored. -/
@[simp] theorem key_stored (route : Route) : getRouteKey route.stored = getRouteKey route := by
  simp [getRouteKey, Route.stored]

theorem hasRouteChanged_eq_false :
    hasRouteChanged row route = false ↔ row.toRoute = route.stored := by
  obtain ⟨⟨target, via⟩, _, _, _⟩ := row
  simp [hasRouteChanged, Route.stored]

theorem mem_sortRoutes : row ∈ sortRoutes dbRoutesRaw ↔ row ∈ dbRoutesRaw :=
  List.mem_insertionSort _

theorem key_of_existing (h : (existingRouteMap dbRoutesRaw).get? key = some row) :
    row.key = key ∧ row ∈ dbRoutesRaw := by
  obtain ⟨hkey, hmem⟩ := key_of_indexBy h
  exact ⟨hkey, mem_sortRoutes.mp hmem⟩

/-- What one round of the loop adds to `routesToCreate`. -/
def creates (existing : Dict JsString Row) (entry : JsString × Route) : Option Route :=
  if existing.get? entry.1 = none then some entry.2 else none

/-- What one round of the loop adds to `routesToUpdate`. -/
def updates (existing : Dict JsString Row) (entry : JsString × Route) :
    Option (RouteId × Route) :=
  (existing.get? entry.1).bind fun row =>
    if hasRouteChanged row entry.2 then some (row.id, entry.2) else none

/-- The guards of the loop never hold: no key comes twice. -/
theorem foldl_add (existing : Dict JsString Row) (entries : List (JsString × Route))
    (hnodup : (entries.map Prod.fst).Nodup) (hkey : ∀ e ∈ entries, getRouteKey e.2 = e.1)
    (changes : Changes)
    (hcreate : ∀ route ∈ changes.create, getRouteKey route ∉ entries.map Prod.fst)
    (hupdate : ∀ change ∈ changes.update, getRouteKey change.2 ∉ entries.map Prod.fst) :
    entries.foldl (Changes.add existing) changes =
      { changes with
        create := changes.create ++ entries.filterMap (creates existing)
        update := changes.update ++ entries.filterMap (updates existing) } := by
  induction entries generalizing changes with
  | nil => simp
  | cons entry rest ih =>
    rw [List.map_cons, List.nodup_cons] at hnodup
    have hrest : ∀ e ∈ rest, getRouteKey e.2 = e.1 := fun e he => hkey e (List.mem_cons_of_mem _ he)
    have hnew : getRouteKey entry.2 ∉ rest.map Prod.fst := by
      rw [hkey entry List.mem_cons_self]
      exact hnodup.1
    have hcreate' : ∀ route ∈ changes.create, getRouteKey route ∉ rest.map Prod.fst :=
      fun route hroute hmem => hcreate route hroute (List.mem_cons_of_mem _ hmem)
    have hupdate' : ∀ change ∈ changes.update, getRouteKey change.2 ∉ rest.map Prod.fst :=
      fun change hchange hmem => hupdate change hchange (List.mem_cons_of_mem _ hmem)
    rw [List.foldl_cons]
    cases hget : existing.get? entry.1 with
    | none =>
      have hguard : (changes.create.any fun route => getRouteKey route = entry.1) = false := by
        rw [List.any_eq_false]
        intro route hroute heq
        exact hcreate route hroute (by simp [of_decide_eq_true heq])
      have hadd : changes.add existing entry =
          { changes with create := changes.create ++ [entry.2] } := by
        simp [Changes.add, hget, hguard]
      rw [hadd, ih hnodup.2 hrest { changes with
        create := changes.create ++ [entry.2] } ?_ hupdate']
      · simp [creates, updates, hget]
      · intro route hroute
        rcases List.mem_append.mp hroute with hroute | hroute
        · exact hcreate' route hroute
        · rw [List.mem_singleton.mp hroute]
          exact hnew
    | some row =>
      by_cases hchanged : hasRouteChanged row entry.2
      · have hguard : (changes.update.any fun c => getRouteKey c.2 = entry.1) = false := by
          rw [List.any_eq_false]
          intro change hchange heq
          exact hupdate change hchange (by simp [of_decide_eq_true heq])
        have hadd : changes.add existing entry =
            { changes with update := changes.update ++ [(row.id, entry.2)] } := by
          simp [Changes.add, hget, hguard, hchanged]
        rw [hadd, ih hnodup.2 hrest { changes with update := changes.update ++ [(row.id, entry.2)] }
          hcreate' ?_]
        · simp [creates, updates, hget, hchanged]
        · intro change hchange
          rcases List.mem_append.mp hchange with hchange | hchange
          · exact hupdate' change hchange
          · rw [List.mem_singleton.mp hchange]
            exact hnew
      · have hadd : changes.add existing entry = changes := by
          simp [Changes.add, hget, hchanged]
        rw [hadd, ih hnodup.2 hrest _ hcreate' hupdate']
        simp [creates, updates, hget, hchanged]

theorem key_of_entry {entry : JsString × Route} (h : entry ∈ (newRouteMap zt).entries) :
    getRouteKey entry.2 = entry.1 :=
  (key_of_indexBy (Dict.get?_eq_some_iff.mpr h)).1

theorem planChanges_eq (dbRoutesRaw : List Row) (zt : List Route) :
    planChanges dbRoutesRaw zt =
      { create := (newRouteMap zt).entries.filterMap (creates (existingRouteMap dbRoutesRaw))
        update := (newRouteMap zt).entries.filterMap (updates (existingRouteMap dbRoutesRaw))
        delete := repeatedRows [] (sortRoutes dbRoutesRaw) ++
          removedRoutes (newRouteMap zt) [] (existingRouteMap dbRoutesRaw).entries } := by
  have hfold := foldl_add (existingRouteMap dbRoutesRaw) (newRouteMap zt).entries
    (newRouteMap zt).nodup (fun e he => key_of_entry he)
    ⟨[], [], repeatedRows [] (sortRoutes dbRoutesRaw)⟩ (by simp) (by simp)
  simp only [planChanges, hfold, List.nil_append]

/-- **What is created**: the controller's route of each key that no row has. -/
theorem mem_create : route ∈ (planChanges dbRoutesRaw zt).create ↔
    (newRouteMap zt).get? (getRouteKey route) = some route ∧
      (existingRouteMap dbRoutesRaw).get? (getRouteKey route) = none := by
  rw [planChanges_eq]
  simp only [List.mem_filterMap, creates, Option.ite_none_right_eq_some, Option.some.injEq]
  constructor
  · rintro ⟨entry, hentry, hnone, rfl⟩
    rw [key_of_entry hentry]
    exact ⟨Dict.get?_eq_some_iff.mpr hentry, hnone⟩
  · rintro ⟨hget, hnone⟩
    exact ⟨(getRouteKey route, route), Dict.get?_eq_some_iff.mp hget, hnone, rfl⟩

/-- **What is updated**: the row that is kept for a key, where the controller's route differs. -/
theorem mem_update : (id, route) ∈ (planChanges dbRoutesRaw zt).update ↔
    (newRouteMap zt).get? (getRouteKey route) = some route ∧
      ∃ row, (existingRouteMap dbRoutesRaw).get? (getRouteKey route) = some row ∧
        hasRouteChanged row route = true ∧ row.id = id := by
  rw [planChanges_eq]
  simp only [List.mem_filterMap, updates, Option.bind_eq_some_iff, Option.ite_none_right_eq_some,
    Option.some.injEq, Prod.mk.injEq]
  constructor
  · rintro ⟨entry, hentry, row, hrow, hchanged, rfl, rfl⟩
    rw [key_of_entry hentry]
    exact ⟨Dict.get?_eq_some_iff.mpr hentry, row, hrow, hchanged, rfl⟩
  · rintro ⟨hget, row, hrow, hchanged, rfl⟩
    exact ⟨(getRouteKey route, route), Dict.get?_eq_some_iff.mp hget, row, hrow, hchanged, rfl, rfl⟩

theorem mem_repeatedRows {rows : List Row} {seenKeys : List JsString}
    (hnodup : (rows.map Row.id).Nodup) :
    id ∈ repeatedRows seenKeys rows ↔ ∃ row ∈ rows, row.id = id ∧
      (row.key ∈ seenKeys ∨ rows.find? (fun r => r.key = row.key) ≠ some row) := by
  induction rows generalizing seenKeys with
  | nil => simp [repeatedRows]
  | cons first rest ih =>
    rw [List.map_cons, List.nodup_cons] at hnodup
    have hfirst : (first :: rest).find? (fun r => r.key = first.key) = some first := by simp
    have hrest : ∀ row ∈ rest, ((first :: rest).find? (fun r => r.key = row.key) ≠ some row ↔
        first.key = row.key ∨ rest.find? (fun r => r.key = row.key) ≠ some row) := by
      intro row hrow
      have hne : first ≠ row := by
        rintro rfl
        exact hnodup.1 (List.mem_map_of_mem hrow)
      by_cases hkey : first.key = row.key <;> simp [hkey, hne]
    have hsplit : (∃ row ∈ first :: rest, row.id = id ∧ (row.key ∈ seenKeys ∨
        (first :: rest).find? (fun r => r.key = row.key) ≠ some row)) ↔
        (first.id = id ∧ first.key ∈ seenKeys) ∨ ∃ row ∈ rest, row.id = id ∧
          (row.key ∈ seenKeys ∨ first.key = row.key ∨
            rest.find? (fun r => r.key = row.key) ≠ some row) := by
      rw [List.exists_mem_cons_iff, hfirst]
      refine or_congr (by simp) (exists_congr fun row => and_congr_right fun hrow => ?_)
      rw [hrest row hrow]
    rw [hsplit, repeatedRows]
    split
    · rename_i hseen
      rw [List.mem_cons, ih hnodup.2]
      refine or_congr (by simp [hseen, eq_comm]) (exists_congr fun row => and_congr_right fun _ =>
        and_congr_right fun _ => ?_)
      constructor
      · rintro (h | h)
        · exact .inl h
        · exact .inr (.inr h)
      · rintro (h | h | h)
        · exact .inl h
        · exact .inl (h ▸ hseen)
        · exact .inr h
    · rename_i hseen
      rw [ih hnodup.2]
      simp only [hseen, and_false, false_or, List.mem_cons, or_assoc, eq_comm (a := first.key)]
      refine exists_congr fun row => and_congr_right fun _ => and_congr_right fun _ => ?_
      tauto

theorem mem_removedRoutes {new : Dict JsString Route} {seen : List RouteId}
    {rows : List (JsString × Row)} : id ∈ removedRoutes new seen rows ↔
      id ∉ seen ∧ ∃ e ∈ rows, e.2.id = id ∧ new.contains e.1 = false := by
  induction rows generalizing seen with
  | nil => simp [removedRoutes]
  | cons entry rest ih =>
    obtain ⟨key, row⟩ := entry
    rw [removedRoutes, List.exists_mem_cons_iff]
    by_cases hguard : new.contains key = false ∧ row.id ∉ seen
    · rw [if_pos hguard, List.mem_cons, ih]
      by_cases hid : id = row.id
      · simp [hid, hguard]
      · simp [hid, Ne.symm hid]
    · rw [if_neg hguard, ih]
      refine and_congr_right fun hseen => ?_
      have hfirst : ¬ (row.id = id ∧ new.contains key = false) := by
        rintro ⟨rfl, hnew⟩
        exact hguard ⟨hnew, hseen⟩
      rw [or_iff_right hfirst]

theorem find_sortRoutes : (sortRoutes dbRoutesRaw).find? (fun r => r.key = key) =
    (existingRouteMap dbRoutesRaw).get? key := get?_indexBy.symm

/-- **What is deleted**: the rows that are not kept for their key, and those whose key the
controller does not have. -/
theorem mem_delete (hnodup : (dbRoutesRaw.map Row.id).Nodup) :
    id ∈ (planChanges dbRoutesRaw zt).delete ↔ ∃ row ∈ dbRoutesRaw, row.id = id ∧
      ((existingRouteMap dbRoutesRaw).get? row.key ≠ some row ∨
        (newRouteMap zt).get? row.key = none) := by
  have hsorted : ((sortRoutes dbRoutesRaw).map Row.id).Nodup :=
    ((List.perm_insertionSort _ _).map Row.id).nodup_iff.mpr hnodup
  rw [planChanges_eq, List.mem_append, mem_repeatedRows hsorted, mem_removedRoutes]
  simp only [mem_sortRoutes, find_sortRoutes, List.not_mem_nil, false_or, not_false_eq_true,
    true_and]
  constructor
  · rintro (⟨row, hrow, rfl, h⟩ | ⟨⟨key, row⟩, hentry, rfl, h⟩)
    · exact ⟨row, hrow, rfl, .inl h⟩
    · obtain ⟨rfl, hrow⟩ := key_of_existing (Dict.get?_eq_some_iff.mpr hentry)
      exact ⟨row, hrow, rfl, .inr (by simpa [Dict.contains] using h)⟩
  · rintro ⟨row, hrow, rfl, h⟩
    by_cases hkept : (existingRouteMap dbRoutesRaw).get? row.key = some row
    · rcases h with h | h
      · exact absurd hkept h
      · exact .inr ⟨(row.key, row), Dict.get?_eq_some_iff.mp hkept, rfl, by simp [Dict.contains, h]⟩
    · exact .inl ⟨row, hrow, rfl, hkept⟩

theorem sublist_filterMap {α β κ : Type} {f : α → Option β} {g : α → κ} {g' : β → κ} {l : List α}
    (h : ∀ a ∈ l, ∀ b, f a = some b → g' b = g a) :
    ((l.filterMap f).map g').Sublist (l.map g) := by
  induction l with
  | nil => simp
  | cons a t ih =>
    have ht := ih fun b hb => h b (List.mem_cons_of_mem _ hb)
    cases hf : f a with
    | none =>
      rw [List.filterMap_cons_none hf]
      exact ht.cons _
    | some b =>
      rw [List.filterMap_cons_some hf, List.map_cons, List.map_cons, h a List.mem_cons_self b hf]
      exact ht.cons_cons _

/-- Each key is created at most once. -/
theorem nodup_create : ((planChanges dbRoutesRaw zt).create.map getRouteKey).Nodup := by
  rw [planChanges_eq]
  refine (newRouteMap zt).nodup.sublist (sublist_filterMap fun entry hentry route hroute => ?_)
  obtain ⟨-, hroute⟩ := Option.ite_none_right_eq_some.mp hroute
  rw [← key_of_entry hentry, Option.some.inj hroute]

theorem nodup_update_key :
    ((planChanges dbRoutesRaw zt).update.map fun change => getRouteKey change.2).Nodup := by
  rw [planChanges_eq]
  refine (newRouteMap zt).nodup.sublist (sublist_filterMap fun entry hentry change hchange => ?_)
  obtain ⟨row, -, hchange⟩ := Option.bind_eq_some_iff.mp hchange
  obtain ⟨-, hchange⟩ := Option.ite_none_right_eq_some.mp hchange
  rw [← key_of_entry hentry, ← Option.some.inj hchange]

/-- Different keys, different routes. -/
theorem nodup_update_stored :
    ((planChanges dbRoutesRaw zt).update.map fun change => change.2.stored).Nodup := by
  refine List.Nodup.of_map getRouteKey ?_
  simpa only [List.map_map, Function.comp_def, key_stored] using
    @nodup_update_key dbRoutesRaw zt

/-- Each row is updated at most once. -/
theorem nodup_update (hnodup : (dbRoutesRaw.map Row.id).Nodup) :
    ((planChanges dbRoutesRaw zt).update.map Prod.fst).Nodup := by
  refine List.Nodup.map_on ?_ nodup_update_key.of_map
  rintro ⟨id, route⟩ hchange ⟨_, route'⟩ hchange' rfl
  obtain ⟨hnew, row, hrow, -, hid⟩ := mem_update.mp hchange
  obtain ⟨hnew', row', hrow', -, hid'⟩ := mem_update.mp hchange'
  obtain ⟨hkey, hmem⟩ := key_of_existing hrow
  obtain ⟨hkey', hmem'⟩ := key_of_existing hrow'
  obtain rfl := List.inj_on_of_nodup_map hnodup hmem hmem' (hid.trans hid'.symm)
  rw [← hkey, hkey', hnew'] at hnew
  rw [Option.some.inj hnew]

end Plan

/-! ## 5. The transaction -/

section Transaction

variable {nwid : NetworkId} {table after : Table} {row : Row}

/-- The routes of a list of distinct keys that no row of the network has are all inserted. -/
theorem rows_foldl_insert (nwid : NetworkId) (fresh : List Route) (table : Table)
    (hnodup : (fresh.map getRouteKey).Nodup)
    (hfresh : ∀ row ∈ table.rowsOf nwid, row.key ∉ fresh.map getRouteKey) :
    ∃ new : List Row,
      (fresh.foldl (fun table route => table.insert nwid route.stored) table).rows =
        table.rows ++ new ∧
      new.map Row.toRoute = fresh.map Route.stored ∧
      ∀ row ∈ new, row.networkId = nwid ∧ row.notes = none := by
  induction fresh generalizing table with
  | nil => exact ⟨[], by simp⟩
  | cons route rest ih =>
    rw [List.map_cons, List.nodup_cons] at hnodup
    obtain ⟨row, hroute, hnwid, hnotes, hrows⟩ :=
      rows_insert table nwid route.stored fun other hother hn heq =>
        hfresh other (mem_rowsOf.mpr ⟨hother, hn⟩) (by simp [Row.key, heq])
    have hfresh' : ∀ other ∈ (table.insert nwid route.stored).rowsOf nwid,
        other.key ∉ rest.map getRouteKey := by
      intro other hother hmem
      obtain ⟨hother, hn⟩ := mem_rowsOf.mp hother
      rw [hrows] at hother
      rcases List.mem_append.mp hother with hother | hother
      · exact hfresh other (mem_rowsOf.mpr ⟨hother, hn⟩) (List.mem_cons_of_mem _ hmem)
      · rw [List.mem_singleton.mp hother, Row.key, hroute, key_stored] at hmem
        exact hnodup.1 hmem
    obtain ⟨new, hrest, hmap, hnew⟩ := ih (table.insert nwid route.stored) hnodup.2 hfresh'
    refine ⟨row :: new, ?_, ?_, ?_⟩
    · rw [List.foldl_cons, hrest, hrows, List.append_assoc, List.singleton_append]
    · rw [List.map_cons, List.map_cons, hroute, hmap]
    · intro r hr
      rcases List.mem_cons.mp hr with rfl | hr
      · exact ⟨hnwid, hnotes⟩
      · exact hnew r hr

/-- The rows behind the updates of `changes`. -/
def updated (changes : List (RouteId × Route)) (row : Row) : Row :=
  match changes.find? fun change => change.1 = row.id with
  | some change => row.withRoute change.2.stored
  | none => row

@[simp] theorem updated_id (changes : List (RouteId × Route)) (row : Row) :
    (updated changes row).id = row.id := by
  unfold updated
  split <;> rfl

@[simp] theorem updated_networkId (changes : List (RouteId × Route)) (row : Row) :
    (updated changes row).networkId = row.networkId := by
  unfold updated
  split <;> rfl

@[simp] theorem updated_notes (changes : List (RouteId × Route)) (row : Row) :
    (updated changes row).notes = row.notes := by
  unfold updated
  split <;> rfl

theorem updated_of_notMem {changes : List (RouteId × Route)} (h : row.id ∉ changes.map Prod.fst) :
    updated changes row = row := by
  have hnone : changes.find? (fun change => change.1 = row.id) = none := by
    rw [List.find?_eq_none]
    intro change hchange hid
    exact h (List.mem_map.mpr ⟨change, hchange, of_decide_eq_true hid⟩)
  rw [updated, hnone]

theorem updated_cons (change : RouteId × Route) (changes : List (RouteId × Route)) (row : Row) :
    updated (change :: changes) row =
      if row.id = change.1 then row.withRoute change.2.stored else updated changes row := by
  by_cases h : row.id = change.1
  · simp [updated, h]
  · have h' : ¬ change.1 = row.id := fun heq => h heq.symm
    simp [updated, h, h']

theorem updated_of_mem {changes : List (RouteId × Route)} (hnodup : (changes.map Prod.fst).Nodup)
    {route : Route} (h : (row.id, route) ∈ changes) :
    updated changes row = row.withRoute route.stored := by
  induction changes with
  | nil => simp at h
  | cons change rest ih =>
    rw [List.map_cons, List.nodup_cons] at hnodup
    rw [updated_cons]
    rcases List.mem_cons.mp h with rfl | h
    · rw [if_pos rfl]
    · have hne : row.id ≠ change.1 := by
        intro heq
        exact hnodup.1 (heq ▸ List.mem_map_of_mem h)
      rw [if_neg hne]
      exact ih hnodup.2 h

theorem updateRoutes_cons_eq {change : RouteId × Route} {changes : List (RouteId × Route)} :
    updateRoutes (change :: changes) table =
      (table.update change.1 change.2.stored).bind (updateRoutes changes) := rfl

/-- What the updates make of the rows, where none fails. -/
theorem rows_updateRoutes {changes : List (RouteId × Route)} (hnodup : (changes.map Prod.fst).Nodup)
    (h : updateRoutes changes table = .ok after) :
    after.rows = table.rows.map (updated changes) := by
  induction changes generalizing table with
  | nil =>
    cases h
    exact (List.map_id' _).symm
  | cons change rest ih =>
    rw [List.map_cons, List.nodup_cons] at hnodup
    rw [updateRoutes_cons_eq] at h
    cases hupdate : table.update change.1 change.2.stored with
    | error e =>
      rw [hupdate] at h
      cases h
    | ok next =>
      rw [hupdate] at h
      rw [ih hnodup.2 h, rows_of_update hupdate, setRoute, List.map_map]
      refine List.map_congr_left fun row _ => ?_
      rw [Function.comp_apply, updated_cons]
      by_cases hid : row.id = change.1
      · rw [if_pos hid, if_pos hid]
        exact updated_of_notMem (by rw [withRoute_id, hid]; exact hnodup.1)
      · rw [if_neg hid, if_neg hid]

/-- **The updates succeed** where no other row has one of the routes. -/
theorem updateRoutes_eq_ok (nwid : NetworkId) {changes : List (RouteId × Route)}
    (hnodup : (changes.map Prod.fst).Nodup)
    (hroutes : (changes.map fun change => change.2.stored).Nodup)
    (hrow : ∀ change ∈ changes, ∃ row ∈ table.rows, row.id = change.1 ∧ row.networkId = nwid)
    (hfree : ∀ change ∈ changes, ∀ other ∈ table.rows, other.networkId = nwid →
      other.id ≠ change.1 → other.toRoute ≠ change.2.stored) :
    ∃ after, updateRoutes changes table = .ok after := by
  induction changes generalizing table with
  | nil => exact ⟨table, rfl⟩
  | cons change rest ih =>
    rw [List.map_cons, List.nodup_cons] at hnodup hroutes
    obtain ⟨row, hmem, hid, hnwid⟩ := hrow change List.mem_cons_self
    obtain ⟨next, hupdate⟩ : ∃ next, table.update row.id change.2.stored = .ok next := by
      refine update_eq_ok hmem fun other hother hne hconflict => ?_
      obtain ⟨hn, hr⟩ := conflict_iff.mp hconflict
      exact hfree change List.mem_cons_self other hother (hn.trans hnwid) (hid ▸ hne) hr
    rw [hid] at hupdate
    rw [updateRoutes_cons_eq, hupdate]
    have hrows := rows_of_update hupdate
    refine ih hnodup.2 hroutes.2 ?_ ?_
    · intro c hc
      obtain ⟨r, hr, hrid, hrnwid⟩ := hrow c (List.mem_cons_of_mem _ hc)
      have hne : r.id ≠ change.1 := by
        rintro heq
        exact hnodup.1 (heq ▸ hrid ▸ List.mem_map_of_mem hc)
      exact ⟨r, by rw [hrows]; exact mem_setRoute.mpr (.inl ⟨hr, hne⟩), hrid, hrnwid⟩
    · intro c hc other hother hn hne
      rw [hrows] at hother
      rcases mem_setRoute.mp hother with ⟨hother, -⟩ | ⟨old, -, -, rfl⟩
      · exact hfree c (List.mem_cons_of_mem _ hc) other hother hn hne
      · -- the row of this round now has the route of this round
        intro heq
        exact hroutes.1 (List.mem_map.mpr ⟨c, hc, heq.symm⟩)

/-- **One of the updates fails** where a row that is not updated has its route. -/
theorem updateRoutes_eq_error {changes : List (RouteId × Route)} {route : Route} {other : Row}
    (hnodup : (changes.map Prod.fst).Nodup) (hchange : (row.id, route) ∈ changes)
    (hrow : row ∈ table.rows) (hother : other ∈ table.rows) (hne : other.id ∉ changes.map Prod.fst)
    (hnwid : other.networkId = row.networkId) (hroute : other.toRoute = route.stored) :
    ∃ e, updateRoutes changes table = .error e := by
  induction changes generalizing table with
  | nil => simp at hchange
  | cons change rest ih =>
    rw [List.map_cons, List.nodup_cons] at hnodup
    rw [List.map_cons, List.mem_cons, not_or] at hne
    rw [updateRoutes_cons_eq]
    cases hupdate : table.update change.1 change.2.stored with
    | error e => exact ⟨e, rfl⟩
    | ok next =>
      rcases List.mem_cons.mp hchange with rfl | hchange
      · have hconflict : Conflict other (row.withRoute route.stored) :=
          conflict_iff.mpr ⟨hnwid, hroute⟩
        cases hupdate.symm.trans (update_eq_error hrow hother hne.1 hconflict)
      · have hrowid : row.id ≠ change.1 := by
          intro heq
          exact hnodup.1 (heq ▸ List.mem_map_of_mem hchange)
        have hrows := rows_of_update hupdate
        refine ih hnodup.2 hchange ?_ ?_ hne.2
        · rw [hrows]
          exact mem_setRoute.mpr (.inl ⟨hrow, hrowid⟩)
        · rw [hrows]
          exact mem_setRoute.mpr (.inl ⟨hother, hne.1⟩)

end Transaction

/-! ## 6. The mirror -/

/-- The row that is kept for a key of the controller is not to get a route that another row has. -/
def Unobstructed (dbRoutesRaw : List Row) (ztControllerRoutes : List Route) : Prop :=
  ∀ entry ∈ (newRouteMap ztControllerRoutes).entries,
    ∀ row ∈ (existingRouteMap dbRoutesRaw).get? entry.1,
      hasRouteChanged row entry.2 = true → ∀ other ∈ dbRoutesRaw, other.toRoute ≠ entry.2.stored

instance (dbRoutesRaw : List Row) (ztControllerRoutes : List Route) :
    Decidable (Unobstructed dbRoutesRaw ztControllerRoutes) :=
  inferInstanceAs (Decidable (∀ _ ∈ _, ∀ _ ∈ (_ : Option Row), _))

/-- What a sync is for. -/
structure Mirrors (nwid : NetworkId) (dbRoutesRaw : List Row) (ztControllerRoutes : List Route)
    (table : Table) : Prop where
  succeeds : (syncNetworkRoutes nwid dbRoutesRaw ztControllerRoutes table).1.isSome = true
  oneRowPerKey :
    (((syncNetworkRoutes nwid dbRoutesRaw ztControllerRoutes table).2.rowsOf nwid).map Row.key).Perm
      (ztControllerRoutes.map getRouteKey).dedup
  keepsNotes :
    ∀ row ∈ (syncNetworkRoutes nwid dbRoutesRaw ztControllerRoutes table).2.rowsOf nwid,
      (∃ old ∈ table.rowsOf nwid, old.key = row.key ∧ old.hasNote = true) → row.hasNote = true
  changesNothing : ∀ dbRoutesRaw' : List Row, dbRoutesRaw'.Perm
      ((syncNetworkRoutes nwid dbRoutesRaw ztControllerRoutes table).2.rowsOf nwid) →
    syncNetworkRoutes nwid dbRoutesRaw' ztControllerRoutes
        (syncNetworkRoutes nwid dbRoutesRaw ztControllerRoutes table).2 =
      (some dbRoutesRaw', (syncNetworkRoutes nwid dbRoutesRaw ztControllerRoutes table).2)

section Mirror

variable {nwid : NetworkId} {dbRoutesRaw : List Row} {zt : List Route} {table after : Table}

theorem existing_eq_none {key : JsString} : (existingRouteMap dbRoutesRaw).get? key = none ↔
    ∀ row ∈ dbRoutesRaw, row.key ≠ key := by
  rw [existingRouteMap, get?_indexBy, List.find?_eq_none]
  simp [mem_sortRoutes]

theorem hasNote_of_existing {key : JsString} {row old : Row}
    (h : (existingRouteMap dbRoutesRaw).get? key = some row) (hold : old ∈ dbRoutesRaw)
    (hkey : old.key = key) (hnote : old.hasNote = true) : row.hasNote = true := by
  have hsorted : (sortRoutes dbRoutesRaw).Pairwise noteFirst := List.pairwise_insertionSort _ _
  rw [existingRouteMap, get?_indexBy, List.find?_eq_some_iff_append] at h
  obtain ⟨-, before, rest, hsplit, hbefore⟩ := h
  have hmem : old ∈ before ++ row :: rest := hsplit ▸ mem_sortRoutes.mpr hold
  rw [hsplit, List.pairwise_append, List.pairwise_cons] at hsorted
  rcases List.mem_append.mp hmem with hmem | hmem
  · have hne := hbefore old hmem
    simp [hkey] at hne
  · rcases List.mem_cons.mp hmem with rfl | hmem
    · exact hnote
    · -- a row with a note is not behind one without
      have hle : old.hasNote.toNat ≤ row.hasNote.toNat := hsorted.2.1.1 old hmem
      rw [hnote] at hle
      cases hrow : row.hasNote with
      | true => rfl
      | false => simp [hrow] at hle

theorem nodup_read (hread : dbRoutesRaw.Perm (table.rowsOf nwid)) :
    (dbRoutesRaw.map Row.id).Nodup :=
  (hread.map Row.id).nodup_iff.mpr (table.nodup.sublist (List.filter_sublist.map _))

/-- Nobody else has written: what the transaction reads again is what the sync was given. -/
theorem rows_createRoutes (hread : dbRoutesRaw.Perm (table.rowsOf nwid)) :
    ∃ new : List Row,
      (createRoutes nwid (planChanges dbRoutesRaw zt).create table).rows = table.rows ++ new ∧
      new.map Row.toRoute = (planChanges dbRoutesRaw zt).create.map Route.stored ∧
      ∀ row ∈ new, row.networkId = nwid ∧ row.notes = none := by
  have hmissing : ∀ route ∈ (planChanges dbRoutesRaw zt).create, ∀ row ∈ table.rowsOf nwid,
      row.key ≠ getRouteKey route := fun route hroute row hrow =>
    existing_eq_none.mp (mem_create.mp hroute).2 row (hread.mem_iff.mpr hrow)
  have hfresh : (planChanges dbRoutesRaw zt).create.filter
      (fun route => getRouteKey route ∉ (table.rowsOf nwid).map Row.key) =
      (planChanges dbRoutesRaw zt).create := by
    rw [List.filter_eq_self]
    intro route hroute
    rw [decide_eq_true_iff]
    intro hmem
    obtain ⟨row, hrow, hkey⟩ := List.mem_map.mp hmem
    exact hmissing route hroute row hrow hkey
  have hrows := rows_foldl_insert nwid (planChanges dbRoutesRaw zt).create table
    nodup_create fun row hrow hmem => by
      obtain ⟨route, hroute, hkey⟩ := List.mem_map.mp hmem
      exact hmissing route hroute row hrow hkey.symm
  simpa only [createRoutes, hfresh] using hrows

theorem Table.ext {t t' : Table} (h : t.rows = t'.rows) : t = t' := by
  cases t
  cases t'
  cases h
  rfl

theorem rows_deleteMany (table : Table) (ids : List RouteId) :
    (table.deleteMany ids).rows = table.rows.filter fun row => row.id ∉ ids := rfl

theorem deleteMany_nil (table : Table) : table.deleteMany [] = table :=
  Table.ext (by simp [rows_deleteMany])

/-- A sync whose transaction commits; with nothing to do there is none. -/
theorem sync_of_ok (h : applyChanges nwid (planChanges dbRoutesRaw zt) table = .ok after) :
    (syncNetworkRoutes nwid dbRoutesRaw zt table).1.isSome = true ∧
      (syncNetworkRoutes nwid dbRoutesRaw zt table).2 = after := by
  simp only [syncNetworkRoutes]
  split
  · rename_i hempty
    obtain ⟨hcreate, hupdate, hdelete⟩ := hempty
    rw [List.length_eq_zero_iff] at hcreate hupdate hdelete
    have hsame : applyChanges nwid (planChanges dbRoutesRaw zt) table =
        .ok (table.deleteMany []) := by
      unfold applyChanges
      rw [hcreate, hupdate, hdelete]
      rfl
    rw [hsame, deleteMany_nil] at h
    exact ⟨rfl, Except.ok.inj h⟩
  · simp [h]

/-- A sync with an update that fails. -/
theorem sync_of_error (h : ∃ e, updateRoutes (planChanges dbRoutesRaw zt).update
      (createRoutes nwid (planChanges dbRoutesRaw zt).create table) = .error e) :
    syncNetworkRoutes nwid dbRoutesRaw zt table = (none, table) := by
  obtain ⟨e, h⟩ := h
  simp only [syncNetworkRoutes]
  split
  · rename_i hempty
    rw [List.length_eq_zero_iff.mp hempty.2.1] at h
    cases h
  · have herror : applyChanges nwid (planChanges dbRoutesRaw zt) table = .error e := by
      unfold applyChanges
      rw [h]
      rfl
    rw [herror]

/-- What the transaction of a sync has done, where `new` are the rows that it has created. -/
structure Applied (nwid : NetworkId) (dbRoutesRaw : List Row) (zt : List Route)
    (table after : Table)
    (new : List Row) : Prop where
  routes : new.map Row.toRoute = (planChanges dbRoutesRaw zt).create.map Route.stored
  blank : ∀ row ∈ new, row.networkId = nwid ∧ row.notes = none
  ids : ((table.rows ++ new).map Row.id).Nodup
  rows : after.rows = ((table.rows ++ new).map (updated (planChanges dbRoutesRaw zt).update)).filter
    fun row => row.id ∉ (planChanges dbRoutesRaw zt).delete

/-- The transaction of a sync that nothing obstructs. -/
theorem applyChanges_eq_ok (hread : dbRoutesRaw.Perm (table.rowsOf nwid))
    (hclear : Unobstructed dbRoutesRaw zt) :
    ∃ (after : Table) (new : List Row),
      applyChanges nwid (planChanges dbRoutesRaw zt) table = .ok after ∧
      Applied nwid dbRoutesRaw zt table after new := by
  obtain ⟨new, hrows, hroutes, hnew⟩ := @rows_createRoutes nwid dbRoutesRaw zt table hread
  have hnodup := nodup_read hread
  have hids := (createRoutes nwid (planChanges dbRoutesRaw zt).create table).nodup
  have hok : ∃ next, updateRoutes (planChanges dbRoutesRaw zt).update
      (createRoutes nwid (planChanges dbRoutesRaw zt).create table) = .ok next := by
    refine updateRoutes_eq_ok nwid (nodup_update hnodup) nodup_update_stored ?_ ?_
    · rintro ⟨id, route⟩ hchange
      obtain ⟨-, row, hrow, -, hid⟩ := mem_update.mp hchange
      obtain ⟨hmem, hnwid⟩ := mem_rowsOf.mp (hread.mem_iff.mp (key_of_existing hrow).2)
      exact ⟨row, by rw [hrows]; exact List.mem_append_left _ hmem, hid, hnwid⟩
    · rintro ⟨id, route⟩ hchange other hother hnwid - hroute
      obtain ⟨hget, row, hrow, hchanged, -⟩ := mem_update.mp hchange
      rw [hrows] at hother
      rcases List.mem_append.mp hother with hother | hother
      · refine hclear _ (Dict.get?_eq_some_iff.mp hget) row hrow hchanged other ?_ hroute
        exact hread.mem_iff.mpr (mem_rowsOf.mpr ⟨hother, hnwid⟩)
      · -- a created row has a key that no row had
        obtain ⟨created, hcreated, heq⟩ : ∃ created ∈ (planChanges dbRoutesRaw zt).create,
            created.stored = other.toRoute := by
          have hmem : other.toRoute ∈ new.map Row.toRoute := List.mem_map_of_mem hother
          rw [hroutes] at hmem
          exact List.mem_map.mp hmem
        have hkey : getRouteKey created = getRouteKey route := by
          rw [← key_stored created, heq, hroute, key_stored]
        rw [← hkey, (mem_create.mp hcreated).2] at hrow
        cases hrow
  obtain ⟨next, hnext⟩ := hok
  refine ⟨next.deleteMany (planChanges dbRoutesRaw zt).delete, new, ?_, hroutes, hnew, ?_, ?_⟩
  · unfold applyChanges
    rw [hnext]
    rfl
  · rwa [hrows] at hids
  · rw [rows_deleteMany, rows_updateRoutes (nodup_update hnodup) hnext, hrows]

/-- What a sync leaves behind. -/
structure Synced (nwid : NetworkId) (dbRoutesRaw : List Row) (zt : List Route) (after : Table) :
    Prop where
  route : ∀ row ∈ after.rowsOf nwid,
    ∃ route, (newRouteMap zt).get? row.key = some route ∧ row.toRoute = route.stored
  one : ∀ row ∈ after.rowsOf nwid, ∀ row' ∈ after.rowsOf nwid, row.key = row'.key → row = row'
  all : ∀ key route, (newRouteMap zt).get? key = some route →
    ∃ row ∈ after.rowsOf nwid, row.key = key
  notes : ∀ row ∈ after.rowsOf nwid, ∀ old ∈ dbRoutesRaw, old.key = row.key →
    old.hasNote = true → row.hasNote = true

/-- A row that is kept has the controller's route afterwards. -/
theorem toRoute_updated (hnodup : (dbRoutesRaw.map Row.id).Nodup) {row : Row} {route : Route}
    (hrow : (existingRouteMap dbRoutesRaw).get? row.key = some row)
    (hroute : (newRouteMap zt).get? row.key = some route) :
    (updated (planChanges dbRoutesRaw zt).update row).toRoute = route.stored := by
  have hkey : getRouteKey route = row.key := (key_of_indexBy hroute).1
  by_cases hchanged : hasRouteChanged row route = true
  · have hmem : (row.id, route) ∈ (planChanges dbRoutesRaw zt).update :=
      mem_update.mpr ⟨hkey ▸ hroute, row, hkey ▸ hrow, hchanged, rfl⟩
    rw [updated_of_mem (nodup_update hnodup) hmem, withRoute_toRoute]
  · have hnot : row.id ∉ (planChanges dbRoutesRaw zt).update.map Prod.fst := by
      intro hmem
      obtain ⟨⟨id, route'⟩, hchange, rfl⟩ := List.mem_map.mp hmem
      obtain ⟨hroute', row', hrow', hchanged', hid⟩ := mem_update.mp hchange
      obtain ⟨hkey', hmem'⟩ := key_of_existing hrow'
      obtain rfl := List.inj_on_of_nodup_map hnodup hmem' (key_of_existing hrow).2 hid
      rw [← hkey', hroute] at hroute'
      exact hchanged (Option.some.inj hroute' ▸ hchanged')
    rw [updated_of_notMem hnot]
    exact hasRouteChanged_eq_false.mp (Bool.eq_false_iff.mpr hchanged)

theorem key_updated (hnodup : (dbRoutesRaw.map Row.id).Nodup) {row : Row} {route : Route}
    (hrow : (existingRouteMap dbRoutesRaw).get? row.key = some row)
    (hroute : (newRouteMap zt).get? row.key = some route) :
    (updated (planChanges dbRoutesRaw zt).update row).key = row.key := by
  rw [Row.key, toRoute_updated hnodup hrow hroute, key_stored]
  exact (key_of_indexBy hroute).1

/-- The id of a change is the id of a row that was read. -/
theorem mem_of_update {id : RouteId} (h : id ∈ (planChanges dbRoutesRaw zt).update.map Prod.fst) :
    id ∈ dbRoutesRaw.map Row.id := by
  obtain ⟨⟨id, route⟩, hchange, rfl⟩ := List.mem_map.mp h
  obtain ⟨-, row, hrow, -, rfl⟩ := mem_update.mp hchange
  exact List.mem_map_of_mem (key_of_existing hrow).2

section Applied

variable {new : List Row}

theorem mem_read (hread : dbRoutesRaw.Perm (table.rowsOf nwid)) {row : Row} :
    row ∈ dbRoutesRaw ↔ row ∈ table.rows ∧ row.networkId = nwid :=
  hread.mem_iff.trans mem_rowsOf

/-- The ids of the rows that were read are not the ids of the created ones. -/
theorem Applied.id_notMem (happlied : Applied nwid dbRoutesRaw zt table after new)
    (hread : dbRoutesRaw.Perm (table.rowsOf nwid)) {row : Row} (hrow : row ∈ new) :
    row.id ∉ dbRoutesRaw.map Row.id := by
  intro hmem
  obtain ⟨old, hold, hid⟩ := List.mem_map.mp hmem
  have hids := happlied.ids
  rw [List.map_append, List.nodup_append] at hids
  exact hids.2.2 _ (List.mem_map_of_mem ((mem_read hread).mp hold).1) _
    (List.mem_map_of_mem hrow) hid

/-- No change is about a created row. -/
theorem Applied.updated_new (happlied : Applied nwid dbRoutesRaw zt table after new)
    (hread : dbRoutesRaw.Perm (table.rowsOf nwid)) {row : Row} (hrow : row ∈ new) :
    updated (planChanges dbRoutesRaw zt).update row = row :=
  updated_of_notMem fun hmem => happlied.id_notMem hread hrow (mem_of_update hmem)

/-- A created row has a route of the controller, and a key that no row had. -/
theorem Applied.route_new (happlied : Applied nwid dbRoutesRaw zt table after new) {row : Row}
    (hrow : row ∈ new) :
    (existingRouteMap dbRoutesRaw).get? row.key = none ∧
      ∃ route, (newRouteMap zt).get? row.key = some route ∧ row.toRoute = route.stored := by
  have hmem : row.toRoute ∈ new.map Row.toRoute := List.mem_map_of_mem hrow
  rw [happlied.routes] at hmem
  obtain ⟨route, hroute, heq⟩ := List.mem_map.mp hmem
  have hkey : row.key = getRouteKey route := by rw [Row.key, ← heq, key_stored]
  obtain ⟨hget, hnone⟩ := mem_create.mp hroute
  rw [hkey]
  exact ⟨hnone, route, hget, heq.symm⟩

theorem Applied.nodup_key_new (happlied : Applied nwid dbRoutesRaw zt table after new) :
    (new.map Row.key).Nodup := by
  have hkeys : new.map Row.key = (planChanges dbRoutesRaw zt).create.map getRouteKey := by
    have hmap := congrArg (List.map getRouteKey) happlied.routes
    simpa only [List.map_map, Function.comp_def, key_stored] using hmap
  rw [hkeys]
  exact nodup_create

/-- **A row afterwards** is a row that was kept or one that was created. -/
theorem Applied.origin (happlied : Applied nwid dbRoutesRaw zt table after new)
    (hread : dbRoutesRaw.Perm (table.rowsOf nwid)) {row : Row} (hrow : row ∈ after.rowsOf nwid) :
    (∃ old route, (existingRouteMap dbRoutesRaw).get? row.key = some old ∧
        row = updated (planChanges dbRoutesRaw zt).update old ∧
        (newRouteMap zt).get? row.key = some route ∧ row.toRoute = route.stored) ∨
      row ∈ new := by
  have hnodup := nodup_read hread
  obtain ⟨hrow, hnwid⟩ := mem_rowsOf.mp hrow
  rw [happlied.rows] at hrow
  obtain ⟨hrow, hdelete⟩ := List.mem_filter.mp hrow
  obtain ⟨old, hold, rfl⟩ := List.mem_map.mp hrow
  rw [updated_networkId] at hnwid
  rw [updated_id, decide_eq_true_iff, mem_delete hnodup] at hdelete
  rcases List.mem_append.mp hold with hold | hold
  · have hmem := (mem_read hread).mpr ⟨hold, hnwid⟩
    have hkept : (existingRouteMap dbRoutesRaw).get? old.key = some old :=
      Classical.byContradiction fun h => hdelete ⟨old, hmem, rfl, .inl h⟩
    obtain ⟨route, hroute⟩ : ∃ route, (newRouteMap zt).get? old.key = some route := by
      cases hget : (newRouteMap zt).get? old.key with
      | none => exact absurd ⟨old, hmem, rfl, .inr hget⟩ hdelete
      | some route => exact ⟨route, rfl⟩
    have hkey := key_updated hnodup hkept hroute
    exact .inl ⟨old, route, hkey ▸ hkept, rfl, hkey ▸ hroute, toRoute_updated hnodup hkept hroute⟩
  · rw [happlied.updated_new hread hold]
    exact .inr hold

/-- A row is there afterwards, if the controller has its route. -/
theorem Applied.mem_of_kept (happlied : Applied nwid dbRoutesRaw zt table after new)
    (hread : dbRoutesRaw.Perm (table.rowsOf nwid)) {old : Row} {route : Route}
    (hexisting : (existingRouteMap dbRoutesRaw).get? old.key = some old)
    (hget : (newRouteMap zt).get? old.key = some route) :
    updated (planChanges dbRoutesRaw zt).update old ∈ after.rowsOf nwid := by
  have hnodup := nodup_read hread
  have hmem := (key_of_existing hexisting).2
  obtain ⟨hold, hnwid⟩ := (mem_read hread).mp hmem
  rw [mem_rowsOf, updated_networkId, happlied.rows, List.mem_filter, decide_eq_true_iff, updated_id,
    mem_delete hnodup]
  refine ⟨⟨List.mem_map_of_mem (List.mem_append_left _ hold), ?_⟩, hnwid⟩
  rintro ⟨row, hrow, hid, h⟩
  obtain rfl := List.inj_on_of_nodup_map hnodup hrow hmem hid
  rcases h with h | h
  · exact h hexisting
  · rw [hget] at h
    cases h

/-- A created row is there afterwards. -/
theorem Applied.mem_of_new (happlied : Applied nwid dbRoutesRaw zt table after new)
    (hread : dbRoutesRaw.Perm (table.rowsOf nwid)) {row : Row} (hrow : row ∈ new) :
    row ∈ after.rowsOf nwid := by
  rw [mem_rowsOf, happlied.rows, List.mem_filter, decide_eq_true_iff, mem_delete (nodup_read hread)]
  refine ⟨⟨List.mem_map.mpr ⟨row, List.mem_append_right _ hrow, happlied.updated_new hread hrow⟩,
    ?_⟩,
    (happlied.blank row hrow).1⟩
  rintro ⟨old, hold, hid, -⟩
  exact happlied.id_notMem hread hrow (hid ▸ List.mem_map_of_mem hold)

/-- Two rows with one key are one row. -/
theorem Applied.one (happlied : Applied nwid dbRoutesRaw zt table after new)
    (hread : dbRoutesRaw.Perm (table.rowsOf nwid)) {row row' : Row}
    (hrow : row ∈ after.rowsOf nwid) (hrow' : row' ∈ after.rowsOf nwid)
    (hkey : row.key = row'.key) :
    row = row' := by
  rcases happlied.origin hread hrow with ⟨old, -, hold, heq, -⟩ | hrow
  · rcases happlied.origin hread hrow' with ⟨old', -, hold', heq', -⟩ | hrow'
    · rw [hkey, hold'] at hold
      rw [heq, heq', Option.some.inj hold]
    · rw [hkey, (happlied.route_new hrow').1] at hold
      cases hold
  · rcases happlied.origin hread hrow' with ⟨old', -, hold', -⟩ | hrow'
    · rw [← hkey, (happlied.route_new hrow).1] at hold'
      cases hold'
    · exact List.inj_on_of_nodup_map happlied.nodup_key_new hrow hrow' hkey

/-- Every route of the controller has a row. -/
theorem Applied.all (happlied : Applied nwid dbRoutesRaw zt table after new)
    (hread : dbRoutesRaw.Perm (table.rowsOf nwid)) {key : JsString} {route : Route}
    (hget : (newRouteMap zt).get? key = some route) : ∃ row ∈ after.rowsOf nwid, row.key = key := by
  have hkey : getRouteKey route = key := (key_of_indexBy hget).1
  cases hexisting : (existingRouteMap dbRoutesRaw).get? key with
  | some old =>
    obtain ⟨rfl, -⟩ := key_of_existing hexisting
    exact ⟨_, happlied.mem_of_kept hread hexisting hget,
      key_updated (nodup_read hread) hexisting hget⟩
  | none =>
    have hmem : route.stored ∈ new.map Row.toRoute := by
      rw [happlied.routes]
      exact List.mem_map_of_mem (mem_create.mpr ⟨hkey.symm ▸ hget, hkey.symm ▸ hexisting⟩)
    obtain ⟨row, hrow, heq⟩ := List.mem_map.mp hmem
    exact ⟨row, happlied.mem_of_new hread hrow, by rw [Row.key, heq, key_stored, hkey]⟩

end Applied

theorem synced_of_unobstructed (hread : dbRoutesRaw.Perm (table.rowsOf nwid))
    (hclear : Unobstructed dbRoutesRaw zt) :
    ∃ after, applyChanges nwid (planChanges dbRoutesRaw zt) table = .ok after ∧
      Synced nwid dbRoutesRaw zt after := by
  obtain ⟨after, new, hok, happlied⟩ := applyChanges_eq_ok hread hclear
  refine ⟨after, hok, ?_, ?_, ?_, ?_⟩
  · intro row hrow
    rcases happlied.origin hread hrow with ⟨old, route, -, -, hget, heq⟩ | hrow
    · exact ⟨route, hget, heq⟩
    · exact (happlied.route_new hrow).2
  · exact fun row hrow row' hrow' hkey => happlied.one hread hrow hrow' hkey
  · exact fun key route hget => happlied.all hread hget
  · intro row hrow old hold hkey hnote
    rcases happlied.origin hread hrow with ⟨kept, -, hkept, rfl, -⟩ | hrow
    · have hkeptNote := hasNote_of_existing hkept hold hkey hnote
      simpa only [Row.hasNote, updated_notes] using hkeptNote
    · exact absurd hkey (existing_eq_none.mp (happlied.route_new hrow).1 old hold)

/-- Where the sync of a network has left it, the next one finds nothing to do. -/
theorem sync_of_synced (h : Synced nwid dbRoutesRaw zt after) {again : List Row}
    (hagain : again.Perm (after.rowsOf nwid)) :
    syncNetworkRoutes nwid again zt after = (some again, after) := by
  have hkept : ∀ row ∈ again, (existingRouteMap again).get? row.key = some row := by
    intro row hrow
    obtain ⟨row', hrow'⟩ : ∃ row', (existingRouteMap again).get? row.key = some row' :=
      exists_indexBy (mem_sortRoutes.mpr hrow)
    obtain ⟨hkey, hmem⟩ := key_of_existing hrow'
    rw [hrow', h.one row' (hagain.mem_iff.mp hmem) row (hagain.mem_iff.mp hrow) hkey]
  have hcreate : (planChanges again zt).create = [] := by
    refine List.eq_nil_iff_forall_not_mem.mpr fun route hroute => ?_
    obtain ⟨hget, hnone⟩ := mem_create.mp hroute
    obtain ⟨row, hrow, hkey⟩ := h.all _ route hget
    exact existing_eq_none.mp hnone row (hagain.mem_iff.mpr hrow) hkey
  have hupdate : (planChanges again zt).update = [] := by
    refine List.eq_nil_iff_forall_not_mem.mpr fun ⟨id, route⟩ hchange => ?_
    obtain ⟨hget, row, hrow, hchanged, -⟩ := mem_update.mp hchange
    obtain ⟨hkey, hmem⟩ := key_of_existing hrow
    obtain ⟨route', hget', heq⟩ := h.route row (hagain.mem_iff.mp hmem)
    rw [hkey, hget] at hget'
    rw [← Option.some.inj hget'] at heq
    simp [hasRouteChanged_eq_false.mpr heq] at hchanged
  have hdelete : (planChanges again zt).delete = [] := by
    refine List.eq_nil_iff_forall_not_mem.mpr fun id hid => ?_
    obtain ⟨row, hrow, -, hmissing⟩ := (mem_delete (nodup_read hagain)).mp hid
    rcases hmissing with hmissing | hmissing
    · exact hmissing (hkept row hrow)
    · obtain ⟨route, hget, -⟩ := h.route row (hagain.mem_iff.mp hrow)
      rw [hmissing] at hget
      cases hget
  simp [syncNetworkRoutes, hcreate, hupdate, hdelete]

theorem Synced.keys (h : Synced nwid dbRoutesRaw zt after) :
    ((after.rowsOf nwid).map Row.key).Perm (zt.map getRouteKey).dedup := by
  have hrows : (after.rowsOf nwid).Nodup := (after.nodup.of_map).filter _
  have hnodup : ((after.rowsOf nwid).map Row.key).Nodup :=
    List.Nodup.map_on (fun row hrow row' hrow' => h.one row hrow row' hrow') hrows
  refine (List.perm_ext_iff_of_nodup hnodup (List.nodup_dedup _)).mpr fun key => ?_
  rw [List.mem_dedup, List.mem_map, List.mem_map]
  constructor
  · rintro ⟨row, hrow, rfl⟩
    obtain ⟨route, hget, -⟩ := h.route row hrow
    obtain ⟨hkey, hmem⟩ := key_of_indexBy hget
    exact ⟨route, hmem, hkey⟩
  · rintro ⟨route, hroute, rfl⟩
    obtain ⟨route', hget⟩ : ∃ route', (newRouteMap zt).get? (getRouteKey route) = some route' :=
      exists_indexBy hroute
    exact h.all _ route' hget

/-- A sync that nothing obstructs is a mirror. -/
theorem mirrors_of_unobstructed (hread : dbRoutesRaw.Perm (table.rowsOf nwid))
    (hclear : Unobstructed dbRoutesRaw zt) : Mirrors nwid dbRoutesRaw zt table := by
  obtain ⟨after, hok, hsynced⟩ := synced_of_unobstructed hread hclear
  obtain ⟨hsome, hafter⟩ := sync_of_ok hok
  refine ⟨hsome, ?_, ?_, ?_⟩
  · rw [hafter]
    exact hsynced.keys
  · rw [hafter]
    rintro row hrow ⟨old, hold, hkey, hnote⟩
    exact hsynced.notes row hrow old (hread.mem_iff.mpr hold) hkey hnote
  · rw [hafter]
    exact fun again hagain => sync_of_synced hsynced hagain

/-- A sync that is obstructed fails. -/
theorem sync_of_obstructed (hread : dbRoutesRaw.Perm (table.rowsOf nwid))
    (h : ¬ Unobstructed dbRoutesRaw zt) :
    syncNetworkRoutes nwid dbRoutesRaw zt table = (none, table) := by
  unfold Unobstructed at h
  push Not at h
  obtain ⟨⟨key, route⟩, hentry, row, hrow, hchanged, other, hother, hroute⟩ := h
  obtain rfl : getRouteKey route = key := key_of_entry hentry
  obtain ⟨hkey, hmem⟩ := key_of_existing hrow
  obtain ⟨new, hrows, -⟩ := @rows_createRoutes nwid dbRoutesRaw zt table hread
  have hin : ∀ r ∈ dbRoutesRaw,
      r ∈ (createRoutes nwid (planChanges dbRoutesRaw zt).create table).rows := by
    intro r hr
    rw [hrows]
    exact List.mem_append_left _ (mem_rowsOf.mp (hread.mem_iff.mp hr)).1
  have hnodup := nodup_read hread
  refine sync_of_error (updateRoutes_eq_error (nodup_update hnodup)
    (mem_update.mpr ⟨Dict.get?_eq_some_iff.mpr hentry, row, hrow, hchanged, rfl⟩)
    (hin row hmem) (hin other hother) ?_ ?_ hroute)
  · -- the row in the way is not the one that is kept for its key, so it is not updated
    intro hid
    obtain ⟨⟨id, route'⟩, hchange, hid⟩ := List.mem_map.mp hid
    obtain ⟨-, kept, hkept, -, rfl⟩ := mem_update.mp hchange
    obtain ⟨hkey', hmem'⟩ := key_of_existing hkept
    obtain rfl := List.inj_on_of_nodup_map hnodup hmem' hother hid
    have hsame : kept.key = getRouteKey route := by rw [Row.key, hroute, key_stored]
    rw [← hkey', hsame, hrow] at hkept
    obtain rfl := Option.some.inj hkept
    rw [hasRouteChanged_eq_false.mpr hroute] at hchanged
    cases hchanged
  · rw [(mem_rowsOf.mp (hread.mem_iff.mp hother)).2, (mem_rowsOf.mp (hread.mem_iff.mp hmem)).2]

/-- **Route sync is a mirror, exactly where nothing obstructs it.**  It fails if and only if the row
that it keeps for a key is to get the target and the gateway of another row, one that it would have
deleted at the end. -/
theorem mirrors_iff_unobstructed (hread : dbRoutesRaw.Perm (table.rowsOf nwid)) :
    Mirrors nwid dbRoutesRaw zt table ↔ Unobstructed dbRoutesRaw zt := by
  constructor
  · intro h
    by_contra hnot
    have hsome := h.succeeds
    rw [sync_of_obstructed hread hnot] at hsome
    cases hsome
  · exact mirrors_of_unobstructed hread

end Mirror

/-- A LAN route twice, with its gateway once empty and once NULL.  The first has a note. -/
def lanTwice : Table where
  rows :=
    [⟨⟨js "10.0.0.0/24", some []⟩, 1, "n", some (js "lan")⟩,
      ⟨⟨js "10.0.0.0/24", none⟩, 2, "n", none⟩]
  nodup := by decide
  unique := by decide

/-- A gateway that is new does not collide. -/
theorem lanTwice_mirrors_gateway :
    Mirrors "n" (lanTwice.rowsOf "n") [⟨js "10.0.0.0/24", some (js "10.0.0.1")⟩] lanTwice :=
  (mirrors_iff_unobstructed (List.Perm.refl _)).mpr (by decide)

/-- **A sync that violates a unique index.** -/
theorem lanTwice_obstructed : ¬ ∀ (nwid : NetworkId) (dbRoutesRaw : List Row)
    (ztControllerRoutes : List Route) (table : Table), dbRoutesRaw.Perm (table.rowsOf nwid) →
    Mirrors nwid dbRoutesRaw ztControllerRoutes table := by
  intro h
  have hsome := (h "n" (lanTwice.rowsOf "n") [⟨js "10.0.0.0/24", none⟩] lanTwice
    (List.Perm.refl _)).succeeds
  revert hsome
  decide

end ZtPlanet.Ztnet.Routes
