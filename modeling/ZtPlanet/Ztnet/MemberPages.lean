/-
# The member list, page by page

`getNetworkMembers` serves the members of a network from the database, one page for each request.
Every request sorts again.  For most columns the database does, by that column alone; for the IP
addresses the procedure sorts in memory, by the number that `sortIP` makes of the first of them.

Either way the members with one value in the column may come in another order each time, and
`partitions_iff` says what that does to the list that a reader of all pages has put together.

The list is the rows in their order: `attachLiveStatus` serves each of them as one member.  The
branch for networks of the central API, which have no rows, is left out, and so is the reconcile
that a request starts, because nothing changes here between the requests.
-/
import Mathlib.Data.List.Infix
import Mathlib.Data.List.Lex
import ZtPlanet.Js.Text
import ZtPlanet.Lib.Except
import ZtPlanet.Lib.FirstBy
import ZtPlanet.Lib.Pages
import ZtPlanet.Ztnet.Members

namespace ZtPlanet.Ztnet.MemberPages

open ZtPlanet.Lib ZtPlanet.Js

/-! ## 1. Rows and requests -/

/-- The columns of `network_members` that a page is selected and sorted by. -/
structure MemberRow where
  nodeid : Nat
  id : JsString
  nwid : NetworkId
  deleted : Option Bool
  name : Option JsString
  authorized : Option Bool
  online : Option Bool
  physicalAddress : Option JsString
  ipAssignments : List JsString
  lastSeen : Option Int
  lastOnlineAt : Option Int
  lastOfflineAt : Option Int
  creationTime : Int
deriving DecidableEq

/-- The table, with its unique index. -/
structure Table where
  rows : List MemberRow
  unique : (rows.map fun row => (row.id, row.nwid)).Nodup

inductive SortBy where
  | id | name | authorized | online | physicalAddress | ipAssignments | lastSeen | lastOnlineAt
  | lastOfflineAt | creationTime
deriving DecidableEq

inductive SortDir where
  | asc | desc
deriving DecidableEq

/-- What a request asks for; `search` is trimmed. -/
structure Input where
  nwid : NetworkId
  page : Nat
  pageSize : Nat
  search : Option JsString
  sortBy : SortBy
  sortDir : SortDir
  one_le_pageSize : 1 ≤ pageSize
  pageSize_le : pageSize ≤ 100000

/-- The same request for another page. -/
def Input.atPage (input : Input) (page : Nat) : Input := { input with page := page }

/-! ## 2. The order of the database -/

/-- An order in which different values may be equal. -/
structure IsOrder {α : Type} (le : α → α → Bool) : Prop where
  total : ∀ a b, le a b = true ∨ le b a = true
  trans : ∀ a b c, le a b = true → le b c = true → le a c = true

/-- What the database brings along. -/
structure Postgres where
  /-- the order of texts, by its collation -/
  collate : JsString → JsString → Bool
  isOrder : IsOrder collate
  /-- `contains` with `mode: "insensitive"`, which is `ILIKE` -/
  contains : JsString → JsString → Bool

/-- `ORDER BY` puts NULL last. -/
def nullsLast {α : Type} (le : α → α → Bool) : Option α → Option α → Bool
  | _, none => true
  | none, some _ => false
  | some a, some b => le a b

theorem IsOrder.nullsLast {α : Type} {le : α → α → Bool} (h : IsOrder le) :
    IsOrder (nullsLast le) where
  total := by
    rintro (_ | a) (_ | b) <;> simp [MemberPages.nullsLast, h.total]
  trans := by
    rintro (_ | a) (_ | b) (_ | c) <;> simp [MemberPages.nullsLast]
    exact h.trans a b c

theorem IsOrder.comap {α β : Type} {le : α → α → Bool} (h : IsOrder le) (f : β → α) :
    IsOrder fun x y => le (f x) (f y) where
  total := fun x y => h.total (f x) (f y)
  trans := fun x y z => h.trans (f x) (f y) (f z)

/-- `false` before `true`. -/
def boolLe (a b : Bool) : Bool := !a || b

theorem isOrder_boolLe : IsOrder boolLe := ⟨by decide, by decide⟩

def intLe (a b : Int) : Bool := decide (a ≤ b)

theorem isOrder_intLe : IsOrder intLe where
  total a b := by simpa [intLe] using Int.le_total a b
  trans a b c := by simpa [intLe] using Int.le_trans

/-! ## 3. The order of the IP addresses -/

inductive JsError where
  | syntaxError | rangeError | typeError
deriving DecidableEq

/-- The floating point numbers of JavaScript, as far as `sortIP` uses them. -/
structure Numbers where
  Double : Type
  /-- `Number` -/
  number : JsString → Double
  /-- `acc * 256 + val` -/
  step : Double → Double → Double
  /-- `BigInt` of a number, which throws unless it is an integer -/
  bigInt : Double → Except JsError Int

/-- The value of a hexadecimal digit. -/
def hexDigit (u : UInt16) : Option Nat := if isDigitUnitOf 16 u then some (unitValue u) else none

/-- `hexToBigInt`; `BigInt` ignores white space at the end. -/
def hexToBigInt (hex : JsString) : Except JsError Int :=
  match (hex.reverse.dropWhile isSpaceUnit).reverse with
  | [] => .error .syntaxError
  | digits =>
    match digits.mapM hexDigit with
    | some values => .ok (values.foldl (fun acc val => acc * 16 + val) 0 : Nat)
    | none => .error .syntaxError

/-- `sortIP`. -/
def sortIP (num : Numbers) (ip : JsString) : Except JsError Int :=
  if ip = [] then .ok 0
  else if 58 ∈ ip then hexToBigInt ((ip.splitOn 58).map (padStart · 4 48)).flatten
  else
    match (ip.splitOn 46).map num.number with
    | [] => .error .typeError
    | first :: rest => num.bigInt (rest.foldl num.step first)

/-- `ipKey`. -/
def ipKey (num : Numbers) (row : MemberRow) : Except JsError Int :=
  match row.ipAssignments with
  | [] => .ok 0
  | ip :: _ => sortIP num ((ip.splitOn 47).headD [])

/-- The key of a row for which it is a number. -/
def ipValue (num : Numbers) (row : MemberRow) : Int :=
  match ipKey num row with
  | .ok value => value
  | .error _ => 0

/-! ## 4. The procedure -/

/-- The order of a column. -/
def columnLe (pg : Postgres) (num : Numbers) : SortBy → MemberRow → MemberRow → Bool
  | .id => fun r s => pg.collate r.id s.id
  | .name => fun r s => nullsLast pg.collate r.name s.name
  | .authorized => fun r s => nullsLast boolLe r.authorized s.authorized
  | .online => fun r s => nullsLast boolLe r.online s.online
  | .physicalAddress => fun r s => nullsLast pg.collate r.physicalAddress s.physicalAddress
  | .ipAssignments => fun r s => intLe (ipValue num r) (ipValue num s)
  | .lastSeen => fun r s => nullsLast intLe r.lastSeen s.lastSeen
  | .lastOnlineAt => fun r s => nullsLast intLe r.lastOnlineAt s.lastOnlineAt
  | .lastOfflineAt => fun r s => nullsLast intLe r.lastOfflineAt s.lastOfflineAt
  | .creationTime => fun r s => intLe r.creationTime s.creationTime

/-- The requested order: `r` may come before `s`. -/
def Before (pg : Postgres) (num : Numbers) (input : Input) (r s : MemberRow) : Prop :=
  match input.sortDir with
  | .asc => columnLe pg num input.sortBy r s = true
  | .desc => columnLe pg num input.sortBy s r = true

/-- `where`. -/
def matchesInput (pg : Postgres) (input : Input) (row : MemberRow) : Bool :=
  row.nwid == input.nwid && row.deleted == some false &&
    match input.search with
    | none | some [] => true
    | some search =>
      pg.contains row.id search || row.name.any (pg.contains · search) ||
        row.physicalAddress.any (pg.contains · search) || row.ipAssignments.contains search

/-- The matching members. -/
def matching (pg : Postgres) (input : Input) (table : Table) : List MemberRow :=
  table.rows.filter (matchesInput pg input)

/-- What the database answers to the queries of one request. -/
structure Answers where
  /-- the rows of the first `findMany`, before `skip` and `take` -/
  found : List MemberRow
  /-- the rows of the second one, for a page by IP addresses -/
  pageRows : List MemberRow

/-- `keyed.sort`.  A sort of two or more rows compares each of them. -/
def sortByIp (num : Numbers) (sortDir : SortDir) (keyed : List MemberRow) :
    Except JsError (List MemberRow) :=
  if keyed.length ≤ 1 then .ok keyed
  else do
    let keys ← keyed.mapM fun row => do pure (← ipKey num row, row)
    match sortDir with
    | .asc => pure ((keys.insertionSort fun a b => a.1 ≤ b.1).map Prod.snd)
    | .desc => pure ((keys.insertionSort fun a b => b.1 ≤ a.1).map Prod.snd)

structure Response where
  members : List MemberRow
  totalCount : Nat
  authorizedCount : Nat

/-- `keyed.slice(skip, skip + pageSize)` -/
def Input.slice (input : Input) (rows : List MemberRow) : List MemberRow :=
  Lib.page input.pageSize input.page rows

/-- `getNetworkMembers`. -/
def getNetworkMembers (pg : Postgres) (num : Numbers) (input : Input) (table : Table)
    (answers : Answers) : Except JsError Response := do
  let rows ←
    if input.sortBy = .ipAssignments then do
      let keyed ← sortByIp num input.sortDir answers.found
      let pageIds := (input.slice keyed).map MemberRow.id
      -- a `Map` keeps the last entry of a key
      let byId := indexBy MemberRow.id answers.pageRows.reverse
      pure (pageIds.filterMap byId.get?)
    else pure (input.slice answers.found)
  pure
    { members := rows
      totalCount := (matching pg input table).length
      authorizedCount := (table.rows.filter fun row =>
        row.nwid = input.nwid ∧ row.deleted = some false ∧ row.authorized = some true).length }

/-- The answers are those of a database with these rows. -/
structure Answers.Valid (pg : Postgres) (num : Numbers) (input : Input) (table : Table)
    (answers : Answers) : Prop where
  found : answers.found.Perm (matching pg input table)
  /-- `orderBy`, which the query for the IP addresses does not have -/
  sorted : input.sortBy ≠ .ipAssignments → answers.found.Pairwise (Before pg num input)
  pageRows : input.sortBy = .ipAssignments →
    ∀ keyed, sortByIp num input.sortDir answers.found = .ok keyed →
      answers.pageRows.Perm (table.rows.filter fun row =>
        row.nwid = input.nwid ∧ row.id ∈ (input.slice keyed).map MemberRow.id)

/-! ## 5. One request -/

section Request

variable {pg : Postgres} {num : Numbers} {input : Input} {table : Table} {answers : Answers}
  {rows : List MemberRow}

theorem isOrder_columnLe (pg : Postgres) (num : Numbers) (sortBy : SortBy) :
    IsOrder (columnLe pg num sortBy) := by
  cases sortBy with
  | id => exact pg.isOrder.comap MemberRow.id
  | name => exact pg.isOrder.nullsLast.comap MemberRow.name
  | authorized => exact isOrder_boolLe.nullsLast.comap MemberRow.authorized
  | online => exact isOrder_boolLe.nullsLast.comap MemberRow.online
  | physicalAddress => exact pg.isOrder.nullsLast.comap MemberRow.physicalAddress
  | ipAssignments => exact isOrder_intLe.comap (ipValue num)
  | lastSeen => exact isOrder_intLe.nullsLast.comap MemberRow.lastSeen
  | lastOnlineAt => exact isOrder_intLe.nullsLast.comap MemberRow.lastOnlineAt
  | lastOfflineAt => exact isOrder_intLe.nullsLast.comap MemberRow.lastOfflineAt
  | creationTime => exact isOrder_intLe.comap MemberRow.creationTime

instance : DecidableRel (Before pg num input) := fun r s => by
  unfold Before
  split <;> infer_instance

instance : Std.Total (Before pg num input) where
  total r s := by
    have h := isOrder_columnLe pg num input.sortBy
    unfold Before
    cases input.sortDir with
    | asc => exact h.total r s
    | desc => exact h.total s r

instance : IsTrans MemberRow (Before pg num input) where
  trans r s t := by
    have h := isOrder_columnLe pg num input.sortBy
    unfold Before
    cases input.sortDir with
    | asc => exact h.trans r s t
    | desc => exact fun hrs hst => h.trans t s r hst hrs

/-- The addresses of two or more members are all numbers. -/
def Comparable (num : Numbers) (rows : List MemberRow) : Prop :=
  2 ≤ rows.length → ∀ row ∈ rows, ∃ value, ipKey num row = .ok value

theorem Comparable.of_perm {rows' : List MemberRow} (h : Comparable num rows)
    (hperm : rows'.Perm rows) : Comparable num rows' :=
  fun hlen row hrow => h (hperm.length_eq ▸ hlen) row (hperm.mem_iff.mp hrow)

/-- The sort in memory is a stable sort in the requested order. -/
theorem sortByIp_eq (pg : Postgres) (hip : input.sortBy = .ipAssignments)
    (h : Comparable num rows) :
    sortByIp num input.sortDir rows = .ok (rows.insertionSort (Before pg num input)) := by
  unfold sortByIp
  split
  · rename_i hlen
    rcases rows with _ | ⟨row, _ | ⟨other, rest⟩⟩
    · simp
    · simp
    · simp at hlen
  · rename_i hlen
    have hkeys : (rows.mapM fun row => do pure (← ipKey num row, row)) =
        .ok (rows.map fun row => (ipValue num row, row)) := by
      refine mapM_ok_map fun row hrow => ?_
      obtain ⟨value, hvalue⟩ := h (by omega) row hrow
      rw [ipValue, hvalue]
      rfl
    rw [hkeys]
    cases hdir : input.sortDir with
    | asc =>
      have hmap := List.map_insertionSort (r := Before pg num input)
        (s := fun a b : Int × MemberRow => a.1 ≤ b.1) (fun row => (ipValue num row, row)) rows
        (fun r _ s _ => by simp [Before, hdir, hip, columnLe, intLe])
      change Except.ok _ = _
      rw [← hmap, List.map_map]
      simp [Function.comp_def]
    | desc =>
      have hmap := List.map_insertionSort (r := Before pg num input)
        (s := fun a b : Int × MemberRow => b.1 ≤ a.1) (fun row => (ipValue num row, row)) rows
        (fun r _ s _ => by simp [Before, hdir, hip, columnLe, intLe])
      change Except.ok _ = _
      rw [← hmap, List.map_map]
      simp [Function.comp_def]

/-- One address that is no number makes the sort throw. -/
theorem sortByIp_error (h : ¬ Comparable num rows) (sortDir : SortDir) :
    ∃ e, sortByIp num sortDir rows = .error e := by
  unfold Comparable at h
  push Not at h
  obtain ⟨hlen, row, hrow, hnone⟩ := h
  rw [sortByIp, if_neg (by omega)]
  cases hkeys : rows.mapM (fun row => do pure (← ipKey num row, row)) with
  | error e => exact ⟨e, rfl⟩
  | ok keys =>
    obtain ⟨key, hkey⟩ := returns_mapM_iff.mp ⟨keys, hkeys⟩ row hrow
    cases hvalue : ipKey num row with
    | error e =>
      rw [hvalue] at hkey
      cases hkey
    | ok value => exact absurd hvalue (hnone value)

/-- The second query gives back the rows of the page. -/
theorem filterMap_pageRows {keyed : List MemberRow} (hkeyed : keyed.Perm (matching pg input table))
    (hrows : answers.pageRows.Perm (table.rows.filter fun row =>
      row.nwid = input.nwid ∧ row.id ∈ (input.slice keyed).map MemberRow.id)) :
    ((input.slice keyed).map MemberRow.id).filterMap
      (indexBy MemberRow.id answers.pageRows.reverse).get? = input.slice keyed := by
  have hnetwork : ∀ row ∈ input.slice keyed, row ∈ table.rows ∧ row.nwid = input.nwid := by
    intro row hrow
    have hmem := hkeyed.mem_iff.mp
      ((List.take_sublist _ _).trans (List.drop_sublist _ _) |>.subset hrow)
    simp only [matching, matchesInput, List.mem_filter, Bool.and_eq_true, beq_iff_eq] at hmem
    exact ⟨hmem.1, hmem.2.1.1⟩
  have hfind : ∀ row ∈ input.slice keyed,
      (indexBy MemberRow.id answers.pageRows.reverse).get? row.id = some row := by
    intro row hrow
    obtain ⟨hmem, hnwid⟩ := hnetwork row hrow
    have hpage : row ∈ answers.pageRows.reverse := by
      rw [List.mem_reverse, hrows.mem_iff, List.mem_filter, decide_eq_true_iff]
      exact ⟨hmem, hnwid, List.mem_map_of_mem hrow⟩
    obtain ⟨other, hother⟩ : ∃ other,
        (indexBy MemberRow.id answers.pageRows.reverse).get? row.id = some other :=
      exists_indexBy hpage
    obtain ⟨hid, hmem'⟩ := key_of_indexBy hother
    rw [List.mem_reverse, hrows.mem_iff, List.mem_filter, decide_eq_true_iff] at hmem'
    obtain rfl := List.inj_on_of_nodup_map table.unique hmem'.1 hmem
      (Prod.ext hid (hmem'.2.1.trans hnwid.symm))
    exact hother
  rw [List.filterMap_map]
  have hself : ∀ rows : List MemberRow, (∀ row ∈ rows, row ∈ input.slice keyed) →
      rows.filterMap ((indexBy MemberRow.id answers.pageRows.reverse).get? ∘ MemberRow.id) =
        rows := by
    intro rows
    induction rows with
    | nil => simp
    | cons row rest ih =>
      intro hmem
      have hfirst : ((indexBy MemberRow.id answers.pageRows.reverse).get? ∘ MemberRow.id) row =
          some row := hfind row (hmem row List.mem_cons_self)
      rw [List.filterMap_cons_some hfirst, ih fun r hr => hmem r (List.mem_cons_of_mem _ hr)]
  exact hself _ fun row hrow => hrow

/-- The response with the page of an arrangement. -/
def Response.of (pg : Postgres) (input : Input) (table : Table) (arranged : List MemberRow) :
    Response where
  members := input.slice arranged
  totalCount := (matching pg input table).length
  authorizedCount := (table.rows.filter fun row =>
    row.nwid = input.nwid ∧ row.deleted = some false ∧ row.authorized = some true).length

/-- **What a request returns**: a page of an arrangement of the matching members. -/
theorem getNetworkMembers_of_valid (hvalid : answers.Valid pg num input table)
    (h : input.sortBy = .ipAssignments → Comparable num (matching pg input table)) :
    ∃ a, Arrangement (Before pg num input) (matching pg input table) a ∧
      getNetworkMembers pg num input table answers = .ok (.of pg input table a) := by
  by_cases hip : input.sortBy = .ipAssignments
  · have hsort := sortByIp_eq pg hip ((h hip).of_perm hvalid.found)
    have hperm := (List.perm_insertionSort (Before pg num input) answers.found).trans hvalid.found
    refine ⟨_, ⟨hperm, List.pairwise_insertionSort _ _⟩, ?_⟩
    have hpage := filterMap_pageRows hperm (hvalid.pageRows hip _ hsort)
    unfold getNetworkMembers
    rw [if_pos hip, hsort]
    change Except.ok _ = _
    rw [hpage]
    rfl
  · refine ⟨answers.found, ⟨hvalid.found, hvalid.sorted hip⟩, ?_⟩
    unfold getNetworkMembers
    rw [if_neg hip]
    rfl

/-- **Every arrangement can be returned.** -/
theorem exists_valid (h : input.sortBy = .ipAssignments → Comparable num (matching pg input table))
    {a : List MemberRow} (ha : Arrangement (Before pg num input) (matching pg input table) a) :
    ∃ answers : Answers, answers.Valid pg num input table ∧
      getNetworkMembers pg num input table answers = .ok (.of pg input table a) := by
  let answers : Answers := ⟨a, table.rows.filter fun row =>
    row.nwid = input.nwid ∧ row.id ∈ (input.slice a).map MemberRow.id⟩
  by_cases hip : input.sortBy = .ipAssignments
  · have hsort : sortByIp num input.sortDir a = .ok a := by
      rw [sortByIp_eq pg hip ((h hip).of_perm ha.perm), ha.sorted.insertionSort_eq]
    have hvalid : answers.Valid pg num input table := by
      refine ⟨ha.perm, fun _ => ha.sorted, fun _ keyed hkeyed => ?_⟩
      rw [hsort] at hkeyed
      rw [← Except.ok.inj hkeyed]
    refine ⟨answers, hvalid, ?_⟩
    have hpage := filterMap_pageRows ha.perm (hvalid.pageRows hip a hsort)
    unfold getNetworkMembers
    rw [if_pos hip, hsort]
    change Except.ok _ = _
    rw [hpage]
    rfl
  · refine ⟨answers, ⟨ha.perm, fun _ => ha.sorted, fun h => absurd h hip⟩, ?_⟩
    unfold getNetworkMembers
    rw [if_neg hip]
    rfl

/-- A request fails where the addresses cannot be compared. -/
theorem getNetworkMembers_error (hip : input.sortBy = .ipAssignments)
    (h : ¬ Comparable num (matching pg input table)) :
    ∃ answers : Answers, answers.Valid pg num input table ∧
      ∃ e, getNetworkMembers pg num input table answers = .error e := by
  obtain ⟨e, he⟩ := sortByIp_error h input.sortDir
  refine ⟨⟨matching pg input table, []⟩, ⟨List.Perm.refl _, fun h => absurd hip h, ?_⟩, e, ?_⟩
  · intro _ keyed hkeyed
    cases he.symm.trans hkeyed
  · unfold getNetworkMembers
    rw [if_pos hip, he]
    rfl

end Request

/-! ## 6. All pages -/

section Pages

variable {pg : Postgres} {num : Numbers} {input : Input} {table : Table}

/-- Whatever the database answers, the pages together are the matching members, each once and in the
requested order, and every page says how many they are. -/
def Partitions (pg : Postgres) (num : Numbers) (input : Input) (table : Table) : Prop :=
  ∀ answers : Nat → Answers, (∀ k, (answers k).Valid pg num (input.atPage k) table) →
    ∀ m, (matching pg input table).length ≤ m * input.pageSize →
      ∃ responses,
        (List.range m).mapM (fun k => getNetworkMembers pg num (input.atPage k) table (answers k)) =
          .ok responses ∧
        Arrangement (Before pg num input) (matching pg input table)
          (responses.flatMap Response.members) ∧
        ∀ response ∈ responses, response.totalCount = (matching pg input table).length

/-- The addresses can be compared, where they are the column, and no page ends between two members
with the same value in the column. -/
structure NoTieAcrossPages (pg : Postgres) (num : Numbers) (input : Input) (table : Table) :
    Prop where
  comparable : input.sortBy = .ipAssignments → Comparable num (matching pg input table)
  noTie : ∀ k, ¬ TieAt (Before pg num input)
    ((matching pg input table).insertionSort (Before pg num input)) (k * input.pageSize)

theorem nodup_matching : (matching pg input table).Nodup := (table.unique.of_map _).filter _

/-- What the pages of arrangements put together. -/
theorem mapM_of (a : Nat → List MemberRow) {answers : Nat → Answers}
    (h : ∀ k, getNetworkMembers pg num (input.atPage k) table (answers k) =
      .ok (.of pg (input.atPage k) table (a k))) (m : Nat) :
    ∃ responses,
      (List.range m).mapM (fun k => getNetworkMembers pg num (input.atPage k) table (answers k)) =
        .ok responses ∧
      responses.flatMap Response.members = pages input.pageSize m a ∧
      ∀ response ∈ responses, response.totalCount = (matching pg input table).length := by
  refine ⟨_, mapM_ok_map fun k _ => h k, ?_, ?_⟩
  · rw [List.flatMap_map]
    rfl
  · intro response hresponse
    obtain ⟨k, -, rfl⟩ := List.mem_map.mp hresponse
    rfl

/-- **The pages lose and repeat nothing, exactly where no page ends in a tie.** -/
theorem partitions_iff :
    Partitions pg num input table ↔ NoTieAcrossPages pg num input table := by
  have hsorted : Arrangement (Before pg num input) (matching pg input table)
      ((matching pg input table).insertionSort (Before pg num input)) :=
    ⟨List.perm_insertionSort _ _, List.pairwise_insertionSort _ _⟩
  have hiff := pages_iff input.one_le_pageSize nodup_matching hsorted
  constructor
  · intro h
    have hcomparable : input.sortBy = .ipAssignments →
      Comparable num (matching pg input table) := by
      intro hip
      by_contra hnot
      have herror : ∀ k, ∃ answers : Answers, answers.Valid pg num (input.atPage k) table ∧
          ∃ e, getNetworkMembers pg num (input.atPage k) table answers = .error e :=
        fun k => getNetworkMembers_error hip hnot
      choose answers hvalid e he using herror
      obtain ⟨responses, hok, -⟩ :=
        h answers hvalid _ (Nat.le_mul_of_pos_right _ input.one_le_pageSize)
      have hpos : 0 < (matching pg input table).length := by
        unfold Comparable at hnot
        push Not at hnot
        omega
      obtain ⟨response, hresponse⟩ :=
        returns_mapM_iff.mp ⟨responses, hok⟩ 0 (List.mem_range.mpr hpos)
      cases (he 0).symm.trans hresponse
    refine ⟨hcomparable, hiff.mp fun a ha m hm => ?_⟩
    have hanswers : ∀ k, ∃ answers : Answers, answers.Valid pg num (input.atPage k) table ∧
        getNetworkMembers pg num (input.atPage k) table answers =
          .ok (.of pg (input.atPage k) table (a k)) :=
      fun k => @exists_valid pg num (input.atPage k) table hcomparable (a k) (ha k)
    choose answers hvalid hof using hanswers
    obtain ⟨responses, hok, harranged, -⟩ := h answers hvalid m hm
    obtain ⟨responses', hok', hpages, -⟩ := mapM_of a hof m
    rw [Except.ok.inj (hok'.symm.trans hok)] at hpages
    exact hpages ▸ harranged
  · rintro ⟨hcomparable, hno⟩ answers hvalid m hm
    have hof : ∀ k, ∃ a, Arrangement (Before pg num input) (matching pg input table) a ∧
        getNetworkMembers pg num (input.atPage k) table (answers k) =
          .ok (.of pg (input.atPage k) table a) :=
      fun k => getNetworkMembers_of_valid (hvalid k) hcomparable
    choose a ha hof using hof
    obtain ⟨responses, hok, hpages, htotal⟩ := mapM_of a hof m
    exact ⟨responses, hok, hpages ▸ hiff.mpr hno a ha m hm, htotal⟩

end Pages

/-- A database that compares texts unit by unit. -/
def bytewise : Postgres where
  collate a b := decide (a.map UInt16.toNat ≤ b.map UInt16.toNat)
  isOrder := by
    refine ⟨fun a b => ?_, fun a b c => ?_⟩
    · simpa using le_total (a.map UInt16.toNat) (b.map UInt16.toNat)
    · simpa using le_trans
  contains text search := decide (search <:+: text)

/-- Integers in place of floating point numbers, and decimal digits only. -/
def decimals : Numbers where
  Double := Int
  number digits := digits.foldl (fun acc unit => acc * 10 + (unit.toNat - 48 : Nat)) 0
  step acc val := acc * 256 + val
  bigInt := .ok

/-- A member without a name. -/
def nameless (nodeid : Nat) (id : JsString) : MemberRow where
  nodeid := nodeid
  id := id
  nwid := "8056c2e21c000001"
  deleted := some false
  name := none
  authorized := some true
  online := some false
  physicalAddress := none
  ipAssignments := []
  lastSeen := none
  lastOnlineAt := none
  lastOfflineAt := none
  creationTime := 0

/-- Two members without a name. -/
def twoNameless : Table where
  rows := [nameless 1 (js "aa"), nameless 2 (js "bb")]
  unique := by decide

/-- The members by name, one to a page. -/
def byName : Input where
  nwid := "8056c2e21c000001"
  page := 0
  pageSize := 1
  search := none
  sortBy := .name
  sortDir := .asc
  one_le_pageSize := by decide
  pageSize_le := by decide

/-- **A member that is on both pages, and one that is on none.** -/
theorem nameless_member_lost : ¬ ∀ (pg : Postgres) (num : Numbers) (input : Input) (table : Table),
    Partitions pg num input table := by
  intro h
  let answers : Nat → Answers := fun k =>
    if k = 1 then ⟨[nameless 2 (js "bb"), nameless 1 (js "aa")], []⟩
    else ⟨[nameless 1 (js "aa"), nameless 2 (js "bb")], []⟩
  have hvalid : ∀ found, found.Perm (matching bytewise byName twoNameless) →
      found.Pairwise (Before bytewise decimals byName) → ∀ k,
      Answers.Valid bytewise decimals (byName.atPage k) twoNameless ⟨found, []⟩ :=
    fun _ hfound hsorted k => ⟨hfound, fun _ => hsorted, fun h => nomatch h⟩
  have hpages := h bytewise decimals byName twoNameless answers
    (fun k => by
      unfold answers
      split
      · exact hvalid _ (by decide) (by decide) k
      · exact hvalid _ (by decide) (by decide) k)
    2 (by decide)
  obtain ⟨responses, hok, harranged, -⟩ := hpages
  cases hok
  exact absurd harranged.perm (by decide)

end ZtPlanet.Ztnet.MemberPages
