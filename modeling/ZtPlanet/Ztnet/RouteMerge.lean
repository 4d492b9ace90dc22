/-
# The routes that are sent with the pools

`advancedIpAssignment` validates the pools, adds their routes to those of the controller and sends
the list back.  The list holds one route for each address in front of the slash, the last one that
it meets.  So a route of the controller is lost when another route with this address comes behind
it; and all of them are lost when the network is one of ZeroTier Central, whose answer has the
routes in another place.
-/
import ZtPlanet.Lib.FirstBy
import ZtPlanet.Ztnet.PoolRoutes

namespace ZtPlanet.Ztnet.PoolRoutes

open ZtPlanet.Lib ZtPlanet.Python

/-! ## 1. `advancedIpAssignment` -/

/-- What the controller answers.  ZeroTier Central has the settings of a network under `config`. -/
inductive ControllerNetwork where
  | hosted (routes : List Route)
  | central (config : List Route)
deriving DecidableEq

/-- `controllerNetwork?.routes`. -/
def ControllerNetwork.routes : ControllerNetwork → Option (List Route)
  | hosted routes => some routes
  | central _ => none

/-- What is sent to the controller: the pools and the routes, under `config` for Central. -/
inductive UpdateParams where
  | hosted (ipAssignmentPools : List IpRange) (routes : List Route)
  | central (ipAssignmentPools : List IpRange) (routes : List Route)
deriving DecidableEq

def UpdateParams.routes : UpdateParams → List Route
  | hosted _ routes | central _ routes => routes

/-- `get_network` for a network with these managed routes. -/
def getNetwork (isCentral : Bool) (managed : List Route) : ControllerNetwork :=
  if isCentral then .central managed else .hosted managed

/-- `route.target.split("/")[0]`. -/
def Route.ip (r : Route) : PyStr := (split r.target (ch '/')).headD []

/-- `networkRouter.advancedIpAssignment`, for a user who may change the network: the error that is
thrown, or what is sent to the controller. -/
def advancedIpAssignment (package : AddressPackage) (isCentral : Bool) (managed : List Route)
    (ipAssignmentPools : List IpRange) : Except PyStr UpdateParams :=
  if ipAssignmentPools.all (IpRange.isValid package) then
    let controllerNetwork := getNetwork isCentral managed
    let routes := getNetworkClassCIDR ipAssignmentPools
    let combinedRoutes := controllerNetwork.routes.getD [] ++ routes
    let uniqueRoutes := (lastBy Route.ip combinedRoutes).entries.map Prod.snd
    .ok (if isCentral then .central ipAssignmentPools uniqueRoutes
      else .hosted ipAssignmentPools uniqueRoutes)
  else .error (py "Invalid IP range provided")

/-! ## 2. Which routes are kept -/

/-- The last route with this address in front of the slash. -/
def lastRoute (routes : List Route) (ip : PyStr) : Option Route :=
  routes.reverse.find? fun r => r.ip = ip

/-- No route of the controller is replaced: those with the same address are the same route, and so
is the last of the pools' routes with this address. -/
structure Undisturbed (managed pools : List Route) : Prop where
  each_other : ∀ r ∈ managed, ∀ s ∈ managed, s.ip = r.ip → s = r
  by_pools : ∀ r ∈ managed, ∀ s, lastRoute pools r.ip = some s → s = r

theorem lastRoute_append (routes routes' : List Route) (ip : PyStr) :
    lastRoute (routes ++ routes') ip = (lastRoute routes' ip).or (lastRoute routes ip) := by
  unfold lastRoute
  rw [List.reverse_append, List.find?_append]

theorem lastRoute_mem {routes : List Route} {ip : PyStr} {r : Route}
    (h : lastRoute routes ip = some r) : r ∈ routes ∧ r.ip = ip :=
  ⟨List.mem_reverse.mp (List.mem_of_find?_eq_some h), by simpa using List.find?_some h⟩

theorem exists_lastRoute {routes : List Route} {r : Route} (h : r ∈ routes) :
    ∃ s, lastRoute routes r.ip = some s := by
  unfold lastRoute
  rw [← Option.isSome_iff_exists, List.find?_isSome]
  exact ⟨r, List.mem_reverse.mpr h, decide_eq_true rfl⟩

/-- What stands in front is kept if and only if it is undisturbed. -/
theorem lastRoute_append_iff (managed pools : List Route) :
    (∀ r ∈ managed, lastRoute (managed ++ pools) r.ip = some r) ↔ Undisturbed managed pools := by
  constructor
  · intro hkept
    refine ⟨fun r hr s hs hip => ?_, fun r hr s hlast => ?_⟩
    · have hr' := hkept r hr
      have hs' := hkept s hs
      rw [hip, hr'] at hs'
      exact (Option.some.inj hs').symm
    · have hr' := hkept r hr
      rw [lastRoute_append, hlast] at hr'
      exact Option.some.inj hr'
  · intro h r hr
    rw [lastRoute_append]
    cases hpools : lastRoute pools r.ip with
    | some s => rw [h.by_pools r hr s hpools, Option.some_or]
    | none =>
      obtain ⟨s, hs⟩ := exists_lastRoute hr
      obtain ⟨hmem, hip⟩ := lastRoute_mem hs
      rw [Option.none_or, hs, h.each_other r hr s hmem hip]

/-- **The routes of the controller are kept**, for a request that is accepted, if and only if none
of them is replaced by another route with the same address; on Central, whose routes are not found,
if and only if each of them is the last route with its address that the pools get. -/
theorem advancedIpAssignment_keeps_iff (package : AddressPackage) (isCentral : Bool)
    (managed : List Route) (ipAssignmentPools : List IpRange) :
    (∀ params, advancedIpAssignment package isCentral managed ipAssignmentPools = .ok params →
      ∀ r ∈ managed, r ∈ params.routes) ↔
    (ipAssignmentPools.all (IpRange.isValid package) = true →
      if isCentral = true then
        ∀ r ∈ managed, lastRoute (getNetworkClassCIDR ipAssignmentPools) r.ip = some r
      else Undisturbed managed (getNetworkClassCIDR ipAssignmentPools)) := by
  unfold advancedIpAssignment
  by_cases hvalid : ipAssignmentPools.all (IpRange.isValid package) = true
  · rw [if_pos hvalid]
    simp only [hvalid, forall_const, Except.ok.injEq, forall_eq']
    cases isCentral with
    | true =>
      simp only [UpdateParams.routes, mem_lastBy, if_true]
      rfl
    | false =>
      rw [← lastRoute_append_iff]
      simp only [UpdateParams.routes, mem_lastBy, Bool.false_eq_true, if_false]
      rfl
  · rw [if_neg hvalid]
    exact iff_of_true (fun _ h => nomatch h) fun h => absurd h hvalid

/-- **Routes are lost**: a gateway, when a pool has the same network; and on Central all of them. -/
theorem routes_lost :
    (∃ params, advancedIpAssignment .plain false
        [⟨py "100.0.0.0/24", some (py "10.0.0.1")⟩] [classPool] = .ok params ∧
      ⟨py "100.0.0.0/24", some (py "10.0.0.1")⟩ ∉ params.routes) ∧
    ∃ params, advancedIpAssignment .plain true [⟨py "10.0.0.0/24", none⟩] [classPool] = .ok params ∧
      ⟨py "10.0.0.0/24", none⟩ ∉ params.routes := by
  constructor
  · exact ⟨.hosted [classPool] [⟨py "100.0.0.0/24", none⟩], by decide +kernel, by decide +kernel⟩
  · exact ⟨.central [classPool] [⟨py "100.0.0.0/24", none⟩], by decide +kernel, by decide +kernel⟩

end ZtPlanet.Ztnet.PoolRoutes
