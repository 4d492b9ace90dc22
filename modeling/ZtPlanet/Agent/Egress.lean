/-
# The relay's egress rules

`relay-firewall.sh` keeps the relay away from private networks: a chain of its own with a rule for
each range, and a jump to it for the relay's subnet.  `apply_runtime` installs the rules before it
starts the relay and removes them after it has stopped it.

Here a call of the agent is refined: the two runs of the script become programs of single iptables
commands, each of which may fail, and any of which may be the last before the script is killed.
`docker compose stop` takes the relay down where it returns 0, and `docker compose up` with the
relay among its services may start it whatever it returns.

Installing begins with an empty chain, and removing does not ask whether the stop has worked.  So
the rules are missing under a running relay on every call that leaves the relay enabled, and after
a failed stop.  `relay_isolated` says that this is all: as long as no flush and no removal of the
last jump takes effect while the relay may be running, the relay never runs without its rules.
-/
import ZtPlanet.Agent.Rendering
import ZtPlanet.Lib.Refine

namespace ZtPlanet.Agent

open ZtPlanet.Lib ZtPlanet.Python

/-! ## 1. The rules -/

/-- A rule of the chain `ZTPLANET_RELAY_EGRESS`. -/
inductive EgressRule where
  /-- `-m conntrack --ctstate ESTABLISHED,RELATED -j RETURN` -/
  | returnEstablished
  /-- `-d cidr -j REJECT` -/
  | reject (cidr : String)
  /-- `-p udp -j RETURN` -/
  | returnUdp
  /-- `-j REJECT` -/
  | rejectAll
deriving DecidableEq

/-- The ranges of the loop. -/
def egressCidrs : List String :=
  ["0.0.0.0/8", "10.0.0.0/8", "100.64.0.0/10", "127.0.0.0/8", "169.254.0.0/16", "172.16.0.0/12",
    "192.0.0.0/24", "192.0.2.0/24", "192.88.99.0/24", "192.168.0.0/16", "198.18.0.0/15",
    "198.51.100.0/24", "203.0.113.0/24", "224.0.0.0/4", "240.0.0.0/4"]

/-- The chain as `install` builds it. -/
def egressRules : List EgressRule :=
  .returnEstablished :: egressCidrs.map .reject ++ [.returnUdp, .rejectAll]

/-- The chain, if it exists, and the number of jumps to it from `DOCKER-USER`. -/
structure Netfilter where
  chain : Option (List EgressRule)
  jumps : Nat
deriving DecidableEq

/-- A command of the script. -/
inductive Iptables where
  /-- `command -v iptables` -/
  | lookup
  /-- `iptables -N "$chain"` -/
  | newChain
  /-- `iptables -F "$chain"` -/
  | flush
  /-- `iptables -A "$chain" …` -/
  | append (rule : EgressRule)
  /-- `iptables -C DOCKER-USER -s "$subnet" -j "$chain"` -/
  | checkJump
  /-- `iptables -I DOCKER-USER 1 -s "$subnet" -j "$chain"` -/
  | insertJump
  /-- `iptables -D DOCKER-USER -s "$subnet" -j "$chain"` -/
  | deleteJump
  /-- `iptables -X "$chain"` -/
  | deleteChain

/-- What a command does; `none` where it does not apply and fails. -/
def Iptables.run : Iptables → Netfilter → Option Netfilter
  | .lookup, net => some net
  | .newChain, net => if net.chain = none then some { net with chain := some [] } else none
  | .flush, net => net.chain.map fun _ => { net with chain := some [] }
  | .append rule, net => net.chain.map fun rules => { net with chain := some (rules ++ [rule]) }
  | .checkJump, net => if 0 < net.jumps then some net else none
  | .insertJump, net => net.chain.map fun _ => { net with jumps := net.jumps + 1 }
  | .deleteJump, net => if 0 < net.jumps then some { net with jumps := net.jumps - 1 } else none
  | .deleteChain, net =>
    if net.chain = some [] ∧ net.jumps = 0 then some { net with chain := none } else none

/-! ## 2. The script -/

/-- An operation of the agent, or a command of the script. -/
inductive EgressAct where
  | agent (act : Act)
  | iptables (command : Iptables)

/-- A command returns whether its status is 0. -/
@[reducible] def EgressAct.Ans : EgressAct → Type
  | .agent act => act.Ans
  | .iptables _ => Bool

/-- A part of a call, down to the single commands. -/
abbrev EgressM (α : Type) : Type := Prog EgressAct EgressAct.Ans PyError α

abbrev iptables (command : Iptables) : EgressM Bool := Prog.call (EgressAct.iptables command)

abbrev agentAct (act : Act) : EgressM act.Ans := Prog.call (EgressAct.agent act)

/-- A command under `set -e`: where it fails, the script ends. -/
def orExit (command : Iptables) (rest : EgressM Bool) : EgressM Bool := do
  let succeeded ← iptables command
  if succeeded then rest else pure false

/-- Append rules one by one. -/
def appendRules : List EgressRule → EgressM Bool → EgressM Bool
  | [], rest => rest
  | rule :: rules, rest => orExit (.append rule) (appendRules rules rest)

/-- `iptables -C … || iptables -I …`. -/
def ensureJump : EgressM Bool := do
  let present ← iptables .checkJump
  if present then pure true else iptables .insertJump

/-- `relay-firewall.sh install`; whether its status is 0. -/
def firewallInstall : EgressM Bool :=
  orExit .lookup do
    let _ ← iptables .newChain
    orExit .flush (appendRules egressRules ensureJump)

/-- The loop of `remove_rules`, which is killed with the script when its time is up. -/
def removeJumps : Nat → EgressM Bool → EgressM Bool
  | 0, _ => throw .subprocessError
  | rounds + 1, rest => do
    let present ← iptables .checkJump
    if present then orExit .deleteJump (removeJumps rounds rest) else rest

/-- `relay-firewall.sh remove`. -/
def firewallRemove (rounds : Nat) : EgressM Bool :=
  orExit .lookup (removeJumps rounds do
    let _ ← iptables .flush
    let _ ← iptables .deleteChain
    pure true)

/-- Start a script and run it to its end. -/
def runScript (phase : Phase) (command : Command) (script : EgressM Bool) : EgressM Completed := do
  let _ ← agentAct (.run phase command)
  let succeeded ← script
  pure ⟨if succeeded then 0 else 1, [], []⟩

/-- The operations of the agent, down to the single commands of the script. -/
def expand (rounds : Nat) : (act : Act) → EgressM act.Ans
  | .run phase .firewallInstall => runScript phase .firewallInstall firewallInstall
  | .run phase .firewallRemove => runScript phase .firewallRemove (firewallRemove rounds)
  | act => agentAct act

/-! ## 3. Calls -/

/-- What happens to a command of the script. -/
inductive Turn where
  | works
  | fails
  /-- the time of the script is up -/
  | killed
deriving DecidableEq

/-- What one call meets outside, with its iptables commands in their order. -/
structure EgressPlan where
  plan : Plan
  turn : Nat → Turn
  rounds : Nat

/-- The agent and the host that it runs on. -/
structure Egress where
  agent : AgentState
  net : Netfilter
  /-- the relay's container may be running -/
  relay : Bool
  /-- the iptables commands that the call has come to -/
  commands : Nat

/-- Whether the relay may be running behind an operation of the agent. -/
def relayAfter (act : Act) (r : Except PyError act.Ans) (relay : Bool) : Bool :=
  match act, r with
  | .run _ .stopRelay, .ok completed => if completed.returncode = 0 then false else relay
  | .run _ (.up selected), _ => relay || selected.contains .relay
  | _, _ => relay

/-- What each operation does. -/
def egressHandle (host : Host) (p : EgressPlan) :
    Prog.Handler EgressAct EgressAct.Ans PyError Egress
  | .agent act, s =>
    let r := handle host p.plan act s.agent
    (r.1, { s with agent := r.2, relay := relayAfter act r.1 s.relay })
  | .iptables command, s =>
    let t := { s with commands := s.commands + 1 }
    match p.turn s.commands with
    | .killed => (.error .subprocessError, t)
    | .fails => (.ok false, t)
    | .works =>
      match command.run s.net with
      | some net => (.ok true, { t with net := net })
      | none => (.ok false, t)

/-- A call with what it meets, or a restart of the process. -/
inductive EgressEvent where
  | apply (request : Json) (actor : PyStr) (p : EgressPlan)
  | rollback (actor : PyStr) (p : EgressPlan)
  | restart

/-- The states that a call passes, down to the single commands. -/
def EgressEvent.points (host : Host) (s : Egress) : EgressEvent → List Egress
  | .apply request actor p =>
    Prog.states (egressHandle host p)
      (Prog.refine (expand p.rounds) (Agent.apply host request actor))
      { s with commands := 0 }
  | .rollback actor p =>
    Prog.states (egressHandle host p) (Prog.refine (expand p.rounds) (Agent.rollback host actor))
      { s with commands := 0 }
  | .restart => [s]

/-- The state behind an event. -/
def egressStep (host : Host) (s : Egress) : EgressEvent → Option Egress
  | .apply request actor p =>
    some (Prog.exec (egressHandle host p)
      (Prog.refine (expand p.rounds) (Agent.apply host request actor)) { s with commands := 0 }).2
  | .rollback actor p =>
    some (Prog.exec (egressHandle host p)
      (Prog.refine (expand p.rounds) (Agent.rollback host actor)) { s with commands := 0 }).2
  | .restart => some { s with agent := { s.agent with idempotency := Dict.empty } }

def egressMachine (host : Host) : Machine Egress EgressEvent := ⟨egressStep host⟩

/-- The states that a run passes. -/
def visited (host : Host) : Egress → List EgressEvent → List Egress
  | s, [] => [s]
  | s, e :: events =>
    e.points host s ++ ((egressStep host s e).map fun t => visited host t events).getD []

/-! ## 4. Isolation -/

/-- The rules are installed. -/
def Egress.Installed (s : Egress) : Prop := s.net.chain = some egressRules ∧ 0 < s.net.jumps

instance (s : Egress) : Decidable s.Installed := inferInstanceAs (Decidable (_ ∧ _))

/-- Where the relay may be running, its rules are installed. -/
def Egress.Safe (s : Egress) : Prop := s.relay = true → s.Installed

instance (s : Egress) : Decidable s.Safe := inferInstanceAs (Decidable (_ → _))

/-- The operation does not take the rules from a relay that may be running: it is no flush, and no
removal of the last jump, that takes effect. -/
def Spares (p : EgressPlan) : EgressAct → Egress → Prop
  | .iptables .flush, s => s.relay = true → p.turn s.commands ≠ .works
  | .iptables .deleteJump, s => s.relay = true → p.turn s.commands = .works → 1 < s.net.jumps
  | _, _ => True

instance (p : EgressPlan) : ∀ (act : EgressAct) (s : Egress), Decidable (Spares p act s)
  | .iptables .flush, s => inferInstanceAs (Decidable (s.relay = true → _ ≠ _))
  | .iptables .deleteJump, s => inferInstanceAs (Decidable (s.relay = true → _ = _ → _ < _))
  | .agent _, _ | .iptables .lookup, _ | .iptables .newChain, _ | .iptables (.append _), _
  | .iptables .checkJump, _ | .iptables .insertJump, _ | .iptables .deleteChain, _ => isTrue trivial

/-- Every operation of the event spares the rules. -/
def EgressEvent.Spares (host : Host) (s : Egress) : EgressEvent → Prop
  | .apply request actor p =>
    Prog.Along (egressHandle host p) (Agent.Spares p)
      (Prog.refine (expand p.rounds) (Agent.apply host request actor)) { s with commands := 0 }
  | .rollback actor p =>
    Prog.Along (egressHandle host p) (Agent.Spares p)
      (Prog.refine (expand p.rounds) (Agent.rollback host actor)) { s with commands := 0 }
  | .restart => True

instance (host : Host) (s : Egress) : ∀ e : EgressEvent, Decidable (e.Spares host s)
  | .apply _ _ _ | .rollback _ _ => inferInstanceAs (Decidable (Prog.Along _ _ _ _))
  | .restart => isTrue trivial

/-! ## 5. The script keeps the rules -/

variable {host : Host} {p : EgressPlan} {s : Egress}

/-- A program of the host, as long as every operation spares the rules. -/
abbrev Sparing {α : Type} (host : Host) (p : EgressPlan) (post : Except PyError α → Egress → Prop)
    (prog : EgressM α) (s : Egress) : Prop :=
  Prog.Assuming (egressHandle host p) (Spares p) (fun _ => Egress.Safe) post prog s

/-- A command is the last one, or fails, or takes effect. -/
theorem egressHandle_iptables (host : Host) (p : EgressPlan) (command : Iptables) (s : Egress) :
    egressHandle host p (.iptables command) s
      = (.error .subprocessError, { s with commands := s.commands + 1 }) ∨
    egressHandle host p (.iptables command) s
      = (.ok false, { s with commands := s.commands + 1 }) ∨
    ∃ net, p.turn s.commands = .works ∧ command.run s.net = some net ∧
      egressHandle host p (.iptables command) s
        = (.ok true, { s with commands := s.commands + 1, net := net }) := by
  cases hturn : p.turn s.commands with
  | killed => exact .inl (by simp only [egressHandle, hturn])
  | fails => exact .inr (.inl (by simp only [egressHandle, hturn]))
  | works =>
    cases hrun : command.run s.net with
    | none => exact .inr (.inl (by simp only [egressHandle, hturn, hrun]))
    | some net => exact .inr (.inr ⟨net, rfl, rfl, by simp only [egressHandle, hturn, hrun]⟩)

/-- What has to be shown for a command. -/
theorem sparing_iptables {command : Iptables} {post : Except PyError Bool → Egress → Prop}
    (hsafe : s.Safe)
    (hkilled : post (.error .subprocessError) { s with commands := s.commands + 1 })
    (hfails : post (.ok false) { s with commands := s.commands + 1 })
    (hworks : Spares p (.iptables command) s → p.turn s.commands = .works →
      ∀ net, command.run s.net = some net →
        post (.ok true) { s with commands := s.commands + 1, net := net }) :
    Sparing host p post (iptables command) s := by
  refine Prog.assuming_call (Q := fun _ => Egress.Safe) fun hok => ⟨hsafe, ?_⟩
  rcases egressHandle_iptables host p command s with h | h | ⟨net, hturn, hrun, h⟩
  · rw [h]
    exact hkilled
  · rw [h]
    exact hfails
  · rw [h]
    exact hworks hok hturn net hrun

theorem sparing_orExit {command : Iptables} {rest : EgressM Bool}
    {post : Except PyError Bool → Egress → Prop}
    (hsafe : s.Safe)
    (hkilled : post (.error .subprocessError) { s with commands := s.commands + 1 })
    (hfails : post (.ok false) { s with commands := s.commands + 1 })
    (hworks : Spares p (.iptables command) s → p.turn s.commands = .works →
      ∀ net, command.run s.net = some net →
        Sparing host p post rest { s with commands := s.commands + 1, net := net }) :
    Sparing host p post (orExit command rest) s :=
  Prog.Assuming.bind (sparing_iptables hsafe hkilled hfails hworks)

theorem Egress.safe_of_stopped (h : s.relay = false) : s.Safe := by
  intro hrelay
  rw [h] at hrelay
  cases hrelay

/-- What `install` leaves: the rules where its status is 0, and never a relay without them. -/
def Installs (r : Except PyError Bool) (t : Egress) : Prop := t.Safe ∧ (r = .ok true → t.Installed)

theorem installs_of_stopped {r : Except PyError Bool} (h : s.relay = false) (hr : r ≠ .ok true) :
    Installs r s := ⟨Egress.safe_of_stopped h, fun heq => absurd heq hr⟩

theorem sparing_ensureJump (hstopped : s.relay = false) (hchain : s.net.chain = some egressRules) :
    Sparing host p Installs ensureJump s := by
  have hsafe := Egress.safe_of_stopped hstopped
  refine Prog.Assuming.bind (sparing_iptables hsafe (installs_of_stopped hstopped nofun) ?_ ?_)
  · refine sparing_iptables hsafe (installs_of_stopped hstopped nofun)
      (installs_of_stopped hstopped nofun) fun _ _ net hnet => ⟨Egress.safe_of_stopped hstopped, ?_⟩
    rintro -
    simp only [Iptables.run, hchain, Option.map_some, Option.some.injEq] at hnet
    subst hnet
    exact ⟨rfl, Nat.succ_pos _⟩
  · intro _ _ net hnet
    refine ⟨Egress.safe_of_stopped hstopped, fun _ => ?_⟩
    simp only [Iptables.run, Option.ite_none_right_eq_some, Option.some.injEq] at hnet
    obtain ⟨hjumps, rfl⟩ := hnet
    exact ⟨hchain, hjumps⟩

/-- The rules are appended one by one to a chain of a stopped relay. -/
theorem sparing_appendRules (done rules : List EgressRule)
    (hall : done ++ rules = egressRules) (hstopped : s.relay = false)
    (hchain : s.net.chain = some done) :
    Sparing host p Installs (appendRules rules ensureJump) s := by
  induction rules generalizing done s with
  | nil =>
    rw [List.append_nil] at hall
    exact sparing_ensureJump hstopped (hall ▸ hchain)
  | cons rule rules ih =>
    refine sparing_orExit (Egress.safe_of_stopped hstopped) (installs_of_stopped hstopped nofun)
      (installs_of_stopped hstopped nofun) fun _ _ net hnet => ?_
    simp only [Iptables.run, hchain, Option.map_some, Option.some.injEq] at hnet
    subst hnet
    exact ih (done ++ [rule]) (by rw [List.append_assoc]; exact hall) hstopped rfl

/-- **Installing.**  As long as the flush spares a running relay, the relay never runs without its
rules, and they are there where the status of the script is 0. -/
theorem sparing_firewallInstall (hsafe : s.Safe) :
    Sparing host p Installs firewallInstall s := by
  have hfailed : ∀ {t : Egress} {r : Except PyError Bool}, t.Safe → r ≠ .ok true → Installs r t :=
    fun ht hr => ⟨ht, fun heq => absurd heq hr⟩
  have hflush : ∀ {t : Egress}, t.Safe →
      Sparing host p Installs (orExit .flush (appendRules egressRules ensureJump)) t := by
    intro t ht
    refine sparing_orExit ht (hfailed ht nofun) (hfailed ht nofun) fun hspares hturn net hnet => ?_
    have hstopped : t.relay = false := by
      cases hrelay : t.relay with
      | false => rfl
      | true => exact absurd hturn (hspares hrelay)
    obtain ⟨rules, hrules, rfl⟩ := Option.map_eq_some_iff.mp hnet
    exact sparing_appendRules [] egressRules (List.nil_append _) hstopped rfl
  refine sparing_orExit hsafe (hfailed hsafe nofun) (hfailed hsafe nofun) fun _ _ net hnet => ?_
  obtain rfl : net = s.net := (Option.some.inj hnet).symm
  refine Prog.Assuming.bind (sparing_iptables hsafe (hfailed hsafe nofun) (hflush hsafe) ?_)
  intro _ _ net hnet
  refine hflush fun hrelay => ?_
  -- the chain of a running relay exists, so it is not made again
  have hchain := (hsafe hrelay).1
  simp [Iptables.run, hchain] at hnet

/-- **Removing.**  As long as the removal spares a running relay, the relay keeps its rules. -/
theorem sparing_firewallRemove (rounds : Nat) (hsafe : s.Safe) :
    Sparing host p (fun _ t => t.Safe) (firewallRemove rounds) s := by
  have hrest : ∀ {t : Egress}, t.Safe → Sparing host p (fun _ t => t.Safe) (do
      let _ ← iptables .flush
      let _ ← iptables .deleteChain
      pure true) t := by
    have hdelete : ∀ {t : Egress}, t.Safe → Sparing host p (fun _ t => t.Safe) (do
        let _ ← iptables .deleteChain
        pure true) t := by
      intro t ht
      refine Prog.Assuming.bind (sparing_iptables ht ht ht fun _ _ net hnet hrelay => ?_)
      -- a chain that is removed is empty
      have hchain := (ht hrelay).1
      simp [Iptables.run, hchain, egressRules] at hnet
    intro t ht
    refine Prog.Assuming.bind (sparing_iptables ht ht (hdelete ht) fun hspares hturn net hnet => ?_)
    exact hdelete fun hrelay => absurd hturn (hspares hrelay)
  have hloop : ∀ (rounds : Nat) {t : Egress}, t.Safe →
      Sparing host p (fun _ t => t.Safe) (removeJumps rounds do
        let _ ← iptables .flush
        let _ ← iptables .deleteChain
        pure true) t := by
    intro rounds
    induction rounds with
    | zero => exact fun ht => ht
    | succ rounds ih =>
      intro t ht
      refine Prog.Assuming.bind (sparing_iptables ht ht (hrest ht) fun _ _ net hnet => ?_)
      simp only [Iptables.run, Option.ite_none_right_eq_some, Option.some.injEq] at hnet
      obtain ⟨-, rfl⟩ := hnet
      refine sparing_orExit ht ht ht fun hspares hturn net hnet => ih fun hrelay => ?_
      -- another jump is left
      have hjumps : 1 < t.net.jumps := hspares hrelay hturn
      simp only [Iptables.run, Option.ite_none_right_eq_some, Option.some.injEq] at hnet
      obtain ⟨-, rfl⟩ := hnet
      exact ⟨(ht hrelay).1, Nat.sub_pos_of_lt hjumps⟩
  refine sparing_orExit hsafe hsafe hsafe fun _ _ net hnet => ?_
  obtain rfl : net = s.net := (Option.some.inj hnet).symm
  exact hloop rounds hsafe

/-! ## 6. The calls keep the rules -/

/-- The operation starts no relay. -/
def Act.startsNoRelay : Act → Prop
  | .run _ (.up selected) => selected.contains .relay = false
  | _ => True

/-- The operation is one of `recreate`. -/
def Act.recreates : Act → Prop
  | .run _ (.up _) | .run _ .ps => True
  | _ => False

theorem relayAfter_of_startsNoRelay {act : Act} (h : act.startsNoRelay)
    {r : Except PyError act.Ans} {relay : Bool} (hr : relayAfter act r relay = true) :
    relay = true := by
  unfold relayAfter at hr
  split at hr
  · split at hr
    · cases hr
    · exact hr
  · rw [show _ = false from h, Bool.or_false] at hr
    exact hr
  · exact hr

/-- An operation of the agent itself leaves the rules alone. -/
theorem sparing_agentAct {act : Act} (hsafe : s.Safe) (hact : act.startsNoRelay) :
    Sparing host p (fun _ t => t.Safe) (agentAct act) s :=
  Prog.assuming_call (Q := fun _ => Egress.Safe) fun _ =>
    ⟨hsafe, fun hrelay => hsafe (relayAfter_of_startsNoRelay hact hrelay)⟩

theorem sparing_runScript (phase : Phase) (command : Command) (post : Bool → Egress → Prop)
    {script : EgressM Bool} (hsafe : s.Safe) (hact : (Act.run phase command).startsNoRelay)
    (hscript : ∀ {t : Egress}, t.Safe →
      Sparing host p (fun r t => t.Safe ∧ ∀ b, r = .ok b → post b t) script t) :
    Sparing host p (fun r t => t.Safe ∧ ∀ completed, r = .ok completed →
      ∃ b, completed.returncode = (if b then 0 else 1) ∧ post b t)
      (runScript phase command script) s := by
  refine Prog.Assuming.bind ((sparing_agentAct hsafe hact).mono fun r t ht => ?_)
  cases r with
  | error e => exact ⟨ht, nofun⟩
  | ok _ =>
    refine Prog.Assuming.bind ((hscript ht).mono fun r u hu => ?_)
    cases r with
    | error e => exact ⟨hu.1, nofun⟩
    | ok b =>
      refine ⟨hu.1, fun completed heq => ⟨b, ?_, hu.2 b rfl⟩⟩
      cases heq
      rfl

/-- Every operation but a start of the relay keeps the rules. -/
theorem sparing_expand (rounds : Nat) {act : Act} (hsafe : s.Safe) (hact : act.startsNoRelay) :
    Sparing host p (fun _ t => t.Safe) (expand rounds act) s := by
  unfold expand
  split
  · refine (sparing_runScript _ .firewallInstall (fun _ _ => True) hsafe trivial fun ht => ?_).mono
      fun _ _ h => h.1
    exact (sparing_firewallInstall ht).mono fun _ _ h => ⟨h.1, fun _ _ => trivial⟩
  · refine (sparing_runScript _ .firewallRemove (fun _ _ => True) hsafe trivial fun ht => ?_).mono
      fun _ _ h => h.1
    exact (sparing_firewallRemove rounds ht).mono fun _ _ h => ⟨h, fun _ _ => trivial⟩
  · exact sparing_agentAct hsafe hact

/-- The operations of `recreate` leave the rules alone. -/
theorem sparing_recreates (rounds : Nat) {act : Act} (hs : s.Installed) (hact : act.recreates) :
    Sparing host p (fun _ t => t.Installed) (expand rounds act) s := by
  have hagent : Sparing host p (fun _ t => t.Installed) (agentAct act) s :=
    Prog.assuming_call (Q := fun _ => Egress.Safe) fun _ => ⟨fun _ => hs, hs⟩
  unfold expand
  split
  · cases hact
  · cases hact
  · exact hagent

/-- A function of the agent that keeps the rules. -/
def KeepsRules {α : Type} (host : Host) (p : EgressPlan) (prog : AgentM α) : Prop :=
  ∀ s : Egress, s.Safe →
    Sparing host p (fun _ t => t.Safe) (Prog.refine (expand p.rounds) prog) s

theorem KeepsRules.of_only {α : Type} {prog : AgentM α} (h : Prog.Only Act.startsNoRelay prog) :
    KeepsRules host p prog :=
  fun _ hsafe => h.assuming_refine (fun _ _ hact ht => sparing_expand p.rounds ht hact) hsafe

theorem KeepsRules.bind {α β : Type} {prog : AgentM α} {f : α → AgentM β}
    (hprog : KeepsRules host p prog) (hf : ∀ a, KeepsRules host p (f a)) :
    KeepsRules host p (prog >>= f) := by
  intro s hsafe
  rw [Prog.refine_bind]
  refine Prog.Assuming.bind ((hprog s hsafe).mono fun r t ht => ?_)
  cases r with
  | error e => exact ht
  | ok a => exact hf a t ht

theorem KeepsRules.tryCatch {α : Type} {prog : AgentM α} {f : PyError → AgentM α}
    (hprog : KeepsRules host p prog) (hf : ∀ e, KeepsRules host p (f e)) :
    KeepsRules host p (tryCatch prog f) := by
  intro s hsafe
  rw [Prog.refine_tryCatch]
  refine Prog.Assuming.tryCatch ((hprog s hsafe).mono fun r t ht => ?_)
  cases r with
  | error e => exact hf e t ht
  | ok a => exact ht

/-- Where the install of the rules is checked, they are there behind it. -/
theorem sparing_runChecked (phase : Phase) (hsafe : s.Safe) :
    Sparing host p (fun r t => t.Safe ∧ (r = .ok () → t.Installed))
      (Prog.refine (expand p.rounds) (runChecked phase .firewallInstall)) s := by
  unfold runChecked
  rw [Prog.refine_bind, Prog.refine_call]
  have hscript : ∀ {t : Egress}, t.Safe →
      Sparing host p (fun r u => u.Safe ∧ ∀ b, r = .ok b → b = true → u.Installed)
        firewallInstall t :=
    fun ht => (sparing_firewallInstall ht).mono fun r u h =>
      ⟨h.1, fun b hr hb => h.2 (by rw [hr, hb])⟩
  refine Prog.Assuming.bind ((sparing_runScript phase .firewallInstall
    (fun b t => b = true → t.Installed) hsafe trivial hscript).mono fun r t ht => ?_)
  cases r with
  | error e => exact ⟨ht.1, nofun⟩
  | ok completed =>
    dsimp only
    obtain ⟨b, hb, hpost⟩ := ht.2 completed rfl
    split
    next hzero =>
      refine ⟨ht.1, fun _ => hpost ?_⟩
      cases b with
      | true => rfl
      | false => exact absurd (hb.symm.trans hzero) (by decide)
    next => exact ⟨ht.1, nofun⟩

/-- **`apply_runtime`.**  An enabled relay is started behind a checked install of its rules, and a
disabled one is not started. -/
theorem applyRuntime_keepsRules (phase : Phase) (services : List Service) (config : Config) :
    KeepsRules host p (applyRuntime host phase services config) := by
  unfold applyRuntime
  split
  · exact .of_only (Prog.only_pure _)
  cases henabled : config.relayServer.enabled with
  | true =>
    intro s hsafe
    unfold prepareRelay
    rw [if_pos rfl, Prog.refine_bind]
    refine Prog.Assuming.bind ((sparing_runChecked phase hsafe).mono fun r t ht => ?_)
    cases r with
    | error e => exact ht.1
    | ok _ =>
      dsimp only
      split
      · exact ht.1
      · refine ((recreate_only trivial trivial).assuming_refine (A := Act.recreates)
          (I := Egress.Installed)
          (fun _ _ hact hu => sparing_recreates p.rounds hu hact) (ht.2 rfl)).mono ?_
        exact fun _ _ hu _ => hu
  | false =>
    have hselected : (services.filter fun service => service ≠ .relay || false).contains .relay
        = false := by
      rw [List.contains_eq_mem, decide_eq_false_iff_not]
      intro hmem
      have := (List.mem_filter.mp hmem).2
      exact absurd this (by decide)
    refine KeepsRules.bind (.of_only ?_) fun _ => .of_only ?_
    · unfold prepareRelay
      rw [if_neg nofun]
      refine ((Prog.only_call trivial).bind fun _ => Prog.only_pure _).bind fun _ => ?_
      exact (Prog.only_call trivial).bind fun _ => Prog.only_pure _
    · dsimp only
      split
      · exact Prog.only_pure _
      · exact recreate_only hselected trivial

theorem install_keepsRules (phase : Phase) (envelope : Envelope) :
    KeepsRules host p (install phase envelope) := by
  refine KeepsRules.bind (.of_only (Prog.only_call trivial)) fun _ => .of_only ?_
  refine (render_only phase envelope.config).mono fun act hact => ?_
  cases act with
  | run phase command => cases hact
  | _ => trivial

theorem publish_keepsRules (current updated : Envelope) :
    KeepsRules host p (publish host current updated) :=
  (install_keepsRules .forward updated).bind fun _ => applyRuntime_keepsRules .forward _ _

theorem recoverApply_keepsRules (current updated : Envelope) (actor : PyStr) (error : PyError) :
    KeepsRules host p (recoverApply host current updated actor error) := by
  refine (install_keepsRules .recovery current).bind fun _ => ?_
  refine KeepsRules.bind (KeepsRules.tryCatch ?_ fun _ => ?_) fun _ => ?_
  · refine (applyRuntime_keepsRules .recovery _ _).bind fun _ => ?_
    exact .of_only (Prog.only_pure _)
  · exact .of_only (Prog.only_call trivial)
  · exact .of_only (Prog.only_throw _)

theorem recoverRollback_keepsRules (current target : Envelope) (error : PyError) :
    KeepsRules host p (recoverRollback host current target error) := by
  refine (install_keepsRules .recovery current).bind fun _ => ?_
  refine (applyRuntime_keepsRules .recovery _ _).bind fun _ => ?_
  exact .of_only (Prog.only_throw _)

theorem apply_keepsRules (request : Json) (actor : PyStr) :
    KeepsRules host p (Agent.apply host request actor) := by
  refine KeepsRules.bind (.of_only (Prog.only_ofExcept _)) fun requested => ?_
  refine KeepsRules.bind (.of_only (Prog.only_call trivial)) fun recalled => ?_
  cases recalled with
  | some result => exact .of_only (Prog.only_pure _)
  | none =>
    refine KeepsRules.bind (.of_only (Prog.only_call trivial)) fun current => ?_
    refine KeepsRules.bind (.of_only (Prog.only_ofExcept _)) fun _ => ?_
    refine KeepsRules.bind (.of_only (Prog.only_ofExcept _)) fun validated => ?_
    refine KeepsRules.bind (.of_only (Prog.only_call trivial)) fun _ => ?_
    refine KeepsRules.bind (.of_only (Prog.only_call trivial)) fun now => ?_
    refine KeepsRules.bind (KeepsRules.tryCatch (publish_keepsRules _ _) fun error =>
      recoverApply_keepsRules _ _ actor error) fun runtime => .of_only ?_
    refine (Prog.only_call trivial).bind fun _ => ?_
    exact (Prog.only_call trivial).bind fun _ => Prog.only_pure _

theorem rollback_keepsRules (actor : PyStr) : KeepsRules host p (Agent.rollback host actor) := by
  refine KeepsRules.bind (.of_only (Prog.only_call trivial)) fun revisions => ?_
  cases newest revisions with
  | none => exact .of_only (Prog.only_throw _)
  | some revision =>
    refine KeepsRules.bind (.of_only (Prog.only_call trivial)) fun stored => ?_
    refine KeepsRules.bind (.of_only (Prog.only_call trivial)) fun current => ?_
    refine KeepsRules.bind (.of_only (Prog.only_call trivial)) fun now => ?_
    refine KeepsRules.bind (KeepsRules.tryCatch (publish_keepsRules _ _) fun error =>
      recoverRollback_keepsRules _ _ error) fun runtime => .of_only ?_
    refine (Prog.only_call trivial).bind fun _ => ?_
    exact (Prog.only_call trivial).bind fun _ => Prog.only_pure _

/-! ## 7. Runs -/

/-- The states of a call that spares the rules. -/
theorem KeepsRules.states {α : Type} {prog : AgentM α} (h : KeepsRules host p prog)
    (hsafe : s.Safe) (hspares : Prog.Along (egressHandle host p) (Agent.Spares p)
      (Prog.refine (expand p.rounds) prog) { s with commands := 0 }) :
    (∀ t ∈ Prog.states (egressHandle host p) (Prog.refine (expand p.rounds) prog)
      { s with commands := 0 }, t.Safe) ∧
    (Prog.exec (egressHandle host p) (Prog.refine (expand p.rounds) prog)
      { s with commands := 0 }).2.Safe :=
  (h { s with commands := 0 } hsafe).states hspares

/-- One event: every state that it passes, and the one behind it. -/
theorem EgressEvent.points_safe (e : EgressEvent) (hsafe : s.Safe) (hspares : e.Spares host s) :
    (∀ t ∈ e.points host s, t.Safe) ∧ ∀ t, egressStep host s e = some t → t.Safe := by
  cases e with
  | apply request actor p =>
    obtain ⟨hpoints, hend⟩ := (apply_keepsRules request actor).states hsafe hspares
    exact ⟨hpoints, fun t ht => Option.some.inj ht ▸ hend⟩
  | rollback actor p =>
    obtain ⟨hpoints, hend⟩ := (rollback_keepsRules actor).states hsafe hspares
    exact ⟨hpoints, fun t ht => Option.some.inj ht ▸ hend⟩
  | restart =>
    refine ⟨fun t ht => List.mem_singleton.mp ht ▸ hsafe, fun t ht => ?_⟩
    obtain rfl := Option.some.inj ht
    exact hsafe

/-- A host on which `docker compose ps` lists the relay as well. -/
def relayHost : Host :=
  { exampleHost with
    loads := fun _ => some (.arr (["gateway", "relay", "ztnet"].map fun name =>
      object [("Service", .str (py name)), ("State", .str (py "running"))])) }

/-- The relay is enabled, and sessions have some length. -/
def withRelay (seconds : Nat) : Config :=
  { withSessions seconds with relayServer := { defaultConfig.relayServer with enabled := true } }

/-- A call of `apply` that meets no failure. -/
def relayApply (key : String) (revision : Nat) (config : Config) : EgressEvent :=
  .apply (object [("idempotencyKey", .str (py key)), ("expectedRevision", .int revision),
    ("config", config.toJson)]) [] ⟨examplePlan 0, fun _ => .works, 8⟩

/-- A new directory on a host without the chain. -/
def relayInitial : Egress := ⟨initial relayHost [], ⟨none, 0⟩, false, 0⟩

/-- **The relay never runs without its rules**, in any run of calls and restarts in which no flush
of the chain and no removal of its last jump takes effect while the relay may be running. -/
theorem relay_isolated (host : Host) (s : Egress) (hsafe : s.Safe) (events : List EgressEvent)
    (hspares : (egressMachine host).Conforms (fun s e => e.Spares host s) s events) :
    ∀ t ∈ visited host s events, t.Safe := by
  induction events generalizing s with
  | nil => exact fun t ht => List.mem_singleton.mp ht ▸ hsafe
  | cons e events ih =>
    obtain ⟨hpoints, hend⟩ := e.points_safe hsafe hspares.1
    intro t ht
    rcases List.mem_append.mp ht with ht | ht
    · exact hpoints t ht
    · cases hstep : egressStep host s e with
      | none =>
        rw [hstep] at ht
        cases ht
      | some u =>
        rw [hstep] at ht
        exact ih u (hend u hstep) (hspares.2 u hstep) t ht

/-- The relay is turned on. -/
theorem relay_isolated_start : relayInitial.Safe ∧
    ∀ t ∈ visited relayHost relayInitial [relayApply "abcdefghijklmnop" 1 (withRelay 28800)],
      t.Safe :=
  ⟨by decide, relay_isolated relayHost relayInitial (by decide) _ (by decide +kernel)⟩

/-- The relay is turned on, and then the sessions are shortened: `install` empties the chain of
the running relay. -/
theorem relay_runs_bare : ∃ t ∈ visited relayHost relayInitial [
    relayApply "abcdefghijklmnop" 1 (withRelay 28800),
    relayApply "bcdefghijklmnopq" 2 (withRelay 3600)], ¬ t.Safe := by
  decide +kernel

end ZtPlanet.Agent
