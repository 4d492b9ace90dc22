/-
# Which services restart

`changed_services` compares two configurations section by section; the renderers read fields across
the sections.  Each service restarts for a set of sections (`notMem_changedServices`), and what is
rendered for a service is a function of these sections alone, so an output that differs comes with
a restart (`restart_sound`).

A renderer that reads a new section shows up here as a lemma `…_congr` that no longer holds.
-/
import ZtPlanet.Agent.Apply

namespace ZtPlanet.Agent

open ZtPlanet.Python

/-! ## 1. The sections of a service -/

/-- The two configurations agree on the sections that a service restarts for. -/
def AgreeFor (old new : Config) : Service → Prop
  | .gateway => old.management = new.management ∧ old.controller = new.controller
  | .relay => old.relayServer = new.relayServer
  | .zerotier => old.zerotier = new.zerotier ∧ old.relayClient = new.relayClient ∧
      old.controller = new.controller
  | .ztnet => old.management = new.management ∧ old.zerotier = new.zerotier ∧
      old.relayClient = new.relayClient ∧ old.controller = new.controller

/-- A service is left running exactly if its sections are unchanged. -/
theorem notMem_changedServices {old new : Config} {s : Service} :
    s ∉ changedServices old new ↔ AgreeFor old new s := by
  unfold changedServices
  cases s with
  | gateway => simp [AgreeFor]
  | relay => simp [AgreeFor]
  | zerotier => simp [AgreeFor, and_assoc]
  | ztnet => simp [AgreeFor, and_assoc]

/-- The comparison has no direction. -/
theorem changedServices_comm (old new : Config) :
    changedServices old new = changedServices new old := by
  unfold changedServices
  simp only [ne_comm (a := old.management), ne_comm (a := old.zerotier),
    ne_comm (a := old.relayClient), ne_comm (a := old.controller), ne_comm (a := old.relayServer)]

/-! ## 2. What is rendered for a service -/

/-- The variables of the environment file whose names start with a text. -/
def environment (start : String) (config : Config) : List (PyStr × PyStr) :=
  (envLines config).filter fun e => (py start).isPrefixOf e.1

/-- The port mapping of the relay in the compose override. -/
def relayPortLine (config : Config) : PyStr :=
  portLine config.relayServer.bindAddress config.relayServer.port 4443 "/tcp"

/-- It is the last line there. -/
theorem composeLines_relay (config : Config) :
    (composeLines config).getLast? = some (relayPortLine config) := by
  unfold composeLines
  rw [List.getLast?_append]
  rfl

/-- What is rendered for a service differs between the two configurations. -/
def OutputDiffers (old new : Config) : Service → Prop
  | .gateway => renderCaddy old ≠ renderCaddy new
  | .relay => environment "RELAY_" old ≠ environment "RELAY_" new ∨
      relayPortLine old ≠ relayPortLine new
  | .zerotier => localSettings old ≠ localSettings new ∨
      zerotierPortLines old ≠ zerotierPortLines new ∨ environment "ZT_" old ≠ environment "ZT_" new
  | .ztnet => environment "NEXTAUTH_" old ≠ environment "NEXTAUTH_" new ∨
      environment "ZTPLANET_" old ≠ environment "ZTPLANET_" new

section

variable {old new : Config}

/-- The Caddyfile is made from the listeners, the ZeroTier address and the exposure. -/
theorem renderCaddy_congr (hmanagement : old.management = new.management)
    (hcontroller : old.controller = new.controller) : renderCaddy old = renderCaddy new := by
  unfold renderCaddy
  rw [hmanagement, hcontroller]

theorem localSettings_congr (hzerotier : old.zerotier = new.zerotier)
    (hclient : old.relayClient = new.relayClient) : localSettings old = localSettings new := by
  unfold localSettings
  rw [hzerotier, hclient]

theorem zerotierPortLines_congr (hzerotier : old.zerotier = new.zerotier)
    (hcontroller : old.controller = new.controller) :
    zerotierPortLines old = zerotierPortLines new := by
  unfold zerotierPortLines
  rw [hzerotier, hcontroller]

/-- The variables of each service. -/
theorem environment_eq (config : Config) :
    environment "ZT_" config =
      [(py "ZT_BIND_ADDRESS", config.zerotier.bindAddress),
        (py "ZT_PUBLIC_PORT", decimal config.zerotier.publicPort)] ∧
    environment "NEXTAUTH_" config =
      [(py "NEXTAUTH_SESSION_MAX_AGE", decimal config.management.sessionMaxAgeSeconds),
        (py "NEXTAUTH_URL", config.management.publicUrl)] ∧
    environment "ZTPLANET_" config =
      [(py "ZTPLANET_LOGIN_ATTEMPTS", decimal config.management.loginAttempts),
        (py "ZTPLANET_LOGIN_LOCKOUT_SECONDS", decimal config.management.loginLockoutSeconds)] ∧
    environment "RELAY_" config =
      [(py "RELAY_ALLOWED_CIDRS", join (py ",") config.relayServer.allowedSourceCidrs),
        (py "RELAY_BIND_ADDRESS", config.relayServer.bindAddress),
        (py "RELAY_BYTES_PER_SECOND", decimal config.relayServer.bytesPerSecond),
        (py "RELAY_GLOBAL_BYTES_PER_SECOND", decimal config.relayServer.globalBytesPerSecond),
        (py "RELAY_GLOBAL_PACKETS_PER_SECOND", decimal config.relayServer.globalPacketsPerSecond),
        (py "RELAY_HANDSHAKE_TIMEOUT_SECONDS", decimal config.relayServer.handshakeTimeoutSeconds),
        (py "RELAY_IDLE_TIMEOUT_SECONDS", decimal config.relayServer.idleTimeoutSeconds),
        (py "RELAY_MAX_CONNECTIONS", decimal config.relayServer.maxConnections),
        (py "RELAY_MAX_CONNECTIONS_PER_IP", decimal config.relayServer.maxConnectionsPerIp),
        (py "RELAY_MAX_DESTINATIONS", decimal config.relayServer.maxDestinations),
        (py "RELAY_MIN_DESTINATION_PORT", decimal config.relayServer.minDestinationPort),
        (py "RELAY_PACKETS_PER_SECOND", decimal config.relayServer.packetsPerSecond),
        (py "RELAY_PORT", decimal config.relayServer.port)] :=
  ⟨rfl, rfl, rfl, rfl⟩

/-- What is rendered for a service is made from its sections. -/
theorem not_outputDiffers {s : Service} (h : AgreeFor old new s) : ¬OutputDiffers old new s := by
  obtain ⟨hzt, hnextauth, hztplanet, hrelay⟩ := environment_eq old
  obtain ⟨hzt', hnextauth', hztplanet', hrelay'⟩ := environment_eq new
  cases s with
  | gateway => exact not_not.mpr (renderCaddy_congr h.1 h.2)
  | relay =>
    have h : old.relayServer = new.relayServer := h
    rintro (hdiffers | hdiffers)
    · rw [hrelay, hrelay', h] at hdiffers
      exact hdiffers rfl
    · unfold relayPortLine at hdiffers
      rw [h] at hdiffers
      exact hdiffers rfl
  | zerotier =>
    obtain ⟨hzerotier, hclient, hcontroller⟩ := h
    rintro (hdiffers | hdiffers | hdiffers)
    · exact hdiffers (localSettings_congr hzerotier hclient)
    · exact hdiffers (zerotierPortLines_congr hzerotier hcontroller)
    · rw [hzt, hzt', hzerotier] at hdiffers
      exact hdiffers rfl
  | ztnet =>
    rintro (hdiffers | hdiffers)
    · rw [hnextauth, hnextauth', h.1] at hdiffers
      exact hdiffers rfl
    · rw [hztplanet, hztplanet', h.1] at hdiffers
      exact hdiffers rfl

end

/-- **A service whose rendered output differs is restarted, and the way back restarts the same
services.** -/
theorem restart_sound (old new : Config) :
    (∀ s, OutputDiffers old new s → s ∈ changedServices old new) ∧
      changedServices old new = changedServices new old := by
  refine ⟨fun s hdiffers => ?_, changedServices_comm old new⟩
  by_contra hnot
  exact not_outputDiffers (notMem_changedServices.mp hnot) hdiffers

end ZtPlanet.Agent
