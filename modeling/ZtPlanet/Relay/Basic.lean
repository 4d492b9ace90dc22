/-
# The relay: addresses, limits and the fixed-window rate limiter

The data of `services/relay/src/main.rs` that the connection threads and the accept loop share:
socket addresses, the limits of `Config`, the `u64` operations the code spells out as
`saturating_*`, and `RateWindow`.

Unsigned machine words are natural numbers here; `u64` sums that saturate in the source saturate
in `satAdd` and `satMul`, and the two plain `+=` of `RateWindow::allow` wrap, as they do in the
release profile.  Instants are nanoseconds since an arbitrary origin.
-/
import Mathlib.Algebra.GroupWithZero.Nat
import Mathlib.Tactic.Common

namespace ZtPlanet.Relay

/-! ## 1. Machine words -/

/-- `u64::MAX`. -/
def u64Max : Nat := 2 ^ 64 - 1

/-- `a.saturating_add(b)` on `u64`. -/
def satAdd (a b : Nat) : Nat := min (a + b) u64Max

/-- `a.saturating_mul(b)` on `u64`. -/
def satMul (a b : Nat) : Nat := min (a * b) u64Max

/-- `a += b` on `u64` without overflow checks. -/
def wrapAdd (a b : Nat) : Nat := (a + b) % 2 ^ 64

/-! ## 2. Addresses -/

/-- `std::net::IpAddr`, the address as the integer it denotes. -/
inductive IpAddr where
  | v4 (address : UInt32)
  | v6 (address : BitVec 128)
deriving DecidableEq

/-- `std::net::SocketAddr`. -/
structure SocketAddr where
  ip : IpAddr
  port : UInt16
deriving DecidableEq

/-! ## 3. Limits -/

/-- The limits of the relay's `Config`.  The two listening addresses and the source list belong
to the accept loop's policy and are not read by anything below. -/
structure Config where
  maxConnections : Nat
  maxConnectionsPerIp : Nat
  packetsPerSecond : Nat
  bytesPerSecond : Nat
  globalPacketsPerSecond : Nat
  globalBytesPerSecond : Nat
  maxDestinations : Nat
  minDestinationPort : UInt16
  maxFrameLen : Nat
deriving DecidableEq

/-- The defaults of `Config::from_env`. -/
def Config.default : Config where
  maxConnections := 128
  maxConnectionsPerIp := 4
  packetsPerSecond := 200
  bytesPerSecond := 2097152
  globalPacketsPerSecond := 2000
  globalBytesPerSecond := 20971520
  maxDestinations := 64
  minDestinationPort := 1025
  maxFrameLen := 4096

/-! ## 4. The rate window -/

/-- `RateWindow`: the packets and bytes accepted since `started`. -/
structure RateWindow where
  started : Nat
  packets : Nat
  bytes : Nat
deriving DecidableEq

/-- `RateWindow::default()` at the instant `now`. -/
def RateWindow.default (now : Nat) : RateWindow := ⟨now, 0, 0⟩

/-- `Duration::from_secs(1)`. -/
def second : Nat := 1000000000

/-- The two clock readings of one `allow` call: `started.elapsed()` and, when the window is
reset, `Instant::now()`. -/
structure Readings where
  elapsedAt : Nat
  resetAt : Nat
deriving DecidableEq

/-- The window after the reset test. -/
def RateWindow.refresh (w : RateWindow) (t : Readings) : RateWindow :=
  if t.elapsedAt - w.started ≥ second then ⟨t.resetAt, 0, 0⟩ else w

/-- `RateWindow::allow`. -/
def RateWindow.allow (w : RateWindow) (t : Readings) (bytes packetLimit byteLimit : Nat) :
    Bool × RateWindow :=
  let w := w.refresh t
  if satAdd w.packets 1 > packetLimit ∨ satAdd w.bytes bytes > byteLimit then (false, w)
  else (true, ⟨w.started, wrapAdd w.packets 1, wrapAdd w.bytes bytes⟩)

end ZtPlanet.Relay
