import Mathlib.Data.Nat.Notation

/-!
# Bytes, addresses, and panics

The data that every part of the stack uses: byte strings, the socket addresses of `std::net`, the
endpoints of `smoltcp::wire`, and the ways in which the Rust code can panic. A computation that
can panic returns in `Except Panic`.
-/

namespace L3Extract

/-- A byte string. -/
abbrev Bytes := List UInt8

/-- A layer-3 packet as the caller hands it to `drive_once`. -/
abbrev Packet := Bytes

/-- `MTU`: the size of the largest packet that the device sends, unless the builder sets another. -/
def MTU : ℕ := 1500

/-- Why a Rust function panics. -/
inductive Panic
  /-- An index or a range outside a slice. -/
  | index_out_of_bounds
  /-- `SocketSet::get_mut` or `SocketSet::remove` on a slot without a socket. -/
  | empty_slot
  /-- `SocketSet::get_mut` on a socket of the other protocol. -/
  | wrong_kind
  /-- "tcp socket {handle} doesn't have local addr" -/
  | no_local_addr
  /-- "tcp socket {handle} doesn't have remote addr" -/
  | no_remote_addr
  /-- "udp should always bind an addr" -/
  | udp_not_bound
  /-- `unreachable!()` -/
  | unreachable
  /-- A panic inside smoltcp, such as "IP version mismatch". -/
  | smoltcp
  deriving DecidableEq, Repr

/-- A composed computation returns when its first part returns and the rest does from there. -/
theorem except_bind_eq_ok {ε α β : Type} {x : Except ε α} {f : α → Except ε β} {b : β} :
    (x >>= f) = .ok b ↔ ∃ a, x = .ok a ∧ f a = .ok b := by
  cases x with
  | error err => simp [bind, Except.bind]
  | ok a => simp [bind, Except.bind]

/-- A composed computation returns when its first part returns and the rest does on what that
gives. -/
theorem exists_bind_ok {ε α β : Type} {x : Except ε α} {f : α → Except ε β}
    (first : ∃ a, x = .ok a) (rest : ∀ a, x = .ok a → ∃ b, f a = .ok b) :
    ∃ b, (x >>= f) = .ok b := by
  obtain ⟨a, ha⟩ := first
  obtain ⟨b, hb⟩ := rest a ha
  exact ⟨b, except_bind_eq_ok.mpr ⟨a, ha, hb⟩⟩

/-- A computation returns a value that passes a test, when evaluation says so. -/
theorem exists_of_toOption_any {ε α : Type} {x : Except ε α} {test : α → Bool}
    (h : x.toOption.any test = true) : ∃ a, x = .ok a ∧ test a = true := by
  cases x with
  | error err => cases h
  | ok a => exact ⟨a, rfl, h⟩

/-- `std::net::IpAddr`, which is also `smoltcp::wire::IpAddress`. -/
inductive IpAddr
  | v4 (octets : BitVec 32)
  | v6 (octets : BitVec 128)
  deriving DecidableEq, Repr

/-- `std::net::SocketAddr`. -/
inductive SocketAddr
  | v4 (ip : BitVec 32) (port : UInt16)
  | v6 (ip : BitVec 128) (port : UInt16) (flowinfo scope_id : UInt32)
  deriving DecidableEq, Repr

/-- `SocketAddr::new`: flow information and scope of an IPv6 address are zero. -/
def SocketAddr.new (ip : IpAddr) (port : UInt16) : SocketAddr :=
  match ip with
  | .v4 octets => .v4 octets port
  | .v6 octets => .v6 octets port 0 0

/-- `SocketAddr::ip`. -/
def SocketAddr.ip : SocketAddr → IpAddr
  | .v4 ip _ => .v4 ip
  | .v6 ip _ _ _ => .v6 ip

/-- `SocketAddr::port`. -/
def SocketAddr.port : SocketAddr → UInt16
  | .v4 _ port => port
  | .v6 _ port _ _ => port

/-- `smoltcp::wire::IpEndpoint`. -/
structure IpEndpoint where
  addr : IpAddr
  port : UInt16
  deriving DecidableEq, Repr

/-- `smoltcp::wire::IpListenEndpoint`: the address may be left open. -/
structure IpListenEndpoint where
  addr : Option IpAddr
  port : UInt16
  deriving DecidableEq, Repr

/-- `From<SocketAddr> for IpEndpoint`: flow information and scope are dropped. -/
def IpEndpoint.from (addr : SocketAddr) : IpEndpoint := ⟨addr.ip, addr.port⟩

/-- `From<SocketAddr> for IpListenEndpoint`. -/
def IpListenEndpoint.from (addr : SocketAddr) : IpListenEndpoint := ⟨some addr.ip, addr.port⟩

/-- The endpoint as one to listen on. -/
def IpEndpoint.listen (endpoint : IpEndpoint) : IpListenEndpoint :=
  ⟨some endpoint.addr, endpoint.port⟩

/-- `SocketAddr::new(endpoint.addr.into(), endpoint.port)`. -/
def IpEndpoint.socket_addr (endpoint : IpEndpoint) : SocketAddr :=
  .new endpoint.addr endpoint.port

end L3Extract
