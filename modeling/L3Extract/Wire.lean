import L3Extract.Basic

/-!
# `parse_packet`

`parse_packet` of `src/tcp_stack/mod.rs` looks for the packets that open a connection: TCP segments
with SYN and without ACK, and UDP datagrams. It reads the packet through the accessors of
`smoltcp::wire`, which are here with the checks of their `new_checked` and with the offsets of the
IPv4, IPv6, TCP, and UDP headers. Every access to a byte goes through `byte` or `range`, which
panic outside the buffer as Rust's indexing does.
-/

namespace L3Extract

namespace Wire

/-- `buf[i]`. -/
def byte (buf : Bytes) (i : ℕ) : Except Panic UInt8 :=
  match buf[i]? with
  | some b => .ok b
  | none => .error .index_out_of_bounds

/-- `buf[lo..hi]`. -/
def range (buf : Bytes) (lo hi : ℕ) : Except Panic Bytes :=
  if lo ≤ hi ∧ hi ≤ buf.length then .ok ((buf.take hi).drop lo) else .error .index_out_of_bounds

/-- The number that bytes in network order stand for. -/
def big_endian (bytes : Bytes) : ℕ := bytes.foldl (fun n b => 256 * n + b.toNat) 0

/-- `NetworkEndian::read_u16(&buf[i..i + 2])`. -/
def read_u16 (buf : Bytes) (i : ℕ) : Except Panic ℕ := do
  return big_endian (← range buf i (i + 2))

/-- `IpVersion::of_packet`: the high half of the first byte, which is read unconditionally. -/
def of_packet (buf : Bytes) : Except Panic (Option ℕ) := do
  let version := (← byte buf 0).toNat / 16
  return if version = 4 ∨ version = 6 then some version else none

/-- The protocols that `parse_packet` tells apart, `IpProtocol`. -/
inductive IpProtocol
  | tcp
  | udp
  | other (number : UInt8)
  deriving DecidableEq

/-- `From<u8> for IpProtocol`. -/
def IpProtocol.from (number : UInt8) : IpProtocol :=
  if number = 6 then .tcp else if number = 17 then .udp else .other number

/-! ## `Ipv4Packet` -/

/-- `Ipv4Packet::header_len`. -/
def ipv4_header_len (buf : Bytes) : Except Panic ℕ := do
  return (← byte buf 0).toNat % 16 * 4

/-- `Ipv4Packet::total_len`. -/
def ipv4_total_len (buf : Bytes) : Except Panic ℕ := read_u16 buf 2

/-- `Ipv4Packet::new_checked` succeeds. -/
def ipv4_check_len (buf : Bytes) : Except Panic Bool := do
  if buf.length < 20 then return false
  let header_len ← ipv4_header_len buf
  if buf.length < header_len then return false
  let total_len ← ipv4_total_len buf
  if total_len < header_len then return false
  return total_len ≤ buf.length

/-- `Ipv4Packet::payload`. -/
def ipv4_payload (buf : Bytes) : Except Panic Bytes := do
  range buf (← ipv4_header_len buf) (← ipv4_total_len buf)

/-- `Ipv4Packet::src_addr` and `Ipv4Packet::dst_addr`, by their offset. -/
def ipv4_addr (buf : Bytes) (i : ℕ) : Except Panic IpAddr := do
  return .v4 (BitVec.ofNat 32 (big_endian (← range buf i (i + 4))))

/-! ## `Ipv6Packet` -/

/-- `Ipv6Packet::total_len`. -/
def ipv6_total_len (buf : Bytes) : Except Panic ℕ := do
  return 40 + (← read_u16 buf 4)

/-- `Ipv6Packet::new_checked` succeeds. -/
def ipv6_check_len (buf : Bytes) : Except Panic Bool := do
  if buf.length < 40 then return false
  return (← ipv6_total_len buf) ≤ buf.length

/-- `Ipv6Packet::payload`. -/
def ipv6_payload (buf : Bytes) : Except Panic Bytes := do
  range buf 40 (← ipv6_total_len buf)

/-- `Ipv6Packet::src_addr` and `Ipv6Packet::dst_addr`, by their offset. -/
def ipv6_addr (buf : Bytes) (i : ℕ) : Except Panic IpAddr := do
  return .v6 (BitVec.ofNat 128 (big_endian (← range buf i (i + 16))))

/-! ## `TcpPacket` and `UdpPacket` -/

/-- `TcpPacket::header_len`. -/
def tcp_header_len (buf : Bytes) : Except Panic ℕ := do
  return (← read_u16 buf 12) >>> 12 * 4

/-- `TcpPacket::new_checked` succeeds. -/
def tcp_check_len (buf : Bytes) : Except Panic Bool := do
  if buf.length < 20 then return false
  let header_len ← tcp_header_len buf
  return header_len ≤ buf.length ∧ 20 ≤ header_len

/-- A flag of the TCP header, by its bit: FIN is bit 0, SYN 1, RST 2, PSH 3, and ACK 4. -/
def tcp_flag (bit : ℕ) (buf : Bytes) : Except Panic Bool := do
  return (← read_u16 buf 12).testBit bit

/-- `UdpPacket::new_checked` succeeds. -/
def udp_check_len (buf : Bytes) : Except Panic Bool := do
  if buf.length < 8 then return false
  let field_len ← read_u16 buf 4
  return field_len ≤ buf.length ∧ 8 ≤ field_len

/-- `src_port` of `TcpPacket` and `UdpPacket`. -/
def src_port (buf : Bytes) : Except Panic UInt16 := do
  return UInt16.ofNat (← read_u16 buf 0)

/-- `dst_port` of `TcpPacket` and `UdpPacket`. -/
def dst_port (buf : Bytes) : Except Panic UInt16 := do
  return UInt16.ofNat (← read_u16 buf 2)

end Wire

open Wire

/-- What `parse_packet` recognizes. -/
inductive PacketType
  | tcp (src dst : SocketAddr)
  | udp (src dst : SocketAddr)
  deriving DecidableEq, Repr

/-- The part of `parse_packet` below the IP header. The source has it once for each IP version,
with the addresses of that version. -/
def parse_payload (next_header : IpProtocol) (payload : Bytes) (src_addr dst_addr : IpAddr) :
    Except Panic (Option PacketType) := do
  match next_header with
  | .tcp =>
    if !(← tcp_check_len payload) then return none
    if (← tcp_flag 1 payload) && !(← tcp_flag 4 payload) then
      let src := SocketAddr.new src_addr (← src_port payload)
      let dst := SocketAddr.new dst_addr (← dst_port payload)
      return some (.tcp src dst)
    else
      return none
  | .udp =>
    if !(← udp_check_len payload) then return none
    let src := SocketAddr.new src_addr (← src_port payload)
    let dst := SocketAddr.new dst_addr (← dst_port payload)
    return some (.udp src dst)
  | .other _ => return none

/-- `parse_packet`. -/
def parse_packet (buf : Bytes) : Except Panic (Option PacketType) := do
  match ← of_packet buf with
  | some 4 =>
    if !(← ipv4_check_len buf) then return none
    parse_payload (.from (← byte buf 9)) (← ipv4_payload buf) (← ipv4_addr buf 12)
      (← ipv4_addr buf 16)
  | some _ =>
    if !(← ipv6_check_len buf) then return none
    parse_payload (.from (← byte buf 6)) (← ipv6_payload buf) (← ipv6_addr buf 8)
      (← ipv6_addr buf 24)
  | none => return none

end L3Extract
