import L3Extract.Smoltcp.Reference

/-!
# Packets with a hop-by-hop header

Between the header of an IPv6 packet and what it carries there may be a hop-by-hop options header,
which smoltcp reads. `reading` is an interface that looks at every packet through a function, and
`hop_by_hop_reference` is the reference instance that looks at packets through `skip_hop_by_hop`.
-/

namespace L3Extract

/-- The interface sees `f p` for the packet `p`. -/
abbrev Smoltcp.reading (S : Smoltcp) (f : Packet → Packet) : Smoltcp where
  Tcp := S.Tcp
  Udp := S.Udp
  Interface := S.Interface
  tcp := S.tcp
  udp := S.udp
  max_transmission_unit := S.max_transmission_unit
  poll interface now packets sockets := S.poll interface now (packets.map f) sockets
  poll_panics interface now packets sockets := S.poll_panics interface now (packets.map f) sockets
  poll_delay := S.poll_delay
  deliver interface packet := S.deliver interface (f packet)

/-- It behaves as specified when the interface does that sees the packets themselves. -/
theorem Smoltcp.Spec.reading {S : Smoltcp} (spec : S.Spec) (f : Packet → Packet) :
    (S.reading f).Spec where
  __ := spec
  poll_buffer interface now packets := spec.poll_buffer interface now (packets.map f)
  poll_closed interface now packets := spec.poll_closed interface now (packets.map f)
  poll_idle interface now packet := by
    cases packet with
    | none => exact spec.poll_idle interface now none
    | some p => exact spec.poll_idle interface now (some (f p))
  poll_received interface now packet := by
    cases packet with
    | none => exact spec.poll_received interface now none
    | some p => exact spec.poll_received interface now (some (f p))
  poll_syn_sent interface now packets := spec.poll_syn_sent interface now (packets.map f)
  udp_poll_endpoint interface now packets := spec.udp_poll_endpoint interface now (packets.map f)
  udp_poll_buffer interface now packets := spec.udp_poll_buffer interface now (packets.map f)

namespace Reference

/-- The packet without its hop-by-hop header, if it has one: its payload is that much shorter, and
its next header is that of the hop-by-hop header. -/
def skip_hop_by_hop (buf : Packet) : Packet :=
  let header := 8 * ((buf.getD 41 0).toNat + 1)
  let payload := Wire.big_endian [buf.getD 4 0, buf.getD 5 0] - header
  if buf.getD 0 0 / 16 = 6 ∧ buf.getD 6 1 = 0 ∧ 40 + header ≤ buf.length then
    buf.take 4 ++ [UInt8.ofNat (payload / 256), UInt8.ofNat payload, buf.getD 40 0] ++
      (buf.take 40).drop 7 ++ buf.drop (40 + header)
  else buf

/-- An IPv6 packet from the host `fd00::client` to the host `fd00::1:1`. -/
def ipv6_packet (next_header client : UInt8) (payload : Bytes) : Packet :=
  [0x60, 0, 0, 0, 0, UInt8.ofNat payload.length, next_header, 64] ++
    [0xfd, 0, 0, 0, 0, 0, 0, 0, 0, 0, 0, 0, 0, 0, 0, client] ++
    [0xfd, 0, 0, 0, 0, 0, 0, 0, 0, 0, 0, 0, 0, 1, 0, 1] ++ payload

/-- A TCP segment from port 9 to the given port, with the given flags and without options or
payload. -/
def tcp_segment (port flags : UInt8) : Bytes :=
  [0, 9, 0, port, 0, 0, 0, 0, 0, 0, 0, 0, 0x50, flags, 0xff, 0xff, 0, 0, 0, 0]

/-- A SYN over IPv6. -/
def syn_v6 (client port : UInt8) : Packet := ipv6_packet 6 client (tcp_segment port 0x02)

/-- An acknowledgment over IPv6. -/
def ack_v6 (client port : UInt8) : Packet := ipv6_packet 6 client (tcp_segment port 0x10)

/-- A RST over IPv6. -/
def rst_v6 (client port : UInt8) : Packet := ipv6_packet 6 client (tcp_segment port 0x04)

/-- A SYN over IPv6 behind a hop-by-hop header with four bytes of padding. -/
def syn_hop_by_hop (client port : UInt8) : Packet :=
  ipv6_packet 0 client ([6, 0, 1, 4, 0, 0, 0, 0] ++ tcp_segment port 0x02)

/-- Port 9 of the host `fd00::client`. -/
def client_addr_v6 (client : ℕ) : SocketAddr :=
  .v6 (BitVec.ofNat 128 (0xfd000000000000000000000000000000 + client)) 9 0 0

/-- A port of the host `fd00::1:1`. -/
def server_addr_v6 (port : UInt16) : SocketAddr := .v6 0xfd000000000000000000000000010001 port 0 0

end Reference

/-- The reference instance, which reads hop-by-hop headers. -/
abbrev hop_by_hop_reference : Smoltcp := reference.reading Reference.skip_hop_by_hop

open Reference in
example : skip_hop_by_hop (syn_hop_by_hop 2 3) = syn_v6 2 3 := by decide +kernel

end L3Extract
