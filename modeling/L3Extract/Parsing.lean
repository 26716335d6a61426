import L3Extract.Wire
import Mathlib.Data.List.Basic
import Mathlib.Data.Nat.Bitwise

/-!
# What `parse_packet` finds

`parse_packet` checks the lengths of a packet with the `new_checked` of its headers before it reads
their fields. Each check returns for every buffer, and what it accepts is long enough for the
accesses after it. So `parse_packet` panics on no buffer that has a byte, and on the one without it
does (`parse_packet_returns`).

`Opening` says by the layouts of RFC 791, RFC 8200, RFC 9293, and RFC 768 which buffers are packets
that open a connection. `parse_packet` returns what `Reads` says, which disregards two fields of the
IPv4 header: the packet may be a later fragment, and its header length may be too small. In both
cases other bytes are taken for a transport header. `recognizes_openings` says that this is all the
difference there is.
-/

namespace L3Extract

namespace Wire

/-! ## Fields -/

/-- The number in the `n` bytes from offset `i` on, in network order. -/
def number (buf : Bytes) (i n : ℕ) : ℕ := big_endian ((buf.drop i).take n)

/-- Reading a byte inside the buffer returns it. -/
theorem byte_eq {buf : Bytes} {i : ℕ} (h : i < buf.length) : byte buf i = .ok buf[i] := by
  rw [byte, List.getElem?_eq_getElem h]

/-- Reading a range inside the buffer returns it. -/
theorem range_eq {buf : Bytes} {i n : ℕ} (h : i + n ≤ buf.length) :
    range buf i (i + n) = .ok ((buf.drop i).take n) := by
  rw [range, if_pos ⟨Nat.le_add_right i n, h⟩, List.drop_take, Nat.add_sub_cancel_left]

/-- Two bytes in the buffer are read as their number. -/
theorem read_u16_eq {buf : Bytes} {i : ℕ} (h : i + 2 ≤ buf.length) :
    read_u16 buf i = .ok (number buf i 2) := by
  rw [read_u16, range_eq h]
  rfl

/-- A field of one byte. -/
theorem number_one {buf : Bytes} {i : ℕ} (h : i < buf.length) : number buf i 1 = buf[i].toNat := by
  rw [number, List.drop_eq_getElem_cons h]
  simp only [big_endian, List.take_succ_cons, List.take_zero, List.foldl_cons, List.foldl_nil]
  omega

/-- One byte is less than 256. -/
theorem number_one_lt (buf : Bytes) (i : ℕ) : number buf i 1 < 256 := by
  by_cases h : i < buf.length
  · rw [number_one h]
    exact buf[i].toNat_lt
  · rw [number, List.drop_eq_nil_of_le (Nat.le_of_not_lt h)]
    decide

/-- A field of two bytes. -/
theorem number_two {buf : Bytes} {i : ℕ} (h : i + 2 ≤ buf.length) :
    number buf i 2 = 256 * number buf i 1 + number buf (i + 1) 1 := by
  rw [number_one (show i < buf.length by omega), number_one (show i + 1 < buf.length by omega),
    number, List.drop_eq_getElem_cons (by omega), List.drop_eq_getElem_cons (by omega)]
  simp only [big_endian, List.take_succ_cons, List.take_zero, List.foldl_cons, List.foldl_nil]
  omega

/-! ## Headers -/

/-- The version is in the upper half of the first byte. -/
theorem of_packet_eq {buf : Bytes} (h : buf ≠ []) :
    of_packet buf = .ok (if number buf 0 1 / 16 = 4 ∨ number buf 0 1 / 16 = 6
      then some (number buf 0 1 / 16) else none) := by
  have hlen : 0 < buf.length := List.length_pos_iff.mpr h
  rw [of_packet, byte_eq hlen, number_one hlen]
  rfl

/-- The length of the header of an IPv4 packet, in bytes. -/
def ipv4_header (buf : Bytes) : ℕ := number buf 0 1 % 16 * 4

/-- `Ipv4Packet::new_checked` accepts the packets that have the fixed part of a header, and whose
header is no longer than the packet, which is in the buffer. -/
theorem ipv4_check_len_eq (buf : Bytes) : ipv4_check_len buf =
    .ok (decide (20 ≤ buf.length ∧ ipv4_header buf ≤ number buf 2 2 ∧
      number buf 2 2 ≤ buf.length)) := by
  unfold ipv4_check_len
  by_cases short : buf.length < 20
  · rw [if_pos short, decide_eq_false (by omega)]
    rfl
  have header : ipv4_header_len buf = .ok (ipv4_header buf) := by
    rw [ipv4_header_len, byte_eq (show 0 < buf.length by omega), ipv4_header,
      number_one (show 0 < buf.length by omega)]
    rfl
  have total : ipv4_total_len buf = .ok (number buf 2 2) := read_u16_eq (by omega)
  rw [header, total]
  simp only [short, if_false, bind, Except.bind, pure, Except.pure]
  split_ifs with long cut
  · rw [decide_eq_false (by omega)]
  · rw [decide_eq_false (by omega)]
  · congr 2
    exact propext ⟨fun fits => ⟨by omega, by omega, fits⟩, fun fits => fits.2.2⟩

/-- The payload of a packet that `Ipv4Packet::new_checked` accepts. -/
theorem ipv4_payload_eq {buf : Bytes} (long : 20 ≤ buf.length)
    (header : ipv4_header buf ≤ number buf 2 2) (total : number buf 2 2 ≤ buf.length) :
    ipv4_payload buf = .ok ((buf.take (number buf 2 2)).drop (ipv4_header buf)) := by
  have hlen : ipv4_header_len buf = .ok (ipv4_header buf) := by
    rw [ipv4_header_len, byte_eq (show 0 < buf.length by omega), ipv4_header,
      number_one (show 0 < buf.length by omega)]
    rfl
  have htotal : ipv4_total_len buf = .ok (number buf 2 2) := read_u16_eq (by omega)
  rw [ipv4_payload, hlen, htotal]
  exact if_pos ⟨header, total⟩

/-- Four bytes in the buffer are read as an IPv4 address. -/
theorem ipv4_addr_eq {buf : Bytes} {i : ℕ} (h : i + 4 ≤ buf.length) :
    ipv4_addr buf i = .ok (.v4 (BitVec.ofNat 32 (number buf i 4))) := by
  rw [ipv4_addr, range_eq h]
  rfl

/-- `Ipv6Packet::new_checked` accepts the packets that have a header and their payload. -/
theorem ipv6_check_len_eq (buf : Bytes) : ipv6_check_len buf =
    .ok (decide (40 ≤ buf.length ∧ 40 + number buf 4 2 ≤ buf.length)) := by
  unfold ipv6_check_len
  by_cases short : buf.length < 40
  · rw [if_pos short, decide_eq_false (by omega)]
    rfl
  · rw [if_neg short, ipv6_total_len, read_u16_eq (by omega)]
    simp only [bind, Except.bind, pure, Except.pure]
    congr 2
    exact propext ⟨fun fits => ⟨by omega, fits⟩, fun fits => fits.2⟩

/-- The payload of a packet that `Ipv6Packet::new_checked` accepts. -/
theorem ipv6_payload_eq {buf : Bytes} (total : 40 + number buf 4 2 ≤ buf.length) :
    ipv6_payload buf = .ok ((buf.drop 40).take (number buf 4 2)) := by
  rw [ipv6_payload, ipv6_total_len, read_u16_eq (by omega)]
  exact range_eq total

/-- Sixteen bytes in the buffer are read as an IPv6 address. -/
theorem ipv6_addr_eq {buf : Bytes} {i : ℕ} (h : i + 16 ≤ buf.length) :
    ipv6_addr buf i = .ok (.v6 (BitVec.ofNat 128 (number buf i 16))) := by
  rw [ipv6_addr, range_eq h]
  rfl

/-- The data offset of a TCP header, in bytes. -/
def tcp_header (buf : Bytes) : ℕ := number buf 12 1 / 16 * 4

/-- `TcpPacket::new_checked` accepts the payloads that have a whole header. -/
theorem tcp_check_len_eq (buf : Bytes) : tcp_check_len buf =
    .ok (decide (20 ≤ buf.length ∧ 20 ≤ tcp_header buf ∧ tcp_header buf ≤ buf.length)) := by
  unfold tcp_check_len
  by_cases short : buf.length < 20
  · rw [if_pos short, decide_eq_false (by omega)]
    rfl
  · have header : tcp_header_len buf = .ok (tcp_header buf) := by
      rw [tcp_header_len, read_u16_eq (by omega), number_two (by omega)]
      have := number_one_lt buf (12 + 1)
      refine congrArg Except.ok ?_
      rw [tcp_header, Nat.shiftRight_eq_div_pow]
      omega
    rw [if_neg short, header]
    simp only [bind, Except.bind, pure, Except.pure]
    congr 2
    exact propext ⟨fun fits => ⟨by omega, fits.2, fits.1⟩, fun fits => ⟨fits.2.2, fits.2.1⟩⟩

/-- The flags of a TCP header are in its byte 13. -/
theorem tcp_flag_eq {buf : Bytes} (bit : ℕ) (h : 14 ≤ buf.length) (hb : bit < 8) :
    tcp_flag bit buf = .ok ((number buf 13 1).testBit bit) := by
  rw [tcp_flag, read_u16_eq (by omega), number_two (by omega)]
  have flags := Nat.testBit_two_pow_mul_add (i := 8) (number buf 12 1) (number_one_lt buf 13) bit
  rw [if_pos hb] at flags
  exact congrArg Except.ok flags

/-- `UdpPacket::new_checked` accepts the payloads that have a whole datagram. -/
theorem udp_check_len_eq (buf : Bytes) : udp_check_len buf =
    .ok (decide (8 ≤ buf.length ∧ 8 ≤ number buf 4 2 ∧ number buf 4 2 ≤ buf.length)) := by
  unfold udp_check_len
  by_cases short : buf.length < 8
  · rw [if_pos short, decide_eq_false (by omega)]
    rfl
  · rw [if_neg short, read_u16_eq (by omega)]
    simp only [bind, Except.bind, pure, Except.pure]
    congr 2
    exact propext ⟨fun fits => ⟨by omega, fits.2, fits.1⟩, fun fits => ⟨fits.2.2, fits.2.1⟩⟩

/-- The port at an offset of a TCP or UDP header. -/
def port (payload : Bytes) (i : ℕ) : UInt16 := UInt16.ofNat (number payload i 2)

/-- The source port is in the first two bytes. -/
theorem src_port_eq {buf : Bytes} (h : 2 ≤ buf.length) : src_port buf = .ok (port buf 0) := by
  rw [src_port, read_u16_eq h]
  rfl

/-- The destination port is in the two bytes after the source port. -/
theorem dst_port_eq {buf : Bytes} (h : 4 ≤ buf.length) : dst_port buf = .ok (port buf 2) := by
  rw [dst_port, read_u16_eq h]
  rfl

end Wire

open Wire

/-! ## Packets that open a connection -/

/-- The bytes `payload` are a transport header of the given protocol number that opens a connection:
a whole TCP header with SYN and without ACK, or a whole UDP datagram. -/
inductive Announces (payload : Bytes) (src dst : IpAddr) : ℕ → PacketType → Prop
  | tcp (long : 20 ≤ payload.length) (least : 20 ≤ tcp_header payload)
      (fits : tcp_header payload ≤ payload.length) (syn : (number payload 13 1).testBit 1 = true)
      (ack : (number payload 13 1).testBit 4 = false) :
      Announces payload src dst 6 (.tcp (.new src (port payload 0)) (.new dst (port payload 2)))
  | udp (long : 8 ≤ payload.length) (least : 8 ≤ number payload 4 2)
      (fits : number payload 4 2 ≤ payload.length) :
      Announces payload src dst 17 (.udp (.new src (port payload 0)) (.new dst (port payload 2)))

/-- The lengths in the IP header of `buf` fit the buffer. It has the given protocol number, payload,
source, and destination. -/
inductive Framed (buf : Bytes) : ℕ → Bytes → IpAddr → IpAddr → Prop
  | v4 (version : number buf 0 1 / 16 = 4) (long : 20 ≤ buf.length)
      (header : ipv4_header buf ≤ number buf 2 2) (total : number buf 2 2 ≤ buf.length) :
      Framed buf (number buf 9 1) ((buf.take (number buf 2 2)).drop (ipv4_header buf))
        (.v4 (BitVec.ofNat 32 (number buf 12 4))) (.v4 (BitVec.ofNat 32 (number buf 16 4)))
  | v6 (version : number buf 0 1 / 16 = 6) (long : 40 ≤ buf.length)
      (total : 40 + number buf 4 2 ≤ buf.length) :
      Framed buf (number buf 6 1) ((buf.drop 40).take (number buf 4 2))
        (.v6 (BitVec.ofNat 128 (number buf 8 16))) (.v6 (BitVec.ofNat 128 (number buf 24 16)))

/-- What is behind the IP header of `buf` announces a connection. -/
def Reads (buf : Bytes) (ty : PacketType) : Prop :=
  ∃ protocol payload src dst, Framed buf protocol payload src dst ∧
    Announces payload src dst protocol ty

/-- The payload of `buf` starts with a transport header: the header of an IPv4 packet has five words
at least, and the fragment offset is 0. -/
def StartsTransport (buf : Bytes) : Prop :=
  number buf 0 1 / 16 = 4 → 20 ≤ ipv4_header buf ∧ number buf 6 2 % 8192 = 0

/-- `buf` is a packet that opens a connection. -/
def Opening (buf : Bytes) (ty : PacketType) : Prop := StartsTransport buf ∧ Reads buf ty

/-! ## `parse_packet` -/

/-- The TCP branch of `parse_payload`. -/
theorem parse_payload_tcp (payload : Bytes) (src dst : IpAddr) :
    ∃ r, parse_payload .tcp payload src dst = .ok r ∧
      ∀ ty, r = some ty ↔ Announces payload src dst 6 ty := by
  simp only [parse_payload, tcp_check_len_eq, bind, Except.bind, pure, Except.pure]
  by_cases complete : 20 ≤ payload.length ∧ 20 ≤ tcp_header payload ∧
      tcp_header payload ≤ payload.length
  swap
  · rw [decide_eq_false complete]
    refine ⟨none, rfl, fun ty => ⟨nofun, fun h => ?_⟩⟩
    cases h with
    | tcp long least fits syn ack => exact absurd ⟨long, least, fits⟩ complete
  obtain ⟨long, least, fits⟩ := complete
  rw [decide_eq_true ⟨long, least, fits⟩, tcp_flag_eq 1 (by omega) (by omega),
    tcp_flag_eq 4 (by omega) (by omega), src_port_eq (by omega), dst_port_eq (by omega)]
  by_cases opens : (number payload 13 1).testBit 1 = true ∧ (number payload 13 1).testBit 4 = false
  · obtain ⟨syn, ack⟩ := opens
    rw [syn, ack]
    refine ⟨_, rfl, fun ty => ⟨fun h => ?_, fun h => ?_⟩⟩
    · obtain rfl := Option.some.inj h
      exact .tcp long least fits syn ack
    · cases h
      rfl
  · refine ⟨none, ?_, fun ty => ⟨nofun, fun h => ?_⟩⟩
    · cases syn : (number payload 13 1).testBit 1 with
      | false => rfl
      | true =>
        cases ack : (number payload 13 1).testBit 4 with
        | false => exact absurd ⟨syn, ack⟩ opens
        | true => rfl
    · cases h with
      | tcp long least fits syn ack => exact absurd ⟨syn, ack⟩ opens

/-- The UDP branch of `parse_payload`. -/
theorem parse_payload_udp (payload : Bytes) (src dst : IpAddr) :
    ∃ r, parse_payload .udp payload src dst = .ok r ∧
      ∀ ty, r = some ty ↔ Announces payload src dst 17 ty := by
  simp only [parse_payload, udp_check_len_eq, bind, Except.bind, pure, Except.pure]
  by_cases complete : 8 ≤ payload.length ∧ 8 ≤ number payload 4 2 ∧
      number payload 4 2 ≤ payload.length
  · obtain ⟨long, least, fits⟩ := complete
    rw [decide_eq_true ⟨long, least, fits⟩, src_port_eq (by omega), dst_port_eq (by omega)]
    refine ⟨_, rfl, fun ty => ⟨fun h => ?_, fun h => ?_⟩⟩
    · obtain rfl := Option.some.inj h
      exact .udp long least fits
    · cases h
      rfl
  · rw [decide_eq_false complete]
    refine ⟨none, rfl, fun ty => ⟨nofun, fun h => ?_⟩⟩
    cases h with
    | udp long least fits => exact absurd ⟨long, least, fits⟩ complete

/-- `parse_payload` returns, and finds what the payload announces. -/
theorem parse_payload_reads (b : UInt8) (payload : Bytes) (src dst : IpAddr) :
    ∃ r, parse_payload (.from b) payload src dst = .ok r ∧
      ∀ ty, r = some ty ↔ Announces payload src dst b.toNat ty := by
  have tcp : b.toNat = 6 ↔ b = 6 := by rw [← UInt8.toNat_inj]; rfl
  have udp : b.toNat = 17 ↔ b = 17 := by rw [← UInt8.toNat_inj]; rfl
  by_cases h6 : b = 6
  · subst h6
    exact parse_payload_tcp payload src dst
  by_cases h17 : b = 17
  · subst h17
    exact parse_payload_udp payload src dst
  refine ⟨none, ?_, fun ty => ⟨nofun, fun h => ?_⟩⟩
  · simp only [IpProtocol.from, h6, h17, if_false, parse_payload]
    rfl
  · generalize hn : b.toNat = n at h
    cases h with
    | tcp => exact absurd (tcp.mp hn) h6
    | udp => exact absurd (udp.mp hn) h17

/-- The IPv4 branch of `parse_packet`. -/
theorem parse_packet_v4 {buf : Bytes} (filled : buf ≠ []) (version : number buf 0 1 / 16 = 4) :
    ∃ r, parse_packet buf = .ok r ∧ ∀ ty, r = some ty ↔ Reads buf ty := by
  simp only [parse_packet, of_packet_eq filled, bind, Except.bind, pure, Except.pure, version,
    true_or, if_true, ipv4_check_len_eq]
  by_cases fits : 20 ≤ buf.length ∧ ipv4_header buf ≤ number buf 2 2 ∧ number buf 2 2 ≤ buf.length
  · obtain ⟨long, header, total⟩ := fits
    have protocol := number_one (show 9 < buf.length by omega)
    rw [decide_eq_true ⟨long, header, total⟩, byte_eq (show 9 < buf.length by omega),
      ipv4_payload_eq long header total, ipv4_addr_eq (by omega), ipv4_addr_eq (by omega)]
    obtain ⟨r, hr, reads⟩ := parse_payload_reads buf[9]
      ((buf.take (number buf 2 2)).drop (ipv4_header buf))
      (.v4 (BitVec.ofNat 32 (number buf 12 4))) (.v4 (BitVec.ofNat 32 (number buf 16 4)))
    rw [← protocol] at reads
    refine ⟨r, hr, fun ty => (reads ty).trans ⟨fun h => ?_, fun h => ?_⟩⟩
    · exact ⟨_, _, _, _, .v4 version long header total, h⟩
    · obtain ⟨_, _, _, _, framed, h⟩ := h
      cases framed with
      | v4 => exact h
      | v6 version => omega
  · rw [decide_eq_false fits]
    refine ⟨none, rfl, fun ty => ⟨nofun, fun h => ?_⟩⟩
    obtain ⟨_, _, _, _, framed, -⟩ := h
    cases framed with
    | v4 version long header total => exact absurd ⟨long, header, total⟩ fits
    | v6 version => omega

/-- The IPv6 branch of `parse_packet`. -/
theorem parse_packet_v6 {buf : Bytes} (filled : buf ≠ []) (version : number buf 0 1 / 16 = 6) :
    ∃ r, parse_packet buf = .ok r ∧ ∀ ty, r = some ty ↔ Reads buf ty := by
  simp only [parse_packet, of_packet_eq filled, bind, Except.bind, pure, Except.pure, version,
    or_true, if_true, ipv6_check_len_eq]
  by_cases fits : 40 ≤ buf.length ∧ 40 + number buf 4 2 ≤ buf.length
  · obtain ⟨long, total⟩ := fits
    have protocol := number_one (show 6 < buf.length by omega)
    rw [decide_eq_true ⟨long, total⟩, byte_eq (show 6 < buf.length by omega),
      ipv6_payload_eq total, ipv6_addr_eq (by omega), ipv6_addr_eq (by omega)]
    obtain ⟨r, hr, reads⟩ := parse_payload_reads buf[6] ((buf.drop 40).take (number buf 4 2))
      (.v6 (BitVec.ofNat 128 (number buf 8 16))) (.v6 (BitVec.ofNat 128 (number buf 24 16)))
    rw [← protocol] at reads
    refine ⟨r, hr, fun ty => (reads ty).trans ⟨fun h => ?_, fun h => ?_⟩⟩
    · exact ⟨_, _, _, _, .v6 version long total, h⟩
    · obtain ⟨_, _, _, _, framed, h⟩ := h
      cases framed with
      | v4 version => omega
      | v6 => exact h
  · rw [decide_eq_false fits]
    refine ⟨none, rfl, fun ty => ⟨nofun, fun h => ?_⟩⟩
    obtain ⟨_, _, _, _, framed, -⟩ := h
    cases framed with
    | v4 version => omega
    | v6 version long total => exact absurd ⟨long, total⟩ fits

/-- On a buffer that has a byte `parse_packet` returns, and it finds what the buffer reads as. -/
theorem parse_packet_reads {buf : Bytes} (filled : buf ≠ []) :
    ∃ r, parse_packet buf = .ok r ∧ ∀ ty, r = some ty ↔ Reads buf ty := by
  by_cases v4 : number buf 0 1 / 16 = 4
  · exact parse_packet_v4 filled v4
  by_cases v6 : number buf 0 1 / 16 = 6
  · exact parse_packet_v6 filled v6
  have version : ¬ (number buf 0 1 / 16 = 4 ∨ number buf 0 1 / 16 = 6) := fun h => h.elim v4 v6
  simp only [parse_packet, of_packet_eq filled, if_neg version, bind, Except.bind]
  refine ⟨none, rfl, fun ty => ⟨nofun, fun h => ?_⟩⟩
  obtain ⟨_, _, _, _, framed, -⟩ := h
  cases framed with
  | v4 version => exact absurd version v4
  | v6 version => exact absurd version v6

/-- `parse_packet` returns on every buffer that has a byte, whatever its length and its length
fields, and on no other: all bytes that it reads are in the buffer. -/
theorem parse_packet_returns (buf : Bytes) : (∃ r, parse_packet buf = .ok r) ↔ buf ≠ [] := by
  constructor
  · rintro ⟨r, hr⟩ rfl
    cases hr
  · intro filled
    obtain ⟨r, hr, -⟩ := parse_packet_reads filled
    exact ⟨r, hr⟩

/-- `parse_packet` finds exactly the packets that open a connection, on every buffer that has a
byte, but for those that announce a connection in bytes that are not a transport header. -/
theorem recognizes_openings {buf : Bytes} (filled : buf ≠ []) :
    (∀ ty, parse_packet buf = .ok (some ty) ↔ Opening buf ty) ↔
      ¬ (¬ StartsTransport buf ∧ ∃ ty, Reads buf ty) := by
  obtain ⟨r, hr, reads⟩ := parse_packet_reads filled
  have returns : ∀ ty, parse_packet buf = .ok (some ty) ↔ Reads buf ty := by
    intro ty
    rw [hr, ← reads, Except.ok.injEq]
  simp only [returns]
  constructor
  · rintro agrees ⟨starts, ty, h⟩
    exact starts ((agrees ty).mp h).1
  · intro clear ty
    refine ⟨fun h => ⟨?_, h⟩, fun h => h.2⟩
    by_contra starts
    exact clear ⟨starts, ty, h⟩

/-- A SYN from port 9 of 10.0.0.1 to port 2 of 10.0.1.1, with an IP header whose first byte and
fragment offset are given. -/
def syn_packet (first offset : UInt8) : Bytes :=
  [first, 0, 0, 40, 0, 0, 0, offset, 64, 6, 0, 0, 10, 0, 0, 1, 10, 0, 1, 1,
    0, 9, 0, 2, 0, 0, 0, 0, 0, 0, 0, 0, 0x50, 0x02, 0xff, 0xff, 0, 0, 0, 0]

/-- The SYN is recognized. -/
theorem recognizes_openings_syn :
    Opening (syn_packet 0x45 0) (.tcp (.v4 0x0a000001 9) (.v4 0x0a000101 2)) := by
  have starts : StartsTransport (syn_packet 0x45 0) := fun _ => by decide
  have filled : syn_packet 0x45 0 ≠ [] := by decide
  exact ((recognizes_openings filled).mpr (fun misread => misread.1 starts) _).mp
    (by decide +kernel)

/-- A later fragment with the same bytes is recognized too. So is a packet without a header length,
whose own header is then taken for that of a segment. -/
theorem payload_read_as_header :
    (parse_packet (syn_packet 0x45 1) =
        .ok (some (.tcp (.v4 0x0a000001 9) (.v4 0x0a000101 2))) ∧
      ¬ Opening (syn_packet 0x45 1) (.tcp (.v4 0x0a000001 9) (.v4 0x0a000101 2))) ∧
    (parse_packet [0x40, 0, 0, 20, 0, 0, 0, 0, 64, 6, 0, 0, 0x50, 0x02, 0, 1, 10, 0, 1, 1] =
        .ok (some (.tcp (.v4 0x50020001 16384) (.v4 0x0a000101 20))) ∧
      ¬ Opening [0x40, 0, 0, 20, 0, 0, 0, 0, 64, 6, 0, 0, 0x50, 0x02, 0, 1, 10, 0, 1, 1]
        (.tcp (.v4 0x50020001 16384) (.v4 0x0a000101 20))) := by
  refine ⟨⟨by decide +kernel, fun h => ?_⟩, by decide +kernel, fun h => ?_⟩
  · exact absurd (h.1 (by decide)).2 (by decide)
  · exact absurd (h.1 (by decide)).1 (by decide)

/-- What a buffer reads as has a destination without flow information and scope. -/
theorem Reads.normal {buf : Bytes} {ty : PacketType} (h : Reads buf ty) {src dst : SocketAddr}
    (eq : ty = .tcp src dst ∨ ty = .udp src dst) : dst = .new dst.ip dst.port := by
  have new : ∀ (ip : IpAddr) (port : UInt16), SocketAddr.new ip port =
      .new (SocketAddr.new ip port).ip (SocketAddr.new ip port).port := by
    intro ip port
    cases ip <;> rfl
  obtain ⟨_, _, _, _, -, h⟩ := h
  cases h with
  | tcp =>
    rcases eq with eq | eq
    · cases eq
      exact new _ _
    · cases eq
  | udp =>
    rcases eq with eq | eq
    · cases eq
    · cases eq
      exact new _ _

/-- The destination that `parse_packet` finds is an address without flow information and scope. -/
theorem normal_of_parse_packet {buf : Bytes} {ty : PacketType}
    (h : parse_packet buf = .ok (some ty))
    {src dst : SocketAddr} (eq : ty = .tcp src dst ∨ ty = .udp src dst) :
    dst = .new dst.ip dst.port := by
  have filled : buf ≠ [] := (parse_packet_returns buf).mp ⟨_, h⟩
  obtain ⟨r, hr, reads⟩ := parse_packet_reads filled
  obtain rfl : r = some ty := by
    rw [hr] at h
    exact Except.ok.inj h
  exact ((reads _).mp rfl).normal eq

/-- The destination of a UDP datagram is a plain `SocketAddr`. -/
theorem new_of_parse_packet {buf : Bytes} {src dst : SocketAddr}
    (h : parse_packet buf = .ok (some (.udp src dst))) : dst = .new dst.ip dst.port :=
  normal_of_parse_packet h (.inr rfl)

end L3Extract
