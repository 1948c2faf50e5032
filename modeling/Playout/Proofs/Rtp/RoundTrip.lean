import Mathlib
import Playout.Proofs.Rtp.Layout

/-!
# Packets there and back

Writing a packet keeps all of it but the highest bit of the payload type, so reading gives the packet back, with that
bit cleared (`parse_serialize_packet`). What was read has no such bit, so it survives writing and reading as it is. The
datagram need not: it comes back when it is laid out without optional parts, and only then, since its first octet tells
whether there are any (`Layout.serialize_packet_eq_iff`).
-/

namespace Playout.Rtp

/-! ## The payload type -/

/-- The packet with the payload type that its seven bits can hold. -/
def Packet.narrow (p : Packet) : Packet := { p with payloadType := p.payloadType % 128 }

namespace Packet

variable (p : Packet)

theorem payloadType_narrow_lt : p.narrow.payloadType.toNat < 128 := by
  rw [narrow, UInt8.toNat_mod]
  exact Nat.mod_lt _ (by decide)

theorem narrow_eq_iff : p.narrow = p ↔ p.payloadType.toNat < 128 := by
  refine ⟨fun h => h ▸ p.payloadType_narrow_lt, fun h => ?_⟩
  have hmod : p.payloadType % 128 = p.payloadType :=
    UInt8.toNat_inj.1 ((UInt8.toNat_mod _ _).trans (Nat.mod_eq_of_lt h))
  rw [narrow, hmod]

/-- The bit of the payload type that does not fit is masked before it could reach the marker. -/
theorem serialize_narrow : p.narrow.serialize = p.serialize := by
  have hmask : ∀ b : UInt8, b % 128 &&& 0x7f = b &&& 0x7f := by decide +kernel
  have hbyte : p.narrow.markerByte = p.markerByte := by
    rw [markerByte, markerByte, narrow, hmask]
  rw [serialize, serialize, hbyte]
  rfl

end Packet

theorem parse_serialize_packet (p : Packet) : parse p.serialize = .ok p.narrow := by
  rw [← p.serialize_narrow]
  exact parse_serialize _ p.payloadType_narrow_lt

/-! ## The optional parts -/

namespace Layout

variable (l : Layout)

theorem first_of_bytes_eq {l l' : Layout} (h : l.bytes = l'.bytes) : l.first = l'.first := by
  obtain ⟨b, hb, hfirst⟩ := octets_one_of_lt (first_lt l)
  obtain ⟨b', hb', hfirst'⟩ := octets_one_of_lt (first_lt l')
  simp only [bytes, hb, hb', List.append_assoc, List.singleton_append] at h
  rw [← hfirst, ← hfirst', List.head_eq_of_cons_eq h]

theorem first_eq_iff : l.first = 64 * 2 ↔ l.padding = none ∧ l.extension = none ∧ l.sources = [] := by
  rw [first]
  cases l.padding <;> cases l.extension <;> simp <;> omega

theorem serialize_packet_eq_iff :
    l.packet.serialize = l.bytes ↔ l.padding = none ∧ l.extension = none ∧ l.sources = [] := by
  rw [serialize_eq l.packet l.payloadType_lt]
  constructor
  · intro h
    exact l.first_eq_iff.1 (first_of_bytes_eq h).symm
  · rintro ⟨hpadding, hextension, hsources⟩
    rw [bytes, bytes, l.first_eq_iff.2 ⟨hpadding, hextension, hsources⟩, behind, behind, tail, tail, hpadding,
      hextension, hsources]
    rfl

end Layout

/-- **The round trip of a packet.** A packet that is written is read again, as it was just where its payload type is
below 128. One that was read gives its datagram back just where this has no padding, no extension and no source. -/
theorem packet_round_trip :
    (∀ p : Packet, parse p.serialize = .ok { p with payloadType := p.payloadType % 128 } ∧
      (parse p.serialize = .ok p ↔ p.payloadType.toNat < 128)) ∧
    ∀ (data : Bytes) (p : Packet), parse data = .ok p →
      parse p.serialize = .ok p ∧ (∃ l : Layout, l.bytes = data) ∧
        ∀ l : Layout, l.bytes = data →
          (p.serialize = data ↔ l.padding = none ∧ l.extension = none ∧ l.sources = []) := by
  refine ⟨?_, ?_⟩
  · intro p
    refine ⟨parse_serialize_packet p, ?_⟩
    rw [parse_serialize_packet, Except.ok.injEq, p.narrow_eq_iff]
  · intro data p h
    obtain ⟨l, rfl, rfl⟩ := layout_of_parse h
    refine ⟨parse_serialize _ l.payloadType_lt, ⟨l, rfl⟩, ?_⟩
    intro l' hbytes
    -- the layout is the only one of its datagram as far as the packet goes
    have hpacket : l'.packet = l.packet := Except.ok.inj ((parse_bytes l').symm.trans (hbytes ▸ h))
    rw [← hpacket, ← hbytes]
    exact l'.serialize_packet_eq_iff

theorem packet_round_trip_of_optional_parts :
    let data : Bytes := [0xb1, 0xe1, 0, 1, 0, 0, 0, 2, 0, 0, 0, 3, 9, 9, 9, 9, 0, 0, 0, 1, 5, 5, 5, 5, 7, 8, 0, 2]
    let p : Packet := ⟨true, 97, 1, 2, 3, [7, 8]⟩
    parse data = .ok p ∧ parse p.serialize = .ok p ∧ p.serialize = [0x80, 0xe1, 0, 1, 0, 0, 0, 2, 0, 0, 0, 3, 7, 8] ∧
      ∀ l : Layout, l.bytes = data → ¬(l.padding = none ∧ l.extension = none ∧ l.sources = []) := by
  intro data p
  have hparse : parse data = .ok p := by decide +kernel
  obtain ⟨hback, -, hplain⟩ := packet_round_trip.2 data p hparse
  refine ⟨hparse, hback, by decide +kernel, ?_⟩
  intro l hbytes hnone
  exact absurd ((hplain l hbytes).2 hnone) (by decide +kernel)

end Playout.Rtp
