import StubHttp.CommandLine.ListenHost
import StubHttp.Proofs.Net.IPv6

/-!
# Listen hosts

The text that an address is printed as is read back as that address
(`address?_text`). An IPv4 address has no other text
(`listenAddress_eq_v4_iff`), while an IPv6 address has several, of which one is
printed. A text with less than two colons that no IPv4 address is printed as is
refused, so there is no room for a port, a blank, a zero too many or a number
too few (`listenAddress_of_not_printed`).
-/

namespace StubHttp.Net

theorem address?_text : ∀ ip : Address, address? ip.text = some (ip, [])
  | .v4 ip => by rw [address?, Address.text, ipv4?_text]
  | .v6 ip => by
      have hwritten := ip.written_text
      rw [address?, Address.text, ipv4?_of_written hwritten, ipv6?_of_written hwritten,
        Option.map_some]

theorem address?_eq_v4_iff {cs rest : List Char} {ip : IPv4} :
    address? cs = some (.v4 ip, rest) ↔ ipv4? cs = some (ip, rest) := by
  rw [address?]
  split
  · next hipv4 => simp [hipv4]
  · next hipv4 => simp [hipv4]

theorem address?_eq_v6 {cs rest : List Char} {ip : IPv6} (h : address? cs = some (.v6 ip, rest)) :
    ipv6? cs = some (ip, rest) := by
  rw [address?] at h
  split at h
  · cases h
  · simpa using h

theorem Address.ofString?_eq_some_iff {s : String} {ip : Address} :
    Address.ofString? s = some ip ↔ address? s.toList = some (ip, []) := by
  rw [Address.ofString?]
  split
  · next hip => simp [hip]
  · next hnone =>
    simp only [reduceCtorEq, false_iff]
    exact hnone ip

end StubHttp.Net

namespace StubHttp.CommandLine

open Net

theorem listenAddress_eq_ok_iff {s : String} {ip : Address} :
    listenAddress s = .ok ip ↔ address? s.toList = some (ip, []) := by
  rw [← Address.ofString?_eq_some_iff, listenAddress]
  split
  · next hip => simp [hip]
  · next hnone => simp [hnone]

theorem listenAddress_eq_error {s : String} {e : HostError} (h : listenAddress s = .error e) :
    e = ⟨s⟩ := by
  rw [listenAddress] at h
  split at h
  · cases h
  · exact (Except.error.inj h).symm

theorem listenAddress_print (ip : Address) : listenAddress ip.print = .ok ip := by
  rw [listenAddress_eq_ok_iff, Address.print, String.toList_ofList, address?_text]

theorem listenAddress_eq_v4_iff {s : String} {ip : IPv4} :
    listenAddress s = .ok (.v4 ip) ↔ s = (Address.v4 ip).print := by
  rw [listenAddress_eq_ok_iff, address?_eq_v4_iff, ipv4?_eq_some_iff, List.append_nil,
    and_iff_left Text.stops_nil, Address.print, ← String.toList_inj, String.toList_ofList]
  rfl

theorem listenAddress_of_not_printed {s : String} (hcolons : s.toList.count ':' < 2)
    (h : ∀ ip : IPv4, s ≠ (Address.v4 ip).print) : listenAddress s = .error ⟨s⟩ := by
  cases hs : listenAddress s with
  | error e => rw [listenAddress_eq_error hs]
  | ok ip =>
      cases ip with
      | v4 ip => exact absurd (listenAddress_eq_v4_iff.mp hs) (h ip)
      | v6 ip =>
          have hipv6 := address?_eq_v6 (listenAddress_eq_ok_iff.mp hs)
          exact absurd (two_le_count_of_ipv6? hipv6) (Nat.not_le.mpr hcolons)

/-- The printed text of an address is read back, for IPv4 it is the only one that is read. -/
theorem listenAddress_inverts_print :
    (∀ ip : Address, listenAddress ip.print = .ok ip) ∧
    (∀ (s : String) (ip : Address), listenAddress s = .ok ip → listenAddress ip.print = .ok ip) ∧
    (∀ (s : String) (ip : IPv4), listenAddress s = .ok (.v4 ip) ↔ s = (Address.v4 ip).print) ∧
    (∀ s : String, s.toList.count ':' < 2 → (∀ ip : IPv4, s ≠ (Address.v4 ip).print) →
      listenAddress s = .error ⟨s⟩) ∧
    (∀ (s : String) (ip : IPv6), s = (Address.v6 ip).print ↔ Written ip.groups s.toList) ∧
    (∀ ip : IPv6, ∀ c ∈ (Address.v6 ip).print.toList, c ∈ "0123456789abcdef:.".toList) := by
  refine ⟨listenAddress_print, fun _ ip _ => listenAddress_print ip,
    fun _ _ => listenAddress_eq_v4_iff, fun _ => listenAddress_of_not_printed,
    fun s ip => ?_, fun ip c hc => ?_⟩
  · rw [IPv6.written_iff, Address.print, ← String.toList_inj, String.toList_ofList, Address.text]
  · rw [Address.print, String.toList_ofList] at hc
    exact ip.written_text.mem hc

/-- A dotted form behind an IPv6 mark, and one that stands alone with a zero too many. -/
theorem listenAddress_inverts_print_mapped :
    listenAddress "::ffff:127.0.0.1" = .ok (.v6 ⟨[0, 0, 0, 0, 0, 0xffff, 0x7f00, 1], rfl⟩) ∧
    listenAddress "127.0.0.01" = .error ⟨"127.0.0.01"⟩ := by
  have hprint : "::ffff:127.0.0.1"
      = (Address.v6 ⟨[0, 0, 0, 0, 0, 0xffff, 0x7f00, 1], rfl⟩).print := by decide
  have hzero : ∀ ip : IPv4, "127.0.0.01" ≠ (Address.v4 ip).print := by
    intro ip h
    have hread : ipv4? "127.0.0.01".toList = some (ip, []) := by
      rw [h, Address.print, String.toList_ofList, Address.text, ipv4?_text]
    have hnone : ipv4? "127.0.0.01".toList = none := by decide
    cases hnone.symm.trans hread
  constructor
  · rw [hprint]
    exact listenAddress_inverts_print.1 _
  · exact listenAddress_inverts_print.2.2.2.1 _ (by decide) hzero

end StubHttp.CommandLine
