import TunnelBroker.Network.Dial
import TunnelBroker.Proofs.Command
import TunnelBroker.Proofs.Network.HostPort
import TunnelBroker.Proofs.Network.IpAddress

/-!
Socket addresses as destinations. Main statement: the text of an address is one word of a `connect`,
and it resolves to the address itself, without a look-up.
-/

set_option autoImplicit false

namespace TunnelBroker

theorem Ipv6.isHexDigit_of_isBlank {c : Char} (blank : Text.isBlank c = true) :
    isHexDigit c = false := by
  simp [Text.isBlank] at blank
  simp [isHexDigit, Char.isDigit, Char.le_def, UInt32.le_iff_toNat_le]
  have : c.val.toNat = c.toNat := rfl
  omega

theorem IpAddress.toList_text (ip : IpAddress) : ip.text.toList = ip.chars :=
  String.toList_ofList

theorem IpAddress.text_ne_empty (ip : IpAddress) : ip.text ≠ "" := by
  intro nothing
  have read := parse?_text ip
  rw [nothing] at read
  exact absurd read nofun

namespace SocketAddress

/-- How an address is written: its four numbers and dots, or its groups in brackets, and behind a
colon the port. -/
inductive IsPrinted : SocketAddress → String → Prop where
  | v4 (ip : Ipv4) (port : UInt16) :
    IsPrinted ⟨.v4 ip, port⟩ (toString ip.a.toNat ++ "." ++ toString ip.b.toNat ++ "." ++
      toString ip.c.toNat ++ "." ++ toString ip.d.toNat ++ ":" ++ toString port.toNat)
  | v6 {ip : Ipv6} {groups : List Char} (printed : Ipv6.IsPrinted ip.groups groups)
    (port : UInt16) :
    IsPrinted ⟨.v6 ip, port⟩ ("[" ++ String.ofList groups ++ "]:" ++ toString port.toNat)

theorem text_v4 (ip : Ipv4) (port : UInt16) :
    text ⟨.v4 ip, port⟩ = (IpAddress.v4 ip).text ++ ":" ++ toString port.toNat := by
  rw [← String.toList_inj]
  simp [text, chars, IpAddress.text, IpAddress.chars]

theorem text_v6 (ip : Ipv6) (port : UInt16) :
    text ⟨.v6 ip, port⟩ = "[" ++ (IpAddress.v6 ip).text ++ "]:" ++ toString port.toNat := by
  rw [← String.toList_inj]
  simp [text, chars, IpAddress.text, IpAddress.chars]

theorem isPrinted_text (address : SocketAddress) : address.IsPrinted address.text := by
  obtain ⟨ip | ip, port⟩ := address
  · have printed := IsPrinted.v4 ip port
    have numbers : (IpAddress.v4 ip).text = toString ip.a.toNat ++ "." ++ toString ip.b.toNat ++
        "." ++ toString ip.c.toNat ++ "." ++ toString ip.d.toNat := by
      rw [← String.toList_inj]
      simp [IpAddress.text, IpAddress.chars, Ipv4.chars]
    rwa [text_v4, numbers]
  · rw [text_v6]
    exact .v6 ip.isPrinted_chars port

theorem solid_text (address : SocketAddress) : Text.IsSolid address.text := by
  intro c found
  rw [text, String.toList_ofList] at found
  cases blank : Text.isBlank c with
  | false => rfl
  | true =>
    have noMark : c ∉ ['.', ':', '[', ']'] := by
      intro mark
      simp only [List.mem_cons, List.not_mem_nil, or_false] at mark
      rcases mark with rfl | rfl | rfl | rfl <;> exact absurd blank (by decide)
    exact (not_mem_chars (Ipv6.isHexDigit_of_isBlank blank) noMark address found).elim

theorem hasColon_text (address : SocketAddress) : Command.hasColon address.text = true := by
  obtain ⟨ip | ip, port⟩ := address
  · rw [Command.hasColon_iff, text_v4]
    simp
  · rw [Command.hasColon_iff, text_v6]
    simp

-- The host is the text of the address alone. Only an IPv6 address has colons, and no address has
-- a bracket of its own.
theorem parse_text (address : SocketAddress) :
    HostPort.parse address.text = .ok ⟨address.ip.text, address.port⟩ := by
  have nonempty := address.ip.text_ne_empty
  obtain ⟨ip | ip, port⟩ := address
  · have noColon : ':' ∉ (IpAddress.v4 ip).text.toList := by
      rw [IpAddress.toList_text]
      exact ip.not_mem_chars rfl (by decide)
    have unbracketed : (IpAddress.v4 ip).text.toList.head? ≠ some '[' := by
      rw [IpAddress.toList_text]
      exact fun opening => ip.not_mem_chars rfl (by decide) (List.mem_of_head? opening)
    rw [text_v4]
    exact HostPort.parse_unbracketed nonempty noColon unbracketed port
  · have unclosed : ¬ "]:".toList <:+: (IpAddress.v6 ip).text.toList := by
      rw [IpAddress.toList_text]
      have closing : ']' ∉ ip.chars := ip.not_mem_chars rfl (by decide) (by decide)
      exact fun found => closing (found.subset List.mem_cons_self)
    rw [text_v6]
    exact HostPort.parse_bracketed nonempty unclosed port

theorem resolve_text (address : SocketAddress) (network : Network) :
    network.resolve address.text = .done (.ok address) := by
  simp only [Network.resolve, parse_text, IpAddress.parse?_text]

theorem isReadFrom_text (address : SocketAddress) {organization word : Option String}
    {timeout : Option Duration}
    (checked : ∀ slug, organization = some slug → Slug.check slug = .ok ())
    (timed : Command.readTimeout word = .ok timeout) :
    Target.IsReadFrom ⟨organization, address.text, timeout⟩
      (organization.toList ++ address.text :: word.toList) where
  organization := checked
  port := address.hasColon_text
  words := ⟨word, rfl, timed⟩

theorem parse_connect_text (address : SocketAddress) {organization word : Option String}
    {timeout : Option Duration}
    (checked : ∀ slug, organization = some slug → Slug.check slug = .ok ())
    (timed : Command.readTimeout word = .ok timeout) :
    Command.parse (" ".intercalate
        ("connect" :: (organization.toList ++ address.text :: word.toList))) =
      .ok (.connect ⟨organization, address.text, timeout⟩) := by
  refine Command.parse_of_isReadFrom (Command.words_intercalate ?_)
    (address.isReadFrom_text checked timed)
  intro text member
  rcases List.mem_cons.1 member with rfl | member
  · decide
  rcases List.mem_append.1 member with isSlug | member
  · have checked := checked text (Option.mem_toList.1 isSlug)
    exact ⟨Slug.nonempty_of_check checked, Slug.solid_of_check checked⟩
  rcases List.mem_cons.1 member with rfl | isTimeout
  · have colon := Command.hasColon_iff.1 address.hasColon_text
    refine ⟨?_, address.solid_text⟩
    simpa using fun nothing => absurd (nothing ▸ colon) (by decide)
  · exact Command.isWord_of_readTimeout timed text (Option.mem_toList.1 isTimeout)

/--
Every socket address is a destination by its text. The text is the address of a `connect`, as it
stands, whether an organization comes before it or not, and a timeout behind it or not; and it
resolves to the very address in every network, which is never asked.
-/
theorem text_dials_itself (address : SocketAddress) :
    address.IsPrinted address.text ∧
    (∀ (organization word : Option String) (timeout : Option Duration),
      (∀ slug, organization = some slug → Slug.check slug = .ok ()) →
      Command.readTimeout word = .ok timeout →
      Command.parse (" ".intercalate
          ("connect" :: (organization.toList ++ address.text :: word.toList))) =
        .ok (.connect ⟨organization, address.text, timeout⟩)) ∧
    ∀ network : Network, network.resolve address.text = .done (.ok address) :=
  ⟨address.isPrinted_text, fun _ _ _ => address.parse_connect_text, address.resolve_text⟩

example : text ⟨.v6 ⟨[0x2001, 0xDB8, 0, 0, 1, 0, 0, 1], rfl⟩, 443⟩ =
    "[2001:db8::1:0:0:1]:443" := by decide

end SocketAddress

end TunnelBroker
