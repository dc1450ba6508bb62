import Courier.Cluster.Server
import Mathlib.Data.List.TakeWhile

/-!
# Servers, addresses and ids

A server names just the broker that is read from it. The address of a broker names it again, so that
brokers with one address are one broker. The id of an address is the id of the server it came from
exactly when the server is written without a plus sign and without needless zeros.
-/

namespace Courier

/-! ## Reading servers -/

/-- A port is read as a number of at most 16 bits. -/
theorem isPort_iff {text : List Char} {port : UInt16} :
    IsPort text port ↔ Decimal.readUpTo? 65535 text = some port.toNat := by
  have hbound : port.toNat ≤ 65535 := Nat.le_of_lt_succ port.toNat_lt
  rw [Decimal.readUpTo?_eq_some_iff]
  constructor
  · rintro ⟨ds, htext, hne, hall, hvalue⟩
    exact ⟨ds, htext, hne, hall, hvalue, hbound⟩
  · rintro ⟨ds, htext, hne, hall, hvalue, -⟩
    exact ⟨ds, htext, hne, hall, hvalue⟩

/-- A text is cut at its first colon. -/
theorem cut_at_colon {host : List Char} (h : ':' ∉ host) (port : List Char) :
    (host ++ ':' :: port).takeWhile (· != ':') = host ∧
      (host ++ ':' :: port).dropWhile (· != ':') = ':' :: port := by
  have hall : ∀ c ∈ host, (c != ':') = true := by
    intro c hc
    have hne : c ≠ ':' := fun heq => h (heq ▸ hc)
    simpa using hne
  constructor
  · rw [List.takeWhile_append_of_pos hall, List.takeWhile_cons_of_neg (by simp), List.append_nil]
  · rw [List.dropWhile_append_of_pos hall, List.dropWhile_cons_of_neg (by simp)]

/-- There is one way to cut a text at its first colon. -/
theorem colon_cut_unique {host host' port port' : List Char} (h : ':' ∉ host) (h' : ':' ∉ host')
    (heq : host ++ ':' :: port = host' ++ ':' :: port') : host = host' ∧ port = port' := by
  obtain ⟨htake, hdrop⟩ := cut_at_colon h port
  obtain ⟨htake', hdrop'⟩ := cut_at_colon h' port'
  rw [heq] at htake hdrop
  exact ⟨htake.symm.trans htake', (List.cons.inj (hdrop.symm.trans hdrop')).2⟩

namespace Broker

/-- A server names the broker that is read from it, and no other. -/
theorem parse?_eq_some_iff {server : String} {b : Broker} :
    parse? server = some b ↔ b.IsNamedBy server := by
  have hsplit := List.takeWhile_append_dropWhile (p := (· != ':')) (l := server.toList)
  have hcolon : ':' ∉ server.toList.takeWhile (· != ':') := by
    intro hmem
    simpa using List.all_eq_true.mp List.all_takeWhile _ hmem
  constructor
  · intro h
    unfold parse? at h
    dsimp only at h
    split at h
    · rename_i c port hdrop
      have hc : c = ':' := by
        have hhead := List.head?_dropWhile_not (· != ':') server.toList
        rw [hdrop] at hhead
        simpa using hhead
      rw [hdrop, hc] at hsplit
      rw [Option.bind_eq_bind, Option.bind_eq_some_iff] at h
      obtain ⟨number, hread, hhost⟩ := h
      split at hhost
      · cases hhost
      · rename_i hne
        cases hhost
        obtain ⟨-, -, -, -, -, hbound⟩ := Decimal.readUpTo?_eq_some_iff.mp hread
        refine ⟨port, ?_, ?_, ?_, ?_⟩
        · rw [String.toList_ofList, hsplit]
        · rwa [String.toList_ofList]
        · rwa [String.toList_ofList]
        · -- The bound of the port keeps it from wrapping around.
          have hnumber : (UInt16.ofNat number).toNat = number :=
            UInt16.toNat_ofNat_of_lt' (Nat.lt_succ_of_le hbound)
          rw [isPort_iff, hnumber]
          exact hread
    · cases h
  · rintro ⟨port, hserver, hhost, hne, hport⟩
    obtain ⟨htake, hdrop⟩ := cut_at_colon hhost port
    unfold parse?
    dsimp only
    rw [hserver, htake, hdrop]
    dsimp only
    rw [isPort_iff.mp hport, Option.bind_eq_bind, Option.bind_some, if_neg hne,
      String.ofList_toList, UInt16.ofNat_toNat]

/-- A server names one broker. -/
theorem IsNamedBy.unique {b b' : Broker} {server : String} (h : b.IsNamedBy server)
    (h' : b'.IsNamedBy server) : b = b' :=
  Option.some.inj ((parse?_eq_some_iff.mpr h).symm.trans (parse?_eq_some_iff.mpr h'))

/-! ## Addresses -/

/-- An address is the host, a colon and the port in decimal. -/
theorem toList_address (b : Broker) :
    b.address.toList = b.host.toList ++ ':' :: Decimal.digits b.port.toNat := by
  simp [address]

/-- A broker is named by its own address. -/
theorem IsNamedBy.address {b : Broker} {server : String} (h : b.IsNamedBy server) :
    b.IsNamedBy b.address := by
  obtain ⟨port, -, hhost, hne, -⟩ := h
  exact ⟨_, b.toList_address, hhost, hne, _, Or.inl rfl, Decimal.digits_ne_nil _,
    Decimal.all_isDigit_digits _, Decimal.ofDigits_digits _⟩

/-- So brokers with one address are one broker. -/
theorem IsNamedBy.eq_of_address {b b' : Broker} {server server' : String} (h : b.IsNamedBy server)
    (h' : b'.IsNamedBy server') (heq : b.address = b'.address) : b = b' :=
  h.address.unique (heq ▸ h'.address)

end Broker

namespace Cluster

/-- A cluster of one broker is reached at the address of the broker. -/
theorem bootstrapServers_singleton (id : String) (b : Broker) (properties : Table String) :
    bootstrapServers ⟨id, [b], properties⟩ = b.address :=
  rfl

/-! ## Ids of addresses -/

/-- The character that an id has in the place of this one. -/
def idChar (c : Char) : Char :=
  if isIdChar c then c else '_'

theorem toList_sanitize (name : String) : (sanitize name).toList = name.toList.map idChar := by
  rw [sanitize, String.toList_ofList]
  rfl

/-- Two names have the same id when their characters have, place by place. -/
theorem sanitize_eq_iff {name name' : String} :
    sanitize name = sanitize name' ↔ name.toList.map idChar = name'.toList.map idChar := by
  rw [← toList_sanitize, ← toList_sanitize, String.toList_inj]

/-- An id keeps the digits. -/
theorem idChar_of_isDigit {c : Char} (h : Decimal.isDigit c = true) : idChar c = c := by
  have hdigit : c.isDigit = true := by
    simpa [Decimal.isDigit, Char.isDigit, Char.le_def] using h
  rw [idChar, if_pos]
  simp [isIdChar, Char.isAlphanum, hdigit]

/-- Digits stand for themselves in an id. -/
theorem map_idChar_of_isDigit {cs : List Char} (h : ∀ c ∈ cs, Decimal.isDigit c = true) :
    cs.map idChar = cs := by
  calc cs.map idChar = cs.map id := List.map_congr_left fun c hc => idChar_of_isDigit (h c hc)
    _ = cs := List.map_id cs

/-- The id of an address is the id of the server it came from just when the server is plain. -/
theorem sanitize_address_iff {b : Broker} {server : String} (h : b.IsNamedBy server) :
    sanitize b.address = sanitize server ↔ IsPlain server := by
  obtain ⟨port, hserver, hhost, -, ds, htext, hne, hall, hvalue⟩ := h
  have hdigits : (Decimal.digits b.port.toNat).map idChar = Decimal.digits b.port.toNat :=
    map_idChar_of_isDigit (Decimal.all_isDigit_digits _)
  -- Hosts and colons agree, so only the ports are compared.
  have hports : sanitize b.address = sanitize server ↔
      Decimal.digits b.port.toNat = port.map idChar := by
    rw [sanitize_eq_iff, b.toList_address, hserver, List.map_append, List.map_append,
      List.append_cancel_left_eq, List.map_cons, List.map_cons, hdigits]
    simp
  have hplain : IsPlain server ↔
      (∀ rest, port ≠ '+' :: rest) ∧ ∀ c rest, port ≠ '0' :: c :: rest := by
    constructor
    · intro plain
      exact plain _ port hserver hhost
    · intro hport host' port' hserver' hhost'
      obtain ⟨-, rfl⟩ := colon_cut_unique hhost hhost' (hserver ▸ hserver')
      exact hport
  rw [hports, hplain]
  rcases htext with rfl | rfl
  · rw [map_idChar_of_isDigit hall, ← hvalue]
    constructor
    · intro heq
      constructor
      · rintro rest rfl
        exact absurd (hall '+' List.mem_cons_self) (by decide)
      · rintro c rest rfl
        cases Decimal.tail_digits_of_zero heq
    · rintro ⟨-, hzero⟩
      exact Decimal.digits_ofDigits hne hall hzero
  · constructor
    · -- The plus sign is replaced in the id, and the address has none.
      intro heq
      have hmem : '_' ∈ Decimal.digits b.port.toNat := by
        rw [heq]
        exact List.mem_cons_self
      exact absurd (Decimal.all_isDigit_digits _ '_' hmem) (by decide)
    · rintro ⟨hplus, -⟩
      exact absurd rfl (hplus ds)

end Cluster

end Courier
