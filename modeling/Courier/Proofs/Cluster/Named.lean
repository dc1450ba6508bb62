import Courier.Cluster.Named
import Courier.Proofs.Cluster.Registry
import Courier.Proofs.Text.Ascii
import Mathlib.Data.List.Induction

/-!
# Registries are made as a whole or not at all

Clusters are added one by one, and as long as that goes well the registry holds just the clusters so
far under their ids. So whether the next one can be added is told from the list, and where the list
cannot be registered the error is that of the first cluster, or the first server, that is out of
order.
-/

namespace Courier.Cluster

/-! ## Steps that can fail -/

section Fold

variable {ε α β : Type} {f : β → α → Except ε β}

/-- A fold over one more element succeeds when the shorter one does and then the last step. -/
theorem foldlM_concat_eq_ok_iff {xs : List α} {x : α} {b r : β} :
    (xs ++ [x]).foldlM f b = .ok r ↔ ∃ r', xs.foldlM f b = .ok r' ∧ f r' x = .ok r := by
  rw [List.foldlM_append]
  cases xs.foldlM f b with
  | error e => simp [bind, Except.bind]
  | ok r' =>
    have hlast : [x].foldlM f r' = f r' x := by
      rw [List.foldlM_cons]
      cases f r' x <;> rfl
    simp [bind, Except.bind, hlast]

/-- A row of steps fails at the first that fails. -/
theorem foldlM_eq_error_iff {xs : List α} {b : β} {e : ε} :
    xs.foldlM f b = .error e ↔ ∃ before x after r, xs = before ++ x :: after ∧
      before.foldlM f b = .ok r ∧ f r x = .error e := by
  constructor
  · intro h
    induction xs generalizing b with
    | nil => cases h
    | cons x xs ih =>
      rw [List.foldlM_cons] at h
      cases hx : f b x with
      | error e' =>
        rw [hx] at h
        cases h
        exact ⟨[], x, xs, b, rfl, rfl, hx⟩
      -- The first step went well, so that the one that fails comes later.
      | ok b' =>
        rw [hx] at h
        obtain ⟨before, y, after, r, rfl, hbefore, hy⟩ := ih h
        refine ⟨x :: before, y, after, r, rfl, ?_, hy⟩
        rw [List.foldlM_cons, hx]
        exact hbefore
  · rintro ⟨before, x, after, r, rfl, hbefore, hx⟩
    rw [List.foldlM_append, hbefore]
    show (x :: after).foldlM f r = .error e
    rw [List.foldlM_cons, hx]
    rfl

end Fold

/-! ## Named clusters -/

/-- A further cluster can be registered when it has a broker and an id of its own. -/
theorem registrable_concat {clusters : List Cluster} {c : Cluster} :
    Registrable (clusters ++ [c]) ↔
      Registrable clusters ∧ c.brokers ≠ [] ∧ ∀ b ∈ clusters, idOf b ≠ idOf c := by
  constructor
  · rintro ⟨hbrokers, hdistinct⟩
    rw [List.map_append, List.nodup_append] at hdistinct
    obtain ⟨hinit, -, hapart⟩ := hdistinct
    refine ⟨⟨fun b hb => hbrokers b (by simp [hb]), hinit⟩, hbrokers c (by simp), ?_⟩
    intro b hb
    exact hapart _ (List.mem_map_of_mem hb) _ (by simp)
  · rintro ⟨⟨hbrokers, hdistinct⟩, hc, hapart⟩
    constructor
    case brokers =>
      intro b hb
      rcases List.mem_append.mp hb with hb | hb
      · exact hbrokers b hb
      · rwa [List.mem_singleton.mp hb]
    case distinct =>
      rw [List.map_append, List.nodup_append]
      refine ⟨hdistinct, by simp, ?_⟩
      intro id hid id' hid'
      obtain ⟨b, hb, rfl⟩ := List.mem_map.mp hid
      rw [List.map_singleton, List.mem_singleton] at hid'
      rw [hid']
      exact hapart b hb

namespace Registry

/-- The registry holds these clusters, each under its id. -/
def Holds (r : Registry) (clusters : List Cluster) : Prop :=
  r.clusters.entries.Perm (clusters.map fun c => (idOf c, c))

/-- A cluster is found by its id and by nothing else. -/
theorem Holds.get?_eq_some_iff {r : Registry} {clusters : List Cluster} (h : r.Holds clusters)
    {id : String} {c : Cluster} : r.clusters.get? id = some c ↔ c ∈ clusters ∧ idOf c = id := by
  rw [Table.get?_eq_some_iff, h.mem_iff, List.mem_map]
  constructor
  · rintro ⟨b, hb, heq⟩
    cases heq
    exact ⟨hb, rfl⟩
  · rintro ⟨hc, rfl⟩
    exact ⟨c, hc, rfl⟩

/-- Nothing is found by an id that no cluster has. -/
theorem Holds.get?_eq_none_iff {r : Registry} {clusters : List Cluster} (h : r.Holds clusters)
    {id : String} : r.clusters.get? id = none ↔ ∀ c ∈ clusters, idOf c ≠ id := by
  rw [Option.eq_none_iff_forall_ne_some]
  constructor
  · intro hnone c hc hid
    exact hnone c (h.get?_eq_some_iff.mpr ⟨hc, hid⟩)
  · intro hother c hget
    obtain ⟨hc, hid⟩ := h.get?_eq_some_iff.mp hget
    exact hother c hc hid

variable {clusters : List Cluster} {r r' : Registry} {c : Cluster} {e : RegistryError}

/-- A cluster is added when it has a broker and its id is not taken, and then the table has it under
that id. -/
theorem Holds.addCluster_eq_ok_iff (h : r.Holds clusters) :
    r.addCluster c = .ok r' ↔ (c.brokers ≠ [] ∧ ∀ b ∈ clusters, idOf b ≠ idOf c) ∧
      r' = ⟨r.clusters.insert (idOf c) c⟩ := by
  rw [← h.get?_eq_none_iff]
  unfold addCluster
  dsimp only
  split
  · rename_i hbrokers
    simp [hbrokers]
  · rename_i hbrokers
    rw [Table.contains, ← idOf]
    cases r.clusters.get? (idOf c) with
    | none => simp [hbrokers, eq_comm]
    | some b => simp

/-- A cluster is refused for the reason that it gives offence for. -/
theorem Holds.addCluster_eq_error_iff (h : r.Holds clusters) :
    r.addCluster c = .error e ↔ Offends clusters c e := by
  have htaken : r.clusters.contains (idOf c) = true ↔ ∃ b ∈ clusters, idOf b = idOf c := by
    rw [Table.contains_eq_true_iff]
    exact exists_congr fun b => h.get?_eq_some_iff
  unfold addCluster
  dsimp only
  rw [← idOf]
  constructor
  · intro herror
    split at herror
    · rename_i hbrokers
      cases herror
      exact .noBrokers hbrokers
    · rename_i hbrokers
      split at herror
      · rename_i hcontains
        cases herror
        exact .duplicate hbrokers (htaken.mp hcontains)
      · cases herror
  · intro hoffends
    cases hoffends with
    -- Brokers are looked at first, whatever the id.
    | noBrokers hbrokers => rw [if_pos hbrokers]
    | duplicate hbrokers hex => rw [if_neg hbrokers, if_pos (htaken.mpr hex)]

/-- A registry that was made holds the clusters it was made of, which were in order. -/
theorem holds_of_ofClusters (h : ofClusters clusters = .ok r) :
    r.Holds clusters ∧ Registrable clusters := by
  induction clusters using List.reverseRecOn generalizing r with
  | nil =>
    cases h
    exact ⟨.nil, ⟨by simp, by simp⟩⟩
  | append_singleton clusters c ih =>
    obtain ⟨r', hinit, hadd⟩ := foldlM_concat_eq_ok_iff.mp h
    obtain ⟨hholds, hregistrable⟩ := ih hinit
    obtain ⟨hc, rfl⟩ := hholds.addCluster_eq_ok_iff.mp hadd
    refine ⟨?_, registrable_concat.mpr ⟨hregistrable, hc⟩⟩
    -- The id is new, so that nothing is replaced and the table grows by this cluster.
    have hinsert := Table.perm_entries_insert (hholds.get?_eq_none_iff.mpr hc.2) c
    unfold Holds
    rw [List.map_append]
    exact (hinsert.trans (hholds.cons _)).trans (List.perm_append_singleton _ _).symm

/-- Clusters can be registered just when they are in order. -/
theorem exists_ofClusters_iff : (∃ r, ofClusters clusters = .ok r) ↔ Registrable clusters := by
  constructor
  · rintro ⟨r, h⟩
    exact (holds_of_ofClusters h).2
  · intro h
    induction clusters using List.reverseRecOn with
    | nil => exact ⟨_, rfl⟩
    | append_singleton clusters c ih =>
      obtain ⟨hregistrable, hc⟩ := registrable_concat.mp h
      obtain ⟨r, hinit⟩ := ih hregistrable
      have hholds := (holds_of_ofClusters hinit).1
      exact ⟨_, foldlM_concat_eq_ok_iff.mpr
        ⟨r, hinit, hholds.addCluster_eq_ok_iff.mpr ⟨hc, rfl⟩⟩⟩

/-- They are refused for the first that is out of order. -/
theorem ofClusters_eq_error_iff : ofClusters clusters = .error e ↔
    ∃ before c after, clusters = before ++ c :: after ∧ Registrable before ∧
      Offends before c e := by
  refine foldlM_eq_error_iff.trans ⟨?_, ?_⟩
  · rintro ⟨before, c, after, r, rfl, hbefore, hadd⟩
    obtain ⟨hholds, hregistrable⟩ := holds_of_ofClusters hbefore
    exact ⟨before, c, after, rfl, hregistrable, hholds.addCluster_eq_error_iff.mp hadd⟩
  · rintro ⟨before, c, after, rfl, hregistrable, hoffends⟩
    obtain ⟨r, hbefore⟩ := exists_ofClusters_iff.mpr hregistrable
    have hholds := (holds_of_ofClusters hbefore).1
    exact ⟨before, c, after, r, rfl, hbefore, hholds.addCluster_eq_error_iff.mpr hoffends⟩

end Registry

/-! ## Ids -/

/-- The characters of ids are ASCII, whatever they were made from. -/
theorem isAscii_idChar (c : Char) : Text.IsAscii (idChar c) := by
  unfold idChar
  split
  · rename_i h
    simp only [isIdChar, Text.isAsciiBlank, Bool.or_eq_true, beq_iff_eq] at h
    rcases h with (h | ((((rfl | rfl) | rfl) | rfl) | rfl)) | rfl
    · exact Text.isAscii_of_isAlphanum h
    all_goals decide
  · decide

theorem isAscii_of_mem_sanitize {name : String} {c : Char} (h : c ∈ (sanitize name).toList) :
    Text.IsAscii c := by
  rw [toList_sanitize] at h
  obtain ⟨c, -, rfl⟩ := List.mem_map.mp h
  exact isAscii_idChar c

/-- A character of an id stands for itself. -/
theorem idChar_idChar (c : Char) : idChar (idChar c) = idChar c := by
  by_cases h : isIdChar c = true
  · have hkept : idChar c = c := if_pos h
    rw [hkept, hkept]
  · have hreplaced : idChar c = '_' := if_neg h
    rw [hreplaced]
    rfl

/-- An id is its own id. -/
theorem sanitize_sanitize (name : String) : sanitize (sanitize name) = sanitize name := by
  rw [← String.toList_inj, toList_sanitize, toList_sanitize, List.map_map]
  exact List.map_congr_left fun c _ => idChar_idChar c

namespace Registry

/-- The ids listed are those of the clusters. -/
theorem Holds.perm_ids {r : Registry} {clusters : List Cluster} (h : r.Holds clusters) :
    r.ids.Perm (clusters.map idOf) := by
  have hkeys := List.Perm.map Prod.fst h
  rwa [List.map_map] at hkeys

/-- What a registry holds is found under its ids, and the ids are in order. -/
theorem Holds.registers {r : Registry} {clusters : List Cluster} (h : r.Holds clusters) :
    r.Registers clusters := by
  have hnamed : ∀ id ∈ r.ids, ∃ c ∈ clusters, idOf c = id := fun id hid =>
    List.mem_map.mp (h.perm_ids.mem_iff.mp hid)
  -- Among ASCII texts the order of characters is that of bytes.
  have hascii : ∀ id ∈ r.ids, ∀ c ∈ id.toList, Text.IsAscii c := by
    intro id hid
    obtain ⟨c, -, rfl⟩ := hnamed id hid
    exact fun _ => isAscii_of_mem_sanitize
  constructor
  case ids_perm => exact h.perm_ids
  case length_ids => rw [h.perm_ids.length_eq, List.length_map]
  case ids_lt =>
    have hsorted : r.ids.Pairwise (· < ·) := List.pairwise_map.mpr r.clusters.sorted
    refine hsorted.imp_of_mem fun ha hb hlt => ?_
    exact Text.flatMap_utf8EncodeChar_lt (hascii _ ha) (hascii _ hb) (String.lt_iff.mp hlt)
  case sanitize_id =>
    intro id hid
    obtain ⟨c, -, rfl⟩ := hnamed id hid
    exact sanitize_sanitize c.name
  case found =>
    intro c hc
    rw [get, h.get?_eq_some_iff.mpr ⟨hc, rfl⟩]
  case unknown =>
    intro id hother
    rw [get, h.get?_eq_none_iff.mpr hother]

end Registry

/-! ## Servers -/

/-- A text names a broker just when it is written as a server has to be. -/
theorem exists_isNamedBy_iff {server : String} :
    (∃ b : Broker, b.IsNamedBy server) ↔ IsServer server.toList := by
  constructor
  · rintro ⟨b, port, htext, hcolon, hhost, digits, hport, hdigits, hall, hvalue⟩
    refine ⟨b.host.toList, port, digits, htext, hhost, hcolon, hport, hdigits, hall, ?_⟩
    rw [hvalue]
    exact Nat.le_of_lt_succ b.port.toNat_lt
  · rintro ⟨host, port, digits, htext, hhost, hcolon, hport, hdigits, hall, hbound⟩
    refine ⟨⟨String.ofList host, UInt16.ofNat (Decimal.ofDigits digits)⟩, port, ?_⟩
    rw [String.toList_ofList]
    refine ⟨htext, hcolon, hhost, digits, hport, hdigits, hall, ?_⟩
    exact (UInt16.toNat_ofNat_of_lt' (Nat.lt_succ_of_le hbound)).symm

namespace Registry

/-- A list of servers makes a registry when each of them is one. -/
theorem exists_ofServers_iff {servers : List String} :
    (∃ r, ofServers servers = .ok r) ↔ ∀ s ∈ servers, IsServer (Text.trim s).toList :=
  exists_foldlM_iff.trans (forall₂_congr fun _ _ => exists_isNamedBy_iff)

/-- A text is refused just when it is no server, and it is shown without the blanks around it. -/
theorem addServer_eq_error_iff {r : Registry} {server : String} {e : RegistryError} :
    r.addServer server = .error e ↔
      ¬IsServer (Text.trim server).toList ∧ e = .invalidServer (Text.trim server) := by
  rw [← exists_isNamedBy_iff]
  constructor
  · intro h
    refine ⟨?_, ?_⟩
    · rintro ⟨b, hnamed⟩
      rw [addServer_eq_ok_iff.mpr ⟨b, hnamed, rfl⟩] at h
      cases h
    · unfold addServer at h
      dsimp only at h
      split at h
      · cases h
      · exact (Except.error.inj h).symm
  · rintro ⟨hnone, rfl⟩
    have hread : Broker.parse? (Text.trim server) = none := by
      rw [Option.eq_none_iff_forall_ne_some]
      intro b hb
      exact hnone ⟨b, Broker.parse?_eq_some_iff.mp hb⟩
    unfold addServer
    dsimp only
    rw [hread]

/-- Servers are refused for the first that is out of order. -/
theorem ofServers_eq_error_iff {servers : List String} {e : RegistryError} :
    ofServers servers = .error e ↔
      ∃ before s after, servers = before ++ s :: after ∧
        (∀ t ∈ before, IsServer (Text.trim t).toList) ∧ ¬IsServer (Text.trim s).toList ∧
        e = .invalidServer (Text.trim s) := by
  refine foldlM_eq_error_iff.trans ⟨?_, ?_⟩
  · rintro ⟨before, s, after, r, rfl, hbefore, hadd⟩
    exact ⟨before, s, after, rfl, exists_ofServers_iff.mp ⟨r, hbefore⟩,
      addServer_eq_error_iff.mp hadd⟩
  · rintro ⟨before, s, after, rfl, hall, hadd⟩
    obtain ⟨r, hbefore⟩ := exists_ofServers_iff.mpr hall
    exact ⟨before, s, after, r, rfl, hbefore, addServer_eq_error_iff.mpr hadd⟩

/-! ## Both ways to make a registry -/

/-- Named clusters make a registry exactly when each has a broker and no two have one id, and then it
holds them all; servers make one exactly when each is a host, a colon and a port. Otherwise the error
is that of the first that is out of order. -/
theorem made_iff_in_order (clusters : List Cluster) (servers : List String) :
    ((∃ r, ofClusters clusters = .ok r) ↔ Registrable clusters) ∧
      (∀ r, ofClusters clusters = .ok r → r.Registers clusters) ∧
      (∀ e, ofClusters clusters = .error e ↔
        ∃ before c after, clusters = before ++ c :: after ∧ Registrable before ∧
          Offends before c e) ∧
      ((∃ r, ofServers servers = .ok r) ↔ ∀ s ∈ servers, IsServer (Text.trim s).toList) ∧
      (∀ e, ofServers servers = .error e ↔
        ∃ before s after, servers = before ++ s :: after ∧
          (∀ t ∈ before, IsServer (Text.trim t).toList) ∧ ¬IsServer (Text.trim s).toList ∧
          e = .invalidServer (Text.trim s)) := by
  refine ⟨exists_ofClusters_iff, ?_, fun e => ofClusters_eq_error_iff, exists_ofServers_iff,
    fun e => ofServers_eq_error_iff⟩
  intro r h
  exact (holds_of_ofClusters h).1.registers

end Registry

end Courier.Cluster
