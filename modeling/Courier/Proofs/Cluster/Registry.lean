import Courier.Proofs.Cluster.Server

/-!
# Registries of servers

A registry of servers leads from an id to the last server with that id. So no server is lost exactly
when servers with one id name one broker, and ids match the addresses that are shown exactly when
the servers that are kept write their ports without a plus sign and without needless zeros.
-/

namespace Courier.Cluster

/-! ## The last server with an id -/

namespace IsLast

variable {servers : List String} {id server : String}

/-- The last server with an id is one of the list. -/
theorem mem (h : IsLast servers id server) : server ∈ servers := by
  obtain ⟨before, after, rfl, -, -⟩ := h
  simp

/-- The last server with an id has it. -/
theorem serverId_eq (h : IsLast servers id server) : serverId server = id := by
  obtain ⟨before, after, -, hid, -⟩ := h
  exact hid

/-- A server in front of the others does not change which one is last. -/
theorem cons (h : IsLast servers id server) (s : String) : IsLast (s :: servers) id server := by
  obtain ⟨before, after, rfl, hid, hafter⟩ := h
  exact ⟨s :: before, after, rfl, hid, hafter⟩

/-- Only one server is the last with an id. -/
theorem unique {server' : String} (h : IsLast servers id server) (h' : IsLast servers id server') :
    server = server' := by
  obtain ⟨before, after, rfl, hid, hafter⟩ := h
  obtain ⟨before', after', heq, hid', hafter'⟩ := h'
  -- One of the two would otherwise stand behind the other.
  rcases List.append_eq_append_iff.mp heq with ⟨between, -, hsplit⟩ | ⟨between, -, hsplit⟩
  · cases between with
    | nil => exact (List.cons.inj hsplit).1
    | cons s between =>
      rw [List.cons_append, List.cons.injEq] at hsplit
      exact absurd hid' (hafter server' (by rw [hsplit.2]; simp))
  · cases between with
    | nil => exact (List.cons.inj hsplit).1.symm
    | cons s between =>
      rw [List.cons_append, List.cons.injEq] at hsplit
      exact absurd hid (hafter' server (by rw [hsplit.2]; simp))

end IsLast

/-! ## What is registered -/

namespace Registry

/-- The cluster of a server that names this broker. -/
def clusterAt (id : String) (b : Broker) : Cluster :=
  ⟨id, [b], .empty⟩

/-- A server is added when it names a broker, in the place of any cluster that had the id before. -/
theorem addServer_eq_ok_iff {r r' : Registry} {server : String} :
    r.addServer server = .ok r' ↔ ∃ b : Broker, b.IsNamedBy (Text.trim server) ∧
      r' = ⟨r.clusters.insert (serverId server) (clusterAt (serverId server) b)⟩ := by
  unfold addServer
  dsimp only
  cases hread : Broker.parse? (Text.trim server) with
  | none =>
    constructor
    · intro h
      cases h
    · rintro ⟨b, hnamed, -⟩
      rw [Broker.parse?_eq_some_iff.mpr hnamed] at hread
      cases hread
  | some b =>
    have hnamed := Broker.parse?_eq_some_iff.mp hread
    constructor
    · intro h
      cases h
      exact ⟨b, hnamed, rfl⟩
    · rintro ⟨b', hnamed', rfl⟩
      rw [hnamed'.unique hnamed]
      rfl

/-- Each server takes the place of earlier ones with its id and leaves all other ids alone. -/
theorem get?_of_foldlM {servers : List String} {r₀ r : Registry}
    (h : servers.foldlM addServer r₀ = .ok r) (id : String) :
    (∃ (s : String) (b : Broker), IsLast servers id s ∧ b.IsNamedBy (Text.trim s) ∧
        r.clusters.get? id = some (clusterAt id b)) ∨
      (∀ s ∈ servers, serverId s ≠ id) ∧ r.clusters.get? id = r₀.clusters.get? id := by
  induction servers generalizing r₀ with
  | nil =>
    cases h
    exact Or.inr ⟨by simp, rfl⟩
  | cons s servers ih =>
    rw [List.foldlM_cons] at h
    cases hadd : r₀.addServer s with
    | error e =>
      rw [hadd] at h
      cases h
    | ok r₁ =>
      rw [hadd] at h
      obtain ⟨b, hnamed, rfl⟩ := addServer_eq_ok_iff.mp hadd
      rcases ih h with ⟨last, b', hlast, hrest⟩ | ⟨hnone, hget⟩
      · exact Or.inl ⟨last, b', hlast.cons s, hrest⟩
      · rw [Table.get?_insert] at hget
        -- No later server has this id, so that this one is the last if it has it.
        by_cases hid : id = serverId s
        · subst hid
          rw [if_pos rfl] at hget
          exact Or.inl ⟨s, b, ⟨[], servers, rfl, rfl, hnone⟩, hnamed, hget⟩
        · rw [if_neg hid] at hget
          exact Or.inr ⟨List.forall_mem_cons.mpr ⟨Ne.symm hid, hnone⟩, hget⟩

/-- Servers make a registry just when each of them names a broker. -/
theorem exists_foldlM_iff {servers : List String} {r₀ : Registry} :
    (∃ r, servers.foldlM addServer r₀ = .ok r) ↔
      ∀ s ∈ servers, ∃ b : Broker, b.IsNamedBy (Text.trim s) := by
  induction servers generalizing r₀ with
  | nil => exact ⟨fun _ => by simp, fun _ => ⟨r₀, rfl⟩⟩
  | cons s servers ih =>
    rw [List.foldlM_cons, List.forall_mem_cons]
    constructor
    · rintro ⟨r, h⟩
      cases hadd : r₀.addServer s with
      | error e =>
        rw [hadd] at h
        cases h
      | ok r₁ =>
        rw [hadd] at h
        obtain ⟨b, hnamed, -⟩ := addServer_eq_ok_iff.mp hadd
        exact ⟨⟨b, hnamed⟩, ih.mp ⟨r, h⟩⟩
    · rintro ⟨⟨b, hnamed⟩, hrest⟩
      rw [addServer_eq_ok_iff.mpr ⟨b, hnamed, rfl⟩]
      exact ih.mpr hrest

variable {servers : List String} {r : Registry} (h : ofServers servers = .ok r)

include h

/-- What a registry of servers holds: under each id the last server that has it. -/
theorem get?_ofServers {id : String} {c : Cluster} :
    r.clusters.get? id = some c ↔ ∃ (s : String) (b : Broker), IsLast servers id s ∧
      b.IsNamedBy (Text.trim s) ∧ c = clusterAt id b := by
  constructor
  · intro hget
    rcases get?_of_foldlM h id with ⟨s, b, hlast, hnamed, hfound⟩ | ⟨-, hnone⟩
    · rw [hfound] at hget
      cases hget
      exact ⟨s, b, hlast, hnamed, rfl⟩
    · rw [hget] at hnone
      cases hnone
  · rintro ⟨s, b, hlast, hnamed, rfl⟩
    rcases get?_of_foldlM h id with ⟨s', b', hlast', hnamed', hfound⟩ | ⟨hnone, -⟩
    · cases hlast.unique hlast'
      rw [hfound, hnamed.unique hnamed']
    · exact absurd hlast.serverId_eq (hnone s hlast.mem)

/-- What is registered under an id is the cluster of the last server that has it. -/
theorem get_ofServers {id : String} {c : Cluster} :
    r.get id = .ok c ↔ ∃ (s : String) (b : Broker), IsLast servers id s ∧
      b.IsNamedBy (Text.trim s) ∧ c = clusterAt id b := by
  rw [← get?_ofServers h, get]
  cases r.clusters.get? id <;> simp

/-- Every id that a server has is registered. -/
theorem exists_last_of_mem {server : String} (hmem : server ∈ servers) :
    ∃ (s : String) (b : Broker), IsLast servers (serverId server) s ∧ b.IsNamedBy (Text.trim s) := by
  rcases get?_of_foldlM h (serverId server) with ⟨s, b, hlast, hnamed, -⟩ | ⟨hnone, -⟩
  · exact ⟨s, b, hlast, hnamed⟩
  · exact absurd rfl (hnone server hmem)

/-- A server is reached just when it names the broker that the last server with its id names. -/
theorem reaches_iff {server last : String} {b : Broker} (hlast : IsLast servers (serverId server) last)
    (hnamed : b.IsNamedBy (Text.trim last)) :
    r.Reaches server ↔ b.IsNamedBy (Text.trim server) := by
  have hget : r.get (serverId server) = .ok (clusterAt (serverId server) b) :=
    (get_ofServers h).mpr ⟨last, b, hlast, hnamed, rfl⟩
  constructor
  · rintro ⟨b', c, hnamed', hc, haddress⟩
    rw [hget, Except.ok.injEq] at hc
    rw [← hc] at haddress
    have hsame : b = b' := hnamed.eq_of_address hnamed' haddress
    rwa [hsame]
  · intro hserver
    exact ⟨b, _, hserver, hget, bootstrapServers_singleton _ _ _⟩

/-! ## Servers that are lost -/

/-- An id leads to the last server that has it, so that a server is lost when a later one with its
id names another broker. None is lost exactly when servers with one id name one broker. -/
theorem all_reached_iff_of_ofServers :
    (∀ s ∈ servers, ∃ (last : String) (b : Broker), IsLast servers (serverId s) last ∧
        b.IsNamedBy (Text.trim last) ∧
        r.get (serverId s) = .ok ⟨serverId s, [b], .empty⟩ ∧
        (r.Reaches s ↔ b.IsNamedBy (Text.trim s))) ∧
      ((∀ s ∈ servers, r.Reaches s) ↔
        ∀ s ∈ servers, ∀ t ∈ servers, ∀ b b' : Broker, b.IsNamedBy (Text.trim s) →
          b'.IsNamedBy (Text.trim t) → serverId s = serverId t → b = b') := by
  constructor
  · intro s hs
    obtain ⟨last, b, hlast, hnamed⟩ := exists_last_of_mem h hs
    exact ⟨last, b, hlast, hnamed, (get_ofServers h).mpr ⟨last, b, hlast, hnamed, rfl⟩,
      reaches_iff h hlast hnamed⟩
  · constructor
    · intro hall s hs t ht b b' hb hb' hid
      -- Both lead to the last server with their id.
      obtain ⟨last, b₀, hlast, hnamed⟩ := exists_last_of_mem h hs
      have hs₀ := (reaches_iff h hlast hnamed).mp (hall s hs)
      have ht₀ := (reaches_iff h (hid ▸ hlast) hnamed).mp (hall t ht)
      rw [hb.unique hs₀, hb'.unique ht₀]
    · intro hone s hs
      obtain ⟨last, b, hlast, hnamed⟩ := exists_last_of_mem h hs
      obtain ⟨b', hs'⟩ := exists_foldlM_iff.mp ⟨r, h⟩ s hs
      rw [reaches_iff h hlast hnamed]
      have hsame : b = b' := hone last hlast.mem s hs b b' hnamed hs' hlast.serverId_eq
      rwa [hsame]

omit h in
/-- One broker written in three ways, two of them with one id: nothing is lost. -/
theorem all_reached_of_one_broker :
    ∃ r, ofServers ["kafka:9092", "kafka:+9092", " kafka:9092 "] = .ok r ∧
      ∀ s ∈ ["kafka:9092", "kafka:+9092", " kafka:9092 "], r.Reaches s := by
  have named : ∀ s ∈ ["kafka:9092", "kafka:+9092", " kafka:9092 "],
      (⟨"kafka", 9092⟩ : Broker).IsNamedBy (Text.trim s) := by
    simp only [← Broker.parse?_eq_some_iff]
    decide +kernel
  obtain ⟨r, made⟩ := exists_foldlM_iff.mpr fun s hs => ⟨_, named s hs⟩
  refine ⟨r, made, (all_reached_iff_of_ofServers made).2.mpr ?_⟩
  intro s hs t ht b b' hb hb' _
  rw [hb.unique (named s hs), hb'.unique (named t ht)]

omit h in
/-- Two brokers with one id: the registry has forgotten the first. -/
theorem not_reached_of_collision :
    ∃ r, ofServers ["a.b:1", "a-b:1"] = .ok r ∧
      serverId "a.b:1" = serverId "a-b:1" ∧
      (⟨"a.b", 1⟩ : Broker).IsNamedBy (Text.trim "a.b:1") ∧
      (⟨"a-b", 1⟩ : Broker).IsNamedBy (Text.trim "a-b:1") ∧
      r.bootstrapServers (serverId "a.b:1") = .ok "a-b:1" ∧ ¬r.Reaches "a.b:1" := by
  have same : serverId "a.b:1" = serverId "a-b:1" := by decide +kernel
  have first : (⟨"a.b", 1⟩ : Broker).IsNamedBy (Text.trim "a.b:1") :=
    Broker.parse?_eq_some_iff.mp (by decide +kernel)
  have second : (⟨"a-b", 1⟩ : Broker).IsNamedBy (Text.trim "a-b:1") :=
    Broker.parse?_eq_some_iff.mp (by decide +kernel)
  have last : IsLast ["a.b:1", "a-b:1"] (serverId "a.b:1") "a-b:1" :=
    ⟨["a.b:1"], [], rfl, same.symm, by simp⟩
  obtain ⟨r, made⟩ := exists_foldlM_iff.mpr
    (List.forall_mem_cons.mpr ⟨⟨_, first⟩, List.forall_mem_singleton.mpr ⟨_, second⟩⟩)
  refine ⟨r, made, same, first, second, ?_, ?_⟩
  · rw [bootstrapServers, (get_ofServers made).mpr ⟨_, _, last, second, rfl⟩]
    decide +kernel
  · rw [reaches_iff made last second]
    intro hsame
    exact absurd (hsame.unique first) (by decide)

/-! ## Ids of the addresses that are shown -/

/-- The id of a cluster is that of its address exactly when the server it came from is plain; so all
ids match exactly when the last server with each id is plain. -/
theorem ids_match_iff_of_ofServers :
    (∀ id c, (id, c) ∈ r.clusters.entries → ∃ s, IsLast servers id s ∧
        (sanitize c.bootstrapServers = id ↔ IsPlain (Text.trim s))) ∧
      ((∀ id c, (id, c) ∈ r.clusters.entries → sanitize c.bootstrapServers = id) ↔
        ∀ id s, IsLast servers id s → IsPlain (Text.trim s)) := by
  have match_iff : ∀ {id s} {b : Broker}, IsLast servers id s → b.IsNamedBy (Text.trim s) →
      (sanitize (clusterAt id b).bootstrapServers = id ↔ IsPlain (Text.trim s)) := by
    intro id s b hlast hnamed
    rw [← sanitize_address_iff hnamed, ← hlast.serverId_eq]
    exact Iff.rfl
  constructor
  · intro id c hentry
    obtain ⟨s, b, hlast, hnamed, rfl⟩ := (get?_ofServers h).mp (Table.get?_eq_some_iff.mpr hentry)
    exact ⟨s, hlast, match_iff hlast hnamed⟩
  · constructor
    · intro hall id s hlast
      obtain ⟨b, hnamed⟩ := exists_foldlM_iff.mp ⟨r, h⟩ s hlast.mem
      have hget := (get?_ofServers h).mpr ⟨s, b, hlast, hnamed, rfl⟩
      exact (match_iff hlast hnamed).mp (hall id _ (Table.get?_eq_some_iff.mp hget))
    · intro hplain id c hentry
      obtain ⟨s, b, hlast, hnamed, rfl⟩ := (get?_ofServers h).mp (Table.get?_eq_some_iff.mpr hentry)
      exact (match_iff hlast hnamed).mpr (hplain id s hlast)

omit h in
/-- A server with a plus sign does not matter when a later one takes its place. -/
theorem ids_match_of_replaced :
    ∃ r, ofServers ["127.0.0.1:9092", "kafka:+29092", "kafka_:29092"] = .ok r ∧
      ∀ id c, (id, c) ∈ r.clusters.entries → sanitize c.bootstrapServers = id := by
  have first : (⟨"127.0.0.1", 9092⟩ : Broker).IsNamedBy (Text.trim "127.0.0.1:9092") :=
    Broker.parse?_eq_some_iff.mp (by decide +kernel)
  have second : (⟨"kafka", 29092⟩ : Broker).IsNamedBy (Text.trim "kafka:+29092") :=
    Broker.parse?_eq_some_iff.mp (by decide +kernel)
  have third : (⟨"kafka_", 29092⟩ : Broker).IsNamedBy (Text.trim "kafka_:29092") :=
    Broker.parse?_eq_some_iff.mp (by decide +kernel)
  have same : serverId "kafka_:29092" = serverId "kafka:+29092" := by decide +kernel
  obtain ⟨r, made⟩ := exists_foldlM_iff.mpr
    (List.forall_mem_cons.mpr ⟨⟨_, first⟩, List.forall_mem_cons.mpr ⟨⟨_, second⟩,
      List.forall_mem_singleton.mpr ⟨_, third⟩⟩⟩)
  refine ⟨r, made, (ids_match_iff_of_ofServers made).2.mpr ?_⟩
  intro id s hlast
  have hmem := hlast.mem
  simp only [List.mem_cons, List.not_mem_nil, or_false] at hmem
  rcases hmem with rfl | rfl | rfl
  · exact (sanitize_address_iff first).mp (by decide +kernel)
  · have last : IsLast ["127.0.0.1:9092", "kafka:+29092", "kafka_:29092"] id "kafka_:29092" :=
      ⟨["127.0.0.1:9092", "kafka:+29092"], [], rfl, same.trans hlast.serverId_eq, by simp⟩
    exact absurd (hlast.unique last) (by decide)
  · exact (sanitize_address_iff third).mp (by decide +kernel)

omit h in
/-- A zero in front of the port stands in the id and not in the address. -/
theorem id_mismatch_of_leading_zero :
    ∃ r c, ofServers ["kafka:09092"] = .ok r ∧ ("kafka_09092", c) ∈ r.clusters.entries ∧
      c.bootstrapServers = "kafka:9092" ∧ sanitize c.bootstrapServers ≠ "kafka_09092" := by
  have named : (⟨"kafka", 9092⟩ : Broker).IsNamedBy (Text.trim "kafka:09092") :=
    Broker.parse?_eq_some_iff.mp (by decide +kernel)
  have last : IsLast ["kafka:09092"] "kafka_09092" "kafka:09092" :=
    ⟨[], [], rfl, by decide +kernel, by simp⟩
  obtain ⟨r, made⟩ := exists_foldlM_iff.mpr (List.forall_mem_singleton.mpr ⟨_, named⟩)
  have hget := (get?_ofServers made).mpr ⟨_, _, last, named, rfl⟩
  exact ⟨r, _, made, Table.get?_eq_some_iff.mp hget, by decide +kernel, by decide +kernel⟩

end Registry

end Courier.Cluster
