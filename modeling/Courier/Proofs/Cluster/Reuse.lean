import Courier.Cluster.Reuse
import Mathlib.Data.List.Induction

/-!
# Producers are made once

What a message does hangs on what is kept for its server, and what is kept hangs on the attempts so
far: nothing is kept for a server exactly when all attempts for it failed. This is so at the start and
after each message.
-/

namespace Courier.Cluster

open Courier.Batch

/-- In a configuration a property of the cluster goes before a default. -/
theorem get?_clientConfig (settings : ProducerSettings) (c : Cluster) (property : String) :
    (clientConfig settings c).get? property =
      (c.properties.get? property).or (default? settings c property) := by
  unfold clientConfig
  rw [Table.get?_foldl_insert]
  congr 1
  unfold default? Table.ofList
  rw [List.foldl_cons, List.foldl_cons, List.foldl_nil, Table.get?_insert, Table.get?_insert,
    Table.get?_empty]
  by_cases htimeout : property = "message.timeout.ms"
  · have hother : property ≠ "bootstrap.servers" := by
      rw [htimeout]
      decide
    rw [if_pos htimeout, if_neg hother, if_pos htimeout]
  · rw [if_neg htimeout, if_neg htimeout]

/-- Only unknown ids are not found. -/
theorem Registry.get_eq_unknownCluster {r : Registry} {id : String} (h : ∀ c, r.get id ≠ .ok c) :
    r.get id = .error (.unknownCluster id) := by
  unfold get at h ⊢
  cases hget : r.clusters.get? id with
  | none => rfl
  | some c =>
    rw [hget] at h
    exact absurd rfl (h c)

namespace Producers

variable {π : Type} {p q : Producers π} {d : Delivery} {c : Cluster} {made : π}

/-! ## One message -/

/-- A producer that is kept is used as it is. -/
theorem send_of_kept (h : q.made.get? d.server = some made) : q.send d = q.deliver made d := by
  unfold send producer
  rw [h]

/-- A message to a server that is not registered fails and changes nothing. -/
theorem send_of_unknown (hnew : q.made.get? d.server = none) {e : RegistryError}
    (h : q.registry.get d.server = .error e) :
    q.send d = { sink := q, result := .error ⟨e.message⟩ } := by
  unfold send producer
  rw [hnew, h]
  rfl

/-- A message for which no producer can be made fails, and leaves the attempt behind. -/
theorem send_of_refused (hnew : q.made.get? d.server = none) (hc : q.registry.get d.server = .ok c)
    {e : ClientError} (he : (q.attempt d.server c).result = .error e) :
    q.send d = { sink := q.tried (q.attempt d.server c)
                 result := .error ⟨"Kafka error: " ++ e.message⟩ } := by
  unfold send producer
  rw [hnew, hc]
  dsimp only
  rw [he]
  rfl

/-- A new producer is kept, and delivers the message that it was made for. -/
theorem send_of_made (hnew : q.made.get? d.server = none) (hc : q.registry.get d.server = .ok c)
    (hmade : (q.attempt d.server c).result = .ok made) :
    q.send d = ((q.tried (q.attempt d.server c)).keeping d.server made).deliver made d := by
  unfold send producer
  rw [hnew, hc]
  dsimp only
  rw [hmade]

/-- The ways to take a message. -/
inductive Takes (q : Producers π) (d : Delivery) : Receipt (Producers π) → Prop where
  | kept (made : π) (h : q.made.get? d.server = some made) : Takes q d (q.deliver made d)
  | unknown (e : RegistryError) (hnew : q.made.get? d.server = none)
    (h : q.registry.get d.server = .error e) :
    Takes q d { sink := q, result := .error ⟨e.message⟩ }
  | refused (c : Cluster) (e : ClientError) (hnew : q.made.get? d.server = none)
    (hc : q.registry.get d.server = .ok c) (he : (q.attempt d.server c).result = .error e) :
    Takes q d { sink := q.tried (q.attempt d.server c)
                result := .error ⟨"Kafka error: " ++ e.message⟩ }
  | made (c : Cluster) (made : π) (hnew : q.made.get? d.server = none)
    (hc : q.registry.get d.server = .ok c) (hmade : (q.attempt d.server c).result = .ok made) :
    Takes q d (((q.tried (q.attempt d.server c)).keeping d.server made).deliver made d)

/-- A message is dealt with in one of these ways. -/
theorem takes_send (q : Producers π) (d : Delivery) : Takes q d (q.send d) := by
  cases hmade : q.made.get? d.server with
  | some made =>
    rw [send_of_kept hmade]
    exact .kept made hmade
  | none =>
    cases hget : q.registry.get d.server with
    | error e =>
      rw [send_of_unknown hmade hget]
      exact .unknown e hmade hget
    | ok c =>
      cases hresult : (q.attempt d.server c).result with
      | error e =>
        rw [send_of_refused hmade hget hresult]
        exact .refused c e hmade hget hresult
      | ok made =>
        rw [send_of_made hmade hget hresult]
        exact .made c made hmade hget hresult

/-- What is kept stays. -/
theorem Takes.get?_eq {r : Receipt (Producers π)} (h : Takes q d r) {server : String}
    (hmade : q.made.get? server = some made) : r.sink.made.get? server = some made := by
  cases h with
  | kept | unknown | refused => exact hmade
  | made c made' hnew hc hresult =>
    show (q.made.insert d.server made').get? server = some made
    rw [Table.get?_insert, if_neg, hmade]
    rintro rfl
    rw [hnew] at hmade
    cases hmade

/-! ## What holds after each message -/

/-- What is kept comes from the attempts, and these were made for good reason. -/
structure Consistent (q : Producers π) : Prop where
  attempted : ∀ i a, q.attempts[i]? = some a → ∃ c, q.registry.get a.server = .ok c ∧
    a.config = clientConfig q.settings c ∧ a.result = q.transport.create i a.config
  once : q.attempts.Pairwise fun a b => a.server = b.server → ∃ e, a.result = .error e
  kept : ∀ server made, q.made.get? server = some made ↔
    ∃ a ∈ q.attempts, a.server = server ∧ a.result = .ok made

namespace Consistent

/-- Nothing is kept for a server just when all attempts for it failed. -/
theorem get?_eq_none_iff (h : q.Consistent) {server : String} : q.made.get? server = none ↔
    ∀ a ∈ q.attempts, a.server = server → ∃ e, a.result = .error e := by
  rw [Option.eq_none_iff_forall_ne_some]
  constructor
  · intro hnew a ha hserver
    cases hresult : a.result with
    | error e => exact ⟨e, rfl⟩
    | ok made => exact absurd ((h.kept _ _).mpr ⟨a, ha, hserver, hresult⟩) (hnew made)
  · intro hfailed made hmade
    obtain ⟨a, ha, hserver, hresult⟩ := (h.kept _ _).mp hmade
    obtain ⟨e, he⟩ := hfailed a ha hserver
    rw [hresult] at he
    cases he

/-- A further attempt is made as all those before it. -/
theorem attempted_tried (h : q.Consistent) (hc : q.registry.get d.server = .ok c) (i : Nat)
    (a : Attempt π) (ha : (q.tried (q.attempt d.server c)).attempts[i]? = some a) :
    ∃ c, q.registry.get a.server = .ok c ∧ a.config = clientConfig q.settings c ∧
      a.result = q.transport.create i a.config := by
  unfold tried at ha
  rcases Nat.lt_or_ge i q.attempts.length with hlt | hge
  · rw [List.getElem?_append_left hlt] at ha
    exact h.attempted i a ha
  · rw [List.getElem?_append_right hge, List.getElem?_singleton] at ha
    split at ha
    · rename_i hi
      have hlength : i = q.attempts.length := by omega
      cases ha
      exact ⟨c, hc, rfl, hlength ▸ rfl⟩
    · cases ha

/-- With no producer kept, all attempts for the server have failed so far. -/
theorem once_tried (h : q.Consistent) (hnew : q.made.get? d.server = none) :
    (q.tried (q.attempt d.server c)).attempts.Pairwise
      fun a b => a.server = b.server → ∃ e, a.result = .error e := by
  refine List.pairwise_append.mpr ⟨h.once, List.pairwise_singleton _ _, ?_⟩
  intro a ha b hb hserver
  rw [List.mem_singleton.mp hb] at hserver
  exact h.get?_eq_none_iff.mp hnew a ha hserver

/-- An attempt that failed leaves all as it should be. -/
theorem of_refused (h : q.Consistent) (hnew : q.made.get? d.server = none)
    (hc : q.registry.get d.server = .ok c) {e : ClientError}
    (he : (q.attempt d.server c).result = .error e) :
    (q.tried (q.attempt d.server c)).Consistent := by
  refine ⟨h.attempted_tried hc, h.once_tried hnew, ?_⟩
  intro server made
  refine (h.kept server made).trans ⟨?_, ?_⟩
  · rintro ⟨a, ha, hrest⟩
    exact ⟨a, List.mem_append_left _ ha, hrest⟩
  · rintro ⟨a, ha, hserver, hresult⟩
    rcases List.mem_append.mp ha with ha | ha
    · exact ⟨a, ha, hserver, hresult⟩
    · rw [List.mem_singleton.mp ha, he] at hresult
      cases hresult

/-- And so does one that did not. -/
theorem of_made (h : q.Consistent) (hnew : q.made.get? d.server = none)
    (hc : q.registry.get d.server = .ok c) (hmade : (q.attempt d.server c).result = .ok made) :
    ((q.tried (q.attempt d.server c)).keeping d.server made).Consistent := by
  refine ⟨h.attempted_tried hc, h.once_tried hnew, ?_⟩
  intro server made'
  show (q.made.insert d.server made).get? server = some made' ↔
    ∃ a ∈ q.attempts ++ [q.attempt d.server c], a.server = server ∧ a.result = .ok made'
  rw [Table.get?_insert]
  constructor
  · intro hget
    split at hget
    · rename_i hserver
      cases hget
      exact ⟨_, List.mem_append_right _ List.mem_cons_self, hserver.symm, hmade⟩
    · obtain ⟨a, ha, hrest⟩ := (h.kept server made').mp hget
      exact ⟨a, List.mem_append_left _ ha, hrest⟩
  · rintro ⟨a, ha, hserver, hresult⟩
    rcases List.mem_append.mp ha with ha | ha
    · -- Nothing was kept for the server of the message, so this attempt was for another one.
      have hget := (h.kept server made').mpr ⟨a, ha, hserver, hresult⟩
      rw [if_neg, hget]
      rintro rfl
      rw [hnew] at hget
      cases hget
    · cases List.mem_singleton.mp ha
      rw [hmade] at hresult
      cases hresult
      exact if_pos hserver.symm

/-- Whatever becomes of a message, what is kept still comes from the attempts. -/
theorem of_takes (h : q.Consistent) {r : Receipt (Producers π)} (hr : Takes q d r) :
    r.sink.Consistent := by
  cases hr with
  | kept => exact ⟨h.attempted, h.once, h.kept⟩
  | unknown => exact h
  | refused c e hnew hc he => exact h.of_refused hnew hc he
  | made c made hnew hc hmade =>
    obtain ⟨hattempted, honce, hkept⟩ := h.of_made hnew hc hmade
    exact ⟨hattempted, honce, hkept⟩

end Consistent

/-- Before the first message nothing is kept and nothing was attempted. -/
theorem consistent_start (registry : Registry) (settings : ProducerSettings)
    (transport : Transport π) : (start registry settings transport).Consistent := by
  refine ⟨?_, .nil, ?_⟩
  · intro i a ha
    cases ha
  · intro server made
    simp [start]

/-! ## Many messages -/

/-- The parts that no message touches. -/
structure SameOrigin (q q' : Producers π) : Prop where
  registry : q'.registry = q.registry
  settings : q'.settings = q.settings
  transport : q'.transport = q.transport

/-- A message changes neither the registry nor the settings nor the transport. -/
theorem Takes.sameOrigin {r : Receipt (Producers π)} (h : Takes q d r) : SameOrigin q r.sink := by
  cases h <;> exact ⟨rfl, rfl, rfl⟩

variable {ds : List Delivery}

/-- Messages are sent one after the other. -/
theorem after_append (p : Producers π) (ds later : List Delivery) :
    p.after (ds ++ later) = (p.after ds).after later :=
  List.foldl_append

/-- What the transport is asked to deliver, and with which producer. -/
theorem SameOrigin.deliver_eq (h : SameOrigin p q) (made : π) (d : Delivery) :
    q.deliver made d =
      { sink := { q with asked := q.asked + 1 }
        result := (p.transport.deliver q.asked made p.settings.deliveryTimeoutSecs d).mapError
          fun e => ⟨e.message⟩ } := by
  rw [deliver, h.transport, h.settings]

/-- No number of messages changes the registry, the settings or the transport. -/
theorem sameOrigin_after (q : Producers π) (ds : List Delivery) : SameOrigin q (q.after ds) := by
  induction ds generalizing q with
  | nil => exact ⟨rfl, rfl, rfl⟩
  | cons d ds ih =>
    obtain ⟨hregistry, hsettings, htransport⟩ := (takes_send q d).sameOrigin
    obtain ⟨hregistry', hsettings', htransport'⟩ := ih (q.send d).sink
    exact ⟨hregistry'.trans hregistry, hsettings'.trans hsettings, htransport'.trans htransport⟩

/-- What is kept comes from the attempts after any number of messages. -/
theorem Consistent.after (h : q.Consistent) (ds : List Delivery) : (q.after ds).Consistent := by
  induction ds generalizing q with
  | nil => exact h
  | cons d ds ih => exact ih (h.of_takes (takes_send q d))

/-- A producer that is kept stays the one that is kept. -/
theorem get?_after (hmade : q.made.get? d.server = some made) (ds : List Delivery) :
    (q.after ds).made.get? d.server = some made := by
  induction ds generalizing q with
  | nil => exact hmade
  | cons d' ds ih => exact ih ((takes_send q d').get?_eq hmade)

/-- Whatever the messages and however attempts end: for each registered server at most one producer
is ever made, with the configuration of its cluster, and all later messages go to it; a message that
gets no producer reports why and changes nothing of what is kept. -/
theorem makesOnce_after_start (registry : Registry) (settings : ProducerSettings)
    (transport : Transport π) (ds : List Delivery) :
    (start registry settings transport).MakesOnce ds := by
  have hstart := consistent_start registry settings transport
  generalize start registry settings transport = p at hstart ⊢
  have h := hstart.after ds
  obtain ⟨hregistry, hsettings, htransport⟩ := sameOrigin_after p ds
  constructor
  case attempted =>
    rw [← hregistry, ← hsettings, ← htransport]
    exact h.attempted
  case configured => exact get?_clientConfig p.settings
  case once => exact h.once
  case kept =>
    intro server made
    rw [← Table.get?_eq_some_iff]
    exact h.kept server made
  case reused =>
    rintro server made hmade later d rfl
    -- No later message replaces what is kept.
    have hlater : (p.after (ds ++ later)).made.get? d.server = some made := by
      rw [after_append]
      exact get?_after (Table.get?_eq_some_iff.mpr hmade) later
    exact (send_of_kept hlater).trans ((sameOrigin_after p (ds ++ later)).deliver_eq made d)
  case unknown =>
    intro d hunknown
    rw [← hregistry] at hunknown
    -- A producer that is kept came from an attempt, and those are only made for registered servers.
    have hnew : (p.after ds).made.get? d.server = none := by
      rw [h.get?_eq_none_iff]
      intro a ha hserver
      obtain ⟨i, hi⟩ := List.mem_iff_getElem?.mp ha
      obtain ⟨c, hc, -⟩ := h.attempted i a hi
      exact absurd (hserver ▸ hc) (hunknown c)
    exact send_of_unknown hnew (Registry.get_eq_unknownCluster hunknown)
  case first =>
    intro d c hc hfailed
    rw [← hregistry] at hc
    have hnew := h.get?_eq_none_iff.mpr hfailed
    refine ⟨(p.after ds).attempt d.server c, rfl, ?_, ?_, ?_, ?_⟩
    · rw [← hsettings]
      rfl
    · rw [← htransport]
      rfl
    · intro e he
      exact send_of_refused hnew hc he
    · intro made hmade
      have hkept : SameOrigin p
          (((p.after ds).tried ((p.after ds).attempt d.server c)).keeping d.server made) :=
        ⟨hregistry, hsettings, htransport⟩
      exact (send_of_made hnew hc hmade).trans (hkept.deliver_eq made d)

/-- Of two servers the first gets no producer at first. Then there is one for each, and all later
messages go to the one of their own server. -/
example :
    let cluster (name : String) : Cluster := ⟨name, [⟨name, 9092⟩], .empty⟩
    let registry : Registry := ⟨.ofList [("east", cluster "east"), ("west", cluster "west")]⟩
    -- A producer is known by the number of the attempt that made it, and tells it in what it answers.
    let transport : Transport Nat :=
      { create := fun n _ => if n = 0 then .error ⟨"no socket"⟩ else .ok n
        deliver := fun _ made _ _ => .error ⟨"asked " ++ String.ofList (Decimal.digits made)⟩
        administer := fun _ => .error ⟨"no socket"⟩ }
    let message (server : String) : Delivery := ⟨server, "topic", ⟨none, none, []⟩⟩
    let p (ds : List Delivery) := (start registry {} transport).after ds
    let answer (ds : List Delivery) (d : Delivery) : Except String Unit :=
      ((p ds).send d).result.mapError (·.reason)
    answer [] (message "east") = .error "Kafka error: no socket" ∧
      (p [message "east", message "west", message "east"]).made.entries = [("east", 2), ("west", 1)] ∧
      answer [message "east", message "west", message "east"] (message "east") =
        .error "asked 2" ∧
      answer [message "east", message "west", message "east"] (message "west") =
        .error "asked 1" := by
  decide +kernel

end Producers

end Courier.Cluster
