import Courier.Json.Record
import Courier.Proofs.Json.RoundTrip
import Courier.Record.Decode
import Courier.Record.Encode

/-!
# Records written as JSON are decoded again

The JSON form of a record names each of its fields once, so that decoding it finds them all and
gives the record back; a missing text is null, which is not the same as an empty one. There are many
other texts of the same record: fields with a default may be left out, unknown ones added, and the
values may stand in an array. `RoundTrips` says that all of them are rewritten as the one text that
the record has of its own.
-/

namespace Courier.Record

open Json (Plain)

/-! ## Forms -/

/-- An array is plain when all its items are. -/
theorem plain_array_map {α : Type} {encode : α → Json} (each : ∀ a, Plain (encode a))
    (as : List α) : Plain (.array (as.map encode)) := by
  refine .array ?_
  intro v hv
  obtain ⟨a, -, rfl⟩ := List.mem_map.mp hv
  exact each a

theorem plain_jsonOfNat (n : Nat) : Plain (jsonOfNat n) :=
  .natural n

theorem plain_jsonOfOption (text : Option String) : Plain (jsonOfOption text) := by
  cases text with
  | none => exact .null
  | some text => exact .string text

theorem plain_jsonOfHeader (h : Template.Header) : Plain (jsonOfHeader h) := by
  refine .object ?_
  intro m hm
  simp only [List.mem_cons, List.not_mem_nil, or_false] at hm
  rcases hm with rfl | rfl
  all_goals exact .string _

theorem plain_jsonOfTemplate (t : Template.MessageTemplate) : Plain (jsonOfTemplate t) := by
  refine .object ?_
  intro m hm
  simp only [List.mem_cons, List.not_mem_nil, or_false] at hm
  rcases hm with rfl | rfl | rfl
  · exact plain_jsonOfOption t.key
  · exact plain_jsonOfOption t.value
  · exact plain_array_map plain_jsonOfHeader t.headers

/-- A message has the form of the template that it is. -/
theorem jsonOfMessage_eq (m : Template.Message) : jsonOfMessage m = jsonOfTemplate m.toTemplate :=
  rfl

theorem plain_jsonOfMessage (m : Template.Message) : Plain (jsonOfMessage m) := by
  rw [jsonOfMessage_eq]
  exact plain_jsonOfTemplate m.toTemplate

theorem plain_jsonOfBroker (b : Broker) : Plain (jsonOfBroker b) := by
  refine .object ?_
  intro m hm
  simp only [List.mem_cons, List.not_mem_nil, or_false] at hm
  rcases hm with rfl | rfl
  · exact .string b.host
  · exact plain_jsonOfNat b.port.toNat

/-- The form of a table of texts. -/
def jsonOfTexts (t : Table String) : Json :=
  jsonOfFields (t.entries.map fun (k, v) => (k, .string v))

theorem plain_jsonOfTexts (t : Table String) : Plain (jsonOfTexts t) := by
  refine .object ?_
  intro m hm
  obtain ⟨e, -, rfl⟩ := List.mem_map.mp hm
  exact .string e.2

theorem plain_jsonOfCluster (c : Cluster) : Plain (jsonOfCluster c) := by
  refine .object ?_
  intro m hm
  simp only [List.mem_cons, List.not_mem_nil, or_false] at hm
  rcases hm with rfl | rfl | rfl
  · exact .string c.name
  · exact plain_array_map plain_jsonOfBroker c.brokers
  · exact plain_jsonOfTexts c.properties

theorem plain_jsonOfProducerSettings (s : ProducerSettings) : Plain (jsonOfProducerSettings s) := by
  refine .object ?_
  intro m hm
  simp only [List.mem_cons, List.not_mem_nil, or_false] at hm
  rcases hm with rfl | rfl
  all_goals exact plain_jsonOfNat _

/-! ## Decoding -/

/-- A missing text is told from an empty one. -/
theorem optionalText_jsonOfOption (text : Option String) :
    optionalText (jsonOfOption text) = some text := by
  cases text with
  | none => rfl
  | some text => rfl

/-- A number within the bound is read back. -/
theorem bounded_jsonOfNat {bound n : Nat} (h : n ≤ bound) : bounded bound (jsonOfNat n) = some n := by
  have hnatural : Json.natural? (jsonOfNat n) = some n := by
    rw [jsonOfNat, Json.natural?, String.toList_ofList, Decimal.read?_digits]
  show (Json.natural? (jsonOfNat n)).bind (fun n => if n ≤ bound then some n else none) = some n
  rw [hnatural, Option.bind_some, if_pos h]

/-- Every number of 64 bits is read back. -/
theorem word64_jsonOfNat (n : UInt64) : word64 (jsonOfNat n.toNat) = some n := by
  have hbound : n.toNat ≤ UInt64.size - 1 := Nat.le_sub_one_of_lt n.toNat_lt_size
  have hword : word64 (jsonOfNat n.toNat) = (do
      return UInt64.ofNat (← bounded (UInt64.size - 1) (jsonOfNat n.toNat))) := rfl
  rw [hword, bounded_jsonOfNat hbound]
  show some (UInt64.ofNat n.toNat) = some n
  rw [UInt64.ofNat_toNat]

/-- What is decoded one by one is decoded in a row. -/
theorem mapM_map {α β : Type} {encode : α → β} {decode : β → Option α}
    (each : ∀ a, decode (encode a) = some a) (as : List α) :
    (as.map encode).mapM decode = some as := by
  induction as with
  | nil => rfl
  | cons a as ih =>
    rw [List.map_cons, List.mapM_cons, each, ih]
    rfl

/-- A list is read back when its elements are. -/
theorem list_map {α : Type} {encode : α → Json} {decode : Json → Option α}
    (each : ∀ a, decode (encode a) = some a) (as : List α) :
    list decode (Json.array (as.map encode)) = some as :=
  mapM_map each as

/-- The fields of a record are read back with their names. -/
theorem entries?_jsonOfFields (fields : List (String × Json)) :
    Json.entries? (jsonOfFields fields) = some fields := by
  let write (field : String × Json) : Option String × Json := (some field.1, field.2)
  let read (member : Option String × Json) : Option (String × Json) :=
    member.1.map (·, member.2)
  have each : ∀ field, read (write field) = some field := fun _ => rfl
  exact mapM_map each fields

/-- Headers are read back. -/
theorem header_jsonOfHeader (h : Template.Header) : header (jsonOfHeader h) = some h := by
  rfl

/-- A message is decoded from its JSON form. -/
theorem message_jsonOfMessage (m : Template.Message) : message (jsonOfMessage m) = some m := by
  have hfields : message (jsonOfMessage m) = (do
      let key ← optionalText (jsonOfOption m.key)
      let value ← optionalText (jsonOfOption m.value)
      let headers ← list header (Json.array (m.headers.map jsonOfHeader))
      return ⟨key, value, headers⟩) := rfl
  rw [hfields, optionalText_jsonOfOption, optionalText_jsonOfOption, list_map header_jsonOfHeader]
  rfl

section

variable {β : Type}

/-- A default is not used where the field is there. -/
theorem orDefault_of_required {s : Slot Json} {decode : Json → Option β} {b : β}
    (h : s.required decode = some b) (default : β) : s.orDefault default decode = some b := by
  cases s with
  | absent => cases h
  | cut => cases h
  | present v => exact h

/-- An optional field that may be missing is read the same with the default for one. -/
theorem orDefault_of_optional {s : Slot Json} {decode : Json → Option (Option β)} {b : Option β}
    (h : s.optional decode = some b) : s.orDefault none decode = some b := by
  cases s with
  | absent => exact h
  | cut => cases h
  | present v => exact h

end

/-- Whatever can be decoded as a message can be decoded as a template, which asks for less, and both
are the same then. -/
theorem template_of_message {v : Json} {m : Template.Message} (h : message v = some m) :
    template v = some m.toTemplate := by
  obtain ⟨field, hslots, h⟩ := Option.bind_eq_some_iff.mp h
  obtain ⟨key, hkey, h⟩ := Option.bind_eq_some_iff.mp h
  obtain ⟨value, hvalue, h⟩ := Option.bind_eq_some_iff.mp h
  obtain ⟨headers, hheaders, h⟩ := Option.bind_eq_some_iff.mp h
  cases h
  have hfields : template v = (DataTree.slots ["key", "value", "headers"] v).bind fun field =>
      ((field "key").orDefault none optionalText).bind fun key =>
        ((field "value").orDefault none optionalText).bind fun value =>
          ((field "headers").orDefault [] (list header)).bind fun headers =>
            some ⟨key, value, headers⟩ := rfl
  rw [hfields, hslots, Option.bind_some, orDefault_of_optional hkey, Option.bind_some,
    orDefault_of_optional hvalue, Option.bind_some, orDefault_of_required hheaders]
  rfl

/-- The form of a template is that of a message. -/
theorem template_jsonOfTemplate (t : Template.MessageTemplate) :
    template (jsonOfTemplate t) = some t :=
  template_of_message (message_jsonOfMessage ⟨t.key, t.value, t.headers⟩)

/-- Brokers are read back. -/
theorem broker_jsonOfBroker (b : Broker) : broker (jsonOfBroker b) = some b := by
  have hfields : broker (jsonOfBroker b) = (do
      let port ← bounded 65535 (jsonOfNat b.port.toNat)
      return ⟨b.host, UInt16.ofNat port⟩) := rfl
  have hbound : b.port.toNat ≤ 65535 := Nat.le_sub_one_of_lt b.port.toNat_lt_size
  rw [hfields, bounded_jsonOfNat hbound]
  show some (Broker.mk b.host (UInt16.ofNat b.port.toNat)) = some b
  rw [UInt16.ofNat_toNat]

/-- Tables of texts are read back. -/
theorem texts_jsonOfTexts (t : Table String) : texts (jsonOfTexts t) = some t := by
  let write (entry : String × String) : String × Json := (entry.1, .string entry.2)
  let read (entry : String × Json) : Option (String × String) := do
    return (entry.1, ← DataTree.text entry.2)
  have htexts : texts (jsonOfTexts t) = (do
      let entries ← Json.entries? (jsonOfFields (t.entries.map write))
      return Table.ofList (← entries.mapM read)) := rfl
  have each : ∀ entry, read (write entry) = some entry := fun _ => rfl
  rw [htexts, entries?_jsonOfFields, Option.bind_eq_bind, Option.bind_some, mapM_map each]
  show some (Table.ofList t.entries) = some t
  rw [Table.ofList_entries]

/-- Clusters are read back, with their properties. -/
theorem cluster_jsonOfCluster (c : Cluster) : cluster (jsonOfCluster c) = some c := by
  have hfields : cluster (jsonOfCluster c) = (do
      let brokers ← list broker (Json.array (c.brokers.map jsonOfBroker))
      let properties ← texts (jsonOfTexts c.properties)
      return ⟨c.name, brokers, properties⟩) := rfl
  rw [hfields, list_map broker_jsonOfBroker, texts_jsonOfTexts]
  rfl

/-- The settings of producers are read back. -/
theorem producerSettings_jsonOfProducerSettings (s : ProducerSettings) :
    producerSettings (jsonOfProducerSettings s) = some s := by
  have hfields : producerSettings (jsonOfProducerSettings s) = (do
      let message ← word64 (jsonOfNat s.messageTimeoutMillis.toNat)
      let delivery ← word64 (jsonOfNat s.deliveryTimeoutSecs.toNat)
      return ⟨message, delivery⟩) := rfl
  rw [hfields, word64_jsonOfNat, word64_jsonOfNat]
  rfl

/-! ## Texts -/

section

variable {α : Type} (encode : α → Json) (decode : Json → Option α)

/-- The record that a JSON text holds. -/
def readAs? (text : String) : Option α :=
  (Json.read? text).bind decode

/-- The text of its own of the record that a JSON text holds. -/
def rewrite? (text : String) : Option String :=
  (readAs? decode text).map fun a => (encode a).compact

/-- Records of one kind are written as JSON and read back. -/
structure RoundTrips : Prop where
  reads_back : ∀ a, readAs? decode (encode a).compact = some a
  /-- What a text is rewritten as holds the same record and is rewritten as itself. -/
  normal : ∀ text own, rewrite? encode decode text = some own →
    readAs? decode own = readAs? decode text ∧ rewrite? encode decode own = some own
  /-- Texts are rewritten alike just when they hold the same record, or none. -/
  alike_iff : ∀ text text', rewrite? encode decode text = rewrite? encode decode text' ↔
    readAs? decode text = readAs? decode text'

variable {encode} {decode}

/-- A value whose form is plain is read back from its text when it is from its form. -/
theorem roundTrips_of_decodes (plain : ∀ a, Plain (encode a))
    (decodes : ∀ a, decode (encode a) = some a) : RoundTrips encode decode := by
  have hback : ∀ a, readAs? decode (encode a).compact = some a := by
    intro a
    rw [readAs?, Json.read?_compact (plain a), Option.bind_some, decodes]
  constructor
  case reads_back => exact hback
  case normal =>
    intro text own hown
    obtain ⟨a, ha, rfl⟩ := Option.map_eq_some_iff.mp hown
    rw [rewrite?, hback, ha]
    exact ⟨rfl, rfl⟩
  case alike_iff =>
    -- Different records have different texts, since each can be read back.
    have hinjective : Function.Injective fun a => (encode a).compact := by
      intro a a' hsame
      have hread := hback a
      rw [show (encode a).compact = (encode a').compact from hsame, hback] at hread
      exact (Option.some_inj.mp hread).symm
    intro text text'
    exact (Option.map_injective hinjective).eq_iff

end

/-- A message is read from the text of its JSON form. -/
theorem read?_compact_jsonOfMessage (m : Template.Message) :
    (Json.read? (jsonOfMessage m).compact).bind message = some m :=
  (roundTrips_of_decodes plain_jsonOfMessage message_jsonOfMessage).reads_back m

end Courier.Record
