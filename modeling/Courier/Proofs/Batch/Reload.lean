import Courier.Proofs.Batch.Preview
import Courier.Proofs.Template.Literal
import Courier.Template.Load

/-!
# The JSON forms of records fit together

Each kind of record is written as JSON and read back. A message also has the form of a template, so
that a line of a preview can be kept in a file and loaded as one; and if nothing is to be filled in
in its texts, the very message that the line shows is made again.
-/

namespace Courier.Record

open Batch Template

/-- What is read as a message is read as a template of the same texts. -/
theorem readAs?_template_of_message {text : String} {m : Message}
    (h : readAs? message text = some m) : readAs? template text = some m.toTemplate := by
  obtain ⟨v, hv, hm⟩ := Option.bind_eq_some_iff.mp h
  exact Option.bind_eq_some_iff.mpr ⟨v, hv, template_of_message hm⟩

/-- A file with a JSON text of a message is loaded as a template. -/
theorem load_of_message {files : Files} {name content : String} {m : Message}
    (holds : files name = .ok content) (ext : FileName.lowerExtension? name = some "json")
    (h : readAs? message content = some m) : MessageTemplate.load files name = .ok m.toTemplate := by
  have hread : MessageTemplate.read? .json content = some m.toTemplate :=
    readAs?_template_of_message h
  rw [MessageTemplate.load, holds]
  dsimp only
  rw [ext, Option.getD_some, DataFormat.ofExtension?]
  dsimp only
  rw [MessageTemplate.decode, hread]

/-- A line is a text of the message that it shows, with or without its line feed. -/
theorem exists_readAs?_of_line {m : Message} {bytes : List UInt8}
    (h : bytes = Preview.body m ∨ bytes = Preview.line m) :
    ∃ text, String.fromUTF8? bytes.toByteArray = some text ∧ readAs? message text = some m := by
  rcases h with rfl | rfl
  · refine ⟨_, Preview.fromUTF8?_flatMap _, ?_⟩
    exact read?_compact_jsonOfMessage m
  · refine ⟨_, Preview.fromUTF8?_flatMap _, ?_⟩
    have htext : String.ofList ((jsonOfMessage m).render ++ ['\n']) =
        (jsonOfMessage m).compact ++ "\n" := String.ofList_append
    have hblank : ∀ c ∈ "\n".toList, Json.isBlank c = true := by
      intro c hc
      obtain rfl : c = '\n' := by simpa using hc
      rfl
    rw [readAs?, htext, Json.read?_compact_append (plain_jsonOfMessage m) hblank, Option.bind_some,
      message_jsonOfMessage]

/-- The JSON forms of records can be read back, and stand in for each other. -/
structure JsonCompatible : Prop where
  templates : RoundTrips jsonOfTemplate template
  headers : RoundTrips jsonOfHeader header
  messages : RoundTrips jsonOfMessage message
  clusters : RoundTrips jsonOfCluster cluster
  producerSettings : RoundTrips jsonOfProducerSettings Record.producerSettings
  /-- A text that holds a message holds the same as a template. -/
  as_template : ∀ text m, readAs? message text = some m →
    readAs? template text = some m.toTemplate
  /-- So it is loaded from a file whose name says that it is JSON. -/
  loaded : ∀ (files : Files) name text m, files name = .ok text →
    FileName.lowerExtension? name = some "json" → readAs? message text = some m →
      MessageTemplate.load files name = .ok m.toTemplate
  /-- A line of a preview is such a text, with or without its line feed. -/
  line : ∀ m bytes, bytes = Preview.body m ∨ bytes = Preview.line m →
    ∃ text, String.fromUTF8? bytes.toByteArray = some text ∧ readAs? message text = some m
  /-- If the texts of the message have no braces, then this message is what is made of the file, in
  any context and without an identifier being drawn. -/
  made_again : ∀ (files : Files) name text m, files name = .ok text →
    FileName.lowerExtension? name = some "json" → readAs? message text = some m →
      (∀ p ∈ m.toTemplate.texts, Braceless p.2.toList) →
        ∃ loaded compiled, MessageTemplate.load files name = .ok loaded ∧
          CompiledTemplate.compile loaded = .ok compiled ∧ compiled.validate = .ok () ∧
          ∀ context supply,
            compiled.materializeIn context supply = (.ok m, { context, supply })

/-- Whatever texts, numbers and properties records hold. -/
theorem jsonCompatible : JsonCompatible where
  templates := roundTrips_of_decodes plain_jsonOfTemplate template_jsonOfTemplate
  headers := roundTrips_of_decodes plain_jsonOfHeader header_jsonOfHeader
  messages := roundTrips_of_decodes plain_jsonOfMessage message_jsonOfMessage
  clusters := roundTrips_of_decodes plain_jsonOfCluster cluster_jsonOfCluster
  producerSettings := roundTrips_of_decodes plain_jsonOfProducerSettings
    producerSettings_jsonOfProducerSettings
  as_template _ _ := readAs?_template_of_message
  loaded _ _ _ _ := load_of_message
  line _ _ := exists_readAs?_of_line
  made_again := by
    intro files name text m holds ext h braceless
    have literal : ∀ p ∈ m.toTemplate.texts, IsLiteral p.2 :=
      fun p hp => isLiteral_of_braceless (braceless p hp)
    obtain ⟨compiled, hcompiled, hvalid, hmade⟩ := m.exists_compile_toTemplate literal
    exact ⟨m.toTemplate, compiled, load_of_message holds ext h, hcompiled, hvalid, hmade⟩

/-- An array is cut off behind a value that is escaped; what it leaves out is written out. -/
example : rewrite? jsonOfTemplate template "[null, \"\\u0041\"]" =
    some "\x7b\"key\":null,\"value\":\"A\",\"headers\":[]\x7d" := by
  decide +kernel

end Courier.Record
