import Courier.Proofs.Json.RoundTrip
import Courier.Proofs.Template.Braceless
import Courier.Proofs.Template.Composition
import Courier.Template.Payload

/-!
# JSON payloads parse

Behind the opening brace of an object a quotation mark comes before any closing brace, so the brace
is literal, whatever the object holds. So a payload parses, its placeholders are those that were put
there, and everything else is literal.
-/

namespace Courier.Template

/-! ## Lexemes of parts -/

/-- The lexeme of a character outside placeholders. -/
def Lexeme.ofChar (c : Char) : Lexeme :=
  if c = '{' then .opening else if c = '}' then .closing else .plain c

theorem Lexeme.print_ofChar (c : Char) : (ofChar c).print = [c] := by
  unfold ofChar
  split_ifs with hopen hclose
  · rw [hopen]
    rfl
  · rw [hclose]
    rfl
  · rfl

theorem Lexeme.placeholder?_ofChar (c : Char) : (ofChar c).placeholder? = none := by
  unfold ofChar
  split_ifs <;> rfl

theorem Lexeme.segmentsOf_ofChar (c : Char) :
    segmentsOf [ofChar c] = [.literal (String.singleton c)] := by
  rw [segmentsOf, List.foldr_cons, List.foldr_nil,
    prepend_of_placeholder?_eq_none (placeholder?_ofChar c), print_ofChar,
    String.singleton_eq_ofList]
  rfl

/-- The lexeme of a part that stands at byte position `pos`. -/
def Part.lexeme (pos : Nat) : Part → Lexeme
  | .char c => .ofChar c
  | .hole h => .placeholder (.at pos h.name h.format)

/-- The lexemes of parts, the first of them at byte position `pos`. -/
def lexemesAt (pos : Nat) : List Part → List Lexeme
  | [] => []
  | part :: rest => part.lexeme pos :: lexemesAt (pos + Text.byteLength part.print) rest

@[simp] theorem printParts_nil : printParts [] = [] := rfl

@[simp] theorem printParts_cons (part : Part) (rest : List Part) :
    printParts (part :: rest) = part.print ++ printParts rest := rfl

@[simp] theorem printParts_append (ps qs : List Part) :
    printParts (ps ++ qs) = printParts ps ++ printParts qs :=
  List.flatMap_append

@[simp] theorem printParts_chars (cs : List Char) : printParts (chars cs) = cs := by
  induction cs with
  | nil => rfl
  | cons c cs ih => exact congrArg (c :: ·) ih

theorem Part.print_lexeme (pos : Nat) (part : Part) : (part.lexeme pos).print = part.print := by
  cases part with
  | hole h => rfl
  | char c => exact Lexeme.print_ofChar c

/-- The lexemes of a document are written as its parts are. -/
theorem printLexemes_lexemesAt (pos : Nat) (parts : List Part) :
    printLexemes (lexemesAt pos parts) = printParts parts := by
  induction parts generalizing pos with
  | nil => rfl
  | cons part rest ih =>
    rw [lexemesAt, printLexemes_cons, ih, Part.print_lexeme, printParts_cons]

theorem lexemesAt_append (pos : Nat) (ps qs : List Part) :
    lexemesAt pos (ps ++ qs) =
      lexemesAt pos ps ++ lexemesAt (pos + Text.byteLength (printParts ps)) qs := by
  induction ps generalizing pos with
  | nil => rfl
  | cons part rest ih =>
    rw [List.cons_append, lexemesAt, lexemesAt, ih, printParts_cons, Text.byteLength_append,
      Nat.add_assoc, List.cons_append]

/-- A single lexeme makes a single segment. -/
theorem Part.segmentsOf_lexeme (pos : Nat) (part : Part) :
    segmentsOf [part.lexeme pos] = [part.segment pos] := by
  cases part with
  | hole h => rfl
  | char c => exact Lexeme.segmentsOf_ofChar c

/-- The lexemes of a document are gathered into its segments. -/
theorem segmentsOf_lexemesAt (pos : Nat) (parts : List Part) :
    segmentsOf (lexemesAt pos parts) = segmentsAt pos parts := by
  induction parts generalizing pos with
  | nil => rfl
  | cons part rest ih =>
    rw [lexemesAt, ← List.singleton_append, segmentsOf_append, Part.segmentsOf_lexeme, ih,
      segmentsAt]

/-- The only placeholders of a document are those that were put in. -/
theorem placeholders_lexemesAt (pos : Nat) (parts : List Part) :
    (lexemesAt pos parts).filterMap Lexeme.placeholder? = placeholdersAt pos parts := by
  induction parts generalizing pos with
  | nil => rfl
  | cons part rest ih =>
    cases part with
    | hole h =>
      show _ :: (lexemesAt _ rest).filterMap Lexeme.placeholder? = _
      rw [ih]
      rfl
    | char c =>
      rw [lexemesAt, Part.lexeme, List.filterMap_cons_none (Lexeme.placeholder?_ofChar c), ih]
      rfl

theorem placeholders_segmentsAt (pos : Nat) (parts : List Part) :
    (segmentsAt pos parts).filterMap Segment.placeholder? = placeholdersAt pos parts := by
  rw [← segmentsOf_lexemesAt, placeholders_segmentsOf, placeholders_lexemesAt]

theorem placeholdersAt_chars (pos : Nat) (cs : List Char) : placeholdersAt pos (chars cs) = [] := by
  induction cs generalizing pos with
  | nil => rfl
  | cons c cs ih => exact ih (pos + c.utf8Size)

/-- Characters without a placeholder among them make one literal. -/
theorem segmentsAt_of_chars {pos : Nat} {parts : List Part} (hne : parts ≠ [])
    (h : placeholdersAt pos parts = []) :
    segmentsAt pos parts = [.literal (String.ofList (printParts parts))] := by
  induction parts generalizing pos with
  | nil => exact absurd rfl hne
  | cons part rest ih =>
    cases part with
    | hole hole => cases h
    | char c =>
      cases rest with
      | nil => rfl
      | cons next rest =>
        have hrest : segmentsAt (pos + Text.byteLength (Part.char c).print) (next :: rest) = _ :=
          ih (List.cons_ne_nil next rest) h
        rw [segmentsAt, hrest, Part.segment, joinSegments, printParts_cons (.char c),
          String.ofList_append, String.singleton_eq_ofList]
        rfl

/-! ## Parts that stand anywhere -/

/-- These parts can stand in front of any row, inside any number of braces. -/
def Stands (parts : List Part) : Prop :=
  ∀ pos depth rest, Row (pos + Text.byteLength (printParts parts)) depth rest →
    Row pos depth (lexemesAt pos parts ++ rest)

namespace Stands

theorem nil : Stands [] := by
  intro pos depth rest row
  exact row

theorem append {ps qs : List Part} (hp : Stands ps) (hq : Stands qs) : Stands (ps ++ qs) := by
  intro pos depth rest row
  rw [lexemesAt_append, List.append_assoc]
  apply hp
  apply hq
  rw [Nat.add_assoc, ← Text.byteLength_append, ← printParts_append]
  exact row

theorem char {c : Char} (h : isBrace c = false) : Stands [.char c] := by
  intro pos depth rest row
  have hlexeme : Lexeme.ofChar c = .plain c := by
    have hopen : c ≠ '{' := by rintro rfl; cases h
    have hclose : c ≠ '}' := by rintro rfl; cases h
    rw [Lexeme.ofChar, if_neg hopen, if_neg hclose]
  show Row pos depth (Lexeme.ofChar c :: rest)
  rw [hlexeme]
  exact .plain h row

theorem hole (h : Hole) : Stands [.hole h] := by
  intro pos depth rest row
  rw [printParts_cons, printParts_nil, List.append_nil] at row
  exact .placeholder rfl h.braceless row

/-- Placeholders between characters other than braces. -/
theorem of_braceless {parts : List Part} (h : ∀ part ∈ parts, part.isBrace = false) :
    Stands parts := by
  induction parts with
  | nil => exact nil
  | cons part rest ih =>
    obtain ⟨first, later⟩ := List.forall_mem_cons.mp h
    rw [← List.singleton_append]
    cases part with
    | char c => exact (char first).append (ih later)
    | hole hole => exact (Stands.hole hole).append (ih later)

theorem chars {cs : List Char} (h : Braceless cs) : Stands (chars cs) := by
  apply of_braceless
  intro part hpart
  obtain ⟨c, hc, rfl⟩ := List.mem_map.mp hpart
  exact h c hc

end Stands

/-! ## Blanks and contents -/

theorem Blanks.braceless (b : Blanks) : Braceless b.text :=
  braceless_of_class b.isBlank rfl rfl

/-- No name begins with a blank or a quotation mark. -/
theorem Blanks.opensNoName (b : Blanks) (more : List Char) :
    OpensNoName (b.text ++ '"' :: more) := by
  cases htext : b.text with
  | nil => exact opensNoName_noName rfl (by decide)
  | cons c front =>
    have hblank : Json.isBlank c = true := b.isBlank c (by simp [htext])
    have start : isNameStart c = false := by
      simp only [Json.isBlank, Bool.or_eq_true, beq_iff_eq] at hblank
      rcases hblank with ((rfl | rfl) | rfl) | rfl <;> rfl
    have ne : c ≠ '}' := by
      rintro rfl
      cases hblank
    exact opensNoName_noName start ne

/-- A key or a string can stand anywhere, as it has no braces of its own. -/
theorem Content.stands_quoted (s : Content) : Stands s.quoted :=
  ((Stands.char rfl).append (Stands.of_braceless s.braceless)).append (Stands.char rfl)

/-! ## Objects -/

/-- Behind an opening brace, blanks and a quotation mark show the brace to be literal. -/
theorem opensLiteral_of_quote (b : Blanks) {more rest : List Char}
    (h : rest = b.text ++ '"' :: more) (closes : '}' ∈ rest) : OpensLiteral rest := by
  constructor
  case toOpensNoName => exact h ▸ b.opensNoName more
  case structural =>
    obtain ⟨body, after, hrest, hbody⟩ := List.eq_append_cons_of_mem closes
    have hfront : '}' ∉ b.text ++ ['"'] := by
      rw [List.mem_append, List.mem_singleton, not_or]
      exact ⟨fun hmem => absurd (b.braceless _ hmem) (by decide), by decide⟩
    have hsplit : (b.text ++ ['"']) ++ more = body ++ '}' :: after := by
      rw [← hrest, h, List.append_assoc, List.singleton_append]
    -- So the quotation mark comes before the first closing brace.
    obtain ⟨tail, rfl⟩ := exists_append_of_split hfront hsplit
    exact ⟨_, after, hrest, hbody, '"', by simp, rfl⟩

/-- Members begin with blanks and a quotation mark. -/
theorem Payload.exists_quote (members : Payload (.entries .object)) :
    ∃ (b : Blanks) (more : List Char), printParts members.parts = b.text ++ '"' :: more := by
  have hmember : ∀ e : Payload (.entry .object),
      ∃ (b : Blanks) (more : List Char), printParts e.parts = b.text ++ '"' :: more := by
    intro e
    cases e with
    | member before key afterKey beforeValue v after =>
      refine ⟨before, ?_⟩
      simp [Payload.parts, Content.quoted, Part.print]
  cases members with
  | last e => exact hmember e
  | more e rest =>
    obtain ⟨b, more, hprint⟩ := hmember e
    refine ⟨b, more ++ printParts (.char ',' :: rest.parts), ?_⟩
    rw [Payload.parts, printParts_append, hprint, List.append_assoc, List.cons_append]

/-- The brace of an object is literal, and the one behind its members closes it. -/
theorem Stands.object {members : Payload (.entries .object)} (h : Stands members.parts) :
    Stands (.char '{' :: members.parts ++ [.char '}']) := by
  intro pos depth rest row
  obtain ⟨b, more, hquote⟩ := members.exists_quote
  have hbody : printParts (members.parts ++ [.char '}']) = b.text ++ '"' :: (more ++ ['}']) := by
    rw [printParts_append, hquote, List.append_assoc]
    rfl
  have literal : OpensLiteral (printParts (members.parts ++ [.char '}'])) :=
    opensLiteral_of_quote b hbody (by simp [hbody])
  have hstop : pos + Text.byteLength (printParts (.char '{' :: members.parts ++ [.char '}'])) =
      pos + 1 + Text.byteLength (printParts members.parts) + 1 := by
    have hopening : '{'.utf8Size = 1 := rfl
    have hclosing : '}'.utf8Size = 1 := rfl
    simp only [List.cons_append, printParts_cons, printParts_append, printParts_nil, Part.print,
      List.nil_append, List.append_nil, Text.byteLength_cons, Text.byteLength_append,
      Text.byteLength_nil, hopening, hclosing]
    omega
  show Row pos depth (.opening :: (lexemesAt (pos + 1) (members.parts ++ [.char '}']) ++ rest))
  apply Row.opening
  · rw [printLexemes_append, printLexemes_lexemesAt]
    exact literal.append (printLexemes rest)
  · rw [lexemesAt_append, List.append_assoc]
    apply h
    rw [hstop] at row
    exact .closing row

/-! ## Payloads -/

/-- A payload can stand anywhere. -/
theorem Payload.stands {role : Role} (p : Payload role) : Stands p.parts := by
  induction p with
  | scalar s => exact .chars s.braceless
  | hole h => exact .hole h
  | string s => exact s.stands_quoted
  | emptyArray blanks =>
    exact ((Stands.char (c := '[') rfl).append (.chars blanks.braceless)).append (.char rfl)
  | array elements ih => exact ((Stands.char (c := '[') rfl).append ih).append (.char rfl)
  | object members ih => exact .object ih
  | element before v after ih =>
    exact ((Stands.chars before.braceless).append ih).append (.chars after.braceless)
  | member before key afterKey beforeValue v after ih =>
    exact ((((((Stands.chars before.braceless).append key.stands_quoted).append
      (.chars afterKey.braceless)).append (.char rfl)).append
      (.chars beforeValue.braceless)).append ih).append (.chars after.braceless)
  | last e ih => exact ih
  | more e rest ihe ihrest => exact ihe.append ((Stands.char (c := ',') rfl).append ihrest)

namespace Document

/-- A document divides into its own lexemes. -/
theorem divides (d : Document) : Divides (printParts d.parts) (lexemesAt 0 d.parts) := by
  have stands : Stands d.parts :=
    ((Stands.chars d.before.braceless).append d.value.stands).append (.chars d.after.braceless)
  have row := stands 0 0 [] .nil
  rw [List.append_nil] at row
  exact divides_iff_row.mpr ⟨printLexemes_lexemesAt 0 d.parts, row⟩

theorem parts_ne_nil (d : Document) : d.parts ≠ [] := by
  have hvalue : ∀ v : Payload .value, v.parts ≠ [] := by
    intro v
    cases v with
    | scalar s => simp [Payload.parts, chars, s.ne_nil]
    | _ => simp [Payload.parts, Content.quoted]
  simp [parts, hvalue]

/-- A document parses to its own segments. -/
theorem parse_eq (d : Document) : Field.parse d.text = .ok ⟨d.text, segmentsAt 0 d.parts⟩ := by
  have divides : Divides d.text.toList (lexemesAt 0 d.parts) := by
    rw [text, String.toList_ofList]
    exact d.divides
  rw [← segmentsOf_lexemesAt]
  exact parse_eq_ok_iff.mpr ⟨_, divides, rfl⟩

/-- Without placeholders a document is one literal. -/
theorem segmentsAt_eq (d : Document) (h : placeholdersAt 0 d.parts = []) :
    segmentsAt 0 d.parts = [.literal d.text] :=
  segmentsAt_of_chars d.parts_ne_nil h

/-- A JSON payload parses. Its placeholders are those that were put there, in the same order and at
their byte positions, and everything else is literal: one literal if there is no placeholder. -/
theorem parse_text (d : Document) :
    ∃ f, Field.parse d.text = .ok f ∧ f.source = d.text ∧ f.segments = segmentsAt 0 d.parts ∧
      f.placeholders = placeholdersAt 0 d.parts ∧
      (placeholdersAt 0 d.parts = [] → f.segments = [.literal d.text]) := by
  refine ⟨_, d.parse_eq, rfl, rfl, ?_, ?_⟩
  · exact placeholders_segmentsAt 0 d.parts
  · exact d.segmentsAt_eq

/-- Blanks between tokens, a placeholder with a colon in its format inside a key, and one that
stands for a number. -/
example :
    let blank : Blanks := ⟨[' '], by simp [Json.isBlank]⟩
    let key : Content :=
      ⟨[.char 'n', .hole ⟨.timestamp, some "H:m", by rintro _ ⟨⟩; decide⟩],
        by simp [Part.isBrace, isBrace]⟩
    let inner : Content := ⟨[.char 'k'], by simp [Part.isBrace, isBrace]⟩
    let count : Payload .value := .hole ⟨.count, none, by rintro _ ⟨⟩⟩
    let nested : Payload .value := .object (.last (.member .none inner .none .none count .none))
    let d : Document :=
      ⟨.none, .object (.last (.member blank key .none blank nested blank)), .none⟩
    d.text = "\x7b \"n\x7btimestamp:H:m\x7d\": \x7b\"k\":\x7bcount\x7d\x7d \x7d" ∧
      segmentsAt 0 d.parts =
        [.literal "\x7b \"n", .placeholder ⟨.timestamp, some "H:m", 4, 19⟩,
          .literal "\": \x7b\"k\":", .placeholder ⟨.count, none, 27, 34⟩,
          .literal "\x7d \x7d"] := by
  decide +kernel

end Document

/-! ## Compact JSON -/

/-- JSON values without braces in their keys, strings and numbers, where each object has a member
at least. -/
inductive IsPayload : Json → Prop where
  | null : IsPayload .null
  | bool (b : Bool) : IsPayload (.bool b)
  | number (literal : String) (ne : literal.toList ≠ []) (braceless : Braceless literal.toList) :
    IsPayload (.number literal)
  | string (text : String) (braceless : Braceless text.toList) : IsPayload (.string text)
  | array {items : List Json} (each : ∀ v ∈ items, IsPayload v) : IsPayload (.array items)
  | object {members : List (String × Json)} (ne : members ≠ [])
    (keys : ∀ m ∈ members, Braceless m.1.toList) (each : ∀ m ∈ members, IsPayload m.2) :
    IsPayload (.object (members.map fun (k, v) => (some k, v)))

theorem chars_append (xs ys : List Char) : chars (xs ++ ys) = chars xs ++ chars ys :=
  List.map_append

theorem braceless_escape {c : Char} (h : isBrace c = false) : Braceless (Json.escape c) := by
  have hdigit : ∀ n, isBrace (Json.hexDigit n) = false := by
    intro n
    have hvalue := Json.hexValue?_hexDigit n
    rw [isBrace, Bool.or_eq_false_iff]
    constructor
    all_goals
      rw [beq_eq_false_iff_ne]
      intro heq
      rw [heq] at hvalue
      cases hvalue
  unfold Json.escape
  repeat' split
  all_goals simp only [braceless_cons_iff, h, hdigit]
  all_goals decide

/-- The content of a string as it is written. -/
def Content.ofText (text : String) (h : Braceless text.toList) : Content where
  parts := chars (text.toList.flatMap Json.escape)
  braceless := by
    intro part hpart
    obtain ⟨c, hc, rfl⟩ := List.mem_map.mp hpart
    obtain ⟨d, hd, hescape⟩ := List.mem_flatMap.mp hc
    exact braceless_escape (h d hd) c hescape

theorem Content.quoted_ofText (text : String) (h : Braceless text.toList) :
    (Content.ofText text h).quoted = chars (Json.quote text) := by
  simp [Content.quoted, Content.ofText, Json.quote, chars]

/-- Entries with commas in between. -/
theorem exists_entries {α : Type} {n : Nesting} {text : α → List Char} {xs : List α} (ne : xs ≠ [])
    (each : ∀ x ∈ xs, ∃ e : Payload (.entry n), e.parts = chars (text x)) :
    ∃ es : Payload (.entries n), es.parts = chars (Json.commaSeparated (xs.map text)) := by
  induction xs with
  | nil => exact absurd rfl ne
  | cons x xs ih =>
    obtain ⟨e, he⟩ := each x List.mem_cons_self
    cases xs with
    | nil => exact ⟨.last e, he⟩
    | cons y ys =>
      obtain ⟨es, hes⟩ := ih (List.cons_ne_nil y ys) fun z hz => each z (List.mem_cons_of_mem _ hz)
      refine ⟨.more e es, ?_⟩
      have hcommas : Json.commaSeparated ((x :: y :: ys).map text) =
          text x ++ ',' :: Json.commaSeparated ((y :: ys).map text) := rfl
      rw [Payload.parts, he, hes, hcommas, chars_append]
      rfl

/-- A value that can be a payload is written as one. -/
theorem exists_payload {v : Json} (h : IsPayload v) :
    ∃ p : Payload .value, p.parts = chars v.render := by
  induction h with
  | null => exact ⟨.scalar ⟨"null".toList, by decide, by decide⟩, rfl⟩
  | bool b =>
    cases b with
    | false => exact ⟨.scalar ⟨"false".toList, by decide, by decide⟩, rfl⟩
    | true => exact ⟨.scalar ⟨"true".toList, by decide, by decide⟩, rfl⟩
  | number literal ne braceless => exact ⟨.scalar ⟨literal.toList, ne, braceless⟩, rfl⟩
  | string text braceless => exact ⟨.string (.ofText text braceless), Content.quoted_ofText _ _⟩
  | @array items _ ih =>
    rw [Json.render_array]
    -- An array may be empty and an object may not.
    by_cases hitems : items = []
    · exact hitems ▸ ⟨.emptyArray .none, rfl⟩
    · have each : ∀ v ∈ items, ∃ e : Payload (.entry .array), e.parts = chars v.render := by
        intro v hv
        obtain ⟨p, hp⟩ := ih v hv
        exact ⟨.element .none p .none, by simp [Payload.parts, Blanks.none, chars, hp]⟩
      obtain ⟨es, hes⟩ := exists_entries hitems each
      refine ⟨.array es, ?_⟩
      rw [Payload.parts, hes, chars_append, chars_append]
      rfl
  | @object members ne keys _ ih =>
    rw [Json.render_object]
    have each : ∀ m ∈ members,
        ∃ e : Payload (.entry .object), e.parts = chars (Json.memberText m) := by
      intro m hm
      obtain ⟨p, hp⟩ := ih m hm
      refine ⟨.member .none (.ofText m.1 (keys m hm)) .none .none p .none, ?_⟩
      rw [Payload.parts, Content.quoted_ofText, hp, Json.memberText, chars_append]
      simp [Blanks.none, chars]
    obtain ⟨es, hes⟩ := exists_entries ne each
    refine ⟨.object es, ?_⟩
    rw [Payload.parts, hes, chars_append, chars_append]
    rfl

/-- The compact form of such a value is a field of one literal. -/
theorem parse_compact {v : Json} (h : IsPayload v) :
    Field.parse v.compact = .ok ⟨v.compact, [.literal v.compact]⟩ := by
  obtain ⟨p, hp⟩ := exists_payload h
  let d : Document := ⟨.none, p, .none⟩
  have hparts : d.parts = chars v.render := by
    simp [d, Document.parts, Blanks.none, chars, hp]
  have htext : d.text = v.compact := by
    rw [Document.text, hparts, printParts_chars, Json.compact]
  have hnone : placeholdersAt 0 d.parts = [] := by
    rw [hparts, placeholdersAt_chars]
  rw [← htext, d.parse_eq, d.segmentsAt_eq hnone]

end Courier.Template
