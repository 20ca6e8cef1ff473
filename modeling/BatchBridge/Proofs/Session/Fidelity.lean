import BatchBridge.Client
import BatchBridge.Proofs.Batch.Pushing
import BatchBridge.Proofs.Schema.RoundTrip
import BatchBridge.Proofs.Session.Record
import Mathlib.Algebra.Group.Nat.Defs

/-!
# What is exported is received

The calls of a client and the steps of a session are written apart.  They meet in what stands on the
wire: the calls spell a preamble, frames that are batches, and an empty frame, and a session makes
of these what was exported.

* `Client.exportWith` — all calls of an export.  **`Client.exportWith_eq_ok`** — what they write.
* **`Session.spelled_preamble`**, **`Session.takes_batchBytes`** — how a session reads it.
* `Session.ofOpening_of_end` — batches up to an empty frame, over a sink that never fails.
* **`Session.export_received`** — from the rows of a client to the log of the sink.
-/

namespace BatchBridge

namespace Client

/-! ## The calls of an export -/

/-- Writes batches, one after the other. -/
def sendBatchesWith (pack : Compression.Method → Bytes → Bytes) :
    List Bytes → Client → Except BridgeError Client
  | [], client => .ok client
  | payload :: rest, client =>
    (client.sendBatchWith pack payload).bind (sendBatchesWith pack rest)

/-- Shows the token, if there is one to be shown. -/
def showToken : Option String → Client → Client
  | none, client => client
  | some token, client => client.sendToken token

/-- Announces the method, if there is one to be announced. -/
def announceMethod : Option Compression.Method → Client → Client
  | none, client => client
  | some method, client => client.sendMethod method

/-- Writes a whole export. -/
def exportWith (pack : Compression.Method → Bytes → Bytes) (token : Option String)
    (method : Option Compression.Method) (id : String) (schema : ColumnSchema)
    (payloads : List Bytes) : Except BridgeError Client :=
  let announced := ((new.showToken token).sendQueryId id).announceMethod method
  ((announced.sendSchema schema).sendBatchesWith pack payloads).map finish

/-! ## What stands on the wire -/

/-- The token, if there is one. -/
def tokenBytes : Option String → Bytes
  | none => []
  | some token => Frame.bytes (Utf8.encode token)

/-- The code of the method, if there is one. -/
def methodBytes : Option Compression.Method → Bytes
  | none => []
  | some method => Bytes.ofNatBE 4 method.code

/-- The batches. -/
def batchBytes (pack : Compression.Method → Bytes → Bytes) (method : Compression.Method) :
    List Bytes → Bytes
  | [] => []
  | payload :: rest => Frame.bytes (packed pack method payload) ++ batchBytes pack method rest

variable {pack : Compression.Method → Bytes → Bytes}

theorem batchBytes_append (method : Compression.Method) (front back : List Bytes) :
    batchBytes pack method (front ++ back) =
      batchBytes pack method front ++ batchBytes pack method back := by
  induction front with
  | nil => rfl
  | cons payload front ih => rw [List.cons_append, batchBytes, ih, batchBytes, List.append_assoc]

theorem sendBatchesWith_eq_ok {payloads : List Bytes} (h : ∀ payload ∈ payloads, payload ≠ [])
    (client : Client) :
    client.sendBatchesWith pack payloads =
      .ok { client with sent := client.sent ++ batchBytes pack client.method payloads } := by
  induction payloads generalizing client with
  | nil =>
    rw [sendBatchesWith, batchBytes, List.append_nil]
  | cons payload rest ih =>
    have hne : ¬payload.isEmpty = true := fun hempty =>
      h payload List.mem_cons_self (List.isEmpty_iff.1 hempty)
    have hrest := ih fun other hmem => h other (List.mem_cons_of_mem _ hmem)
    rw [sendBatchesWith, sendBatchWith, if_neg hne, batchBytes, ← List.append_assoc]
    exact hrest (client.sendFrame (packed pack client.method payload))

/-- **An export writes its parts**, one behind the other. -/
theorem exportWith_eq_ok {payloads : List Bytes} (h : ∀ payload ∈ payloads, payload ≠ [])
    (token : Option String) (method : Option Compression.Method) (id : String)
    (schema : ColumnSchema) :
    exportWith pack token method id schema payloads =
      .ok ⟨tokenBytes token ++ (Frame.bytes (Utf8.encode id) ++ (methodBytes method ++
        (Frame.bytes (Utf8.encode schema.toJson) ++
          (batchBytes pack (method.getD .none) payloads ++ Frame.bytes [])))),
        method.getD .none⟩ := by
  have hshown : new.showToken token = ⟨tokenBytes token, .none⟩ := by cases token <;> rfl
  have hannounced (sent : Bytes) : (Client.mk sent .none).announceMethod method =
      ⟨sent ++ methodBytes method, method.getD .none⟩ := by
    cases method with
    | none => rw [methodBytes, List.append_nil]; rfl
    | some method => rfl
  simp only [exportWith, hshown, hannounced, sendQueryId, sendSchema, sendText, sendFrame, sendRaw,
    sendBatchesWith_eq_ok h, Except.map, finish, List.append_assoc]

end Client

namespace Session

/-! ## The preamble -/

theorem presented_tokenBytes {token : Option String}
    (h : ∀ t, token = some t → 0 < (Utf8.encode t).length ∧
      (Utf8.encode t).length ≤ maxTokenBytes) :
    Preamble.Presented token (Client.tokenBytes token) := by
  cases token with
  | none => rfl
  | some token =>
    obtain ⟨hpos, hle⟩ := h token rfl
    exact ⟨rfl, List.length_pos_iff.1 hpos, hle⟩

theorem named_queryId {id : String} (hpos : 0 < (Utf8.encode id).length)
    (hle : (Utf8.encode id).length ≤ maxQueryIdBytes) :
    Preamble.Named id (Frame.bytes (Utf8.encode id)) := by
  refine ⟨Utf8.encode id, rfl, hle, Utf8.decode_encode id, ?_⟩
  rw [← Bool.not_eq_true, String.isEmpty_iff, ← Utf8.encode_eq_nil_iff]
  exact List.length_pos_iff.1 hpos

theorem announced_methodBytes (method : Option Compression.Method) :
    Preamble.Announced method.isSome (method.getD .none) (Client.methodBytes method) := by
  cases method with
  | none => exact ⟨rfl, rfl⟩
  | some method =>
    refine ⟨Bytes.length_ofNatBE .., ?_⟩
    have hcode : method.code < Bytes.span 4 := by cases method <;> decide
    rw [Client.methodBytes, Bytes.toNatBE_ofNatBE_of_lt hcode]
    exact Compression.Method.ofCode_code method

/-- **What a client writes before its batches spells the preamble.** -/
theorem spelled_preamble {options : SessionOptions} {method : Option Compression.Method}
    {id : String} (columns : List (String × LogicalType))
    (htoken : ∀ token, options.token = some token → 0 < (Utf8.encode token).length ∧
      (Utf8.encode token).length ≤ maxTokenBytes)
    (hmethod : method.isSome = options.negotiate)
    (hid : 0 < (Utf8.encode id).length ∧ (Utf8.encode id).length ≤ maxQueryIdBytes)
    (hschema : Frame.Fits options.limits.maxFrameBytes
      (Utf8.encode (ColumnSchema.ofTypes columns).toJson)) (body : Bytes) :
    Preamble.Spelled options ⟨id, method.getD .none, .ofTypes columns⟩
      (Client.tokenBytes options.token ++ (Frame.bytes (Utf8.encode id) ++
        (Client.methodBytes method ++
          (Frame.bytes (Utf8.encode (ColumnSchema.ofTypes columns).toJson) ++ body)))) body := by
  have hannounced := announced_methodBytes method
  rw [hmethod] at hannounced
  have hparse := ColumnSchema.parse_toJson_ofTypes columns options.policy
  exact ⟨_, _, _, _, rfl, presented_tokenBytes htoken, named_queryId hid.1 hid.2, hannounced,
    _, rfl, hschema, hparse⟩

/-! ## The batches -/

theorem ne_nil_of_pushed {schema : ColumnSchema} {tables : List (List (List Value))}
    {payloads : List Bytes}
    (h : List.Forall₂ (fun table payload => payloadOfRows schema table = .ok payload)
      tables payloads) : ∀ payload ∈ payloads, payload ≠ [] := by
  induction h with
  | nil => exact nofun
  | cons hfirst _ ih => exact List.forall_mem_cons.2 ⟨ne_nil_of_payloadOfRows hfirst, ih⟩

/-- The payload of one table has those of the tables before it in front of it. -/
theorem exists_payload_of_pushed {schema : ColumnSchema} {front back : List (List (List Value))}
    {table : List (List Value)} {payloads : List Bytes}
    (h : List.Forall₂ (fun table payload => payloadOfRows schema table = .ok payload)
      (front ++ table :: back) payloads) :
    ∃ before payload behind, payloads = before ++ payload :: behind ∧
      List.Forall₂ (fun table payload => payloadOfRows schema table = .ok payload) front before ∧
      payloadOfRows schema table = .ok payload := by
  have hbefore := (List.forall₂_take_append _ _ _ h.flip).flip
  have hbehind := (List.forall₂_drop_append _ _ _ h.flip).flip
  obtain ⟨payload, behind, hpayload, -, hdrop⟩ := List.forall₂_cons_left_iff.1 hbehind
  refine ⟨_, payload, behind, ?_, hbefore, hpayload⟩
  rw [← hdrop, List.take_append_drop]

/-- Nothing comes of an empty frame but an empty payload. -/
theorem eq_nil_of_expand_nil {method : Compression.Method} {payload : Bytes}
    (h : Compression.Decompressor.expand method 0 [] = .ok ⟨payload.toArray⟩) : payload = [] := by
  cases method with
  | none => exact (congrArg (fun data : ByteArray => data.data.toList) (Except.ok.inj h)).symm
  | zlib => cases h
  | lz4 => cases h

/-- The frame of a batch is not empty. -/
theorem packed_ne_nil {pack : Compression.Method → Bytes → Bytes} {schema : ColumnSchema}
    {method : Compression.Method} {table : List (List Value)} {payload : Bytes}
    (hpushed : payloadOfRows schema table = .ok payload)
    (hpack : Compression.Decompressor.expand method 0 (Client.packed pack method payload) =
      .ok ⟨payload.toArray⟩) : Client.packed pack method payload ≠ [] := by
  intro hempty
  rw [hempty] at hpack
  exact ne_nil_of_payloadOfRows hpushed (eq_nil_of_expand_nil hpack)

/-- The frame of a batch that fits is taken as a batch that holds the rows. -/
theorem accepts_packed {intake : Intake} {pack : Compression.Method → Bytes → Bytes}
    {table : List (List Value)} {payload : Bytes} (hwrite : intake.failWriteAt = none)
    (hpushed : payloadOfRows intake.schema table = .ok payload)
    (hcount : table.length < Bytes.span 4) (hoffsets : FitsOffsets table)
    (hfits : Frame.Fits intake.cap (Client.packed pack intake.method payload))
    (hpack : Compression.Decompressor.expand intake.method 0
      (Client.packed pack intake.method payload) = .ok ⟨payload.toArray⟩) (k : Nat) :
    ∃ batch, intake.Accepts k (Client.packed pack intake.method payload) batch ∧
      batch.Holds intake.schema table := by
  obtain ⟨batch, hdecode, hholds⟩ := decode_payloadOfRows hpushed hcount hoffsets
  refine ⟨batch, ⟨packed_ne_nil hpushed hpack, hfits, ⟨payload.length, ?_⟩, ?_⟩, hholds⟩
  · exact batchOf_eq_ok_iff.2 ⟨_, hpack, hdecode, rfl⟩
  · rw [hwrite]
    intro hrefused
    cases hrefused

/-- The frame of any other batch is one with too much text. -/
theorem overflows_packed {intake : Intake} {pack : Compression.Method → Bytes → Bytes}
    {table : List (List Value)} {payload : Bytes}
    (hpushed : payloadOfRows intake.schema table = .ok payload)
    (hcount : table.length < Bytes.span 4) (hoffsets : ¬FitsOffsets table)
    (hfits : Frame.Fits intake.cap (Client.packed pack intake.method payload))
    (hpack : Compression.Decompressor.expand intake.method 0
      (Client.packed pack intake.method payload) = .ok ⟨payload.toArray⟩) (rest : Bytes) :
    intake.Overflows (Frame.bytes (Client.packed pack intake.method payload) ++ rest) :=
  ⟨_, _, rest, rfl, packed_ne_nil hpushed hpack, hfits, hpack,
    Batch.decode_eq_lost_iff.1 (decode_payloadOfRows_eq_lost hpushed hcount hoffsets)⟩

/-- **The batches of an export are taken**, and nothing else. -/
theorem takes_batchBytes {intake : Intake} {pack : Compression.Method → Bytes → Bytes}
    {tables : List (List (List Value))} {payloads : List Bytes}
    (hwrite : intake.failWriteAt = none)
    (hpushed : List.Forall₂ (fun table payload => payloadOfRows intake.schema table = .ok payload)
      tables payloads)
    (hcount : ∀ table ∈ tables, table.length < Bytes.span 4)
    (hoffsets : ∀ table ∈ tables, FitsOffsets table)
    (hfits : ∀ payload ∈ payloads,
      Frame.Fits intake.cap (Client.packed pack intake.method payload))
    (hpack : ∀ payload ∈ payloads, Compression.Decompressor.expand intake.method 0
      (Client.packed pack intake.method payload) = .ok ⟨payload.toArray⟩) (k : Nat) (tail : Bytes) :
    ∃ batches, intake.Takes k (Client.batchBytes pack intake.method payloads ++ tail) batches tail ∧
      List.Forall₂ (fun table batch => batch.Holds intake.schema table) tables batches := by
  induction hpushed generalizing k with
  | nil => exact ⟨[], .stop, .nil⟩
  | @cons table payload tables payloads hfirst _ ih =>
    obtain ⟨batch, haccepts, hholds⟩ := accepts_packed hwrite hfirst
      (hcount table List.mem_cons_self) (hoffsets table List.mem_cons_self)
      (hfits payload List.mem_cons_self)
      (hpack payload List.mem_cons_self) k
    obtain ⟨batches, htakes, hrest⟩ :=
      ih (fun other hmem => hcount other (List.mem_cons_of_mem _ hmem))
        (fun other hmem => hoffsets other (List.mem_cons_of_mem _ hmem))
        (fun other hmem => hfits other (List.mem_cons_of_mem _ hmem))
        (fun other hmem => hpack other (List.mem_cons_of_mem _ hmem)) (k + 1)
    refine ⟨batch :: batches, ?_, .cons hholds hrest⟩
    rw [Client.batchBytes, List.append_assoc]
    exact .take haccepts htakes

/-! ## From end to end -/

/-- **A stream of batches up to an empty frame** is written, closed and acknowledged. -/
theorem ofOpening_of_end (options : SessionOptions) (preamble : Preamble) {body rest : Bytes}
    {batches : List Batch}
    (htakes : (intakeOf options .none preamble).Takes 0 body batches
      (Frame.bytes [] ++ rest)) :
    ∃ summary, Outcome.ofOpening memorySink none options.limits.maxFrameBytes preamble body
        (MemorySink.new .none) =
      ⟨some (.ok summary), none, acknowledgment, .none,
        exportLog preamble.queryId preamble.schema.fields batches ++
          [.closed preamble.queryId]⟩ := by
  obtain ⟨forwarder, summary, hwrites, hstream⟩ :=
    ofOpening_of_takes options none rfl preamble htakes
  have hread := Frame.read_bytes_nil options.limits.maxFrameBytes rest
  have hclosed := Forwarder.close_memory hwrites
    ⟨.none, exportLog preamble.queryId preamble.schema.fields batches⟩
  refine ⟨summary, ?_⟩
  rw [hstream, Outcome.ofStreaming_of_empty hread, Outcome.ofClosing]
  generalize Forwarder.close memorySink forwarder _ = called at hclosed
  cases hclosed with
  | committed _ => rfl
  | rejected hfault => cases hfault

/-- What an export comes to, over whatever connection its bytes arrive. -/
theorem comesTo_export {options : SessionOptions} {method : Option Compression.Method} {id : String}
    {columns : List (String × LogicalType)}
    (htoken : ∀ token, options.token = some token → 0 < (Utf8.encode token).length ∧
      (Utf8.encode token).length ≤ maxTokenBytes)
    (hmethod : method.isSome = options.negotiate)
    (hid : 0 < (Utf8.encode id).length ∧ (Utf8.encode id).length ≤ maxQueryIdBytes)
    (hschema : Frame.Fits options.limits.maxFrameBytes
      (Utf8.encode (ColumnSchema.ofTypes columns).toJson)) {body : Bytes}
    {outcome : Outcome MemorySink}
    (hopening : Outcome.ofOpening memorySink none options.limits.maxFrameBytes
      ⟨id, method.getD .none, .ofTypes columns⟩ body (MemorySink.new .none) = outcome)
    (hwhole : ¬outcome.IsCut) {source : Source}
    (hdelivers : source.Delivers options.limits.readTimeout
      (Client.tokenBytes options.token ++ (Frame.bytes (Utf8.encode id) ++
        (Client.methodBytes method ++
          (Frame.bytes (Utf8.encode (ColumnSchema.ofTypes columns).toJson) ++ body))))) :
    ComesTo outcome (runFresh options none .none source) := by
  have hspelled := spelled_preamble columns htoken hmethod hid hschema body
  have hinput := (Outcome.ofInput_of_spelled hspelled).trans hopening
  have hcomes := comesTo_run memorySink options none (MemorySink.new .none) hdelivers
    fun hcut => absurd (hinput ▸ hcut) hwhole
  rwa [hinput] at hcomes

/-- **What is exported is received.**  Over whatever connection its bytes arrive, an export makes a
session succeed that shares its settings, as long as the texts of a column of a batch come to no
more than offsets can reach.  The client is told `OK`, and the sink has been handed the destination
with its columns, all batches in order, each with exactly the rows that were pushed, and a close.

The first batch with more text takes the session with it: there is no result and no reply, and the
sink has been handed the batches before it.  Of the compressor it is assumed that the payloads come
back from their frames. -/
theorem export_received (options : SessionOptions) (pack : Compression.Method → Bytes → Bytes)
    (method : Option Compression.Method) (id : String) (columns : List (String × LogicalType))
    (tables : List (List (List Value))) (payloads : List Bytes)
    (htoken : ∀ token, options.token = some token → 0 < (Utf8.encode token).length ∧
      (Utf8.encode token).length ≤ maxTokenBytes)
    (hmethod : method.isSome = options.negotiate)
    (hid : 0 < (Utf8.encode id).length ∧ (Utf8.encode id).length ≤ maxQueryIdBytes)
    (hpushed : List.Forall₂
      (fun table payload => payloadOfRows (.ofTypes columns) table = .ok payload) tables payloads)
    (hcount : ∀ table ∈ tables, table.length < 2 ^ 32)
    (hschema : Frame.Fits options.limits.maxFrameBytes
      (Utf8.encode (ColumnSchema.ofTypes columns).toJson))
    (hframes : ∀ payload ∈ payloads, Frame.Fits options.limits.maxFrameBytes
      (Client.packed pack (method.getD .none) payload))
    (hpack : ∀ payload ∈ payloads, Compression.Decompressor.expand (method.getD .none) 0
      (Client.packed pack (method.getD .none) payload) = .ok ⟨payload.toArray⟩) :
    ∃ client, Client.exportWith pack options.token method id (.ofTypes columns) payloads =
        .ok client ∧
      ∀ source : Source, source.Delivers options.limits.readTimeout client.sent →
        let done := runFresh options none .none source
        ((∀ table ∈ tables, ∀ c, textIn table c ≤ 2147483647) →
          (∃ summary, done.1.result = some (.ok summary)) ∧ done.1.reply = Utf8.encode "OK" ∧
            ∃ batches, List.Forall₂ (fun table batch => batch.Holds (.ofTypes columns) table)
                tables batches ∧
              done.2.events = .opened id (ColumnSchema.ofTypes columns).fields ::
                (batches.map (.written id) ++ [.closed id])) ∧
        ∀ front table back, tables = front ++ table :: back →
          (∀ earlier ∈ front, ∀ c, textIn earlier c ≤ 2147483647) →
          (∃ c, 2147483647 < textIn table c) →
          done.1.result = none ∧ done.1.reply = [] ∧
            ∃ batches, List.Forall₂ (fun table batch => batch.Holds (.ofTypes columns) table)
                front batches ∧
              done.2.events = .opened id (ColumnSchema.ofTypes columns).fields ::
                batches.map (.written id) := by
  refine ⟨_, Client.exportWith_eq_ok (ne_nil_of_pushed hpushed) options.token method id _, ?_⟩
  intro source hdelivers done
  let preamble : Preamble := ⟨id, method.getD .none, .ofTypes columns⟩
  have hwrite : (intakeOf options .none preamble).failWriteAt = none := rfl
  constructor
  · intro hoffsets
    obtain ⟨batches, htakes, hholds⟩ :=
      takes_batchBytes hwrite hpushed hcount hoffsets hframes hpack 0 (Frame.bytes [])
    obtain ⟨summary, hopening⟩ := ofOpening_of_end options preamble htakes
    have hcomes : ComesTo _ done := comesTo_export htoken hmethod hid hschema hopening
      (by rintro ⟨_, herror, -⟩; cases herror) hdelivers
    exact ⟨⟨summary, hcomes.result⟩, hcomes.reply, batches, hholds, congrArg _ hcomes.world⟩
  · rintro front table back rfl hfront ⟨c, hmore⟩
    obtain ⟨before, payload, behind, rfl, hbefore, hpayload⟩ := exists_payload_of_pushed hpushed
    obtain ⟨hcountFront, hcountTable⟩ := List.forall_mem_append.1 hcount
    obtain ⟨hframesFront, hframesRest⟩ := List.forall_mem_append.1 hframes
    obtain ⟨hpackFront, hpackRest⟩ := List.forall_mem_append.1 hpack
    have hmem : payload ∈ payload :: behind := List.mem_cons_self
    obtain ⟨batches, htakes, hholds⟩ := takes_batchBytes hwrite hbefore hcountFront hfront
      hframesFront hpackFront 0 (Frame.bytes (Client.packed pack (method.getD .none) payload) ++
        (Client.batchBytes pack (method.getD .none) behind ++ Frame.bytes []))
    have hlost : (intakeOf options .none preamble).Overflows
        (Frame.bytes (Client.packed pack (method.getD .none) payload) ++
          (Client.batchBytes pack (method.getD .none) behind ++ Frame.bytes [])) :=
      overflows_packed hpayload (hcountTable table List.mem_cons_self)
        (fun hfits => Nat.not_lt_of_le (hfits c) hmore) (hframesRest payload hmem)
        (hpackRest payload hmem) _
    simp only [Client.batchBytes_append, Client.batchBytes, List.append_assoc] at hdelivers
    have hcomes : ComesTo _ done := comesTo_export htoken hmethod hid hschema
      (ofOpening_of_overflows options preamble htakes hlost)
      (by rintro ⟨_, herror, -⟩; cases herror) hdelivers
    exact ⟨hcomes.result, hcomes.reply, batches, hholds, congrArg _ hcomes.world⟩

/-- One row, with a token and as an LZ4 block. -/
theorem export_received_one_row :
    let options : SessionOptions := ⟨⟨some 64, none⟩, .strict, some "secret", true⟩
    let schema := ColumnSchema.ofTypes [("a", .integer)]
    ∃ client, Client.exportWith Compression.compress options.token (some .lz4) "q" schema
        [[0, 0, 0, 1, 0, 0, 0, 0, 7]] = .ok client ∧
      let done := runFresh options none .none (Source.ofBytes client.sent)
      done.1.reply = Utf8.encode "OK" ∧
        ∃ batches, List.Forall₂ (fun table batch => batch.Holds schema table) [[[.int 7]]] batches ∧
          done.2.events = .opened "q" schema.fields ::
            (batches.map (.written "q") ++ [.closed "q"]) := by
  intro options schema
  have htoken : ∀ token, options.token = some token → 0 < (Utf8.encode token).length ∧
      (Utf8.encode token).length ≤ maxTokenBytes := by
    rintro _ ⟨⟩
    decide +kernel
  have hid : 0 < (Utf8.encode "q").length ∧ (Utf8.encode "q").length ≤ maxQueryIdBytes := by
    decide +kernel
  have hschema : Frame.Fits (some 64) (Utf8.encode schema.toJson) :=
    ⟨by decide +kernel, by decide +kernel⟩
  have hframe : Frame.Fits (some 64)
      (Client.packed Compression.compress .lz4 [0, 0, 0, 1, 0, 0, 0, 0, 7]) :=
    ⟨by decide +kernel, by decide +kernel⟩
  obtain ⟨client, hsent, hreceived⟩ := export_received options Compression.compress (some .lz4) "q"
    [("a", .integer)] [[[.int 7]]] [[0, 0, 0, 1, 0, 0, 0, 0, 7]] htoken rfl hid (.cons rfl .nil)
    (by decide) hschema (List.forall_mem_singleton.2 hframe) (List.forall_mem_singleton.2 rfl)
  obtain ⟨hreceived, -⟩ := hreceived _ (Source.delivers_ofBytes _ _)
  have hoffsets : ∀ table ∈ [[[Value.int 7]]], ∀ c, textIn table c ≤ 2147483647 := by
    refine List.forall_mem_singleton.2 fun c => ?_
    rw [textIn_singleton]
    cases c <;> exact Nat.zero_le _
  obtain ⟨-, hreply, hevents⟩ := hreceived hoffsets
  exact ⟨client, hsent, hreply, hevents⟩

/-- Rows of the longest text there can be, which fit one frame.  The session comes to nothing. -/
theorem export_received_long_texts :
    let options : SessionOptions := ⟨⟨none, none⟩, .permissive, none, false⟩
    let schema := ColumnSchema.ofTypes [("c", .varchar)]
    let rows : List (List Value) :=
      List.replicate 32769 [.text (String.ofList (List.replicate 65535 'a'))]
    ∃ payload client, payloadOfRows schema rows = .ok payload ∧ rows.length < 2 ^ 32 ∧
      Frame.Fits none payload ∧
      Client.exportWith Compression.compress none none "q" schema [payload] = .ok client ∧
      let done := runFresh options none .none (Source.ofBytes client.sent)
      done.1.result = none ∧ done.1.reply = [] ∧ done.2.events = [.opened "q" schema.fields] := by
  intro options schema rows
  have hcount : rows.length < Bytes.span 4 := by
    rw [List.length_replicate]
    decide
  have htext := Utf8.utf8ByteSize_ofList_replicate 65535 'a'
  have hadmits : ∀ row ∈ rows, schema.Admits row := fun row hmem => by
    rw [List.eq_of_mem_replicate hmem]
    exact .cons ⟨rfl, by rw [Utf8.length_encode, htext]; decide⟩ .nil
  have hmuch : ¬FitsOffsets rows := by
    refine not_fitsOffsets_replicate (c := 0) ?_
    rw [List.getD_cons_zero, Value.textBytes, htext]
    decide
  obtain ⟨payload, hpayload⟩ : ∃ payload, payload =
      Spelling.payload (rows.map (·.map Value.spelling)) := ⟨_, rfl⟩
  have hpushed : payloadOfRows schema rows = .ok payload :=
    hpayload ▸ payloadOfRows_of_admits hadmits
  have hsize : payload.length = 2147614726 := by
    rw [hpayload, Spelling.payload, List.length_append, Bytes.length_ofNatBE, List.map_replicate,
      Spelling.length_tableBytes_replicate, List.map_singleton, Value.spelling,
      Spelling.length_rowBytes_text, Utf8.length_encode, htext]
    decide
  have hfits : Frame.Fits none payload := ⟨by rw [hsize]; decide, by rw [hsize]; decide⟩
  -- From here on it does not matter which rows they are.
  clear_value rows
  refine ⟨payload, _, hpushed, hcount, hfits,
    Client.exportWith_eq_ok (ne_nil_of_pushed (.cons hpushed .nil)) none none "q" schema, ?_⟩
  intro done
  have hid : 0 < (Utf8.encode "q").length ∧ (Utf8.encode "q").length ≤ maxQueryIdBytes := by
    decide +kernel
  have hschema : Frame.Fits none (Utf8.encode schema.toJson) :=
    ⟨by decide +kernel, by decide +kernel⟩
  have hspelled := @spelled_preamble options none "q" [("c", .varchar)] (by rintro _ ⟨⟩) rfl hid
    hschema (Client.batchBytes Compression.compress .none [payload] ++ Frame.bytes [])
  have hlost : (intakeOf options .none ⟨"q", .none, schema⟩).Overflows
      (Client.batchBytes Compression.compress .none [payload] ++ Frame.bytes []) := by
    rw [Client.batchBytes, List.append_assoc]
    exact overflows_packed hpushed hcount hmuch hfits rfl _
  have hcomes : ComesTo _ done :=
    comesTo_of_overflows hspelled .stop hlost (Source.delivers_ofBytes _ _)
  exact ⟨hcomes.result, hcomes.reply, congrArg _ hcomes.world⟩

end Session
end BatchBridge
