import BatchBridge.Flight.Receiver

/-!
# What a call delivers

What a receiver keeps of a call can be told from the messages of the call as a whole.

* `Shipment`, `complete?` — what a call delivers that has these messages and ends cleanly: the first
  one names a destination (`opens?`), and all of them bring a schema and batches (`batches?`); if
  they do not, nothing is delivered.  `complete?_eq_some_iff`: what the messages of such a call have
  to look like.  `batches?_streamMessages`: a stream that is sent whole looks like that.
* `Put.receiveAll`, `PutState.receiveAll` — takes in messages one after the other.
  **`Put.exists_receiveAll_new_iff`**: what an accepted call has of them.
  **`PutState.receiveAll_waiting`**: how far a call has come with its messages is what they deliver,
  or a refusal.
* **`Receiver.finish_receiveAll`** — a clean end leaves what is delivered, all of it or nothing.
* `Receiver.mem_append`, `Receiver.sorted_append`, `Receiver.lookup_append` — a commit is seen for
  its destination only, and destinations stay in order.
-/

namespace BatchBridge.Flight

/-! ## Messages -/

/-- What a stream delivers. -/
structure Shipment where
  destination : String
  batches : List Batch
  deriving DecidableEq, Repr

/-- The destination that a first message opens a stream for: it names one that is accepted. -/
def opens? (rejected : List String) (message : PutMessage) : Option String :=
  match message.path with
  | none | some [] => none
  | some (name :: rest) =>
    let destination := "/".intercalate (name :: rest)
    if destination ∈ rejected then none else some destination

/-- Whether there is nothing in a message. -/
def PutContent.isNothing : PutContent → Bool
  | .nothing .. => true
  | _ => false

/-- What a message brings that is a batch. -/
def PutContent.batch? : PutContent → Option Batch
  | .batch rows => some rows
  | _ => none

/-- The batches that a whole stream brings.  Apart from messages with nothing in them, it begins
with its schema and goes on with batches, or it has nothing to say at all. -/
def batches? (contents : List PutContent) : Option (List Batch) :=
  match contents.filter (!·.isNothing) with
  | [] => some []
  | .fields _ :: rest => rest.mapM PutContent.batch?
  | _ => none

/-- What a stream delivers that ends cleanly with these messages: all its batches, or nothing. -/
def complete? (rejected : List String) (messages : List PutMessage) : Option Shipment :=
  if ∀ message ∈ messages, message.size ≤ maxMessageBytes then do
    let destination ← messages.head?.bind (opens? rejected)
    let batches ← batches? (messages.map (·.content))
    return ⟨destination, batches⟩
  else none

theorem opens?_eq_some_iff {rejected : List String} {message : PutMessage} {destination : String} :
    opens? rejected message = some destination ↔
      (∃ path, path ≠ [] ∧ message.path = some path ∧ destination = "/".intercalate path) ∧
        destination ∉ rejected := by
  obtain ⟨path, content⟩ := message
  match path with
  | none => simp [opens?]
  | some [] => simp +contextual [opens?]
  | some (name :: rest) =>
    simp only [opens?, Option.ite_none_left_eq_some, Option.some.injEq]
    refine ⟨?_, ?_⟩
    · rintro ⟨haccepted, rfl⟩
      exact ⟨⟨name :: rest, by simp, rfl, rfl⟩, haccepted⟩
    · rintro ⟨⟨path, -, rfl, rfl⟩, haccepted⟩
      exact ⟨haccepted, rfl⟩

theorem mapM_batch?_eq_some_iff {contents : List PutContent} {batches : List Batch} :
    contents.mapM PutContent.batch? = some batches ↔ contents = batches.map .batch := by
  induction contents generalizing batches with
  | nil => cases batches <;> simp
  | cons content contents ih =>
    rw [List.mapM_cons]
    cases content with
    | batch rows =>
      cases batches with
      | nil => cases hrest : contents.mapM PutContent.batch? <;> simp [PutContent.batch?]
      | cons batch batches =>
        rw [List.map_cons, List.cons.injEq, PutContent.batch.injEq, ← ih]
        cases hrest : contents.mapM PutContent.batch? <;> simp [PutContent.batch?]
    | _ => cases batches <;> simp [PutContent.batch?]

theorem batches?_eq_some_iff {contents : List PutContent} {batches : List Batch} :
    batches? contents = some batches ↔
      (contents.filter (!·.isNothing) = [] ∧ batches = []) ∨
        ∃ fields, contents.filter (!·.isNothing) = .fields fields :: batches.map .batch := by
  rw [batches?]
  cases hspoken : contents.filter (!·.isNothing) with
  | nil => exact ⟨fun h => .inl ⟨rfl, (Option.some.inj h).symm⟩, by simp +contextual⟩
  | cons content rest =>
    cases content with
    | fields fields => simp [mapM_batch?_eq_some_iff]
    | _ => simp

/-- The messages of a stream bring its batches, in chunks. -/
theorem batches?_streamMessages (path : Option (List String)) (fields : List Field)
    (batches : List Batch) :
    batches? ((streamMessages path fields batches).map (·.content)) =
      some (batches.flatMap Batch.chunks) := by
  have hcontents : (streamMessages path fields batches).map (·.content) =
      .fields fields :: (batches.flatMap Batch.chunks).map .batch := by
    simp [streamMessages, openingMessage, batchMessages, List.map_flatMap, Function.comp_def]
  have hspoken : ∀ content ∈ (batches.flatMap Batch.chunks).map PutContent.batch,
      (!content.isNothing) = true := by
    intro content hmem
    obtain ⟨chunk, -, rfl⟩ := List.mem_map.1 hmem
    rfl
  refine batches?_eq_some_iff.2 (.inr ⟨fields, ?_⟩)
  rw [hcontents, List.filter_cons_of_pos rfl, List.filter_eq_self.2 hspoken]

/-- **A stream delivers all its batches or nothing.**  It delivers if its first message names a
destination that is accepted, if none of its messages is too large, and if all of them together are
a schema and batches, apart from messages with nothing in them.  They may all have nothing in them. -/
theorem complete?_eq_some_iff {rejected : List String} {messages : List PutMessage}
    {shipment : Shipment} :
    complete? rejected messages = some shipment ↔
      (∃ first path, messages.head? = some first ∧ path ≠ [] ∧ first.path = some path ∧
        shipment.destination = "/".intercalate path) ∧
      shipment.destination ∉ rejected ∧
      (∀ message ∈ messages, message.size ≤ maxMessageBytes) ∧
      batches? (messages.map (·.content)) = some shipment.batches := by
  simp only [complete?, Option.ite_none_right_eq_some, Option.bind_eq_bind,
    Option.bind_eq_some_iff, Option.pure_def, Option.some.injEq, opens?_eq_some_iff]
  refine ⟨?_, ?_⟩
  · rintro ⟨hsizes, destination, ⟨first, hfirst, ⟨path, hpath, hnamed, hname⟩, haccepted⟩,
      batches, hbatches, rfl⟩
    exact ⟨⟨first, path, hfirst, hpath, hnamed, hname⟩, haccepted, hsizes, hbatches⟩
  · rintro ⟨⟨first, path, hfirst, hpath, hnamed, hname⟩, haccepted, hsizes, hbatches⟩
    exact ⟨hsizes, _, ⟨first, hfirst, ⟨path, hpath, hnamed, hname⟩, haccepted⟩, _, hbatches,
      rfl⟩

/-- Behind a message that opens a stream, what it delivers is up to all of the messages. -/
theorem complete?_of_opens {rejected : List String} {first : PutMessage} {destination : String}
    (hopens : opens? rejected first = some destination) {rest : List PutMessage}
    {shipment : Shipment} :
    complete? rejected (first :: rest) = some shipment ↔
      shipment.destination = destination ∧
      (∀ message ∈ first :: rest, message.size ≤ maxMessageBytes) ∧
        batches? ((first :: rest).map (·.content)) = some shipment.batches := by
  obtain ⟨name, batches⟩ := shipment
  simp only [complete?, List.head?_cons, Option.bind_some, hopens, Option.ite_none_right_eq_some,
    Option.bind_eq_bind, Option.bind_eq_some_iff, Option.pure_def, Option.some.injEq,
    Shipment.mk.injEq]
  refine ⟨?_, ?_⟩
  · rintro ⟨hsizes, brought, hbrought, rfl, rfl⟩
    exact ⟨rfl, hsizes, hbrought⟩
  · rintro ⟨rfl, hsizes, hbrought⟩
    exact ⟨hsizes, batches, hbrought, rfl, rfl⟩

/-! ## What becomes of a call -/

namespace Put

variable {put after : Put}

theorem receive_eq_ok_iff {message : PutMessage} :
    put.receive message = .ok after ↔
      message.size ≤ maxMessageBytes ∧ put.decode message.content = .ok after := by
  rw [receive]
  split
  · rename_i hsize
    simp [hsize]
  · rename_i hsize
    simp [hsize]

/-- Behind its schema a call takes batches. -/
theorem decode_eq_ok_iff_of_some {fields : List Field} (hfields : put.fields = some fields)
    {content : PutContent} :
    put.decode content = .ok after ↔
      (content.isNothing = true ∧ after = put) ∨
        ∃ batch, content = .batch batch ∧
          after = { put with batches := put.batches ++ [batch] } := by
  cases content <;> simp [decode, hfields, PutContent.isNothing, eq_comm]

/-- Before its schema a call takes that. -/
theorem decode_eq_ok_iff_of_none (hfields : put.fields = none) {content : PutContent} :
    put.decode content = .ok after ↔
      (content.isNothing = true ∧ after = put) ∨
        ∃ fields, content = .fields fields ∧ after = { put with fields := some fields } := by
  cases content <;> simp [decode, hfields, PutContent.isNothing, eq_comm]

/-- Takes in messages, one after the other. -/
def receiveAll (messages : List PutMessage) (put : Put) : Except PutStatus Put :=
  messages.foldlM receive put

theorem receiveAll_cons_eq_ok_iff {message : PutMessage} {messages : List PutMessage} :
    put.receiveAll (message :: messages) = .ok after ↔
      message.size ≤ maxMessageBytes ∧
        ∃ next, put.decode message.content = .ok next ∧ next.receiveAll messages = .ok after := by
  rw [receiveAll, List.foldlM_cons]
  cases hnext : put.receive message with
  | error status =>
    refine ⟨nofun, ?_⟩
    rintro ⟨hsize, next, hdecode, -⟩
    rw [receive_eq_ok_iff.2 ⟨hsize, hdecode⟩] at hnext
    cases hnext
  | ok next =>
    obtain ⟨hsize, hdecode⟩ := receive_eq_ok_iff.1 hnext
    simp [hsize, hdecode, receiveAll, bind, Except.bind]

/-- What a call has that goes on behind its schema. -/
theorem receiveAll_eq_ok_iff_of_some {fields : List Field} (hfields : put.fields = some fields)
    {messages : List PutMessage} :
    put.receiveAll messages = .ok after ↔
      (∀ message ∈ messages, message.size ≤ maxMessageBytes) ∧
      ∃ batches, (messages.map (·.content)).filter (!·.isNothing) = batches.map .batch ∧
        after = { put with batches := put.batches ++ batches } := by
  -- with the call generalized: each batch that comes is one more that it has
  induction messages generalizing put with
  | nil =>
    refine ⟨fun h => ?_, ?_⟩
    · obtain rfl : put = after := Except.ok.inj h
      exact ⟨by simp, [], rfl, by simp⟩
    · rintro ⟨-, batches, hbatches, rfl⟩
      obtain rfl : batches = [] := by simpa using hbatches.symm
      simp [receiveAll, pure, Except.pure]
  | cons message messages ih =>
    rw [receiveAll_cons_eq_ok_iff]
    simp only [decode_eq_ok_iff_of_some hfields, List.forall_mem_cons, List.map_cons]
    refine ⟨?_, ?_⟩
    · rintro ⟨hsize, next, ⟨hnothing, rfl⟩ | ⟨batch, hbatch, rfl⟩, hrest⟩
      · obtain ⟨hsizes, batches, hbatches, rfl⟩ := (ih hfields).1 hrest
        exact ⟨⟨hsize, hsizes⟩, batches, by simpa [hnothing] using hbatches, rfl⟩
      · obtain ⟨hsizes, batches, hbatches, rfl⟩ := (ih (by exact hfields)).1 hrest
        exact ⟨⟨hsize, hsizes⟩, batch :: batches,
          by simpa [hbatch, PutContent.isNothing] using hbatches, by simp⟩
    · rintro ⟨⟨hsize, hsizes⟩, batches, hbatches, rfl⟩
      refine ⟨hsize, ?_⟩
      cases hnothing : message.content.isNothing with
      | true =>
        refine ⟨put, .inl ⟨rfl, rfl⟩, (ih hfields).2 ⟨hsizes, batches, ?_, rfl⟩⟩
        simpa [hnothing] using hbatches
      | false =>
        rw [List.filter_cons_of_pos (by simp [hnothing])] at hbatches
        cases batches with
        | nil => cases hbatches
        | cons batch batches =>
          obtain ⟨hbatch, hbatches⟩ := List.cons.inj hbatches
          refine ⟨_, .inr ⟨batch, hbatch, rfl⟩,
            (ih (by exact hfields)).2 ⟨hsizes, batches, hbatches, ?_⟩⟩
          simp

/-- What a call has that has not brought its schema before. -/
theorem receiveAll_eq_ok_iff_of_none (hfields : put.fields = none) {messages : List PutMessage} :
    put.receiveAll messages = .ok after ↔
      (∀ message ∈ messages, message.size ≤ maxMessageBytes) ∧
      (((messages.map (·.content)).filter (!·.isNothing) = [] ∧ after = put) ∨
        ∃ fields batches,
          (messages.map (·.content)).filter (!·.isNothing) = .fields fields :: batches.map .batch ∧
            after = { put with fields := some fields, batches := put.batches ++ batches }) := by
  induction messages with
  | nil =>
    refine ⟨fun h => ?_, ?_⟩
    · obtain rfl : put = after := Except.ok.inj h
      exact ⟨by simp, .inl ⟨rfl, rfl⟩⟩
    · rintro ⟨-, ⟨-, rfl⟩ | ⟨fields, batches, hspoken, -⟩⟩
      · rfl
      · cases hspoken
  | cons message messages ih =>
    rw [receiveAll_cons_eq_ok_iff]
    simp only [decode_eq_ok_iff_of_none hfields, List.forall_mem_cons, List.map_cons]
    cases hnothing : message.content.isNothing with
    | true =>
      rw [List.filter_cons_of_neg (by simp [hnothing])]
      refine ⟨?_, ?_⟩
      · rintro ⟨hsize, next, ⟨-, rfl⟩ | ⟨fields, hcontent, -⟩, hrest⟩
        · obtain ⟨hsizes, hbrought⟩ := ih.1 hrest
          exact ⟨⟨hsize, hsizes⟩, hbrought⟩
        · simp [hcontent, PutContent.isNothing] at hnothing
      · rintro ⟨⟨hsize, hsizes⟩, hbrought⟩
        exact ⟨hsize, put, .inl ⟨rfl, rfl⟩, ih.2 ⟨hsizes, hbrought⟩⟩
    | false =>
      rw [List.filter_cons_of_pos (by simp [hnothing])]
      refine ⟨?_, ?_⟩
      · rintro ⟨hsize, next, ⟨hnot, -⟩ | ⟨fields, hcontent, rfl⟩, hrest⟩
        · cases hnot
        · obtain ⟨hsizes, batches, hbatches, rfl⟩ := (receiveAll_eq_ok_iff_of_some rfl).1 hrest
          exact ⟨⟨hsize, hsizes⟩, .inr ⟨fields, batches, by rw [hcontent, hbatches], rfl⟩⟩
      · rintro ⟨⟨hsize, hsizes⟩, ⟨hempty, -⟩ | ⟨fields, batches, hspoken, rfl⟩⟩
        · cases hempty
        · obtain ⟨hcontent, hbatches⟩ := List.cons.inj hspoken
          exact ⟨hsize, _, .inr ⟨fields, hcontent, rfl⟩,
            (receiveAll_eq_ok_iff_of_some rfl).2 ⟨hsizes, batches, hbatches, rfl⟩⟩

/-- **What a call has** that has brought these messages: all their batches. -/
theorem exists_receiveAll_new_iff {destination : String} {messages : List PutMessage}
    {batches : List Batch} :
    (∃ fields, receiveAll messages ⟨destination, none, []⟩ = .ok ⟨destination, fields, batches⟩) ↔
      (∀ message ∈ messages, message.size ≤ maxMessageBytes) ∧
        batches? (messages.map (·.content)) = some batches := by
  simp only [receiveAll_eq_ok_iff_of_none, batches?_eq_some_iff, Put.mk.injEq, true_and,
    List.nil_append]
  refine ⟨?_, ?_⟩
  · rintro ⟨fields, hsizes, ⟨hempty, -, rfl⟩ | ⟨fields, batches, hspoken, rfl, rfl⟩⟩
    · exact ⟨hsizes, .inl ⟨hempty, rfl⟩⟩
    · exact ⟨hsizes, .inr ⟨fields, hspoken⟩⟩
  · rintro ⟨hsizes, ⟨hempty, rfl⟩ | ⟨fields, hspoken⟩⟩
    · exact ⟨none, hsizes, .inl ⟨hempty, rfl, rfl⟩⟩
    · exact ⟨some fields, hsizes, .inr ⟨fields, batches, hspoken, rfl, rfl⟩⟩

theorem destination_of_receiveAll {destination : String} {messages : List PutMessage}
    (h : receiveAll messages ⟨destination, none, []⟩ = .ok after) :
    after.destination = destination := by
  obtain ⟨-, ⟨-, rfl⟩ | ⟨fields, batches, -, rfl⟩⟩ := (receiveAll_eq_ok_iff_of_none rfl).1 h <;> rfl

end Put

namespace PutState

/-- Takes in messages, one after the other. -/
def receiveAll (receiver : Receiver) (messages : List PutMessage) (state : PutState) : PutState :=
  messages.foldl (fun state message => state.receive receiver message) state

variable {receiver : Receiver}

@[simp] theorem receiveAll_nil (state : PutState) : state.receiveAll receiver [] = state := rfl

@[simp] theorem receiveAll_cons (message : PutMessage) (messages : List PutMessage)
    (state : PutState) :
    state.receiveAll receiver (message :: messages) =
      (state.receive receiver message).receiveAll receiver messages := rfl

theorem receiveAll_append (earlier later : List PutMessage) (state : PutState) :
    state.receiveAll receiver (earlier ++ later) =
      (state.receiveAll receiver earlier).receiveAll receiver later := by
  simp [receiveAll]

theorem receiveAll_refused (status : PutStatus) (messages : List PutMessage) :
    receiveAll receiver messages (.refused status) = .refused status := by
  induction messages with
  | nil => rfl
  | cons message messages ih =>
    rw [receiveAll_cons]
    exact ih

/-- A call whose destination has been accepted goes on until a message has it refused. -/
theorem receiveAll_receiving (receiver : Receiver) (put : Put) (messages : List PutMessage) :
    receiveAll receiver messages (.receiving put) = .ofResult (put.receiveAll messages) := by
  induction messages generalizing put with
  | nil => rfl
  | cons message messages ih =>
    rw [receiveAll_cons, Put.receiveAll, List.foldlM_cons, receive]
    cases put.receive message with
    | ok next => exact ih next
    | error status => exact receiveAll_refused status messages

/-- The first message has the call accepted if it opens a stream, and refused if not or if it is too
large.  What is in it is taken in like any other. -/
theorem receive_waiting (receiver : Receiver) (message : PutMessage) :
    (message.size ≤ maxMessageBytes →
      ∀ destination, opens? receiver.rejected message = some destination →
        receive receiver message .waiting =
          receive receiver message (.receiving ⟨destination, none, []⟩)) ∧
    (¬message.size ≤ maxMessageBytes ∨ opens? receiver.rejected message = none →
      ∃ status, receive receiver message .waiting = .refused status) := by
  obtain ⟨path, content⟩ := message
  by_cases hsize : PutMessage.size ⟨path, content⟩ ≤ maxMessageBytes
  · match path with
    | none => simp [opens?, receive, begin, hsize, destinationOf, ofResult, Except.bind]
    | some [] => simp [opens?, receive, begin, hsize, destinationOf, ofResult, Except.bind]
    | some (name :: rest) =>
      by_cases hrejected : "/".intercalate (name :: rest) ∈ receiver.rejected
      · simp [opens?, receive, begin, hsize, destinationOf, hrejected, ofResult, Except.bind]
      · simp [opens?, receive, begin, hsize, destinationOf, hrejected, Except.bind, Put.receive]
  · simp [receive, begin, hsize, ofResult, Except.bind]

end PutState

/-! ## The end of a call -/

/-- What has been delivered is kept. -/
def Receiver.deliver (shipment : Shipment) (receiver : Receiver) : Receiver :=
  { receiver with
    committed := append shipment.destination shipment.batches receiver.committed }

/-- How far a call has come whose messages are these: what they deliver, or a refusal. -/
theorem PutState.receiveAll_waiting (receiver : Receiver) (messages : List PutMessage)
    (hnonempty : messages ≠ []) :
    (∀ shipment, complete? receiver.rejected messages = some shipment →
      ∃ fields, receiveAll receiver messages .waiting =
        .receiving ⟨shipment.destination, fields, shipment.batches⟩) ∧
    (complete? receiver.rejected messages = none →
      ∃ status, receiveAll receiver messages .waiting = .refused status) := by
  cases messages with
  | nil => exact absurd rfl hnonempty
  | cons first rest =>
    obtain ⟨haccepted, hturned⟩ := receive_waiting receiver first
    by_cases hsize : first.size ≤ maxMessageBytes
    · cases hopens : opens? receiver.rejected first with
      | none =>
        obtain ⟨status, hstatus⟩ := hturned (.inr hopens)
        rw [receiveAll_cons, hstatus, receiveAll_refused]
        simp [complete?, hopens]
      | some destination =>
        rw [receiveAll_cons, haccepted hsize destination hopens, ← receiveAll_cons,
          receiveAll_receiving]
        refine ⟨?_, ?_⟩
        · intro shipment hcomplete
          obtain ⟨rfl, hwhole⟩ := (complete?_of_opens hopens).1 hcomplete
          obtain ⟨fields, hreceived⟩ := Put.exists_receiveAll_new_iff.2 hwhole
          exact ⟨fields, congrArg ofResult hreceived⟩
        · intro hnone
          cases hreceived : Put.receiveAll (first :: rest) ⟨destination, none, []⟩ with
          | error status => exact ⟨status, rfl⟩
          | ok after =>
            obtain ⟨name, fields, batches⟩ := after
            obtain rfl : name = destination := Put.destination_of_receiveAll hreceived
            have hwhole := Put.exists_receiveAll_new_iff.1 ⟨fields, hreceived⟩
            have hcomplete : complete? receiver.rejected (first :: rest) = some ⟨name, batches⟩ :=
              (complete?_of_opens hopens).2 ⟨rfl, hwhole⟩
            rw [hcomplete] at hnone
            cases hnone
    · obtain ⟨status, hstatus⟩ := hturned (.inl hsize)
      rw [receiveAll_cons, hstatus, receiveAll_refused]
      simp [complete?, hsize]

/-- **A call that ends cleanly leaves what it delivers**, all of it or nothing. -/
theorem Receiver.finish_receiveAll (receiver before : Receiver) (messages : List PutMessage) :
    (receiver.finish (.receiveAll before messages .waiting)).2 =
      match complete? before.rejected messages with
      | some shipment => receiver.deliver shipment
      | none => receiver := by
  by_cases hnonempty : messages = []
  · rw [hnonempty]
    rfl
  · obtain ⟨hgoes, hfails⟩ := PutState.receiveAll_waiting before messages hnonempty
    cases hcomplete : complete? before.rejected messages with
    | none =>
      obtain ⟨status, hstatus⟩ := hfails hcomplete
      rw [hstatus, finish]
    | some shipment =>
      obtain ⟨fields, hreceived⟩ := hgoes shipment hcomplete
      rw [hreceived]
      rfl

/-! ## What is kept -/

namespace Receiver

variable (destination : String) (batches : List Batch) {held : List (String × List Batch)}

theorem mem_append (held : List (String × List Batch)) (name : String) :
    name ∈ (append destination batches held).map (·.1) ↔
      name = destination ∨ name ∈ held.map (·.1) := by
  induction held with
  | nil => simp [append]
  | cons entry held ih =>
    obtain ⟨first, kept⟩ := entry
    rw [append]
    split
    · rename_i hsame
      simp [hsame]
    · split
      · simp
      · simp only [List.map_cons, List.mem_cons, ih]
        exact or_left_comm

/-- The destinations stay in order. -/
theorem sorted_append (hsorted : (held.map (·.1)).Pairwise (· < ·)) :
    ((append destination batches held).map (·.1)).Pairwise (· < ·) := by
  induction held with
  | nil => simp [append]
  | cons entry held ih =>
    obtain ⟨first, kept⟩ := entry
    simp only [List.map_cons, List.pairwise_cons] at hsorted
    obtain ⟨hfirst, hrest⟩ := hsorted
    rw [append]
    split
    · simp only [List.map_cons, List.pairwise_cons]
      exact ⟨hfirst, hrest⟩
    · rename_i hne
      split
      · rename_i hbefore
        simp only [List.map_cons, List.pairwise_cons, List.mem_cons, forall_eq_or_imp]
        refine ⟨⟨hbefore, ?_⟩, hfirst, hrest⟩
        intro name hname
        exact String.lt_trans hbefore (hfirst name hname)
      · rename_i hnotBefore
        simp only [List.map_cons, List.pairwise_cons]
        refine ⟨?_, ih hrest⟩
        intro name hname
        rcases (mem_append ..).1 hname with rfl | hold
        · refine Decidable.byContradiction fun hafter => hne ?_
          exact String.le_antisymm (String.not_lt.1 hafter) (String.not_lt.1 hnotBefore)
        · exact hfirst name hold

theorem lookup_cons (name first : String) (kept : List Batch) :
    ((first, kept) :: held).lookup name =
      if name = first then some kept else held.lookup name := by
  rw [List.lookup_cons]
  by_cases hname : name = first
  · simp [hname]
  · rw [beq_eq_false_iff_ne.2 hname, if_neg hname]

/-- A commit is seen for its destination, behind what was there, and for no other. -/
theorem lookup_append (hsorted : (held.map (·.1)).Pairwise (· < ·)) (name : String) :
    ((append destination batches held).lookup name).getD [] =
      (held.lookup name).getD [] ++ if name = destination then batches else [] := by
  induction held with
  | nil =>
    rw [append, lookup_cons]
    split <;> simp
  | cons entry held ih =>
    obtain ⟨first, kept⟩ := entry
    simp only [List.map_cons, List.pairwise_cons] at hsorted
    obtain ⟨hfirst, hrest⟩ := hsorted
    rw [append]
    split
    · rename_i hsame
      rw [lookup_cons, lookup_cons, hsame]
      split <;> simp
    · rename_i hne
      split
      · rename_i hbefore
        rw [lookup_cons]
        split
        · rename_i hname
          -- in order, so the destination is not among those behind the first
          have hnone : ((first, kept) :: held).lookup destination = none := by
            rw [List.lookup_eq_none_iff]
            intro entry hmem
            have hless : destination < entry.1 := by
              rcases List.mem_cons.1 hmem with rfl | hmem
              · exact hbefore
              · exact String.lt_trans hbefore (hfirst entry.1 (List.mem_map_of_mem hmem))
            rw [bne_iff_ne]
            intro hsame
            rw [hsame] at hless
            exact String.lt_irrefl _ hless
          simp [hname, hnone]
        · simp
      · rw [lookup_cons, lookup_cons]
        split
        · rename_i hname
          have hother : name ≠ destination := fun h => hne (h.symm.trans hname)
          simp [hother]
        · exact ih hrest

end Receiver

end BatchBridge.Flight
