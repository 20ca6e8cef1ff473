import BatchBridge.Config.File
import BatchBridge.Proofs.Text.Utf8
import BatchBridge.Proofs.Toml.RoundTrip

/-!
# Settings and their files

A file gives some of the settings; the others are what they are to begin with.  Settings that are
saved are given in full, up to those that are absent, and so they are loaded as they were.

* `Fields` — some of the settings, and `Fields.HeldBy`, how a document gives just these: by
  whatever form of value, in whatever order and among whatever other keys.
* **`load_of_heldBy`** — the settings of a file are those that it gives, over those to begin with.
* `Fields.members`, **`heldBy_members`**, **`parse_render_members`** — a document for any of the
  settings, which gives them and is read back.
* `Fields.wide` — the numbers of 64 bits, which decide whether settings can be written:
  **`saveTo_eq_ok_iff`**, `saveTo_of_not_fits`.
* **`load_saveTo`** — what has been saved is loaded.
* **`file_round_trip`** — all of it together.
-/

namespace BatchBridge

/-! ## Values -/

namespace Toml

/-- A value is a whole number. -/
def IsNumber (value : Toml) (n : Nat) : Prop := ∃ i : Int64, value = .integer i ∧ i.toInt = n

/-- A value is an address: a table with a host and a port among its members, or an array that begins
with the two. -/
inductive IsAddress : Toml → Address → Prop where
  | table {members : Members} {port : Toml} {address : Address} :
      member? "host" members = some (.string address.host) → member? "port" members = some port →
      IsNumber port address.port.toNat → IsAddress (.table members) address
  | array {port : Toml} {more : List Toml} {address : Address} :
      IsNumber port address.port.toNat →
      IsAddress (.array (.string address.host :: port :: more)) address

theorem natBelow?_of_isNumber {value : Toml} {n bound : Nat} (h : IsNumber value n)
    (hbound : n < bound) : value.natBelow? bound = some n := by
  obtain ⟨i, rfl, hi⟩ := h
  have hfits : 0 ≤ i.toInt ∧ i.toInt < bound := by omega
  rw [natBelow?, if_pos hfits, hi, Int.toNat_natCast]

theorem uint64?_of_isNumber {value : Toml} {n : UInt64} (h : IsNumber value n.toNat) :
    value.uint64? = some n := by
  simp [uint64?, natBelow?_of_isNumber h n.toNat_lt_size]

theorem uint32?_of_isNumber {value : Toml} {n : UInt32} (h : IsNumber value n.toNat) :
    value.uint32? = some n := by
  simp [uint32?, natBelow?_of_isNumber h n.toNat_lt_size]

theorem uint16?_of_isNumber {value : Toml} {n : UInt16} (h : IsNumber value n.toNat) :
    value.uint16? = some n := by
  simp [uint16?, natBelow?_of_isNumber h n.toNat_lt_size]

theorem address?_of_isAddress {value : Toml} {address : Address} (h : IsAddress value address) :
    value.address? = some address := by
  cases h with
  | table hhost hport hnumber => simp [address?, hhost, hport, string?, uint16?_of_isNumber hnumber]
  | array hnumber => simp [address?, string?, uint16?_of_isNumber hnumber]

/-- A number as a value. -/
def ofNat (n : Nat) : Toml := .integer (Int64.ofNat n)

/-- A number fits the format. -/
def Fits (n : Nat) : Prop := (n : Int) ≤ Int64.maxValue.toInt

theorem fits_iff {n : Nat} : Fits n ↔ n ≤ 9223372036854775807 := by
  rw [Fits, Int64.toInt_maxValue]
  omega

theorem isNumber_ofNat {n : Nat} (h : Fits n) : IsNumber (ofNat n) n :=
  ⟨_, rfl, Int64.toInt_ofNat_of_lt (by rw [fits_iff] at h; omega)⟩

theorem isNumber_uint32 (n : UInt32) : IsNumber (ofNat n.toNat) n.toNat := by
  have hn : n.toNat < 4294967296 := n.toNat_lt_size
  exact isNumber_ofNat (fits_iff.mpr (by omega))

theorem isNumber_uint16 (n : UInt16) : IsNumber (ofNat n.toNat) n.toNat := by
  have hn : n.toNat < 65536 := n.toNat_lt_size
  exact isNumber_ofNat (fits_iff.mpr (by omega))

theorem isAddress_ofAddress (address : Address) : IsAddress (ofAddress address) address :=
  .table rfl rfl (isNumber_uint16 address.port)

end Toml

namespace Config

/-! ## Some of the settings -/

/-- Some of the settings. -/
structure Fields where
  listenAddr : Option Address
  sinkAddr : Option Address
  maxFrameBytes : Option UInt32
  readTimeoutSecs : Option UInt64
  sinkTimeoutSecs : Option UInt64
  maxConnections : Option UInt64
  strictTypes : Option Bool
  authToken : Option String
  sinkChannelCapacity : Option UInt64
  negotiateCompression : Option Bool

/-- The settings when some are given: the others are what they are to begin with. -/
def Fields.config (fields : Fields) : Config where
  listenAddr := fields.listenAddr.getD initial.listenAddr
  sinkAddr := fields.sinkAddr.getD initial.sinkAddr
  maxFrameBytes := fields.maxFrameBytes.getD initial.maxFrameBytes
  readTimeoutSecs := fields.readTimeoutSecs.or initial.readTimeoutSecs
  sinkTimeoutSecs := fields.sinkTimeoutSecs.or initial.sinkTimeoutSecs
  maxConnections := fields.maxConnections.or initial.maxConnections
  strictTypes := fields.strictTypes.getD initial.strictTypes
  authToken := fields.authToken.or initial.authToken
  sinkChannelCapacity := fields.sinkChannelCapacity.getD initial.sinkChannelCapacity
  negotiateCompression := fields.negotiateCompression.getD initial.negotiateCompression

/-- A document gives a setting by a value that stands for it, or it does not have the key. -/
def Gives {α : Type} (standsFor : Toml → α → Prop) (key : String) (members : Toml.Members)
    (given : Option α) : Prop := Option.Rel standsFor (Toml.member? key members) given

/-- A document gives these settings. -/
structure Fields.HeldBy (fields : Fields) (members : Toml.Members) : Prop where
  listenAddr : Gives Toml.IsAddress "listen_addr" members fields.listenAddr
  sinkAddr : Gives Toml.IsAddress "sink_addr" members fields.sinkAddr
  maxFrameBytes : Gives (·.IsNumber ·.toNat) "max_frame_bytes" members fields.maxFrameBytes
  readTimeoutSecs : Gives (·.IsNumber ·.toNat) "read_timeout_secs" members fields.readTimeoutSecs
  sinkTimeoutSecs : Gives (·.IsNumber ·.toNat) "sink_timeout_secs" members fields.sinkTimeoutSecs
  maxConnections : Gives (·.IsNumber ·.toNat) "max_connections" members fields.maxConnections
  strictTypes : Gives (· = .boolean ·) "strict_types" members fields.strictTypes
  authToken : Gives (· = .string ·) "auth_token" members fields.authToken
  sinkChannelCapacity :
    Gives (·.IsNumber ·.toNat) "sink_channel_capacity" members fields.sinkChannelCapacity
  negotiateCompression :
    Gives (· = .boolean ·) "negotiate_compression" members fields.negotiateCompression

/-- A setting is what it is to begin with, or it is read from the value that gives it. -/
theorem field?_cases {α β : Type} {standsFor : Toml → α → Prop} {key : String}
    {members : Toml.Members} {given : Option α} (h : Gives standsFor key members given)
    (read : Toml → Option β) (initial : β) :
    (given = none ∧ field? read key initial members = some initial) ∨
      ∃ value x, given = some x ∧ standsFor value x ∧
        field? read key initial members = read value := by
  unfold Gives at h
  unfold field?
  cases hmember : Toml.member? key members with
  | none =>
    rw [hmember] at h
    cases h
    exact .inl ⟨rfl, rfl⟩
  | some value =>
    rw [hmember] at h
    cases h with
    | some hvalue => exact .inr ⟨value, _, rfl, hvalue, rfl⟩

/-- A setting is taken from the document if it is given there. -/
theorem field?_of_gives {α : Type} {standsFor : Toml → α → Prop} {key : String}
    {members : Toml.Members} {given : Option α} (h : Gives standsFor key members given)
    {read : Toml → Option α} (hread : ∀ {value x}, standsFor value x → read value = some x)
    (initial : α) : field? read key initial members = some (given.getD initial) := by
  obtain ⟨rfl, hfield⟩ | ⟨value, x, rfl, hvalue, hfield⟩ := field?_cases h read initial
  · exact hfield
  · rw [hfield, hread hvalue]
    rfl

/-- A setting that may be absent is taken from the document if it is given there. -/
theorem optionalField?_of_gives {α : Type} {standsFor : Toml → α → Prop} {key : String}
    {members : Toml.Members} {given : Option α} (h : Gives standsFor key members given)
    {read : Toml → Option α} (hread : ∀ {value x}, standsFor value x → read value = some x)
    (initial : Option α) :
    field? (fun value => (read value).map some) key initial members = some (given.or initial) := by
  obtain ⟨rfl, hfield⟩ | ⟨value, x, rfl, hvalue, hfield⟩ :=
    field?_cases h (fun value => (read value).map some) initial
  · exact hfield
  · rw [hfield, hread hvalue]
    rfl

theorem boolean?_of_eq {value : Toml} {b : Bool} (h : value = .boolean b) :
    value.boolean? = some b := by rw [h]; rfl

theorem string?_of_eq {value : Toml} {text : String} (h : value = .string text) :
    value.string? = some text := by rw [h]; rfl

/-- The settings of a document are those that it gives, over those to begin with. -/
theorem ofMembers_of_heldBy {fields : Fields} {members : Toml.Members} (h : fields.HeldBy members) :
    ofMembers members = some fields.config := by
  simp only [ofMembers, field?_of_gives h.listenAddr Toml.address?_of_isAddress,
    field?_of_gives h.sinkAddr Toml.address?_of_isAddress,
    field?_of_gives h.maxFrameBytes Toml.uint32?_of_isNumber,
    optionalField?_of_gives h.readTimeoutSecs Toml.uint64?_of_isNumber,
    optionalField?_of_gives h.sinkTimeoutSecs Toml.uint64?_of_isNumber,
    optionalField?_of_gives h.maxConnections Toml.uint64?_of_isNumber,
    field?_of_gives h.strictTypes boolean?_of_eq,
    optionalField?_of_gives h.authToken string?_of_eq,
    field?_of_gives h.sinkChannelCapacity Toml.uint64?_of_isNumber,
    field?_of_gives h.negotiateCompression boolean?_of_eq, Option.bind_eq_bind, Option.bind_some]
  rfl

/-- The settings of a file are those that it gives, over those to begin with, if they are valid. -/
theorem load_of_heldBy {bytes : Bytes} {text : String} {members : Toml.Members} {fields : Fields}
    (hbytes : Utf8.decode bytes = .ok text) (htext : Toml.parse text = some members)
    (hheld : fields.HeldBy members) :
    load (some bytes) = fields.config.validate.map fun _ => fields.config := by
  have hparse : parse text = .ok fields.config := by
    simp only [parse, htext, Option.bind_some, ofMembers_of_heldBy hheld]
  have hload : load (some bytes) = (fields.config.validate).bind fun _ => .ok fields.config := by
    simp only [load, hbytes, hparse]
    rfl
  rw [hload]
  cases fields.config.validate <;> rfl

/-! ## A document for the settings -/

/-- Keys with the values that they have, if they are given. -/
abbrev Entries := List (String × Option Toml)

/-- The members for what is given. -/
def present (entries : Entries) : Toml.Members :=
  entries.filterMap fun (key, given) => given.map (key, ·)

/-- The plain values among the settings. -/
def Fields.values (fields : Fields) : Entries :=
  [("max_frame_bytes", fields.maxFrameBytes.map fun n => .ofNat n.toNat),
    ("read_timeout_secs", fields.readTimeoutSecs.map fun n => .ofNat n.toNat),
    ("sink_timeout_secs", fields.sinkTimeoutSecs.map fun n => .ofNat n.toNat),
    ("max_connections", fields.maxConnections.map fun n => .ofNat n.toNat),
    ("strict_types", fields.strictTypes.map .boolean),
    ("auth_token", fields.authToken.map .string),
    ("sink_channel_capacity", fields.sinkChannelCapacity.map fun n => .ofNat n.toNat),
    ("negotiate_compression", fields.negotiateCompression.map .boolean)]

/-- The addresses among the settings. -/
def Fields.tables (fields : Fields) : Entries :=
  [("listen_addr", fields.listenAddr.map .ofAddress), ("sink_addr", fields.sinkAddr.map .ofAddress)]

/-- A document for the settings that are given. -/
def Fields.members (fields : Fields) : Toml.Members := present (fields.values ++ fields.tables)

/-- The numbers of 64 bits among the settings. -/
def Fields.wide (fields : Fields) : List UInt64 :=
  fields.readTimeoutSecs.toList ++ fields.sinkTimeoutSecs.toList ++ fields.maxConnections.toList ++
    fields.sinkChannelCapacity.toList

theorem present_append (first second : Entries) :
    present (first ++ second) = present first ++ present second := List.filterMap_append

theorem present_cons (entry : String × Option Toml) (entries : Entries) :
    present (entry :: entries) = present [entry] ++ present entries :=
  present_append [entry] entries

theorem forall_mem_present {entries : Entries} {p : Toml → Prop}
    (h : ∀ entry ∈ entries, ∀ value ∈ entry.2, p value) :
    ∀ member ∈ present entries, p member.2 := by
  intro member hmember
  obtain ⟨entry, hentry, heq⟩ := List.mem_filterMap.mp hmember
  obtain ⟨value, hvalue, rfl⟩ := Option.map_eq_some_iff.mp heq
  exact h entry hentry value hvalue

theorem keys_present_sublist (entries : Entries) :
    ((present entries).map (·.1)).Sublist (entries.map (·.1)) := by
  induction entries with
  | nil => exact .slnil
  | cons entry entries ih =>
    obtain ⟨key, given⟩ := entry
    cases given with
    | none => exact ih.cons key
    | some value => exact ih.cons_cons key

theorem keys_nodup (fields : Fields) : ((fields.values ++ fields.tables).map (·.1)).Nodup := by
  simp [Fields.values, Fields.tables]

theorem member?_present {entries : Entries} (hkeys : (entries.map (·.1)).Nodup) {key : String}
    {given : Option Toml} (h : (key, given) ∈ entries) :
    Toml.member? key (present entries) = given := by
  induction entries with
  | nil => cases h
  | cons entry entries ih =>
    obtain ⟨hfresh, hrest⟩ := List.nodup_cons.mp hkeys
    obtain ⟨name, value⟩ := entry
    rw [present_cons, Toml.member?, List.lookup_append]
    rcases List.mem_cons.mp h with heq | hmem
    · cases heq
      cases given with
      | some value => simp [present]
      | none =>
        -- The key of an entry is that of no later one, so it has no member at all.
        have hnone : key ∉ (present entries).map (·.1) := fun hmem =>
          hfresh ((keys_present_sublist entries).subset hmem)
        exact Toml.lookup_of_fresh hnone
    · have hne : key ≠ name := by
        rintro rfl
        exact hfresh (List.mem_map_of_mem (f := (·.1)) hmem)
      have hother : key ∉ (present [(name, value)]).map (·.1) := by
        cases value <;> simp [present, hne]
      rw [Toml.lookup_of_fresh hother]
      exact ih hrest hmem

/-- What is given stands in the document. -/
theorem Fields.gives_members (fields : Fields) {α : Type} {standsFor : Toml → α → Prop}
    {key : String} {write : α → Toml} {given : Option α}
    (h : (key, given.map write) ∈ fields.values ++ fields.tables)
    (hstands : ∀ x ∈ given, standsFor (write x) x) :
    Gives standsFor key fields.members given := by
  rw [Gives, Fields.members, member?_present (keys_nodup fields) h]
  cases given with
  | none => exact .none
  | some x => exact .some (hstands x rfl)

theorem heldBy_members {fields : Fields} (h : ∀ n ∈ fields.wide, Toml.Fits n.toNat) :
    fields.HeldBy fields.members where
  listenAddr := fields.gives_members (by simp [Fields.tables]) fun address _ =>
    Toml.isAddress_ofAddress address
  sinkAddr := fields.gives_members (by simp [Fields.tables]) fun address _ =>
    Toml.isAddress_ofAddress address
  maxFrameBytes := fields.gives_members (by simp [Fields.values]) fun n _ =>
    Toml.isNumber_uint32 n
  readTimeoutSecs := fields.gives_members (by simp [Fields.values]) fun n hn =>
    Toml.isNumber_ofNat (h n (by simp [Fields.wide, Option.mem_def.mp hn]))
  sinkTimeoutSecs := fields.gives_members (by simp [Fields.values]) fun n hn =>
    Toml.isNumber_ofNat (h n (by simp [Fields.wide, Option.mem_def.mp hn]))
  maxConnections := fields.gives_members (by simp [Fields.values]) fun n hn =>
    Toml.isNumber_ofNat (h n (by simp [Fields.wide, Option.mem_def.mp hn]))
  strictTypes := fields.gives_members (by simp [Fields.values]) fun _ _ => rfl
  authToken := fields.gives_members (by simp [Fields.values]) fun _ _ => rfl
  sinkChannelCapacity := fields.gives_members (by simp [Fields.values]) fun n hn =>
    Toml.isNumber_ofNat (h n (by simp [Fields.wide, Option.mem_def.mp hn]))
  negotiateCompression := fields.gives_members (by simp [Fields.values]) fun _ _ => rfl

theorem isScalar_values (fields : Fields) :
    ∀ entry ∈ fields.values, ∀ value ∈ entry.2, Toml.IsScalar value := by
  have hmap : ∀ {α : Type} {write : α → Toml} {given : Option α}, (∀ x, Toml.IsScalar (write x)) →
      ∀ value ∈ given.map write, Toml.IsScalar value := by
    intro α write given hwrite value hvalue
    obtain ⟨x, -, rfl⟩ := Option.map_eq_some_iff.mp hvalue
    exact hwrite x
  simp only [Fields.values, List.forall_mem_cons]
  exact ⟨hmap fun _ => trivial, hmap fun _ => trivial, hmap fun _ => trivial, hmap fun _ => trivial,
    hmap fun _ => trivial, hmap fun _ => trivial, hmap fun _ => trivial, hmap fun _ => trivial,
    fun entry hentry => by cases hentry⟩

theorem isSection_ofAddress (address : Address) : Toml.IsSection (Toml.ofAddress address) := by
  refine ⟨by simp, ?_⟩
  simp only [List.forall_mem_cons]
  exact ⟨trivial, trivial, fun member hmember => by cases hmember⟩

theorem isSection_tables (fields : Fields) :
    ∀ entry ∈ fields.tables, ∀ value ∈ entry.2, Toml.IsSection value := by
  intro entry hentry value hvalue
  have haddress : ∃ given : Option Address, entry.2 = given.map .ofAddress := by
    simp only [Fields.tables, List.mem_cons, List.not_mem_nil, or_false] at hentry
    rcases hentry with rfl | rfl
    · exact ⟨_, rfl⟩
    · exact ⟨_, rfl⟩
  obtain ⟨given, heq⟩ := haddress
  rw [heq] at hvalue
  obtain ⟨address, -, rfl⟩ := Option.map_eq_some_iff.mp hvalue
  exact isSection_ofAddress address

/-- A document for any of the settings is written and read back. -/
theorem parse_render_members (fields : Fields) :
    Toml.parse (Toml.render fields.members) = some fields.members := by
  have hsublist := (keys_present_sublist fields.values).append (keys_present_sublist fields.tables)
  have hkeys := keys_nodup fields
  rw [List.map_append] at hkeys
  rw [Fields.members, present_append]
  exact Toml.parse_render (forall_mem_present (isScalar_values fields))
    (forall_mem_present (isSection_tables fields)) (hkeys.sublist hsublist)

/-- A file for any of the settings gives them back, over those to begin with. -/
theorem load_render_members {fields : Fields} (h : ∀ n ∈ fields.wide, Toml.Fits n.toNat) :
    load (some (Utf8.encode (Toml.render fields.members))) =
      fields.config.validate.map fun _ => fields.config :=
  load_of_heldBy (Utf8.decode_encode _) (parse_render_members fields) (heldBy_members h)

/-! ## Saving -/

/-- All settings, as far as they are there. -/
def fields (config : Config) : Fields where
  listenAddr := some config.listenAddr
  sinkAddr := some config.sinkAddr
  maxFrameBytes := some config.maxFrameBytes
  readTimeoutSecs := config.readTimeoutSecs
  sinkTimeoutSecs := config.sinkTimeoutSecs
  maxConnections := config.maxConnections
  strictTypes := some config.strictTypes
  authToken := config.authToken
  sinkChannelCapacity := some config.sinkChannelCapacity
  negotiateCompression := some config.negotiateCompression

/-- What is absent is absent to begin with, and so nothing is made up for it. -/
theorem config_fields (config : Config) : config.fields.config = config := by
  simp [fields, Fields.config, initial]

theorem ofUInt64?_of_fits {n : UInt64} (h : Toml.Fits n.toNat) :
    Toml.ofUInt64? n = some (.ofNat n.toNat) := by
  have hmin : Int64.minValue.toInt ≤ (n.toNat : Int) := by
    rw [Int64.toInt_minValue]
    omega
  rw [Toml.ofUInt64?, Toml.int64?, if_pos ⟨hmin, h⟩, Int64.ofInt_eq_ofNat]
  rfl

theorem fits_of_ofUInt64? {n : UInt64} {value : Toml} (h : Toml.ofUInt64? n = some value) :
    Toml.Fits n.toNat := by
  obtain ⟨i, hi, -⟩ := Option.map_eq_some_iff.mp h
  exact (Option.ite_none_right_eq_some.mp hi).1.2

theorem numberMember?_of_fits {key : String} {given : Option UInt64}
    (h : ∀ n ∈ given, Toml.Fits n.toNat) :
    numberMember? key given = some (present [(key, given.map fun n => .ofNat n.toNat)]) := by
  cases given with
  | none => rfl
  | some n => rw [numberMember?, ofUInt64?_of_fits (h n rfl)]; rfl

theorem fits_of_numberMember? {key : String} {given : Option UInt64} {members : Toml.Members}
    (h : numberMember? key given = some members) : ∀ n ∈ given, Toml.Fits n.toNat := by
  rintro n rfl
  obtain ⟨value, hvalue, -⟩ := Option.map_eq_some_iff.mp h
  exact fits_of_ofUInt64? hvalue

theorem forall_wide_iff {config : Config} :
    (∀ n ∈ config.fields.wide, Toml.Fits n.toNat) ↔
      (∀ n ∈ config.readTimeoutSecs, Toml.Fits n.toNat) ∧
      (∀ n ∈ config.sinkTimeoutSecs, Toml.Fits n.toNat) ∧
      (∀ n ∈ config.maxConnections, Toml.Fits n.toNat) ∧
      ∀ n ∈ some config.sinkChannelCapacity, Toml.Fits n.toNat := by
  simp only [Fields.wide, fields, List.forall_mem_append, Option.mem_toList, and_assoc]
  rfl

/-- Settings are written as a document for all of them, if their numbers fit the format. -/
theorem toMembers_of_fits {config : Config} (h : ∀ n ∈ config.fields.wide, Toml.Fits n.toNat) :
    config.toMembers = some config.fields.members := by
  obtain ⟨hread, hsink, hconnections, hcapacity⟩ := forall_wide_iff.mp h
  simp only [toMembers, numberMember?_of_fits hread, numberMember?_of_fits hsink,
    numberMember?_of_fits hconnections, numberMember?_of_fits hcapacity]
  have htoken : tokenMember config.authToken =
      present [("auth_token", config.authToken.map .string)] := by
    cases config.authToken <;> rfl
  simp only [Fields.members, Fields.values, Fields.tables, fields, List.cons_append,
    List.nil_append, present_cons _ (_ :: _), htoken]
  simp only [List.append_assoc]
  rfl

/-- Settings that can be written fit the format. -/
theorem fits_of_toMembers {config : Config} {members : Toml.Members}
    (h : config.toMembers = some members) : ∀ n ∈ config.fields.wide, Toml.Fits n.toNat := by
  simp only [toMembers, Option.bind_eq_bind, Option.bind_eq_some_iff] at h
  obtain ⟨_, hread, _, hsink, _, hconnections, _, hcapacity, -⟩ := h
  exact forall_wide_iff.mpr ⟨fits_of_numberMember? hread, fits_of_numberMember? hsink,
    fits_of_numberMember? hconnections, fits_of_numberMember? hcapacity⟩

/-- What is written, if anything is. -/
theorem saveTo_of_fits {config : Config} (h : ∀ n ∈ config.fields.wide, Toml.Fits n.toNat)
    (file : Option Bytes) :
    config.saveTo file = (.ok (), some (Utf8.encode (Toml.render config.fields.members))) := by
  simp only [saveTo, save, toMembers_of_fits h]

/-- Settings that do not fit the format are not written, and the file stays as it is. -/
theorem saveTo_of_not_fits {config : Config} (h : ¬∀ n ∈ config.fields.wide, Toml.Fits n.toNat)
    (file : Option Bytes) : config.saveTo file = (.error .unwritableConfig, file) := by
  have hnone : config.toMembers = none := Option.eq_none_iff_forall_ne_some.mpr fun members hsome =>
    h (fits_of_toMembers hsome)
  simp only [saveTo, save, hnone]

theorem saveTo_eq_ok_iff {config : Config} {file : Option Bytes} :
    (config.saveTo file).1 = .ok () ↔ ∀ n ∈ config.fields.wide, Toml.Fits n.toNat := by
  constructor
  · intro hsave
    by_cases h : ∀ n ∈ config.fields.wide, Toml.Fits n.toNat
    · exact h
    · rw [saveTo_of_not_fits h] at hsave
      cases hsave
  · intro h
    rw [saveTo_of_fits h]

/-- Valid settings are loaded as they have been saved. -/
theorem load_saveTo {config : Config} {file : Option Bytes} (hvalid : config.validate = .ok ())
    (hsave : (config.saveTo file).1 = .ok ()) : load (config.saveTo file).2 = .ok config := by
  have hfits := saveTo_eq_ok_iff.mp hsave
  rw [saveTo_of_fits hfits]
  have hload := load_render_members hfits
  rw [config_fields, hvalid] at hload
  exact hload

/-! ## Files -/

/-- Valid settings are loaded as they have been saved.  Saving fails just when a number of 64 bits
exceeds the greatest of the format, and then the file stays as it is.  Any file that gives some of
the settings is loaded as these over those to begin with, if they are valid; and any of the settings
can be given. -/
theorem file_round_trip :
    (∀ (config : Config) (file : Option Bytes), config.validate = .ok () →
      (config.saveTo file).1 = .ok () → load (config.saveTo file).2 = .ok config) ∧
    (∀ (config : Config) (file : Option Bytes),
      ((config.saveTo file).1 ≠ .ok () ↔ ∃ n ∈ config.fields.wide, ¬Toml.Fits n.toNat) ∧
      ((config.saveTo file).1 ≠ .ok () → config.saveTo file = (.error .unwritableConfig, file))) ∧
    (∀ (bytes : Bytes) (text : String) (members : Toml.Members) (fields : Fields),
      Utf8.decode bytes = .ok text → Toml.parse text = some members → fields.HeldBy members →
      load (some bytes) = fields.config.validate.map fun _ => fields.config) ∧
    ∀ fields : Fields, (∀ n ∈ fields.wide, Toml.Fits n.toNat) →
      ∃ text members, Toml.parse text = some members ∧ fields.HeldBy members := by
  refine ⟨fun config file => load_saveTo, fun config file => ⟨?_, ?_⟩,
    fun bytes text members fields => load_of_heldBy, ?_⟩
  · rw [ne_eq, saveTo_eq_ok_iff]
    simp only [Classical.not_forall, exists_prop]
  · intro hfails
    exact saveTo_of_not_fits (fun hfits => hfails (saveTo_eq_ok_iff.mpr hfits)) file
  · intro fields hfits
    exact ⟨_, _, parse_render_members fields, heldBy_members hfits⟩

/-- Settings with a token that are saved and loaded, a timeout that cannot be saved, and a file that
gives two settings. -/
theorem file_round_trip_two_settings :
    load
        (({ initial with authToken := some "secret", maxFrameBytes := 0 } : Config).saveTo none).2 =
      .ok { initial with authToken := some "secret", maxFrameBytes := 0 } ∧
    ({ initial with readTimeoutSecs := some 9223372036854775808 } : Config).saveTo (some [35]) =
      (.error .unwritableConfig, some [35]) ∧
    load (some (Utf8.encode
        "strict_types = true\n\n[listen_addr]\nhost = \"127.0.0.1\"\nport = 7000\n")) =
      .ok { initial with strictTypes := true, listenAddr := ⟨"127.0.0.1", 7000⟩ } := by
  refine ⟨?_, ?_, ?_⟩
  · refine file_round_trip.1 _ none rfl (saveTo_eq_ok_iff.mpr ?_)
    simp [Fields.wide, fields, initial, Toml.fits_iff]
  · obtain ⟨hfails, hfile⟩ := file_round_trip.2.1
      { initial with readTimeoutSecs := some 9223372036854775808 } (some [35])
    exact hfile (hfails.mpr ⟨9223372036854775808, by decide, by simp [Toml.fits_iff]⟩)
  · have hload := file_round_trip.2.2.1 _ _ _
      ⟨some ⟨"127.0.0.1", 7000⟩, none, none, none, none, none, some true, none, none, none⟩
      (Utf8.decode_encode _) (parse_render_members _)
      (heldBy_members (by simp [Fields.wide]))
    refine (congrArg (fun text => load (some (Utf8.encode text))) ?_).trans hload
    decide +kernel

end Config
end BatchBridge
