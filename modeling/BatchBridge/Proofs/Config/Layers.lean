import BatchBridge.CommandLine.Settings
import BatchBridge.Proofs.Config.Files

/-!
# Settings from three layers

A setting is said on the command line, or else in the file, or else it is what it is to begin with.
A host and its port are said apart on the command line and together in the file, and a flag can only
be raised.  Both the file by itself and what comes of all layers have to be valid.

* `Config.FileGives` — a file gives some of the settings, and
  **`Config.exists_fileGives`**: every file that can be parsed does.
* `Arguments.merged` — the settings of all layers, one by one; **`Arguments.override_config`** — so
  they are put together.
* **`Arguments.configure_of_fileGives`** — the file is checked first, and the merged settings then.
* **`Arguments.configure_layers`** — all of it together.
-/

namespace BatchBridge

/-! ## Values that are read -/

namespace Toml

theorem isNumber_of_natBelow? {value : Toml} {bound n : Nat} (h : value.natBelow? bound = some n) :
    value.IsNumber n ∧ n < bound := by
  cases value with
  | integer i =>
    obtain ⟨⟨hnonneg, hbound⟩, hn⟩ := Option.ite_none_right_eq_some.mp h
    cases hn
    exact ⟨⟨i, rfl, (Int.toNat_of_nonneg hnonneg).symm⟩, by omega⟩
  | _ => cases h

theorem isNumber_of_uint64? {value : Toml} {n : UInt64} (h : value.uint64? = some n) :
    value.IsNumber n.toNat := by
  obtain ⟨m, hm, rfl⟩ := Option.map_eq_some_iff.mp h
  obtain ⟨hnumber, hbound⟩ := isNumber_of_natBelow? hm
  rwa [UInt64.toNat_ofNat_of_lt' hbound]

theorem isNumber_of_uint32? {value : Toml} {n : UInt32} (h : value.uint32? = some n) :
    value.IsNumber n.toNat := by
  obtain ⟨m, hm, rfl⟩ := Option.map_eq_some_iff.mp h
  obtain ⟨hnumber, hbound⟩ := isNumber_of_natBelow? hm
  rwa [UInt32.toNat_ofNat_of_lt' hbound]

theorem isNumber_of_uint16? {value : Toml} {n : UInt16} (h : value.uint16? = some n) :
    value.IsNumber n.toNat := by
  obtain ⟨m, hm, rfl⟩ := Option.map_eq_some_iff.mp h
  obtain ⟨hnumber, hbound⟩ := isNumber_of_natBelow? hm
  rwa [UInt16.toNat_ofNat_of_lt' hbound]

theorem eq_of_string? {value : Toml} {text : String} (h : value.string? = some text) :
    value = .string text := by
  cases value with
  | string => exact congrArg _ (Option.some.inj h)
  | _ => cases h

theorem eq_of_boolean? {value : Toml} {b : Bool} (h : value.boolean? = some b) :
    value = .boolean b := by
  cases value with
  | boolean => exact congrArg _ (Option.some.inj h)
  | _ => cases h

theorem isAddress_of_address? {value : Toml} {address : Address}
    (h : value.address? = some address) : value.IsAddress address := by
  cases value with
  | table members =>
    simp only [address?] at h
    cases hhost : (member? "host" members).bind string? with
    | none => simp [hhost] at h
    | some host =>
      cases hport : (member? "port" members).bind uint16? with
      | none => simp [hhost, hport] at h
      | some port =>
        simp only [hhost, hport, Option.some.injEq] at h
        subst h
        obtain ⟨_, hmember, hstring⟩ := Option.bind_eq_some_iff.mp hhost
        obtain ⟨_, hmember', hnumber⟩ := Option.bind_eq_some_iff.mp hport
        rw [eq_of_string? hstring] at hmember
        exact .table hmember hmember' (isNumber_of_uint16? hnumber)
  | array items =>
    cases items with
    | nil => cases h
    | cons host items =>
      cases items with
      | nil => cases h
      | cons port more =>
        simp only [address?] at h
        cases hhost : host.string? with
        | none => simp [hhost] at h
        | some text =>
          cases hport : port.uint16? with
          | none => simp [hhost, hport] at h
          | some n =>
            simp only [hhost, hport, Option.some.injEq] at h
            subst h
            rw [eq_of_string? hhost]
            have hnumber : port.IsNumber (Address.mk text n).port.toNat := isNumber_of_uint16? hport
            exact .array hnumber
  | _ => cases h

end Toml

namespace Config

/-! ## What a file gives -/

/-- A setting that has been read is given, or it is what it is to begin with. -/
theorem exists_gives {α β : Type} {standsFor : Toml → α → Prop} {read : Toml → Option β}
    (inject : α → β)
    (hread : ∀ {value y}, read value = some y → ∃ x, standsFor value x ∧ y = inject x)
    {key : String} {members : Toml.Members} {initial y : β}
    (h : field? read key initial members = some y) :
    ∃ given, Gives standsFor key members given ∧ y = (given.map inject).getD initial := by
  unfold field? at h
  unfold Gives
  cases hmember : Toml.member? key members with
  | none =>
    rw [hmember] at h
    exact ⟨none, .none, (Option.some.inj h).symm⟩
  | some value =>
    rw [hmember] at h
    obtain ⟨x, hx, rfl⟩ := hread h
    exact ⟨some x, .some hx, rfl⟩

theorem exists_gives_of_field? {α : Type} {standsFor : Toml → α → Prop} {read : Toml → Option α}
    (hread : ∀ {value x}, read value = some x → standsFor value x)
    {key : String} {members : Toml.Members} {initial x : α}
    (h : field? read key initial members = some x) :
    ∃ given, Gives standsFor key members given ∧ x = given.getD initial := by
  obtain ⟨given, hgives, hx⟩ := exists_gives id (fun hvalue => ⟨_, hread hvalue, rfl⟩) h
  exact ⟨given, hgives, by rwa [Option.map_id] at hx⟩

theorem exists_gives_of_optionalField? {α : Type} {standsFor : Toml → α → Prop}
    {read : Toml → Option α} (hread : ∀ {value x}, read value = some x → standsFor value x)
    {key : String} {members : Toml.Members} {initial x : Option α}
    (h : field? (fun value => (read value).map some) key initial members = some x) :
    ∃ given, Gives standsFor key members given ∧ x = given.or initial := by
  have hsome : ∀ {value y}, (read value).map some = some y →
      ∃ x, standsFor value x ∧ y = some x := by
    intro value y hvalue
    obtain ⟨x, hx, rfl⟩ := Option.map_eq_some_iff.mp hvalue
    exact ⟨x, hread hx, rfl⟩
  obtain ⟨given, hgives, hx⟩ := exists_gives some hsome h
  exact ⟨given, hgives, by cases given <;> exact hx⟩

/-- **A document that can be read gives some of the settings**, and they are read from it. -/
theorem ofMembers_eq_some_iff {members : Toml.Members} {config : Config} :
    ofMembers members = some config ↔ ∃ fields : Fields, fields.HeldBy members ∧
      config = fields.config := by
  constructor
  · intro h
    simp only [ofMembers, Option.bind_eq_bind, Option.bind_eq_some_iff] at h
    obtain ⟨_, hlisten, _, hsink, _, hmax, _, hread, _, hconnect, _, hconnections, _, hstrict, _,
      htoken, _, hcapacity, _, hcompression, hconfig⟩ := h
    obtain ⟨listen, givesListen, rfl⟩ := exists_gives_of_field? Toml.isAddress_of_address? hlisten
    obtain ⟨sink, givesSink, rfl⟩ := exists_gives_of_field? Toml.isAddress_of_address? hsink
    obtain ⟨max, givesMax, rfl⟩ := exists_gives_of_field? Toml.isNumber_of_uint32? hmax
    obtain ⟨read, givesRead, rfl⟩ := exists_gives_of_optionalField? Toml.isNumber_of_uint64? hread
    obtain ⟨connect, givesConnect, rfl⟩ :=
      exists_gives_of_optionalField? Toml.isNumber_of_uint64? hconnect
    obtain ⟨connections, givesConnections, rfl⟩ :=
      exists_gives_of_optionalField? Toml.isNumber_of_uint64? hconnections
    obtain ⟨strict, givesStrict, rfl⟩ := exists_gives_of_field? Toml.eq_of_boolean? hstrict
    obtain ⟨token, givesToken, rfl⟩ := exists_gives_of_optionalField? Toml.eq_of_string? htoken
    obtain ⟨capacity, givesCapacity, rfl⟩ :=
      exists_gives_of_field? Toml.isNumber_of_uint64? hcapacity
    obtain ⟨compression, givesCompression, rfl⟩ :=
      exists_gives_of_field? Toml.eq_of_boolean? hcompression
    refine ⟨⟨listen, sink, max, read, connect, connections, strict, token, capacity, compression⟩,
      ⟨givesListen, givesSink, givesMax, givesRead, givesConnect, givesConnections, givesStrict,
        givesToken, givesCapacity, givesCompression⟩, ?_⟩
    exact (Option.some.inj hconfig).symm
  · rintro ⟨fields, hheld, rfl⟩
    exact ofMembers_of_heldBy hheld

/-- A file can be parsed and gives these settings. -/
def FileGives (file : Bytes) (fields : Fields) : Prop :=
  ∃ text members, Utf8.decode file = .ok text ∧ Toml.parse text = some members ∧
    fields.HeldBy members

/-- **Every file that can be parsed gives some of the settings.** -/
theorem exists_fileGives {file : Bytes} {text : String} {config : Config}
    (hfile : Utf8.decode file = .ok text) (h : parse text = .ok config) :
    ∃ fields, FileGives file fields ∧ config = fields.config := by
  cases hmembers : (Toml.parse text).bind ofMembers with
  | none => simp [parse, hmembers] at h
  | some found =>
    simp only [parse, hmembers, Except.ok.injEq] at h
    subst h
    obtain ⟨members, hparse, hof⟩ := Option.bind_eq_some_iff.mp hmembers
    obtain ⟨fields, hheld, rfl⟩ := ofMembers_eq_some_iff.mp hof
    exact ⟨fields, ⟨text, members, hfile, hparse, hheld⟩, rfl⟩

/-- Any of the settings can be given by a file. -/
theorem fileGives_of_render {fields : Fields} {text : String}
    (hfits : ∀ n ∈ fields.wide, Toml.Fits n.toNat) (htext : Toml.render fields.members = text) :
    FileGives (Utf8.encode text) fields := by
  subst htext
  exact ⟨_, fields.members, Utf8.decode_encode _, parse_render_members fields,
    heldBy_members hfits⟩

/-- Settings, if they are valid. -/
def checked (config : Config) : Except BridgeError Config := config.validate.map fun _ => config

theorem checked_of_valid {config : Config} (h : config.validate = .ok ()) :
    config.checked = .ok config := by
  rw [checked, h]
  rfl

theorem checked_of_error {config : Config} {error : BridgeError}
    (h : config.validate = .error error) : config.checked = .error error := by
  rw [checked, h]
  rfl

theorem checked_eq_ok_iff {config found : Config} :
    config.checked = .ok found ↔ config.validate = .ok () ∧ found = config := by
  cases h : config.validate with
  | error error => simp [checked_of_error h]
  | ok => simp [checked_of_valid h, eq_comm]

theorem FileGives.load_eq {file : Bytes} {fields : Fields} (h : FileGives file fields) :
    load (some file) = fields.config.checked := by
  obtain ⟨text, members, hfile, hparse, hheld⟩ := h
  exact load_of_heldBy hfile hparse hheld

/-- None of the settings. -/
def Fields.none : Fields :=
  ⟨.none, .none, .none, .none, .none, .none, .none, .none, .none, .none⟩

theorem config_none : Fields.none.config = initial := rfl

end Config

namespace CommandLine.Arguments

open Config (Fields FileGives initial)

/-! ## Layers -/

/-- A setting is what has been given, or else what the file says, or else what it is to begin with.
The environment says no more than a token, which is given on the command line otherwise. -/
def merged (given : Arguments) (environment : Option String) (fields : Fields) : Config where
  listenAddr :=
    { host := (given.listenHost.or (fields.listenAddr.map (·.host))).getD initial.listenAddr.host
      port := (given.listenPort.or (fields.listenAddr.map (·.port))).getD initial.listenAddr.port }
  sinkAddr :=
    { host := (given.sinkHost.or (fields.sinkAddr.map (·.host))).getD initial.sinkAddr.host
      port := (given.sinkPort.or (fields.sinkAddr.map (·.port))).getD initial.sinkAddr.port }
  maxFrameBytes := (given.maxFrameBytes.or fields.maxFrameBytes).getD initial.maxFrameBytes
  readTimeoutSecs := (given.readTimeoutSecs.or fields.readTimeoutSecs).or initial.readTimeoutSecs
  sinkTimeoutSecs := (given.sinkTimeoutSecs.or fields.sinkTimeoutSecs).or initial.sinkTimeoutSecs
  maxConnections := (given.maxConnections.or fields.maxConnections).or initial.maxConnections
  strictTypes := given.strictTypes || fields.strictTypes.getD initial.strictTypes
  authToken := ((given.authToken.or environment).or fields.authToken).or initial.authToken
  sinkChannelCapacity := fields.sinkChannelCapacity.getD initial.sinkChannelCapacity
  negotiateCompression :=
    given.negotiateCompression || fields.negotiateCompression.getD initial.negotiateCompression

/-- A part of an address is said by the address. -/
theorem getD_part {α : Type} (part : Address → α) (given : Option α) (said : Option Address)
    (first : Address) :
    given.getD (part (said.getD first)) = (given.or (said.map part)).getD (part first) := by
  rw [Option.getD_or]
  cases said <;> rfl

/-- **What has been given is put over the file, one setting after the other.** -/
theorem override_config (given : Arguments) (environment : Option String) (fields : Fields) :
    given.override environment fields.config = given.merged environment fields := by
  simp only [override, merged, Fields.config, token?, Option.orElse_eq_orElse,
    Option.orElse_eq_or, Option.or_assoc, getD_part, Option.getD_or]

variable {given : Arguments} {fields : Fields} {file : Bytes}

/-- Without a file, there are no settings between those that are given and those to begin with. -/
theorem configure_of_no_file (h : given.config = .none) (environment : Option String)
    (file : Option Bytes) :
    given.configure environment file = (given.merged environment .none).checked := by
  rw [← override_config, Config.config_none, Config.checked]
  simp only [configure, h, Option.isSome_none, Bool.false_eq_true, if_false]
  show (given.override environment initial).validate.bind _ = _
  cases (given.override environment initial).validate <;> rfl

/-- **The file is checked by itself, and what comes of all layers is checked then.** -/
theorem configure_of_fileGives (hnamed : given.config.isSome) (h : FileGives file fields)
    (environment : Option String) :
    given.configure environment (some file) =
      fields.config.checked.bind fun _ => (given.merged environment fields).checked := by
  have hload := h.load_eq
  rw [← override_config]
  simp only [configure, hnamed, if_true, hload]
  cases hvalid : fields.config.validate with
  | error error =>
    rw [Config.checked_of_error hvalid]
    rfl
  | ok =>
    rw [Config.checked_of_valid hvalid]
    show (given.override environment fields.config).validate.bind _ =
      (given.override environment fields.config).checked
    rw [Config.checked]
    cases (given.override environment fields.config).validate <;> rfl

/-- **What is given goes before the file, one setting after the other, and the file is valid by
itself.**  Without a file, what comes of the layers is what there is to check.  With a file that can
be parsed, and so gives some of the settings, both the file alone and what comes of all layers have
to be valid, and then it is this that comes out.  A file that is not valid is refused for what is
wrong with it, whatever has been given; if it is valid, then the outcome depends on nothing but what
comes of all layers. -/
theorem configure_layers (given : Arguments) (environment : Option String) :
    (given.config = .none → ∀ file,
      given.configure environment file = (given.merged environment .none).checked) ∧
    (∀ file text config, Utf8.decode file = .ok text → Config.parse text = .ok config →
      ∃ fields, FileGives file fields ∧ config = fields.config) ∧
    (given.config.isSome → ∀ file fields, FileGives file fields →
      (∀ config, given.configure environment (some file) = .ok config ↔
        fields.config.validate = .ok () ∧ (given.merged environment fields).validate = .ok () ∧
          config = given.merged environment fields) ∧
      (∀ error, fields.config.validate = .error error →
        given.configure environment (some file) = .error error) ∧
      (fields.config.validate = .ok () →
        given.configure environment (some file) = (given.merged environment fields).checked)) := by
  refine ⟨fun hnone => configure_of_no_file hnone environment, ?_, ?_⟩
  · intro file text config
    exact Config.exists_fileGives
  · intro hnamed file fields hgives
    rw [configure_of_fileGives hnamed hgives]
    cases hvalid : fields.config.validate with
    | error error =>
      rw [Config.checked_of_error hvalid]
      refine ⟨fun config => ?_, fun error' herror => ?_, fun hok => ?_⟩
      · simp [Except.bind]
      · cases herror
        rfl
      · cases hok
    | ok =>
      rw [Config.checked_of_valid hvalid]
      refine ⟨fun config => ?_, fun error herror => ?_, fun _ => rfl⟩
      · rw [← Config.checked_eq_ok_iff]
        simp [Except.bind]
      · cases herror

/-- The host of the sink comes from the file and its port from the command line, and without a file
the port is all that is given. -/
theorem configure_layers_sink_port :
    let given : Arguments := { Arguments.none with sinkPort := some 6000 }
    let named : Arguments := { given with config := some "bridge.toml" }
    let file := Utf8.encode
      "max_connections = 4\n\n[sink_addr]\nhost = \"flight.internal\"\nport = 50052\n"
    given.configure .none .none = .ok { initial with sinkAddr := ⟨"127.0.0.1", 6000⟩ } ∧
      named.configure .none (some file) =
        .ok { initial with sinkAddr := ⟨"flight.internal", 6000⟩, maxConnections := some 4 } := by
  intro given named file
  let fields : Fields :=
    { Fields.none with sinkAddr := some ⟨"flight.internal", 50052⟩, maxConnections := some 4 }
  have hfits : ∀ n ∈ fields.wide, Toml.Fits n.toNat := by
    simp [fields, Fields.wide, Fields.none, Toml.fits_iff]
  have hgives : FileGives file fields := Config.fileGives_of_render hfits (by decide +kernel)
  obtain ⟨houtcome, -, -⟩ := (configure_layers named .none).2.2 rfl file fields hgives
  exact ⟨(configure_layers given .none).1 rfl .none, (houtcome _).2 ⟨rfl, rfl, rfl⟩⟩

/-- A file that allows no connections is refused, though the command line allows five, and nothing
is wrong with what comes of both. -/
theorem configure_of_invalid_file :
    let fields : Fields := { Fields.none with maxConnections := some 0 }
    let file := Utf8.encode "max_connections = 0\n"
    ∃ given, parse ["--config", "bridge.toml", "--max-connections", "5"] = .ok given ∧
      FileGives file fields ∧ (given.merged .none fields).validate = .ok () ∧
      (given.merged .none fields).maxConnections = some 5 ∧
      given.configure .none (some file) = .error (.config .noConnections) := by
  intro fields file
  have hfits : ∀ n ∈ fields.wide, Toml.Fits n.toNat := by
    simp [fields, Fields.wide, Fields.none, Toml.fits_iff]
  have hgives : FileGives file fields := Config.fileGives_of_render hfits (by decide +kernel)
  refine ⟨{ Arguments.none with config := some "bridge.toml", maxConnections := some 5 }, rfl,
    hgives, rfl, rfl, ?_⟩
  rw [configure_of_fileGives rfl hgives]
  rfl

end CommandLine.Arguments
end BatchBridge
