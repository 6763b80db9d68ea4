import ServiceBroker.Proofs.Json.Printed
import ServiceBroker.Settings.Encoding

/-!
# Settings survive their encoding

An encoding spells every setting out, so reading it fills nothing in. It does not matter in which
order the members stand: an encoding that is written as it is declared and one whose members have
been sorted are read as the same settings.

## Main definitions

* `Settings.Encodes`, and an `Encodes` in the namespace of each section: the encodings of a value
* `Settings.ReadsBack`: reading an encoding gives the value back, from a text or without one
* `Settings.Survives`: every encoding of every value is read back
* `Settings.rewritten`: the text of settings that have been read from a text

## Main results

* `Settings.accepts_executor`, `Settings.accepts_authentication`, `Settings.accepts_settings`: what
  the readers make of encodings
* `Settings.survives_encoding`: every section and the settings as a whole are read back
-/

namespace ServiceBroker.Settings

open Json

variable {α : Type} {j : Json} {depth : Nat} {declared : List (String × Json)}

/-! ### Encodings -/

/-- What is encoded of the server section. -/
def Server.members (s : Server) : List (String × Json) :=
  [("bind", .string s.bind), ("metrics_enabled", .bool s.metricsEnabled),
    ("debug_credentials", .bool s.debugCredentials)]

/-- What is encoded of the broker section. -/
def Broker.members (b : Broker) : List (String × Json) :=
  [("service_id", .ofString? b.serviceId), ("async_enabled", .bool b.asyncEnabled)]

/-- What is encoded of a remote executor, next to its tag. -/
def Remote.members (r : Remote) : List (String × Json) :=
  [("apiserver_url", .string r.apiserverUrl), ("client_version", .string r.clientVersion),
    ("username", .string r.username), ("password", .string r.password),
    ("request_timeout_secs", .nat r.requestTimeout.toNat),
    ("insecure_skip_verify", .bool r.insecureSkipVerify),
    ("instance_label_key", .string r.instanceLabelKey), ("kubeconfig", .ofString? r.kubeconfig)]

/-- What is encoded of the executor section. -/
def Executor.members : Executor → List (String × Json)
  | .inMemory => [("type", .string "mock")]
  | .remote r => ("type", .string "remote") :: r.members

/-- What is encoded of a name and password, next to their tag. -/
def basicMembers (username password : String) : List (String × Json) :=
  [("username", .string username), ("password", .string password)]

/-- What is encoded of the authentication section. -/
def Authentication.members : Authentication → List (String × Json)
  | .anyone => [("type", .string "none")]
  | .basic username password => ("type", .string "basic") :: basicMembers username password
  | .tokenReview => [("type", .string "token_review")]

/-- What is encoded of settings, from an encoding of each section. -/
def sections (server broker executor authentication : Json) : List (String × Json) :=
  [("server", server), ("broker", broker), ("executor", executor), ("auth", authentication)]

/-- The value encodes the server section, with its members in any order. -/
def Server.Encodes (s : Server) (j : Json) : Prop := j.IsObjectOf s.members

/-- The value encodes the broker section, with its members in any order. -/
def Broker.Encodes (b : Broker) (j : Json) : Prop := j.IsObjectOf b.members

/-- The value encodes the executor section, with its members in any order. -/
def Executor.Encodes (e : Executor) (j : Json) : Prop := j.IsObjectOf e.members

/-- The value encodes the authentication section, with its members in any order. -/
def Authentication.Encodes (a : Authentication) (j : Json) : Prop := j.IsObjectOf a.members

/-- The value encodes the settings, with members in any order in it and in each section. -/
def Encodes (s : Settings) (j : Json) : Prop :=
  ∃ server broker executor authentication, s.server.Encodes server ∧ s.broker.Encodes broker ∧
    s.executor.Encodes executor ∧ s.authentication.Encodes authentication ∧
    j.IsObjectOf (sections server broker executor authentication)

theorem Server.nodup_members (s : Server) : (s.members.map (·.1)).Nodup := by
  simp [Server.members]

theorem Broker.nodup_members (b : Broker) : (b.members.map (·.1)).Nodup := by
  simp [Broker.members]

theorem Executor.nodup_members (e : Executor) : (e.members.map (·.1)).Nodup := by
  cases e with
  | inMemory | remote => simp [Executor.members, Remote.members]

theorem Authentication.nodup_members (a : Authentication) : (a.members.map (·.1)).Nodup := by
  cases a with
  | anyone | basic | tokenReview => simp [Authentication.members, basicMembers]

theorem nodup_sections (server broker executor authentication : Json) :
    ((sections server broker executor authentication).map (·.1)).Nodup := by
  simp [sections]

theorem Server.encodes_toJson (s : Server) : s.Encodes s.toJson :=
  isObjectOf_ofMembers s.nodup_members

theorem Broker.encodes_toJson (b : Broker) : b.Encodes b.toJson :=
  isObjectOf_ofMembers b.nodup_members

theorem Executor.encodes_toJson (e : Executor) : e.Encodes e.toJson := by
  cases e with
  | inMemory => exact isObjectOf_ofMembers (nodup_members .inMemory)
  | remote r => exact isObjectOf_ofMembers (nodup_members (.remote r))

theorem Authentication.encodes_toJson (a : Authentication) : a.Encodes a.toJson := by
  cases a with
  | anyone => exact isObjectOf_ofMembers (nodup_members .anyone)
  | basic username password => exact isObjectOf_ofMembers (nodup_members (.basic username password))
  | tokenReview => exact isObjectOf_ofMembers (nodup_members .tokenReview)

theorem encodes_toJson (s : Settings) : s.Encodes s.toJson :=
  ⟨_, _, _, _, s.server.encodes_toJson, s.broker.encodes_toJson, s.executor.encodes_toJson,
    s.authentication.encodes_toJson, isObjectOf_ofMembers (nodup_sections _ _ _ _)⟩

/-! ### No section has floating-point numbers -/

theorem isPlain_ofString? (s : Option String) : (Json.ofString? s).IsPlain := by
  cases s with
  | none => exact .null
  | some s => exact .string s

theorem isPlain_of_isObjectOf (h : j.IsObjectOf declared) (hplain : ∀ m ∈ declared, m.2.IsPlain) :
    j.IsPlain := by
  obtain ⟨members, rfl, hperm⟩ := h
  exact .object fun m hm => hplain m (hperm.mem_iff.mp hm)

theorem Server.Encodes.isPlain {s : Server} (h : s.Encodes j) : j.IsPlain := by
  apply isPlain_of_isObjectOf h
  simp [Server.members, IsPlain.string, IsPlain.bool]

theorem Broker.Encodes.isPlain {b : Broker} (h : b.Encodes j) : j.IsPlain := by
  apply isPlain_of_isObjectOf h
  simp [Broker.members, isPlain_ofString?, IsPlain.bool]

theorem Executor.Encodes.isPlain {e : Executor} (h : e.Encodes j) : j.IsPlain := by
  apply isPlain_of_isObjectOf h
  cases e with
  | inMemory => simp [Executor.members, IsPlain.string]
  | remote r =>
    have htimeout : (Json.nat r.requestTimeout.toNat).IsPlain :=
      .number (Nat.le_of_lt_succ r.requestTimeout.toNat_lt)
    simp [Executor.members, Remote.members, htimeout, isPlain_ofString?, IsPlain.string,
      IsPlain.bool]

theorem Authentication.Encodes.isPlain {a : Authentication} (h : a.Encodes j) : j.IsPlain := by
  apply isPlain_of_isObjectOf h
  cases a with
  | anyone | basic | tokenReview =>
    simp [Authentication.members, basicMembers, IsPlain.string]

theorem Encodes.isPlain {s : Settings} (h : s.Encodes j) : j.IsPlain := by
  obtain ⟨server, broker, executor, authentication, hserver, hbroker, hexecutor, hauthentication,
    hj⟩ := h
  apply isPlain_of_isObjectOf hj
  simp [sections, hserver.isPlain, hbroker.isPlain, hexecutor.isPlain, hauthentication.isPlain]

/-! ### What the readers make of encodings -/

theorem accepts_server {s : Server} (h : s.Encodes j) :
    Accepts Server.reader (depth + 1) j s := by
  have hbind : (Record.withDefault "bind" .string Server.standard.bind).Fills s.members depth
      s.bind := Record.fills_withDefault rfl (accepts_string _ _)
  have hmetrics : (Record.withDefault "metrics_enabled" .bool
      Server.standard.metricsEnabled).Fills s.members depth s.metricsEnabled :=
    Record.fills_withDefault rfl (accepts_bool _)
  have hdebug : (Record.withDefault "debug_credentials" .bool
      Server.standard.debugCredentials).Fills s.members depth s.debugCredentials :=
    Record.fills_withDefault rfl (accepts_bool _)
  exact accepts_reader (((hbind.map Server.mk).seq hmetrics).seq hdebug) h rfl s.nodup_members

theorem accepts_broker {b : Broker} (h : b.Encodes j) :
    Accepts Broker.reader (depth + 1) j b := by
  have hid : (Record.optional "service_id" .string).Fills b.members depth b.serviceId :=
    Record.fills_optional rfl (accepts_ofString? _ _)
  have hasync : (Record.withDefault "async_enabled" .bool false).Fills b.members depth
      b.asyncEnabled := Record.fills_withDefault rfl (accepts_bool _)
  exact accepts_reader ((hid.map Broker.mk).seq hasync) h rfl b.nodup_members

/-- A remote executor is read from its fields alone, once the tag is known. -/
theorem fills_remote (r : Remote) : Remote.record.Fills r.members depth r := by
  have hurl : (Record.required "apiserver_url" .string).Fills r.members depth r.apiserverUrl :=
    Record.fills_required rfl (accepts_string _ _)
  have hversion : (Record.withDefault "client_version" .string
      Remote.standardClientVersion).Fills r.members depth r.clientVersion :=
    Record.fills_withDefault rfl (accepts_string _ _)
  have husername : (Record.required "username" .string).Fills r.members depth r.username :=
    Record.fills_required rfl (accepts_string _ _)
  have hpassword : (Record.required "password" .string).Fills r.members depth r.password :=
    Record.fills_required rfl (accepts_string _ _)
  have htimeout : (Record.withDefault "request_timeout_secs" .uint64
      Remote.standardTimeout).Fills r.members depth r.requestTimeout :=
    Record.fills_withDefault rfl (accepts_uint64 _)
  have hinsecure : (Record.withDefault "insecure_skip_verify" .bool false).Fills r.members depth
      r.insecureSkipVerify := Record.fills_withDefault rfl (accepts_bool _)
  have hlabel : (Record.withDefault "instance_label_key" .string
      Remote.standardLabelKey).Fills r.members depth r.instanceLabelKey :=
    Record.fills_withDefault rfl (accepts_string _ _)
  have hkubeconfig : (Record.optional "kubeconfig" (.stringAs "path string")).Fills r.members depth
      r.kubeconfig := Record.fills_optional rfl (accepts_ofString? _ _)
  exact ((((((((hurl.map Remote.mk).seq hversion).seq husername).seq hpassword).seq htimeout).seq
    hinsecure).seq hlabel).seq hkubeconfig)

theorem isScalar_ofString? (s : Option String) : (Json.ofString? s).IsScalar := by
  cases s with
  | none | some => trivial

theorem accepts_executor {e : Executor} (h : e.Encodes j) :
    Accepts Executor.reader (depth + 1) j e := by
  cases e with
  | inMemory =>
    exact accepts_tagged h (Executor.nodup_members .inMemory) (List.forall_mem_nil _) rfl
      fun j hj => ⟨0, accepts_unit _ hj⟩
  | remote r =>
    have hnodup := Executor.nodup_members (.remote r)
    have hscalar : ∀ m ∈ r.members, m.2.IsScalar := by
      simp only [Remote.members, List.forall_mem_cons]
      exact ⟨trivial, trivial, trivial, trivial, trivial, trivial, trivial, isScalar_ofString? _,
        List.forall_mem_nil _⟩
    -- The fields by themselves are an object again, of one more level than its scalars.
    exact accepts_tagged h hnodup hscalar rfl fun j hj =>
      ⟨1, (accepts_reader (fills_remote r) hj rfl (List.nodup_cons.mp hnodup).2).map
        Executor.remote⟩

theorem accepts_authentication {a : Authentication} (h : a.Encodes j) :
    Accepts Authentication.reader (depth + 1) j a := by
  cases a with
  | anyone =>
    exact accepts_tagged h (Authentication.nodup_members .anyone) (List.forall_mem_nil _) rfl
      fun j hj => ⟨0, accepts_unit _ hj⟩
  | tokenReview =>
    exact accepts_tagged h (Authentication.nodup_members .tokenReview) (List.forall_mem_nil _) rfl
      fun j hj => ⟨0, accepts_unit _ hj⟩
  | basic username password =>
    have hnodup := Authentication.nodup_members (.basic username password)
    have hscalar : ∀ m ∈ basicMembers username password, m.2.IsScalar := by
      simp only [basicMembers, List.forall_mem_cons]
      exact ⟨trivial, trivial, List.forall_mem_nil _⟩
    have husername : (Record.required "username" .string).Fills
        (basicMembers username password) 0 username :=
      Record.fills_required rfl (accepts_string _ _)
    have hpassword : (Record.required "password" .string).Fills
        (basicMembers username password) 0 password :=
      Record.fills_required rfl (accepts_string _ _)
    exact accepts_tagged h hnodup hscalar rfl fun j hj =>
      ⟨1, accepts_reader ((husername.map Authentication.basic).seq hpassword) hj rfl
        (List.nodup_cons.mp hnodup).2⟩

theorem accepts_settings {s : Settings} (h : s.Encodes j) :
    Accepts reader (depth + 2) j s := by
  obtain ⟨server, broker, executor, authentication, hs, hb, he, ha, hj⟩ := h
  have hserver : (Record.withDefault "server" Server.reader .standard).Fills
      (sections server broker executor authentication) (depth + 1) s.server :=
    Record.fills_withDefault rfl (accepts_server hs)
  have hbroker : (Record.withDefault "broker" Broker.reader .standard).Fills
      (sections server broker executor authentication) (depth + 1) s.broker :=
    Record.fills_withDefault rfl (accepts_broker hb)
  have hexecutor : (Record.withDefault "executor" Executor.reader .inMemory).Fills
      (sections server broker executor authentication) (depth + 1) s.executor :=
    Record.fills_withDefault rfl (accepts_executor he)
  have hauthentication : (Record.withDefault "auth" Authentication.reader .anyone).Fills
      (sections server broker executor authentication) (depth + 1) s.authentication :=
    Record.fills_withDefault rfl (accepts_authentication ha)
  exact accepts_reader
    ((((hserver.map Settings.mk).seq hbroker).seq hexecutor).seq hauthentication) hj rfl
    (nodup_sections _ _ _ _)

/-! ### Reading encodings back -/

/-- Reading an encoding gives the value back, from the text of the encoding and without one. -/
def ReadsBack (r : Reader α) (j : Json) (a : α) : Prop :=
  r.fromText (Utf8.bytes j.render) = .ok a ∧ r.fromJson j = .ok a

/-- Every encoding of a value is read back as the value, and what is written of it is one. -/
structure Survives (r : Reader α) (toJson : α → Json) (Encodes : α → Json → Prop) : Prop where
  encodes_toJson : ∀ a, Encodes a (toJson a)
  readsBack : ∀ a j, Encodes a j → ReadsBack r j a

theorem readsBack_of_accepts {r : Reader α} {a : α} (h : Accepts r maxDepth j a)
    (hj : j.IsPlain) : ReadsBack r j a :=
  ⟨h.fromText_render hj, h.fromJson⟩

/-- The text of settings that `encode` writes once a text has been read as them. -/
def rewritten (encode : Settings → Json) (text : List UInt8) :
    Except ReadFailure (List UInt8) :=
  (reader.fromText text).map fun s => Utf8.bytes (encode s).render

/-- Whether the settings that a text is read as are ruled out, and with which message. -/
def verdict (text : List UInt8) : Except ReadFailure (Except String Unit) :=
  (reader.fromText text).map fun s => s.validate.mapError Defect.message

theorem exists_of_rewritten {encode : Settings → Json} {text text' : List UInt8}
    (h : rewritten encode text = .ok text') :
    ∃ s, reader.fromText text = .ok s ∧ text' = Utf8.bytes (encode s).render := by
  unfold rewritten at h
  cases hread : reader.fromText text with
  | error e =>
    rw [hread] at h
    cases h
  | ok s =>
    rw [hread] at h
    exact ⟨s, rfl, (Except.ok.inj h).symm⟩

/-- Nothing is lost or changed when settings, or a section by itself, are encoded and read again. So
once a text has been read as settings, writing them with everything spelled out, in whatever order,
and reading that again changes nothing any more, and neither does it change whether and why the
settings are ruled out. -/
theorem survives_encoding :
    Survives Server.reader Server.toJson Server.Encodes ∧
    Survives Broker.reader Broker.toJson Broker.Encodes ∧
    Survives Executor.reader Executor.toJson Executor.Encodes ∧
    Survives Authentication.reader Authentication.toJson Authentication.Encodes ∧
    Survives reader toJson Encodes ∧
    ∀ encode : Settings → Json, (∀ s : Settings, s.Encodes (encode s)) → ∀ text text',
      rewritten encode text = .ok text' →
        rewritten encode text' = .ok text' ∧ verdict text' = verdict text := by
  have hsettings : Survives reader toJson Encodes :=
    ⟨encodes_toJson, fun s j h => readsBack_of_accepts (accepts_settings h) h.isPlain⟩
  refine ⟨?_, ?_, ?_, ?_, hsettings, fun encode hencode text text' h => ?_⟩
  · exact ⟨Server.encodes_toJson, fun s j h => readsBack_of_accepts (accepts_server h) h.isPlain⟩
  · exact ⟨Broker.encodes_toJson, fun b j h => readsBack_of_accepts (accepts_broker h) h.isPlain⟩
  · exact ⟨Executor.encodes_toJson,
      fun e j h => readsBack_of_accepts (accepts_executor h) h.isPlain⟩
  · exact ⟨Authentication.encodes_toJson,
      fun a j h => readsBack_of_accepts (accepts_authentication h) h.isPlain⟩
  · obtain ⟨s, hread, rfl⟩ := exists_of_rewritten h
    obtain ⟨hagain, -⟩ := hsettings.readsBack s (encode s) (hencode s)
    constructor
    · rw [rewritten, hagain]
      rfl
    · rw [verdict, verdict, hagain, hread]

/-- A text with some settings of a remote executor is spelled out once and for all, and the blank
service ID in it is complained about as before. -/
theorem survives_encoding_blank :
    let text := Utf8.bytes ("\x7b\"broker\": \x7b\"service_id\": \" \"\x7d, \"executor\": " ++
      "\x7b\"username\": \"u\", \"type\": \"remote\", \"password\": \"p\", " ++
      "\"apiserver_url\": \"https://a\"\x7d\x7d")
    let text' := Utf8.bytes ("\x7b\"auth\":\x7b\"type\":\"none\"\x7d," ++
      "\"broker\":\x7b\"async_enabled\":false,\"service_id\":\" \"\x7d," ++
      "\"executor\":\x7b\"apiserver_url\":\"https://a\",\"client_version\":\"4.0.1\"," ++
      "\"insecure_skip_verify\":false,\"instance_label_key\":\"pgo-osb-instance\"," ++
      "\"kubeconfig\":null,\"password\":\"p\",\"request_timeout_secs\":30," ++
      "\"type\":\"remote\",\"username\":\"u\"\x7d," ++
      "\"server\":\x7b\"bind\":\"0.0.0.0:8443\",\"debug_credentials\":false," ++
      "\"metrics_enabled\":true\x7d\x7d")
    rewritten toJson text = .ok text' ∧ rewritten toJson text' = .ok text' ∧
      verdict text = .ok (.error "broker.service_id must not be empty when set") ∧
      verdict text' = .ok (.error "broker.service_id must not be empty when set") := by
  intro text text'
  have hrewritten : rewritten toJson text = .ok text' := eq_ok_of_toOption (by decide +kernel)
  have hverdict : verdict text = .ok (.error "broker.service_id must not be empty when set") :=
    eq_ok_of_toOption (by decide +kernel)
  obtain ⟨hagain, hsame⟩ :=
    survives_encoding.2.2.2.2.2 toJson encodes_toJson text text' hrewritten
  exact ⟨hrewritten, hagain, hverdict, hsame.trans hverdict⟩

end ServiceBroker.Settings
