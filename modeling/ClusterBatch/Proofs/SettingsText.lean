import ClusterBatch.Proofs.AddressText
import ClusterBatch.Proofs.JsonText
import ClusterBatch.Settings.Json
import Mathlib

/-!
# Texts of settings

Settings are read from their own text if and only if the host of every address in them is bare. Such
are all settings that are read from any text, whichever fields it leaves out and however it spells
an address, and those that are made of addresses with bare hosts. That another reading and writing
changes nothing follows, since the text of settings depends on nothing but the settings.

Main statement: `Settings.survives_of_ofText?_or_isBuilt`.
-/

namespace ClusterBatch

namespace Json

/-! ## Values that read back -/

@[simp] theorem uint32?_toNat (n : UInt32) : (Json.integer n.toNat).uint32? = some n := by
  simp [uint32?, below?, n.toNat_lt_size]

@[simp] theorem uint64?_toNat (n : UInt64) : (Json.integer n.toNat).uint64? = some n := by
  simp [uint64?, below?, n.toNat_lt_size]

@[simp] theorem int64?_toInt (n : Int64) : (Json.integer n.toInt).int64? = some n := by
  rw [int64?, if_pos ⟨n.minValue_le_toInt, n.toInt_le⟩, Int64.ofInt_toInt]

@[simp] theorem text?_ofText (text : String) : (ofText text).text? = some text := rfl

section Readers

variable {α : Type} {read : Json → Option α} {write : α → Json}

theorem optional?_ofOption (hnull : ∀ a, write a ≠ .null) (h : ∀ a, read (write a) = some a)
    (value : Option α) : optional? read (ofOption write value) = some value := by
  cases value with
  | none => rfl
  | some a =>
    rw [ofOption, optional?]
    · rw [h, Option.map_some]
    · exact hnull a

theorem mapM_eq_some_iff {β : Type} {f : α → Option β} {list : List α} {results : List β} :
    list.mapM f = some results ↔ List.Forall₂ (fun a b => f a = some b) list results := by
  induction list generalizing results with
  | nil => simp [eq_comm]
  | cons a list ih =>
    simp only [List.mapM_cons, Option.bind_eq_bind, Option.pure_def, Option.bind_eq_some_iff, ih,
      Option.some.injEq, List.forall₂_cons_left_iff, exists_and_left, eq_comm (a := results)]

theorem list?_array {list : List α} (h : ∀ a ∈ list, read (write a) = some a) :
    list? read (.array (list.map write)) = some list := by
  rw [list?, mapM_eq_some_iff, List.forall₂_map_left_iff, List.forall₂_same]
  exact h

/-- Each item of a list that is read comes from some value. -/
theorem exists_of_mem_list? {json : Json} {list : List α} (h : list? read json = some list)
    {a : α} (ha : a ∈ list) : ∃ item, read item = some a := by
  unfold list? at h
  split at h
  · next items =>
    have hread : List.Forall₂ (fun a item => (∃ item, read item = some a) ∧ read item = some a)
        list items := (mapM_eq_some_iff.1 h).flip.imp fun a item hitem => ⟨⟨item, hitem⟩, hitem⟩
    exact ((List.forall₂_and_left _ _).1 hread).1 a ha
  · cases h

end Readers

/-! ## Fields -/

theorem filter_fst_eq {pairs : List (String × Json)} (hnames : (pairs.map Prod.fst).Nodup)
    {pair : String × Json} (hpair : pair ∈ pairs) :
    pairs.filter (fun other => other.1 = pair.1) = [pair] := by
  induction pairs with
  | nil => cases hpair
  | cons first pairs ih =>
    obtain ⟨hfirst, hnames⟩ := List.nodup_cons.1 hnames
    rcases List.mem_cons.1 hpair with rfl | hpair
    · have hrest : pairs.filter (fun other => other.1 = pair.1) = [] := by
        rw [List.filter_eq_nil_iff]
        intro other hother heq
        exact hfirst (of_decide_eq_true heq ▸ List.mem_map_of_mem hother)
      simp [hrest]
    · have hne : first.1 ≠ pair.1 := fun heq => hfirst (heq ▸ List.mem_map_of_mem hpair)
      simp [hne, ih hnames hpair]

/-- Each member of an object whose names are all different is found. -/
theorem member?_of_mem {pairs : List (String × Json)} (hnames : (pairs.map Prod.fst).Nodup)
    {pair : String × Json} (hpair : pair ∈ pairs) :
    member? (pairs.map fun (name, value) => (some name, value)) pair.1 = some (some pair.2) := by
  have hfilter := filter_fst_eq hnames hpair
  simp only [member?, List.filter_map, Function.comp_def, Option.some.injEq, hfilter, List.map_cons,
    List.map_nil]

theorem fields?_ofMembers {names : List String} {values : List Json} (hnames : names.Nodup)
    (hlength : names.length = values.length) :
    (ofMembers (names.zip values)).fields? names = some (values.map some) := by
  have hfst : (names.zip values).map Prod.fst = names := List.map_fst_zip hlength.le
  rw [ofMembers, fields?, if_pos (by simp), mapM_eq_some_iff, List.forall₂_map_right_iff,
    List.forall₂_iff_zip]
  exact ⟨hlength, fun hpair => member?_of_mem (hfst.symm ▸ hnames) hpair⟩

/-- An object is exact if its values are. -/
theorem isExact_ofMembers (names : List String) {values : List Json}
    (h : ∀ value ∈ values, IsExact value) : IsExact (ofMembers (names.zip values)) := by
  refine .object ?_ ?_ <;> intro member hmember <;>
    obtain ⟨pair, hpair, rfl⟩ := List.mem_map.1 hmember
  · rfl
  · exact h _ (List.of_mem_zip hpair).2

theorem isExact_ofOption {α : Type} {write : α → Json} (h : ∀ a, IsExact (write a))
    (value : Option α) : IsExact (ofOption write value) := by
  cases value with
  | none => exact .null
  | some a => exact h a

end Json

/-! ## The parts of settings -/

theorem NodeAddress.ofJson?_text {address : NodeAddress} (h : IsBare address.host.toList) :
    ofJson? (.ofText address.text) = some address := by
  have hread := ofText_eq_ok_iff.2 ⟨h, address.spells_text⟩
  rw [ofJson?, Json.text?_ofText, Option.bind_some, hread]
  rfl

theorem NodeAddress.isBare_of_ofJson? {json : Json} {address : NodeAddress}
    (h : ofJson? json = some address) : IsBare address.host.toList := by
  obtain ⟨text, -, hread⟩ := Option.bind_eq_some_iff.1 h
  cases hresult : ofText text with
  | error e => simp [hresult, Except.toOption] at hread
  | ok found =>
    rw [hresult] at hread
    cases hread
    exact (ofText_eq_ok_iff.1 hresult).1

theorem ReadPolicy.ofJson?_word (policy : ReadPolicy) :
    Json.word? ofWord? (.ofText policy.word) = some policy := by
  cases policy <;> rfl

theorem ProtocolVersion.ofJson?_word (version : ProtocolVersion) :
    Json.word? ofWord? (.ofText version.word) = some version := by
  cases version <;> rfl

theorem bind_some_of {α β : Type} {x : Option α} {f : α → Option β} {a : α} {b : β}
    (hx : x = some a) (hf : f a = some b) : x >>= f = some b := by
  rw [hx]
  exact hf

-- The values of the fields are variables in the next lemma and in the one for settings. For an
-- integer in their place, the kernel would begin to compare it with the bound of the words.

/-- A backoff is read once its fields are found and each of them is read. -/
theorem Backoff.ofJson?_of_fields {json retries factor exponentBase jitterPercent : Json}
    {backoff : Backoff}
    (hfields : json.fields? fieldNames =
      some [some retries, some factor, some exponentBase, some jitterPercent])
    (hretries : retries.uint32? = some backoff.retries)
    (hfactor : factor.uint32? = some backoff.factor)
    (hbase : exponentBase.uint32? = some backoff.exponentBase)
    (hjitter : jitterPercent.uint32? = some backoff.jitterPercent) :
    ofJson? json = some backoff := by
  simp only [ofJson?, hfields, Json.field?, hretries, hfactor, hbase, hjitter, Option.bind_eq_bind,
    Option.bind_some]

theorem Backoff.ofJson?_toJson (backoff : Backoff) : ofJson? backoff.toJson = some backoff := by
  apply ofJson?_of_fields (Json.fields?_ofMembers (by decide) rfl) <;>
    exact Json.uint32?_toNat _

theorem Credentials.ofJson?_toJson (credentials : Credentials) :
    ofJson? credentials.toJson = some credentials := by
  have hfields : credentials.toJson.fields? fieldNames = _ :=
    Json.fields?_ofMembers (by decide) rfl
  have husername : Json.optional? Json.text? (.ofOption .ofText credentials.username) =
      some credentials.username := Json.optional?_ofOption nofun Json.text?_ofText _
  simp only [ofJson?, hfields, Option.bind_eq_bind, Option.bind_some, List.map_cons, List.map_nil,
    Json.field?, husername, Json.text?_ofText]

/-- Settings are read once their fields are found and each of them is read. -/
theorem Settings.ofJson?_of_fields {json addresses clientName useTls connectionTimeout
      requestTimeout databaseId backoff credentials protocol readPolicy refreshRetries
      maxRedirects : Json} {settings : Settings}
    (hfields : json.fields? fieldNames = some [some addresses, some clientName, some useTls,
      some connectionTimeout, some requestTimeout, some databaseId, some backoff,
      some credentials, some protocol, some readPolicy, some refreshRetries, some maxRedirects])
    (haddresses : Json.list? NodeAddress.ofJson? addresses = some settings.addresses)
    (hname : Json.optional? Json.text? clientName = some settings.clientName)
    (htls : useTls.boolean? = some settings.useTls)
    (hconnection : connectionTimeout.uint64? = some settings.connectionTimeout)
    (hrequest : Json.optional? Json.uint64? requestTimeout = some settings.requestTimeout)
    (hdatabase : databaseId.int64? = some settings.databaseId)
    (hbackoff : Backoff.ofJson? backoff = some settings.backoff)
    (hcredentials : Json.optional? Credentials.ofJson? credentials = some settings.credentials)
    (hprotocol : Json.word? ProtocolVersion.ofWord? protocol = some settings.protocol)
    (hpolicy : Json.word? ReadPolicy.ofWord? readPolicy = some settings.readPolicy)
    (hretries : refreshRetries.uint32? = some settings.refreshRetries)
    (hredirects : maxRedirects.uint64? = some settings.maxRedirects) :
    ofJson? json = some settings := by
  refine bind_some_of hfields ?_
  refine bind_some_of haddresses (bind_some_of hname (bind_some_of htls ?_))
  refine bind_some_of hconnection (bind_some_of hrequest (bind_some_of hdatabase ?_))
  refine bind_some_of hbackoff (bind_some_of hcredentials (bind_some_of hprotocol ?_))
  exact bind_some_of hpolicy (bind_some_of hretries (bind_some_of hredirects rfl))

theorem Settings.ofJson?_toJson {settings : Settings}
    (h : ∀ address ∈ settings.addresses, NodeAddress.IsBare address.host.toList) :
    ofJson? settings.toJson = some settings := by
  apply ofJson?_of_fields (Json.fields?_ofMembers (by decide) rfl)
  · exact Json.list?_array fun address haddress => NodeAddress.ofJson?_text (h address haddress)
  · exact Json.optional?_ofOption nofun Json.text?_ofText _
  · rfl
  · exact Json.uint64?_toNat _
  · exact Json.optional?_ofOption nofun Json.uint64?_toNat _
  · exact Json.int64?_toInt _
  · exact Backoff.ofJson?_toJson _
  · exact Json.optional?_ofOption nofun Credentials.ofJson?_toJson _
  · exact ProtocolVersion.ofJson?_word _
  · exact ReadPolicy.ofJson?_word _
  · exact Json.uint32?_toNat _
  · exact Json.uint64?_toNat _

/-- Every address that is read has a bare host; by default there are no addresses. -/
theorem Settings.isBare_of_ofJson? {json : Json} {settings : Settings}
    (h : ofJson? json = some settings) :
    ∀ address ∈ settings.addresses, NodeAddress.IsBare address.host.toList := by
  obtain ⟨fields, -, h⟩ := Option.bind_eq_some_iff.1 h
  split at h
  · next field _ _ _ _ _ _ _ _ _ _ _ =>
    obtain ⟨addresses, haddresses, h⟩ := Option.bind_eq_some_iff.1 h
    -- The addresses depend on no other field.
    iterate 11 obtain ⟨_, -, h⟩ := Option.bind_eq_some_iff.1 h
    cases h
    cases field with
    | none =>
      cases haddresses
      exact List.forall_mem_nil _
    | some json =>
      intro address haddress
      obtain ⟨item, hitem⟩ := Json.exists_of_mem_list? haddresses haddress
      exact NodeAddress.isBare_of_ofJson? hitem
  · cases h

/-! ## Texts -/

theorem Backoff.isExact_toJson (backoff : Backoff) : backoff.toJson.IsExact := by
  refine Json.isExact_ofMembers _ ?_
  simp only [List.forall_mem_cons]
  exact ⟨.integer _, .integer _, .integer _, .integer _, List.forall_mem_nil _⟩

theorem Credentials.isExact_toJson (credentials : Credentials) : credentials.toJson.IsExact := by
  refine Json.isExact_ofMembers _ ?_
  simp only [List.forall_mem_cons]
  exact ⟨Json.isExact_ofOption (fun _ => .string _) _, .string _, List.forall_mem_nil _⟩

namespace Settings

theorem isExact_toJson (settings : Settings) : settings.toJson.IsExact := by
  have haddresses : ∀ item ∈ settings.addresses.map fun address => Json.ofText address.text,
      item.IsExact := List.forall_mem_map.2 fun address _ => .string address.text
  refine Json.isExact_ofMembers _ ?_
  simp only [List.forall_mem_cons]
  exact ⟨.array haddresses, Json.isExact_ofOption (fun _ => .string _) _, .boolean _,
    .integer _, Json.isExact_ofOption (fun _ => .integer _) _, .integer _,
    Backoff.isExact_toJson _, Json.isExact_ofOption Credentials.isExact_toJson _, .string _,
    .string _, .integer _, .integer _, List.forall_mem_nil _⟩

theorem ofText?_text (settings : Settings) : ofText? settings.text = ofJson? settings.toJson := by
  rw [ofText?, text, Json.read?_write settings.isExact_toJson, Option.bind_some]

/-- Settings are read from their own text if and only if all hosts in them are bare. -/
theorem ofText?_text_eq_some_iff {settings : Settings} : ofText? settings.text = some settings ↔
    ∀ address ∈ settings.addresses, NodeAddress.IsBare address.host.toList := by
  rw [ofText?_text]
  exact ⟨isBare_of_ofJson?, ofJson?_toJson⟩

/-- Settings that are made of addresses step by step. -/
inductive IsBuilt (addresses : List NodeAddress) : Settings → Prop
  | ofAddresses : IsBuilt addresses (ofAddresses addresses)
  | readingFrom {settings : Settings} (h : IsBuilt addresses settings) (policy : ReadPolicy) :
    IsBuilt addresses (settings.readingFrom policy)
  | retrying {settings : Settings} (h : IsBuilt addresses settings) (backoff : Backoff) :
    IsBuilt addresses (settings.retrying backoff)
  | answeredWithin {settings : Settings} (h : IsBuilt addresses settings) (limit : UInt64) :
    IsBuilt addresses (settings.answeredWithin limit)

theorem IsBuilt.addresses_eq {addresses : List NodeAddress} {settings : Settings}
    (h : IsBuilt addresses settings) : settings.addresses = addresses := by
  induction h with
  | ofAddresses => rfl
  | readingFrom _ _ ih => exact ih
  | retrying _ _ ih => exact ih
  | answeredWithin _ _ ih => exact ih

/-- Whether writing settings and reading them gives them back, and writing them once more the same
text. -/
def Survives (settings : Settings) : Prop :=
  ofText? settings.text = some settings ∧
    (ofText? settings.text).map text = some settings.text

theorem survives_of_isBare {settings : Settings}
    (h : ∀ address ∈ settings.addresses, NodeAddress.IsBare address.host.toList) :
    settings.Survives := by
  have hread := ofText?_text_eq_some_iff.2 h
  exact ⟨hread, congrArg (Option.map text) hread⟩

/-- Whatever settings are read from a text, or made of addresses with bare hosts, survive. -/
theorem survives_of_ofText?_or_isBuilt :
    (∀ text settings, ofText? text = some settings → settings.Survives) ∧
      ∀ addresses settings, (∀ address ∈ addresses, NodeAddress.IsBare address.host.toList) →
        IsBuilt addresses settings → settings.Survives := by
  constructor
  · intro text settings h
    obtain ⟨json, -, hjson⟩ := Option.bind_eq_some_iff.1 h
    exact survives_of_isBare (isBare_of_ofJson? hjson)
  · intro addresses settings hbare h
    exact survives_of_isBare (h.addresses_eq ▸ hbare)

/-- Brackets around a host, a zero in front of a port, a name without a value and most fields left
out; and settings that are made of a host with a quotation mark. -/
theorem survives_enclosed_quoted :
    let source := "\x7b\"addresses\":[\"[::1]:07000\"],\"read_from\":\"prefer_replica\"," ++
      "\"client_name\":null,\"request_timeout\":500\x7d"
    let read : Settings :=
      { addresses := [⟨"::1", 7000⟩], readPolicy := .preferReplica, requestTimeout := some 500 }
    let made := ((ofAddresses [⟨"a\"b", 80⟩]).readingFrom .randomReplica).answeredWithin 1000
    ofText? source = some read ∧ read.Survives ∧ made.Survives := by
  intro source read made
  obtain ⟨hread, hmade⟩ := survives_of_ofText?_or_isBuilt
  have hsource : ofText? source = some read := by decide +kernel
  have hbare : ∀ address ∈ made.addresses, NodeAddress.IsBare address.host.toList := by
    simp [made, answeredWithin, readingFrom, ofAddresses, NodeAddress.IsBare]
  have hbuilt : IsBuilt made.addresses made :=
    (IsBuilt.ofAddresses.readingFrom .randomReplica).answeredWithin 1000
  exact ⟨hsource, hread _ _ hsource, hmade _ _ hbare hbuilt⟩

end Settings

end ClusterBatch
