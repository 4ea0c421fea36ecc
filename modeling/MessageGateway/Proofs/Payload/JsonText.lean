import MessageGateway.Payload
import MessageGateway.Proofs.Json.RoundTrip
import MessageGateway.Proofs.Json.Sameness
import MessageGateway.Proofs.Message.Agreement
import MessageGateway.Proofs.Message.Outcome

/-!
# The JSON texts of outcomes and results

What decoding answers is an outcome or a result (`Answer`), and each is shown as an object. Its text
can be read back to that object, so it loses nothing. The object in turn is known from its members
in whatever order: the label of a record, the members that only failures have and the one in which
a failure shows its table tell the schema of the answer (`Answer.schema_eq_of_same`), and of one
schema the same values are equal.

## Main definitions

* `MessageGateway.Field.schema`, `MessageGateway.Outcome.schema`.
* `MessageGateway.Answer`, `MessageGateway.Answer.toJson`.

## Main results

* `MessageGateway.Answer.keysDistinct`, `MessageGateway.Answer.toJson_eq_of_same`.
* `MessageGateway.Answer.render_loses_nothing`.
-/

namespace MessageGateway

open Json (Schema)

/-! ### Schemas of records -/

/-- The schemas of the members that show a field. -/
def Field.schema : Field → List (String × Schema)
  | .flag name => [(name, .flag)]
  | .count name _ => [(name, .number)]
  | .messageId name => [(name, .text)]
  | .chain role => [(role ++ "_id", .text), (role ++ "_name", .text)]
  | .registry name => [(name, .text), (name ++ "_value", .number)]
  | .key name => [(name, .text)]
  | .address name => [(name, .text), (name ++ "_length", .number)]
  | .data name => [(name, .text), (name ++ "_hex", .text)]
  | .signers _ shownName => [(shownName, .array .text), ("signer_count", .number)]
  | .signatures =>
    [("signatures", .array (.object [("signature", .text), ("signer", .text)])),
      ("signature_count", .number)]

theorem Field.membersConform (f : Field) (shown : f.Shown) :
    Schema.MembersConform f.schema (f.members shown) := by
  cases f <;> simp [schema, members, signatureObject, Schema.MembersConform, Schema.Conforms]

theorem Field.keysDistinct (f : Field) (shown : f.Shown) :
    ∀ m ∈ f.members shown, m.2.KeysDistinct := by
  have htexts (texts : List String) : (Json.array (texts.map .text)).KeysDistinct := by
    refine .array fun item hitem => ?_
    obtain ⟨s, -, rfl⟩ := List.mem_map.mp hitem
    exact .text s
  have hentries (entries : List SignatureText) :
      (Json.array (entries.map signatureObject)).KeysDistinct := by
    refine .array fun item hitem => ?_
    obtain ⟨e, -, rfl⟩ := List.mem_map.mp hitem
    exact .object (by simp) (by simp [Json.KeysDistinct.text])
  cases f <;>
    simp [members, htexts, hentries, Json.KeysDistinct.flag, Json.KeysDistinct.number,
      Json.KeysDistinct.text]

theorem Layout.membersConform : (l : Layout) → (shown : l.Shown) →
    Schema.MembersConform (l.flatMap Field.schema) (l.members shown)
  | [], () => by simp [members, Schema.MembersConform]
  | f :: l, (shown, rest) => by
    rw [List.flatMap_cons, members]
    exact (f.membersConform shown).append (membersConform l rest)

theorem Layout.keysDistinct : (l : Layout) → (shown : l.Shown) →
    ∀ m ∈ l.members shown, m.2.KeysDistinct
  | [], () => by simp [members]
  | f :: l, (shown, rest) => by
    rw [members, List.forall_mem_append]
    exact ⟨f.keysDistinct shown, keysDistinct l rest⟩

/-- The schemas of the members of a record. -/
def Kind.schema (kind : Kind) : List (String × Schema) :=
  match kind with
  | .createTxPda | .processMessage =>
    (kind.scope.label, .text) :: kind.layout.flatMap Field.schema
  | _ => kind.layout.flatMap Field.schema ++ [(kind.scope.label, .text)]

theorem Record.membersConform (r : Record) : Schema.MembersConform r.kind.schema r.members := by
  obtain ⟨kind, shown⟩ := r
  have hfields := kind.layout.membersConform shown
  have hlabel : Schema.MembersConform [(kind.scope.label, .text)] [Record.label ⟨kind, shown⟩] := by
    simp [label, Schema.MembersConform, Schema.Conforms]
  cases kind
  case createTxPda | processMessage => exact hlabel.append hfields
  all_goals exact hfields.append hlabel

theorem Record.keysDistinct (r : Record) : ∀ m ∈ r.members, m.2.KeysDistinct := by
  intro m hm
  rcases List.mem_cons.mp (r.members_perm.mem_iff.mp hm) with rfl | hm
  · exact .text _
  · exact r.kind.layout.keysDistinct r.shown m hm

/-- A member with the name of a table is the label of a record of that table. -/
private theorem Kind.scope_eq_of_label_mem (kind : Kind) (scope : Scope) :
    scope.label ∈ kind.scope.label :: kind.layout.flatMap Field.memberNames →
      kind.scope = scope := by
  cases kind <;> cases scope <;> decide +kernel

/-- The names of members that no record has. -/
private theorem Kind.notMem_memberNames (kind : Kind) : ∀ name ∈ ["kind", "namespace", "type"],
    name ∉ kind.scope.label :: kind.layout.flatMap Field.memberNames := by
  cases kind <;> decide +kernel

theorem Record.notMem_names (r : Record) (name : String)
    (h : name ∈ ["kind", "namespace", "type"]) : name ∉ r.members.map Prod.fst :=
  fun hmem => r.kind.notMem_memberNames name h (r.names_perm.mem_iff.mp hmem)

theorem Record.label_mem (r : Record) : r.label ∈ r.members :=
  r.members_perm.mem_iff.mpr List.mem_cons_self

/-- Records whose members are the same are of one kind: each has the label of the other. -/
theorem Record.kind_eq_of_same {r r' : Record} (h : Json.SameMembers r.members r'.members)
    (hnames : (r.members.map Prod.fst).Perm (r'.members.map Prod.fst)) : r.kind = r'.kind := by
  have hlabel : r.kind.scope.label ∈ r'.members.map Prod.fst :=
    hnames.mem_iff.mp (List.mem_map_of_mem (f := Prod.fst) r.label_mem)
  have hscope : r'.kind.scope = r.kind.scope :=
    r'.kind.scope_eq_of_label_mem _ (r'.names_perm.mem_iff.mp hlabel)
  have hmem : (r.kind.scope.label, Json.text r'.kind.name) ∈ r'.members :=
    hscope ▸ r'.label_mem
  have hname : r.kind.name = r'.kind.name := by
    simpa only [Json.Same] using h.same r'.nodup_names r.label_mem hmem
  have hkind := Scope.kindNamed?_name r.kind.mem_kinds_scope
  rw [hname, ← hscope, Scope.kindNamed?_name r'.kind.mem_kinds_scope] at hkind
  exact (Option.some.inj hkind).symm

/-! ### Failures -/

namespace DecodeFailure

/-- The names of the members that every failure has. -/
def ownNames : List String :=
  ["namespace", "kind", "error", "discriminator", "raw_hex"]

/-- The names of the members of a failure from the given table. -/
def memberNames (scope : String) : List String :=
  scope :: ownNames.filter (· != scope)

theorem nodup_memberNames (scope : String) : (memberNames scope).Nodup := by
  refine List.nodup_cons.mpr ⟨by simp, List.Nodup.filter _ (by decide)⟩

theorem mem_memberNames {scope name : String} (h : name ∈ ownNames) : name ∈ memberNames scope := by
  by_cases hname : name = scope
  · exact hname ▸ List.mem_cons_self
  · exact List.mem_cons_of_mem _ (List.mem_filter.mpr ⟨h, by simpa using hname⟩)

/-- Either the table has the name of one of these members, which then comes first, or the label that
a record would have is put in front of them. -/
theorem members_cases (f : DecodeFailure) :
    (∃ value, (f.scope, value) ∈ f.ownMembers ∧
      f.members = (f.scope, value) :: f.ownMembers.filter (·.1 != f.scope)) ∨
    f.scope ∉ ownNames ∧ f.members = (f.scope, .text f.kind) :: f.ownMembers := by
  unfold members
  cases hlookup : f.ownMembers.lookup f.scope with
  | some value =>
    exact .inl ⟨value, mem_of_lookup hlookup, rfl⟩
  | none =>
    exact .inr ⟨notMem_keys_of_lookup hlookup, rfl⟩

theorem map_fst_members (f : DecodeFailure) : f.members.map Prod.fst = memberNames f.scope := by
  have hnames : f.ownMembers.map Prod.fst = ownNames := rfl
  rcases f.members_cases with ⟨value, -, hmembers⟩ | ⟨hscope, hmembers⟩
  · rw [hmembers, memberNames, ← hnames, List.filter_map]
    rfl
  · have hkeep : ownNames.filter (· != f.scope) = ownNames :=
      List.filter_eq_self.mpr fun name hname => by
        simpa using fun heq : name = f.scope => hscope (heq ▸ hname)
    rw [hmembers, memberNames, hkeep, ← hnames]
    rfl

/-- The table of a failure is shown. -/
theorem namespace_mem_members (f : DecodeFailure) : ("namespace", .text f.scope) ∈ f.members := by
  have hown : ("namespace", Json.text f.scope) ∈ f.ownMembers := List.mem_cons_self
  rcases f.members_cases with ⟨value, hvalue, hmembers⟩ | ⟨-, hmembers⟩ <;> rw [hmembers]
  · by_cases hscope : f.scope = "namespace"
    · have hvalue' : value = .text f.scope := by
        simpa [ownMembers, hscope] using hvalue
      rw [hvalue', hscope]
      exact List.mem_cons_self
    · refine List.mem_cons_of_mem _ (List.mem_filter.mpr ⟨hown, ?_⟩)
      simpa using Ne.symm hscope
  · exact List.mem_cons_of_mem _ hown

/-- The members of a failure are texts. -/
theorem exists_text {f : DecodeFailure} : ∀ m ∈ f.members, ∃ s, m.2 = .text s := by
  have hown : ∀ m ∈ f.ownMembers, ∃ s, m.2 = .text s := by
    simp [ownMembers]
  rcases f.members_cases with ⟨value, hvalue, hmembers⟩ | ⟨-, hmembers⟩ <;>
    rw [hmembers, List.forall_mem_cons]
  · exact ⟨hown _ hvalue, fun m hm => hown m (List.mem_filter.mp hm).1⟩
  · exact ⟨⟨_, rfl⟩, hown⟩

end DecodeFailure

/-! ### Outcomes -/

namespace Outcome

/-- The schemas of the members of an outcome. -/
def schema : Outcome → List (String × Schema)
  | .decoded r => r.kind.schema
  | .unknown _ => [("discriminator", .text), ("raw_hex", .text), ("namespace", .text)]
  | .failure f => (DecodeFailure.memberNames f.scope).map (·, .text)

theorem membersConform (x : Outcome) : Schema.MembersConform x.schema x.members := by
  cases x with
  | decoded r => exact r.membersConform
  | unknown u =>
    simp [schema, members, UnknownPayload.members, Schema.MembersConform, Schema.Conforms]
  | failure f =>
    rw [schema, members, ← f.map_fst_members, List.map_map]
    exact .texts f.exists_text

theorem nodup_names (x : Outcome) : (x.members.map Prod.fst).Nodup := by
  cases x with
  | decoded r => exact r.nodup_names
  | unknown u => simp [members, UnknownPayload.members]
  | failure f =>
    rw [members, f.map_fst_members]
    exact DecodeFailure.nodup_memberNames f.scope

theorem keysDistinct (x : Outcome) : x.toJson.KeysDistinct := by
  refine .object x.nodup_names ?_
  cases x with
  | decoded r => exact r.keysDistinct
  | unknown u => simp [members, UnknownPayload.members, Json.KeysDistinct.text]
  | failure f =>
    intro m hm
    obtain ⟨s, hs⟩ := f.exists_text m hm
    exact hs ▸ .text s

/-- Failures are told by a member that shows their kind. -/
theorem kind_mem_names_iff (x : Outcome) : "kind" ∈ x.members.map Prod.fst ↔ x.IsFailure := by
  cases x with
  | decoded r => simpa [members] using r.notMem_names "kind" (by decide)
  | unknown u => simp [members, UnknownPayload.members]
  | failure f =>
    simpa [members, f.map_fst_members] using DecodeFailure.mem_memberNames (by decide)

/-- Records are told by having no member that shows a table. -/
theorem namespace_mem_names_iff (x : Outcome) :
    "namespace" ∈ x.members.map Prod.fst ↔ x.isDecoded = false := by
  cases x with
  | decoded r => simpa [members] using r.notMem_names "namespace" (by decide)
  | unknown u => simp [members, UnknownPayload.members]
  | failure f =>
    simpa [members, f.map_fst_members] using DecodeFailure.mem_memberNames (by decide)

/-- Outcomes that are shown as the same are of the same schema. -/
theorem schema_eq_of_same {x y : Outcome} (h : x.toJson.Same y.toJson) : x.schema = y.schema := by
  rw [toJson, toJson, Json.Same] at h
  obtain ⟨hlength, h⟩ := h
  have hnames := h.names_perm hlength x.nodup_names
  have hkind := hnames.mem_iff (a := "kind")
  have hnamespace := hnames.mem_iff (a := "namespace")
  rw [kind_mem_names_iff, kind_mem_names_iff] at hkind
  rw [namespace_mem_names_iff, namespace_mem_names_iff] at hnamespace
  cases x <;> cases y
  case decoded.decoded r r' => exact congrArg Kind.schema (Record.kind_eq_of_same h hnames)
  case unknown.unknown u u' => rfl
  case failure.failure f f' =>
    have hscope := h.same (nodup_names (.failure f')) f.namespace_mem_members
      f'.namespace_mem_members
    rw [Json.Same] at hscope
    rw [schema, schema, hscope]
  all_goals simp at hkind hnamespace

/-- An outcome is not shown as a result is. -/
theorem not_names_perm_result (x : Outcome) : ¬ (x.members.map Prod.fst).Perm ["type", "data"] := by
  intro h
  have hkind := h.mem_iff (a := "kind")
  have hnamespace := h.mem_iff (a := "namespace")
  rw [kind_mem_names_iff] at hkind
  rw [namespace_mem_names_iff] at hnamespace
  cases x with
  | decoded r => exact r.notMem_names "type" (by decide) (h.mem_iff.mpr List.mem_cons_self)
  | unknown u => simp at hnamespace
  | failure f => simp at hkind

end Outcome

/-! ### Answers -/

/-- What decoding a payload answers: an outcome by one table, or the result by both of them. -/
inductive Answer where
  | outcome (x : Outcome)
  | result (r : DecodeResult)

namespace Answer

/-- An answer as an object. -/
def toJson : Answer → Json
  | .outcome x => x.toJson
  | .result r => r.toJson

/-- The schema of an answer. -/
def schema : Answer → Schema
  | .outcome x => .object x.schema
  | .result r => .object [("type", .text), ("data", .object r.outcome.schema)]

theorem conforms (a : Answer) : a.schema.Conforms a.toJson := by
  cases a with
  | outcome x => exact x.membersConform
  | result r =>
    have hdata : (Schema.object r.outcome.schema).Conforms r.outcome.toJson :=
      r.outcome.membersConform
    simpa [schema, toJson, DecodeResult.toJson, Schema.Conforms, Schema.MembersConform] using hdata

theorem keysDistinct (a : Answer) : a.toJson.KeysDistinct := by
  cases a with
  | outcome x => exact x.keysDistinct
  | result r =>
    refine .object (by simp) ?_
    simpa [Json.KeysDistinct.text] using r.outcome.keysDistinct

/-- Answers that are shown as the same are of the same schema. -/
theorem schema_eq_of_same {a b : Answer} (h : a.toJson.Same b.toJson) : a.schema = b.schema := by
  cases a <;> cases b
  case outcome.outcome x y => exact congrArg Schema.object (Outcome.schema_eq_of_same h)
  case result.result r r' =>
    rw [toJson, toJson, DecodeResult.toJson, DecodeResult.toJson, Json.Same] at h
    have hdata : r.outcome.toJson.Same r'.outcome.toJson :=
      h.2.same (by simp) (List.mem_cons_of_mem _ List.mem_cons_self)
        (List.mem_cons_of_mem _ List.mem_cons_self)
    rw [schema, schema, Outcome.schema_eq_of_same hdata]
  case outcome.result x r =>
    rw [toJson, Outcome.toJson, toJson, DecodeResult.toJson, Json.Same] at h
    exact absurd (h.2.names_perm h.1 x.nodup_names) x.not_names_perm_result
  case result.outcome r x =>
    rw [toJson, Outcome.toJson, toJson, DecodeResult.toJson, Json.Same] at h
    exact absurd (h.2.names_perm h.1 (by simp)).symm x.not_names_perm_result

/-- Answers that are shown as the same are shown alike. -/
theorem toJson_eq_of_same {a b : Answer} (h : a.toJson.Same b.toJson) : a.toJson = b.toJson :=
  a.schema.eq_of_same a.conforms (schema_eq_of_same h ▸ b.conforms) b.keysDistinct h

/-- **The text of an answer loses nothing.** It is plain ASCII, and it is read back to the value
that it was written of, with the members in their order and none of them twice. So two answers have
the same text exactly when they are shown as the same value, whether or not the order of members
counts. -/
theorem render_loses_nothing :
    (∀ a : Answer, (∀ c ∈ a.toJson.render.toList, ' ' ≤ c ∧ c ≤ '~') ∧
      Json.parse? a.toJson.render = some a.toJson ∧ a.toJson.KeysDistinct) ∧
    ∀ a b : Answer, (a.toJson.render = b.toJson.render ↔ a.toJson = b.toJson) ∧
      (a.toJson.render = b.toJson.render ↔ a.toJson.Same b.toJson) := by
  have hvalue {a b : Answer} (h : a.toJson.render = b.toJson.render) : a.toJson = b.toJson := by
    have hread := Json.parse?_render a.toJson
    rw [h, Json.parse?_render] at hread
    exact (Option.some.inj hread).symm
  refine ⟨fun a => ⟨Json.isPlain_of_mem_render _, Json.parse?_render _, a.keysDistinct⟩,
    fun a b => ⟨⟨hvalue, congrArg Json.render⟩, ⟨fun h => ?_, fun h => ?_⟩⟩⟩
  · exact hvalue h ▸ Json.same_self _ a.keysDistinct
  · exact congrArg Json.render (toJson_eq_of_same h)

end Answer

end MessageGateway
