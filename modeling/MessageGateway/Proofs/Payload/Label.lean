import MessageGateway.Proofs.Message.Agreement
import MessageGateway.Proofs.Payload.BothTables

/-!
# Labels and tags

What becomes of a message with a known tag is labelled: under the name of the table it shows the
name of a kind, whether it is a record, where the label stands among the fields, or a failure, where
it stands before the members that every failure has. That kind is the one with the tag that the
message starts with, and a message is unknown to a table exactly when the table has no such tag. So
the result for a payload by both tables, too, is labelled with what its tag stands for in the table
that it names (`Payload.label_names_tag`).

## Main definitions

* `MessageGateway.Json.under` — what an object has under a name.
* `MessageGateway.Outcome.IsLabelled`.

## Main results

* `MessageGateway.Json.under_object`.
* `MessageGateway.Scope.mem_table_tagOf_iff`, `MessageGateway.Scope.isLabelled_outcome`.
* `MessageGateway.Payload.label_names_tag`.
-/

namespace MessageGateway

/-! ### What an object has under a name -/

/-- The values of the members of an object that have the given name. -/
def Json.under (name : String) : Json → List Json
  | .object members => (members.filter fun m => m.1 == name).map Prod.snd
  | _ => []

/-- An object whose members have names of their own has each under its name, and nothing else. -/
theorem Json.under_object {name : String} {v : Json} : {members : List (String × Json)} →
    (members.map Prod.fst).Nodup → (name, v) ∈ members → (object members).under name = [v]
  | (name', v') :: members, hnodup, h => by
      obtain ⟨hname', hnodup⟩ := List.nodup_cons.mp hnodup
      rw [under, List.filter_cons]
      rcases List.mem_cons.mp h with heq | hrest
      · obtain ⟨rfl, rfl⟩ := Prod.mk.inj heq
        have hothers : members.filter (fun m => m.1 == name) = [] :=
          List.filter_eq_nil_iff.mpr fun m hm hsame =>
            hname' (List.mem_map.mpr ⟨m, hm, beq_iff_eq.mp hsame⟩)
        rw [hothers, if_pos (beq_self_eq_true name)]
        rfl
      · have hne : ¬ (name' == name) = true := fun hsame =>
          hname' (List.mem_map.mpr ⟨_, hrest, (beq_iff_eq.mp hsame).symm⟩)
        rw [if_neg hne]
        exact under_object hnodup hrest

/-! ### Labels -/

/-- An outcome is no unknown payload, and under the name of the table it has the given name. -/
structure Outcome.IsLabelled (scope : Scope) (name : String) (x : Outcome) : Prop where
  not_isUnknown : ¬ x.IsUnknown
  under_eq : x.toJson.under scope.label = [.text name]

theorem Kind.scope_eq_of_mem {kind : Kind} {scope : Scope} (h : kind ∈ scope.kinds) :
    kind.scope = scope := by
  revert kind
  cases scope <;> decide

/-- A record of a kind of the table is labelled with the name of its kind. -/
theorem Record.isLabelled {r : Record} {scope : Scope} (h : r.kind ∈ scope.kinds) :
    (Outcome.decoded r).IsLabelled scope r.kind.name where
  not_isUnknown := Outcome.not_isUnknown_decoded r
  under_eq := by
    have hlabel : (scope.label, Json.text r.kind.name) ∈ r.members := by
      rw [← Kind.scope_eq_of_mem h]
      exact r.members_perm.mem_iff.mpr List.mem_cons_self
    exact Json.under_object r.nodup_names hlabel

/-- The name of a table is no name of a member that every failure has. -/
theorem DecodeFailure.members_eq {f : DecodeFailure} {scope : Scope} (h : f.scope = scope.label) :
    f.members = (scope.label, .text f.kind) :: f.ownMembers := by
  have hnone : f.ownMembers.lookup f.scope = none := by
    rw [h]
    cases scope <;> rfl
  rw [members, hnone, h]

theorem DecodeFailure.nodup_names {f : DecodeFailure} {scope : Scope} (h : f.scope = scope.label) :
    (f.members.map Prod.fst).Nodup := by
  rw [members_eq h]
  simp only [ownMembers, List.map_cons, List.map_nil]
  cases scope <;> decide

/-- A failure is labelled with the name of its kind. -/
theorem DecodeFailure.isLabelled {f : DecodeFailure} {scope : Scope} (h : f.scope = scope.label) :
    (Outcome.failure f).IsLabelled scope f.kind where
  not_isUnknown := Outcome.not_isUnknown_failure f
  under_eq := by
    have hlabel : (scope.label, Json.text f.kind) ∈ f.members := by
      rw [members_eq h]
      exact List.mem_cons_self
    exact Json.under_object (nodup_names h) hlabel

/-! ### Tables -/

namespace Scope

variable {mode : TagMode} {scope : Scope} {raw : Bytes} {name : String}

/-- A table has the tag of a message exactly for the kind that the message is looked up to be. -/
theorem mem_table_tagOf_iff : (name, tagOf raw) ∈ scope.table mode ↔
    ∃ kind, scope.kindTagged? mode (tagOf raw) = some kind ∧ kind.name = name := by
  constructor
  · intro h
    obtain ⟨kind, hkind, heq⟩ := List.mem_map.mp h
    obtain ⟨hname, htag⟩ := Prod.mk.inj heq
    exact ⟨kind, kindTagged?_eq_some_iff.mpr ⟨hkind, Hex.encode_injective htag⟩, hname⟩
  · rintro ⟨kind, hfound, rfl⟩
    obtain ⟨hkind, htag⟩ := kindTagged?_eq_some_iff.mp hfound
    exact List.mem_map.mpr ⟨kind, hkind, Prod.ext rfl (congrArg Hex.encode htag)⟩

/-- Only a message that is long enough for a tag has one that is in a table. -/
theorem tagSize_le_of_mem_table (h : (name, tagOf raw) ∈ scope.table mode) :
    tagSize ≤ raw.length := by
  obtain ⟨kind, hfound, -⟩ := mem_table_tagOf_iff.mp h
  rw [← kind.length_tag mode]
  exact (kindTagged?_tagOf_eq_some_iff.mp hfound).2.length_le

/-- A tag has one name in a table. -/
theorem mem_table_iff_eq (h : (name, tagOf raw) ∈ scope.table mode) (name' : String) :
    (name', tagOf raw) ∈ scope.table mode ↔ name' = name := by
  constructor
  · intro h'
    obtain ⟨kind, hkind, rfl⟩ := mem_table_tagOf_iff.mp h
    obtain ⟨kind', hkind', rfl⟩ := mem_table_tagOf_iff.mp h'
    rw [Option.some.inj (hkind'.symm.trans hkind)]
  · rintro rfl
    exact h

/-- A message whose tag is in a table is labelled with its name. -/
theorem isLabelled_outcome (h : (name, tagOf raw) ∈ scope.table mode) :
    (scope.outcome mode raw).IsLabelled scope name := by
  obtain ⟨kind, hfound, rfl⟩ := mem_table_tagOf_iff.mp h
  obtain ⟨hkind, -⟩ := kindTagged?_eq_some_iff.mp hfound
  unfold outcome
  simp only [hfound]
  cases hdecode : kind.decode raw with
  | ok r =>
    obtain ⟨body, values, hbody, -, rfl⟩ := Kind.decode_eq_ok_iff.mp hdecode
    exact Record.isLabelled (r := .ofValues kind values _) hkind
  | error e =>
    exact DecodeFailure.isLabelled (f := ⟨scope.label, kind.name, _, _, _⟩) rfl

/-- A message is unknown to a table exactly when its tag is not in the table. -/
theorem isUnknown_outcome_iff_notMem :
    (scope.outcome mode raw).IsUnknown ↔ ∀ name, (name, tagOf raw) ∉ scope.table mode := by
  rw [isUnknown_outcome_iff]
  constructor
  · intro hnone name hmem
    obtain ⟨kind, hfound, -⟩ := mem_table_tagOf_iff.mp hmem
    cases hnone.symm.trans hfound
  · intro hnotMem
    cases hfound : scope.kindTagged? mode (tagOf raw) with
    | none => rfl
    | some kind => exact absurd (mem_table_tagOf_iff.mpr ⟨kind, hfound, rfl⟩) (hnotMem kind.name)

end Scope

/-! ### Payloads -/

namespace DecodeResult

variable {first scope : Scope} {neither : UnknownPayload} {x y : Outcome}

/-- A result that names a table is no unknown payload. -/
theorem not_isUnknown_settle (h : (settle first neither x y).scope = some scope) :
    ¬ (settle first neither x y).outcome.IsUnknown := by
  cases x <;> cases y <;> simp_all [settle]

theorem under_type (r : DecodeResult) : r.toJson.under "type" = [.text r.label] :=
  rfl

/-- The table that a result names is shown as its type. -/
theorem exists_scope_of_under_type {r : DecodeResult} {type : String}
    (h : r.toJson.under "type" = [.text type]) (hknown : type ≠ "unknown") :
    ∃ scope, r.scope = some scope ∧ scope.label = type := by
  obtain rfl : r.label = type := Json.text.inj (List.singleton_inj.mp (r.under_type ▸ h))
  cases hscope : r.scope with
  | none => exact absurd (by rw [label, hscope]; rfl) hknown
  | some scope => exact ⟨scope, rfl, by rw [label, hscope]; rfl⟩

/-- What the data of a result have under a name is what its outcome has. -/
theorem under_data (r : DecodeResult) (name : String) :
    (r.toJson.under "data").flatMap (Json.under name) = r.outcome.toJson.under name :=
  List.append_nil _

end DecodeResult

namespace Payload

variable {mode : TagMode} {prefer : Option Scope} {payload : Option String} {scope : Scope}

/-- A result that names a table is the outcome by that table of bytes whose tag it has. -/
theorem exists_outcome_of_scope (h : (decode mode prefer payload).value.scope = some scope) :
    ∃ (raw : Bytes) (name : String), bytes? payload = some raw ∧
      (decode mode prefer payload).value.outcome = scope.outcome mode raw ∧
      (name, tagOf raw) ∈ scope.table mode := by
  have hknown : ¬ (decode mode prefer payload).value.outcome.IsUnknown := by
    rw [value_decode] at h ⊢
    exact DecodeResult.not_isUnknown_settle h
  have halone : (decode mode prefer payload).value.outcome =
      (decodeAs mode scope payload).value := by
    rw [value_decode] at h ⊢
    rcases DecodeResult.outcome_settle h with ⟨rfl, houtcome⟩ | ⟨rfl, houtcome⟩
    · exact houtcome
    · exact houtcome
  rw [halone] at hknown ⊢
  obtain ⟨raw, hraw, houtcome⟩ := (value_decodeAs_cases mode scope payload).resolve_left hknown
  rw [houtcome, Scope.isUnknown_outcome_iff_notMem, not_forall_not] at hknown
  obtain ⟨name, hname⟩ := hknown
  exact ⟨raw, name, hraw, houtcome, hname⟩

/-- **Labels name tags.** By one table, a message whose tag the table has is labelled with the name
of that tag, whether it is read or not, and any other is unknown to the table. By both, a result
that names a table is labelled with the only name that its tag has there. -/
theorem label_names_tag (mode : TagMode) :
    (∀ (scope : Scope) (raw : Bytes), 8 ≤ raw.length →
      ∃ x, (scope.decode mode raw).value = .ok x ∧
        (∀ name, (name, Hex.encode (raw.take 8)) ∈ scope.table mode → x.IsLabelled scope name) ∧
        (x.IsUnknown ↔ ∀ name, (name, Hex.encode (raw.take 8)) ∉ scope.table mode) ∧
        ∀ u, x = .unknown u → u.scope = scope.label) ∧
      ∀ (prefer : Option Scope) (payload : Option String) (type : String),
        (decode mode prefer payload).value.toJson.under "type" = [.text type] → type ≠ "unknown" →
          ∃ (scope : Scope) (raw : Bytes) (name : String), scope.label = type ∧
            bytes? payload = some raw ∧ 8 ≤ raw.length ∧
            (∀ name', (name', Hex.encode (raw.take 8)) ∈ scope.table mode ↔ name' = name) ∧
            ((decode mode prefer payload).value.toJson.under "data").flatMap (Json.under type) =
              [.text name] := by
  constructor
  · intro scope raw hlen
    refine ⟨scope.outcome mode raw, ?_, fun name => Scope.isLabelled_outcome,
      Scope.isUnknown_outcome_iff_notMem, fun u hu => ?_⟩
    · rw [Scope.decode_eq_outcome hlen]
    · rcases scope.outcome_cases mode raw with h | ⟨_, _, -, h⟩ | ⟨_, _, -, h⟩
      · obtain rfl := Outcome.unknown.inj (h.symm.trans hu)
        rfl
      · cases h.symm.trans hu
      · cases h.symm.trans hu
  · intro prefer payload type htype hknown
    obtain ⟨scope, hscope, rfl⟩ := DecodeResult.exists_scope_of_under_type htype hknown
    obtain ⟨raw, name, hraw, houtcome, hname⟩ := exists_outcome_of_scope hscope
    refine ⟨scope, raw, name, rfl, hraw, Scope.tagSize_le_of_mem_table hname,
      Scope.mem_table_iff_eq hname, ?_⟩
    rw [DecodeResult.under_data, houtcome]
    exact (Scope.isLabelled_outcome hname).under_eq

/-- A message that ends behind its tag, and a payload that is read. -/
theorem label_names_tag_bareTag :
    (∃ x, (Scope.instruction.decode .anchor (Kind.processMessage.tag .anchor)).value = .ok x ∧
        x.IsLabelled .instruction "process_message") ∧
      ((decode .static none (some "Tn18a1s7PBoB")).value.toJson.under "data").flatMap
        (Json.under "instruction") = [.text "set_system_enabled"] := by
  constructor
  · have hlen := Kind.processMessage.length_tag .anchor
    have htake : (Kind.processMessage.tag .anchor).take 8 = Kind.processMessage.tag .anchor :=
      List.take_of_length_le hlen.le
    obtain ⟨x, hx, hlabel, -⟩ :=
      (label_names_tag .anchor).1 .instruction (Kind.processMessage.tag .anchor) hlen.ge
    refine ⟨x, hx, hlabel "process_message" ?_⟩
    rw [htake]
    exact List.mem_map.mpr ⟨.processMessage, by decide, rfl⟩
  · have hscope : (decode .static none (some "Tn18a1s7PBoB")).value.scope = some .instruction := by
      decide +kernel
    have hbytes : bytes? (some "Tn18a1s7PBoB") =
        some [0x4e, 0x7d, 0x7c, 0x6b, 0x5b, 0x3b, 0x3c, 0x1a, 0x01] := by
      decide +kernel
    have htype : (decode .static none (some "Tn18a1s7PBoB")).value.toJson.under "type" =
        [.text "instruction"] := by
      rw [DecodeResult.under_type, DecodeResult.label, hscope]
      rfl
    obtain ⟨scope, raw, name, hscope, hraw, -, hname, hunder⟩ :=
      (label_names_tag .static).2 none (some "Tn18a1s7PBoB") _ htype (by decide)
    obtain rfl : scope = .instruction := by
      cases scope with
      | instruction => rfl
      | event => exact absurd hscope (by decide)
    obtain rfl := Option.some.inj (hbytes.symm.trans hraw)
    rw [← (hname "set_system_enabled").mp (by decide +kernel)] at hunder
    exact hunder

end Payload

end MessageGateway
