import MessageGateway.Proofs.Message.Recovery

/-!
# Members that agree

A record shows several things twice: a chain by its number and by its name, a registry by its name
and by its number, an address by its text and with its length, data as text and in hexadecimal, and
a list with its count. What is shown of a field comes from one value, and the texts stand for that
value, so the members of a record agree with one another (`Record.Coherent`), whichever of them is
taken for the source of the other.

## Main definitions

* `MessageGateway.Field.memberNames`, `MessageGateway.Field.second?`.
* `MessageGateway.Key.Parses`, `MessageGateway.SignatureText.IsWellFormed`.
* `MessageGateway.Record.Coherent`.

## Main results

* `MessageGateway.Kind.second?_eq` — the end of a name tells which field it is of.
* `MessageGateway.Record.exists_field_of_mem_members`.
* `MessageGateway.Scope.record_coherent`.
-/

namespace MessageGateway

/-! ### The names of members -/

namespace Field

/-- The names of the members that show a field. -/
def memberNames : Field → List String
  | .flag name => [name]
  | .count name _ => [name]
  | .messageId name => [name]
  | .chain role => [role ++ "_id", role ++ "_name"]
  | .registry name => [name, name ++ "_value"]
  | .key name => [name]
  | .address name => [name, name ++ "_length"]
  | .data name => [name, name ++ "_hex"]
  | .signers _ shownName => [shownName, "signer_count"]
  | .signatures => ["signatures", "signature_count"]

theorem map_fst_members (f : Field) (shown : f.Shown) :
    (f.members shown).map Prod.fst = f.memberNames := by
  cases f <;> rfl

/-- The name of the member that a field has beside its first, in two parts. -/
def second? : Field → Option (String × String)
  | .chain role => some (role, "_name")
  | .registry name => some (name, "_value")
  | .address name => some (name, "_length")
  | .data name => some (name, "_hex")
  | .signers _ _ => some ("signer", "_count")
  | .signatures => some ("signature", "_count")
  | _ => none

/-- The ends of such names. -/
def suffixes : List String :=
  ["_name", "_value", "_length", "_hex", "_count"]

variable {f : Field} {stem : String}

theorem eq_chain_of_second? (h : f.second? = some (stem, "_name")) : f = .chain stem := by
  cases f <;> simp_all [second?]

theorem eq_registry_of_second? (h : f.second? = some (stem, "_value")) : f = .registry stem := by
  cases f <;> simp_all [second?]

theorem eq_address_of_second? (h : f.second? = some (stem, "_length")) : f = .address stem := by
  cases f <;> simp_all [second?]

theorem eq_data_of_second? (h : f.second? = some (stem, "_hex")) : f = .data stem := by
  cases f <;> simp_all [second?]

theorem eq_list_of_second? (h : f.second? = some (stem, "_count")) :
    (∃ wireName shownName, f = .signers wireName shownName ∧ stem = "signer") ∨
      f = .signatures ∧ stem = "signature" := by
  cases f <;> simp_all [second?, eq_comm]

theorem eq_list_of_mem_members {shown : f.Shown} {name : String} {items : List Json}
    (h : (name, .array items) ∈ f.members shown) :
    (∃ wireName, f = .signers wireName name) ∨ f = .signatures ∧ name = "signatures" := by
  cases f <;> simp_all [members]

end Field

theorem Layout.map_fst_members : (l : Layout) → (shown : l.Shown) →
    (l.members shown).map Prod.fst = l.flatMap Field.memberNames
  | [], () => rfl
  | f :: l, (shown, rest) => by
      rw [members, List.map_append, f.map_fst_members, map_fst_members l, List.flatMap_cons]

namespace Kind

/-- No two members of a record have the same name. -/
theorem nodup_memberNames (kind : Kind) :
    (kind.scope.label :: kind.layout.flatMap Field.memberNames).Nodup := by
  cases kind <;> decide +kernel

private theorem second?_of_suffix (kind : Kind) :
    ∀ f ∈ kind.layout, ∀ name ∈ f.memberNames, ∀ suffix ∈ Field.suffixes,
      suffix.toList <:+ name.toList → f.second?.any fun p => p.1 ++ p.2 = name ∧ p.2 = suffix := by
  cases kind <;> decide +kernel

variable {kind : Kind} {f : Field} {stem suffix : String}

/-- The end of a name tells which field of a message it is of. -/
theorem second?_eq (hsuffix : suffix ∈ Field.suffixes) (hf : f ∈ kind.layout)
    (hname : stem ++ suffix ∈ f.memberNames) : f.second? = some (stem, suffix) := by
  have hend : suffix.toList <:+ (stem ++ suffix).toList := by
    rw [String.toList_append]
    exact List.suffix_append _ _
  have hany := kind.second?_of_suffix f hf _ hname suffix hsuffix hend
  obtain ⟨⟨stem', suffix'⟩, hsecond, hparts⟩ := (Option.any_eq_true _ _).mp hany
  obtain ⟨hname', rfl⟩ := of_decide_eq_true hparts
  obtain rfl : stem' = stem := (String.append_left_inj suffix').mp hname'
  exact hsecond

/-- The public keys that a record of a kind shows under a name of their own. -/
def keyNames : Kind → List String
  | .addSigner => ["new_signer"]
  | .removeSigner => ["signer_to_remove"]
  | .messageProcessed => ["relayer"]
  | .sendRequested => ["sender"]
  | _ => []

/-- There is one name for the kind of a registry. -/
theorem second?_of_registry_type (kind : Kind) :
    ∀ f ∈ kind.layout, "registry_type" ∈ f.memberNames →
      f.second? = some ("registry_type", "_value") := by
  cases kind <;> decide +kernel

theorem registry_type_ne_label (kind : Kind) : "registry_type" ≠ kind.scope.label := by
  cases kind <;> decide

private theorem shape_of_mem_keyNames (kind : Kind) :
    ∀ name ∈ kind.keyNames, ∀ f ∈ kind.layout, name ∈ f.memberNames → f.shape = .key := by
  cases kind <;> decide +kernel

theorem ne_label_of_mem_keyNames (kind : Kind) :
    ∀ name ∈ kind.keyNames, name ≠ kind.scope.label := by
  cases kind <;> decide +kernel

theorem eq_key_of_mem_keyNames {name : String} (h : name ∈ kind.keyNames) (hf : f ∈ kind.layout)
    (hname : name ∈ f.memberNames) : f = .key name := by
  have hshape := kind.shape_of_mem_keyNames name h f hf hname
  cases f with
  | key name' => rw [List.mem_singleton.mp hname]
  | _ => cases hshape

end Kind

/-! ### The field of a member -/

/-- A member shows a value of one of the fields, and the record shows all of that. -/
theorem Layout.exists_field_of_mem_members :
    (l : Layout) → {values : l.Values} → (hfits : l.Fits values) →
    {member : String × Json} → member ∈ l.members (l.render values hfits) →
      ∃ f ∈ l, ∃ value, ∃ h : f.shape.Fits value, member ∈ f.members (f.render value h) ∧
        f.members (f.render value h) ⊆ l.members (l.render values hfits)
  | f :: l, (value, values), ⟨hvalue, hvalues⟩, member, h => by
      rcases List.mem_append.mp h with hfirst | hrest
      · exact ⟨f, List.mem_cons_self, value, hvalue, hfirst, List.subset_append_left _ _⟩
      · obtain ⟨f', hf', value', hvalue', hmember, hsubset⟩ :=
          exists_field_of_mem_members l hvalues hrest
        exact ⟨f', List.mem_cons_of_mem f hf', value', hvalue', hmember,
          List.subset_append_of_subset_right _ hsubset⟩

theorem Field.mem_memberNames {f : Field} {shown : f.Shown} {name : String} {v : Json}
    (h : (name, v) ∈ f.members shown) : name ∈ f.memberNames := by
  rw [← f.map_fst_members shown]
  exact List.mem_map_of_mem h

private theorem Scope.not_suffix_label (scope : Scope) :
    ∀ suffix ∈ Field.suffixes, ¬ suffix.toList <:+ scope.label.toList := by
  cases scope <;> decide +kernel

namespace Record

variable {kind : Kind} {values : kind.layout.Values} {hfits : kind.layout.Fits values}
  {name stem suffix : String} {v : Json}

/-- The members are the label and those of the fields. -/
theorem members_perm (r : Record) : r.members.Perm (r.label :: r.kind.layout.members r.shown) := by
  unfold members
  split
  · exact .refl _
  · exact .refl _
  · exact List.perm_append_singleton _ _

/-- The names of the members are those of the label and of the fields. -/
theorem names_perm (r : Record) : (r.members.map Prod.fst).Perm
    (r.kind.scope.label :: r.kind.layout.flatMap Field.memberNames) := by
  rw [← Layout.map_fst_members _ r.shown]
  exact r.members_perm.map Prod.fst

theorem nodup_names (r : Record) : (r.members.map Prod.fst).Nodup :=
  r.names_perm.nodup_iff.mpr r.kind.nodup_memberNames

theorem exists_mem_members {r : Record} {f : Field} (hf : f ∈ r.kind.layout)
    (hname : name ∈ f.memberNames) : ∃ v, (name, v) ∈ r.members := by
  have hmem := r.names_perm.mem_iff.mpr
    (List.mem_cons_of_mem _ (List.mem_flatMap.mpr ⟨f, hf, hname⟩))
  obtain ⟨⟨_, v⟩, hmember, rfl⟩ := List.mem_map.mp hmem
  exact ⟨v, hmember⟩

/-- A name stands for one member. -/
theorem eq_of_mem_members {r : Record} {v' : Json} (h : (name, v) ∈ r.members)
    (h' : (name, v') ∈ r.members) : v = v' :=
  congrArg Prod.snd (List.inj_on_of_nodup_map r.nodup_names h h' rfl)

/-- A member that is not the label shows a value of one of the fields. -/
theorem exists_field_of_mem_members (h : (name, v) ∈ (ofValues kind values hfits).members)
    (hlabel : (name, v) ≠ (ofValues kind values hfits).label) :
    ∃ f ∈ kind.layout, ∃ value, ∃ hvalue : f.shape.Fits value,
      (name, v) ∈ f.members (f.render value hvalue) ∧
        f.members (f.render value hvalue) ⊆ (ofValues kind values hfits).members := by
  have hmembers := members_perm (ofValues kind values hfits)
  obtain ⟨f, hf, value, hvalue, hmember, hsubset⟩ := kind.layout.exists_field_of_mem_members hfits
    ((List.mem_cons.mp (hmembers.mem_iff.mp h)).resolve_left hlabel)
  exact ⟨f, hf, value, hvalue, hmember, fun _ hother =>
    hmembers.mem_iff.mpr (List.mem_cons_of_mem _ (hsubset hother))⟩

/-- A member whose name ends as that of a second member shows a value of a field that has one. -/
theorem exists_field_of_suffix (hsuffix : suffix ∈ Field.suffixes)
    (h : (stem ++ suffix, v) ∈ (ofValues kind values hfits).members) :
    ∃ f : Field, f.second? = some (stem, suffix) ∧ ∃ value, ∃ hvalue : f.shape.Fits value,
      f.members (f.render value hvalue) ⊆ (ofValues kind values hfits).members := by
  have hlabel : (stem ++ suffix, v) ≠ (ofValues kind values hfits).label := by
    intro heq
    have hname : stem ++ suffix = kind.scope.label := congrArg Prod.fst heq
    have hend : suffix.toList <:+ kind.scope.label.toList := by
      rw [← hname, String.toList_append]
      exact List.suffix_append _ _
    exact Scope.not_suffix_label _ suffix hsuffix hend
  obtain ⟨f, hf, value, hvalue, hmember, hsubset⟩ := exists_field_of_mem_members h hlabel
  exact ⟨f, Kind.second?_eq hsuffix hf (Field.mem_memberNames hmember), value, hvalue, hsubset⟩

end Record

/-! ### Members that agree -/

/-- A text stands for a public key, that is for 32 bytes. -/
def Key.Parses (text : String) : Prop :=
  ∃ raw, Base58.decode? text = some raw ∧ raw.length = 32

/-- A signature is written in 128 lower-case hexadecimal digits, and its signer is a public key. -/
structure SignatureText.IsWellFormed (e : SignatureText) : Prop where
  length_signature : e.signature.length = 128
  isLower : ∀ c ∈ e.signature.toList, '0' ≤ c ∧ c ≤ '9' ∨ 'a' ≤ c ∧ c ≤ 'f'
  parses_signer : Key.Parses e.signer

/-- The members of a record agree with one another. -/
structure Record.Coherent (r : Record) : Prop where
  /-- No two members have the same name. -/
  nodup_names : (r.members.map Prod.fst).Nodup
  /-- Every field has all of its members. -/
  exists_mem : ∀ f ∈ r.kind.layout, ∀ name ∈ f.memberNames, ∃ v, (name, v) ∈ r.members
  /-- The name of a chain is that of the chain with the decimal text beside it. -/
  chain_name : ∀ role v, (role ++ "_name", v) ∈ r.members →
    ∃ id, (role ++ "_id", .text id) ∈ r.members ∧ v = .text (ChainId.text id).name
  /-- The name of a registry is that of the number beside it. -/
  registry_type : ∀ v, ("registry_type", v) ∈ r.members →
    ∃ n : Integer.Writable, ("registry_type_value", .number n.val) ∈ r.members ∧
      v = .text (registryLabel n)
  /-- The length of an address is that of the address that the text beside it stands for. -/
  address_length : ∀ name v, (name ++ "_length", v) ∈ r.members →
    ∃ (text : String) (length : Int) (raw : Bytes), v = .number length ∧
      (name, .text text) ∈ r.members ∧ Address.parse? text length = some raw ∧
      length = raw.length
  /-- The text of data is that of the bytes in hexadecimal beside it. -/
  data_text : ∀ name v, (name ++ "_hex", v) ∈ r.members →
    ∃ (hex : String) (raw : Bytes), v = .text hex ∧ Hex.decode? hex = some raw ∧
      (name, .text (Utf8.decode raw)) ∈ r.members
  /-- A count is that of the items of a list. -/
  count : ∀ stem v, (stem ++ "_count", v) ∈ r.members →
    ∃ name items, (name, .array items) ∈ r.members ∧ v = .number items.length
  /-- A list has its count, and is one of signatures or of public keys. -/
  list : ∀ name items, (name, .array items) ∈ r.members →
    (∃ entries : List SignatureText, name = "signatures" ∧
      items = entries.map Field.signatureObject ∧
      ("signature_count", .number entries.length) ∈ r.members ∧ ∀ e ∈ entries, e.IsWellFormed) ∨
    ∃ keys : List String, items = keys.map .text ∧
      ("signer_count", .number keys.length) ∈ r.members ∧ ∀ k ∈ keys, Key.Parses k
  /-- What is shown as a public key is one. -/
  key : ∀ name ∈ r.kind.keyNames, ∀ v, (name, v) ∈ r.members →
    ∃ text, v = .text text ∧ Key.Parses text

/-- A chain has one name, by its number and by its text. -/
theorem ChainId.name_text_render (n : Integer.Writable) :
    (ChainId.text (Integer.render n)).name = (ChainId.number n).name := by
  simp only [name, number?, shown, Integer.parse?_render]

theorem Key.parses_render (key : Key) : Parses key.render :=
  ⟨key.val, Base58.decode?_encode key.val, key.property⟩

theorem SignatureText.isWellFormed {signature : Bytes} (hsignature : signature.length = signatureSize)
    (signer : Key) : IsWellFormed ⟨Hex.encode signature, signer.render⟩ where
  length_signature := by
    rw [Hex.encode, String.length_ofList, Hex.length_digits, hsignature]
    rfl
  isLower c hc := by
    rw [Hex.encode, String.toList_ofList] at hc
    exact Hex.isLower_of_mem_digits hc
  parses_signer := signer.parses_render

section Lists

variable {keys : List Bytes} {entries : List (Bytes × Bytes)} {name shownName : String}

theorem Field.length_keys (h : Shape.keys.Fits keys) :
    ((Field.signers name shownName).render keys h).keys.length = keys.length :=
  List.length_pmap ..

theorem Field.parses_keys (h : Shape.keys.Fits keys) :
    ∀ text ∈ ((Field.signers name shownName).render keys h).keys, Key.Parses text := by
  intro text htext
  obtain ⟨k, hk, rfl⟩ := List.mem_pmap.mp htext
  exact Key.parses_render ⟨k, h.2 k hk⟩

theorem Field.length_entries (h : Shape.signatures.Fits entries) :
    (Field.signatures.render entries h).entries.length = entries.length :=
  List.length_pmap ..

theorem Field.isWellFormed_entries (h : Shape.signatures.Fits entries) :
    ∀ e ∈ (Field.signatures.render entries h).entries, e.IsWellFormed := by
  intro e he
  obtain ⟨entry, hentry, rfl⟩ := List.mem_pmap.mp he
  have hlen := h.2 entry hentry
  exact SignatureText.isWellFormed hlen.1 ⟨entry.2, hlen.2⟩

end Lists

namespace Record

variable {kind : Kind} {values : kind.layout.Values}

/-- The members of the record of values agree. -/
theorem coherent_ofValues (hfits : kind.layout.Fits values) :
    (ofValues kind values hfits).Coherent where
  nodup_names := nodup_names _
  exists_mem _ hf _ hname := exists_mem_members hf hname
  chain_name role v h := by
    obtain ⟨f, hsecond, n, hn, hsubset⟩ := exists_field_of_suffix (by decide) h
    obtain rfl := Field.eq_chain_of_second? hsecond
    refine ⟨Integer.render (.ofWidth n _ hn), hsubset List.mem_cons_self, ?_⟩
    rw [ChainId.name_text_render]
    exact eq_of_mem_members h (hsubset (List.mem_cons_of_mem _ List.mem_cons_self))
  registry_type v h := by
    have hlabel : ("registry_type", v) ≠ (ofValues kind values hfits).label := fun heq =>
      kind.registry_type_ne_label (congrArg Prod.fst heq)
    obtain ⟨f, hf, n, hn, hmember, hsubset⟩ := exists_field_of_mem_members h hlabel
    obtain rfl := Field.eq_registry_of_second?
      (kind.second?_of_registry_type f hf (Field.mem_memberNames hmember))
    exact ⟨.ofWidth n _ hn, hsubset (List.mem_cons_of_mem _ List.mem_cons_self),
      eq_of_mem_members h (hsubset List.mem_cons_self)⟩
  address_length name v h := by
    obtain ⟨f, hsecond, raw, _, hsubset⟩ := exists_field_of_suffix (by decide) h
    obtain rfl := Field.eq_address_of_second? hsecond
    exact ⟨Address.render raw, raw.length, raw,
      eq_of_mem_members h (hsubset (List.mem_cons_of_mem _ List.mem_cons_self)),
      hsubset List.mem_cons_self, Address.parse?_render raw, rfl⟩
  data_text name v h := by
    obtain ⟨f, hsecond, raw, _, hsubset⟩ := exists_field_of_suffix (by decide) h
    obtain rfl := Field.eq_data_of_second? hsecond
    exact ⟨Hex.encode raw, raw,
      eq_of_mem_members h (hsubset (List.mem_cons_of_mem _ List.mem_cons_self)),
      Hex.decode?_encode raw, hsubset List.mem_cons_self⟩
  count stem v h := by
    obtain ⟨f, hsecond, value, _, hsubset⟩ := exists_field_of_suffix (by decide) h
    rcases Field.eq_list_of_second? hsecond with ⟨wireName, name, rfl, rfl⟩ | ⟨rfl, rfl⟩
    · refine ⟨name, _, hsubset List.mem_cons_self, ?_⟩
      rw [eq_of_mem_members h (hsubset (List.mem_cons_of_mem _ List.mem_cons_self)),
        List.length_map, Field.length_keys]
      rfl
    · refine ⟨"signatures", _, hsubset List.mem_cons_self, ?_⟩
      rw [eq_of_mem_members h (hsubset (List.mem_cons_of_mem _ List.mem_cons_self)),
        List.length_map, Field.length_entries]
      rfl
  list name items h := by
    obtain ⟨f, -, value, hvalue, hmember, hsubset⟩ := exists_field_of_mem_members h
      fun heq => nomatch congrArg Prod.snd heq
    rcases Field.eq_list_of_mem_members hmember with ⟨wireName, rfl⟩ | ⟨rfl, rfl⟩
    · refine .inr ⟨_, Json.array.inj (eq_of_mem_members h (hsubset List.mem_cons_self)), ?_,
        Field.parses_keys hvalue⟩
      rw [Field.length_keys]
      exact hsubset (List.mem_cons_of_mem _ List.mem_cons_self)
    · refine .inl ⟨_, rfl, Json.array.inj (eq_of_mem_members h (hsubset List.mem_cons_self)), ?_,
        Field.isWellFormed_entries hvalue⟩
      rw [Field.length_entries]
      exact hsubset (List.mem_cons_of_mem _ List.mem_cons_self)
  key name hname v h := by
    have hlabel : (name, v) ≠ (ofValues kind values hfits).label := fun heq =>
      kind.ne_label_of_mem_keyNames name hname (congrArg Prod.fst heq)
    obtain ⟨f, hf, raw, hraw, hmember, hsubset⟩ := exists_field_of_mem_members h hlabel
    obtain rfl := Kind.eq_key_of_mem_keyNames hname hf (Field.mem_memberNames hmember)
    exact ⟨Key.render ⟨raw, hraw⟩, eq_of_mem_members h (hsubset List.mem_cons_self),
      Key.parses_render ⟨raw, hraw⟩⟩

end Record

namespace Scope

variable {mode : TagMode} {scope : Scope} {raw : Bytes} {r : Record}

/-- **The members of a record agree.** Whatever is decoded by one of the tables, the names of chains
and registries, the lengths of addresses, the texts of data and the counts of lists in its record
are those of what is shown beside them, and signatures and public keys are what they should be. -/
theorem record_coherent (h : (scope.decode mode raw).value = .ok (.decoded r)) : r.Coherent := by
  obtain ⟨kind, -, body, values, hbody, -, rfl⟩ := decode_eq_decoded_iff.mp h
  exact Record.coherent_ofValues (kind.layout.fits_of_spells hbody)

/-- A cross-chain message with a chain without a name, a native and a foreign address, data that is
no text, and one signature. -/
def coherentSample : Kind.crossChainLayout.Values :=
  (7, 1, 99, List.replicate 32 0xab, List.replicate 20 0x74, [0x68, 0xff], [],
    [(List.replicate 64 0x11, List.replicate 32 0x22)], ())

theorem fits_coherentSample : Kind.crossChainLayout.Fits coherentSample := by
  decide

theorem record_coherent_crossChain :
    (Scope.instruction.decode .static (Kind.createTxPda.tag .static ++
        Kind.crossChainLayout.encode coherentSample ++ [0xff])).value =
      .ok (.decoded (Record.ofValues .createTxPda coherentSample fits_coherentSample)) ∧
    (Record.ofValues .createTxPda coherentSample fits_coherentSample).Coherent := by
  have hkind : Kind.createTxPda ∈ Scope.instruction.kinds := by decide
  have hdecode := decode_of_spells .static hkind (Layout.spells_encode _ fits_coherentSample) [0xff]
  exact ⟨hdecode, record_coherent hdecode⟩

end Scope

end MessageGateway
