import Mathlib.Data.List.Perm.Subperm
import MessageGateway.Json.Basic
import MessageGateway.Proofs.Lookup

/-!
# JSON values that are the same

Two JSON values can be the same without being equal: the members of an object may stand in any
order, and a flag is the same as the number that stands for it, one or zero (`Json.Same`). Among the
values of one schema (`Json.Schema`), which fixes the names of the members and their order and of
what kind each value is, the same values are equal, provided that no object has a name twice.

## Main definitions

* `MessageGateway.Json.KeysDistinct`, `MessageGateway.Json.Same`.
* `MessageGateway.Json.Schema`, `MessageGateway.Json.Schema.Conforms`.

## Main results

* `MessageGateway.Json.same_self`.
* `MessageGateway.Json.Schema.eq_of_same`.
-/

namespace MessageGateway

namespace Json

/-! ### No name twice -/

/-- No object in the value has two members of one name. -/
inductive KeysDistinct : Json → Prop
  | flag (b : Bool) : KeysDistinct (.flag b)
  | number (n : Int) : KeysDistinct (.number n)
  | text (s : String) : KeysDistinct (.text s)
  | array {items : List Json} (hitems : ∀ item ∈ items, KeysDistinct item) :
      KeysDistinct (.array items)
  | object {members : List (String × Json)} (hnames : (members.map Prod.fst).Nodup)
      (hvalues : ∀ m ∈ members, KeysDistinct m.2) : KeysDistinct (.object members)

/-! ### The same values -/

mutual

/-- The values are the same: the order of members does not count, and a flag is the number one or
zero. -/
def Same : Json → Json → Prop
  | .flag b, .flag c => b = c
  | .flag b, .number n => n = b.toNat
  | .number n, .flag b => n = b.toNat
  | .number n, .number m => n = m
  | .text s, .text t => s = t
  | .array items, .array others => SameItems items others
  | .object members, .object others =>
    members.length = others.length ∧ SameMembers members others
  | _, _ => False

/-- The items are the same one by one. -/
def SameItems : List Json → List Json → Prop
  | [], [] => True
  | v :: items, w :: others => v.Same w ∧ SameItems items others
  | _, _ => False

/-- Every member has its counterpart under its name. -/
def SameMembers : List (String × Json) → List (String × Json) → Prop
  | [], _ => True
  | (name, v) :: members, others =>
    (∃ w, others.lookup name = some w ∧ v.Same w) ∧ SameMembers members others

end

mutual

/-- A value without a name twice is the same as itself. -/
theorem same_self : (v : Json) → v.KeysDistinct → v.Same v
  | .flag _, _ | .number _, _ | .text _, _ => by rw [Same]
  | .array items, .array hitems => by
    rw [Same]
    exact sameItems_self items hitems
  | .object members, .object hnames hvalues => by
    rw [Same]
    exact ⟨rfl, sameMembers_of_lookup members fun m hm =>
      ⟨lookup_eq_some_of_mem hnames hm, hvalues m hm⟩⟩

theorem sameItems_self : (items : List Json) → (∀ item ∈ items, item.KeysDistinct) →
    SameItems items items
  | [], _ => by rw [SameItems]; trivial
  | v :: items, h => by
    rw [SameItems]
    exact ⟨same_self v (h v List.mem_cons_self),
      sameItems_self items fun item hitem => h item (List.mem_cons_of_mem _ hitem)⟩

theorem sameMembers_of_lookup {others : List (String × Json)} : (members : List (String × Json)) →
    (∀ m ∈ members, others.lookup m.1 = some m.2 ∧ m.2.KeysDistinct) → SameMembers members others
  | [], _ => by rw [SameMembers]; trivial
  | (name, v) :: members, h => by
    obtain ⟨hlookup, hv⟩ := h (name, v) List.mem_cons_self
    rw [SameMembers]
    exact ⟨⟨v, hlookup, same_self v hv⟩,
      sameMembers_of_lookup members fun m hm => h m (List.mem_cons_of_mem _ hm)⟩

end

namespace SameMembers

variable {members others : List (String × Json)}

theorem exists_lookup : {members : List (String × Json)} → SameMembers members others →
    {name : String} → {v : Json} → (name, v) ∈ members →
      ∃ w, others.lookup name = some w ∧ v.Same w
  | m :: members, h, name, v, hmem => by
    rw [SameMembers] at h
    rcases List.mem_cons.mp hmem with rfl | hmem
    · exact h.1
    · exact exists_lookup h.2 hmem

/-- Members of one name are the same. -/
theorem same (h : SameMembers members others) (hnames : (others.map Prod.fst).Nodup)
    {name : String} {v w : Json} (hv : (name, v) ∈ members) (hw : (name, w) ∈ others) :
    v.Same w := by
  obtain ⟨w', hlookup, hsame⟩ := h.exists_lookup hv
  rw [lookup_eq_some_of_mem hnames hw] at hlookup
  exact Option.some.inj hlookup ▸ hsame

/-- A counterpart that is not looked for can be left out. -/
theorem of_cons {name : String} {w : Json} : {members : List (String × Json)} →
    SameMembers members ((name, w) :: others) → name ∉ members.map Prod.fst →
      SameMembers members others
  | [], _, _ => by rw [SameMembers]; trivial
  | (name', v) :: members, h, hname => by
    simp only [List.map_cons, List.mem_cons, not_or] at hname
    rw [SameMembers, List.lookup_cons, beq_false_of_ne (Ne.symm hname.1)] at h
    rw [SameMembers]
    exact ⟨h.1, of_cons h.2 hname.2⟩

/-- As many members without a name twice have the same names. -/
theorem names_perm (h : SameMembers members others) (hlength : members.length = others.length)
    (hnames : (members.map Prod.fst).Nodup) :
    (members.map Prod.fst).Perm (others.map Prod.fst) := by
  have hsubset : members.map Prod.fst ⊆ others.map Prod.fst := by
    intro name hname
    obtain ⟨⟨_, v⟩, hmem, rfl⟩ := List.mem_map.mp hname
    obtain ⟨w, hlookup, -⟩ := h.exists_lookup hmem
    exact List.mem_map.mpr ⟨_, mem_of_lookup hlookup, rfl⟩
  exact (hnames.subperm hsubset).perm_of_length_le (by simp [hlength])

end SameMembers

/-! ### Values of one schema -/

/-- What is fixed of a value: of what kind it is, and the names of members in their order. -/
inductive Schema where
  | flag
  | number
  | text
  | array (item : Schema)
  | object (members : List (String × Schema))

namespace Schema

mutual

/-- The value is of the schema. -/
def Conforms : Schema → Json → Prop
  | .flag, .flag _ => True
  | .number, .number _ => True
  | .text, .text _ => True
  | .array σ, .array items => ∀ item ∈ items, σ.Conforms item
  | .object fields, .object members => MembersConform fields members
  | _, _ => False

/-- The members are of the schemas, one by one and under the same names. -/
def MembersConform : List (String × Schema) → List (String × Json) → Prop
  | [], [] => True
  | (name, σ) :: fields, (name', v) :: members =>
    name' = name ∧ σ.Conforms v ∧ MembersConform fields members
  | _, _ => False

end

theorem MembersConform.append : {fields fields' : List (String × Schema)} →
    {members members' : List (String × Json)} → MembersConform fields members →
      MembersConform fields' members' → MembersConform (fields ++ fields') (members ++ members')
  | [], _, [], _, _, h' => h'
  | (_, _) :: _, _, (_, _) :: _, _, h, h' => by
    simp only [MembersConform, List.cons_append] at h ⊢
    exact ⟨h.1, h.2.1, append h.2.2 h'⟩
  | [], _, _ :: _, _, h, _ => by simp [MembersConform] at h
  | _ :: _, _, [], _, h, _ => by simp [MembersConform] at h

/-- The names of the members are those of the schema. -/
theorem MembersConform.map_fst : {fields : List (String × Schema)} →
    {members : List (String × Json)} → MembersConform fields members →
      members.map Prod.fst = fields.map Prod.fst
  | [], [], _ => rfl
  | (_, _) :: _, (_, _) :: _, h => by
    rw [MembersConform] at h
    rw [List.map_cons, List.map_cons, h.1, map_fst h.2.2]
  | [], _ :: _, h => by simp [MembersConform] at h
  | _ :: _, [], h => by simp [MembersConform] at h

/-- Members that are texts. -/
theorem MembersConform.texts : {members : List (String × Json)} →
    (∀ m ∈ members, ∃ s, m.2 = .text s) →
      MembersConform (members.map fun m => (m.1, .text)) members
  | [], _ => by simp [MembersConform]
  | (name, v) :: members, h => by
    rw [List.forall_mem_cons] at h
    obtain ⟨⟨s, rfl⟩, hrest⟩ := h
    rw [List.map_cons, MembersConform]
    exact ⟨rfl, by simp [Conforms], texts hrest⟩

variable {v : Json}

theorem exists_flag (h : Conforms .flag v) : ∃ b, v = .flag b := by
  cases v <;> simp_all [Conforms]

theorem exists_number (h : Conforms .number v) : ∃ n, v = .number n := by
  cases v <;> simp_all [Conforms]

theorem exists_text (h : Conforms .text v) : ∃ s, v = .text s := by
  cases v <;> simp_all [Conforms]

theorem exists_array {σ : Schema} (h : Conforms (.array σ) v) :
    ∃ items, v = .array items ∧ ∀ item ∈ items, σ.Conforms item := by
  cases v <;> simp_all [Conforms]

theorem exists_object {fields : List (String × Schema)} (h : Conforms (.object fields) v) :
    ∃ members, v = .object members ∧ MembersConform fields members := by
  cases v <;> simp_all [Conforms]

/-- The same items are equal if the same values of their schema are. -/
theorem items_eq_of_same {σ : Schema} (heq : ∀ {v w : Json}, σ.Conforms v → σ.Conforms w →
    w.KeysDistinct → v.Same w → v = w) : {items others : List Json} →
      (∀ item ∈ items, σ.Conforms item) → (∀ other ∈ others, σ.Conforms other) →
        (∀ other ∈ others, other.KeysDistinct) → SameItems items others → items = others
  | [], [], _, _, _, _ => rfl
  | v :: items, w :: others, hitems, hothers, hdistinct, h => by
    rw [SameItems] at h
    rw [List.forall_mem_cons] at hitems hothers hdistinct
    rw [heq hitems.1 hothers.1 hdistinct.1 h.1,
      items_eq_of_same heq hitems.2 hothers.2 hdistinct.2 h.2]
  | [], _ :: _, _, _, _, h => by simp [SameItems] at h
  | _ :: _, [], _, _, _, h => by simp [SameItems] at h

mutual

/-- **The same values of one schema are equal.** The induction is on the schema. -/
theorem eq_of_same : (σ : Schema) → {v w : Json} → σ.Conforms v → σ.Conforms w →
    w.KeysDistinct → v.Same w → v = w
  | .flag, v, w, hv, hw, _, h => by
    obtain ⟨b, rfl⟩ := exists_flag hv
    obtain ⟨c, rfl⟩ := exists_flag hw
    rw [Same] at h
    rw [h]
  | .number, v, w, hv, hw, _, h => by
    obtain ⟨n, rfl⟩ := exists_number hv
    obtain ⟨m, rfl⟩ := exists_number hw
    rw [Same] at h
    rw [h]
  | .text, v, w, hv, hw, _, h => by
    obtain ⟨s, rfl⟩ := exists_text hv
    obtain ⟨t, rfl⟩ := exists_text hw
    rw [Same] at h
    rw [h]
  | .array σ, v, w, hv, hw, hdistinct, h => by
    obtain ⟨items, rfl, hitems⟩ := exists_array hv
    obtain ⟨others, rfl, hothers⟩ := exists_array hw
    cases hdistinct with
    | array hdistinct =>
      rw [Same] at h
      rw [items_eq_of_same (eq_of_same σ) hitems hothers hdistinct h]
  | .object fields, v, w, hv, hw, hdistinct, h => by
    obtain ⟨members, rfl, hmembers⟩ := exists_object hv
    obtain ⟨others, rfl, hothers⟩ := exists_object hw
    cases hdistinct with
    | object hnames hvalues =>
      rw [Same] at h
      rw [members_eq_of_same fields hmembers hothers hnames hvalues h.2]

/-- The same members of the same schemas are equal: each is the counterpart of the one in its
place, since no other has its name. -/
theorem members_eq_of_same : (fields : List (String × Schema)) →
    {members others : List (String × Json)} → MembersConform fields members →
      MembersConform fields others → (others.map Prod.fst).Nodup →
        (∀ m ∈ others, m.2.KeysDistinct) → SameMembers members others → members = others
  | [], [], [], _, _, _, _, _ => rfl
  | (_, σ) :: fields, (_, v) :: members, (_, w) :: others, hv, hw, hnames, hvalues, h => by
    rw [MembersConform] at hv hw
    obtain ⟨rfl, hv, hmembers⟩ := hv
    obtain ⟨rfl, hw, hothers⟩ := hw
    have hsame := h.same hnames List.mem_cons_self List.mem_cons_self
    rw [SameMembers] at h
    obtain ⟨hfirst, hrest⟩ := List.nodup_cons.mp hnames
    have hnames' : others.map Prod.fst = members.map Prod.fst :=
      hothers.map_fst.trans hmembers.map_fst.symm
    rw [eq_of_same σ hv hw (hvalues _ List.mem_cons_self) hsame,
      members_eq_of_same fields hmembers hothers hrest
        (fun m hm => hvalues m (List.mem_cons_of_mem _ hm)) (h.2.of_cons (hnames' ▸ hfirst))]
  | [], _ :: _, _, h, _, _, _, _ => by simp [MembersConform] at h
  | [], [], _ :: _, _, h, _, _, _ => by simp [MembersConform] at h
  | _ :: _, [], _, h, _, _, _, _ => by simp [MembersConform] at h
  | _ :: _, _ :: _, [], _, h, _, _, _ => by simp [MembersConform] at h

end

end Schema

end Json

end MessageGateway
