import Mathlib.Data.List.Nodup
import MessageGateway.Message.Tag

/-!
# Tags tell kinds apart

Every tag has eight bytes, and within a table, in either mode, different kinds have different tags
and different names. So a kind is found by its tag, and by its name, and a tag leads to one kind
only.

## Main results

* `MessageGateway.Kind.length_tag`, `MessageGateway.Kind.length_tagText`.
* `MessageGateway.Scope.eq_of_tag_eq` — the tag that both tables have.
* `MessageGateway.Scope.kindTagged?_eq_some_iff`, `MessageGateway.Scope.kindNamed?_name`.
-/

namespace MessageGateway

/-! ### Sizes -/

theorem Sha256.length_digest (message : Bytes) : (Sha256.digest message).length = 32 := by
  simp [Sha256.digest, Sha256.Chain.toList, Sha256.wordBytes]

@[simp] theorem Kind.length_tag (mode : TagMode) (kind : Kind) :
    (kind.tag mode).length = tagSize := by
  have hstatic : kind.staticTag.length = tagSize := by cases kind <;> rfl
  unfold Kind.tag
  split
  · rw [anchorTag, List.length_take, Sha256.length_digest]
    rfl
  · exact hstatic

/-- In hexadecimal a tag takes two digits for each byte. -/
theorem Kind.length_tagText (mode : TagMode) (kind : Kind) : (kind.tagText mode).length = 16 := by
  rw [tagText, Hex.encode, String.length_ofList, Hex.length_digits, length_tag]
  rfl

/-- A text of hexadecimal digits belongs to one byte string. -/
theorem Hex.encode_injective : Function.Injective Hex.encode := by
  intro bs cs h
  have hread := Hex.decode?_encode bs
  rw [h, Hex.decode?_encode] at hread
  exact (Option.some.inj hread).symm

/-! ### One kind for a tag -/

namespace Scope

/-- The tags that are derived from the names of the instructions. -/
theorem map_tag_anchor_instruction :
    Scope.instruction.kinds.map (Kind.tag .anchor) =
      [[0x79, 0x7d, 0x20, 0x2b, 0x7b, 0x0b, 0xf0, 0x76],
        [0x39, 0x28, 0x22, 0xb2, 0xbd, 0x0a, 0x41, 0x1a],
        [0x0f, 0xa2, 0x5f, 0xee, 0xb1, 0xd3, 0xc5, 0x05],
        [0x6e, 0xe2, 0x2c, 0x8a, 0xce, 0x29, 0x30, 0x88],
        [0x6f, 0x38, 0xb8, 0x9a, 0x01, 0xb2, 0xfd, 0xb2],
        [0xc7, 0x47, 0x89, 0xc1, 0xb8, 0x9e, 0x9f, 0x23],
        [0xe4, 0x52, 0x44, 0x96, 0x5c, 0x42, 0x8c, 0xae],
        [0x4c, 0x68, 0x3d, 0x33, 0xb3, 0x8b, 0x2f, 0xde],
        [0xd4, 0x20, 0x61, 0x2f, 0x3d, 0x43, 0xb8, 0x8d],
        [0xfb, 0x24, 0x18, 0xb3, 0x9d, 0x1f, 0xef, 0xea],
        [0xb6, 0xce, 0x6e, 0xa2, 0xbb, 0x23, 0xfa, 0x9c]] := by
  decide +kernel

theorem nodup_tags (mode : TagMode) (scope : Scope) :
    (scope.kinds.map (Kind.tag mode)).Nodup := by
  cases mode with
  | static => cases scope <;> decide
  | anchor =>
    cases scope with
    | instruction =>
      rw [map_tag_anchor_instruction]
      decide
    | event => decide

theorem tag_inj {mode : TagMode} {scope : Scope} {kind kind' : Kind} (h : kind ∈ scope.kinds)
    (h' : kind' ∈ scope.kinds) (htag : kind.tag mode = kind'.tag mode) : kind = kind' :=
  List.inj_on_of_nodup_map (scope.nodup_tags mode) h h' htag

/-- The tables share one tag, and only while the tags of instructions are fixed. -/
theorem eq_of_tag_eq {mode : TagMode} {kind kind' : Kind} (h : kind ∈ Scope.instruction.kinds)
    (h' : kind' ∈ Scope.event.kinds) (htag : kind.tag mode = kind'.tag mode) :
    mode = .static ∧ kind = .sendMessage ∧ kind' = .sendRequested := by
  cases mode with
  | static =>
    have hshared : ∀ kind ∈ Scope.instruction.kinds, ∀ kind' ∈ Scope.event.kinds,
        kind.tag .static = kind'.tag .static → kind = .sendMessage ∧ kind' = .sendRequested := by
      decide
    exact ⟨rfl, hshared kind h kind' h' htag⟩
  | anchor =>
    have hdisjoint : ∀ tag ∈ Scope.instruction.kinds.map (Kind.tag .anchor),
        tag ∉ Scope.event.kinds.map (Kind.tag .anchor) := by
      rw [map_tag_anchor_instruction]
      decide
    exact absurd (htag ▸ List.mem_map_of_mem h') (hdisjoint _ (List.mem_map_of_mem h))

/-- A kind is found by its tag and by no other text. -/
theorem kindTagged?_eq_some_iff {mode : TagMode} {scope : Scope} {tag : Bytes} {kind : Kind} :
    scope.kindTagged? mode (Hex.encode tag) = some kind ↔
      kind ∈ scope.kinds ∧ kind.tag mode = tag := by
  constructor
  · intro h
    have htext := List.find?_some h
    rw [beq_iff_eq] at htext
    exact ⟨List.mem_of_find?_eq_some h, Hex.encode_injective htext⟩
  · rintro ⟨hmem, rfl⟩
    have hfound : (scope.kindTagged? mode (Hex.encode (kind.tag mode))).isSome :=
      List.find?_isSome.mpr ⟨kind, hmem, beq_iff_eq.mpr rfl⟩
    obtain ⟨kind', h⟩ := Option.isSome_iff_exists.mp hfound
    have htext := List.find?_some h
    rw [beq_iff_eq] at htext
    rw [h, tag_inj (List.mem_of_find?_eq_some h) hmem (Hex.encode_injective htext)]

/-- A kind of a table is found by its name. -/
theorem kindNamed?_name {scope : Scope} {kind : Kind} (h : kind ∈ scope.kinds) :
    scope.kindNamed? kind.name = some kind := by
  revert kind
  cases scope <;> decide +kernel

end Scope

theorem Kind.mem_kinds_scope (kind : Kind) : kind ∈ kind.scope.kinds := by
  cases kind <;> decide

end MessageGateway
