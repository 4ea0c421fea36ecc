import Mathlib.Data.Set.Function
import MessageGateway.Message.Address
import MessageGateway.Proofs.Bytes.Base58.Canonical

/-!
# Addresses, read back

The text of a public key is read back, and so is the text of an address with its length. Only the
text that a public key is shown as stands for it, so keys and the texts that are accepted for them
go together one to one (`Address.bijOn_render_key`), and what such a text looks like is known
(`Key.isText_render`).

## Main definitions

* `MessageGateway.Key.IsText`.

## Main results

* `MessageGateway.Key.parse?_render`, `MessageGateway.Key.parse?_eq_some_iff`.
* `MessageGateway.Address.parse?_render`, `MessageGateway.Address.bijOn_render_key`.
* `MessageGateway.Address.texts_stand_for_addresses`.
-/

namespace MessageGateway

namespace Key

variable {key : Key} {raw : Bytes} {text : String}

/-- A text stands for a public key exactly when the key is shown as it. -/
theorem parse?_eq_some_iff : parse? text = some key ↔ key.render = text := by
  rw [parse?, Option.bind_eq_some_iff]
  constructor
  · rintro ⟨raw, hread, hkey⟩
    obtain ⟨hlen, hkey⟩ := Option.dite_none_right_eq_some.mp hkey
    obtain rfl : ⟨raw, hlen⟩ = key := Option.some.inj hkey
    exact Base58.decode?_eq_some_iff.mp hread
  · intro htext
    exact ⟨key.val, Base58.decode?_eq_some_iff.mpr htext, dif_pos key.property⟩

/-- The text of a public key stands for it. -/
theorem parse?_render (key : Key) : parse? key.render = some key :=
  parse?_eq_some_iff.mpr rfl

/-- No two public keys have one text. -/
theorem render_injective : Function.Injective render := by
  intro key key' htext
  have hread := parse?_render key
  rw [htext, parse?_render] at hread
  exact (Option.some.inj hread).symm

/-- What the text of a public key looks like. -/
structure IsText (raw : Bytes) (text : String) : Prop where
  le_length : 32 ≤ text.length
  length_le : text.length ≤ 44
  mem_alphabet : ∀ c ∈ text.toList, c ∈ Base58.alphabet
  /-- The text starts with as many ones as the key with zeros. -/
  length_takeWhile : (text.toList.takeWhile (· == '1')).length = (raw.takeWhile (· == 0)).length

/-- The text of a public key looks as it should. -/
theorem isText_render (key : Key) : IsText key.val key.render where
  le_length := by
    have hlen := Base58.length_le_length_encode key.val
    rwa [key.property] at hlen
  length_le := by
    have hlen := Base58.length_encode_le key.property.le
    rwa [key.property] at hlen
  mem_alphabet _ := Base58.mem_alphabet_of_mem_encode
  length_takeWhile := Base58.ones_encode key.val

end Key

namespace Address

variable {raw : Bytes} {text : String}

/-- The text of an address, with its length, stands for it. -/
theorem parse?_render (raw : Bytes) : parse? (render raw) raw.length = some raw := by
  by_cases h : raw.length = keySize
  · have hlen : (raw.length : Int) = keySize := by rw [h]
    rw [parse?, render, dif_pos h, if_pos hlen, Key.parse?_render]
    rfl
  · have hlen : (raw.length : Int) ≠ keySize := fun heq => h (Int.ofNat_inj.mp heq)
    rw [parse?, render, dif_neg h, if_neg hlen, Hex.decode?_encode]

/-- The texts of the length of a public key are those of public keys. -/
theorem parse?_keySize_eq_some_iff :
    parse? text keySize = some raw ↔ ∃ h : raw.length = keySize, Key.render ⟨raw, h⟩ = text := by
  rw [parse?, if_pos rfl, Option.map_eq_some_iff]
  constructor
  · rintro ⟨key, hread, rfl⟩
    exact ⟨key.property, Key.parse?_eq_some_iff.mp hread⟩
  · rintro ⟨hlen, htext⟩
    exact ⟨⟨raw, hlen⟩, Key.parse?_eq_some_iff.mpr htext, rfl⟩

/-- Public keys and the texts that are accepted for them go together one to one. -/
theorem bijOn_render_key :
    Set.BijOn Key.render Set.univ {text | ∃ raw, parse? text keySize = some raw} := by
  refine ⟨fun key _ => ?_, Key.render_injective.injOn, ?_⟩
  · exact ⟨key.val, parse?_keySize_eq_some_iff.mpr ⟨key.property, rfl⟩⟩
  · rintro text ⟨raw, hread⟩
    obtain ⟨hlen, htext⟩ := parse?_keySize_eq_some_iff.mp hread
    exact ⟨⟨raw, hlen⟩, Set.mem_univ _, htext⟩

/-- **Texts stand for addresses.** The text of an address is read back with its length, whatever
that is. As for public keys, their texts look as they should, they and no others are accepted, and
no two of them stand for one key. -/
theorem texts_stand_for_addresses :
    (∀ raw, parse? (render raw) raw.length = some raw) ∧
      (∀ key : Key, Key.IsText key.val key.render) ∧
      Set.BijOn Key.render Set.univ {text | ∃ raw, parse? text 32 = some raw} ∧
      ∀ text raw, parse? text 32 = some raw ↔
        ∃ h : raw.length = 32, Key.render ⟨raw, h⟩ = text :=
  ⟨parse?_render, Key.isText_render, bijOn_render_key, fun _ _ => parse?_keySize_eq_some_iff⟩

/-- The least key has a text of 32 characters, all of them ones, and the greatest one of 44. -/
theorem texts_stand_for_addresses_leastAndGreatest :
    Key.IsText (List.replicate 32 0x00) "11111111111111111111111111111111" ∧
      Key.IsText (List.replicate 32 0xff) "JEKNVnkbo3jma5nREBBJCDoXFVeKkD56V3xKrvRmWxFG" ∧
      parse? "11111111111111111111111111111111" 32 = some (List.replicate 32 0x00) ∧
      parse? "JEKNVnkbo3jma5nREBBJCDoXFVeKkD56V3xKrvRmWxFG" 32 =
        some (List.replicate 32 0xff) := by
  let least : Key := ⟨List.replicate 32 0x00, List.length_replicate ..⟩
  let greatest : Key := ⟨List.replicate 32 0xff, List.length_replicate ..⟩
  have hleast : least.render = "11111111111111111111111111111111" := by decide +kernel
  have hgreatest : greatest.render = "JEKNVnkbo3jma5nREBBJCDoXFVeKkD56V3xKrvRmWxFG" := by
    decide +kernel
  obtain ⟨-, hlook, -, hread⟩ := texts_stand_for_addresses
  exact ⟨hleast ▸ hlook least, hgreatest ▸ hlook greatest,
    (hread _ _).mpr ⟨least.property, hleast⟩, (hread _ _).mpr ⟨greatest.property, hgreatest⟩⟩

end Address

end MessageGateway
