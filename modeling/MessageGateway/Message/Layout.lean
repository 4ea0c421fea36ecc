import MessageGateway.Message.Field
import MessageGateway.Wire.Read

/-!
# Layouts of messages

The *layout* of a message is the list of its fields in the order in which they lie on the wire and
in which a record shows them. Reading a layout reads field after field, each at the offset behind
the one before it, and stops at the first that does not fit. So the values that are read are such as
the fields can hold (`Layout.fits_of_read`), and these are shown.

## Main definitions

* `MessageGateway.Layout`, `MessageGateway.Layout.Values`, `MessageGateway.Layout.Shown`.
* `MessageGateway.Layout.read`, `MessageGateway.Layout.Fits`.
* `MessageGateway.Layout.render`, `MessageGateway.Layout.members`.
* `MessageGateway.Layout.encode`.
-/

namespace MessageGateway

/-- The fields of a message in order. -/
abbrev Layout := List Field

namespace Layout

/-- One value for every field. -/
@[reducible] def Values : Layout → Type
  | [] => Unit
  | f :: l => f.shape.Value × Values l

/-- What a record shows, for every field. -/
@[reducible] def Shown : Layout → Type
  | [] => Unit
  | f :: l => f.Shown × Shown l

/-- The values of the fields from an offset on, and the offset behind the last. -/
def read (buffer : Bytes) : (l : Layout) → (offset : Int) → Except OutOfBounds (l.Values × Int)
  | [], offset => .ok ((), offset)
  | f :: l, offset => do
    let (value, next) ← f.shape.read buffer offset f.name
    let (values, last) ← read buffer l next
    return ((value, values), last)

/-- The values that the fields can hold. -/
def Fits : (l : Layout) → l.Values → Prop
  | [], () => True
  | f :: l, (value, values) => f.shape.Fits value ∧ Fits l values

/-- What is read of the fields are values that they can hold. -/
theorem fits_of_read {buffer : Bytes} : (l : Layout) → {offset next : Int} → {values : l.Values} →
    l.read buffer offset = .ok (values, next) → l.Fits values
  | [], _, _, (), _ => trivial
  | f :: l, _, _, (_, _), h => by
      obtain ⟨⟨value, o⟩, hvalue, hrest⟩ := bind_eq_ok_iff.mp h
      obtain ⟨⟨values, last⟩, hvalues, hpair⟩ := bind_eq_ok_iff.mp hrest
      obtain ⟨rfl, rfl⟩ := Prod.mk.inj (Prod.mk.inj (Except.ok.inj hpair)).1
      exact ⟨f.shape.fits_of_read hvalue, fits_of_read l hvalues⟩

/-- What a record shows of values that the fields can hold. -/
def render : (l : Layout) → (values : l.Values) → l.Fits values → l.Shown
  | [], (), _ => ()
  | f :: l, (value, values), h => (f.render value h.1, render l values h.2)

/-- The members of a record's object that show the fields, in order. -/
def members : (l : Layout) → l.Shown → List (String × Json)
  | [], () => []
  | f :: l, (shown, rest) => f.members shown ++ members l rest

/-- The bytes of the values, one field behind the other. -/
def encode : (l : Layout) → l.Values → Bytes
  | [], () => []
  | f :: l, (value, values) => f.shape.encode value ++ encode l values

end Layout

end MessageGateway
