import TaskDispatch.Proofs.Json.Numbers
import TaskDispatch.Proofs.Json.Records

/-!
# Derived codecs

The codec of a type that is made up of scalars, lists, optional values and records follows the type.
It is faithful about every value: whatever the characters of its strings, at the limits of its
numbers, and with any of its optional parts absent. A record has to have distinct keys, to be built
again from its parts, and to leave a field out only when this has its absent value; and nothing
optional may be written like `null` while it is there. The proof follows the derivation.
-/

namespace TaskDispatch

set_option autoImplicit false

open Json

mutual

/-- The codec follows the way its type is made up. -/
inductive Codec.Derived : {α : Type} → Codec α → Prop where
  | string : Codec.string.Derived
  | boolean : Codec.boolean.Derived
  | parsedString {α : Type} {display : α → String} {parse : String → Except Cause α}
      (parsed : ∀ value, parse (display value) = .ok value) :
      (Codec.parsedString display parse).Derived
  | integer {α : Type} {expected : String} {toInt : α → Int} {ofInt? : Int → Option α}
      (machine : Codec.MachineInteger toInt ofInt?) : (Codec.integer expected toInt ofInt?).Derived
  | list {α : Type} {item : Codec α} (items : item.Derived) : (Codec.list item).Derived
  | optional {α : Type} {item : Codec α} (items : item.Derived)
      (present : ∀ value, (item.write value).head? ≠ some 0x6e) : (Codec.optional item).Derived
  | record {σ β α : Type} {shape : RecordShape σ β} {build : β → Except Cause α} {parts : α → β}
      (fields : shape.fields.Derived) (distinct : shape.fields.keys.Nodup)
      (rebuilt : ∀ value, build (parts value) = .ok value) :
      (Codec.record shape build parts).Derived

inductive Json.Fields.Derived : {σ β : Type} → Fields σ β → Prop where
  | nil : Fields.nil.Derived
  | cons {α σ β : Type} {key : String} {presence : Presence α} {codec : Codec α}
      {others : Fields σ β} (own : codec.Derived)
      (absent : ∀ value, presence.skips value = true → presence.inObject = some value)
      (rest : others.Derived) : (Fields.cons key presence codec others).Derived

end

mutual

/-- What is made up of faithful codecs is faithful. -/
theorem Codec.Derived.faithful {α : Type} {codec : Codec α} :
    codec.Derived → ∀ value, codec.Faithful value
  | .string => Codec.string_faithful
  | .boolean => Codec.boolean_faithful
  | .parsedString parsed => fun value => Codec.parsed_string_faithful (parsed value)
  | .integer machine => Codec.integer_faithful machine
  | .list items => fun _ => Codec.list_faithful fun item _ => items.faithful item
  | .optional items present => fun
    | none => Codec.none_faithful
    | some item => Codec.some_faithful (items.faithful item) (present item)
  | .record fields distinct rebuilt => fun value =>
    Codec.record_faithful distinct (fields.read_back _) (rebuilt value)

theorem Json.Fields.Derived.read_back {σ β : Type} {fields : Fields σ β} :
    fields.Derived → ∀ values, fields.ReadBack values
  | .nil => fun _ => trivial
  | .cons own absent rest => fun (value, others) => by
    refine ⟨?_, rest.read_back others⟩
    split
    case isTrue skipped => exact absent value skipped
    case isFalse _ => exact own.faithful value

end

/-- A field that is always written is read back by its codec alone. -/
theorem Json.Fields.Derived.written {α σ β : Type} {key : String} {presence : Presence α}
    {codec : Codec α} {others : Fields σ β} (own : codec.Derived)
    (always : ∀ value, presence.skips value = false) (rest : others.Derived) :
    (Fields.cons key presence codec others).Derived :=
  .cons own (fun value skipped => absurd ((always value).symm.trans skipped) Bool.false_ne_true) rest

namespace Codec

theorem byte_derived : byte.Derived :=
  .integer (unsigned_integer (by decide) UInt8.toNat_lt fun _ => UInt8.ofNat_toNat)

theorem word32_derived : word32.Derived :=
  .integer (unsigned_integer (by decide) UInt32.toNat_lt fun _ => UInt32.ofNat_toNat)

theorem word64_derived : word64.Derived :=
  .integer (unsigned_integer (by decide) UInt64.toNat_lt fun _ => UInt64.ofNat_toNat)

theorem size_derived : size.Derived :=
  .integer (unsigned_integer (by decide) UInt64.toNat_lt fun _ => UInt64.ofNat_toNat)

theorem int32_derived : int32.Derived := .integer signed_integer

/-- A string is not written like `null`. -/
theorem optional_string_derived : (optional .string).Derived := by
  apply Derived.optional .string
  intro content
  change some Ascii.quote ≠ some 0x6e
  decide

end Codec

end TaskDispatch
