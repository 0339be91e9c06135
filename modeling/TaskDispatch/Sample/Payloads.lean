import TaskDispatch.Handling.Payload

/-!
# Sample payloads

Three payload types for trying processors out: a greeting, an image to resize, and an order.
-/

namespace TaskDispatch.Sample

open Json

set_option autoImplicit false

structure Hello where
  name : String
  deriving DecidableEq, Repr

structure Resize where
  width : UInt32
  deriving DecidableEq, Repr

structure Order where
  id : UInt64
  quantity : Int32
  tags : List String
  note : Option String
  urgent : Bool
  deriving DecidableEq

def hello : Payload Hello where
  taskType := "demo.hello.v1"
  codec :=
    .record
      { expected := "struct Hello"
        lengthText := "struct Hello with 1 element"
        fields := .cons "name" .required .string .nil
        closed := false }
      (fun (name, ()) => .ok { name })
      (fun greeting => (greeting.name, ()))

def resize : Payload Resize where
  taskType := "image.resize.v1"
  codec :=
    .record
      { expected := "struct Resize"
        lengthText := "struct Resize with 1 element"
        fields := .cons "width" .required .word32 .nil
        closed := false }
      (fun (width, ()) => .ok { width })
      (fun image => (image.width, ()))

def order : Payload Order where
  taskType := "shop.order.v2"
  codec :=
    .record
      { expected := "struct Order"
        lengthText := "struct Order with 5 elements"
        fields :=
          .cons "id" .required .word64 <|
          .cons "qty" .required .int32 <|
          .cons "tags" .required (.list .string) <|
          .cons "note" (.nullable none) (.optional .string) <|
          .cons "urgent" (.defaulted false) .boolean .nil
        closed := false }
      (fun (id, quantity, tags, note, urgent, ()) =>
        .ok { id, quantity, tags, note, urgent })
      (fun order => (order.id, order.quantity, order.tags, order.note, order.urgent, ()))

end TaskDispatch.Sample
