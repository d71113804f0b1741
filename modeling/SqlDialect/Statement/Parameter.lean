import SqlDialect.Error
import SqlDialect.Table
import SqlDialect.Value

/-!
# Parameters of a statement

What a driver is asked to bind to a parameter, and what it has bound. The two differ where the
driver is handed a stream: it is asked to read the stream and has bound what was in it.

## Main definitions

* `Stream` — bytes to be read, and how reading ends
* `Parameter` — a value that is handed over as a whole
* `BindCall` — what a driver is asked to bind
* `Bound` — what is bound
* `BindCall.run` — from the one to the other
-/

namespace SqlDialect

/-- Bytes to be read. -/
structure Stream where
  /-- The bytes that come. -/
  data : List UInt8
  /-- The words of the failure that ends them, if it is a failure. -/
  failure : Option Text := none
  deriving DecidableEq

namespace Stream

/-- The bytes of a text in UTF-8. -/
def ofText (text : Text) : Stream := ⟨(String.ofList text).toUTF8.data.toList, none⟩

/-- All bytes of the stream, or the words of its failure. -/
def bytes (s : Stream) : Except Text (List UInt8) :=
  match s.failure with
  | some words => .error words
  | none => .ok s.data

/-- The text of the stream, or the words of its failure. -/
def text (s : Stream) : Except Text Text :=
  match s.failure with
  | some words => .error words
  | none =>
    match String.fromUTF8? ⟨s.data.toArray⟩ with
    | some text => .ok text.toList
    | none => .error "stream did not contain valid UTF-8"

end Stream

/-- A value that is handed to the driver as a whole. -/
inductive Parameter where
  /-- NULL, for a column of the given type. -/
  | null (sqlType : Option SqlType)
  /-- A truth value. -/
  | boolean (value : Bool)
  /-- A signed integer of 8 bits. -/
  | int8 (value : Int8)
  /-- A signed integer of 16 bits. -/
  | int16 (value : Int16)
  /-- A signed integer of 32 bits. -/
  | int32 (value : Int32)
  /-- A signed integer of 64 bits. -/
  | int64 (value : Int64)
  /-- A floating-point number of 32 bits. -/
  | float32 (bits : UInt32)
  /-- A floating-point number of 64 bits. -/
  | float64 (bits : UInt64)
  /-- A text. -/
  | string (text : Text)
  /-- A text in the national character set. -/
  | nationalString (text : Text)
  /-- Bytes. -/
  | bytes (data : List UInt8)
  /-- A decimal number. -/
  | decimal (value : Decimal)
  /-- A date. -/
  | date (value : Date)
  /-- A time of day. -/
  | time (value : TimeOfDay)
  /-- An instant. -/
  | timestamp (value : Instant)
  deriving DecidableEq

/-- What a driver is asked to bind. -/
inductive BindCall where
  /-- A value as a whole. -/
  | whole (value : Parameter)
  /-- A large text; `length` counts its characters. -/
  | characterStream (source : Stream) (length : Option Nat)
  /-- A large text in the national character set. -/
  | nationalCharacterStream (source : Stream)
  /-- A large row of bytes. -/
  | blob (source : Stream)
  /-- A number of 32 bits for a column of the vendor's own binary numbers. -/
  | binaryFloat (bits : UInt32)
  /-- A number of 64 bits for a column of the vendor's own binary numbers. -/
  | binaryDouble (bits : UInt64)
  deriving DecidableEq

/-- What is bound to a parameter. -/
inductive Bound where
  /-- A value that was handed over as a whole. -/
  | whole (value : Parameter)
  /-- A large text, and the length the driver was told. -/
  | characterStream (text : Text) (length : Option Nat)
  /-- A large text in the national character set. -/
  | nationalCharacterStream (text : Text)
  /-- A large row of bytes. -/
  | blob (data : List UInt8)
  /-- A number of 32 bits in a column of the vendor's own binary numbers. -/
  | binaryFloat (bits : UInt32)
  /-- A number of 64 bits in a column of the vendor's own binary numbers. -/
  | binaryDouble (bits : UInt64)
  deriving DecidableEq

namespace BindCall

/-- The driver's code for a stream that cannot be read. -/
def streamFailure (words : Text) : DriverError := { code := 17002, message := words }

/-- What the driver binds. A driver without calls of its own for the vendor's binary numbers
(`nativeFloats` is false) binds them as ordinary ones. -/
def run (nativeFloats : Bool) : BindCall → Except DriverError Bound
  | .whole value => .ok (.whole value)
  | .characterStream source length =>
    match source.text with
    | .ok text => .ok (.characterStream text length)
    | .error words => .error (streamFailure ("failed to read character stream: " ++ words))
  | .nationalCharacterStream source =>
    match source.text with
    | .ok text => .ok (.nationalCharacterStream text)
    | .error words => .error (streamFailure ("failed to read character stream: " ++ words))
  | .blob source =>
    match source.bytes with
    | .ok data => .ok (.blob data)
    | .error words => .error (streamFailure ("failed to read blob stream: " ++ words))
  | .binaryFloat bits => .ok (if nativeFloats then .binaryFloat bits else .whole (.float32 bits))
  | .binaryDouble bits => .ok (if nativeFloats then .binaryDouble bits else .whole (.float64 bits))

end BindCall

end SqlDialect
