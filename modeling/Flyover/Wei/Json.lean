import Flyover.Json.Record
import Flyover.Wei
/-!
The JSON form of amounts: written as decimal text, read from such text or from a whole number.
-/

namespace Flyover.Wei

instance : Json.Encode Wei := ⟨fun a => .string a.text⟩

instance : Json.Decode Wei where
  decode
    | .int i =>
      if i < 0 then .error (.rejected ("negative amount: " ++ Text.signedNumeral i))
      else match ofNat? i.toNat with
        | some a => .ok a
        | none => .error (.wrongType (.int i) "a non-negative integer or a decimal string")
    | .string s =>
      match ofText? s with
      | some a => .ok a
      | none => .error (.rejected (malformedMessage s))
    | j => .error (.wrongType j.shape "a non-negative integer or a decimal string")

end Flyover.Wei
