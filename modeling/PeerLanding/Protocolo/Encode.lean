import PeerLanding.Protocolo.Messages
import PeerLanding.Messages

/-! `protocolo:encode_msg`. An encoder passes on the bytes that it has written, and appends to
them; `none` where it raises. -/

namespace PeerLanding.Gpb

open Words

def eVarint (n : Nat) (bin : List UInt8) : List UInt8 :=
  if n ≤ 127 then bin ++ [.ofNat n]
  else eVarint (n >>> 7) (bin ++ [.ofNat (n &&& 127 ||| 128)])
termination_by n
decreasing_by simp only [Nat.shiftRight_eq_div_pow]; omega

/-- A negative number is written with 64 bits. -/
def eTypeInt32 (value : Int32) (bin : List UInt8) : List UInt8 :=
  if 0 ≤ value.toInt ∧ value.toInt ≤ 127 then bin ++ [.ofNat value.toInt.toNat]
  else eVarint (value.toInt % 2 ^ 64).toNat bin

def eTypeBytes (bytes bin : List UInt8) : List UInt8 := eVarint bytes.length bin ++ bytes

/-- `unicode:characters_to_binary` raises for what is not a text. -/
def eTypeString (s : Unicode) (bin : List UInt8) : Option (List UInt8) :=
  match s with
  | .texto s =>
      let utf8 := s.toByteArray.data.toList
      some (eVarint utf8.length bin ++ utf8)
  | .erro _ => none

/-- `case M of #{f := F} -> ...; _ -> Bin end` -/
def opcional {V : Type} (f : Option V) (e : V → Option (List UInt8)) (bin : List UInt8) :
    Option (List UInt8) :=
  match f with
  | some v => e v
  | none => some bin

end PeerLanding.Gpb
