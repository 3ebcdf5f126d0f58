import Mathlib.Data.Prod.Lex

/-! A date and time without a zone, ordered as `java.time.LocalDateTime`:
field by field, the most significant first. -/

namespace PeerLanding

structure LocalDateTime where
  year : Nat
  month : Nat
  day : Nat
  hour : Nat
  minute : Nat
  second : Nat
  nano : Nat
  deriving DecidableEq

namespace LocalDateTime

def key (d : LocalDateTime) : ℕ ×ₗ ℕ ×ₗ ℕ ×ₗ ℕ ×ₗ ℕ ×ₗ ℕ ×ₗ ℕ :=
  toLex (d.year, toLex (d.month, toLex (d.day, toLex (d.hour,
    toLex (d.minute, toLex (d.second, d.nano))))))

theorem key_injective : Function.Injective key := by
  rintro ⟨⟩ ⟨⟩ h
  simpa [key] using h

instance : LinearOrder LocalDateTime := LinearOrder.lift' key key_injective

def isAfter (a b : LocalDateTime) : Bool := decide (b < a)

@[simp] theorem isAfter_iff (a b : LocalDateTime) : a.isAfter b = true ↔ b < a := by
  simp [isAfter]

/-- Two decimal digits, the letters `ss`, `mm`, `HH`, `dd` and `MM` of a pattern. -/
def twoDigits (n : Nat) : String := toString (n / 10 % 10) ++ toString (n % 10)

/-- `DateTimeFormatter.ofPattern("ss:mm:HH dd-MM-yyyy").format`. -/
def format (d : LocalDateTime) : String :=
  twoDigits d.second ++ ":" ++ twoDigits d.minute ++ ":" ++ twoDigits d.hour ++ " " ++
    twoDigits d.day ++ "-" ++ twoDigits d.month ++ "-" ++
    twoDigits (d.year / 100) ++ twoDigits d.year

/-- The `n`-th nanosecond of a day that stands for any fixed start. -/
def atNano (n : Nat) : LocalDateTime := ⟨2019, 1, 20, 0, 0, 0, n⟩

end LocalDateTime

end PeerLanding
