import Admission.Demo
import Std.Time.DateTime.Timestamp

/-!
# Running the demonstration

Draws what the demonstration leaves to chance, reads the clock, and prints each event as a line of
JSON.
-/

open Admission

/-- A random salt. -/
def drawSalt : IO Password.Salt := do
  let bytes ← IO.getRandomBytes 16
  return Vector.ofFn fun i => bytes.data.getD i 0

/-- A random text of letters and digits. -/
def drawText (length : Nat) : IO String := do
  let alphabet := "ABCDEFGHIJKLMNOPQRSTUVWXYZabcdefghijklmnopqrstuvwxyz0123456789".toList
  let letters ← (List.range length).mapM fun _ => do
    return alphabet.getD (← IO.rand 0 61) 'A'
  return String.ofList letters

/-- An occasion at the present time. -/
def drawOccasion (now : Nat) : IO Occasion := do
  let time ← Std.Time.Timestamp.now
  let micros := time.toNanosecondsSinceUnixEpoch.val.toNat / 1000
  return ⟨now, ← drawText 30, ⟨micros / 1000, micros, (← IO.rand 0 (UInt32.size - 1)).toUInt32⟩⟩

def main : IO UInt32 := do
  let occasions ← (List.range 5).mapM drawOccasion
  let chance : Demo.Chance :=
    { adminSalt := ← drawSalt
      userSalt := ← drawSalt
      standInSalt := ← drawSalt
      rememberMeKey := ← drawText 32
      anonymousKey := ← drawText 32
      occasion := fun n => occasions.getD n ⟨n, "", ⟨0, 0, 0⟩⟩ }
  match Demo.events chance with
  | .ok events =>
    for e in events do
      IO.println e.json
    return 0
  | .error e =>
    IO.eprintln e.message
    return 1
