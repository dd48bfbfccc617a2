import TrackerAudit.Text.Basic

/-!
# IP addresses

The usual written forms of IP addresses: four decimal numbers below 256 without leading zeros, joined by dots, and up
to eight groups of one to four hexadecimal digits joined by colons, where `::` stands for missing groups and the last
two groups can be an address of the first kind.
-/

namespace TrackerAudit.Host

open Text

/-- The value of a digit in the given base, at most sixteen. -/
def digitIn? (base : Nat) (c : Char) : Option Nat :=
  let n := c.toNat
  let d := if c.isDigit then some (n - '0'.toNat)
    else if 'a'.toNat ≤ n && n ≤ 'f'.toNat then some (n - 'a'.toNat + 10)
    else if 'A'.toNat ≤ n && n ≤ 'F'.toNat then some (n - 'A'.toNat + 10)
    else none
  d.filter (· < base)

/-- Read a number of one up to `most` digits, all that stand there. -/
def readNumber? (base most : Nat) (leadingZeros : Bool) (s : Text) : Option (Nat × Text) :=
  let (digits, rest) := s.span fun c => (digitIn? base c).isSome
  if digits.isEmpty || most < digits.length then none
  else if !leadingZeros && digits.length != 1 && digits.head? == some '0' then none
  else some (digits.foldl (fun n c => n * base + (digitIn? base c).getD 0) 0, rest)

/-- Read a number below 256. -/
def readOctet? (s : Text) : Option Text := do
  let (n, rest) ← readNumber? 10 3 false s
  if n < 256 then return rest else none

/-- Read an address of four numbers. -/
def readFour? (s : Text) : Option Text := do
  let s ← readOctet? s
  let s ← readOctet? (← cutStart? ['.'] s)
  let s ← readOctet? (← cutStart? ['.'] s)
  readOctet? (← cutStart? ['.'] s)

/-- Read groups, `room` at most, with a colon before each but the first. The result is their number, whether they end
with an address of four numbers, which takes the room of two groups, and the rest. -/
def readGroups : (room : Nat) → (isFirst : Bool) → Text → Nat × Bool × Text
  | 0, _, s => (0, false, s)
  | room + 1, isFirst, s =>
    match if isFirst then some s else cutStart? [':'] s with
    | none => (0, false, s)
    | some t =>
      match if room = 0 then none else readFour? t with
      | some rest => (2, true, rest)
      | none =>
        match readNumber? 16 4 true t with
        | some (_, rest) =>
          let (n, four, rest) := readGroups room false rest
          (n + 1, four, rest)
        | none => (0, false, s)

/-- Whether the text is an IP address. -/
def isAddress (s : Text) : Bool :=
  readFour? s == some [] ||
    match readGroups 8 true s with
    | (8, _, rest) => rest.isEmpty
    | (n, four, rest) =>
      !four &&
        match cutStart? "::".toList rest with
        | some rest => (readGroups (7 - n) true rest).2.2.isEmpty
        | none => false

end TrackerAudit.Host
