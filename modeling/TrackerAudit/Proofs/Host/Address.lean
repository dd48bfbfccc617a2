import TrackerAudit.Host.Address
import TrackerAudit.Proofs.Text.Cutting

/-!
# Addresses of four numbers

Four numbers below 256, written in decimal with dots between them, are read as an IP address
(`FourNumbers.isAddress_text`).
-/

namespace TrackerAudit.Host

open Text

/-- The digits at the start of a text are read as a number whatever follows them. -/
theorem readNumber?_append {base most : Nat} {leadingZeros : Bool} {digits rest : Text}
    (hdigits : ∀ c ∈ digits, (digitIn? base c).isSome = true)
    (hrest : ∀ c ∈ rest.head?, (digitIn? base c).isSome = false) :
    readNumber? base most leadingZeros (digits ++ rest) =
      (readNumber? base most leadingZeros digits).map fun x => (x.1, rest) := by
  unfold readNumber?
  rw [span_append_of_head? hrest, span_of_forall hdigits]
  dsimp only
  split
  · rfl
  · split <;> rfl

/-- Four numbers below 256. -/
structure FourNumbers where
  a : Fin 256
  b : Fin 256
  c : Fin 256
  d : Fin 256

/-- The numbers in decimal, with dots between them. -/
def FourNumbers.text (x : FourNumbers) : Text := join ['.'] [ofNat x.a, ofNat x.b, ofNat x.c, ofNat x.d]

private theorem all_ofNat : ∀ n < 256, ((ofNat n).all fun c => c.isDigit && (digitIn? 10 c).isSome) = true := by
  decide +kernel

private theorem readNumber?_ofNat : ∀ n < 256, readNumber? 10 3 false (ofNat n) = some (n, []) := by decide +kernel

theorem isDigit_ofNat {n : Nat} (h : n < 256) : ∀ c ∈ ofNat n, c.isDigit = true ∧ (digitIn? 10 c).isSome = true := by
  intro c hc
  have := List.all_eq_true.1 (all_ofNat n h) c hc
  rwa [Bool.and_eq_true] at this

theorem readOctet?_ofNat (n : Fin 256) {rest : Text} (hrest : ∀ c ∈ rest.head?, (digitIn? 10 c).isSome = false) :
    readOctet? (ofNat n ++ rest) = some rest := by
  rw [readOctet?, readNumber?_append (fun c hc => (isDigit_ofNat n.isLt c hc).2) hrest, readNumber?_ofNat n n.isLt]
  simp [n.isLt]

theorem readOctet?_dot (n : Fin 256) (rest : Text) : readOctet? (ofNat n ++ ['.'] ++ rest) = some ('.' :: rest) := by
  rw [List.append_assoc]
  refine readOctet?_ofNat n ?_
  simp only [List.singleton_append, List.head?_cons, Option.mem_def, Option.some.injEq, forall_eq']
  decide

namespace FourNumbers

variable (x : FourNumbers)

theorem isAddress_text : isAddress x.text = true := by
  have hcut (rest : Text) : cutStart? ['.'] ('.' :: rest) = some rest := cutStart?_eq_some.2 rfl
  have hlast : readOctet? (ofNat x.d ++ []) = some [] := readOctet?_ofNat x.d (by simp)
  rw [List.append_nil] at hlast
  have hfour : readFour? x.text = some [] := by
    simp only [readFour?, text, readOctet?_dot, Option.bind_eq_bind, Option.bind_some, hcut, join, hlast]
  rw [isAddress, hfour]
  rfl

theorem chars_text : ∀ c ∈ x.text, c.isDigit = true ∨ c = '.' := by
  intro c hc
  rcases mem_join hc with hc | ⟨l, hl, hc⟩
  · exact Or.inr (List.mem_singleton.1 hc)
  · simp only [List.mem_cons, List.not_mem_nil, or_false] at hl
    rcases hl with rfl | rfl | rfl | rfl <;> exact Or.inl (isDigit_ofNat (Fin.isLt _) c hc).1

theorem text_ne_nil : x.text ≠ [] := by
  rw [text, join_cons_cons]
  simp

end FourNumbers

end TrackerAudit.Host
