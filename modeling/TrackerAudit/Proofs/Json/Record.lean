import TrackerAudit.Json.Decode
import TrackerAudit.Proofs.Json.Value
import TrackerAudit.Proofs.Text.Keyed

/-!
# Records in JSON

An object with different known fields is taken apart into exactly these (`row?_record`, `partRow?_record`), and a field
is found by its name. From this a value is decoded from the JSON value made of it (`Json.IsLossless`), and read back
from the text of that if its numbers survive (`Json.IsLossless.readsAs`).
-/

namespace TrackerAudit

namespace Json

variable {α : Type}

/-! ### The fields of a record -/

/-- The fields of a record that is written as an object with the given members. -/
def Row.ofMembers (members : List (String × Json)) : Row := ⟨members.map fun m => (m.1.toList, m.2), false⟩

namespace Row

variable {members : List (String × Json)} {key field : String} {value : Json}

@[simp] theorem cell_ofMembers_nil : (ofMembers []).cell field = none := rfl

@[simp] theorem cell_ofMembers_cons : (ofMembers ((key, value) :: members)).cell field =
    if field = key then some value else (ofMembers members).cell field := by
  rw [cell, ofMembers, List.map_cons, List.lookup_cons]
  by_cases h : field = key
  · simp [h]
  · have hlist : field.toList ≠ key.toList := fun heq => h (String.toList_inj.1 heq)
    rw [beq_false_of_ne hlist, if_neg h]
    rfl

end Row

variable {names : List String} {members : List (String × Json)}

theorem knownMembers?_record (hnames : ∀ m ∈ members, m.1 ∈ names) (hnodup : (members.map (·.1)).Nodup) :
    knownMembers? (names.map String.toList) (members.map fun m => (some m.1.toList, m.2)) =
      some (members.map fun m => (m.1.toList, m.2)) := by
  induction members with
  | nil => rfl
  | cons m members ih =>
    obtain ⟨hm, hmembers⟩ := List.forall_mem_cons.1 hnames
    rw [List.map_cons, List.nodup_cons] at hnodup
    have hknown : (names.map String.toList).contains m.1.toList = true :=
      List.contains_iff_mem.2 (List.mem_map_of_mem hm)
    have hnew : ((members.map fun m => (m.1.toList, m.2)).any fun x => x.1 == m.1.toList) = false := by
      rw [List.any_eq_false]
      rintro x hx heq
      obtain ⟨m', hm', rfl⟩ := List.mem_map.1 hx
      exact hnodup.1 (List.mem_map.2 ⟨m', hm', String.toList_inj.1 (eq_of_beq heq)⟩)
    rw [List.map_cons, knownMembers?, ih hmembers hnodup.2]
    simp only [Option.bind_eq_bind, Option.bind_some, hknown, hnew]
    rfl

theorem row?_record (hnames : ∀ m ∈ members, m.1 ∈ names) (hnodup : (members.map (·.1)).Nodup) :
    (record members).row? names = some (.ofMembers members) := by
  rw [record, row?, knownMembers?_record hnames hnodup]
  rfl

theorem partRow?_record (room : Nat) (hnames : ∀ m ∈ members, m.1 ∈ names) (hnodup : (members.map (·.1)).Nodup) :
    (record members).partRow? names room = some (.ofMembers members) := by
  have hall : ((members.map fun m => (some m.1.toList, m.2)).all fun m =>
      m.1.any (names.map String.toList).contains || m.2.isPlain room) = true := by
    rw [List.all_eq_true]
    intro x hx
    obtain ⟨m, hm, rfl⟩ := List.mem_map.1 hx
    have hknown : (names.map String.toList).contains m.1.toList = true :=
      List.contains_iff_mem.2 (List.mem_map_of_mem (hnames m hm))
    rw [Option.any_some, hknown, Bool.true_or]
  rw [record, partRow?, knownMembers?_record hnames hnodup]
  simp only [Option.bind_eq_bind, Option.bind_some, hall]
  rfl

end Json

/-! ### Decoders -/

namespace Decoder

variable {α : Type}

@[simp] theorem text_str (s : Text) : text (Json.str s) = some s := rfl

@[simp] theorem bool_bool (b : Bool) : bool (Json.bool b) = some b := rfl

@[simp] theorem nat_nat (n : Nat) : nat (Json.nat n) = some n := rfl

@[simp] theorem float_float (x : Float) : float (Json.float x) = some x := rfl

theorem list_map {item : Decoder α} {f : α → Json} {as : List α} (h : ∀ a ∈ as, item (f a) = some a) :
    list item (Json.array (as.map f)) = some as := by
  rw [list]
  induction as with
  | nil => rfl
  | cons a as ih =>
    obtain ⟨ha, has⟩ := List.forall_mem_cons.1 h
    rw [List.map_cons, List.mapM_cons, ha, ih has]
    rfl

@[simp] theorem list_strings (ss : List Text) : list text (Json.strings ss) = some ss :=
  list_map fun s _ => text_str s

@[simp] theorem textSet_strings (s : TextSet) : textSet (Json.strings s.toList) = some s := by
  rw [textSet, list_strings, Option.map_some, TextSet.ofList_toList]

theorem optional_ne_null {value : Decoder α} {j : Json} (h : j ≠ .null) : optional value j = (value j).map some := by
  cases j with
  | null => exact absurd rfl h
  | _ => rfl

@[simp] theorem optional_float (x : Float) : optional float (Json.float x) = some (some x) := rfl

theorem optional_ofOption {value : Decoder α} {f : α → Json} {o : Option α}
    (h : ∀ a ∈ o, f a ≠ Json.null ∧ value (f a) = some a) : optional value (Json.ofOption f o) = some o := by
  cases o with
  | none => rfl
  | some a =>
    obtain ⟨hnull, hvalue⟩ := h a rfl
    rw [Json.ofOption, optional_ne_null hnull, hvalue, Option.map_some]

theorem keyed_entries {value : Decoder α} {f : α → Json} {m : Keyed α} (h : ∀ a ∈ m.values, value (f a) = some a) :
    keyed value (Json.object (m.entries.map fun e => (some e.1, f e.2))) = some m := by
  have hentries (entries : List (Text × α)) (hvalues : ∀ e ∈ entries, value (f e.2) = some e.2) :
      ((entries.map fun e => (some e.1, f e.2)).mapM fun m : Option Text × Json => do
        return (← m.1, ← value m.2)) = some entries := by
    induction entries with
    | nil => rfl
    | cons e entries ih =>
      obtain ⟨he, hrest⟩ := List.forall_mem_cons.1 hvalues
      rw [List.map_cons, List.mapM_cons, ih hrest]
      simp [he]
  rw [keyed, hentries m.entries fun e he => h e.2 (List.mem_map_of_mem he), Option.bind_eq_bind, Option.bind_some,
    Keyed.ofList_entries]
  rfl

end Decoder

/-! ### Values that survive -/

namespace Json

variable {α : Type} {toJson : α → Json} {decode : Decoder α}

/-- The text of the value is read and decoded as `a`. -/
def ReadsAs (j : Json) (decode : Decoder α) (a : α) : Prop := (read? j.pretty).bind decode = some a

/-- The JSON value made of `a` is decoded as `a`, and has only texts for strings. -/
structure IsLossless (toJson : α → Json) (decode : Decoder α) (a : α) : Prop where
  isSpelled : (toJson a).IsSpelled
  decode_toJson : decode (toJson a) = some a

namespace IsLossless

theorem readsAs {a : α} (h : IsLossless toJson decode a) (hnumbers : (toJson a).KeepsNumbers) :
    (toJson a).ReadsAs decode a := by
  rw [ReadsAs, h.isSpelled.read?_pretty hnumbers, Option.bind_some, h.decode_toJson]

theorem list {as : List α} (h : ∀ a ∈ as, IsLossless toJson decode a) :
    IsLossless (fun as => array (as.map toJson)) (.list decode) as where
  isSpelled := by simpa using fun a ha => (h a ha).isSpelled
  decode_toJson := Decoder.list_map fun a ha => (h a ha).decode_toJson

theorem keyed {m : Keyed α} (h : ∀ a ∈ m.values, IsLossless toJson decode a) :
    IsLossless (fun m : Keyed α => object (m.entries.map fun e => (some e.1, toJson e.2))) (.keyed decode) m where
  isSpelled := by
    rw [isSpelled_object, List.forall_mem_map, List.forall_mem_map]
    exact ⟨fun _ _ => rfl, fun e he => (h e.2 (List.mem_map_of_mem he)).isSpelled⟩
  decode_toJson := Decoder.keyed_entries fun a ha => (h a ha).decode_toJson

end IsLossless

end Json

end TrackerAudit
