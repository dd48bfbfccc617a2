import TrackerAudit.Proofs.Json.Number
import TrackerAudit.Proofs.Json.Text

/-!
# Values in JSON

A value is read back from its text if all of its strings are texts and all of its numbers survive, wherever the text has
blanks (`IsSpelled.read?_render`). The induction goes over the value (`IsSpelled.isRead`): a value, the items of an array
and the members of an object are each read back whatever comes after them, if there is fuel for every character.
-/

namespace TrackerAudit.Json

open Text JsonNumber

/-- The number stands somewhere in the value. -/
inductive HasNumber (n : JsonNumber) : Json → Prop
  | here : HasNumber n (.number n)
  | item {items : List Json} {j : Json} (hj : j ∈ items) (h : HasNumber n j) : HasNumber n (.array items)
  | value {members : List (Option Text × Json)} {m : Option Text × Json} (hm : m ∈ members) (h : HasNumber n m.2) :
      HasNumber n (.object members)

/-- All strings of the value, also its keys, are texts. -/
inductive IsSpelled : Json → Prop
  | null : IsSpelled .null
  | bool (b : Bool) : IsSpelled (.bool b)
  | number (n : JsonNumber) : IsSpelled (.number n)
  | string (s : Text) : IsSpelled (.string (some s))
  | array {items : List Json} (h : ∀ j ∈ items, IsSpelled j) : IsSpelled (.array items)
  | object {members : List (Option Text × Json)} (hkeys : ∀ m ∈ members, m.1.isSome = true)
      (hvalues : ∀ m ∈ members, IsSpelled m.2) : IsSpelled (.object members)

/-- All numbers of the value survive writing and reading. -/
def KeepsNumbers (j : Json) : Prop := ∀ n, j.HasNumber n → n.IsKept

/-! ### Strings and numbers of a value -/

section Parts

variable {α : Type} {items : List Json} {members : List (Option Text × Json)}

@[simp] theorem isSpelled_null : IsSpelled .null := .null

@[simp] theorem isSpelled_bool (b : Bool) : (bool b).IsSpelled := .bool b

@[simp] theorem isSpelled_str (s : Text) : (str s).IsSpelled := .string s

@[simp] theorem isSpelled_nat (n : Nat) : (nat n).IsSpelled := .number _

@[simp] theorem isSpelled_float (x : Float) : (float x).IsSpelled := .number _

@[simp] theorem isSpelled_array : (array items).IsSpelled ↔ ∀ j ∈ items, j.IsSpelled :=
  ⟨fun | .array h => h, .array⟩

@[simp] theorem isSpelled_object :
    (object members).IsSpelled ↔ (∀ m ∈ members, m.1.isSome = true) ∧ ∀ m ∈ members, m.2.IsSpelled :=
  ⟨fun | .object hkeys hvalues => ⟨hkeys, hvalues⟩, fun h => .object h.1 h.2⟩

@[simp] theorem isSpelled_record {members : List (String × Json)} :
    (record members).IsSpelled ↔ ∀ m ∈ members, m.2.IsSpelled := by
  rw [record, isSpelled_object, List.forall_mem_map, List.forall_mem_map]
  simp

@[simp] theorem isSpelled_strings (ss : List Text) : (strings ss).IsSpelled := by simp [strings]

@[simp] theorem isSpelled_ofOption {f : α → Json} {o : Option α} :
    (ofOption f o).IsSpelled ↔ ∀ a ∈ o, (f a).IsSpelled := by cases o <;> simp [ofOption]

@[simp] theorem keepsNumbers_null : KeepsNumbers .null := nofun

@[simp] theorem keepsNumbers_bool (b : Bool) : (bool b).KeepsNumbers := nofun

@[simp] theorem keepsNumbers_str (s : Text) : (str s).KeepsNumbers := nofun

@[simp] theorem keepsNumbers_number {n : JsonNumber} : (number n).KeepsNumbers ↔ n.IsKept :=
  ⟨fun h => h n .here, fun h _ hn => by cases hn; exact h⟩

@[simp] theorem keepsNumbers_nat {n : Nat} : (nat n).KeepsNumbers ↔ n < 2 ^ 64 := keepsNumbers_number

@[simp] theorem keepsNumbers_float {x : Float} : (float x).KeepsNumbers ↔ (JsonNumber.float x).IsKept :=
  keepsNumbers_number

@[simp] theorem keepsNumbers_array : (array items).KeepsNumbers ↔ ∀ j ∈ items, j.KeepsNumbers :=
  ⟨fun h _ hj n hn => h n (.item hj hn), fun h n hn => by cases hn with | item hj hn => exact h _ hj n hn⟩

@[simp] theorem keepsNumbers_object : (object members).KeepsNumbers ↔ ∀ m ∈ members, m.2.KeepsNumbers :=
  ⟨fun h _ hm n hn => h n (.value hm hn), fun h n hn => by cases hn with | value hm hn => exact h _ hm n hn⟩

@[simp] theorem keepsNumbers_record {members : List (String × Json)} :
    (record members).KeepsNumbers ↔ ∀ m ∈ members, m.2.KeepsNumbers := by
  rw [record, keepsNumbers_object, List.forall_mem_map]

@[simp] theorem keepsNumbers_strings (ss : List Text) : (strings ss).KeepsNumbers := by simp [strings]

@[simp] theorem keepsNumbers_ofOption {f : α → Json} {o : Option α} :
    (ofOption f o).KeepsNumbers ↔ ∀ a ∈ o, (f a).KeepsNumbers := by cases o <;> simp [ofOption]

end Parts

/-! ### Blanks -/

variable {b : Spacing}

theorem skipSpace_append {s : Text} (h : ∀ c ∈ s, isSpace c = true) (t : Text) : skipSpace (s ++ t) = skipSpace t :=
  List.dropWhile_append_of_pos h

theorem skipSpace_line (level : Nat) (s : Text) : skipSpace (b.line level ++ s) = skipSpace s :=
  skipSpace_append (b.isSpace_line level) s

theorem skipSpace_cons {c : Char} {s : Text} (h : isSpace c = false) : skipSpace (c :: s) = c :: s := by
  simp [skipSpace, h]

theorem readValue?_of_skipSpace {s t : Text} (h : skipSpace s = skipSpace t) (fuel : Nat) :
    readValue? fuel s = readValue? fuel t := by
  cases fuel with
  | zero => rfl
  | succ fuel => simp only [readValue?, h]

theorem readItems?_line (fuel level : Nat) (s : Text) :
    readItems? fuel (b.line level ++ s) = readItems? fuel s := by
  cases fuel with
  | zero => rfl
  | succ fuel => rw [readItems?, readItems?, readValue?_of_skipSpace (skipSpace_line level s)]

theorem readMembers?_line (fuel level : Nat) (s : Text) :
    readMembers? fuel (b.line level ++ s) = readMembers? fuel s := by
  cases fuel with
  | zero => rfl
  | succ fuel => simp only [readMembers?, skipSpace_line]

/-- No blank goes on with a number. -/
theorem endsNumber_line (level : Nat) {s : Text} (hs : EndsNumber s) : EndsNumber (b.line level ++ s) := by
  have hspace := b.isSpace_line level
  cases hline : b.line level with
  | nil => exact hs
  | cons c line =>
    rw [hline, List.forall_mem_cons] at hspace
    refine endsNumber_cons ?_
    simp only [isSpace, Bool.or_eq_true, beq_iff_eq] at hspace
    rcases hspace.1 with ((rfl | rfl) | rfl) | rfl <;> decide

/-! ### Items and members -/

/-- The value is read back from its text at every level, whatever follows that does not go on with a number. -/
structure IsRead (b : Spacing) (j : Json) : Prop where
  starts (level : Nat) : ∃ c t, j.render b level = c :: t ∧ isSpace c = false ∧ c ≠ ']'
  read (level fuel : Nat) (rest : Text) (hfuel : (j.render b level).length ≤ fuel) (hrest : EndsNumber rest) :
    readValue? fuel (j.render b level ++ rest) = some (j, rest)

theorem endsNumber_renderItems (b : Spacing) (level level' : Nat) (items : List Json) (s : Text) :
    EndsNumber (renderItems b level items ++ (b.line level' ++ ']' :: s)) := by
  cases items with
  | nil => exact endsNumber_line level' (endsNumber_cons (by decide))
  | cons item items =>
    rw [renderItems]
    exact endsNumber_cons (by decide)

theorem endsNumber_renderMembers (b : Spacing) (level level' : Nat) (members : List (Option Text × Json)) (s : Text) :
    EndsNumber (renderMembers b level members ++ (b.line level' ++ '\x7d' :: s)) := by
  cases members with
  | nil => exact endsNumber_line level' (endsNumber_cons (by decide))
  | cons m members =>
    rw [renderMembers]
    exact endsNumber_cons (by decide)

/-- The items of an array are read back up to its closing bracket. -/
theorem readItems?_render (level level' fuel : Nat) (item : Json) (items : List Json) (rest : Text)
    (h : ∀ j ∈ item :: items, IsRead b j)
    (hfuel : (item.render b level).length + (renderItems b level items).length < fuel) :
    readItems? fuel (item.render b level ++ (renderItems b level items ++ (b.line level' ++ ']' :: rest))) =
      some (item :: items, rest) := by
  induction items generalizing fuel item with
  | nil =>
    obtain ⟨fuel, rfl⟩ := Nat.exists_eq_add_one_of_ne_zero (Nat.ne_zero_of_lt hfuel)
    have hitem := (h item (by simp)).read level fuel _ (by omega) (endsNumber_renderItems b level level' [] rest)
    rw [readItems?, hitem]
    simp [renderItems, skipSpace_line, skipSpace_cons (c := ']') rfl]
  | cons item' items ih =>
    obtain ⟨fuel, rfl⟩ := Nat.exists_eq_add_one_of_ne_zero (Nat.ne_zero_of_lt hfuel)
    have hlength : (item'.render b level).length + (renderItems b level items).length <
        (renderItems b level (item' :: items)).length := by
      simp only [renderItems, List.length_cons, List.length_append]
      omega
    have hitem := (h item (by simp)).read level fuel _ (by omega)
      (endsNumber_renderItems b level level' (item' :: items) rest)
    have hitems := ih fuel item' (fun j hj => h j (List.mem_cons_of_mem item hj)) (by omega)
    rw [readItems?, hitem]
    simp only [renderItems, Option.bind_eq_bind, Option.bind_some, List.cons_append, List.append_assoc,
      skipSpace_cons (c := ',') rfl, readItems?_line, hitems]
    rfl

/-- A member is read up to the end of its value. -/
theorem readMembers?_member (fuel : Nat) (key s : Text) :
    readMembers? (fuel + 1) (quoted key ++ ':' :: (b.value ++ s)) = (readValue? fuel s).bind fun (value, s) =>
      match skipSpace s with
      | ',' :: s => (readMembers? fuel s).map fun (members, s) => ((some key, value) :: members, s)
      | '\x7d' :: s => some ([(some key, value)], s)
      | _ => none := by
  have hblank : readValue? fuel (b.value ++ s) = readValue? fuel s :=
    readValue?_of_skipSpace (skipSpace_append b.isSpace_value s) fuel
  simp only [quoted, List.cons_append, List.append_assoc, List.nil_append, readMembers?,
    skipSpace_cons (c := '"') rfl, skipSpace_cons (c := ':') rfl, readString?_quoted, hblank, Option.bind_eq_bind,
    Option.bind_some, Option.map_eq_bind]
  rfl

/-- The members of an object are read back up to its closing brace. -/
theorem readMembers?_render (level level' fuel : Nat) (key : Text) (value : Json)
    (members : List (Option Text × Json)) (rest : Text) (hkeys : ∀ m ∈ members, m.1.isSome = true)
    (hvalue : IsRead b value) (hvalues : ∀ m ∈ members, IsRead b m.2)
    (hfuel : (value.render b level).length + (renderMembers b level members).length < fuel) :
    readMembers? fuel (quoted key ++ ':' :: (b.value ++ (value.render b level ++ (renderMembers b level members ++
      (b.line level' ++ '\x7d' :: rest))))) = some ((some key, value) :: members, rest) := by
  induction members generalizing fuel key value with
  | nil =>
    obtain ⟨fuel, rfl⟩ := Nat.exists_eq_add_one_of_ne_zero (Nat.ne_zero_of_lt hfuel)
    have hread := hvalue.read level fuel _ (by omega) (endsNumber_renderMembers b level level' [] rest)
    rw [readMembers?_member, hread]
    simp [renderMembers, skipSpace_line, skipSpace_cons (c := '\x7d') rfl]
  | cons m members ih =>
    obtain ⟨fuel, rfl⟩ := Nat.exists_eq_add_one_of_ne_zero (Nat.ne_zero_of_lt hfuel)
    obtain ⟨key', value'⟩ := m
    obtain ⟨key', rfl⟩ := Option.isSome_iff_exists.1 (hkeys _ (List.mem_cons_self ..))
    have hlength : (value'.render b level).length + (renderMembers b level members).length <
        (renderMembers b level ((some key', value') :: members)).length := by
      simp only [renderMembers, List.length_cons, List.length_append]
      omega
    have hread := hvalue.read level fuel _ (by omega)
      (endsNumber_renderMembers b level level' ((some key', value') :: members) rest)
    have hmembers := ih fuel key' value'
      (fun m hm => hkeys m (List.mem_cons_of_mem _ hm)) (hvalues (some key', value') (List.mem_cons_self ..))
      (fun m hm => hvalues m (List.mem_cons_of_mem _ hm)) (by omega)
    rw [readMembers?_member, hread]
    simp only [renderMembers, Option.bind_some, List.cons_append, List.append_assoc, skipSpace_cons (c := ',') rfl,
      readMembers?_line, Option.getD_some]
    exact congrArg (Option.map _) hmembers

/-! ### Values -/

/-- No text of a value is empty, so the fuel is never used up before the value. -/
theorem IsRead.of_succ {j : Json} (hstarts : ∀ level, ∃ c t, j.render b level = c :: t ∧ isSpace c = false ∧ c ≠ ']')
    (hread : ∀ level fuel rest, (j.render b level).length ≤ fuel + 1 → EndsNumber rest →
      readValue? (fuel + 1) (j.render b level ++ rest) = some (j, rest)) : IsRead b j := by
  refine ⟨hstarts, ?_⟩
  intro level fuel rest hfuel hrest
  cases fuel with
  | zero =>
    obtain ⟨c, t, hct, -⟩ := hstarts level
    rw [hct] at hfuel
    cases hfuel
  | succ fuel => exact hread level fuel rest hfuel hrest

theorem isRead_null : IsRead b .null :=
  .of_succ (fun _ => ⟨'n', _, rfl, rfl, by decide⟩) fun _ _ _ _ _ => rfl

theorem isRead_bool (value : Bool) : IsRead b (.bool value) := by
  cases value
  · exact .of_succ (fun _ => ⟨'f', _, rfl, rfl, by decide⟩) fun _ _ _ _ _ => rfl
  · exact .of_succ (fun _ => ⟨'t', _, rfl, rfl, by decide⟩) fun _ _ _ _ _ => rfl

theorem isRead_string (s : Text) : IsRead b (.string (some s)) := by
  refine .of_succ (fun _ => ⟨'"', _, rfl, rfl, by decide⟩) ?_
  intro level fuel rest _ _
  simp [render, quoted, readValue?, skipSpace_cons (c := '"') rfl, readString?_quoted]

theorem isRead_number {n : JsonNumber} (h : n.IsKept) : IsRead b (.number n) := by
  have hread := read?_numberText h
  obtain ⟨c, t, hct, hc⟩ := exists_of_read? hread
  have hne (d : Char) (hd : d ≠ '-' ∧ d.isDigit = false) : c ≠ d := by
    rintro rfl
    simp [hd] at hc
  have hspace : isSpace c = false := by
    simp only [isSpace, Bool.or_eq_false_iff, beq_eq_false_iff_ne]
    exact ⟨⟨⟨hne ' ' (by decide), hne '\n' (by decide)⟩, hne '\t' (by decide)⟩, hne '\r' (by decide)⟩
  refine .of_succ (fun _ => ⟨c, t, hct, hspace, hne ']' (by decide)⟩) ?_
  intro level fuel rest _ hrest
  have hrestRead := read?_append hread hrest
  rw [hct, List.cons_append, List.nil_append] at hrestRead
  rw [render, hct, List.cons_append, readValue?.eq_def]
  simp only [skipSpace_cons hspace]
  -- the first character tells a number from every other value
  split
  · exact absurd (List.cons.inj ‹_›).1 (hne 'n' (by decide))
  · exact absurd (List.cons.inj ‹_›).1 (hne 't' (by decide))
  · exact absurd (List.cons.inj ‹_›).1 (hne 'f' (by decide))
  · exact absurd (List.cons.inj ‹_›).1 (hne '"' (by decide))
  · exact absurd (List.cons.inj ‹_›).1 (hne '[' (by decide))
  · exact absurd (List.cons.inj ‹_›).1 (hne '\x7b' (by decide))
  · rw [hrestRead]
    rfl

theorem isRead_array {items : List Json} (h : ∀ j ∈ items, IsRead b j) : IsRead b (.array items) := by
  cases items with
  | nil => exact .of_succ (fun _ => ⟨'[', _, rfl, rfl, by decide⟩) fun _ _ _ _ _ => by rw [render]; rfl
  | cons item items =>
    refine .of_succ (fun level => ⟨'[', _, by rw [render], rfl, by decide⟩) ?_
    intro level fuel rest hfuel _
    rw [render] at hfuel ⊢
    simp only [List.length_cons, List.length_append] at hfuel
    have hitems := readItems?_render (level + 1) level fuel item items rest h (by omega)
    obtain ⟨c, t, hct, hspace, hclose⟩ := (h item (List.mem_cons_self ..)).starts (level + 1)
    rw [hct, List.cons_append] at hitems
    simp only [readValue?, hct, List.cons_append, List.append_assoc, List.nil_append, skipSpace_line,
      skipSpace_cons (c := '[') rfl, skipSpace_cons hspace]
    split
    · exact absurd (List.cons.inj ‹_›).1 hclose
    · rw [hitems]
      rfl

theorem isRead_object {members : List (Option Text × Json)} (hkeys : ∀ m ∈ members, m.1.isSome = true)
    (hvalues : ∀ m ∈ members, IsRead b m.2) : IsRead b (.object members) := by
  cases members with
  | nil => exact .of_succ (fun _ => ⟨'\x7b', _, rfl, rfl, by decide⟩) fun _ _ _ _ _ => by rw [render]; rfl
  | cons m members =>
    obtain ⟨key, value⟩ := m
    obtain ⟨key, rfl⟩ := Option.isSome_iff_exists.1 (hkeys _ (List.mem_cons_self ..))
    refine .of_succ (fun level => ⟨'\x7b', _, by rw [render], rfl, by decide⟩) ?_
    intro level fuel rest hfuel _
    rw [render] at hfuel ⊢
    simp only [List.length_cons, List.length_append] at hfuel
    have hmembers := readMembers?_render (level + 1) level fuel key value members rest
      (fun m hm => hkeys m (List.mem_cons_of_mem _ hm)) (hvalues (some key, value) (List.mem_cons_self ..))
      (fun m hm => hvalues m (List.mem_cons_of_mem _ hm)) (by omega)
    simp only [readValue?, quoted, Option.getD_some, List.cons_append, List.append_assoc, List.nil_append,
      skipSpace_line, skipSpace_cons (c := '\x7b') rfl, skipSpace_cons (c := '"') rfl]
    split
    · cases (List.cons.inj ‹_›).1
    · rw [quoted, List.cons_append, List.append_assoc] at hmembers
      exact congrArg (Option.map fun x => (object x.1, x.2)) hmembers

/-- A spelled value with numbers that survive is read back. -/
theorem IsSpelled.isRead {j : Json} (hj : j.IsSpelled) (h : j.KeepsNumbers) : IsRead b j := by
  induction hj with
  | null => exact isRead_null
  | bool b => exact isRead_bool b
  | number n => exact isRead_number (h n .here)
  | string s => exact isRead_string s
  | array _ ih => exact isRead_array fun j hj => ih j hj fun n hn => h n (.item hj hn)
  | object hkeys _ ih => exact isRead_object hkeys fun m hm => ih m hm fun n hn => h n (.value hm hn)

/-- A spelled value with numbers that survive is the value of its text. -/
theorem IsSpelled.read?_render {j : Json} (hj : j.IsSpelled) (h : j.KeepsNumbers) (b : Spacing) (level : Nat) :
    read? (j.render b level) = some j := by
  have hread := (hj.isRead h).read level ((j.render b level).length + 1) [] (Nat.le_succ _) endsNumber_nil
  rw [List.append_nil] at hread
  rw [read?, hread]
  rfl

theorem IsSpelled.read?_pretty {j : Json} (hj : j.IsSpelled) (h : j.KeepsNumbers) : read? j.pretty = some j :=
  hj.read?_render h .wide 0

theorem IsSpelled.read?_compact {j : Json} (hj : j.IsSpelled) (h : j.KeepsNumbers) : read? j.compact = some j :=
  hj.read?_render h .tight 0

end TrackerAudit.Json
