import TrackerAudit.Regex.Basic

/-!
# What expressions take

`Consumes` by cases on the expression. A list of expressions takes what its members take one after another
(`ConsumesAll`); the concatenation of the list takes the same, and so do the factors of an expression. Two kinds of
repetition have a description of their own: any number of members of a set (`consumes_star_set`), and at most one
(`consumes_optional`).
-/

namespace TrackerAudit.Regex

variable {r s : Regex} {rs ss : List Regex} {prev : Option Char} {t rest : Text}

/-! ### The character before a position -/

@[simp] theorem prevAfter_nil (prev : Option Char) : prevAfter prev [] = prev := rfl

theorem prevAfter_append (prev : Option Char) (u v : Text) :
    prevAfter prev (u ++ v) = prevAfter (prevAfter prev u) v := by
  cases hv : v.getLast? with
  | none =>
    obtain rfl := List.getLast?_eq_none_iff.1 hv
    simp
  | some c => simp [prevAfter, hv]

@[simp] theorem prevAfter_cons (prev : Option Char) (c : Char) (u : Text) :
    prevAfter prev (c :: u) = prevAfter (some c) u :=
  prevAfter_append prev [c] u

/-- Text has been taken before a position exactly if a character stands before it. -/
theorem prevAfter_none (u : Text) : prevAfter none u = u.getLast? := by
  unfold prevAfter
  split
  · rename_i c h
    exact h.symm
  · rename_i h
    exact h.symm

/-! ### One expression -/

theorem consumes_empty : Consumes .empty prev t rest ↔ t = [] := by
  constructor
  · intro h
    cases h
    rfl
  · rintro rfl
    exact .empty

theorem consumes_set {s : CharSet} : Consumes (.set s) prev t rest ↔ ∃ c, s.mem c = true ∧ t = [c] := by
  constructor
  · intro h
    cases h with
    | set hc => exact ⟨_, hc, rfl⟩
  · rintro ⟨c, hc, rfl⟩
    exact .set hc

theorem consumes_look {l : Look} : Consumes (.look l) prev t rest ↔ t = [] ∧ l.holds prev rest.head? = true := by
  constructor
  · intro h
    cases h with
    | look hl => exact ⟨rfl, hl⟩
  · rintro ⟨rfl, hl⟩
    exact .look hl

theorem consumes_cat : Consumes (.cat r s) prev t rest ↔
    ∃ u v, t = u ++ v ∧ r.Consumes prev u (v ++ rest) ∧ s.Consumes (prevAfter prev u) v rest := by
  constructor
  · intro h
    cases h with
    | cat hr hs => exact ⟨_, _, rfl, hr, hs⟩
  · rintro ⟨u, v, rfl, hr, hs⟩
    exact .cat hr hs

theorem consumes_alt : Consumes (.alt r s) prev t rest ↔ r.Consumes prev t rest ∨ s.Consumes prev t rest := by
  constructor
  · intro h
    cases h with
    | left hr => exact Or.inl hr
    | right hs => exact Or.inr hs
  · rintro (h | h)
    · exact .left h
    · exact .right h

theorem consumes_rep {min : Nat} {max : Option Nat} : Consumes (.rep r min max) prev t rest ↔
    (min = 0 ∧ t = []) ∨ max ≠ some 0 ∧ ∃ u v, t = u ++ v ∧ r.Consumes prev u (v ++ rest) ∧
      Consumes (.rep r (min - 1) (fewer max)) (prevAfter prev u) v rest := by
  constructor
  · intro h
    cases h with
    | done => exact Or.inl ⟨rfl, rfl⟩
    | more hm hr hrest => exact Or.inr ⟨hm, _, _, rfl, hr, hrest⟩
  · rintro (⟨rfl, rfl⟩ | ⟨hm, u, v, rfl, hr, hrest⟩)
    · exact .done
    · exact .more hm hr hrest

/-! ### Expressions in a row -/

/-- The expressions of a list take `taken` one after another. -/
def ConsumesAll : List Regex → Option Char → Text → Text → Prop
  | [], _, taken, _ => taken = []
  | r :: rs, prev, taken, rest =>
    ∃ u v, taken = u ++ v ∧ r.Consumes prev u (v ++ rest) ∧ ConsumesAll rs (prevAfter prev u) v rest

@[simp] theorem consumesAll_nil : ConsumesAll [] prev t rest ↔ t = [] := Iff.rfl

theorem consumesAll_cons : ConsumesAll (r :: rs) prev t rest ↔
    ∃ u v, t = u ++ v ∧ r.Consumes prev u (v ++ rest) ∧ ConsumesAll rs (prevAfter prev u) v rest :=
  Iff.rfl

theorem consumesAll_singleton : ConsumesAll [r] prev t rest ↔ r.Consumes prev t rest := by
  constructor
  · rintro ⟨u, v, rfl, hr, rfl⟩
    simpa using hr
  · intro hr
    exact ⟨t, [], by simp, by simpa using hr, rfl⟩

theorem consumesAll_append : ConsumesAll (rs ++ ss) prev t rest ↔
    ∃ u v, t = u ++ v ∧ ConsumesAll rs prev u (v ++ rest) ∧ ConsumesAll ss (prevAfter prev u) v rest := by
  induction rs generalizing prev t with
  | nil =>
    constructor
    · intro h
      exact ⟨[], t, rfl, rfl, h⟩
    · rintro ⟨u, v, rfl, rfl, h⟩
      exact h
  | cons r rs ih =>
    simp only [List.cons_append, consumesAll_cons, ih]
    constructor
    · rintro ⟨u, -, rfl, hr, v, w, rfl, hv, hw⟩
      refine ⟨u ++ v, w, by simp, ⟨u, v, rfl, ?_, hv⟩, ?_⟩
      · simpa using hr
      · rwa [prevAfter_append]
    · rintro ⟨-, w, rfl, ⟨u, v, rfl, hr, hv⟩, hw⟩
      refine ⟨u, v ++ w, by simp, ?_, v, w, rfl, hv, ?_⟩
      · simpa using hr
      · rwa [prevAfter_append] at hw

/-- The concatenation of a list takes what its members take in a row. -/
theorem consumes_catList : (catList rs).Consumes prev t rest ↔ ConsumesAll rs prev t rest := by
  induction rs generalizing prev t with
  | nil => exact consumes_empty
  | cons r rs ih =>
    cases rs with
    | nil => exact consumesAll_singleton.symm
    | cons r' rs =>
      rw [catList, consumes_cat, consumesAll_cons]
      simp only [ih]
      exact List.cons_ne_nil _ _

/-! ### Repetition -/

/-- Fewer repetitions asked for and more allowed, more taken. -/
theorem Consumes.rep_mono {min min' : Nat} {max max' : Option Nat} (h : Consumes (.rep r min max) prev t rest)
    (hmin : min' ≤ min) (hmax : ∀ n ∈ max', ∃ m ∈ max, m ≤ n) : Consumes (.rep r min' max') prev t rest := by
  generalize hR : Regex.rep r min max = R at h
  induction h generalizing min min' max max' with
  | done =>
    cases hR
    obtain rfl : min' = 0 := by omega
    exact .done
  | more hne hr _ _ ih =>
    cases hR
    refine .more ?_ hr (ih (by omega) ?_ rfl)
    · rintro rfl
      obtain ⟨m, hm, hle⟩ := hmax 0 rfl
      obtain rfl : m = 0 := by omega
      exact hne hm
    · intro n hn
      obtain ⟨n', rfl, rfl⟩ := Option.map_eq_some_iff.1 hn
      obtain ⟨m, rfl, hle⟩ := hmax n' rfl
      exact ⟨m - 1, rfl, by omega⟩
  | _ => cases hR

/-- Any number of members of a set. -/
theorem consumes_star_set {s : CharSet} :
    Consumes (.rep (.set s) 0 none) prev t rest ↔ ∀ c ∈ t, s.mem c = true := by
  induction t generalizing prev with
  | nil => simp [Consumes.done]
  | cons c t ih =>
    rw [consumes_rep]
    constructor
    · rintro (⟨-, h⟩ | ⟨-, u, v, ht, hu, hv⟩)
      · cases h
      · obtain ⟨d, hd, rfl⟩ := consumes_set.1 hu
        obtain ⟨rfl, rfl⟩ := List.cons.inj ht
        have := ih.1 hv
        simpa [hd] using this
    · intro h
      refine Or.inr ⟨by simp, [c], t, rfl, .set (h c (by simp)), ih.2 ?_⟩
      intro d hd
      exact h d (by simp [hd])

/-- At most one repetition. -/
theorem consumes_optional :
    Consumes (.rep r 0 (some 1)) prev t rest ↔ t = [] ∨ r.Consumes prev t rest := by
  rw [consumes_rep]
  constructor
  · rintro (⟨-, rfl⟩ | ⟨-, u, v, rfl, hu, hv⟩)
    · exact Or.inl rfl
    · rcases consumes_rep.1 hv with ⟨-, rfl⟩ | ⟨h, -⟩
      · exact Or.inr (by simpa using hu)
      · exact absurd rfl h
  · rintro (rfl | h)
    · exact Or.inl ⟨rfl, rfl⟩
    · exact Or.inr ⟨by simp, t, [], by simp, by simpa using h, .done⟩

end TrackerAudit.Regex
