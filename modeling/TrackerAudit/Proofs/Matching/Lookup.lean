import Mathlib.Data.List.Find
import TrackerAudit.Matching.RuleSet
import TrackerAudit.Proofs.Matching.Index

/-!
# Looking up through the index

A rule set finds a rule for a request if the rule matches it and, where the rule is filed under a host, the host is
among the keys of the request (`Rule.isFound`). The search takes the best of the rules filed under a key, one after
another, and then looks for a better one among the other rules; every step keeps the least place so far
(`firstAmong_bestOf`, `firstAmong_earlier`). So the rule that is found is the first of the list that can be found
(`RuleSet.first?_ofList`).
-/

namespace TrackerAudit

/-! ### Least places -/

/-- The least place with `P`, or none if there is none. -/
def FirstAmong (P : Nat → Prop) : Option Nat → Prop
  | some m => P m ∧ ∀ n, P n → m ≤ n
  | none => ∀ n, ¬P n

theorem FirstAmong.congr {P Q : Nat → Prop} {b : Option Nat} (h : FirstAmong P b) (hPQ : ∀ n, P n ↔ Q n) :
    FirstAmong Q b := by
  obtain rfl : P = Q := funext fun n => propext (hPQ n)
  exact h

/-- The entry at the least place with a property is the first entry with the property. -/
theorem bind_getElem?_of_firstAmong {α : Type} {l : List α} {p : α → Bool} {b : Option Nat}
    (h : FirstAmong (fun n => ∃ a, l[n]? = some a ∧ p a = true) b) : b.bind (l[·]?) = l.find? p := by
  cases b with
  | none =>
    symm
    rw [Option.bind_none, List.find?_eq_none]
    intro a ha hp
    obtain ⟨n, hn⟩ := List.mem_iff_getElem?.1 ha
    exact h n ⟨a, hn, hp⟩
  | some m =>
    obtain ⟨⟨a, ha, hp⟩, hleast⟩ := h
    obtain ⟨hm, rfl⟩ := List.getElem?_eq_some_iff.1 ha
    symm
    rw [Option.bind_some, ha, List.find?_eq_some_iff_getElem]
    refine ⟨hp, m, hm, rfl, ?_⟩
    intro j hj
    rw [Bool.not_eq_true', Bool.eq_false_iff]
    intro hpj
    have := hleast j ⟨_, List.getElem?_eq_getElem (by omega), hpj⟩
    omega

/-! ### The search -/

namespace RuleSet

variable {s : RuleSet} {q : Request} {P : Nat → Prop} {best : Option Nat}

/-- Going through more places leaves the least one that matches or was known before. -/
theorem firstAmong_bestOf (h : FirstAmong P best) (places : List Nat) :
    FirstAmong (fun n => P n ∨ n ∈ places ∧ s.isMatchAt q n = true) (s.bestOf q best places) := by
  induction places generalizing P best with
  | nil => exact h.congr (by simp)
  | cons a places ih =>
    have hstep : FirstAmong (fun n => P n ∨ n = a ∧ s.isMatchAt q n = true)
        (if best.all (a < ·) && s.isMatchAt q a then some a else best) := by
      split
      · rename_i ha
        rw [Bool.and_eq_true] at ha
        refine ⟨Or.inr ⟨rfl, ha.2⟩, ?_⟩
        rintro n (hn | ⟨rfl, -⟩)
        · cases best with
          | none => exact absurd hn (h n)
          | some m =>
            have := h.2 n hn
            have : a < m := by simpa using ha.1
            omega
        · exact Nat.le_refl n
      · rename_i ha
        rw [Bool.and_eq_true, not_and] at ha
        cases best with
        | none =>
          rintro n (hn | ⟨rfl, hn⟩)
          · exact h n hn
          · exact ha rfl hn
        | some m =>
          refine ⟨Or.inl h.1, ?_⟩
          rintro n (hn | ⟨rfl, hn⟩)
          · exact h.2 n hn
          · by_contra hlt
            exact ha (by simpa using hlt) hn
    refine (ih hstep).congr fun n => ?_
    rw [List.mem_cons, or_and_right, or_assoc]

/-- Going through ascending places only as far as they can be better finds the least one that matches or was known
before. -/
theorem firstAmong_earlier (h : FirstAmong P best) {places : List Nat} (hplaces : places.Pairwise (· < ·)) :
    FirstAmong (fun n => P n ∨ n ∈ places ∧ s.isMatchAt q n = true)
      (((places.takeWhile fun place => best.all (place ≤ ·)).find? (s.isMatchAt q)).or best) := by
  induction places with
  | nil => exact h.congr (by simp)
  | cons a places ih =>
    obtain ⟨hfirst, hrest⟩ := List.pairwise_cons.1 hplaces
    by_cases hbetter : best.all (a ≤ ·) = true
    · rw [List.takeWhile_cons, if_pos hbetter]
      by_cases ha : s.isMatchAt q a = true
      · rw [List.find?_cons_of_pos ha, Option.some_or]
        refine ⟨Or.inr ⟨List.mem_cons_self, ha⟩, ?_⟩
        rintro n (hn | ⟨hn, -⟩)
        · cases best with
          | none => exact absurd hn (h n)
          | some m =>
            have := h.2 n hn
            have : a ≤ m := by simpa using hbetter
            omega
        · rcases List.mem_cons.1 hn with rfl | hn
          · exact Nat.le_refl n
          · exact Nat.le_of_lt (hfirst n hn)
      · rw [List.find?_cons_of_neg ha]
        refine (ih hrest).congr fun n => or_congr_right ?_
        rw [List.mem_cons]
        constructor
        · rintro ⟨hn, hm⟩
          exact ⟨Or.inr hn, hm⟩
        · rintro ⟨rfl | hn, hm⟩
          · exact absurd hm ha
          · exact ⟨hn, hm⟩
    · rw [List.takeWhile_cons, if_neg hbetter, List.find?_nil, Option.none_or]
      -- the places ascend, so none of those left is before the best one
      cases best with
      | none => exact absurd rfl hbetter
      | some m =>
        have hlt : m < a := by simpa using hbetter
        refine ⟨Or.inl h.1, ?_⟩
        rintro n (hn | ⟨hn, -⟩)
        · exact h.2 n hn
        · rcases List.mem_cons.1 hn with rfl | hn
          · exact Nat.le_of_lt hlt
          · have := hfirst n hn
            omega

end RuleSet

/-! ### The rule that is found -/

/-- The rule matches the request, and where it is filed under a host the host is among the keys of the request. -/
def Rule.isFound (r : Rule) (q : Request) : Bool :=
  r.isMatch q && r.indexedHost?.all fun host => (Host.keys q.url).contains host

/-- The index loses no match of a rule whose host, if it is filed under one, is then among the keys. -/
theorem Rule.isFound_eq_of_mem_keys {r : Rule} {q : Request}
    (h : ∀ key, r.indexedHost? = some key → r.isMatch q = true → key ∈ Host.keys q.url) : r.isFound q = r.isMatch q := by
  unfold Rule.isFound
  cases hm : r.isMatch q with
  | false => rfl
  | true =>
    rw [Bool.true_and, Option.all_eq_true]
    intro key hkey
    rw [List.contains_iff_mem]
    exact h key hkey hm

namespace RuleSet

variable (source : SourceList) (rules : List Rule) (isException : Bool) (q : Request)

theorem isMatchAt_ofList (place : Nat) :
    (ofList source rules).isMatchAt q place = true ↔ ∃ r, rules[place]? = some r ∧ r.isMatch q = true := by
  simp [isMatchAt, ofList, Option.any_eq_true]

/-- The place that is found is the first one whose rule can be found. -/
theorem firstAmong_firstPlace? :
    FirstAmong (fun n => ∃ r, rules[n]? = some r ∧ (r.isException == isException && r.isFound q) = true)
      ((ofList source rules).firstPlace? isException q) := by
  have hnone : FirstAmong (fun _ => False) none := fun _ h => h
  have hbest := firstAmong_bestOf (s := ofList source rules) (q := q) hnone
    ((Host.keys q.url).flatMap (((RuleIndex.build rules).ofKind isException).candidates))
  refine (firstAmong_earlier hbest RuleIndex.others_ascending).congr fun n => ?_
  simp only [false_or, List.mem_flatMap, RuleIndex.mem_candidates, RuleIndex.mem_others, isMatchAt_ofList]
  constructor
  · rintro (⟨⟨key, hkey, r, hr, hkind, hhost⟩, r', hr', hm⟩ | ⟨⟨r, hr, hkind, hhost⟩, r', hr', hm⟩)
    · obtain rfl : r = r' := Option.some.inj (hr.symm.trans hr')
      exact ⟨r, hr, by simp [Rule.isFound, hkind, hm, hhost, hkey]⟩
    · obtain rfl : r = r' := Option.some.inj (hr.symm.trans hr')
      exact ⟨r, hr, by simp [Rule.isFound, hkind, hm, hhost]⟩
  · rintro ⟨r, hr, h⟩
    simp only [Rule.isFound, Bool.and_eq_true, beq_iff_eq] at h
    obtain ⟨hkind, hm, hkeys⟩ := h
    cases hhost : r.indexedHost? with
    | none => exact Or.inr ⟨⟨r, hr, hkind, hhost⟩, r, hr, hm⟩
    | some key =>
      rw [hhost, Option.all_some, List.contains_iff_mem] at hkeys
      exact Or.inl ⟨⟨key, hkeys, r, hr, hkind, hhost⟩, r, hr, hm⟩

/-- The rule that is found is the first of the list that can be found. -/
theorem first?_ofList : (ofList source rules).first? isException q =
    rules.find? fun r => r.isException == isException && r.isFound q := by
  rw [first?, ← bind_getElem?_of_firstAmong (firstAmong_firstPlace? source rules isException q)]
  simp [ofList]

/-- The rule that is found in a set is the first of its rules that can be found. -/
theorem first?_eq_find? (s : RuleSet) :
    s.first? isException q = s.rules.toList.find? fun r => r.isException == isException && r.isFound q := by
  obtain ⟨source, rules, index, rfl⟩ := s
  exact first?_ofList source rules.toList isException q

variable {source rules q}

/-- Requests for which the same rules can be found are decided alike. -/
theorem decision_congr {q' : Request} (h : ∀ r ∈ rules, r.isFound q = r.isFound q') :
    (ofList source rules).decision q = (ofList source rules).decision q' := by
  have hfirst (isException : Bool) :
      (ofList source rules).first? isException q = (ofList source rules).first? isException q' := by
    rw [first?_ofList, first?_ofList]
    refine List.find?_congr fun r hr => ?_
    rw [h r hr]
  rw [decision, decision, block?, block?, exception?, exception?, hfirst, hfirst]

/-- Without a rule that can be found, a request is let through by no rule. -/
theorem decision_of_not_found (h : ∀ r ∈ rules, r.isFound q = false) :
    (ofList source rules).decision q = ⟨false, none⟩ := by
  have hnone : (ofList source rules).first? false q = none := by
    rw [first?_ofList, List.find?_eq_none]
    intro r hr
    rw [h r hr, Bool.and_false]
    exact Bool.false_ne_true
  rw [decision, block?, hnone, decideBy]

end RuleSet

end TrackerAudit
