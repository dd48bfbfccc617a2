import TrackerAudit.Command.Basic

/-!
# Flags on the command line

No two flags have a name in common. So arguments that can be read where some flags are allowed say the same where more
flags are allowed (`FlagSet.read?_of_subset`), and a command is told the same about the settings as the flags for settings
say by themselves (`Command.named?_of_read?`).
-/

namespace TrackerAudit

namespace Flag

/-! ### Names -/

/-- All flags. -/
def all : List Flag :=
  [verbose, config, easyList, easyPrivacy, fanboyAnnoyance, evidence, legal, output, top, assumeThirdPartyScript,
    globalExceptions, workers, showErrors, url, page, thirdParty, firstParty, script]

variable {f g : Flag} {allowed allowed' : List Flag} {c : Char} {p : Flag → Bool}

theorem find?_long (f : Flag) : all.find? (·.long == f.long) = some f := by cases f <;> rfl

theorem find?_short (h : f.short? = some c) : all.find? (·.short? == some c) = some f := by
  cases f <;> cases h <;> rfl

theorem eq_of_long (h : f.long = g.long) : f = g :=
  Option.some.inj ((find?_long f).symm.trans (h ▸ find?_long g))

theorem eq_of_short (hf : f.short? = some c) (hg : g.short? = some c) : f = g :=
  Option.some.inj ((find?_short hf).symm.trans (find?_short hg))

/-- A flag that is the only one of its kind is found among more flags as well. -/
theorem find?_of_subset (honly : ∀ f g, p f = true → p g = true → f = g) (hsub : allowed ⊆ allowed')
    (h : allowed.find? p = some f) : allowed'.find? p = some f := by
  have hf := List.find?_some h
  cases hfound : allowed'.find? p with
  | none => exact absurd hf (List.find?_eq_none.1 hfound f (hsub (List.mem_of_find?_eq_some h)))
  | some g => rw [honly g f (List.find?_some hfound) hf]

theorem find?_long_of_subset {name : Text} (hsub : allowed ⊆ allowed') (h : allowed.find? (·.long == name) = some f) :
    allowed'.find? (·.long == name) = some f :=
  find?_of_subset (fun _ _ hf hg => eq_of_long ((eq_of_beq hf).trans (eq_of_beq hg).symm)) hsub h

theorem find?_short_of_subset (hsub : allowed ⊆ allowed') (h : allowed.find? (·.short? == some c) = some f) :
    allowed'.find? (·.short? == some c) = some f :=
  find?_of_subset (fun _ _ hf hg => eq_of_short (eq_of_beq hf) (eq_of_beq hg)) hsub h

end Flag

/-! ### Arguments -/

section

variable {allowed allowed' : List Flag} (hsub : allowed ⊆ allowed')

include hsub

namespace Argument

variable {a : Argument} {s : Text}

theorem ofLong?_of_subset (h : ofLong? allowed s = some a) : ofLong? allowed' s = some a := by
  unfold ofLong? at h ⊢
  split at h
  · obtain ⟨flag, hflag, h⟩ := Option.bind_eq_some_iff.1 h
    exact Option.bind_eq_some_iff.2 ⟨flag, Flag.find?_long_of_subset hsub hflag, h⟩
  · obtain ⟨flag, hflag, h⟩ := Option.bind_eq_some_iff.1 h
    exact Option.bind_eq_some_iff.2 ⟨flag, Flag.find?_long_of_subset hsub hflag, h⟩

theorem ofShort?_of_subset (h : ofShort? allowed s = some a) : ofShort? allowed' s = some a := by
  induction s generalizing a with
  | nil => exact h
  | cons c s ih =>
    obtain ⟨flag, hflag, h⟩ := Option.bind_eq_some_iff.1 h
    refine Option.bind_eq_some_iff.2 ⟨flag, Flag.find?_short_of_subset hsub hflag, ?_⟩
    split at h
    · rename_i hvalue
      rwa [if_pos hvalue]
    · rename_i hvalue
      obtain ⟨others, hothers, h⟩ := Option.bind_eq_some_iff.1 h
      rw [if_neg hvalue, ih hothers]
      exact h

theorem read?_of_subset (h : read? allowed s = some a) : read? allowed' s = some a := by
  unfold read? at h ⊢
  split at h
  · exact ofLong?_of_subset hsub h
  · exact ofShort?_of_subset hsub h
  · cases h

end Argument

theorem readFlags?_of_subset {arguments : List Text} {given : List GivenFlag}
    (h : readFlags? allowed arguments = some given) : readFlags? allowed' arguments = some given := by
  induction arguments using readFlags?.induct generalizing given with
  | case1 => exact h
  | case2 => exact h
  | case3 arg hend =>
    simp only [readFlags?, if_neg hend] at h ⊢
    obtain ⟨a, ha, h⟩ := Option.bind_eq_some_iff.1 h
    exact Option.bind_eq_some_iff.2 ⟨a, Argument.read?_of_subset hsub ha, h⟩
  | case4 arg next rest ihNext ihRest =>
    obtain ⟨a, ha, h⟩ := Option.bind_eq_some_iff.1 h
    refine Option.bind_eq_some_iff.2 ⟨a, Argument.read?_of_subset hsub ha, ?_⟩
    -- either the argument says it all, or the next one is its value
    split at h
    · obtain ⟨later, hlater, h⟩ := Option.bind_eq_some_iff.1 h
      exact Option.bind_eq_some_iff.2 ⟨later, ihNext hlater, h⟩
    · split at h
      · cases h
      · rename_i hvalue
        obtain ⟨later, hlater, h⟩ := Option.bind_eq_some_iff.1 h
        rw [if_neg hvalue]
        exact Option.bind_eq_some_iff.2 ⟨later, ihRest hlater, h⟩

theorem FlagSet.read?_of_subset {arguments : List Text} {s : FlagSet} (h : read? allowed arguments = some s) :
    read? allowed' arguments = some s := by
  obtain ⟨given, hgiven, h⟩ := Option.bind_eq_some_iff.1 h
  exact Option.bind_eq_some_iff.2 ⟨given, readFlags?_of_subset hsub hgiven, h⟩

end

/-! ### Commands -/

/-- What the flags for settings say by themselves, they say to every command without flags of its own. -/
theorem Command.named?_of_read? {arguments : List Text} {o : Overrides} (h : Overrides.read? arguments = some o) :
    named? "classify".toList arguments = some ⟨.classify, o⟩ ∧ named? "gdc".toList arguments = some ⟨.score, o⟩ ∧
      named? "run".toList arguments = some ⟨.run, o⟩ := by
  obtain ⟨s, hs, rfl⟩ := Option.map_eq_some_iff.1 h
  have hread : FlagSet.read? (.verbose :: [] ++ Overrides.flags) arguments = some s :=
    FlagSet.read?_of_subset (List.subset_cons_self _ _) hs
  have hwith (action : Action) : withFlags [] (fun _ => some action) arguments = some ⟨action, Overrides.ofFlags s⟩ := by
    rw [withFlags, hread]
    rfl
  exact ⟨hwith .classify, hwith .score, hwith .run⟩

end TrackerAudit
