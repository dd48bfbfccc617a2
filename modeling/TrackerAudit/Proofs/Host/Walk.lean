import TrackerAudit.Proofs.Host.Within
import TrackerAudit.Proofs.Text.Trimming

/-!
# The walk over the parents of a host, and the keys of a request

The walk from a host to its parents comes to an end (`walk_parents`). Without outer dots of the host, it passes the names
in which the host ends, each shorter than the one before, down to one without a dot (`areSuffixes_suffixes`). The keys of a
request are such names, in small letters: they come from the runs without separators of an authority that stands at the
start of the request, behind two slashes or behind a scheme (`mem_keys`).
-/

namespace TrackerAudit

open Text

namespace Host

variable {host parent : Text} {ts : List Text}

/-! ### The walk -/

/-- From a host the walk goes on to its parent, if it has one. -/
inductive Walk : Text → List Text → Prop
  | last {host : Text} : parent? host = none → Walk host [host]
  | next {host parent : Text} {rest : List Text} : parent? host = some parent → Walk parent rest → Walk host (host :: rest)

theorem length_parent (h : parent? host = some parent) : parent.length < host.length := by
  obtain ⟨-, label, -, rfl⟩ := parent?_eq_some.1 h
  rw [List.length_append, List.length_cons]
  omega

/-- A host without a parent has no dot, unless it ends with one. -/
theorem dot_not_mem_of_parent? (h : parent? host = none) (hlast : ∀ c ∈ host.getLast?, (c == '.') = false) : '.' ∉ host := by
  intro hdot
  obtain ⟨label, rest, rfl, hlabel⟩ := List.eq_append_cons_of_mem hdot
  have hne : rest ≠ [] := by
    rintro rfl
    simp at hlast
  rw [parent?_eq_some.2 ⟨hne, label, hlabel, rfl⟩] at h
  cases h

/-- The walk from every host comes to an end. -/
theorem walk_parents (host : Text) : Walk host (host :: parents host) := by
  obtain ⟨n, hn⟩ : ∃ n, host.length = n := ⟨_, rfl⟩
  induction n using Nat.strong_induction_on generalizing host with
  | _ n ih =>
  rw [parents_eq]
  cases h : parent? host with
  | none => exact .last h
  | some parent => exact .next h (ih _ (hn ▸ length_parent h) parent rfl)

namespace Walk

theorem length_le (h : Walk host ts) : ∀ t ∈ ts, t.length ≤ host.length := by
  induction h with
  | last _ => simp
  | next hparent _ ih =>
    intro t ht
    rcases List.mem_cons.1 ht with rfl | ht
    · exact le_rfl
    · exact (ih t ht).trans (length_parent hparent).le

theorem descending (h : Walk host ts) : ts.Pairwise fun s t => t.length < s.length := by
  induction h with
  | last _ => exact List.pairwise_singleton _ _
  | next hparent hrest ih =>
    refine List.pairwise_cons.2 ⟨fun t ht => ?_, ih⟩
    exact (hrest.length_le t ht).trans_lt (length_parent hparent)

theorem parent?_getLast (h : Walk host ts) : ∀ t ∈ ts.getLast?, parent? t = none := by
  induction h with
  | last hnone => simpa using hnone
  | next _ hrest ih =>
    cases hrest with
    | last hnone => simpa using hnone
    | next _ _ => simpa [List.getLast?_cons_cons] using ih

end Walk

/-! ### Suffixes -/

theorem EndsIn.getLast? {t : Text} (h : EndsIn host t) (hne : t ≠ []) : t.getLast? = host.getLast? := by
  rcases h with rfl | ⟨front, rfl⟩
  · rfl
  · rw [List.append_cons, List.getLast?_append_of_ne_nil _ hne]

/-- The names in which a host ends, without its outer dots: those that the walk over its parents passes, from the longest to
one without a dot. -/
structure AreSuffixes (host : Text) (ts : List Text) : Prop where
  walk : trimDots host = [] ∧ ts = [] ∨ Walk (trimDots host) ts
  mem_iff : ∀ t, t ∈ ts ↔ t ≠ [] ∧ EndsIn (trimDots host) t
  descending : ts.Pairwise fun s t => t.length < s.length
  last : ∀ t ∈ ts.getLast?, '.' ∉ t

theorem walk_suffixes (host : Text) : trimDots host = [] ∧ suffixes host = [] ∨ Walk (trimDots host) (suffixes host) := by
  by_cases h : trimDots host = []
  · exact Or.inl ⟨h, by simp [suffixes, h]⟩
  · right
    simp only [suffixes, List.isEmpty_eq_false_iff.2 h, Bool.false_eq_true, if_false]
    exact walk_parents _

theorem areSuffixes_suffixes (host : Text) : AreSuffixes host (suffixes host) := by
  have hmem (t : Text) : t ∈ suffixes host ↔ t ≠ [] ∧ EndsIn (trimDots host) t := mem_suffixes
  rcases walk_suffixes host with ⟨hnil, hsuffixes⟩ | hwalk
  · exact ⟨Or.inl ⟨hnil, hsuffixes⟩, hmem, by simp [hsuffixes], by simp [hsuffixes]⟩
  · refine ⟨Or.inr hwalk, hmem, hwalk.descending, fun t ht => ?_⟩
    obtain ⟨hne, hends⟩ := (hmem t).1 (List.mem_of_mem_getLast? ht)
    refine dot_not_mem_of_parent? (hwalk.parent?_getLast t ht) ?_
    rw [hends.getLast? hne]
    exact getLast?_trimBy _ _

/-! ### Keys -/

/-- What stands before a place where a `||` pattern may start to match: nothing, two slashes or a scheme. -/
def IsLead (lead : Text) : Prop := lead = [] ∨ lead = "//".toList ∨ IsSchemeMark lead

/-- A longest run without separators in an authority that stands where a `||` pattern may start to match. -/
structure AuthorityRun (request : Text) where
  lead : Text
  front : Text
  run : Text
  back : Text
  rest : Text
  split : request = lead ++ (front ++ run ++ back ++ rest)
  isLead : IsLead lead
  authority : ∀ c ∈ front ++ run ++ back, endsAuthority c = false
  authorityEnd : ∀ c ∈ rest.head?, endsAuthority c = true
  isRun : ∀ c ∈ run, isSeparator c = false
  runStart : ∀ c ∈ front.getLast?, isSeparator c = true
  runEnd : ∀ c ∈ back.head?, isSeparator c = true

theorem mem_anchored {request s : Text} : s ∈ anchored request ↔ ∃ lead, IsLead lead ∧ request = lead ++ s := by
  constructor
  · intro h
    unfold anchored at h
    simp only [List.cons_append, List.mem_cons, List.mem_append, Option.mem_toList, cutStart?_eq_some] at h
    rcases h with rfl | rfl | h
    · exact ⟨[], Or.inl rfl, rfl⟩
    · exact ⟨"//".toList, Or.inr (Or.inl rfl), rfl⟩
    · split at h
      · rename_i scheme rest hcut
        split at h
        · rename_i hscheme
          obtain ⟨rfl, -⟩ := cutFirst?_eq_some.1 hcut
          simp only [List.mem_cons, Option.mem_toList, cutStart?_eq_some] at h
          rcases h with rfl | rfl
          · exact ⟨scheme ++ [':'], Or.inr (Or.inr ⟨scheme, [], rfl, hscheme, Or.inl rfl⟩), by simp⟩
          · exact ⟨scheme ++ ':' :: ['/', '/'], Or.inr (Or.inr ⟨scheme, _, rfl, hscheme, Or.inr rfl⟩), by simp⟩
        · cases h
      · cases h
  · rintro ⟨lead, rfl | rfl | hlead, rfl⟩
    · simp [anchored]
    · have hcut : cutStart? "//".toList ("//".toList ++ s) = some s := cutStart?_eq_some.2 rfl
      simp only [anchored, hcut]
      simp
    · exact mem_anchored_of_isSchemeMark hlead

/-- The authority at the start of a text, and what follows it. -/
theorem exists_authority (s : Text) : ∃ rest, s = before endsAuthority s ++ rest ∧
    (∀ c ∈ before endsAuthority s, endsAuthority c = false) ∧ ∀ c ∈ rest.head?, endsAuthority c = true := by
  refine ⟨startingAt endsAuthority s, (before_append_startingAt _ s).symm, ?_, ?_⟩
  · intro c hc
    simpa using List.mem_takeWhile_imp hc
  · intro c hc
    have hnot := List.head?_dropWhile_not (!endsAuthority ·) s
    rw [startingAt] at hc
    rw [Option.mem_def.1 hc] at hnot
    simpa using hnot

theorem before_authority {a rest : Text} (ha : ∀ c ∈ a, endsAuthority c = false)
    (hrest : ∀ c ∈ rest.head?, endsAuthority c = true) : before endsAuthority (a ++ rest) = a := by
  rw [before_append ha]
  cases rest with
  | nil => simp [before]
  | cons c rest =>
    have hc := hrest c rfl
    simp [before, hc]

/-- A key is in small letters a name in which one of the runs ends, without the outer dots of the run. -/
theorem mem_keys {request key : Text} :
    key ∈ keys request ↔ ∃ (r : AuthorityRun request) (t : Text), t ≠ [] ∧ EndsIn (trimDots r.run) t ∧ lower t = key := by
  have hkey (run : Text) :
      key ∈ suffixes (lower run) ↔ ∃ t, (t ≠ [] ∧ EndsIn (trimDots run) t) ∧ lower t = key := by
    rw [suffixes_lower, List.mem_map]
    exact exists_congr fun t => and_congr_left fun _ => mem_suffixes
  rw [keys, List.mem_eraseDups]
  simp only [List.mem_flatMap, authorityRuns, List.mem_map]
  constructor
  · rintro ⟨_, ⟨s, hs, run, hrun, rfl⟩, h⟩
    obtain ⟨lead, hlead, rfl⟩ := mem_anchored.1 hs
    obtain ⟨rest, hsplit, hauthority, hrest⟩ := exists_authority s
    obtain ⟨front, back, hfront, hisRun, hstart, hend⟩ := exists_of_mem_splitOnP hrun
    obtain ⟨t, ⟨hne, hends⟩, ht⟩ := (hkey run).1 h
    rw [hfront] at hsplit hauthority
    exact ⟨⟨lead, front, run, back, rest, by rw [← hsplit], hlead, hauthority, hrest, hisRun, hstart, hend⟩, t, hne, hends,
      ht⟩
  · rintro ⟨r, t, hne, hends, ht⟩
    refine ⟨lower r.run, ⟨_, mem_anchored.2 ⟨r.lead, r.isLead, r.split⟩, r.run, ?_, rfl⟩, (hkey r.run).2 ?_⟩
    · rw [before_authority r.authority r.authorityEnd]
      exact mem_splitOnP r.isRun r.runStart r.runEnd
    · exact ⟨t, ⟨hne, hends⟩, ht⟩

/-- The keys of a request: each once, none of them empty, and in small letters the names in which the runs end. -/
structure AreKeys (request : Text) (ks : List Text) : Prop where
  nodup : ks.Nodup
  ne_nil : ∀ key ∈ ks, key ≠ []
  mem_iff : ∀ key, key ∈ ks ↔
    ∃ (r : AuthorityRun request) (t : Text), t ≠ [] ∧ EndsIn (trimDots r.run) t ∧ lower t = key

private theorem nodup_eraseDups (ts : List Text) : ts.eraseDups.Nodup := by
  induction hn : ts.length using Nat.strong_induction_on generalizing ts with
  | _ n ih =>
  cases ts with
  | nil => simp
  | cons t ts =>
    rw [List.eraseDups_cons, List.nodup_cons]
    refine ⟨by simp [List.mem_eraseDups], ih _ ?_ _ rfl⟩
    rw [← hn, List.length_cons]
    exact Nat.lt_succ_of_le (List.length_filter_le _ _)

theorem areKeys_keys (request : Text) : AreKeys request (keys request) := by
  refine ⟨nodup_eraseDups _, fun key hkey => ?_, fun key => mem_keys⟩
  obtain ⟨r, t, hne, -, rfl⟩ := mem_keys.1 hkey
  simpa [lower] using hne

/-- The walk over the parents of a host ends and passes, from the longest to one without a dot, the names in which the host
ends. The keys of a request are such names of the runs in its authorities, in small letters, each once. -/
theorem suffixes_and_keys (host request : Text) : AreSuffixes host (suffixes host) ∧ AreKeys request (keys request) :=
  ⟨areSuffixes_suffixes host, areKeys_keys request⟩

end Host

end TrackerAudit
