import TrackerAudit.Proofs.Classify.Pool
import TrackerAudit.Proofs.Evidence.Directory
import TrackerAudit.Proofs.Text.Keyed

/-!
# Handing out websites and joining the results

Websites are handed to a pool one after another, while the pool is already at work, and then the results are awaited in
the order in which the websites were handed in. No event changes what the websites come to, and what has been joined is
always a beginning of that (`FanOut.IsOnWay`). Every website takes four events (`FanOut.Step.eventsLeft`), and as long as a
result is awaited something can happen (`FanOut.isJoined_or_exists_step`). So every run ends, and whichever events
happened on the way, it ends with the results of a sequential classification (`Classifier.isSequential_of_run`).
-/

namespace TrackerAudit

/-- Websites on their way through a pool. -/
structure FanOut where
  /-- the websites that are not handed in yet -/
  pending : List Evidence
  pool : Pool Evidence ClassifiedWebsite
  /-- the number of jobs whose results were joined -/
  awaited : Nat
  joined : Keyed ClassifiedWebsite

namespace FanOut

/-- Nothing has happened yet. -/
def ofSites (sites : List Evidence) : FanOut := ⟨sites, [], 0, .empty⟩

/-- What can happen next: the next website is handed in, something happens in the pool, or the result that is awaited is
there and is joined. Results are awaited when all websites are handed in. -/
inductive Step (workers : Nat) (c : Classifier) : FanOut → FanOut → Prop
  | handIn (site : Evidence) (pending : List Evidence) (pool : Pool Evidence ClassifiedWebsite) (awaited : Nat)
      (joined : Keyed ClassifiedWebsite) :
    Step workers c ⟨site :: pending, pool, awaited, joined⟩ ⟨pending, pool ++ [.waiting site], awaited, joined⟩
  | work (pending : List Evidence) {pool pool' : Pool Evidence ClassifiedWebsite} (awaited : Nat)
      (joined : Keyed ClassifiedWebsite) (h : Pool.Step workers c.classify pool pool') :
    Step workers c ⟨pending, pool, awaited, joined⟩ ⟨pending, pool', awaited, joined⟩
  | join {pool : Pool Evidence ClassifiedWebsite} {awaited : Nat} (joined : Keyed ClassifiedWebsite)
      {w : ClassifiedWebsite} (h : pool[awaited]? = some (.finished w)) :
    Step workers c ⟨[], pool, awaited, joined⟩ ⟨[], pool, awaited + 1, joined.insert w.website w⟩

/-- All websites were handed in, and all results joined. -/
def IsJoined (s : FanOut) : Prop := s.pending = [] ∧ s.awaited = s.pool.length

/-- The joined results, in the order of the names of the websites. -/
def returned (s : FanOut) : List ClassifiedWebsite := s.joined.values

variable {workers : Nat} {c : Classifier} {sites : List Evidence} {s t : FanOut}

/-! ### Every run ends -/

/-- The number of events until all results are joined. -/
def eventsLeft (s : FanOut) : Nat := 4 * s.pending.length + s.pool.eventsLeft + (s.pool.length - s.awaited)

theorem Step.eventsLeft (h : Step workers c s t) : t.eventsLeft < s.eventsLeft := by
  cases h with
  | handIn site pending pool awaited joined =>
    have hjob : Pool.eventsLeft [Job.waiting site (β := ClassifiedWebsite)] = 2 := rfl
    simp only [FanOut.eventsLeft, Pool.eventsLeft_append, hjob, List.length_append, List.length_cons, List.length_nil]
    omega
  | work pending awaited joined h =>
    have := h.eventsLeft
    simp only [FanOut.eventsLeft, h.length_eq]
    omega
  | @join pool awaited joined w h =>
    have hlt : awaited < pool.length := (List.getElem?_eq_some_iff.1 h).1
    simp only [FanOut.eventsLeft]
    omega

theorem wellFounded_step (workers : Nat) (c : Classifier) : WellFounded fun t s => Step workers c s t :=
  Subrelation.wf Step.eventsLeft (measure FanOut.eventsLeft).wf

/-! ### What every run keeps -/

/-- What the websites come to is not changed, and what has been joined are the first results of it. -/
structure IsOnWay (c : Classifier) (sites : List Evidence) (s : FanOut) : Prop where
  outcomes : s.pool.map (Job.outcome c.classify) ++ s.pending.map c.classify = sites.map c.classify
  awaited_le : s.awaited ≤ s.pool.length
  joined : s.joined = byWebsite ((sites.map c.classify).take s.awaited)

theorem isOnWay_ofSites (c : Classifier) (sites : List Evidence) : (ofSites sites).IsOnWay c sites where
  outcomes := rfl
  awaited_le := Nat.le_refl 0
  joined := rfl

theorem byWebsite_concat (results : List ClassifiedWebsite) (w : ClassifiedWebsite) :
    byWebsite (results ++ [w]) = (byWebsite results).insert w.website w := by
  rw [byWebsite, List.map_append]
  exact Keyed.ofList_concat _ _

theorem IsOnWay.step (hs : s.IsOnWay c sites) (h : Step workers c s t) : t.IsOnWay c sites := by
  obtain ⟨houtcomes, hawaited, hjoined⟩ := hs
  cases h with
  | handIn site pending pool awaited joined =>
    refine ⟨?_, Nat.le_trans hawaited (by simp), hjoined⟩
    simpa [Job.outcome] using houtcomes
  | work pending awaited joined h =>
    refine ⟨?_, h.length_eq ▸ hawaited, hjoined⟩
    rw [h.outcomes]
    exact houtcomes
  | @join pool awaited joined w h =>
    -- the result that is joined is the next one of the sequential classification
    have hnext : (sites.map c.classify)[awaited]? = some w := by
      rw [← houtcomes, List.map_nil, List.append_nil, List.getElem?_map, h]
      rfl
    refine ⟨houtcomes, (List.getElem?_eq_some_iff.1 h).1, ?_⟩
    dsimp only at hjoined ⊢
    rw [List.take_add_one, hnext, Option.toList_some, byWebsite_concat, hjoined]

theorem isOnWay_of_run (h : Relation.ReflTransGen (Step workers c) (ofSites sites) s) : s.IsOnWay c sites := by
  induction h with
  | refl => exact isOnWay_ofSites c sites
  | tail _ hstep ih => exact ih.step hstep

/-- As long as a result is awaited, something can happen. -/
theorem IsOnWay.isJoined_or_exists_step (hs : s.IsOnWay c sites) (workers : Nat) :
    s.IsJoined ∨ ∃ t, Step workers c s t := by
  obtain ⟨pending, pool, awaited, joined⟩ := s
  cases pending with
  | cons site pending => exact Or.inr ⟨_, .handIn site pending pool awaited joined⟩
  | nil =>
    rcases Nat.eq_or_lt_of_le hs.awaited_le with hall | hlt
    · exact Or.inl ⟨rfl, hall⟩
    · refine Or.inr ?_
      rcases Pool.isDone_or_exists_step workers c.classify pool with hdone | ⟨pool', h⟩
      · -- the job that is awaited is finished, since all are
        have hjob := hdone _ (List.getElem_mem hlt)
        obtain ⟨w, hw⟩ := Option.isSome_iff_exists.1 hjob
        have hfinished : pool[awaited]? = some (.finished w) := by
          rw [List.getElem?_eq_getElem hlt]
          cases hnext : pool[awaited] with
          | waiting a => rw [hnext] at hw; cases hw
          | running a => rw [hnext] at hw; cases hw
          | finished b => rw [hnext] at hw; cases hw; rfl
        exact ⟨_, .join joined hfinished⟩
      · exact ⟨_, .work [] awaited joined h⟩

/-- Every way goes on to the end. -/
theorem IsOnWay.exists_isJoined (hs : s.IsOnWay c sites) (workers : Nat) :
    ∃ t, Relation.ReflTransGen (Step workers c) s t ∧ t.IsJoined := by
  induction s using (wellFounded_step workers c).induction with
  | _ s ih =>
    rcases hs.isJoined_or_exists_step workers with hjoined | ⟨t, hstep⟩
    · exact ⟨s, .refl, hjoined⟩
    · obtain ⟨u, hrun, hjoined⟩ := ih t hstep (hs.step hstep)
      exact ⟨u, .head hstep hrun, hjoined⟩

/-- When all results are joined, they are those of the websites in their order. -/
theorem IsOnWay.returned (hs : s.IsOnWay c sites) (h : s.IsJoined) :
    s.returned = (byWebsite (sites.map c.classify)).values := by
  obtain ⟨houtcomes, -, hjoined⟩ := hs
  obtain ⟨hpending, hawaited⟩ := h
  have hlength : s.awaited = (sites.map c.classify).length := by
    rw [← houtcomes, hpending, List.map_nil, List.append_nil, List.length_map, hawaited]
  rw [FanOut.returned, hjoined, hlength, List.take_length]

end FanOut

/-! ### Results by the names of the websites -/

theorem mem_values_byWebsite {results : List ClassifiedWebsite} {w : ClassifiedWebsite} :
    w ∈ (byWebsite results).values ↔
      ∃ before after, results = before ++ w :: after ∧ ∀ later ∈ after, later.website ≠ w.website := by
  have hentry : w ∈ (byWebsite results).values ↔ (byWebsite results).get? w.website = some w := by
    rw [Keyed.values, List.mem_map, ← Keyed.mem_entries]
    constructor
    · rintro ⟨e, he, rfl⟩
      -- an entry is filed under the name of its website
      obtain ⟨w', -, rfl⟩ := List.mem_map.1 (Keyed.mem_of_mem_ofList he)
      exact he
    · exact fun he => ⟨_, he, rfl⟩
  rw [hentry, byWebsite, Keyed.get?_ofList_eq_some]
  constructor
  · rintro ⟨before, after, heq, hafter⟩
    obtain ⟨before, rest, rfl, -, hrest⟩ := List.map_eq_append_iff.1 heq
    obtain ⟨w', after, rfl, hw, rfl⟩ := List.map_eq_cons_iff.1 hrest
    obtain rfl : w' = w := congrArg Prod.snd hw
    exact ⟨before, after, rfl, fun later hlater => hafter _ (List.mem_map_of_mem hlater)⟩
  · rintro ⟨before, after, rfl, hafter⟩
    refine ⟨_, _, by rw [List.map_append, List.map_cons], fun e he => ?_⟩
    obtain ⟨later, hlater, rfl⟩ := List.mem_map.1 he
    exact hafter later hlater

theorem pairwise_values_byWebsite (results : List ClassifiedWebsite) :
    (byWebsite results).values.Pairwise fun a b => a.website < b.website := by
  refine List.pairwise_map.2 ((byWebsite results).ordered.imp_of_mem fun {e e'} he he' hlt => ?_)
  obtain ⟨w, -, rfl⟩ := List.mem_map.1 (Keyed.mem_of_mem_ofList he)
  obtain ⟨w', -, rfl⟩ := List.mem_map.1 (Keyed.mem_of_mem_ofList he')
  exact hlt

/-- Results that are in the order of the names of their websites stay as they are. -/
theorem values_byWebsite_of_pairwise {results : List ClassifiedWebsite}
    (h : results.Pairwise fun a b => a.website < b.website) : (byWebsite results).values = results := by
  have hordered : Ordered (results.map fun w => (w.website, w)) := List.pairwise_map.2 h
  have hmap : byWebsite results = ⟨_, hordered⟩ := Keyed.ofList_entries ⟨_, hordered⟩
  rw [hmap, Keyed.values, List.map_map]
  exact List.map_id _

/-- The results are in the order of the bytes of the names, and they are those of the last website of each name. -/
structure Classifier.IsSequential (c : Classifier) (sites : List Evidence) (results : List ClassifiedWebsite) : Prop where
  inOrder : results.Pairwise fun a b => Text.bytes a.website < Text.bytes b.website
  mem (w : ClassifiedWebsite) : w ∈ results ↔ ∃ before site after, sites = before ++ site :: after ∧
    (∀ later ∈ after, later.website ≠ site.website) ∧ w = c.classify site

theorem Classifier.isSequential_byWebsite (c : Classifier) (sites : List Evidence) :
    c.IsSequential sites (byWebsite (sites.map c.classify)).values where
  inOrder := (pairwise_values_byWebsite _).imp Text.bytes_lt_bytes_iff.2
  mem w := by
    rw [mem_values_byWebsite]
    constructor
    · rintro ⟨before, after, heq, hafter⟩
      obtain ⟨before, rest, rfl, -, hrest⟩ := List.map_eq_append_iff.1 heq
      obtain ⟨site, after, rfl, rfl, rfl⟩ := List.map_eq_cons_iff.1 hrest
      exact ⟨before, site, after, rfl, fun later hlater => hafter _ (List.mem_map_of_mem hlater), rfl⟩
    · rintro ⟨before, site, after, rfl, hafter, rfl⟩
      refine ⟨_, _, by rw [List.map_append, List.map_cons], fun w hw => ?_⟩
      obtain ⟨later, hlater, rfl⟩ := List.mem_map.1 hw
      exact hafter later hlater

/-! ### The sequential classification -/

/-- However websites go through a pool, the run comes to an end, since there are no endless runs and since something can
happen as long as a result is awaited. At the end, the results are those of the last website of each name, classified one
after the other, and for the websites of a corpus they are those of all websites in their order. -/
theorem Classifier.isSequential_of_run (c : Classifier) (workers : Nat) (sites : List Evidence) :
    (WellFounded fun t s => FanOut.Step workers c s t) ∧
      ∀ s, Relation.ReflTransGen (FanOut.Step workers c) (.ofSites sites) s →
        (s.IsJoined ∨ ∃ t, FanOut.Step workers c s t) ∧
          (s.IsJoined → s.returned = c.classifyAll workers sites ∧ c.IsSequential sites s.returned ∧
            ∀ (w : World) (dir : Path) (corpus : Corpus),
              ((Corpus.load (m := WorldM) dir).run w).1 = .ok corpus → corpus.websites = sites →
              s.returned = sites.map c.classify) := by
  refine ⟨FanOut.wellFounded_step workers c, fun s hrun => ?_⟩
  have hs := FanOut.isOnWay_of_run hrun
  refine ⟨hs.isJoined_or_exists_step workers, fun hjoined => ?_⟩
  have hreturned := hs.returned hjoined
  refine ⟨?_, hreturned ▸ c.isSequential_byWebsite sites, ?_⟩
  · rw [hreturned, classifyAll_eq]
  · rintro w dir corpus hload rfl
    rw [hreturned]
    exact values_byWebsite_of_pairwise (List.pairwise_map.2 (Corpus.pairwise_websites_of_load hload))

/-! Two websites of one name, of which the second is finished first; and a directory with one website. -/

private def firstShop : Evidence := { website := "shop".toList }

private def secondShop : Evidence := { website := "shop".toList, cookieHosts := { thirdParty := ["ads.io".toList] } }

private def noRules : Classifier := ⟨.read [] [] [], {}⟩

private theorem run_shops : Relation.ReflTransGen (FanOut.Step 2 noRules) (.ofSites [firstShop, secondShop])
    ⟨[], [.finished (noRules.classify firstShop), .finished (noRules.classify secondShop)], 2,
      (Keyed.empty.insert "shop".toList (noRules.classify firstShop)).insert "shop".toList (noRules.classify secondShop)⟩ := by
  refine .head (.handIn firstShop _ [] 0 .empty) (.head (.work _ 0 .empty (.start [] [] firstShop rfl)) ?_)
  refine .head (.handIn secondShop [] [.running firstShop] 0 .empty)
    (.head (.work [] 0 .empty (.start [.running firstShop] [] secondShop rfl)) ?_)
  refine .head (.work [] 0 .empty (.finish [.running firstShop] [] secondShop))
    (.head (.work [] 0 .empty (.finish [] _ firstShop)) ?_)
  exact .head (.join .empty rfl) (.head (.join _ rfl) .refl)

private def shopTree : FileTree :=
  FileTree.empty.putDeep ["ev".toList, "shop".toList, "inspection.json".toList] (.file
    "\x7b\"cookies\": [], \"beacons\": [], \"hosts\": \x7b\"cookies\": \x7b\x7d, \"beacons\": \x7b\x7d\x7d\x7d".toList)

theorem Classifier.isSequential_of_run_shops :
    (∃ s, Relation.ReflTransGen (FanOut.Step 2 noRules) (.ofSites [firstShop, secondShop]) s ∧ s.IsJoined ∧
      noRules.classify secondShop ∈ s.returned) ∧
      ∃ corpus s, ((Corpus.load (m := WorldM) "ev".toList).run ⟨shopTree, []⟩).1 = .ok corpus ∧
        Relation.ReflTransGen (FanOut.Step 2 noRules) (.ofSites corpus.websites) s ∧ s.IsJoined ∧
        s.returned = corpus.websites.map noRules.classify := by
  constructor
  · have hjoined := ((Classifier.isSequential_of_run noRules 2 _).2 _ run_shops).2 ⟨rfl, rfl⟩
    exact ⟨_, run_shops, ⟨rfl, rfl⟩, (hjoined.2.1.mem _).2 ⟨[firstShop], secondShop, [], rfl, by simp, rfl⟩⟩
  · have hdir : shopTree.isDirectory "ev".toList = true := by decide +kernel
    obtain ⟨place, hp, hplace⟩ := FileTree.isDirectory_iff.1 hdir
    obtain ⟨names, -, hload⟩ := Corpus.run_load (w := ⟨shopTree, []⟩) hp hplace
    have hcorpus := congrArg Prod.fst hload
    obtain ⟨s, hrun, hs⟩ := (FanOut.isOnWay_ofSites noRules
      (Corpus.ofEach names (Corpus.evidenceIn shopTree "ev".toList place)).websites).exists_isJoined 2
    have hjoined := ((Classifier.isSequential_of_run noRules 2 _).2 s hrun).2 hs
    exact ⟨_, s, hcorpus, hrun, hs, hjoined.2.2 ⟨shopTree, []⟩ _ _ hcorpus rfl⟩

end TrackerAudit
