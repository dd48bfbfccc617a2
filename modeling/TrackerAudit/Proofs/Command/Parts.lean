import TrackerAudit.Proofs.Classify.Pool
import TrackerAudit.Proofs.Command.Steps
import TrackerAudit.Proofs.Json.Lossless

/-!
# A run and its parts

A run hands the results of its classification to the score, and the score alone reads them from the files where the
classification left them. The files are read back as they were written, nothing written later touches them, and what
else the score reads is either untouched by the classification or read after it in a run as well. So a run does what
its two parts do one after another (`Command.exec_run`).
-/

namespace TrackerAudit

open Steps

variable {w w' : World}

/-! ### Result files -/

namespace ResultFile

/-- The files that a classification writes. -/
def ofClassification : List ResultFile := [cookies, cookieHosts, beacons, beaconHosts, summary]

theorem name_injective {f g : ResultFile} (h : f.name = g.name) : f = g := by
  cases f <;> cases g <;> first | rfl | exact absurd h (by decide)

theorem getLast?_of_resolve {t : FileTree} {output : Path} {f : ResultFile} {place : Place}
    (h : t.resolve (f.path output) = .ok place) : place.getLast? = some f.name := by
  refine FileTree.getLast?_of_resolve_join ?_ ?_ ?_ h
  · cases f <;> decide
  · cases f <;> decide
  · cases f <;> decide

/-- Different files of one directory are at different places. -/
theorem eq_of_resolve {t : FileTree} {output : Path} {f g : ResultFile} {place : Place}
    (hf : t.resolve (f.path output) = .ok place) (hg : t.resolve (g.path output) = .ok place) : f = g := by
  have hname := getLast?_of_resolve hf
  rw [getLast?_of_resolve hg] at hname
  exact name_injective (Option.some.inj hname).symm

/-- A file that was read stays as it was when only other files of the directory were written. -/
theorem readText_of_grows {t t' : FileTree} {output : Path} {f : ResultFile} {files : List ResultFile} {content : Text}
    (h : t.readText (f.path output) = .ok content) (hgrows : t.Grows t' (files.map (·.path output))) (hf : f ∉ files) :
    t'.readText (f.path output) = .ok content := by
  refine hgrows.readText h ?_
  intro q hq place hplace heq
  obtain ⟨g, hg, rfl⟩ := List.mem_map.1 hq
  exact hf (eq_of_resolve heq hplace ▸ hg)

end ResultFile

/-! ### Classification -/

/-- What a classification that came to its end has done: which results it got from which corpus, and which files it
left in the output directory. -/
structure Settings.HasClassified (s : Settings) (w w' : World) (r : ResultFiles) : Prop where
  results : ∃ (catalogue : Catalogue) (corpus : Corpus),
    (Corpus.load (m := WorldM) s.evidence).run w = (.ok corpus, w) ∧
      r = .ofWebsites ((Classifier.mk catalogue s.classifier).classifyAll s.workerCount corpus.websites)
  cookies : w'.tree.readText (ResultFile.cookies.path s.output) = .ok r.cookiesJson.pretty
  beacons : w'.tree.readText (ResultFile.beacons.path s.output) = .ok r.beaconsJson.pretty
  grows : w.tree.Grows w'.tree (ResultFile.ofClassification.map (·.path s.output))

/-- A classification comes to the same for any number of workers. -/
theorem Settings.classify_workers {m : Type → Type} [Monad m] [Files m] (s : Settings) (workers : Option Nat) :
    ({ s with workers } : Settings).classify (m := m) = s.classify := by
  simp only [classify, Classifier.classifyAll_eq]
  rfl

theorem isReading_loadCatalogue (paths : ListPaths) : IsReading (loadCatalogue paths) := by
  have hlist (p : Path) : IsReading (readList p) := isReading_attempt (WorldM.isReading_readText p) _
  exact isReading_bind (hlist _) fun _ => isReading_bind (hlist _) fun _ => isReading_bind (hlist _) fun _ =>
    isReading_pure _

theorem ResultFiles.write_eq_ok {output : Path} {r : ResultFiles} (h : (r.write output).exec w = (.ok (), w')) :
    w'.tree.readText (ResultFile.cookies.path output) = .ok r.cookiesJson.pretty ∧
    w'.tree.readText (ResultFile.beacons.path output) = .ok r.beaconsJson.pretty ∧
    w.tree.Grows w'.tree ([ResultFile.cookies, .cookieHosts, .beacons, .beaconHosts].map (·.path output)) := by
  obtain ⟨⟨⟩, w₁, hcookies, h⟩ := exec_bind_eq_ok.1 h
  obtain ⟨⟨⟩, w₂, hcookieHosts, h⟩ := exec_bind_eq_ok.1 h
  obtain ⟨⟨⟩, w₃, hbeacons, hbeaconHosts⟩ := exec_bind_eq_ok.1 h
  obtain ⟨hgrows₁, hcookies⟩ := writeJson_eq_ok hcookies
  obtain ⟨hgrows₂, -⟩ := writeJson_eq_ok hcookieHosts
  obtain ⟨hgrows₃, hbeacons⟩ := writeJson_eq_ok hbeacons
  obtain ⟨hgrows₄, -⟩ := writeJson_eq_ok hbeaconHosts
  have hlater : w₁.tree.Grows w'.tree ([ResultFile.cookieHosts, .beacons, .beaconHosts].map (·.path output)) :=
    hgrows₂.trans (hgrows₃.trans hgrows₄)
  have hlast : w₃.tree.Grows w'.tree ([ResultFile.beaconHosts].map (·.path output)) := hgrows₄
  exact ⟨ResultFile.readText_of_grows hcookies hlater (by decide),
    ResultFile.readText_of_grows hbeacons hlast (by decide), hgrows₁.trans hlater⟩

theorem Settings.classify_eq_ok {s : Settings} {practical : PracticalResults}
    (h : s.classify.exec w = (.ok practical, w')) : ∃ r, practical = r.practical ∧ s.HasClassified w w' r := by
  simp only [classify, exec_bind_eq_ok] at h
  obtain ⟨catalogue, w₁, hcatalogue, corpus, w₂, hcorpus, ⟨⟩, w₃, hexcluded, ⟨⟩, w₄, hwrite, ⟨⟩, w₅, hwrote, ⟨⟩, w₆,
    hsummary, ⟨⟩, w₇, hlisting, h⟩ := h
  cases h
  obtain rfl : w₁ = w := (isReading_loadCatalogue s.lists).eq_of_exec hcatalogue
  obtain rfl : w₂ = w₁ := (isReading_attempt (WorldM.isReading_loadCorpus s.evidence) _).eq_of_exec hcorpus
  obtain ⟨hcookies, hbeacons, hgrows⟩ := ResultFiles.write_eq_ok hwrite
  obtain ⟨hgrowsSummary, -⟩ := writeJson_eq_ok hsummary
  rw [tree_of_printLines hexcluded] at hgrows
  rw [tree_of_printLines hwrote, ← tree_of_printLines hlisting] at hgrowsSummary
  have hsummaryOnly : w₄.tree.Grows w'.tree ([ResultFile.summary].map (·.path s.output)) := hgrowsSummary
  exact ⟨_, rfl, {
    results := ⟨catalogue, corpus, attempt_eq_ok.1 hcorpus, rfl⟩
    cookies := ResultFile.readText_of_grows hcookies hsummaryOnly (by decide)
    beacons := ResultFile.readText_of_grows hbeacons hsummaryOnly (by decide)
    grows := hgrows.trans hsummaryOnly }⟩

/-- The numbers of all cookies of the evidence that a classification with the settings would read survive writing and
reading. -/
def Settings.KeepsTimes (s : Settings) (w : World) : Prop :=
  ∀ corpus, (Corpus.load (m := WorldM) s.evidence).run w = (.ok corpus, w) → ∀ site ∈ corpus.websites,
    ∀ c ∈ site.cookies, (JsonNumber.float c.expires).IsKept ∧ ∀ d ∈ c.expiresDays, (JsonNumber.float d).IsKept

namespace Settings.HasClassified

variable {s : Settings} {r : ResultFiles}

theorem keepsNumbers (h : s.HasClassified w w' r) (htimes : s.KeepsTimes w) : r.cookiesJson.KeepsNumbers := by
  obtain ⟨catalogue, corpus, hcorpus, rfl⟩ := h.results
  rw [ResultFiles.keepsNumbers_cookiesJson]
  intro cookies hcookies c hc
  -- the cookies are those of one website of the corpus, with their verdicts
  obtain ⟨e, he, rfl⟩ := Keyed.mem_values_ofList hcookies
  obtain ⟨website, hwebsite, rfl⟩ := List.mem_map.1 he
  rw [Classifier.classifyAll_eq] at hwebsite
  obtain ⟨e', he', rfl⟩ := Keyed.mem_values_ofList hwebsite
  rw [List.map_map] at he'
  obtain ⟨site, hsite, rfl⟩ := List.mem_map.1 he'
  obtain ⟨cookie, hcookie, rfl⟩ := List.mem_map.1 hc
  exact ClassifiedCookie.keepsNumbers_toJson.2 (htimes corpus hcorpus site hsite cookie hcookie)

/-- The score reads what the classification found. -/
theorem readPractical (h : s.HasClassified w w' r) (htimes : s.KeepsTimes w) :
    (ResultFiles.readPractical s.output).exec w' = (.ok r.practical, w') := by
  have hcookies := exec_readJson h.cookies (r.isLossless_cookies.readsAs (h.keepsNumbers htimes))
  have hbeacons := exec_readJson h.beacons (r.isLossless_beacons.readsAs r.keepsNumbers_beaconsJson)
  rw [ResultFiles.readPractical, exec_bind, hcookies]
  dsimp only
  rw [exec_bind, hbeacons]
  rfl

end Settings.HasClassified

/-! ### Settings -/

/-- A classification with the settings that the command line gives does not write to the file of the settings. -/
def Overrides.ConfigStays (o : Overrides) (w : World) : Prop :=
  ∀ path ∈ o.config, ∀ s practical w', o.settings.exec w = (.ok s, w) → s.classify.exec w = (.ok practical, w') →
    ∀ f ∈ ResultFile.ofClassification, ∀ place, w'.tree.resolve (f.path s.output) = .ok place →
      w'.tree.resolve path ≠ .ok place

theorem Overrides.isReading_settings (o : Overrides) : IsReading o.settings := by
  unfold settings
  split
  · exact isReading_pure _
  · exact isReading_bind (isReading_attempt (WorldM.isReading_readText _) _) fun text =>
      isReading_bind (isReading_expect _ _) fun s => isReading_pure _

/-- The settings are the same as before a classification. -/
theorem Overrides.settings_eq_ok {o : Overrides} {s : Settings} {practical : PracticalResults}
    (hsettings : o.settings.exec w = (.ok s, w)) (hclassify : s.classify.exec w = (.ok practical, w'))
    (hconfig : o.ConfigStays w) : o.settings.exec w' = (.ok s, w') := by
  have hstays (path : Path) (hpath : path ∈ o.config) := hconfig path hpath s practical w' hsettings hclassify
  unfold settings at hsettings ⊢
  cases hpath : o.config with
  | none =>
    rw [hpath] at hsettings
    cases hsettings
    rfl
  | some path =>
    simp only [hpath, exec_bind_eq_ok] at hsettings
    obtain ⟨text, w₁, hread, settings, w₂, hexpect, happly⟩ := hsettings
    have hread : w.tree.readText path = .ok text := congrArg Prod.fst (attempt_eq_ok.1 hread)
    obtain ⟨r, -, hclassified⟩ := Settings.classify_eq_ok hclassify
    have hread' : w'.tree.readText path = .ok text := by
      refine hclassified.grows.readText hread ?_
      intro q hq
      obtain ⟨f, hf, rfl⟩ := List.mem_map.1 hq
      exact hstays path hpath f hf
    -- both times the same text is read
    dsimp only
    rw [exec_bind, exec_readText _ hread']
    dsimp only
    cases hvalue : Settings.read? text with
    | none =>
      rw [hvalue] at hexpect
      cases hexpect
    | some value =>
      rw [hvalue] at hexpect
      cases hexpect
      cases happly
      rfl

/-! ### Runs -/

/-- A run does what a classification and then a score do: it fails or ends as they do, and leaves the same world behind,
with the same files and printed lines. This needs that the file of the settings is none that the classification writes,
and that the times of cookies survive writing and reading. -/
theorem Command.exec_run (o : Overrides) (w : World) (hconfig : o.ConfigStays w)
    (htimes : ∀ s, o.settings.exec w = (.ok s, w) → s.KeepsTimes w) :
    (Command.run ⟨.run, o⟩).exec w = match (Command.run ⟨.classify, o⟩).exec w with
      | (.ok (), w') => (Command.run ⟨.score, o⟩).exec w'
      | (.error e, w') => (.error e, w') := by
  have hsame := o.isReading_settings w
  simp only [Command.run, Settings.perform, exec_bind]
  rcases hsettings : o.settings.exec w with ⟨e | s, w₁⟩
  · rfl
  · rw [hsettings] at hsame
    obtain rfl : w₁ = w := hsame
    dsimp only
    rcases hclassify : s.classify.exec w₁ with ⟨e | practical, w'⟩
    · rfl
    · obtain ⟨r, rfl, hclassified⟩ := Settings.classify_eq_ok hclassify
      have hread := hclassified.readPractical (htimes s hsettings)
      dsimp only
      rw [exec_pure]
      dsimp only
      rw [Overrides.settings_eq_ok hsettings hclassify hconfig]
      dsimp only
      rw [Settings.score, exec_bind, hread]

private def sampleInspection : Json :=
  Json.record [("cookies", .array [Json.record [("name", Json.str "id".toList), ("domain", Json.str "ok.io".toList),
    ("expires", Json.float 1800000000.5)]]), ("beacons", .array []),
    ("hosts", Json.record [("cookies", Json.record []), ("beacons", Json.record [])])]

private def sampleWorld : World where
  tree := FileTree.empty
    |>.putDeep ["cfg.json".toList] (.file "\x7b\"workers\": 2\x7d".toList)
    |>.putDeep ["assets".toList, "easylist.txt".toList] (.file "||ok.io^\n".toList)
    |>.putDeep ["assets".toList, "easyprivacy.txt".toList] (.file [])
    |>.putDeep ["assets".toList, "fanboy-annoyance.txt".toList] (.file [])
    |>.putDeep ["wec-evidences".toList, "ok.io".toList, "inspection.json".toList] (.file sampleInspection.pretty)
    |>.putDeep ["theoretical_analysis.json".toList] (.file (Json.record [("ok.io",
      LegalRecord.toJson ⟨.absent, false, false⟩)]).pretty)

private theorem isKept_sampleTime : (JsonNumber.float 1800000000.5).IsKept :=
  .of_text "1800000000.5".toList (by decide +kernel) rfl

private theorem read?_sampleInspection : Inspection.read? sampleInspection.pretty =
    some ⟨some [⟨"id".toList, "ok.io".toList, 1800000000.5, none, []⟩], some [], some ⟨some {}, some {}⟩⟩ := by
  have hspelled : sampleInspection.IsSpelled := by simp [sampleInspection]
  have hkept : sampleInspection.KeepsNumbers := by simp [sampleInspection, isKept_sampleTime]
  rw [Inspection.read?, hspelled.read?_pretty hkept, Option.bind_some, sampleInspection, Inspection.decode,
    Json.row?_record (by simp) (by simp)]
  rfl

private def sampleEvidence : Evidence where
  website := "ok.io".toList
  cookies := [⟨"id".toList, "ok.io".toList, 1800000000.5, none, []⟩]

private theorem load_sampleWorld :
    (Corpus.load (m := WorldM) "wec-evidences".toList).run sampleWorld = (.ok ⟨[sampleEvidence], []⟩, sampleWorld) := by
  have hnames : sampleWorld.tree.directories "wec-evidences".toList = .ok ["ok.io".toList] := by decide +kernel
  have hevidence : (Evidence.load (m := WorldM) "wec-evidences".toList "ok.io".toList).run sampleWorld =
      (.ok sampleEvidence, sampleWorld) := by
    have hplace : sampleWorld.tree.resolve (recordPath "wec-evidences".toList "ok.io".toList) =
        .ok ["wec-evidences".toList, "ok.io".toList, "inspection.json".toList] := by decide +kernel
    have hnode : sampleWorld.tree.node? ["wec-evidences".toList, "ok.io".toList, "inspection.json".toList] =
        some (.file sampleInspection.pretty) := by decide +kernel
    rw [WorldM.run_loadEvidence hplace, hnode, Evidence.ofNode, read?_sampleInspection]
    rfl
  rw [WorldM.run_loadCorpus hnames, websiteOrder, List.mergeSort_singleton, List.map_singleton, hevidence]
  rfl

private def sampleOverrides : Overrides := { config := some "cfg.json".toList }

private theorem settings_sampleWorld :
    sampleOverrides.settings.exec sampleWorld = (.ok { workers := some 2 }, sampleWorld) := by
  have htext : sampleWorld.tree.readText "cfg.json".toList = .ok "\x7b\"workers\": 2\x7d".toList := by decide +kernel
  have hvalue : Settings.read? "\x7b\"workers\": 2\x7d".toList = some { workers := some 2 } := by decide +kernel
  change Steps.exec (do
    let text ← Steps.attempt (Files.readText (m := WorldM) "cfg.json".toList) _
    let settings ← Steps.expect (Settings.read? text) _
    return sampleOverrides.apply settings) sampleWorld = _
  rw [exec_bind, exec_readText _ htext]
  dsimp only
  rw [hvalue]
  rfl

theorem Command.exec_run_sampleWorld :
    sampleOverrides.ConfigStays sampleWorld ∧
    (∀ s, sampleOverrides.settings.exec sampleWorld = (.ok s, sampleWorld) → s.KeepsTimes sampleWorld) ∧
    (Command.run ⟨.run, sampleOverrides⟩).exec sampleWorld =
      match (Command.run ⟨.classify, sampleOverrides⟩).exec sampleWorld with
      | (.ok (), w') => (Command.run ⟨.score, sampleOverrides⟩).exec w'
      | (.error e, w') => (.error e, w') := by
  have hconfig : sampleOverrides.ConfigStays sampleWorld := by
    -- the name of the file is none of the names of results
    rintro path hpath s practical w' - - f hf place hplace hresolve
    cases hpath
    have hjoin : "cfg.json".toList = Path.join [] "cfg.json".toList := rfl
    rw [hjoin] at hresolve
    have hname := FileTree.getLast?_of_resolve_join (by decide) (by decide) (by decide) hresolve
    rw [ResultFile.getLast?_of_resolve hplace] at hname
    revert hname
    cases f <;> decide
  have htimes : ∀ s, sampleOverrides.settings.exec sampleWorld = (.ok s, sampleWorld) → s.KeepsTimes sampleWorld := by
    intro s hs
    rw [settings_sampleWorld] at hs
    cases hs
    intro corpus hcorpus site hsite c hc
    rw [load_sampleWorld] at hcorpus
    cases hcorpus
    obtain rfl := List.mem_singleton.1 hsite
    obtain rfl := List.mem_singleton.1 hc
    exact ⟨isKept_sampleTime, nofun⟩
  exact ⟨hconfig, htimes, Command.exec_run sampleOverrides sampleWorld hconfig htimes⟩

end TrackerAudit
