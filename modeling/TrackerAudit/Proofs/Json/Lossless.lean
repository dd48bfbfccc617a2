import TrackerAudit.Command.Results
import TrackerAudit.Command.Settings
import TrackerAudit.Compliance.Report
import TrackerAudit.Proofs.Json.Record
import TrackerAudit.Rule.Source
import TrackerAudit.Summary.Corpus

/-!
# Files that are read back

Whatever a run writes is decoded from its JSON value again. Together with the texts of values this says that the
results, the report, the summary and the settings are read back from their files as they were.
-/

namespace TrackerAudit

open Json (IsLossless)

/-! ### Lists -/

theorem SourceList.isLossless (s : SourceList) : IsLossless toJson decode s where
  isSpelled := by simp [toJson]
  decode_toJson := by cases s <;> rfl

/-! ### Evidence -/

theorem PartyHosts.isLossless (h : PartyHosts) : IsLossless toJson decode h where
  isSpelled := by simp [toJson]
  decode_toJson := by
    rw [toJson, decode, Json.row?_record (by simp) (by simp)]
    simp [Json.Row.defaulted]

theorem Cookie.isLossless (c : Cookie) : IsLossless toJson decode c where
  isSpelled := by
    cases h : c.expiresDays <;> simp [toJson, members, h]
  decode_toJson := by
    obtain ⟨name, domain, expires, expiresDays, files⟩ := c
    rw [toJson, decode, Json.row?_record]
    · cases expiresDays <;> simp [members, ofRow, Json.Row.required, Json.Row.defaulted]
    · cases expiresDays <;> simp [members, fields]
    · cases expiresDays <;> simp [members]

theorem ClassifiedCookie.isLossless (c : ClassifiedCookie) (room : Nat) : IsLossless toJson (decode room) c where
  isSpelled := by
    cases h : c.cookie.expiresDays <;> simp [toJson, Cookie.members, h]
  decode_toJson := by
    obtain ⟨⟨name, domain, expires, expiresDays, files⟩, tracking⟩ := c
    rw [toJson, decode, Json.partRow?_record room]
    · cases expiresDays <;>
        simp [Cookie.members, Cookie.ofRow, Json.Row.required, Json.Row.defaulted]
    · cases expiresDays <;> simp [Cookie.members, Cookie.fields]
    · cases expiresDays <;> simp [Cookie.members]

/-- The numbers of a cookie are its times. -/
theorem ClassifiedCookie.keepsNumbers_toJson {c : ClassifiedCookie} :
    c.toJson.KeepsNumbers ↔
      (JsonNumber.float c.cookie.expires).IsKept ∧ ∀ d ∈ c.cookie.expiresDays, (JsonNumber.float d).IsKept := by
  rw [toJson, Json.keepsNumbers_record, Cookie.members]
  cases c.cookie.expiresDays <;> simp [or_imp, forall_and]

theorem Beacon.isLossless (b : Beacon) : IsLossless toJson decode b where
  isSpelled := by simp [toJson, members]
  decode_toJson := by
    rw [toJson, decode, Json.row?_record (by simp [members, fields]) (by simp [members])]
    simp [members, ofRow, Json.Row.required]

theorem ClassifiedBeacon.isLossless (b : ClassifiedBeacon) (room : Nat) : IsLossless toJson (decode room) b where
  isSpelled := by simp [toJson, Beacon.members]
  decode_toJson := by
    rw [toJson, decode, Json.partRow?_record room (by simp [Beacon.members, Beacon.fields]) (by simp [Beacon.members])]
    simp [Beacon.members, Beacon.ofRow, Json.Row.required, Json.Row.defaulted]

/-! ### Compliance -/

theorem LegalClass.decode_name (c : LegalClass) : decode (Json.str c.name) = some c := by
  cases c <;> rfl

theorem LegalRecord.isLossless {r : LegalRecord} (h : ConsentType.ofName r.consent.name = r.consent) :
    IsLossless toJson decode r where
  isSpelled := by simp [toJson]
  decode_toJson := by
    rw [toJson, decode, Json.row?_record (by simp) (by simp)]
    simp [Json.Row.required, ConsentType.decode, h]

theorem Diagnostic.isLossless (d : Diagnostic) : IsLossless toJson decode d where
  isSpelled := by simp [toJson]
  decode_toJson := by
    rw [toJson, decode, Json.row?_record (by simp) (by simp)]
    simp [Json.Row.required]

theorem SetSizes.isLossless (s : SetSizes) : IsLossless toJson decode s where
  isSpelled := by simp [toJson]
  decode_toJson := by
    rw [toJson, decode, Json.row?_record (by simp) (by simp)]
    simp [Json.Row.required]

theorem ComplianceSets.isLossless (s : ComplianceSets) : IsLossless toJson decode s where
  isSpelled := by simp [toJson, members]
  decode_toJson := by
    rw [toJson, decode, Json.row?_record (by simp [members, fields]) (by simp [members])]
    simp [members, ofRow, Json.Row.required]

theorem ComplianceReport.isLossless (r : ComplianceReport) : IsLossless toJson decode r where
  isSpelled := by
    have hdiagnostics := (IsLossless.list fun d (_ : d ∈ r.diagnostics) => d.isLossless).isSpelled
    simp_all [toJson, ComplianceSets.members, r.sizes.isLossless.isSpelled]
  decode_toJson := by
    have hdiagnostics := (IsLossless.list fun d (_ : d ∈ r.diagnostics) => d.isLossless).decode_toJson
    rw [toJson, decode, Json.partRow?_record 126 (by simp [ComplianceSets.members, ComplianceSets.fields])
      (by simp [ComplianceSets.members])]
    simp [ComplianceSets.members, ComplianceSets.ofRow, Json.Row.required, Json.Row.defaulted,
      r.sizes.isLossless.decode_toJson, hdiagnostics]

/-! ### Summary -/

theorem RankedEntry.isLossless (e : RankedEntry) : IsLossless toJson decode e where
  isSpelled := by simp [toJson]
  decode_toJson := by
    rw [toJson, decode, Json.row?_record (by simp) (by simp)]
    simp [Json.Row.required]

theorem WebsiteCounts.isLossless (c : WebsiteCounts) : IsLossless toJson decode c where
  isSpelled := by simp [toJson]
  decode_toJson := by
    rw [toJson, decode, Json.row?_record (by simp) (by simp)]
    simp [Json.Row.required]

theorem CookieUsage.isLossless (u : CookieUsage) : IsLossless toJson decode u where
  isSpelled := by simp [toJson]
  decode_toJson := by
    rw [toJson, decode, Json.row?_record (by simp) (by simp)]
    simp [Json.Row.required]

theorem CountSummary.isLossless (s : CountSummary) : IsLossless toJson decode s where
  isSpelled := by simp [toJson, RankedEntry.toJson]
  decode_toJson := by
    have hmean := Decoder.optional_ofOption fun x (_ : x ∈ s.mean) => ⟨Json.noConfusion, Decoder.float_float x⟩
    have hdeviation := Decoder.optional_ofOption fun x (_ : x ∈ s.deviation) =>
      ⟨Json.noConfusion, Decoder.float_float x⟩
    have hlargest := Decoder.optional_ofOption fun e (_ : e ∈ s.largest) =>
      ⟨Json.noConfusion, (RankedEntry.isLossless e).decode_toJson⟩
    have htop := (IsLossless.list fun e (_ : e ∈ s.top) => e.isLossless).decode_toJson
    rw [toJson, decode, Json.row?_record (by simp) (by simp)]
    simp [Json.Row.required, Json.Row.optional, hmean, hdeviation, hlargest, htop]

theorem CorpusSummary.isLossless (s : CorpusSummary) : IsLossless toJson decode s where
  isSpelled := by
    have hundefined : ∀ m ∈ if s.undefined.isEmpty then [] else [("degenerate", Json.strings s.undefined)],
        m.2.IsSpelled := by
      split <;> simp
    rw [toJson, Json.isSpelled_record, List.forall_mem_append]
    refine ⟨?_, hundefined⟩
    simp [s.usage.isLossless.isSpelled, s.trackingCookies.isLossless.isSpelled, s.beacons.isLossless.isSpelled,
      s.trackingResources.isLossless.isSpelled, WebsiteCounts.toJson, RankedEntry.toJson]
  decode_toJson := by
    obtain ⟨websites, usage, perWebsite, trackingCookies, beacons, trackingResources, cookieDomains, beaconDomains,
      undefined⟩ := s
    have hperWebsite := (IsLossless.list fun c (_ : c ∈ perWebsite) => c.isLossless).decode_toJson
    have hcookieDomains := (IsLossless.list fun e (_ : e ∈ cookieDomains) => e.isLossless).decode_toJson
    have hbeaconDomains := (IsLossless.list fun e (_ : e ∈ beaconDomains) => e.isLossless).decode_toJson
    rw [toJson, decode, Json.row?_record]
    · cases undefined <;>
        simp [Json.Row.required, Json.Row.defaulted, usage.isLossless.decode_toJson, hperWebsite,
          trackingCookies.isLossless.decode_toJson, beacons.isLossless.decode_toJson,
          trackingResources.isLossless.decode_toJson, hcookieDomains, hbeaconDomains]
    · cases undefined <;> simp
    · cases undefined <;> simp

/-! ### Settings -/

theorem ListPaths.isLossless (p : ListPaths) : IsLossless toJson decode p where
  isSpelled := by simp [toJson]
  decode_toJson := by
    rw [toJson, decode, Json.row?_record (by simp) (by simp)]
    simp [Json.Row.defaulted, Path.decode]

theorem ContextMode.decode_name (m : ContextMode) : decode (Json.str m.name) = some m := by
  cases m <;> rfl

theorem ExceptionScope.decode_name (s : ExceptionScope) : decode (Json.str s.name) = some s := by
  cases s <;> rfl

theorem ClassifierOptions.isLossless (o : ClassifierOptions) : IsLossless toJson decode o where
  isSpelled := by simp [toJson]
  decode_toJson := by
    rw [toJson, decode, Json.row?_record (by simp) (by simp)]
    simp [Json.Row.defaulted, ContextMode.decode_name, ExceptionScope.decode_name]

theorem Settings.isLossless (s : Settings) : IsLossless toJson decode s where
  isSpelled := by simp [toJson, s.lists.isLossless.isSpelled, s.classifier.isLossless.isSpelled]
  decode_toJson := by
    have hworkers := Decoder.optional_ofOption fun n (_ : n ∈ s.workers) => ⟨Json.noConfusion, Decoder.nat_nat n⟩
    rw [toJson, decode, Json.row?_record (by simp) (by simp)]
    simp [Json.Row.defaulted, Path.decode, s.lists.isLossless.decode_toJson, s.classifier.isLossless.decode_toJson,
      hworkers]

/-! ### Files -/

namespace ResultFiles

variable (r : ResultFiles)

theorem isLossless_cookies :
    IsLossless (byWebsite fun cs => Json.array (cs.map ClassifiedCookie.toJson)) PracticalResults.decodeCookies
      r.cookies :=
  .keyed fun _ _ => .list fun c _ => c.isLossless 124

theorem isLossless_beacons :
    IsLossless (byWebsite fun bs => Json.array (bs.map ClassifiedBeacon.toJson)) PracticalResults.decodeBeacons
      r.beacons :=
  .keyed fun _ _ => .list fun b _ => b.isLossless 124

theorem keepsNumbers_byWebsite {α : Type} {f : α → Json} {m : Keyed α} :
    (byWebsite f m).KeepsNumbers ↔ ∀ a ∈ m.values, (f a).KeepsNumbers := by
  rw [byWebsite, Json.keepsNumbers_object, List.forall_mem_map, Keyed.values, List.forall_mem_map]

theorem keepsNumbers_cookiesJson :
    r.cookiesJson.KeepsNumbers ↔ ∀ cs ∈ r.cookies.values, ∀ c ∈ cs, c.toJson.KeepsNumbers := by
  simp only [cookiesJson, keepsNumbers_byWebsite, Json.keepsNumbers_array, List.forall_mem_map]

theorem keepsNumbers_beaconsJson : r.beaconsJson.KeepsNumbers := by
  rw [beaconsJson, keepsNumbers_byWebsite]
  simp [ClassifiedBeacon.toJson, Beacon.members]

end ResultFiles

theorem PartyHosts.readsAs_byWebsite (hosts : Keyed PartyHosts) :
    (ResultFiles.byWebsite toJson hosts).ReadsAs (.keyed decode) hosts := by
  refine (IsLossless.keyed fun h _ => h.isLossless).readsAs (ResultFiles.keepsNumbers_byWebsite.2 ?_)
  simp [toJson]

/-- What a run writes is read back from its file: the results by website, the report, the summary, a record of the
legal analysis whose consent mechanism was given by its name, and the settings. Numbers must survive writing and
reading; beacons, hosts and legal records have none. -/
theorem readsAs_written :
    (∀ r : ResultFiles, r.cookiesJson.KeepsNumbers → r.cookiesJson.ReadsAs PracticalResults.decodeCookies r.cookies) ∧
    (∀ r : ResultFiles, r.beaconsJson.ReadsAs PracticalResults.decodeBeacons r.beacons) ∧
    (∀ r : ResultFiles, r.cookieHostsJson.ReadsAs (.keyed PartyHosts.decode) r.cookieHosts) ∧
    (∀ r : ResultFiles, r.beaconHostsJson.ReadsAs (.keyed PartyHosts.decode) r.beaconHosts) ∧
    (∀ (name : Text) (hasCookieWall activeByDefault : Bool),
      let r : LegalRecord := ⟨ConsentType.ofName name, hasCookieWall, activeByDefault⟩
      r.toJson.ReadsAs LegalRecord.decode r) ∧
    (∀ r : ComplianceReport, r.toJson.KeepsNumbers → r.toJson.ReadsAs ComplianceReport.decode r) ∧
    (∀ s : CorpusSummary, s.toJson.KeepsNumbers → s.toJson.ReadsAs CorpusSummary.decode s) ∧
    ∀ s : Settings, s.toJson.KeepsNumbers → s.toJson.ReadsAs Settings.decode s := by
  refine ⟨fun r hr => r.isLossless_cookies.readsAs hr, fun r => r.isLossless_beacons.readsAs r.keepsNumbers_beaconsJson,
    fun r => PartyHosts.readsAs_byWebsite r.cookieHosts, fun r => PartyHosts.readsAs_byWebsite r.beaconHosts, ?_,
    fun r hr => r.isLossless.readsAs hr, fun s hs => s.isLossless.readsAs hs, fun s hs => s.isLossless.readsAs hs⟩
  intro name hasCookieWall activeByDefault
  refine (LegalRecord.isLossless ?_).readsAs (by simp [LegalRecord.toJson])
  rw [ConsentType.name_ofName]

private def sampleResults : ResultFiles where
  cookies := Keyed.ofList [("ok.io".toList, [⟨⟨"id".toList, ".ok.io".toList, 1800000000.5, some 730.0, []⟩, true⟩,
    ⟨⟨"\"s\"".toList, "ok.io".toList, -1.0, none, ["https://ok.io/a.js".toList]⟩, false⟩])]
  cookieHosts := .empty
  beacons := .empty
  beaconHosts := .empty

private def sampleReport : ComplianceReport where
  sets := { a := .ofList ["ok.io".toList, "no.io".toList], ao := .ofList ["ok.io".toList] }
  sizes := ⟨2, 0, 1, 0⟩
  score := 0.5
  diagnostics := [⟨"o\u212a.io".toList, "left out".toList⟩]

private def sampleSummary : CorpusSummary where
  websites := 1
  usage := ⟨1, 1, 1, 1, 0⟩
  perWebsite := [⟨"ok.io".toList, 2, 1, 0, 0, 1, 0, 0, 0, true⟩]
  trackingCookies := ⟨1, some 1.0, none, some ⟨"ok.io".toList, 1⟩, [⟨"ok.io".toList, 1⟩]⟩
  beacons := ⟨0, some 0.0, none, none, [⟨"ok.io".toList, 0⟩]⟩
  trackingResources := ⟨1, some 1.0, none, some ⟨"ok.io".toList, 1⟩, [⟨"ok.io".toList, 1⟩]⟩
  topCookieDomains := []
  topBeaconDomains := []
  undefined := ["beacons".toList]

theorem readsAs_written_sample :
    (sampleResults.cookiesJson.KeepsNumbers ∧
      sampleResults.cookiesJson.ReadsAs PracticalResults.decodeCookies sampleResults.cookies) ∧
    (sampleReport.toJson.KeepsNumbers ∧ sampleReport.toJson.ReadsAs ComplianceReport.decode sampleReport) ∧
    (sampleSummary.toJson.KeepsNumbers ∧ sampleSummary.toJson.ReadsAs CorpusSummary.decode sampleSummary) ∧
    (Settings.toJson { workers := some 4 }).KeepsNumbers ∧
      (Settings.toJson { workers := some 4 }).ReadsAs Settings.decode { workers := some 4 } := by
  have hexpires : (JsonNumber.float 1800000000.5).IsKept :=
    .of_text "1800000000.5".toList (by decide +kernel) rfl
  have hdays : (JsonNumber.float 730.0).IsKept := .of_text "730.0".toList (by decide +kernel) rfl
  have hsession : (JsonNumber.float (-1.0)).IsKept := .of_text "-1.0".toList (by decide +kernel) rfl
  have hhalf : (JsonNumber.float 0.5).IsKept := .of_text "0.5".toList (by decide +kernel) rfl
  have hzero : (JsonNumber.float 0.0).IsKept := .of_text "0.0".toList (by decide +kernel) rfl
  have hone : (JsonNumber.float 1.0).IsKept := .of_text "1.0".toList (by decide +kernel) rfl
  have hresults : sampleResults.cookiesJson.KeepsNumbers := by
    simp [ResultFiles.keepsNumbers_cookiesJson, sampleResults, Keyed.ofList, Keyed.insert, Keyed.empty, Keyed.values,
      Keyed.insertEntry, ClassifiedCookie.keepsNumbers_toJson, hexpires, hdays, hsession]
  have hreport : sampleReport.toJson.KeepsNumbers := by
    simp [sampleReport, ComplianceReport.toJson, ComplianceSets.members, SetSizes.toJson, Diagnostic.toJson, hhalf]
  have hsummary : sampleSummary.toJson.KeepsNumbers := by
    simp [sampleSummary, CorpusSummary.toJson, CookieUsage.toJson, WebsiteCounts.toJson, CountSummary.toJson,
      RankedEntry.toJson, hone, hzero]
  have hsettings : (Settings.toJson { workers := some 4 }).KeepsNumbers := by
    simp [Settings.toJson, ListPaths.toJson, ClassifierOptions.toJson]
  obtain ⟨hcookiesRead, -, -, -, -, hreportRead, hsummaryRead, hsettingsRead⟩ := readsAs_written
  exact ⟨⟨hresults, hcookiesRead _ hresults⟩, ⟨hreport, hreportRead _ hreport⟩, ⟨hsummary, hsummaryRead _ hsummary⟩,
    hsettings, hsettingsRead _ hsettings⟩

end TrackerAudit
