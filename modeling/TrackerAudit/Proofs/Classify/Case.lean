import TrackerAudit.Proofs.Classify.Monotone
import TrackerAudit.Proofs.Matching.Case

/-!
# Evidence in any case

The evidence of a website in small letters leads to the same requests in small letters: the page, the party of each
request, and the listed hosts are read off without regard to case. So a catalogue whose rules all ignore case gives the
same verdicts on two pieces of evidence that differ only in the case of ASCII letters
(`Classifier.tracking_eq_of_sameButCase`).
-/

namespace TrackerAudit

open Text

/-! ### Evidence in small letters -/

/-- The listed hosts in small letters. -/
def PartyHosts.lowered (h : PartyHosts) : PartyHosts := ⟨h.firstParty.map lower, h.thirdParty.map lower⟩

/-- The cookie with its domain and its files in small letters. -/
def Cookie.lowered (c : Cookie) : Cookie := { c with domain := lower c.domain, files := c.files.map lower }

/-- The beacon with its URL in small letters. -/
def Beacon.lowered (b : Beacon) : Beacon := { b with url := lower b.url }

namespace Evidence

/-- The evidence with all texts that verdicts depend on in small letters. -/
def lowered (e : Evidence) : Evidence where
  website := lower e.website
  cookies := e.cookies.map Cookie.lowered
  beacons := e.beacons.map Beacon.lowered
  cookieHosts := e.cookieHosts.lowered
  beaconHosts := e.beaconHosts.lowered

/-- The evidence differs at most in the case of ASCII letters in the name of the website, in the domains and files of
cookies, in the URLs of beacons, and in the listed hosts. -/
def SameButCase (e e' : Evidence) : Prop := e.lowered = e'.lowered

end Evidence

/-! ### Requests in small letters -/

theorem PartyHosts.bare_lower (host : Text) : bare (lower host) = lower (bare host) :=
  dropWhile_lower (caseBlind_beq rfl) host

theorem PartyHosts.lists_lower (hosts : List Text) (host : Text) :
    lists (hosts.map lower) (lower host) = lists hosts host := by
  have hsame (h : Text) : sameNoCase (bare (lower h)) (bare (lower host)) = sameNoCase (bare h) (bare host) := by
    rw [bare_lower, bare_lower, sameNoCase, sameNoCase, lower_lower, lower_lower]
  rw [lists, lists, List.any_map]
  exact congrArg hosts.any (funext hsame)

theorem PartyHosts.isThirdParty?_lowered (h : PartyHosts) (host : Text) :
    h.lowered.isThirdParty? (lower host) = h.isThirdParty? host := by
  unfold isThirdParty? lowered
  rw [lists_lower, lists_lower]

theorem Evidence.page?_lowered (e : Evidence) : e.lowered.page? = e.page?.map lower := by
  have hdomain : dropEnd (· == '/') (trim e.lowered.website) = lower (dropEnd (· == '/') (trim e.website)) := by
    rw [lowered, trim_lower, dropEnd_lower (caseBlind_beq rfl)]
  unfold page?
  simp only [hdomain, Host.looksLikeDomain_lower]
  split <;> rfl

theorem thirdPartyTo?_lower (page : Option Text) (request : Text) :
    thirdPartyTo? (page.map lower) (lower request) = thirdPartyTo? page request := by
  unfold thirdPartyTo?
  rw [Host.requestHost?_lower]
  cases Host.requestHost? request with
  | none => rfl
  | some host =>
    cases page with
    | none => rfl
    | some page => exact congrArg some (Host.isThirdParty_lower host page)

theorem requestIn_lowered (mode : ContextMode) (site : Evidence) (url : Text) (party : Option Bool)
    (types : Option TypeMask) : requestIn mode site.lowered (lower url) party types =
      (requestIn mode site url party types).lowered := by
  cases mode <;> simp only [requestIn, site.page?_lowered] <;> rfl

theorem Cookie.requests_lowered (c : Cookie) (site : Evidence) (mode : ContextMode) :
    c.lowered.requests site.lowered mode = (c.requests site mode).map Request.lowered := by
  have hhost : c.lowered.host = lower c.host := by
    rw [host, host, lowered, trim_lower, PartyHosts.bare_lower]
  have hlisted : site.lowered.cookieHosts.isThirdParty? (lower c.host) = site.cookieHosts.isThirdParty? c.host :=
    site.cookieHosts.isThirdParty?_lowered c.host
  have hfiles : c.lowered.files = c.files.map lower := rfl
  unfold requests
  rw [List.map_cons, hhost, hlisted, site.page?_lowered, thirdPartyTo?_lower, requestIn_lowered, hfiles, List.map_map,
    List.map_map]
  congr 1
  refine List.map_congr_left fun file _ => ?_
  simp only [Function.comp_apply, thirdPartyTo?_lower, requestIn_lowered]

theorem Beacon.requests_lowered (b : Beacon) (site : Evidence) (mode : ContextMode) :
    b.lowered.requests site.lowered mode = (b.requests site mode).map Request.lowered := by
  have hurl : b.lowered.url = lower b.url := rfl
  have hlisted (host : Text) : site.lowered.beaconHosts.isThirdParty? (lower host) = site.beaconHosts.isThirdParty? host :=
    site.beaconHosts.isThirdParty?_lowered host
  have hparty : ((Host.requestHost? (lower b.url)).bind fun host =>
      (site.lowered.beaconHosts.isThirdParty? host).or (thirdPartyTo? site.lowered.page? host)) =
        (Host.requestHost? b.url).bind fun host =>
          (site.beaconHosts.isThirdParty? host).or (thirdPartyTo? site.page? host) := by
    rw [Host.requestHost?_lower, site.page?_lowered]
    cases Host.requestHost? b.url with
    | none => rfl
    | some host => simp only [Option.map_some, Option.bind_some, hlisted, thirdPartyTo?_lower]
  rw [requests, requests, hurl, hparty, requestIn_lowered]
  rfl

/-! ### Verdicts -/

theorem Catalogue.judge_lowered {c : Catalogue} (h : ∀ s ∈ c.sets, ∀ r ∈ s.rules, r.IgnoresCase) (scope : ExceptionScope)
    (q : Request) : c.judge scope q.lowered = c.judge scope q := by
  cases scope with
  | perList =>
    have hdecisions : c.sets.map (·.decision q.lowered) = c.sets.map (·.decision q) :=
      List.map_congr_left fun s hs => RuleSet.decision_lowered (h s hs) q
    rw [judge, judge, judgePerList, judgePerList, hdecisions]
  | global =>
    have hfirst (isException : Bool) :
        c.sets.findSome? (·.first? isException q.lowered) = c.sets.findSome? (·.first? isException q) := by
      have hmap : c.sets.map (·.first? isException q.lowered) = c.sets.map (·.first? isException q) :=
        List.map_congr_left fun s hs => RuleSet.first?_lowered (h s hs) isException q
      have hsome := congrArg (List.findSome? id) hmap
      rwa [List.findSome?_map, List.findSome?_map] at hsome
    rw [judge, judge, judgeGlobal, judgeGlobal]
    exact congrArg₂ decideBy (hfirst false) (funext fun _ => hfirst true)

/-- The rules of three lists without regular expressions and without the option `match-case` ignore case. -/
theorem Catalogue.ignoresCase_read {easyList easyPrivacy fanboyAnnoyance : Text}
    (heasy : ∀ r ∈ (FilterList.read easyList .easyList).rules, r.flags.rawRegex = false ∧ r.flags.matchCase = false)
    (hprivacy : ∀ r ∈ (FilterList.read easyPrivacy .easyPrivacy).rules,
      r.flags.rawRegex = false ∧ r.flags.matchCase = false)
    (hfanboy : ∀ r ∈ (FilterList.read fanboyAnnoyance .fanboyAnnoyance).rules,
      r.flags.rawRegex = false ∧ r.flags.matchCase = false) :
    ∀ s ∈ (read easyList easyPrivacy fanboyAnnoyance).sets, ∀ r ∈ s.rules, r.IgnoresCase := by
  intro s hs
  simp only [sets, List.mem_cons, List.not_mem_nil, or_false] at hs
  rcases hs with rfl | rfl | rfl
  · exact CompiledList.ignoresCase heasy
  · exact CompiledList.ignoresCase hprivacy
  · exact CompiledList.ignoresCase hfanboy

namespace Classifier

variable {c : Classifier} (h : ∀ s ∈ c.catalogue.sets, ∀ r ∈ s.rules, r.IgnoresCase)

include h

theorem anyBlocked_lowered (requests : List Request) :
    c.anyBlocked (requests.map Request.lowered) = c.anyBlocked requests := by
  have hblocked (q : Request) : (c.judge q.lowered).blocked = (c.judge q).blocked :=
    congrArg Decision.blocked (Catalogue.judge_lowered h c.options.exceptionScope q)
  rw [anyBlocked, anyBlocked, List.any_map]
  exact congrArg requests.any (funext hblocked)

theorem isTrackingCookie_lowered (site : Evidence) (cookie : Cookie) :
    c.isTrackingCookie site.lowered cookie.lowered = c.isTrackingCookie site cookie := by
  rw [isTrackingCookie, isTrackingCookie, Cookie.requests_lowered, anyBlocked_lowered h]

theorem isTrackingBeacon_lowered (site : Evidence) (beacon : Beacon) :
    c.isTrackingBeacon site.lowered beacon.lowered = c.isTrackingBeacon site beacon := by
  rw [isTrackingBeacon, isTrackingBeacon, Beacon.requests_lowered, anyBlocked_lowered h]

/-- In small letters, all cookies and beacons have the verdicts that they had. -/
theorem tracking_lowered (site : Evidence) :
    (c.classify site.lowered).cookies.map (·.tracking) = (c.classify site).cookies.map (·.tracking) ∧
      (c.classify site.lowered).beacons.map (·.tracking) = (c.classify site).beacons.map (·.tracking) := by
  simp only [classify, Evidence.lowered, List.map_map]
  constructor
  · exact List.map_congr_left fun cookie _ => isTrackingCookie_lowered h site cookie
  · exact List.map_congr_left fun beacon _ => isTrackingBeacon_lowered h site beacon

omit h

/-- Where no rule is a regular expression or asks for the case of letters, two pieces of evidence that differ only in
the case of ASCII letters get the same verdicts, cookie by cookie and beacon by beacon. -/
theorem tracking_eq_of_sameButCase (c : Classifier) (h : ∀ s ∈ c.catalogue.sets, ∀ r ∈ s.rules, r.IgnoresCase)
    {site site' : Evidence} (hsame : site.SameButCase site') :
    (c.classify site).cookies.map (·.tracking) = (c.classify site').cookies.map (·.tracking) ∧
      (c.classify site).beacons.map (·.tracking) = (c.classify site').beacons.map (·.tracking) := by
  have hlow := tracking_lowered h site
  rw [show site.lowered = site'.lowered from hsame] at hlow
  have hlow' := tracking_lowered h site'
  exact ⟨hlow.1.symm.trans hlow'.1, hlow.2.symm.trans hlow'.2⟩

/-- A website with one cookie, one beacon and one listed host. -/
def oneOfEach (website domain file url host : Text) : Evidence where
  website
  cookies := [⟨[], domain, 0, none, [file]⟩]
  beacons := [⟨[], url⟩]
  cookieHosts := { thirdParty := [host] }

private theorem sameButCase_oneOfEach {website website' domain domain' file file' url url' host host' : Text}
    (hwebsite : lower website = lower website') (hdomain : lower domain = lower domain')
    (hfile : lower file = lower file') (hurl : lower url = lower url') (hhost : lower host = lower host') :
    (oneOfEach website domain file url host).SameButCase (oneOfEach website' domain' file' url' host') := by
  simp only [Evidence.SameButCase, Evidence.lowered, oneOfEach, Cookie.lowered, Beacon.lowered, PartyHosts.lowered,
    List.map_cons, List.map_nil, hwebsite, hdomain, hfile, hurl, hhost]

private theorem flags_okThirdParty : ∀ r ∈ (FilterList.read "||ok.io^$third-party".toList .easyList).rules,
    r.flags.rawRegex = false ∧ r.flags.matchCase = false := by
  decide +kernel

private theorem flags_nothing (source : SourceList) : ∀ r ∈ (FilterList.read [] source).rules,
    r.flags.rawRegex = false ∧ r.flags.matchCase = false := by
  cases source <;> decide +kernel

/-- Capitals in the name of the website, in a domain, a file, a URL and a listed host. -/
theorem tracking_eq_of_capitals :
    (∀ s ∈ (Catalogue.read "||ok.io^$third-party".toList [] []).sets, ∀ r ∈ s.rules, r.IgnoresCase) ∧
      (oneOfEach "shop.example".toList ".ok.io".toList "http://cdn.ok.io/a.js".toList "https://ok.io/p".toList
        "ok.io".toList).SameButCase
        (oneOfEach "Shop.Example".toList ".OK.io".toList "HTTP://cdn.Ok.IO/A.js".toList "https://oK.io/P".toList
          "ok.IO".toList) ∧
      (classify ⟨.read "||ok.io^$third-party".toList [] [], {}⟩ (oneOfEach "shop.example".toList ".ok.io".toList
          "http://cdn.ok.io/a.js".toList "https://ok.io/p".toList "ok.io".toList)).cookies.map (·.tracking) =
        (classify ⟨.read "||ok.io^$third-party".toList [] [], {}⟩ (oneOfEach "Shop.Example".toList ".OK.io".toList
          "HTTP://cdn.Ok.IO/A.js".toList "https://oK.io/P".toList "ok.IO".toList)).cookies.map (·.tracking) := by
  have hrules : ∀ s ∈ (Catalogue.read "||ok.io^$third-party".toList [] []).sets, ∀ r ∈ s.rules, r.IgnoresCase :=
    Catalogue.ignoresCase_read flags_okThirdParty (flags_nothing .easyPrivacy) (flags_nothing .fanboyAnnoyance)
  have hsame : (oneOfEach "shop.example".toList ".ok.io".toList "http://cdn.ok.io/a.js".toList "https://ok.io/p".toList
      "ok.io".toList).SameButCase
      (oneOfEach "Shop.Example".toList ".OK.io".toList "HTTP://cdn.Ok.IO/A.js".toList "https://oK.io/P".toList
        "ok.IO".toList) :=
    sameButCase_oneOfEach (by decide +kernel) (by decide +kernel) (by decide +kernel) (by decide +kernel)
      (by decide +kernel)
  exact ⟨hrules, hsame, (tracking_eq_of_sameButCase ⟨.read "||ok.io^$third-party".toList [] [], {}⟩ hrules hsame).1⟩

end Classifier

end TrackerAudit
