import TrackerAudit.Proofs.Pattern.Authority
import TrackerAudit.Proofs.Rule.HostLine

/-!
# The host of a composed request

A request string that is put together from its parts gives its host back (`ComposedRequest.requestHost?_text`), although
user information and tail may have the signs at which the parts are told apart. What counts is where a sign stands: the
authority starts behind the lead and ends before the tail (`ComposedRequest.authority_text`), the host starts behind the
last `@` of the authority, and ends before the first `:` from there on. Blanks are trimmed off the user information and
the tail only (`ComposedRequest.trim_text`).
-/

namespace TrackerAudit.Host

open Text

/-! ### Leads -/

theorem endsAuthority_of_isScheme {scheme : Text} (h : isScheme scheme = true) : ∀ c ∈ scheme, endsAuthority c = false := by
  intro c hc
  rw [Bool.eq_false_iff]
  intro hend
  have hchar := isScheme_chars h c hc
  simp only [endsAuthority, Bool.or_eq_true, beq_iff_eq] at hend
  rcases hend with (rfl | rfl) | rfl <;> exact absurd hchar (by decide)

theorem authority_scheme {scheme : Text} (h : isScheme scheme = true) (rest : Text) :
    authority (scheme ++ [':', '/', '/'] ++ rest) = before endsAuthority rest := by
  have hcut : cutSchemeMark? (scheme ++ [':', '/', '/'] ++ rest) = some (scheme, rest) := by
    rw [List.append_assoc]
    exact cutSchemeMark?_append (colon_not_mem_of_isScheme h)
  rw [authority, dropScheme, hcut]
  simp only [h, if_true]

/-- No scheme starts with a slash. -/
theorem authority_slashes (rest : Text) : authority ('/' :: '/' :: rest) = before endsAuthority rest := by
  have hrelative : (cutStart? "//".toList ('/' :: '/' :: rest)).getD ('/' :: '/' :: rest) = rest := by
    have hcut : cutStart? "//".toList ('/' :: '/' :: rest) = some rest := cutStart?_eq_some.2 rfl
    rw [hcut]
    rfl
  rw [authority, dropScheme, hrelative]
  cases hcut : cutSchemeMark? ('/' :: '/' :: rest) with
  | none => rfl
  | some sr =>
    obtain ⟨scheme, behind⟩ := sr
    have hscheme : isScheme scheme = false := by
      cases scheme with
      | nil => rfl
      | cons c scheme =>
        obtain ⟨rfl, -⟩ := List.cons.inj (eq_of_cutSchemeMark? hcut)
        rfl
    simp only [hscheme, Bool.false_eq_true, if_false]

/-! ### Requests by their parts -/

/-- What stands before the authority of a request: nothing, two slashes, or a scheme with `://`. -/
inductive Lead
  | bare
  | slashes
  | scheme (name : Text) (isScheme : isScheme name = true)

def Lead.text : Lead → Text
  | bare => []
  | slashes => ['/', '/']
  | scheme name _ => name ++ [':', '/', '/']

/-- A request by its parts. -/
structure ComposedRequest where
  lead : Lead := .bare
  user : Option Text := none
  host : Text
  port : Option Text := none
  tail : Text := []
  isUser : ∀ u ∈ user, ∀ c ∈ u, endsAuthority c = false
  isHost : IsPlain host
  dot_mem : '.' ∈ host
  isPort : ∀ p ∈ port, p ≠ [] ∧ ∀ c ∈ p, c.isDigit = true
  isTail : ∀ c ∈ tail.head?, endsAuthority c = true

namespace ComposedRequest

variable (r : ComposedRequest)

/-- The user information with its `@`. -/
def userText : Text :=
  match r.user with
  | some u => u ++ ['@']
  | none => []

/-- The port with its colon. -/
def portText : Text :=
  match r.port with
  | some p => ':' :: p
  | none => []

/-- What stands between lead and tail. -/
def body : Text := r.userText ++ (r.host ++ r.portText)

/-- The request as it is written. -/
def text : Text := r.lead.text ++ (r.body ++ r.tail)

/-! ### The characters of the parts -/

theorem portText_cases : r.portText = [] ∨ ∃ p c, r.portText = ':' :: (p ++ [c]) ∧ ∀ d ∈ p ++ [c], d.isDigit = true := by
  unfold portText
  cases h : r.port with
  | none => exact Or.inl rfl
  | some port =>
    obtain ⟨hne, hdigits⟩ := r.isPort port h
    obtain ⟨p, c, rfl⟩ := (List.eq_nil_or_concat' port).resolve_left hne
    exact Or.inr ⟨p, c, rfl, hdigits⟩

theorem isNameChar_of_isDigit {c : Char} (h : c.isDigit = true) : isNameChar c = true := by
  simp [isNameChar, isAlnum, Char.isAlphanum, h]

/-- Host and port have characters of domains, and perhaps a colon. -/
theorem chars_host_port : ∀ c ∈ r.host ++ r.portText, isNameChar c = true ∨ c = ':' := by
  intro c hc
  rcases List.mem_append.1 hc with hc | hc
  · exact Or.inl (r.isHost.chars c hc)
  · rcases r.portText_cases with h | ⟨p, d, h, hdigits⟩
    · rw [h] at hc
      cases hc
    · rw [h, List.mem_cons] at hc
      exact hc.symm.imp_left fun hc => isNameChar_of_isDigit (hdigits c hc)

theorem endsAuthority_body : ∀ c ∈ r.body, endsAuthority c = false := by
  intro c hc
  rcases List.mem_append.1 hc with hc | hc
  · unfold userText at hc
    cases h : r.user with
    | none => simp [h] at hc
    | some u =>
      simp only [h, List.mem_append, List.mem_singleton] at hc
      rcases hc with hc | rfl
      · exact r.isUser u h c hc
      · rfl
  · rcases r.chars_host_port c hc with hc | rfl
    · exact endsAuthority_of_isSeparator (isSeparator_of_isNameChar hc)
    · rfl

theorem at_not_mem_host_port : '@' ∉ r.host ++ r.portText := by
  intro hc
  rcases r.chars_host_port '@' hc with h | h
  · revert h
    decide
  · cases h

theorem exists_body : ∃ front c, r.body = front ++ [c] ∧ isNameChar c = true := by
  rcases r.portText_cases with h | ⟨p, c, h, hdigits⟩
  · obtain ⟨front, c, hhost⟩ := (List.eq_nil_or_concat' r.host).resolve_left r.isHost.nonempty
    exact ⟨r.userText ++ front, c, by rw [body, h, hhost]; simp, r.isHost.chars c (by simp [hhost])⟩
  · exact ⟨r.userText ++ (r.host ++ ':' :: p), c, by rw [body, h]; simp, isNameChar_of_isDigit (hdigits c (by simp))⟩

/-! ### The authority -/

theorem before_body_tail : before endsAuthority (r.body ++ r.tail) = r.body := by
  have htail : before endsAuthority r.tail = [] := by
    cases h : r.tail with
    | nil => rfl
    | cons c tail =>
      have hc := r.isTail c (by simp [h])
      simp [before, hc]
  rw [before_append r.endsAuthority_body, htail, List.append_nil]

theorem head?_body_tail : (r.body ++ r.tail).head? ≠ some '/' := by
  obtain ⟨front, c, hbody, -⟩ := r.exists_body
  have hne : r.body ≠ [] := by simp [hbody]
  intro hhead
  rw [List.head?_append_of_ne_nil _ hne] at hhead
  cases r.endsAuthority_body '/' (List.mem_of_mem_head? hhead)

/-- Without a lead, no `://` stands right behind a scheme: the authority does not end with a colon. -/
private theorem isScheme_of_body_tail {scheme rest : Text}
    (h : r.body ++ r.tail = scheme ++ ':' :: '/' :: '/' :: rest) : isScheme scheme = false := by
  rw [Bool.eq_false_iff]
  intro hscheme
  have hfree : ∀ c ∈ scheme ++ [':'], endsAuthority c = false := by
    intro c hc
    rcases List.mem_append.1 hc with hc | hc
    · exact endsAuthority_of_isScheme hscheme c hc
    · obtain rfl := List.mem_singleton.1 hc
      rfl
  have hsplit : scheme ++ [':'] ++ '/' :: '/' :: rest = r.body ++ r.tail := by rw [h]; simp
  obtain ⟨x, hbody, hrest⟩ := exists_of_append_eq hsplit hfree r.isTail
  cases x with
  | nil =>
    obtain ⟨front, c, hfront, hc⟩ := r.exists_body
    rw [List.append_nil, hfront] at hbody
    obtain rfl : c = ':' := List.singleton_inj.1 (List.append_inj' hbody rfl).2
    exact absurd hc (by decide)
  | cons c x =>
    obtain ⟨rfl, -⟩ := List.cons.inj hrest
    cases r.endsAuthority_body '/' (by simp [hbody])

theorem authority_text : authority r.text = r.body := by
  rw [text]
  cases r.lead with
  | bare =>
    rcases authority_cases (r.body ++ r.tail) with ⟨scheme, rest, h, hscheme, -⟩ | ⟨-, hauthority⟩
    · rw [r.isScheme_of_body_tail h] at hscheme
      cases hscheme
    · exact (hauthority r.head?_body_tail).trans r.before_body_tail
  | slashes => exact (authority_slashes _).trans r.before_body_tail
  | scheme name hname => exact (authority_scheme hname _).trans r.before_body_tail

/-! ### Trimming -/

/-- The user information without the blanks that stand at the start of the request. -/
def trimmedUser : Option Text :=
  match r.lead with
  | .bare => r.user.map (·.dropWhile isBlank)
  | _ => r.user

theorem trimmedUser_of_bare (h : r.lead = .bare) : r.trimmedUser = r.user.map (·.dropWhile isBlank) := by
  rw [trimmedUser, h]

theorem trimmedUser_of_ne_bare (h : r.lead ≠ .bare) : r.trimmedUser = r.user := by
  unfold trimmedUser
  split
  · exact absurd ‹_› h
  · rfl

/-- The request without outer blanks. -/
def trimmed : ComposedRequest where
  lead := r.lead
  user := r.trimmedUser
  host := r.host
  port := r.port
  tail := dropEnd isBlank r.tail
  isUser := by
    intro u hu
    by_cases hlead : r.lead = .bare
    · rw [r.trimmedUser_of_bare hlead] at hu
      obtain ⟨v, hv, rfl⟩ := Option.map_eq_some_iff.1 hu
      exact fun c hc => r.isUser v hv c (List.dropWhile_subset _ hc)
    · rw [r.trimmedUser_of_ne_bare hlead] at hu
      exact r.isUser u hu
  isHost := r.isHost
  dot_mem := r.dot_mem
  isPort := r.isPort
  isTail := by
    intro c hc
    obtain ⟨b, hb, -⟩ := exists_eq_dropEnd isBlank r.tail
    refine r.isTail c ?_
    rw [hb, List.head?_append, Option.mem_def.1 hc]
    rfl

theorem userText_trimmed_of_bare (h : r.lead = .bare) : r.trimmed.userText = r.userText.dropWhile isBlank := by
  have huser : r.trimmed.user = r.user.map (·.dropWhile isBlank) := r.trimmedUser_of_bare h
  rw [userText, userText, huser]
  cases r.user with
  | none => rfl
  | some u =>
    have hat : ∀ c ∈ ['@'].head?, isBlank c = false := by
      rintro c ⟨⟩
      rfl
    exact (dropWhile_append_of_head? hat).symm

theorem body_trimmed_of_ne_bare (h : r.lead ≠ .bare) : r.trimmed.body = r.body := by
  have huser : r.trimmed.user = r.user := r.trimmedUser_of_ne_bare h
  rw [body, body, userText, userText, huser]
  rfl

/-- A lead starts with a slash or a letter. -/
private theorem dropWhile_lead {lead : Lead} (h : lead ≠ .bare) (rest : Text) :
    (lead.text ++ rest).dropWhile isBlank = lead.text ++ rest := by
  cases lead with
  | bare => exact absurd rfl h
  | slashes => rfl
  | scheme name hname =>
    cases name with
    | nil => cases hname
    | cons c name =>
      rw [isScheme, Bool.and_eq_true] at hname
      have hc : isBlank c = false := isBlank_of_isNameChar (by simp [isNameChar, isAlnum, Char.isAlphanum, hname.1])
      exact List.dropWhile_cons_of_neg (by simp [hc])

/-- Before the host, blanks are trimmed off user information without a lead only. -/
private theorem dropWhile_text : r.text.dropWhile isBlank = r.lead.text ++ r.trimmed.body ++ r.tail := by
  by_cases hlead : r.lead = .bare
  · have hhost : ∀ c ∈ (r.host ++ (r.portText ++ r.tail)).head?, isBlank c = false := by
      intro c hc
      rw [List.head?_append_of_ne_nil _ r.isHost.nonempty] at hc
      exact r.isHost.isBlank c (List.mem_of_mem_head? hc)
    have htext : r.text = r.userText ++ (r.host ++ (r.portText ++ r.tail)) := by
      simp [text, body, hlead, Lead.text]
    rw [htext, dropWhile_append_of_head? hhost, ← r.userText_trimmed_of_bare hlead, hlead]
    simp only [body, Lead.text, List.nil_append, List.append_assoc]
    rfl
  · rw [r.body_trimmed_of_ne_bare hlead, text, dropWhile_lead hlead, List.append_assoc]

theorem trim_text : trim r.text = r.trimmed.text := by
  have hlast : ∀ c ∈ (r.lead.text ++ r.trimmed.body).getLast?, isBlank c = false := by
    obtain ⟨front, d, hbody, hd⟩ := r.trimmed.exists_body
    intro c hc
    rw [hbody, ← List.append_assoc, List.getLast?_concat] at hc
    obtain rfl := Option.some.inj hc
    exact isBlank_of_isNameChar hd
  rw [trim, trimBy, r.dropWhile_text, dropEnd_append_of_getLast? hlast, List.append_assoc]
  rfl

/-! ### The host -/

theorem host_body : ((cutLast? '@' r.body).map (·.2)).getD r.body = r.host ++ r.portText := by
  rw [body, userText]
  cases r.user with
  | none =>
    have hcut : cutLast? '@' (r.host ++ r.portText) = none := by
      rw [Option.eq_none_iff_forall_ne_some]
      rintro ⟨front, rest⟩ h
      exact r.at_not_mem_host_port (by simp [(cutLast?_eq_some.1 h).1])
    simp [hcut]
  | some u =>
    have hcut : cutLast? '@' (u ++ '@' :: (r.host ++ r.portText)) = some (u, r.host ++ r.portText) :=
      cutLast?_eq_some.2 ⟨rfl, r.at_not_mem_host_port⟩
    simp [hcut]

theorem before_colon : before (· == ':') (r.host ++ r.portText) = r.host := by
  have hcolon : ':' ∉ r.host := fun hc => absurd (r.isHost.chars ':' hc) (by decide)
  have hport : before (· == ':') r.portText = [] := by
    rcases r.portText_cases with h | ⟨p, c, h, -⟩ <;> simp [h, before]
  rw [before_append fun c hc => beq_eq_false_of_mem hcolon hc, hport, List.append_nil]

/-- The host of a request that is put together from its parts is the host among them. -/
theorem requestHost?_text : requestHost? r.text = some r.host := by
  have hauthority : authority (trim r.text) = r.trimmed.body := by rw [r.trim_text, r.trimmed.authority_text]
  have hhost : before (· == ':') (((cutLast? '@' r.trimmed.body).map (·.2)).getD r.trimmed.body) = r.host := by
    rw [r.trimmed.host_body]
    exact r.trimmed.before_colon
  have hdots : trimDots r.host = r.host := trimBy_of_ends r.isHost.head_ne r.isHost.last_ne
  have hdomain : looksLikeDomain r.host = true := by
    rw [looksLikeDomain, Bool.and_eq_true, List.contains_iff_mem, List.all_eq_true]
    exact ⟨r.dot_mem, r.isHost.chars⟩
  simp only [requestHost?, hauthority, hhost, hdots, hdomain, if_true]

/-- A bare request with a blank and a scheme's colon in the user information, and with signs of all kinds in the tail. -/
def sampleRequest : ComposedRequest where
  user := " me:https:@x".toList
  host := "Ads.-.ok.io".toList
  port := "80".toList
  tail := "?u@v:1://w.io ".toList
  isUser := by
    rintro _ ⟨⟩
    have hfree : (" me:https:@x".toList.any endsAuthority) = false := by decide
    exact fun c hc => Bool.eq_false_iff.2 (List.any_eq_false.1 hfree c hc)
  isHost := ⟨by decide, by decide, by decide, List.all_eq_true.1 (by decide)⟩
  dot_mem := by decide
  isPort := by
    rintro _ ⟨⟩
    exact ⟨by decide, List.all_eq_true.1 (by decide)⟩
  isTail := by
    rintro _ ⟨⟩
    rfl

theorem requestHost?_sampleRequest : sampleRequest.text = " me:https:@x@Ads.-.ok.io:80?u@v:1://w.io ".toList ∧
    requestHost? " me:https:@x@Ads.-.ok.io:80?u@v:1://w.io ".toList = some "Ads.-.ok.io".toList := by
  have htext : sampleRequest.text = " me:https:@x@Ads.-.ok.io:80?u@v:1://w.io ".toList := by decide +kernel
  exact ⟨htext, htext ▸ sampleRequest.requestHost?_text⟩

end ComposedRequest

end TrackerAudit.Host
