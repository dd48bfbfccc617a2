import TrackerAudit.Proofs.Host.Domain
import TrackerAudit.Proofs.Pattern.Authority

/-!
# Where a host lies in a URL

A URL has an optional scheme, a host, an optional port, and any tail that starts with `/`, `?` or `#`. Of all places at
which the pattern `||host^` could match, only one at the end of the URL's host remains: a name with a dot fits neither
into the scheme nor into the port, and nothing before the name goes past the host (`HostUrl.exists_of_place`). So the
pattern matches, and finds its host among the keys, exactly if the URL's host ends in the host of the pattern at a label
(`HostUrl.place_iff`).
-/

namespace TrackerAudit

open Text

/-! ### URLs -/

/-- A letter, and then letters, digits, `+` or `-`. -/
def IsDotlessScheme (s : Text) : Prop :=
  ∃ c rest, s = c :: rest ∧ c.isAlpha = true ∧ ∀ d ∈ rest, isAlnum d = true ∨ d = '+' ∨ d = '-'

/-- A URL by its parts. -/
structure HostUrl where
  scheme : Option Text := none
  host : DomainName
  port : Option Text := none
  tail : Text := []
  isScheme : ∀ s ∈ scheme, IsDotlessScheme s
  isPort : ∀ p ∈ port, p ≠ [] ∧ ∀ c ∈ p, c.isDigit = true
  isTail : ∀ c ∈ tail.head?, Host.endsAuthority c = true

namespace HostUrl

variable (u : HostUrl)

/-- The scheme with `://`. -/
def schemeText : Text :=
  match u.scheme with
  | some s => s ++ ':' :: ['/', '/']
  | none => []

/-- The port with its colon. -/
def portText : Text :=
  match u.port with
  | some p => ':' :: p
  | none => []

/-- The URL as it is written. -/
def text : Text := u.schemeText ++ (u.host.text ++ (u.portText ++ u.tail))

end HostUrl

theorem isDotlessScheme_https : ∀ s ∈ some "https".toList, IsDotlessScheme s := by
  rintro _ ⟨⟩
  exact ⟨'h', "ttps".toList, rfl, rfl, by simp [isAlnum]⟩

/-- A host behind `https://`. -/
def HostUrl.https (host : DomainName) (tail : Text) (isTail : ∀ c ∈ tail.head?, Host.endsAuthority c = true) :
    HostUrl where
  scheme := some "https".toList
  host
  tail
  isScheme := isDotlessScheme_https
  isPort := by simp
  isTail

theorem IsDotlessScheme.isScheme {s : Text} (h : IsDotlessScheme s) : Host.isScheme s = true := by
  obtain ⟨c, rest, rfl, hc, hrest⟩ := h
  rw [Host.isScheme, Bool.and_eq_true, List.all_eq_true]
  refine ⟨hc, fun d hd => ?_⟩
  rcases hrest d hd with h | rfl | rfl
  · simp [h]
  · rfl
  · rfl

theorem IsDotlessScheme.dot_not_mem {s : Text} (h : IsDotlessScheme s) : '.' ∉ s := by
  obtain ⟨c, rest, rfl, hc, hrest⟩ := h
  rw [List.mem_cons]
  rintro (rfl | hd)
  · cases hc
  · rcases hrest '.' hd with h | h | h
    · cases h
    · cases h
    · cases h

/-! ### The place of a host -/

namespace HostUrl

variable (u : HostUrl) {labels name rest : Text}

theorem portText_eq : u.portText = [] ∨ ∃ p, u.portText = ':' :: p ∧ p ≠ [] ∧ ∀ c ∈ p, c.isDigit = true := by
  unfold portText
  cases h : u.port with
  | none => exact Or.inl rfl
  | some p => exact Or.inr ⟨p, rfl, u.isPort p h⟩

theorem dot_not_mem_portText : '.' ∉ u.portText := by
  rcases u.portText_eq with h | ⟨p, h, -, hdigits⟩
  · simp [h]
  · rw [h, List.mem_cons]
    rintro (hc | hc)
    · cases hc
    · cases hdigits _ hc

theorem isNameChar_host : ∀ c ∈ u.host.text, Host.isNameChar c = true := u.host.isPlain.chars

/-- What follows the host starts with a colon or ends the authority. -/
theorem head?_portText_tail : ∀ c ∈ (u.portText ++ u.tail).head?, c = ':' ∨ Host.endsAuthority c = true := by
  intro c hc
  rcases u.portText_eq with h | ⟨p, h, -, -⟩
  · rw [h] at hc
    exact Or.inr (u.isTail c hc)
  · rw [h] at hc
    exact Or.inl (by simpa using hc.symm)

section

variable (hfree : ∀ c ∈ labels ++ name, Host.endsAuthority c = false) (hcolon : ':' ∉ name) (hdot : '.' ∈ name)

include hcolon hdot in
/-- A name with a dot does not reach past a colon that has no dot behind it. -/
private theorem dot_mem_of_append_eq {host port : Text} (h : labels ++ name = host ++ ':' :: port) : '.' ∈ port := by
  rw [← List.singleton_append, ← List.append_assoc] at h
  rcases List.append_eq_append_iff.1 h with ⟨z, hz, rfl⟩ | ⟨z, rfl, rfl⟩
  · rcases List.eq_nil_or_concat' z with rfl | ⟨z, c, rfl⟩
    · exact hdot
    · have hlast := congrArg List.getLast? hz
      rw [← List.append_assoc, List.getLast?_concat, List.getLast?_concat, Option.some.injEq] at hlast
      exact absurd (by simp [← hlast]) hcolon
  · exact List.mem_append_right z hdot

include hfree hdot

/-- A name with a dot does not lie in a part without one. -/
private theorem not_in_front {front behind : Text} (h : labels ++ name ++ rest = front ++ behind)
    (hbehind : ∀ c ∈ behind.head?, Host.endsAuthority c = true) (hfront : '.' ∉ front) : False := by
  obtain ⟨x, rfl, -⟩ := exists_of_append_eq h hfree hbehind
  exact hfront (by simp [hdot])

include hcolon

/-- Labels and a name with a dot, and before a separator, end where the host ends. -/
private theorem host_eq (h : labels ++ name ++ rest = u.host.text ++ (u.portText ++ u.tail))
    (hrest : ∀ c ∈ rest.head?, Host.isSeparator c = true) : u.host.text = labels ++ name := by
  rw [← List.append_assoc u.host.text] at h
  obtain ⟨x, hx, rfl⟩ := exists_of_append_eq h hfree u.isTail
  rcases List.append_eq_append_iff.1 hx with ⟨y, hy, hport⟩ | ⟨y, hy, rfl⟩
  · cases y with
    | nil => rw [hy, List.append_nil]
    | cons c y =>
      -- the labels and the name would go past the host, into the port
      have hnot := u.dot_not_mem_portText
      rcases u.portText_eq with hnil | ⟨p, hp, -, -⟩
      · rw [hnil] at hport
        cases hport
      · rw [hp] at hport
        obtain ⟨rfl, rfl⟩ := List.cons.inj hport
        rw [hp] at hnot
        exact absurd (by simp [dot_mem_of_append_eq hcolon hdot hy]) hnot
  · cases y with
    | nil => rw [hy, List.append_nil]
    | cons c y =>
      -- they would end within the host, but not before a separator
      have hc : Host.isNameChar c = true := u.isNameChar_host c (by simp [hy])
      have := hrest c (by simp)
      rw [Host.isSeparator_of_isNameChar hc] at this
      cases this

end

section

variable (hfree : ∀ c ∈ labels ++ name, Host.endsAuthority c = false) (hdot : '.' ∈ name)

include hfree hdot

/-- With a scheme, the mark of the pattern takes just the scheme. -/
private theorem behind_scheme {s behind mark : Text} (hs : IsDotlessScheme s)
    (hmark : mark = [] ∨ PatternPart.IsSchemeMark true mark)
    (h : s ++ ':' :: '/' :: '/' :: behind = mark ++ (labels ++ name ++ rest)) : labels ++ name ++ rest = behind := by
  rcases hmark with rfl | hmark
  · have hfront : '.' ∉ s ++ [':'] := by simp [hs.dot_not_mem]
    have hcut : labels ++ name ++ rest = s ++ [':'] ++ '/' :: '/' :: behind := by
      rw [List.append_assoc s, List.singleton_append, h, List.nil_append]
    exact (not_in_front hfree hdot hcut (by simp; decide) hfront).elim
  · have hne : labels ++ name ≠ [] := List.append_ne_nil_of_right_ne_nil labels (List.ne_nil_of_mem hdot)
    exact (hmark.eq_of_append_eq hs.isScheme hfree hne h).2

/-- Without a scheme, the pattern has no mark. -/
private theorem behind_nothing {mark : Text} (hmark : mark = [] ∨ PatternPart.IsSchemeMark true mark)
    (h : u.host.text ++ (u.portText ++ u.tail) = mark ++ (labels ++ name ++ rest)) :
    labels ++ name ++ rest = u.host.text ++ (u.portText ++ u.tail) := by
  rcases hmark with rfl | hmark
  · exact h.symm
  · obtain ⟨n, slashes, rfl, hn, hslashes⟩ := hmark.exists_name
    rw [List.append_assoc n, List.cons_append] at h
    have hhead : ∀ c ∈ (u.portText ++ u.tail).head?, (c == ':' || Host.endsAuthority c) = true := by
      intro c hc
      rw [Bool.or_eq_true, beq_iff_eq]
      exact u.head?_portText_tail c hc
    obtain ⟨x, hx, hport⟩ := exists_of_append_eq h.symm hn hhead
    cases x with
    | cons c x =>
      obtain ⟨rfl, -⟩ := List.cons.inj hport
      cases u.isNameChar_host ':' (by simp [hx])
    | nil =>
      -- the colon is that of the port, where no name with a dot stands
      rcases u.portText_eq with hnil | ⟨p, hp, hne, hdigits⟩
      · rw [hnil, List.nil_append, List.nil_append] at hport
        cases u.isTail ':' (by simp [← hport])
      · have hnot := u.dot_not_mem_portText
        rw [hp] at hport hnot
        have hbehind := (List.cons.inj hport).2
        rcases hslashes with rfl | rfl
        · exact (not_in_front hfree hdot hbehind u.isTail fun hc => hnot (List.mem_cons_of_mem _ hc)).elim
        · obtain ⟨c, p, rfl⟩ := List.exists_cons_of_ne_nil hne
          obtain ⟨rfl, -⟩ := List.cons.inj hbehind
          cases hdigits '/' (by simp)

/-- Whatever mark the pattern has, it takes its labels and its name behind the scheme of the URL. -/
theorem behind_eq {mark : Text} (hmark : mark = [] ∨ PatternPart.IsSchemeMark true mark)
    (h : u.text = mark ++ (labels ++ name ++ rest)) : labels ++ name ++ rest = u.host.text ++ (u.portText ++ u.tail) := by
  unfold text schemeText at h
  cases hscheme : u.scheme with
  | some s =>
    rw [hscheme, List.append_assoc s] at h
    exact behind_scheme hfree hdot (u.isScheme s hscheme) hmark h
  | none =>
    rw [hscheme] at h
    exact u.behind_nothing hfree hdot hmark h

end

variable {host : Text} (hhost : Host.IsPlain host)

include hhost

/-- A pattern for a host with a dot that matches a URL takes the end of the URL's host. -/
theorem exists_of_place (hdot : '.' ∈ host) (x : HostPlace host u.text) :
    ∃ labels name, u.host.text = labels ++ name ∧ (∀ c ∈ labels.getLast?, c = '.') ∧ lower name = lower host := by
  obtain ⟨mark, labels, name, rest, hsplit, hmark, hlabels, hname, hends⟩ := x
  have hnameDot := dot_mem_of_forall₂ hname hdot
  have hfree := endsAuthority_labels_name hhost hname hlabels
  have hbehind := u.behind_eq hfree hnameDot hmark hsplit
  have heq := u.host_eq hfree (colon_not_mem_of_forall₂ hhost hname) hnameDot hbehind
    fun c hc => isSeparator_of_not_countsAsOne (hends c hc)
  refine ⟨labels, name, heq, PatternPart.IsLabels.getLast? hlabels, ?_⟩
  refine (forall₂_countsAs_iff (fun c hc => ascii_of_isNameChar (hhost.chars c hc)) fun c hc => ?_).1 hname
  exact isStray_of_isNameChar (u.isNameChar_host c (by simp [heq, hc]))

/-- The end of the URL's host is a place for the pattern, and a key. -/
theorem place_of_host_eq {labels name : Text} (h : u.host.text = labels ++ name) (hlast : ∀ c ∈ labels.getLast?, c = '.')
    (hname : lower name = lower host) : Nonempty (HostPlace host u.text) ∧ lower host ∈ Host.keys u.text := by
  have hchars : ∀ c ∈ labels ++ name, Host.isNameChar c = true := h ▸ u.isNameChar_host
  have hmark : u.schemeText = [] ∨ Host.IsSchemeMark u.schemeText := by
    unfold schemeText
    cases hscheme : u.scheme with
    | none => exact Or.inl rfl
    | some s => exact Or.inr ⟨s, ['/', '/'], rfl, (u.isScheme s hscheme).isScheme, Or.inr rfl⟩
  have hfree : ∀ c ∈ labels, Host.endsAuthority c = false := fun c hc =>
    Host.endsAuthority_of_isSeparator (Host.isSeparator_of_isNameChar (hchars c (by simp [hc])))
  have hlabels : labels = [] ∨ PatternPart.IsLabels labels := by
    rcases List.eq_nil_or_concat' labels with hnil | ⟨run, c, rfl⟩
    · exact Or.inl hnil
    · obtain rfl := hlast c (by simp)
      exact Or.inr ⟨run, rfl, fun c hc => hfree c (by simp [hc])⟩
  have hsplit : u.text = u.schemeText ++ (labels ++ name ++ (u.portText ++ u.tail)) := by rw [text, h]
  have hends : ∀ c ∈ (u.portText ++ u.tail).head?, Host.isSeparator c = true ∧ Unicode.isStray c = false := by
    intro c hc
    rcases u.head?_portText_tail c hc with rfl | hc
    · decide
    · exact ⟨Host.isSeparator_of_endsAuthority hc, isStray_of_ascii (Host.ascii_of_endsAuthority hc).1⟩
  constructor
  · refine ⟨⟨u.schemeText, labels, name, u.portText ++ u.tail, hsplit, hmark.imp_right PatternPart.isSchemeMark_of_host,
      hlabels, ?_, fun c hc => ?_⟩⟩
    · refine (forall₂_countsAs_iff (fun c hc => ascii_of_isNameChar (hhost.chars c hc)) fun c hc => ?_).2 hname
      exact isStray_of_isNameChar (hchars c (by simp [hc]))
    · rw [countsAsOne_word_iff (hends c hc).2, (hends c hc).1]
      exact Bool.noConfusion
  · rw [hsplit, ← hname]
    exact Host.lower_mem_keys hfree hlast (hhost.of_lower_eq hname) (fun c hc => (hends c hc).1) hmark

/-- A pattern for a host with a dot matches a URL, and has its host among the keys, exactly if the URL's host ends in the
host of the pattern at a label. -/
theorem place_iff (hdot : '.' ∈ host) : Nonempty (HostPlace host u.text) ∧ lower host ∈ Host.keys u.text ↔
    ∃ labels name, u.host.text = labels ++ name ∧ (∀ c ∈ labels.getLast?, c = '.') ∧ lower name = lower host := by
  constructor
  · rintro ⟨⟨x⟩, -⟩
    exact u.exists_of_place hhost hdot x
  · rintro ⟨labels, name, h, hlast, hname⟩
    exact u.place_of_host_eq hhost h hlast hname

/-- Where the pattern has a place in a URL, its host is among the keys. -/
theorem lower_mem_keys (hdot : '.' ∈ host) (x : HostPlace host u.text) : lower host ∈ Host.keys u.text := by
  obtain ⟨labels, name, h, hlast, hname⟩ := u.exists_of_place hhost hdot x
  exact (u.place_of_host_eq hhost h hlast hname).2

/-- A pattern for a host with a dot that can take the scheme of a URL matches the URL exactly if what follows the scheme
starts with the host. -/
theorem isMatch_text_iff (hdot : '.' ∈ host) {matchCase : Bool} {p : Pattern}
    (h : Pattern.ofParts [.hostAnchor, .literal host, .separator] matchCase = .ok p)
    (hscheme : u.schemeText = [] ∨ PatternPart.IsSchemeMark (!matchCase) u.schemeText) : p.isMatch u.text = true ↔
      PatternPart.StartsWithHost (!matchCase) host (u.host.text ++ (u.portText ++ u.tail)) := by
  rw [Pattern.isMatch_anchored_iff h]
  constructor
  · rintro ⟨mark, _, hsplit, hmark, labels, name, rest, rfl, hlabels, hname, hends⟩
    have hcase : List.Forall₂ (CountsAs true) host name := hname.imp fun _ _ h => h.ignoreCase
    have hfree := endsAuthority_labels_name hhost hcase hlabels
    have hbehind := u.behind_eq hfree (dot_mem_of_forall₂ hcase hdot) (hmark.imp_right fun h => h.ignoreCase) hsplit
    exact ⟨labels, name, rest, hbehind.symm, hlabels, hname, hends⟩
  · intro hstarts
    exact ⟨u.schemeText, _, rfl, hscheme, hstarts⟩

end HostUrl

end TrackerAudit
