import TrackerAudit.Text.Basic

/-!
# Domain suffixes and sites

The suffixes of a host are the host itself and its parent domains. A site is a registrable domain: a public suffix
and one label more. A built-in table of two-label suffixes stands for the public suffix list; every single label is
a public suffix as well.
-/

namespace TrackerAudit.Host

open Text

/-- The public suffixes of two labels. -/
def twoLabelSuffixes : List Text :=
  ["com.es", "nom.es", "org.es", "gob.es", "edu.es",
   "co.uk", "org.uk", "gov.uk", "ac.uk",
   "co.jp", "ne.jp", "or.jp", "ac.jp",
   "co.nz", "net.nz", "co.za", "co.in", "co.kr",
   "com.au", "net.au", "org.au", "gov.au",
   "com.br", "com.cn", "com.mx", "com.tw", "com.hk",
   "com.ar", "com.tr", "com.pl"].map String.toList

/-- A single label, or a suffix of the table in any case. -/
def isPublicSuffix (suffix : Text) : Bool :=
  !suffix.isEmpty && (!suffix.contains '.' || twoLabelSuffixes.any (sameNoCase · suffix))

/-- The parent domains of a host, longest first: what follows each of its dots, if that is not empty. -/
def parents : Text → List Text
  | [] => []
  | c :: rest => if c == '.' && !rest.isEmpty then rest :: parents rest else parents rest

/-- The host without its first label; a host without a dot, or with nothing after its first dot, has no parent. -/
def parent? (host : Text) : Option Text :=
  match cutFirst? '.' host with
  | some (_, rest) => if rest.isEmpty then none else some rest
  | none => none

/-- A parent is followed by its own parents, and a host without a parent has none. -/
theorem parents_eq (host : Text) :
    parents host = match parent? host with
      | some parent => parent :: parents parent
      | none => [] := by
  induction host with
  | nil => rfl
  | cons c rest ih =>
    by_cases hc : c = '.'
    · subst hc
      cases rest <;> simp [parents, parent?, cutFirst?]
    · rw [parents, if_neg (by simp [hc]), ih]
      simp only [parent?, cutFirst?, hc, if_false]
      cases cutFirst? '.' rest <;> rfl

/-- The host without outer dots and each of its parent domains, longest first. -/
def suffixes (host : Text) : List Text :=
  let host := trimDots host
  if host.isEmpty then [] else host :: parents host

/-- The site of a host, in small letters: its registrable domain, or the host where that is itself a public
suffix. -/
def registrable (host : Text) : Text :=
  let host := lower (trimDots host)
  ((suffixes host).takeWhile (!isPublicSuffix ·)).getLastD host

/-- Two hosts belong to one site. -/
def sameSite (a b : Text) : Bool := registrable a == registrable b

/-- A request to `host` from a page on `page` leaves the page's site. -/
def isThirdParty (page host : Text) : Bool := !sameSite page host

/-- The rest of `host` after `name`, ignoring the case of ASCII letters. -/
def cutName? : (name host : Text) → Option Text
  | [], host => some host
  | _ :: _, [] => none
  | c :: name, d :: host => if c.toLower = d.toLower then cutName? name host else none

/-- The host is `name` followed by a public suffix. -/
def isEntity (name host : Text) : Bool :=
  match cutName? name host with
  | some ('.' :: suffix) => isPublicSuffix suffix
  | _ => false

/-- A host lies within a domain that is one of its suffixes, and within an entity `name.*` when one of its suffixes
is `name` under a public suffix. -/
def within (host domain : Text) : Bool :=
  match cutEnd? ".*".toList domain with
  | some name => (suffixes host).any (isEntity name)
  | none => (suffixes host).any (sameNoCase · domain)

end TrackerAudit.Host
