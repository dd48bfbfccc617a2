import TrackerAudit.Text.Basic

/-!
# The host of a request string

A request string is a URL, a URL without its scheme (`//cdn.example.com/x.js`), a bare `host/path`, or a cookie
domain such as `.example.com`. Its authority is what stands between the scheme and the path, and its host is the
authority without user information, without a `:` and what follows it, and without outer dots, provided that looks like
a domain.
-/

namespace TrackerAudit.Host

open Text

/-- A scheme is a letter followed by letters, digits, `+`, `-` and `.`. -/
def isScheme : Text → Bool
  | [] => false
  | c :: rest => c.isAlpha && rest.all fun d => isAlnum d || d == '+' || d == '-' || d == '.'

/-- The characters that end an authority. -/
def endsAuthority (c : Char) : Bool := c == '/' || c == '?' || c == '#'

/-- What stands before and after the first `://`, if it occurs. -/
def cutSchemeMark? : Text → Option (Text × Text)
  | [] => none
  | c :: s =>
    match cutStart? "://".toList (c :: s) with
    | some rest => some ([], rest)
    | none => (cutSchemeMark? s).map fun lr => (c :: lr.1, lr.2)

/-- The text after `scheme://`, or after a leading `//`, or all of it. Only the first `://` may end a scheme. -/
def dropScheme (request : Text) : Text :=
  let relative := (cutStart? "//".toList request).getD request
  match cutSchemeMark? request with
  | some (scheme, rest) => if isScheme scheme then rest else relative
  | none => relative

/-- The authority of a request string: user information, the host, and what follows the host after a `:`. -/
def authority (request : Text) : Text := before endsAuthority (dropScheme request)

/-- ASCII letters, digits, `-` and `.`, with a dot among them. -/
def looksLikeDomain (host : Text) : Bool :=
  host.contains '.' && host.all fun c => isAlnum c || c == '.' || c == '-'

/-- The host of a request string, if it has one that looks like a domain. -/
def requestHost? (request : Text) : Option Text :=
  let authority := authority (trim request)
  let withoutUser := ((cutLast? '@' authority).map (·.2)).getD authority
  let host := trimDots (before (· == ':') withoutUser)
  if looksLikeDomain host then some host else none

end TrackerAudit.Host
