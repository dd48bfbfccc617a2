import TrackerAudit.Host.Authority
import TrackerAudit.Host.Suffix

/-!
# Host keys of a request string

The host keys of a request are the hosts that a `||host^` pattern could be about. A `||` pattern starts to match at
the start of the request, after a leading `//`, or after a leading scheme; from each of these places every run of
characters that are no separators, up to the end of the authority, gives itself and its parent domains.
-/

namespace TrackerAudit.Host

open Text

/-- The characters that end a host: all but ASCII letters, digits and `_ - . %`. -/
def isSeparator (c : Char) : Bool := !(isAlnum c || c == '_' || c == '-' || c == '.' || c == '%')

/-- The texts that remain from each place where a `||` pattern may start to match. -/
def anchored (request : Text) : List Text :=
  request ::
    (cutStart? "//".toList request).toList ++
    match cutFirst? ':' request with
    | some (scheme, rest) => if isScheme scheme then rest :: (cutStart? "//".toList rest).toList else []
    | none => []

/-- The runs without separators of the authority that stands at the start of the text, in small letters. -/
def authorityRuns (s : Text) : List Text := ((before endsAuthority s).splitOnP isSeparator).map lower

/-- The host keys of a request, each once, in order of appearance. -/
def keys (request : Text) : List Text :=
  (((anchored request).flatMap authorityRuns).flatMap suffixes).eraseDups

end TrackerAudit.Host
