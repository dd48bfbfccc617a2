import TrackerAudit.Pattern

/-!
# Reading the text of a pattern

The regular expression of a pattern given by its parts is known without reading its text: `regex_ofParts` says that it
is the concatenation of the expressions of the parts (`PatternPart.regexes`). The text of the parts gives the tokens of
one part after another (`Regex.Lexes`), and these tokens put the expressions of one part after another into the innermost
group (`PatternPart.readsAs`). No part starts with a question mark, so a mark at the end of a part keeps its meaning
whatever follows.
-/

namespace TrackerAudit

open Text

namespace Regex

/-! ### Tokens in a row -/

/-- The text reads as the tokens `ts` and then goes on with `rest`; the open groups change from `outer` to `outer'`. -/
def Lexes (outer : List Bool) (s : Text) (ts : List Token) (outer' : List Bool) (rest : Text) : Prop :=
  ∀ fuel, tokensFrom (fuel + ts.length) false outer s = (tokensFrom fuel false outer' rest).map (ts ++ ·)

theorem Lexes.nil {outer : List Bool} {s : Text} : Lexes outer s [] outer s := by
  intro fuel
  cases h : tokensFrom fuel false outer s <;> simp [Except.map]

theorem Lexes.cons {outer outer' outer'' : List Bool} {c : Char} {s s' rest : Text} {t : Token} {ts : List Token}
    (hread : readToken false c s = .ok (t, s')) (hspacing : t.spacing false outer = (false, outer'))
    (h : Lexes outer' s' ts outer'' rest) : Lexes outer (c :: s) (t :: ts) outer'' rest := by
  intro fuel
  rw [List.length_cons, ← Nat.add_assoc, tokensFrom]
  simp only [skip_false, hread, hspacing, bind, Except.bind, h fuel]
  cases tokensFrom fuel false outer'' rest <;> rfl

theorem Lexes.append {outer outer' outer'' : List Bool} {s s' rest : Text} {ts us : List Token}
    (h : Lexes outer s ts outer' s') (h' : Lexes outer' s' us outer'' rest) : Lexes outer s (ts ++ us) outer'' rest := by
  intro fuel
  rw [List.length_append, Nat.add_comm ts.length, ← Nat.add_assoc, h, h']
  cases tokensFrom fuel false outer'' rest <;> simp [Except.map]

theorem tokens_of_lexes {s : Text} {ts : List Token} (h : Lexes [] s ts [] []) (hlen : ts.length ≤ s.length) :
    tokens s = .ok ts := by
  obtain ⟨n, hn⟩ : ∃ n, s.length + 1 = n + 1 + ts.length := ⟨s.length - ts.length, by omega⟩
  rw [tokens, hn, h]
  simp [tokensFrom, Except.map]

/-- A character that is no sign of its own is a token. -/
private theorem readToken_plain {c : Char} {s : Text} (h : isMeta c = false) :
    readToken false c s = .ok (.char c false, s) := by
  unfold readToken
  split
  all_goals first
    | rfl
    | cases h

/-- An escaped sign is a token for itself. -/
private theorem readToken_escaped {c : Char} {s : Text} (h : isMeta c = true) :
    readToken false '\\' (c :: s) = .ok (.char c false, s) := by
  have hc : c ∈ "\\.+*?()|[]\x7b\x7d^$#&-~".toList := List.contains_iff_mem.1 h
  change c ∈ ['\\', '.', '+', '*', '?', '(', ')', '|', '[', ']', '\x7b', '\x7d', '^', '$', '#', '&', '-', '~'] at hc
  simp only [List.mem_cons, List.not_mem_nil, or_false] at hc
  rcases hc with rfl | rfl | rfl | rfl | rfl | rfl | rfl | rfl | rfl | rfl | rfl | rfl | rfl | rfl | rfl | rfl | rfl | rfl
  all_goals rfl

/-- An escaped text has one token per character. -/
theorem lexes_escaped (outer : List Bool) (text rest : Text) :
    Lexes outer (escaped text ++ rest) (text.map (.char · false)) outer rest := by
  induction text with
  | nil => exact .nil
  | cons c text ih =>
    by_cases hc : isMeta c = true
    · rw [escaped, List.flatMap_cons, if_pos hc]
      exact .cons (readToken_escaped hc) rfl ih
    · rw [escaped, List.flatMap_cons, if_neg hc]
      exact .cons (readToken_plain (Bool.eq_false_iff.2 hc)) rfl ih

theorem head?_escaped (text : Text) : (escaped text).head? ≠ some '?' := by
  cases text with
  | nil => decide
  | cons c text =>
    rw [escaped, List.flatMap_cons]
    split
    · simp
    · rename_i hc
      intro h
      obtain rfl : c = '?' := by simpa using h
      exact hc rfl

/-- A question mark would make the repetition before it lazy; anything else leaves it alone. -/
theorem dropLazy_of_head {s : Text} (h : s.head? ≠ some '?') : dropLazy s = s := by
  unfold dropLazy
  split
  · simp at h
  · rfl

/-! ### Expressions in a row -/

/-- Whatever stands around it, the text reads as the expressions `rs` one after another. -/
def ReadsAs (noCase : Bool) (s : Text) (rs : List Regex) : Prop :=
  ∀ rest : Text, rest.head? ≠ some '?' → ∃ ts : List Token,
    (∀ outer, Lexes outer (s ++ rest) ts outer rest) ∧ ts.length ≤ s.length ∧
    ∀ b : Progress, b.modes = { noCase } → ∃ pieces : List Piece,
      ts.foldlM Progress.next b = .ok { b with items := pieces ++ b.items } ∧ (pieces.map (·.regex)).reverse = rs

theorem ReadsAs.nil {noCase : Bool} : ReadsAs noCase [] [] :=
  fun _ _ => ⟨[], fun _ => .nil, Nat.le_refl 0, fun _ _ => ⟨[], rfl, rfl⟩⟩

theorem ReadsAs.append {noCase : Bool} {s s' : Text} {rs rs' : List Regex} (h : ReadsAs noCase s rs)
    (h' : ReadsAs noCase s' rs') (hhead : s'.head? ≠ some '?') : ReadsAs noCase (s ++ s') (rs ++ rs') := by
  intro rest hrest
  have hmid : (s' ++ rest).head? ≠ some '?' := by
    cases s' with
    | nil => exact hrest
    | cons c s' => exact hhead
  obtain ⟨ts, hlex, hlen, hbuild⟩ := h (s' ++ rest) hmid
  obtain ⟨us, hlex', hlen', hbuild'⟩ := h' rest hrest
  refine ⟨ts ++ us, fun outer => ?_, by simp only [List.length_append]; omega, fun b hb => ?_⟩
  · rw [List.append_assoc]
    exact (hlex outer).append (hlex' outer)
  · obtain ⟨pieces, hp, rfl⟩ := hbuild b hb
    obtain ⟨pieces', hp', rfl⟩ := hbuild' { b with items := pieces ++ b.items } hb
    refine ⟨pieces' ++ pieces, ?_, by simp⟩
    rw [List.foldlM_append, hp]
    simpa [bind, Except.bind] using hp'

private theorem regex_concat (pieces : List Piece) :
    (Piece.concat pieces).regex = catList (pieces.map (·.regex)).reverse := by
  rcases pieces with _ | ⟨p, _ | ⟨q, ps⟩⟩
  · rfl
  · rfl
  · simp [Piece.concat]

/-- The expression read from a text is the concatenation of what the text reads as. -/
theorem eq_catList_of_read {noCase : Bool} {s : Text} {rs : List Regex} {r : Regex} (h : ReadsAs noCase s rs)
    (hr : read noCase s = .ok r) : r = catList rs := by
  obtain ⟨ts, hlex, hlen, hbuild⟩ := h [] (by simp)
  obtain ⟨pieces, hp, rfl⟩ := hbuild { modes := { noCase } } rfl
  have htokens : tokens s = .ok ts := tokens_of_lexes (by simpa using hlex []) hlen
  have hpiece : build noCase ts = .ok (Piece.concat pieces) := by
    simp [build, hp, bind, Except.bind, pure, Except.pure, Progress.whole, Piece.choice]
  simp only [read, htokens, hpiece, bind, Except.bind] at hr
  split at hr
  · cases hr
  · split at hr
    · cases hr
    · cases hr
      exact regex_concat pieces

end Regex

/-! ### The parts of a pattern -/

/-- The set of characters, in any case if `noCase`. -/
def CharSet.cased (noCase : Bool) (s : CharSet) : CharSet := if noCase then s.folded else s

namespace PatternPart

open Regex CharSet

/-- The letters that a scheme starts with. -/
def letters : CharSet := .range 'a' 'z'

/-- The characters that a scheme goes on with. -/
def schemeChars : CharSet := ranges [('a', 'z'), ('0', '9'), ('+', '+'), ('.', '.'), ('-', '-')]

/-- The characters that end an authority. -/
def authorityEnds : CharSet := ranges [('/', '/'), ('?', '?'), ('#', '#')]

/-- The characters that are no separators. -/
def wordChars : CharSet :=
  ranges [('a', 'z'), ('A', 'Z'), ('0', '9'), ('_', '_'), ('-', '-'), ('.', '.'), ('%', '%')]

/-- One character, in any case if `noCase`. -/
def charRegex (noCase : Bool) (c : Char) : Regex := .set (cased noCase (single c))

/-- A scheme with its colon, and perhaps two slashes. -/
def schemeRegex (noCase : Bool) : Regex :=
  catList [.set (cased noCase letters), .rep (.set (cased noCase schemeChars)) 0 none, charRegex noCase ':',
    .rep (catList [charRegex noCase '/', charRegex noCase '/']) 0 (some 1)]

/-- Labels before a host, up to a dot. -/
def labelsRegex (noCase : Bool) : Regex :=
  catList [.rep (.set (.compl (cased noCase authorityEnds))) 0 none, charRegex noCase '.']

/-- The expressions of a part, one after another. -/
def regexes (noCase : Bool) : PatternPart → List Regex
  | literal text => text.map (charRegex noCase)
  | wildcard => [.rep (.set (.compl (single '\n'))) 0 none]
  | separator => [.alt (.set (.compl (cased noCase wordChars))) (.look .textEnd)]
  | requestStart => [.look .textStart]
  | requestEnd => [.look .textEnd]
  | hostAnchor => [.look .textStart, .rep (schemeRegex noCase) 0 (some 1), .rep (labelsRegex noCase) 0 (some 1)]

private theorem length_escaped (text : Text) : text.length ≤ (escaped text).length := by
  induction text with
  | nil => exact Nat.le_refl 0
  | cons c text ih =>
    have hc : 1 ≤ (if isMeta c then ['\\', c] else [c]).length := by
      split <;> simp
    rw [escaped, List.flatMap_cons, List.length_append, List.length_cons]
    rw [escaped] at ih
    omega

private theorem build_literal {noCase : Bool} (text : Text) (b : Progress) (hb : b.modes = { noCase }) :
    ∃ pieces : List Piece, (text.map (.char · false)).foldlM Progress.next b = .ok { b with items := pieces ++ b.items } ∧
      (pieces.map (·.regex)).reverse = text.map (charRegex noCase) := by
  induction text generalizing b with
  | nil => exact ⟨[], rfl, rfl⟩
  | cons c text ih =>
    obtain ⟨p, hp, hregex⟩ : ∃ p : Piece, b.next (.char c false) = .ok (b.push p) ∧ p.regex = charRegex noCase c := by
      cases noCase
      · exact ⟨⟨_, 0, charSize c, false⟩, by simp [Progress.next, Progress.pushChar, hb, cased], rfl⟩
      · exact ⟨⟨_, 0, foldedSize c, false⟩, by simp [Progress.next, Progress.pushChar, hb, cased], rfl⟩
    obtain ⟨pieces, hps, hregexes⟩ := ih (b.push p) hb
    refine ⟨pieces ++ [p], ?_, ?_⟩
    · rw [List.map_cons, List.foldlM_cons, hp]
      simpa [bind, Except.bind, Progress.push] using hps
    · simp [hregexes, hregex]

theorem readsAs_literal (noCase : Bool) (text : Text) :
    ReadsAs noCase (literal text).source ((literal text).regexes noCase) := by
  intro rest _
  refine ⟨text.map (.char · false), fun outer => lexes_escaped outer text rest, ?_, build_literal text⟩
  rw [List.length_map]
  exact length_escaped text

theorem readsAs_wildcard (noCase : Bool) : ReadsAs noCase wildcard.source (wildcard.regexes noCase) := by
  intro rest hrest
  have hstar : readToken false '*' rest = .ok (.rep 0 none, rest) := by
    simp only [readToken, dropLazy_of_head hrest]
  refine ⟨[.dot, .rep 0 none], fun outer => .cons rfl rfl (.cons hstar rfl .nil), by decide, ?_⟩
  rintro ⟨_, branches, items, outer, names⟩ rfl
  exact ⟨[_], rfl, rfl⟩

theorem readsAs_requestStart (noCase : Bool) : ReadsAs noCase requestStart.source (requestStart.regexes noCase) := by
  intro rest _
  refine ⟨[.lineStart], fun outer => .cons rfl rfl .nil, by decide, ?_⟩
  rintro ⟨_, branches, items, outer, names⟩ rfl
  exact ⟨[_], rfl, rfl⟩

theorem readsAs_requestEnd (noCase : Bool) : ReadsAs noCase requestEnd.source (requestEnd.regexes noCase) := by
  intro rest _
  refine ⟨[.lineEnd], fun outer => .cons rfl rfl .nil, by decide, ?_⟩
  rintro ⟨_, branches, items, outer, names⟩ rfl
  exact ⟨[_], rfl, rfl⟩

/-- The class with the given members, as it is written. -/
def bracket (negated : Bool) (members : List ClassExpr) : Token :=
  .bracket ⟨.bracket negated (members.foldr .union .empty), 2⟩

/-- A range of characters in a class. -/
def span (first last : Char) : ClassExpr := .range ⟨first, false⟩ ⟨last, false⟩

/-- A character in a class. -/
def member (c : Char) : ClassExpr := .char ⟨c, false⟩

theorem readsAs_separator (noCase : Bool) : ReadsAs noCase separator.source (separator.regexes noCase) := by
  intro rest _
  refine ⟨[.openGroup [], bracket true [span 'a' 'z', span 'A' 'Z', span '0' '9', member '_', member '-', member '.',
    member '%'], .bar, .lineEnd, .close], fun outer => ?_, by decide, ?_⟩
  · exact .cons rfl rfl (.cons rfl rfl (.cons rfl rfl (.cons rfl rfl (.cons rfl rfl .nil))))
  · rintro ⟨_, branches, items, outer, names⟩ rfl
    cases noCase
    · exact ⟨[_], rfl, rfl⟩
    · exact ⟨[_], rfl, rfl⟩

theorem readsAs_hostAnchor (noCase : Bool) : ReadsAs noCase hostAnchor.source (hostAnchor.regexes noCase) := by
  intro rest hrest
  have hmark : readToken false '?' rest = .ok (.rep 0 (some 1), rest) := by
    simp only [readToken, dropLazy_of_head hrest]
  let scheme : List Token := [.openGroup [], .bracket ⟨.bracket false (span 'a' 'z'), 1⟩,
    bracket false [span 'a' 'z', span '0' '9', member '+', member '.', member '-'], .rep 0 none, .char ':' false,
    .openGroup [], .char '/' false, .char '/' false, .close, .rep 0 (some 1), .close, .rep 0 (some 1)]
  let labels : List Token := [.openGroup [], bracket true [member '/', member '?', member '#'], .rep 0 none,
    .char '.' false, .close, .rep 0 (some 1)]
  refine ⟨.lineStart :: scheme ++ labels, fun outer => ?_, by decide, ?_⟩
  · have hlabels : Lexes outer ("(?:[^/?#]*\\.)?".toList ++ rest) labels outer rest :=
      .cons rfl rfl (.cons rfl rfl (.cons rfl rfl (.cons rfl rfl (.cons rfl rfl (.cons hmark rfl .nil)))))
    have hscheme : Lexes outer ("(?:[a-z][a-z0-9+.\\-]*:(?://)?)?".toList ++ ("(?:[^/?#]*\\.)?".toList ++ rest)) scheme outer
        ("(?:[^/?#]*\\.)?".toList ++ rest) :=
      .cons rfl rfl (.cons rfl rfl (.cons rfl rfl (.cons rfl rfl (.cons rfl rfl (.cons rfl rfl (.cons rfl rfl
        (.cons rfl rfl (.cons rfl rfl (.cons rfl rfl (.cons rfl rfl (.cons rfl rfl .nil)))))))))))
    exact .cons rfl rfl (hscheme.append hlabels)
  · rintro ⟨_, branches, items, outer, names⟩ rfl
    cases noCase
    · exact ⟨[_, _, _], rfl, rfl⟩
    · exact ⟨[_, _, _], rfl, rfl⟩

theorem readsAs (noCase : Bool) (p : PatternPart) : ReadsAs noCase p.source (p.regexes noCase) := by
  cases p with
  | literal text => exact readsAs_literal noCase text
  | wildcard => exact readsAs_wildcard noCase
  | separator => exact readsAs_separator noCase
  | requestStart => exact readsAs_requestStart noCase
  | requestEnd => exact readsAs_requestEnd noCase
  | hostAnchor => exact readsAs_hostAnchor noCase

theorem head?_source (p : PatternPart) : p.source.head? ≠ some '?' := by
  cases p with
  | literal text => exact head?_escaped text
  | _ => decide

theorem head?_flatMap_source (parts : List PatternPart) : (parts.flatMap source).head? ≠ some '?' := by
  induction parts with
  | nil => simp
  | cons p parts ih =>
    rw [List.flatMap_cons]
    cases hp : p.source with
    | nil => exact ih
    | cons c s =>
      have := head?_source p
      rw [hp] at this
      simpa using this

/-- The text of a row of parts reads as the expressions of the parts one after another. -/
theorem readsAs_flatMap (noCase : Bool) (parts : List PatternPart) :
    ReadsAs noCase (parts.flatMap source) (parts.flatMap (regexes noCase)) := by
  induction parts with
  | nil => exact .nil
  | cons p parts ih =>
    rw [List.flatMap_cons, List.flatMap_cons]
    exact (readsAs noCase p).append ih (head?_flatMap_source parts)

end PatternPart

/-- A pattern given by its parts has the expressions of the parts one after another. -/
theorem Pattern.regex_ofParts {parts : List PatternPart} {matchCase : Bool} {p : Pattern}
    (h : Pattern.ofParts parts matchCase = .ok p) :
    p.regex = Regex.catList (parts.flatMap (PatternPart.regexes (!matchCase))) := by
  unfold Pattern.ofParts Pattern.ofSource at h
  split at h
  · rename_i r hr
    cases h
    exact Regex.eq_catList_of_read (PatternPart.readsAs_flatMap _ parts) hr
  · cases h

end TrackerAudit
